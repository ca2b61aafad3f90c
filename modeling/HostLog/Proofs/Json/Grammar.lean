import HostLog.Json.Reader
import HostLog.Proofs.Json.Spelling
import Mathlib.Data.List.TakeWhile

/-!
# Grammar of documents

Which texts write which values: a string is a spelling between quotes, a sequence has elements and
an object has members between commas, and space may stand around every token. What the elements and
the values of the members look like is left open. A reader accepts a form of text if it takes that
and nothing else, with space before it (`Reader.Accepts`). Strings, sequences and objects are
accepted if their parts are (`Reader.accepts_text`, `Reader.accepts_list`,
`Reader.accepts_members`), and so are whole documents (`Reader.decode_eq_ok_iff`).
-/

namespace HostLog.Json

/-- The characters that may stand between tokens. -/
def spaces : List Char := [' ', '\n', '\t', '\r']

def Space (w : List Char) : Prop := ∀ c ∈ w, c ∈ spaces

variable {α : Type} {F : List Char → α → Prop}

/-- `F` with space around it. -/
inductive Padded (F : List Char → α → Prop) : List Char → α → Prop
  | intro {w t w' : List Char} {a : α} (left : Space w) (form : F t a) (right : Space w') :
      Padded F (w ++ (t ++ w')) a

/-- One `F` or more, with commas between them. -/
inductive Separated (F : List Char → α → Prop) : List Char → List α → Prop
  | last {t : List Char} {a : α} (form : F t a) : Separated F t [a]
  | cons {t s : List Char} {a : α} {as : List α} (form : F t a) (tail : Separated F s as) :
      Separated F (t ++ ',' :: s) (a :: as)

inductive Quoted : List Char → String → Prop
  | intro {t cs : List Char} (spells : Spells t cs) :
      Quoted ('"' :: (t ++ ['"'])) (String.ofList cs)

/-- A key and a value, with a colon between them. -/
inductive Member (F : List Char → α → Prop) : List Char → String × α → Prop
  | intro {k w w' t : List Char} {name : String} {a : α} (key : Quoted k name) (left : Space w)
      (right : Space w') (value : F t a) : Member F (k ++ (w ++ ':' :: (w' ++ t))) (name, a)

inductive Object (F : List Char → α → Prop) : List Char → List (String × α) → Prop
  | empty {w : List Char} (space : Space w) : Object F ('\x7b' :: (w ++ ['\x7d'])) []
  | members {t : List Char} {ms : List (String × α)}
      (members : Separated (Padded (Member F)) t ms) : Object F ('\x7b' :: (t ++ ['\x7d'])) ms

inductive Sequence (F : List Char → α → Prop) : List Char → List α → Prop
  | empty {w : List Char} (space : Space w) : Sequence F ('[' :: (w ++ [']'])) []
  | elements {t : List Char} {as : List α} (elements : Separated (Padded F) t as) :
      Sequence F ('[' :: (t ++ [']'])) as

/-- What `r` takes after space is what `F` allows, with the value that it gives to it. -/
structure Reader.Accepts (r : Reader α) (F : List Char → α → Prop) : Prop where
  read_iff {s : List Char} {a : α} {rest : List Char} :
    r.read s = .ok (a, rest) ↔ ∃ w t, s = w ++ (t ++ rest) ∧ Space w ∧ F t a

/-! ### Space -/

theorem isSpace_iff {c : Char} : isSpace c ↔ c ∈ spaces := by
  simp [isSpace, spaces, or_assoc]

theorem space_nil : Space [] := by simp [Space]

theorem Space.append {w w' : List Char} (h : Space w) (h' : Space w') : Space (w ++ w') := by
  intro c hc
  rcases List.mem_append.1 hc with hc | hc
  · exact h c hc
  · exact h' c hc

theorem skipSpace_append {w : List Char} (hw : Space w) (s : List Char) :
    skipSpace (w ++ s) = skipSpace s := by
  unfold skipSpace
  rw [List.dropWhile_append_of_pos]
  exact fun c hc => isSpace_iff.2 (hw c hc)

theorem skipSpace_cons {c : Char} (hc : c ∉ spaces) (s : List Char) :
    skipSpace (c :: s) = c :: s := by
  unfold skipSpace
  rw [List.dropWhile_cons_of_neg (mt isSpace_iff.1 hc)]

/-- What is passed over is space. -/
theorem exists_append_skipSpace (s : List Char) : ∃ w, s = w ++ skipSpace s ∧ Space w := by
  refine ⟨s.takeWhile isSpace, (List.takeWhile_append_dropWhile).symm, fun c hc => ?_⟩
  exact isSpace_iff.1 (List.mem_takeWhile_imp hc)

theorem startValue_append {w : List Char} {c : Char} (hw : Space w)
    (hc : c ∉ spaces) (r : List Char) : startValue (w ++ c :: r) = .ok (c :: r) := by
  rw [startValue, skipSpace_append hw, skipSpace_cons hc]

theorem exists_of_startValue {s r : List Char} (h : startValue s = .ok r) :
    ∃ w, s = w ++ r ∧ Space w := by
  unfold startValue at h
  split at h
  · cases h
  · cases h; exact exists_append_skipSpace s

theorem readColon_eq_ok_iff {s rest : List Char} :
    readColon s = .ok rest ↔ ∃ w, s = w ++ ':' :: rest ∧ Space w := by
  constructor
  · intro h
    obtain ⟨w, hs, hw⟩ := exists_append_skipSpace s
    unfold readColon at h
    split at h
    · next r hr => cases h; exact ⟨w, by rw [← hr, ← hs], hw⟩
    · cases h
    · cases h
  · rintro ⟨w, rfl, hw⟩
    rw [readColon, skipSpace_append hw, skipSpace_cons (by decide)]
    rfl

/-! ### Items of a sequence or an object

`Items` is the same list of items as between the brackets of the grammar, cut up in the way in which
it is read: what stands before an item, its comma included, belongs to it.
-/

inductive Items (F : List Char → α → Prop) : Bool → List Char → List α → Prop
  | close {first : Bool} {w : List Char} (space : Space w) : Items F first w []
  | first {w t s : List Char} {a : α} {as : List α} (space : Space w) (item : F t a)
      (tail : Items F false s as) : Items F true (w ++ (t ++ s)) (a :: as)
  | later {w w' t s : List Char} {a : α} {as : List α} (left : Space w) (right : Space w')
      (item : F t a) (tail : Items F false s as) :
      Items F false (w ++ ',' :: (w' ++ (t ++ s))) (a :: as)

theorem Items.separated {s t w : List Char} {a : α} {as : List α} (hw : Space w) (ha : F t a)
    (h : Items F false s as) : Separated (Padded F) (w ++ (t ++ s)) (a :: as) := by
  generalize hfirst : false = first at h
  -- the space before the next comma or the end is what the item before it has on its right
  induction h generalizing w t a with
  | close hs => exact .last (.intro hw ha hs)
  | first => cases hfirst
  | @later v v' u s b bs hv hv' hb _ ih =>
    have h := Separated.cons (.intro hw ha hv) (ih hv' hb rfl)
    rwa [List.append_assoc, List.append_assoc] at h

theorem items_of_separated {t : List Char} {as : List α} (h : Separated (Padded F) t as) :
    Items F true t as ∧ as ≠ [] := by
  induction h with
  | last h =>
    cases h with
    | intro hw ha hw' => exact ⟨.first hw ha (.close hw'), List.cons_ne_nil _ _⟩
  | @cons t s a as h _ ih =>
    obtain ⟨hitems, hne⟩ := ih
    refine ⟨?_, List.cons_ne_nil _ _⟩
    cases h with
    | @intro w t w' _ hw ha hw' =>
      cases hitems with
      | close => exact absurd rfl hne
      | first hv hb htail =>
        have h := Items.first hw ha (.later hw' hv hb htail)
        rwa [← List.append_assoc t, ← List.append_assoc w] at h

theorem items_iff {t : List Char} {as : List α} :
    Items F true t as ↔ Space t ∧ as = [] ∨ Separated (Padded F) t as := by
  constructor
  · intro h
    cases h with
    | close hw => exact .inl ⟨hw, rfl⟩
    | first hw ha htail => exact .inr (htail.separated hw ha)
  · rintro (⟨hw, rfl⟩ | h)
    · exact .close hw
    · exact (items_of_separated h).1

/-! ### Objects -/

theorem Member.begins {t : List Char} {m : String × α} (h : Member F t m) : ∃ u, t = '"' :: u := by
  obtain ⟨⟨-⟩, -, -, -⟩ := h
  exact ⟨_, rfl⟩

/-- What comes next in an object: its end, or a key of which the opening quote has been passed. -/
inductive KeyComes : Bool → List Char → Bool → List Char → Prop
  | close {first : Bool} {w rest : List Char} (space : Space w) :
      KeyComes first (w ++ '\x7d' :: rest) false ('\x7d' :: rest)
  | first {w r : List Char} (space : Space w) : KeyComes true (w ++ '"' :: r) true r
  | later {w w' r : List Char} (left : Space w) (right : Space w') :
      KeyComes false (w ++ ',' :: (w' ++ '"' :: r)) true r

theorem nextKey_eq_ok_iff {first more : Bool} {s r : List Char} :
    nextKey first s = .ok (more, r) ↔ KeyComes first s more r := by
  constructor
  · intro h
    obtain ⟨w, hs, hw⟩ := exists_append_skipSpace s
    unfold nextKey at h
    split at h
    · cases h
    · next rest hr => cases h; rw [hs, hr]; exact .close hw
    · next c rest _ hr =>
      rw [hr] at hs
      split at h
      · next hfirst =>
        subst hfirst
        split at h
        · next hc => cases h; rw [hs, hc]; exact .first hw
        · cases h
      · next hfirst =>
        rw [Bool.not_eq_true] at hfirst
        subst hfirst
        split at h
        · next hc =>
          obtain ⟨w', hrest, hw'⟩ := exists_append_skipSpace rest
          split at h
          · cases h
          · next hr' => cases h; rw [hs, hc, hrest, hr']; exact .later hw hw'
          · cases h
          · cases h
        · cases h
  · rintro (hw | hw | ⟨hw, hw'⟩)
    · rw [nextKey, skipSpace_append hw, skipSpace_cons (by decide)]
      rfl
    · rw [nextKey, skipSpace_append hw, skipSpace_cons (by decide)]
      rfl
    · have hquote := skipSpace_append hw' ('"' :: r)
      rw [skipSpace_cons (by decide)] at hquote
      rw [nextKey, skipSpace_append hw, skipSpace_cons (by decide)]
      simp [hquote]

theorem object_iff {t : List Char} {ms : List (String × α)} : Object F t ms ↔
    ∃ u, t = '\x7b' :: (u ++ ['\x7d']) ∧ Items (Member F) true u ms := by
  constructor
  · intro h
    cases h with
    | empty hw => exact ⟨_, rfl, items_iff.2 (.inl ⟨hw, rfl⟩)⟩
    | members hsep => exact ⟨_, rfl, items_iff.2 (.inr hsep)⟩
  · rintro ⟨u, rfl, hitems⟩
    rcases items_iff.1 hitems with ⟨hw, rfl⟩ | hsep
    · exact .empty hw
    · exact .members hsep

namespace Reader

variable {r : Reader α}

theorem accepts_text : text.Accepts Quoted := by
  refine ⟨fun {s a rest} => ?_⟩
  constructor
  · intro h
    obtain ⟨r, hr, h'⟩ := exists_of_bind_eq_ok h
    obtain ⟨w, hs, hw⟩ := exists_of_startValue hr
    split at h'
    · obtain ⟨⟨cs, r'⟩, hp, h''⟩ := exists_of_map_eq_ok h'
      cases h''
      obtain ⟨t, rfl, ht⟩ := spells_of_readString hp
      exact ⟨w, '"' :: (t ++ ['"']), by simp [hs], hw, .intro ht⟩
    · cases h'
  · rintro ⟨w, _, rfl, hw, ⟨ht⟩⟩
    show readText _ = _
    rw [readText, List.cons_append, startValue_append hw (by decide), List.append_assoc]
    show (readString _).map _ = _
    rw [List.singleton_append, readString_of_spells ht]
    rfl

theorem readMembers_of_close {first : Bool} {s t : List Char}
    (h : nextKey first s = .ok (false, t)) : readMembers r first s = .ok ([], t.drop 1) := by
  fun_cases readMembers r first s with
  | case2 _ hf => cases h.symm.trans hf; rfl
  | case1 _ hf | case3 _ hf | case4 _ hf | case5 _ hf | case6 _ hf => cases h.symm.trans hf

theorem readMembers_of_member {first : Bool} {s t t' t'' rest key : List Char} {a : α}
    (hk : nextKey first s = .ok (true, t)) (hs : readString t = .ok (key, t'))
    (hc : readColon t' = .ok t'') (hv : r.read t'' = .ok (a, rest)) :
    readMembers r first s =
      (readMembers r false rest).map fun (ms, rest) => ((String.ofList key, a) :: ms, rest) := by
  fun_cases readMembers r first s with
  | case1 _ hf | case2 _ hf => cases hk.symm.trans hf
  | case3 _ hf _ hf' =>
    cases hk.symm.trans hf
    cases hs.symm.trans hf'
  | case4 _ hf _ _ hf' _ hf'' =>
    cases hk.symm.trans hf
    cases hs.symm.trans hf'
    cases hc.symm.trans hf''
  | case5 _ hf _ _ hf' _ hf'' _ hf₃ =>
    cases hk.symm.trans hf
    cases hs.symm.trans hf'
    cases hc.symm.trans hf''
    cases hv.symm.trans hf₃
  | case6 _ hf _ _ hf' _ hf'' _ _ hf₃ =>
    cases hk.symm.trans hf
    cases hs.symm.trans hf'
    cases hc.symm.trans hf''
    cases hv.symm.trans hf₃
    rfl

theorem exists_member {s t t' rest key : List Char} {a : α} (h : r.Accepts F)
    (hs : readString s = .ok (key, t)) (hc : readColon t = .ok t')
    (hv : r.read t' = .ok (a, rest)) :
    ∃ u, '"' :: s = u ++ rest ∧ Member F u (String.ofList key, a) := by
  obtain ⟨k, rfl, hk⟩ := spells_of_readString hs
  obtain ⟨w, rfl, hw⟩ := readColon_eq_ok_iff.1 hc
  obtain ⟨w', v, rfl, hw', hF⟩ := h.read_iff.1 hv
  exact ⟨'"' :: (k ++ ['"']) ++ (w ++ ':' :: (w' ++ v)), by simp, .intro (.intro hk) hw hw' hF⟩

theorem readMembers_of_form {first : Bool} {s u t : List Char} {m : String × α} (h : r.Accepts F)
    (hk : nextKey first s = .ok (true, u ++ t)) (hm : Member F ('"' :: u) m) :
    readMembers r first s =
      (readMembers r false t).map fun (ms, rest) => (m :: ms, rest) := by
  generalize hu : '"' :: u = v at hm
  cases hm with
  | @intro _ w w' x _ a hkey hw hw' hx =>
    cases hkey with
    | @intro k cs hspells =>
      obtain ⟨-, rfl⟩ := List.cons.inj hu
      have hcolon : readColon (w ++ ':' :: (w' ++ (x ++ t))) = .ok (w' ++ (x ++ t)) :=
        readColon_eq_ok_iff.2 ⟨w, rfl, hw⟩
      refine readMembers_of_member ?_ (readString_of_spells hspells _) hcolon
        (h.read_iff.2 ⟨w', x, rfl, hw', hx⟩)
      simpa using hk

theorem readMembers_of_items {first : Bool} {t : List Char} {ms : List (String × α)}
    (h : r.Accepts F) (hms : Items (Member F) first t ms) (rest : List Char) :
    readMembers r first (t ++ '\x7d' :: rest) = .ok (ms, rest) := by
  induction hms with
  | close hw => rw [readMembers_of_close (nextKey_eq_ok_iff.2 (.close hw))]; rfl
  | first hw hm _ ih =>
    obtain ⟨u, rfl⟩ := hm.begins
    rw [List.append_assoc, List.append_assoc, List.cons_append,
      readMembers_of_form h (nextKey_eq_ok_iff.2 (.first hw)) hm, ih]
    rfl
  | later hw hw' hm _ ih =>
    obtain ⟨u, rfl⟩ := hm.begins
    rw [List.append_assoc, List.cons_append, List.append_assoc, List.append_assoc,
      List.cons_append, readMembers_of_form h (nextKey_eq_ok_iff.2 (.later hw hw')) hm, ih]
    rfl

theorem items_of_readMembers {first : Bool} {s rest : List Char} {ms : List (String × α)}
    (h : r.Accepts F) (hr : readMembers r first s = .ok (ms, rest)) :
    ∃ t, s = t ++ '\x7d' :: rest ∧ Items (Member F) first t ms := by
  fun_induction readMembers r first s generalizing ms rest with
  | case2 first s s' hk =>
    cases hr
    cases nextKey_eq_ok_iff.1 hk with
    | @close _ w rest hw => exact ⟨w, rfl, .close hw⟩
  | case6 first s s' hk key t hs t' hc a t'' hv _ _ _ _ ih =>
    obtain ⟨⟨ns, _⟩, hns, hr⟩ := exists_of_map_eq_ok hr
    cases hr
    obtain ⟨u, hu, hmember⟩ := exists_member h hs hc hv
    obtain ⟨v, rfl, hitems⟩ := ih hns
    cases nextKey_eq_ok_iff.1 hk with
    | @first w _ hw => exact ⟨w ++ (u ++ v), by simp [hu], .first hw hmember hitems⟩
    | @later w w' _ hw hw' =>
      exact ⟨w ++ ',' :: (w' ++ (u ++ v)), by simp [hu], .later hw hw' hmember hitems⟩
  | _ => cases hr

theorem accepts_members (h : r.Accepts F) : (members r).Accepts (Object F) := by
  refine ⟨fun {s ms rest} => ?_⟩
  constructor
  · intro hr
    obtain ⟨s', hs', hr'⟩ := exists_of_bind_eq_ok hr
    obtain ⟨w, hs, hw⟩ := exists_of_startValue hs'
    split at hr'
    · obtain ⟨t, rfl, hitems⟩ := items_of_readMembers h hr'
      exact ⟨w, '\x7b' :: (t ++ ['\x7d']), by simp [hs], hw, object_iff.2 ⟨t, rfl, hitems⟩⟩
    · cases hr'
  · rintro ⟨w, t, rfl, hw, hms⟩
    obtain ⟨u, rfl, hitems⟩ := object_iff.1 hms
    show startValue _ >>= _ = _
    rw [List.cons_append, startValue_append hw (by decide), List.append_assoc]
    exact readMembers_of_items h hitems rest

end Reader

/-! ### Sequences -/

/-- What comes next in a sequence: its end, or what has to be an element. -/
inductive ElementComes : Bool → List Char → Bool → List Char → Prop
  | close {first : Bool} {w rest : List Char} (space : Space w) :
      ElementComes first (w ++ ']' :: rest) false (']' :: rest)
  | first {w r : List Char} (space : Space w) : ElementComes true (w ++ r) true r
  | later {w w' r : List Char} (left : Space w) (right : Space w') :
      ElementComes false (w ++ ',' :: (w' ++ r)) true r

theorem elementComes_of_nextElement {first more : Bool} {s r : List Char}
    (h : nextElement first s = .ok (more, r)) : ElementComes first s more r := by
  obtain ⟨w, hs, hw⟩ := exists_append_skipSpace s
  unfold nextElement at h
  split at h
  · cases h
  · next rest hr => cases h; rw [hs, hr]; exact .close hw
  · next c rest _ hr =>
    rw [hr] at hs
    split at h
    · next hfirst => cases h; rw [hs, hfirst]; exact .first hw
    · next hfirst =>
      rw [Bool.not_eq_true] at hfirst
      split at h
      · next hc =>
        obtain ⟨w', hrest, hw'⟩ := exists_append_skipSpace rest
        split at h
        · cases h
        · cases h
        · cases h
          have hlater := ElementComes.later hw hw' (r := skipSpace rest)
          rw [← hrest] at hlater
          rw [hs, hc, hfirst]
          exact hlater
      · cases h

theorem sequence_iff {t : List Char} {as : List α} : Sequence F t as ↔
    ∃ u, t = '[' :: (u ++ [']']) ∧ Items F true u as := by
  constructor
  · intro h
    cases h with
    | empty hw => exact ⟨_, rfl, items_iff.2 (.inl ⟨hw, rfl⟩)⟩
    | elements hsep => exact ⟨_, rfl, items_iff.2 (.inr hsep)⟩
  · rintro ⟨u, rfl, hitems⟩
    rcases items_iff.1 hitems with ⟨hw, rfl⟩ | hsep
    · exact .empty hw
    · exact .elements hsep

/-- An element cannot begin with a space or with the closing bracket. -/
def Begins (F : List Char → α → Prop) : Prop :=
  ∀ {t : List Char} {a : α}, F t a → ∃ c u, t = c :: u ∧ c ∉ spaces ∧ c ≠ ']'

theorem begins_quoted : Begins Quoted := by
  rintro _ _ ⟨-⟩
  exact ⟨'"', _, rfl, by decide, by decide⟩

section

variable {w w' r : List Char} {c : Char}

theorem nextElement_close (hw : Space w) (first : Bool) (rest : List Char) :
    nextElement first (w ++ ']' :: rest) = .ok (false, ']' :: rest) := by
  rw [nextElement, skipSpace_append hw, skipSpace_cons (by decide)]
  rfl

theorem nextElement_first (hw : Space w) (hc : c ∉ spaces) (hne : c ≠ ']') :
    nextElement true (w ++ c :: r) = .ok (true, c :: r) := by
  rw [nextElement, skipSpace_append hw, skipSpace_cons hc]
  simp

theorem nextElement_later (hw : Space w) (hw' : Space w') (hc : c ∉ spaces)
    (hne : c ≠ ']') : nextElement false (w ++ ',' :: (w' ++ c :: r)) = .ok (true, c :: r) := by
  rw [nextElement, skipSpace_append hw, skipSpace_cons (by decide)]
  simp [skipSpace_append hw', skipSpace_cons hc, hne]

end

namespace Reader

variable {r : Reader α}

theorem readElements_of_close {first : Bool} {s t : List Char}
    (h : nextElement first s = .ok (false, t)) : readElements r first s = .ok ([], t.drop 1) := by
  fun_cases readElements r first s with
  | case2 _ hf => cases h.symm.trans hf; rfl
  | case1 _ hf | case3 _ hf | case4 _ hf => cases h.symm.trans hf

theorem readElements_of_form {first : Bool} {c : Char} {s t u : List Char} {a : α}
    (h : r.Accepts F) (he : nextElement first s = .ok (true, c :: (u ++ t))) (ha : F (c :: u) a) :
    readElements r first s = (readElements r false t).map fun (as, rest) => (a :: as, rest) := by
  have hread : r.read (c :: (u ++ t)) = .ok (a, t) :=
    h.read_iff.2 ⟨[], c :: u, rfl, space_nil, ha⟩
  fun_cases readElements r first s with
  | case1 _ hf | case2 _ hf => cases he.symm.trans hf
  | case3 _ hf _ hf' =>
    cases he.symm.trans hf
    cases hread.symm.trans hf'
  | case4 _ hf _ _ hf' =>
    cases he.symm.trans hf
    cases hread.symm.trans hf'
    rfl

theorem readElements_of_items {first : Bool} {t : List Char} {as : List α} (h : r.Accepts F)
    (hF : Begins F) (has : Items F first t as) (rest : List Char) :
    readElements r first (t ++ ']' :: rest) = .ok (as, rest) := by
  induction has with
  | close hw => rw [readElements_of_close (nextElement_close hw _ _)]; rfl
  | first hw ha _ ih =>
    obtain ⟨c, u, rfl, hc, hne⟩ := hF ha
    rw [List.append_assoc, List.append_assoc, List.cons_append,
      readElements_of_form h (nextElement_first hw hc hne) ha, ih]
    rfl
  | later hw hw' ha _ ih =>
    obtain ⟨c, u, rfl, hc, hne⟩ := hF ha
    rw [List.append_assoc, List.cons_append, List.append_assoc, List.append_assoc,
      List.cons_append, readElements_of_form h (nextElement_later hw hw' hc hne) ha, ih]
    rfl

theorem items_of_readElements {first : Bool} {s rest : List Char} {as : List α}
    (h : r.Accepts F) (hr : readElements r first s = .ok (as, rest)) :
    ∃ t, s = t ++ ']' :: rest ∧ Items F first t as := by
  fun_induction readElements r first s generalizing as rest with
  | case2 first s s' he =>
    cases hr
    cases elementComes_of_nextElement he with
    | @close _ w rest hw => exact ⟨w, rfl, .close hw⟩
  | case4 first s s' he a s'' hv _ _ ih =>
    obtain ⟨⟨bs, _⟩, hbs, hr⟩ := exists_of_map_eq_ok hr
    cases hr
    obtain ⟨v, u, rfl, hspace, ha⟩ := h.read_iff.1 hv
    obtain ⟨t, rfl, hitems⟩ := ih hbs
    cases elementComes_of_nextElement he with
    | @first w _ hw => exact ⟨w ++ v ++ (u ++ t), by simp, .first (hw.append hspace) ha hitems⟩
    | @later w w' _ hw hw' =>
      exact ⟨w ++ ',' :: (w' ++ v ++ (u ++ t)), by simp, .later hw (hw'.append hspace) ha hitems⟩
  | _ => cases hr

theorem accepts_list (h : r.Accepts F) (hF : Begins F) : (list r).Accepts (Sequence F) := by
  refine ⟨fun {s as rest} => ?_⟩
  constructor
  · intro hr
    obtain ⟨s', hs', hr'⟩ := exists_of_bind_eq_ok hr
    obtain ⟨w, hs, hw⟩ := exists_of_startValue hs'
    split at hr'
    · obtain ⟨t, rfl, hitems⟩ := items_of_readElements h hr'
      exact ⟨w, '[' :: (t ++ [']']), by simp [hs], hw, sequence_iff.2 ⟨t, rfl, hitems⟩⟩
    · cases hr'
  · rintro ⟨w, t, rfl, hw, has⟩
    obtain ⟨u, rfl, hitems⟩ := sequence_iff.1 has
    show startValue _ >>= _ = _
    rw [List.cons_append, startValue_append hw (by decide), List.append_assoc]
    exact readElements_of_items h hF hitems rest

/-! ### Documents -/

theorem decode_map {β : Type} (f : α → β) (r : Reader α) (document : String) :
    (r.map f).decode document = (r.decode document).map f := by
  have hmap : (r.map f).read document.toList =
      (r.read document.toList).map fun p => (f p.1, p.2) := rfl
  rw [decode, decode, hmap]
  cases r.read document.toList with
  | error fault => rfl
  | ok p =>
    dsimp only [Except.map]
    cases skipSpace p.2 <;> rfl

/-- A document is decoded exactly if it is of the form that the reader accepts, with nothing but
space around it. -/
theorem decode_eq_ok_iff {document : String} {a : α} (h : r.Accepts F) :
    r.decode document = .ok a ↔ Padded F document.toList a := by
  constructor
  · intro hd
    unfold decode at hd
    split at hd
    · cases hd
    · next b rest hr =>
      split at hd
      · next hrest =>
        cases hd
        obtain ⟨w, t, hs, hw, ha⟩ := h.read_iff.1 hr
        obtain ⟨w', hrest', hw'⟩ := exists_append_skipSpace rest
        rw [hrest, List.append_nil] at hrest'
        rw [hs, hrest']
        exact .intro hw ha hw'
      · cases hd
  · intro hp
    generalize hs : document.toList = s at hp
    obtain ⟨hw, ha, hw'⟩ := hp
    have hskip := skipSpace_append hw' []
    rw [List.append_nil] at hskip
    rw [decode, hs, h.read_iff.2 ⟨_, _, rfl, hw, ha⟩]
    dsimp only
    rw [hskip]
    rfl

end Reader

end HostLog.Json
