import HostLog.Json.Record
import HostLog.Json.Strings
import HostLog.Proofs.Json.Grammar

/-!
# Written documents are read back

A written string, sequence or object is of the form that the grammar gives it. After a value there
is space, a comma, a closing bracket or the end (`Closed`), which numbers need, since nothing of
their own ends them; `Reader.Takes` says that a reader reads a certain text so, whatever follows. A
record is taken from an object whose members fill its fields one after the other
(`Shape.takes_of_fills`).
-/

namespace HostLog.Json

variable {α : Type} {F : List Char → α → Prop}

/-! ### Forms of what is written -/

theorem padded_self {t : List Char} {a : α} (h : F t a) : Padded F t a := by
  have hp := Padded.intro space_nil h space_nil
  rwa [List.nil_append, List.append_nil] at hp

theorem separated_intercalate {f : α → List Char} {as : List α} (hf : ∀ a ∈ as, F (f a) a)
    (has : as ≠ []) : Separated (Padded F) ([','].intercalate (as.map f)) as := by
  induction as with
  | nil => exact absurd rfl has
  | cons a as ih =>
    obtain ⟨ha, hf⟩ := List.forall_mem_cons.1 hf
    cases as with
    | nil => rw [List.map_singleton, List.intercalate_singleton]; exact .last (padded_self ha)
    | cons b bs =>
      rw [List.map_cons, List.intercalate_cons_of_ne_nil (by simp), List.append_assoc]
      exact .cons (padded_self ha) (ih hf (by simp))

theorem toList_writeString (s : String) :
    (writeString s).toList = '"' :: (s.toList.flatMap escapeChar ++ ['"']) := by
  rw [writeString, String.toList_ofList]

theorem quoted_writeString (s : String) : Quoted (writeString s).toList s := by
  have h := Quoted.intro (spells_flatMap_escapeChar s.toList)
  rwa [String.ofList_toList, ← toList_writeString] at h

theorem sequence_writeList {f : α → String} (hf : ∀ a, F (f a).toList a) (as : List α) :
    Sequence F (writeList (as.map f)).toList as := by
  have htext : (writeList (as.map f)).toList =
      '[' :: ([','].intercalate (as.map fun a => (f a).toList) ++ [']']) := by
    simp [writeList, Function.comp_def]
  rw [htext]
  cases as with
  | nil => exact .empty space_nil
  | cons a as => exact .elements (separated_intercalate (fun a _ => hf a) (by simp))

theorem object_writeObject {f : α → String} (hf : ∀ a, F (f a).toList a)
    (ms : List (String × α)) : Object F (writeObject (ms.map fun m => (m.1, f m.2))).toList ms := by
  have htext : (writeObject (ms.map fun m => (m.1, f m.2))).toList =
      '\x7b' :: ([','].intercalate
        (ms.map fun m => (writeString m.1).toList ++ ([] ++ ':' :: ([] ++ (f m.2).toList))) ++
          ['\x7d']) := by
    simp [writeObject, Function.comp_def]
  have hmember (m : String × α) : Member F
      ((writeString m.1).toList ++ ([] ++ ':' :: ([] ++ (f m.2).toList))) m :=
    .intro (quoted_writeString m.1) space_nil space_nil (hf m.2)
  rw [htext]
  cases ms with
  | nil => exact .empty space_nil
  | cons m ms => exact .members (separated_intercalate (fun m _ => hmember m) (by simp))

/-! ### What follows a value -/

/-- The separators and brackets that may follow a value. -/
def closers : List Char := [',', ']', '\x7d']

def Closed (rest : List Char) : Prop := ∀ c ∈ rest.head?, c ∈ spaces ++ closers

theorem closed_nil : Closed [] := nofun

theorem not_isDigit_of_mem {c : Char} (h : c ∈ spaces ++ closers) :
    ¬c.isDigit := by
  simp only [spaces, closers, List.mem_append, List.mem_cons, List.not_mem_nil, or_false] at h
  rcases h with (rfl | rfl | rfl | rfl) | rfl | rfl | rfl <;> decide

theorem notMem_spaces {c : Char} (h : c ∉ spaces ++ closers) : c ∉ spaces :=
  fun hc => h (List.mem_append_left closers hc)

theorem Space.closed {w : List Char} {c : Char} (hw : Space w) (hc : c ∈ closers)
    (r : List Char) : Closed (w ++ c :: r) := by
  intro d hd
  cases w with
  | nil =>
    obtain rfl := Option.some.inj hd
    exact List.mem_append_right spaces hc
  | cons x w =>
    obtain rfl := Option.some.inj hd
    exact List.mem_append_left closers (hw x List.mem_cons_self)

theorem Items.closed {s : List Char} {as : List α} (h : Items F false s as) {c : Char}
    (hc : c ∈ closers) (r : List Char) : Closed (s ++ c :: r) := by
  cases h with
  | close hw => exact hw.closed hc r
  | later hw => rw [List.append_assoc]; exact hw.closed (by decide) _

/-- `r` reads `t` as `a`, with space before it and anything after it that may follow a value. -/
def Reader.Takes (r : Reader α) (t : List Char) (a : α) : Prop :=
  ∀ w rest, Space w → Closed rest → r.read (w ++ (t ++ rest)) = .ok (a, rest)

namespace Reader

variable {r : Reader α} {t : List Char} {a : α}

theorem Accepts.takes (h : r.Accepts F) (ht : F t a) : r.Takes t a :=
  fun w _ hw _ => h.read_iff.2 ⟨w, t, rfl, hw, ht⟩

theorem Takes.map {β : Type} (f : α → β) (h : r.Takes t a) : (r.map f).Takes t (f a) := by
  intro w rest hw hrest
  show (r.read _).map _ = _
  rw [h w rest hw hrest]
  rfl

theorem Takes.decode {document : String} (h : r.Takes document.toList a) :
    r.decode document = .ok a := by
  have hread := h [] [] space_nil closed_nil
  rw [List.nil_append, List.append_nil] at hread
  rw [Reader.decode, hread]
  rfl

end Reader

/-! ### Numerals of natural numbers -/

/-- Digits without a zero in front of others. -/
inductive Whole : List Char → Prop
  | zero : Whole ['0']
  | digits {c : Char} {cs : List Char} (ne_zero : c ≠ '0') (digits : ∀ d ∈ c :: cs, d.isDigit) :
      Whole (c :: cs)

def Natural (t : List Char) (n : UInt64) : Prop := Whole t ∧ Nat.ofDigitChars 10 t 0 = n.toNat

theorem le_ofDigitChars (ds : List Char) (n : Nat) : n ≤ Nat.ofDigitChars 10 ds n := by
  induction ds generalizing n with
  | nil => exact Nat.le_refl n
  | cons d ds ih =>
    rw [Nat.ofDigitChars_cons]
    have := ih (10 * n + (d.toNat - '0'.toNat))
    omega

theorem absorb_of_lt {ds : List Char} {n : Nat} (h : Nat.ofDigitChars 10 ds n < Nat.pow 2 64) :
    absorb n ds = (Nat.ofDigitChars 10 ds n, []) := by
  induction ds generalizing n with
  | nil => rfl
  | cons d ds ih =>
    rw [Nat.ofDigitChars_cons] at h ⊢
    have hlt : 10 * n + digitValue d < Nat.pow 2 64 := Nat.lt_of_le_of_lt (le_ofDigitChars ds _) h
    rw [absorb, if_pos hlt]
    exact ih h

section

variable {rest : List Char}

/-- No digit comes next. -/
def NoDigit (rest : List Char) : Prop := ∀ c ∈ rest.head?, ¬c.isDigit

theorem Closed.noDigit (h : Closed rest) : NoDigit rest := fun c hc => not_isDigit_of_mem (h c hc)

theorem splitDigits_of_noDigit {ds : List Char} (hds : ∀ d ∈ ds, d.isDigit) (hrest : NoDigit rest) :
    splitDigits (ds ++ rest) = (ds, rest) := by
  have hstop : rest.takeWhile Char.isDigit = [] ∧ rest.dropWhile Char.isDigit = rest := by
    cases rest with
    | nil => exact ⟨rfl, rfl⟩
    | cons c r =>
      have hc := hrest c rfl
      exact ⟨List.takeWhile_cons_of_neg hc, List.dropWhile_cons_of_neg hc⟩
  rw [splitDigits, List.takeWhile_append_of_pos hds, List.dropWhile_append_of_pos hds, hstop.1,
    hstop.2, List.append_nil]

theorem readWhole_of_whole {t : List Char} (ht : Whole t) (hrest : NoDigit rest) (atEnd : Cause) :
    readWhole atEnd (t ++ rest) = .ok (t, rest) := by
  cases ht with
  | zero =>
    cases rest with
    | nil => rfl
    | cons c r =>
      have hc := hrest c rfl
      show (if c.isDigit then _ else _) = _
      rw [if_neg hc]
      rfl
  | @digits c cs hne hds =>
    rw [List.cons_append, readWhole, if_pos (hds c List.mem_cons_self), ← List.cons_append,
      splitDigits_of_noDigit hds hrest]
    exact hne

theorem readFraction_of_closed (hrest : Closed rest) (atEnd : Cause) :
    readFraction atEnd rest = .ok ([], rest) := by
  unfold readFraction
  split
  · exact absurd (hrest '.' rfl) (by decide)
  · rfl

theorem readExponent_of_closed (hrest : Closed rest) (atEnd : Cause) :
    readExponent atEnd rest = .ok (none, rest) := by
  unfold readExponent
  split
  · exact absurd (hrest 'e' rfl) (by decide)
  · exact absurd (hrest 'E' rfl) (by decide)
  · rfl

theorem readNumber_of_natural {t : List Char} {n : UInt64} (ht : Natural t n)
    (hrest : Closed rest) : readNumber false (t ++ rest) = .ok (.integer n.toNat, rest) := by
  obtain ⟨hwhole, hvalue⟩ := ht
  have hnumeral : readNumeral .endInValue (t ++ rest) = .ok (⟨t, [], none⟩, rest) := by
    rw [readNumeral, readWhole_of_whole hwhole hrest.noDigit]
    show (readFraction _ rest >>= _) = _
    rw [readFraction_of_closed hrest]
    show (readExponent _ rest >>= _) = _
    rw [readExponent_of_closed hrest]
    rfl
  have hlt : Nat.ofDigitChars 10 t 0 < Nat.pow 2 64 := hvalue ▸ n.toNat_lt
  have hint : (⟨t, [], none⟩ : Numeral).value false = .ok (.integer n.toNat) := by
    rw [Numeral.value, absorb_of_lt hlt, hvalue]
    simp
  show (readNumeral .endInValue (t ++ rest) >>= _) = _
  rw [hnumeral]
  dsimp only [bind, Except.bind]
  rw [hint]

end

theorem takes_natural {t : List Char} {n : UInt64} (ht : Natural t n) :
    Reader.natural.Takes t n := by
  intro w rest hw hrest
  have hnumber := readNumber_of_natural ht hrest
  obtain ⟨c, cs, rfl, hc⟩ : ∃ c cs, t = c :: cs ∧ c.isDigit := by
    cases ht.1 with
    | zero => exact ⟨_, _, rfl, rfl⟩
    | digits _ hds => exact ⟨_, _, rfl, hds _ List.mem_cons_self⟩
  have hne : c ≠ '-' := by rintro rfl; cases hc
  have hspace : c ∉ spaces := fun h =>
    not_isDigit_of_mem (List.mem_append_left closers h) hc
  show (startValue (w ++ c :: (cs ++ rest)) >>= _) = _
  rw [startValue_append hw hspace]
  dsimp only [bind, Except.bind]
  split
  · next heq => exact absurd (List.cons.inj heq).1 hne
  · next heq =>
    rw [← heq, if_pos (by rwa [← (List.cons.inj heq).1]), ← List.cons_append, hnumber]
    show natural (.integer n.toNat) rest = _
    rw [natural, if_pos (Int.natCast_nonneg _), Int.toNat_natCast, UInt64.ofNat_toNat]
  · next heq => cases heq

theorem whole_toDigits (n : Nat) : Whole (Nat.toDigits 10 n) := by
  rcases Nat.eq_zero_or_pos n with rfl | hn
  · rw [Nat.toDigits_zero]; exact .zero
  · -- the last digit comes after those of the quotient, so the first one stays the first
    obtain ⟨c, cs, h, hc⟩ : ∃ c cs, Nat.toDigits 10 n = c :: cs ∧ c ≠ '0' := by
      induction n using Nat.strongRecOn with
      | ind n ih =>
        rcases Nat.lt_or_ge n 10 with hlt | hge
        · refine ⟨n.digitChar, [], Nat.toDigits_of_lt_base hlt, ?_⟩
          rw [Ne, Nat.digitChar_eq_zero]
          omega
        · obtain ⟨c, cs, h, hc⟩ := ih (n / 10) (by omega) (by omega)
          exact ⟨c, cs ++ [(n % 10).digitChar], by
            rw [Nat.toDigits_of_base_le (by decide) hge, h]; rfl, hc⟩
    rw [h]
    refine .digits hc fun d hd => ?_
    rw [← h] at hd
    exact Nat.isDigit_of_mem_toDigits (by decide) (by decide) hd

theorem natural_writeNatural (n : UInt64) : Natural (writeNatural n).toList n := by
  have htext : (writeNatural n).toList = Nat.toDigits 10 n.toNat := by
    show (n.toNat.repr).toList = _
    rw [Nat.toList_repr]
  rw [htext]
  exact ⟨whole_toDigits n.toNat, Nat.ofDigitChars_ten_toDigits⟩

/-! ### Other values without brackets -/

theorem takes_text (s : String) : Reader.text.Takes (writeString s).toList s :=
  Reader.accepts_text.takes (quoted_writeString s)

theorem readName_append (name rest : List Char) : readName name (name ++ rest) = .ok rest := by
  induction name with
  | nil => rfl
  | cons c cs ih => rw [List.cons_append, readName, if_pos rfl, ih]

theorem takes_truth (b : Bool) : Reader.truth.Takes (writeTruth b).toList b := by
  intro w rest hw _
  cases b with
  | true =>
    show (startValue (w ++ 't' :: (['r', 'u', 'e'] ++ rest)) >>= _) = _
    rw [startValue_append hw (by decide)]
    show (readName ['r', 'u', 'e'] (['r', 'u', 'e'] ++ rest)).map _ = _
    rw [readName_append]
    rfl
  | false =>
    show (startValue (w ++ 'f' :: (['a', 'l', 's', 'e'] ++ rest)) >>= _) = _
    rw [startValue_append hw (by decide)]
    show (readName ['a', 'l', 's', 'e'] (['a', 'l', 's', 'e'] ++ rest)).map _ = _
    rw [readName_append]
    rfl

namespace Reader

variable {r : Reader α} {a : α}

theorem takes_null (r : Reader α) : (optional r).Takes ['n', 'u', 'l', 'l'] none := by
  intro w rest hw _
  have hskip : skipSpace (w ++ 'n' :: (['u', 'l', 'l'] ++ rest)) =
      'n' :: (['u', 'l', 'l'] ++ rest) := by
    rw [skipSpace_append hw, skipSpace_cons (by decide)]
  rw [optional]
  dsimp only
  rw [List.cons_append, hskip]
  show (readName ['u', 'l', 'l'] (['u', 'l', 'l'] ++ rest)).map _ = _
  rw [readName_append]
  rfl

theorem Takes.optional {c : Char} {t u : List Char} (h : r.Takes u a) (hu : u = c :: t)
    (hne : c ≠ 'n') (hc : c ∉ spaces) : (optional r).Takes u (some a) := by
  subst hu
  intro w rest hw hrest
  have hread := h [] rest space_nil hrest
  rw [Reader.optional]
  dsimp only
  rw [List.cons_append, skipSpace_append hw, skipSpace_cons hc]
  split
  · next heq => exact absurd (List.cons.inj heq).1 hne
  · show (r.read (c :: (t ++ rest))).map _ = _
    rw [← List.cons_append, ← List.nil_append (c :: t ++ rest), hread]
    rfl

end Reader

/-! ### Records -/

variable {σ β : Type}

/-- The value as it is written. -/
def Verbatim (t : List Char) (value : String) : Prop := t = value.toList

theorem object_verbatim (ms : List (String × String)) :
    Object Verbatim (writeObject ms).toList ms := by
  have h := object_writeObject (F := Verbatim) (f := id) (fun _ => rfl) ms
  rwa [show (ms.map fun m => (m.1, id m.2)) = ms from List.map_id ms] at h

/-- The members, in this order, take a record from one state to another. Each of them is a field
that has not been set. -/
inductive Fills (fields : List (Field σ)) : σ → List (String × String) → σ → Prop
  | nil {d : σ} : Fills fields d [] d
  | cons {d e : σ} {name value : String} {ms : List (String × String)} {field : Field σ}
      {change : σ → σ} (known : (fields.find? fun f => f.name == name) = some field)
      (unset : field.isSet d = false) (takes : field.value.Takes value.toList change)
      (tail : Fills fields (change d) ms e) : Fills fields d ((name, value) :: ms) e

section

variable {fields : List (Field σ)} {first : Bool} {d e : σ}

theorem Fills.of {name value : String} {ms : List (String × String)} {required : Bool}
    {r : Reader β} {get? : σ → Option β} {set : β → σ → σ} {b : β}
    (known : (fields.find? fun f => f.name == name) = some (.of name required r get? set))
    (unset : get? d = none) (takes : r.Takes value.toList b) (tail : Fills fields (set b d) ms e) :
    Fills fields d ((name, value) :: ms) e :=
  have hunset : (get? d).isSome = false := by rw [unset]; rfl
  .cons known hunset (takes.map set) tail

theorem readFields_of_close {s t : List Char} (h : nextKey first s = .ok (false, t)) :
    readFields fields first d s = .ok (d, t) := by
  fun_cases readFields fields first d s with
  | case2 _ hf => cases h.symm.trans hf; rfl
  | case1 _ hf | case3 _ hf | case4 _ hf | case5 _ hf | case6 _ hf | case7 _ hf | case8 _ hf
  | case9 _ hf | case10 _ hf => cases h.symm.trans hf

theorem readFields_of_field {s t t' t'' rest key : List Char} {field : Field σ} {change : σ → σ}
    (hk : nextKey first s = .ok (true, t)) (hs : readString t = .ok (key, t'))
    (hknown : (fields.find? fun f => f.name == String.ofList key) = some field)
    (hunset : field.isSet d = false) (hc : readColon t' = .ok t'')
    (hv : field.value.read t'' = .ok (change, rest)) :
    readFields fields first d s = readFields fields false (change d) rest := by
  fun_cases readFields fields first d s with
  | case1 _ hf | case2 _ hf => cases hk.symm.trans hf
  | case3 _ hf _ hf' =>
    cases hk.symm.trans hf
    cases hs.symm.trans hf'
  | case4 _ hf _ _ hf' _ hfield hset =>
    cases hk.symm.trans hf
    cases hs.symm.trans hf'
    cases hknown.symm.trans hfield
    cases hunset.symm.trans hset
  | case5 _ hf _ _ hf' _ hfield _ _ hf'' =>
    cases hk.symm.trans hf
    cases hs.symm.trans hf'
    cases hc.symm.trans hf''
  | case6 _ hf _ _ hf' _ hfield _ _ hf'' _ hf₃ =>
    cases hk.symm.trans hf
    cases hs.symm.trans hf'
    cases hknown.symm.trans hfield
    cases hc.symm.trans hf''
    cases hv.symm.trans hf₃
  | case7 _ hf _ _ hf' _ hfield _ _ hf'' _ _ hf₃ =>
    cases hk.symm.trans hf
    cases hs.symm.trans hf'
    cases hknown.symm.trans hfield
    cases hc.symm.trans hf''
    cases hv.symm.trans hf₃
    rfl
  | case8 _ hf _ _ hf' hnone | case9 _ hf _ _ hf' hnone | case10 _ hf _ _ hf' hnone =>
    cases hk.symm.trans hf
    cases hs.symm.trans hf'
    cases hknown.symm.trans hnone

theorem readFields_of_form {s u t : List Char} {name value : String} {field : Field σ}
    {change : σ → σ} (hk : nextKey first s = .ok (true, u ++ t))
    (hm : Member Verbatim ('"' :: u) (name, value)) (ht : Closed t)
    (hknown : (fields.find? fun f => f.name == name) = some field)
    (hunset : field.isSet d = false) (htakes : field.value.Takes value.toList change) :
    readFields fields first d s = readFields fields false (change d) t := by
  generalize hu : '"' :: u = v at hm
  cases hm with
  | @intro _ w w' x _ _ hkey hw hw' hx =>
    cases hkey with
    | @intro k cs hspells =>
      obtain ⟨-, rfl⟩ := List.cons.inj hu
      obtain rfl : x = value.toList := hx
      refine readFields_of_field ?_ (readString_of_spells hspells _) hknown hunset
        (readColon_eq_ok_iff.2 ⟨w, rfl, hw⟩) (htakes w' t hw' ht)
      simpa using hk

theorem readFields_of_items {t : List Char} {ms : List (String × String)}
    (h : Items (Member Verbatim) first t ms) (hfills : Fills fields d ms e) (rest : List Char) :
    readFields fields first d (t ++ '\x7d' :: rest) = .ok (e, '\x7d' :: rest) := by
  induction h generalizing d with
  | close hw =>
    cases hfills
    exact readFields_of_close (nextKey_eq_ok_iff.2 (.close hw))
  | first hw hm htail ih =>
    cases hfills with
    | cons hknown hunset htakes hfills =>
      obtain ⟨u, rfl⟩ := hm.begins
      rw [List.append_assoc, List.append_assoc, List.cons_append,
        readFields_of_form (nextKey_eq_ok_iff.2 (.first hw)) hm (htail.closed (by decide) rest)
          hknown hunset htakes, ih hfills]
  | later hw hw' hm htail ih =>
    cases hfills with
    | cons hknown hunset htakes hfills =>
      obtain ⟨u, rfl⟩ := hm.begins
      rw [List.append_assoc, List.cons_append, List.append_assoc, List.append_assoc,
        List.cons_append, readFields_of_form (nextKey_eq_ok_iff.2 (.later hw hw')) hm
          (htail.closed (by decide) rest) hknown hunset htakes, ih hfills]

theorem Shape.takes_of_fills {shape : Shape σ α} {t : List Char} {ms : List (String × String)}
    {a : α} (ht : Object Verbatim t ms) (hfills : Fills shape.fields shape.start ms d)
    (hfinish : shape.finish d = .ok a) : shape.reader.Takes t a := by
  intro w rest hw _
  obtain ⟨u, rfl, hitems⟩ := object_iff.1 ht
  show (startValue _ >>= _) = _
  rw [List.cons_append, startValue_append hw (by decide), List.append_assoc]
  dsimp only [bind, Except.bind]
  split
  · next heq => exact absurd (List.cons.inj heq).1 (by decide)
  · next heq =>
    rw [← (List.cons.inj heq).2, List.singleton_append, readFields_of_items hitems hfills]
    show shape.conclude d rest = _
    rw [Shape.conclude, hfinish]
  · next hne => exact absurd rfl (hne _)

end

end HostLog.Json
