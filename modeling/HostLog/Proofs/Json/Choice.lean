import HostLog.Proofs.Json.Written

/-!
# Values that are chosen by name

One of several values is written by its name: as a string, or as the only key of an object, with
`null` as what belongs to it (`Choice`). `Reader.accepts_variant`: what is read as a choice is
written so, and the name is that of the value; however it is spelt, it counts as it reads. A string
that is no name is refused and told back (`Reader.decode_variant_unknown`).
-/

namespace HostLog.Json

variable {α : Type} {F : List Char → α → Prop} {names : List (String × α)}

inductive Null : List Char → Unit → Prop
  | intro : Null ['n', 'u', 'l', 'l'] ()

/-- A name of the value, written in one of the two ways. -/
inductive Choice (names : List (String × α)) : List Char → α → Prop
  | text {t : List Char} {name : String} {a : α} (quoted : Quoted t name)
      (known : names.lookup name = some a) : Choice names t a
  | key {t : List Char} {name : String} {a : α} (object : Object Null t [(name, ())])
      (known : names.lookup name = some a) : Choice names t a

section

variable {s t rest : List Char}

theorem readName_eq_ok_iff {name : List Char} : readName name s = .ok rest ↔ s = name ++ rest := by
  refine ⟨fun h => ?_, fun h => h ▸ readName_append name rest⟩
  induction name generalizing s with
  | nil => cases h; rfl
  | cons c cs ih =>
    cases s with
    | nil => cases h
    | cons x s =>
      rw [readName] at h
      split at h
      · next hx => rw [hx, ih h]; rfl
      · cases h

theorem readNull_eq_ok_iff :
    readNull s = .ok ((), rest) ↔ ∃ w, s = w ++ 'n' :: 'u' :: 'l' :: 'l' :: rest ∧ Space w := by
  constructor
  · intro h
    obtain ⟨r, hr, h'⟩ := exists_of_bind_eq_ok h
    obtain ⟨w, hs, hw⟩ := exists_of_startValue hr
    split at h'
    · obtain ⟨r', hr', h''⟩ := exists_of_map_eq_ok h'
      cases h''
      rw [readName_eq_ok_iff.1 hr'] at hs
      exact ⟨w, hs, hw⟩
    · cases h'
  · rintro ⟨w, rfl, hw⟩
    show (startValue _ >>= _) = _
    rw [startValue_append hw (by decide)]
    show (readName ['u', 'l', 'l'] (['u', 'l', 'l'] ++ rest)).map _ = _
    rw [readName_append]
    rfl

theorem object_singleton_iff {m : String × α} : Object F t [m] ↔
    ∃ w u w', t = '\x7b' :: (w ++ (u ++ (w' ++ ['\x7d']))) ∧ Space w ∧ Member F u m ∧ Space w' := by
  rw [object_iff]
  constructor
  · rintro ⟨_, rfl, hitems⟩
    cases hitems with
    | first hw hm htail =>
      cases htail with
      | close hw' => exact ⟨_, _, _, by simp only [List.append_assoc], hw, hm, hw'⟩
  · rintro ⟨w, u, w', rfl, hw, hm, hw'⟩
    exact ⟨w ++ (u ++ w'), by simp only [List.append_assoc], .first hw hm (.close hw')⟩

end

namespace Reader

theorem named_eq_ok_iff {cs rest : List Char} {a : α} :
    named names cs rest = .ok a ↔ names.lookup (String.ofList cs) = some a := by
  unfold named
  split
  · next h => rw [h, Except.ok.injEq, Option.some.injEq]
  · next h => rw [h]; exact ⟨nofun, nofun⟩

section

variable {w r t rest : List Char} {name : String} {a : α}

theorem quoted_of_read_variant (hw : Space w)
    (h : (variant names).read (w ++ '"' :: r) = .ok (a, rest)) :
    ∃ t name, '"' :: r = t ++ rest ∧ Quoted t name ∧ names.lookup name = some a := by
  obtain ⟨s, hs, h⟩ := exists_of_bind_eq_ok h
  rw [startValue_append hw (by decide)] at hs
  cases hs
  obtain ⟨⟨cs, _⟩, hread, h⟩ := exists_of_bind_eq_ok h
  obtain ⟨b, hb, h⟩ := exists_of_bind_eq_ok h
  cases h
  obtain ⟨t, rfl, ht⟩ := spells_of_readString hread
  exact ⟨'"' :: (t ++ ['"']), _, by simp, .intro ht, named_eq_ok_iff.1 hb⟩

theorem object_of_read_variant (hw : Space w)
    (h : (variant names).read (w ++ '\x7b' :: r) = .ok (a, rest)) :
    ∃ t name, '\x7b' :: r = t ++ rest ∧ Object Null t [(name, ())] ∧
      names.lookup name = some a := by
  obtain ⟨s, hs, h⟩ := exists_of_bind_eq_ok h
  rw [startValue_append hw (by decide)] at hs
  cases hs
  obtain ⟨⟨more, r₁⟩, hkey, h⟩ := exists_of_bind_eq_ok h
  cases more with
  | false => cases h
  | true =>
    obtain ⟨⟨cs, r₂⟩, hread, h⟩ := exists_of_bind_eq_ok h
    obtain ⟨b, hb, h⟩ := exists_of_bind_eq_ok h
    obtain ⟨r₃, hcolon, h⟩ := exists_of_bind_eq_ok h
    obtain ⟨⟨_, r₄⟩, hnull, h⟩ := exists_of_bind_eq_ok h
    dsimp only at h
    split at h
    · next hclose =>
      cases h
      obtain ⟨t, rfl, ht⟩ := spells_of_readString hread
      obtain ⟨x, rfl, hx⟩ := readColon_eq_ok_iff.1 hcolon
      obtain ⟨x', rfl, hx'⟩ := readNull_eq_ok_iff.1 hnull
      obtain ⟨y', hr₄, hy'⟩ := exists_append_skipSpace r₄
      rw [hclose] at hr₄
      cases nextKey_eq_ok_iff.1 hkey with
      | @first y _ hy =>
        have hmember := Member.intro (.intro ht) hx hx' Null.intro
        exact ⟨_, _, by simp [hr₄], object_singleton_iff.2 ⟨y, _, y', rfl, hy, hmember, hy'⟩,
          named_eq_ok_iff.1 hb⟩
    · cases h
    · cases h

theorem read_variant_of_quoted (hw : Space w) (ht : Quoted t name) :
    (variant names).read (w ++ (t ++ rest)) =
      (named names name.toList rest).map fun a => (a, rest) := by
  obtain @⟨t, cs, hspells⟩ := ht
  show (startValue _ >>= _) = _
  rw [List.cons_append, startValue_append hw (by decide), List.append_assoc]
  show (readString (t ++ '"' :: rest) >>= _) = _
  rw [readString_of_spells hspells, String.toList_ofList]
  rfl

theorem read_variant_of_object (hw : Space w) (ht : Object Null t [(name, ())])
    (h : names.lookup name = some a) : (variant names).read (w ++ (t ++ rest)) = .ok (a, rest) := by
  obtain ⟨y, _, y', rfl, hy, @⟨_, x, x', _, _, _, hkey, hx, hx', ⟨⟩⟩, hy'⟩ :=
    object_singleton_iff.1 ht
  obtain @⟨t, cs, hspells⟩ := hkey
  have htext : '\x7b' :: (y ++ ('"' :: (t ++ ['"']) ++ (x ++ ':' :: (x' ++ ['n', 'u', 'l', 'l'])) ++
      (y' ++ ['\x7d']))) ++ rest = '\x7b' :: (y ++ '"' :: (t ++ '"' :: (x ++ ':' ::
        (x' ++ 'n' :: 'u' :: 'l' :: 'l' :: (y' ++ '\x7d' :: rest))))) := by simp
  rw [htext]
  show (startValue _ >>= _) = _
  rw [startValue_append hw (by decide)]
  show (nextKey true _ >>= _) = _
  rw [nextKey_eq_ok_iff.2 (.first hy)]
  show (readString _ >>= _) = _
  rw [readString_of_spells hspells]
  show (named names cs _ >>= _) = _
  rw [named_eq_ok_iff.2 h]
  show (readColon _ >>= _) = _
  rw [readColon_eq_ok_iff.2 ⟨x, rfl, hx⟩]
  show (readNull _ >>= _) = _
  rw [readNull_eq_ok_iff.2 ⟨x', rfl, hx'⟩]
  dsimp only [bind, Except.bind]
  rw [skipSpace_append hy', skipSpace_cons (by decide)]
  rfl

end

/-- A name of a value is accepted as that value, and nothing else is. -/
theorem accepts_variant (names : List (String × α)) : (variant names).Accepts (Choice names) := by
  refine ⟨fun {s a rest} => ?_⟩
  constructor
  · intro h
    obtain ⟨r, hr, h'⟩ := exists_of_bind_eq_ok h
    obtain ⟨w, rfl, hw⟩ := exists_of_startValue hr
    split at h'
    · obtain ⟨t, name, ht, hquoted, hname⟩ := quoted_of_read_variant hw h
      exact ⟨w, t, by rw [ht], hw, .text hquoted hname⟩
    · obtain ⟨t, name, ht, hobject, hname⟩ := object_of_read_variant hw h
      exact ⟨w, t, by rw [ht], hw, .key hobject hname⟩
    · cases h'
  · rintro ⟨w, t, rfl, hw, hchoice⟩
    cases hchoice with
    | text hquoted hname =>
      rw [read_variant_of_quoted hw hquoted, named, String.ofList_toList, hname]
      rfl
    | key hobject hname => exact read_variant_of_object hw hobject hname

/-- A string that is no name is refused, and told in the refusal. -/
theorem decode_variant_unknown {document name : String} (hd : Padded Quoted document.toList name)
    (h : names.lookup name = none) : ∃ place, (variant names).decode document =
      .error ⟨.unknownVariant name (names.map Prod.fst), place⟩ := by
  generalize hs : document.toList = s at hd
  obtain ⟨hw, hquoted, -⟩ := hd
  rw [decode, hs, read_variant_of_quoted hw hquoted, named, String.ofList_toList, h]
  exact ⟨_, rfl⟩

end Reader

/-- With space around it a choice is a string or an object with space around it. -/
theorem padded_choice_iff {t : List Char} {a : α} : Padded (Choice names) t a ↔
    ∃ name, names.lookup name = some a ∧
      (Padded Quoted t name ∨ Padded (Object Null) t [(name, ())]) := by
  constructor
  · rintro ⟨hw, hchoice, hw'⟩
    cases hchoice with
    | text hquoted hname => exact ⟨_, hname, .inl (.intro hw hquoted hw')⟩
    | key hobject hname => exact ⟨_, hname, .inr (.intro hw hobject hw')⟩
  · rintro ⟨name, hname, ⟨hw, hquoted, hw'⟩ | ⟨hw, hobject, hw'⟩⟩
    · exact .intro hw (.text hquoted hname) hw'
    · exact .intro hw (.key hobject hname) hw'

end HostLog.Json
