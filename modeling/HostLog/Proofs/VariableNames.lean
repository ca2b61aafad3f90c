import HostLog.Proofs.Interchange
import HostLog.Proofs.LetterCase

/-!
# Keys that share a variable

The name of a variable is made from a key character by character, and two characters become the same
one only if they are `Confused`: the two cases of a letter of ASCII, or any two of the dot, the dash
and the underscore. `variableName_eq_iff_confused`: two keys share a variable exactly if they are
confused at every position, and then no environment can answer them differently. Any other two keys
can be told apart, by an environment in which only one of them is set.
-/

namespace HostLog

namespace Environment

variable {c d : Char} {key key' value : String} {env : Environment}

/-- The character in the name of a variable that stands for a character of a key. -/
def nameChar (c : Char) : Char := if c = '.' ∨ c = '-' then '_' else c.toUpper

theorem toList_variableName (key : String) :
    (variableName key).toList = key.toList.map nameChar := by
  rw [variableName, String.toList_ofList]
  rfl

/-- `c` is a capital of ASCII, and `d` the same letter in lower case. -/
structure Capital (c d : Char) : Prop where
  letter : 'A' ≤ c ∧ c ≤ 'Z'
  lower : d.toNat = c.toNat + 32

def separators : List Char := ['.', '-', '_']

inductive Confused : Char → Char → Prop
  | same {c : Char} : Confused c c
  | capital {c d : Char} (capital : Capital c d) : Confused c d
  | small {c d : Char} (capital : Capital d c) : Confused c d
  | separators {c d : Char} (left : c ∈ separators) (right : d ∈ separators) : Confused c d

/-! ### Characters -/

theorem toNat_nameChar (c : Char) : (nameChar c).toNat =
    if c.toNat = 46 ∨ c.toNat = 45 then 95
    else if 97 ≤ c.toNat ∧ c.toNat ≤ 122 then c.toNat - 32 else c.toNat := by
  have hseparator : (c = '.' ∨ c = '-') ↔ (c.toNat = 46 ∨ c.toNat = 45) := by
    rw [← Char.toNat_inj, ← Char.toNat_inj]
    rfl
  simp only [nameChar, hseparator, apply_ite Char.toNat, Text.toNat_toUpper]
  rfl

theorem mem_separators_iff : c ∈ separators ↔ c.toNat = 46 ∨ c.toNat = 45 ∨ c.toNat = 95 := by
  simp only [separators, List.mem_cons, List.not_mem_nil, or_false, ← Char.toNat_inj]
  rfl

theorem capital_iff : Capital c d ↔ (65 ≤ c.toNat ∧ c.toNat ≤ 90) ∧ d.toNat = c.toNat + 32 :=
  ⟨fun h => ⟨h.letter, h.lower⟩, fun h => ⟨h.1, h.2⟩⟩

theorem nameChar_eq_iff : nameChar c = nameChar d ↔ Confused c d := by
  rw [← Char.toNat_inj, toNat_nameChar, toNat_nameChar]
  constructor
  · intro h
    by_cases hsame : c = d
    · exact hsame ▸ .same
    rw [← Char.toNat_inj] at hsame
    by_cases hseparators : c ∈ separators ∧ d ∈ separators
    · exact .separators hseparators.1 hseparators.2
    rw [mem_separators_iff, mem_separators_iff] at hseparators
    -- one of the two has been moved to the place of the other
    rcases Nat.lt_or_ge c.toNat d.toNat with hlt | hge
    · exact .capital (capital_iff.2 (by split_ifs at h <;> omega))
    · exact .small (capital_iff.2 (by split_ifs at h <;> omega))
  · rintro (_ | h | h | ⟨hc, hd⟩)
    · rfl
    · rw [capital_iff] at h
      split_ifs <;> omega
    · rw [capital_iff] at h
      split_ifs <;> omega
    · rw [mem_separators_iff] at hc hd
      split_ifs <;> omega

theorem nameChar_nameChar (c : Char) : nameChar (nameChar c) = nameChar c := by
  rw [← Char.toNat_inj, toNat_nameChar, toNat_nameChar]
  split_ifs <;> omega

theorem nameChar_ne (c : Char) :
    nameChar c ≠ '.' ∧ nameChar c ≠ '-' ∧ ¬('a' ≤ nameChar c ∧ nameChar c ≤ 'z') := by
  have hnat := toNat_nameChar c
  refine ⟨fun h => ?_, fun h => ?_, fun h => ?_⟩
  · rw [h] at hnat
    have : ('.' : Char).toNat = 46 := rfl
    split_ifs at hnat <;> omega
  · rw [h] at hnat
    have : ('-' : Char).toNat = 45 := rfl
    split_ifs at hnat <;> omega
  · have hlower : 97 ≤ (nameChar c).toNat ∧ (nameChar c).toNat ≤ 122 := h
    split_ifs at hnat <;> omega

/-- No character becomes one outside ASCII but itself. -/
theorem nameChar_eq_iff_of_le (h : 128 ≤ d.toNat) : nameChar c = d ↔ c = d := by
  rw [← Char.toNat_inj, ← Char.toNat_inj, toNat_nameChar]
  split_ifs <;> omega

/-! ### Names -/

theorem variableName_eq_iff :
    variableName key = variableName key' ↔ List.Forall₂ Confused key.toList key'.toList := by
  rw [← String.toList_inj, toList_variableName, toList_variableName, ← List.forall₂_eq_eq_eq,
    List.forall₂_map_left_iff, List.forall₂_map_right_iff]
  simp only [nameChar_eq_iff]

theorem variableName_variableName (key : String) :
    variableName (variableName key) = variableName key := by
  rw [← String.toList_inj, toList_variableName, toList_variableName, List.map_map]
  exact List.map_congr_left fun c _ => nameChar_nameChar c

theorem variableName_append (key key' : String) :
    variableName (key ++ key') = variableName key ++ variableName key' := by
  rw [← String.toList_inj, String.toList_append, toList_variableName, toList_variableName,
    toList_variableName, String.toList_append, List.map_append]

theorem getElem?_variableName (h : 128 ≤ d.toNat) (i : Nat) :
    (variableName key).toList[i]? = some d ↔ key.toList[i]? = some d := by
  rw [toList_variableName, List.getElem?_map, Option.map_eq_some_iff]
  simp only [nameChar_eq_iff_of_le h, exists_eq_right]

/-- Setting the variable of one key is seen under the keys that share it and under no other. -/
theorem property_set (h : isName (variableName key)) (other : String) :
    (Source.ofEnvironment (env.set (variableName key) value.toUTF8)).property other =
      if variableName other = variableName key then some value
      else (Source.ofEnvironment env).property other :=
  get?_set h (variableName other)

theorem exists_property_ne (hne : ¬List.Forall₂ Confused key.toList key'.toList)
    (h : isName (variableName key)) : ∃ env, ((Source.ofEnvironment env).property key).isSome ∧
      (Source.ofEnvironment env).property key' = none := by
  refine ⟨empty.set (variableName key) "".toUTF8, ?_, ?_⟩
  · rw [property_set h, if_pos rfl]
    rfl
  · rw [property_set h, if_neg fun hname => hne (variableName_eq_iff.1 hname.symm)]
    exact get?_empty _

/-- Two keys have the same variable exactly if they are equally long and confused at every position.
A name is the name of itself, names are put together as the keys are, and in a name there is no dot,
no dash and no small letter of ASCII, while the characters outside ASCII stay where they are. Keys
that share a variable are answered alike by every environment; of two others, the one whose variable
can be set is answered alone in some environment. -/
theorem variableName_eq_iff_confused (key key' : String) :
    (variableName key = variableName key' ↔ List.Forall₂ Confused key.toList key'.toList) ∧
      variableName (variableName key) = variableName key ∧
      variableName (key ++ key') = variableName key ++ variableName key' ∧
      (∀ c ∈ (variableName key).toList, c ≠ '.' ∧ c ≠ '-' ∧ ¬('a' ≤ c ∧ c ≤ 'z')) ∧
      (∀ (i : Nat) (c : Char), 128 ≤ c.toNat →
        ((variableName key).toList[i]? = some c ↔ key.toList[i]? = some c)) ∧
      (List.Forall₂ Confused key.toList key'.toList → ∀ env,
        (Source.ofEnvironment env).property key = (Source.ofEnvironment env).property key') ∧
      (¬List.Forall₂ Confused key.toList key'.toList → isName (variableName key) → ∃ env,
        ((Source.ofEnvironment env).property key).isSome ∧
          (Source.ofEnvironment env).property key' = none) := by
  refine ⟨variableName_eq_iff, variableName_variableName key, variableName_append key key', ?_,
    fun i c h => getElem?_variableName h i, ?_, exists_property_ne⟩
  · intro c hc
    rw [toList_variableName, List.mem_map] at hc
    obtain ⟨d, -, rfl⟩ := hc
    exact nameChar_ne d
  · intro h env
    exact congrArg env.get? (variableName_eq_iff.2 h)

/-- Letters in either case and all three separators share a variable. The sign for Kelvin is no
letter `K` of ASCII, so it is kept, and its key is told from that of the letter. -/
theorem variableName_eq_iff_confused_kelvin :
    List.Forall₂ Confused "log.Level-é".toList "LOG_lEVEL.é".toList ∧
      (∀ env, (Source.ofEnvironment env).property "log.Level-é" =
        (Source.ofEnvironment env).property "LOG_lEVEL.é") ∧
      ¬List.Forall₂ Confused "k".toList "\u212a".toList ∧ isName (variableName "k") ∧
      (variableName "\u212a").toList[0]? = some '\u212a' ∧
      ∃ env, ((Source.ofEnvironment env).property "k").isSome ∧
        (Source.ofEnvironment env).property "\u212a" = none := by
  obtain ⟨hshared, -, -, -, -, halike, -⟩ :=
    variableName_eq_iff_confused "log.Level-é" "LOG_lEVEL.é"
  obtain ⟨happart, -, -, -, -, -, htold⟩ := variableName_eq_iff_confused "k" "\u212a"
  obtain ⟨-, -, -, -, hkept, -, -⟩ := variableName_eq_iff_confused "\u212a" "k"
  have hconfused := hshared.1 (by decide +kernel)
  have hne : ¬List.Forall₂ Confused "k".toList "\u212a".toList := mt happart.2 (by decide +kernel)
  have hname : isName (variableName "k") := by decide +kernel
  exact ⟨hconfused, halike hconfused, hne, hname, (hkept 0 '\u212a' (by decide)).2 (by decide),
    htold hne hname⟩

end Environment

end HostLog
