import HostLog.Output.Filter
import Mathlib.Data.List.DropRight

/-!
# Where the parts of a directive are cut

The parts of a directive are found in the trimmed text, but cut out of the text as it was given, at
the same byte offsets. Without white space in front the trimmed text stands at the beginning of the
given one, and so does each part at its offset (`Stands`): every cut is between characters
(`Directive.parse_ne_splitCharacter`). So a filter splits no character unless one of its parts begins
with white space (`Filter.exists_blank_of_parse`, `Filter.ofText_eq_none_iff`).
-/

namespace HostLog

open Text

theorem Text.trim_prefix {s : List Char} (h : ∀ c ∈ s.head?, ¬isBlank c) : trim s <+: s := by
  have hs : s.dropWhile isBlank = s := by
    cases s with
    | nil => rfl
    | cons c s => exact List.dropWhile_cons_of_neg (h c rfl)
  rw [trim, hs]
  exact List.rdropWhile_prefix isBlank s

namespace Output

/-- `s` is what stands in `text` from the byte offset `p` on, perhaps with more behind it. -/
def Stands (text : List Char) (p : Nat) (s : List Char) : Prop :=
  ∃ front behind, text = front ++ (s ++ behind) ∧ byteCount front = p

section

variable {text s t : List Char} {p : Nat} {c : Char} {d : Directive}

theorem Stands.append (h : Stands text p (s ++ t)) : Stands text (p + byteCount s) t := by
  obtain ⟨front, behind, rfl, rfl⟩ := h
  exact ⟨front ++ s, behind, by simp only [List.append_assoc], byteCount_append front s⟩

theorem Stands.tail (h : Stands text p (c :: s)) (hc : c.utf8Size = 1) : Stands text (p + 1) s :=
  hc ▸ h.append (s := [c])

theorem Stands.dropWhile (h : Stands text p s) (q : Char → Bool) :
    Stands text (p + byteCount (s.takeWhile q)) (s.dropWhile q) :=
  Stands.append (by rwa [List.takeWhile_append_dropWhile])

namespace Directive

theorem cut_of_stands (h : Stands text p (s ++ t)) : cut text p (p + byteCount s) = .ok s := by
  obtain ⟨front, behind, rfl, rfl⟩ := h
  rw [cut, List.append_assoc, cut?_append]

theorem cut_takeWhile_of_stands (h : Stands text p s) (q : Char → Bool) :
    cut text p (p + byteCount (s.takeWhile q)) = .ok (s.takeWhile q) :=
  cut_of_stands (t := s.dropWhile q) (by rwa [List.takeWhile_append_dropWhile])

theorem exists_cut_of_stands (h : Stands text p s) :
    ∃ r, cut text p (byteCount text) = .ok r := by
  obtain ⟨front, behind, rfl, rfl⟩ := h
  have hend : Stands (front ++ (s ++ behind)) (byteCount front) ((s ++ behind) ++ []) :=
    ⟨front, [], by simp only [List.append_nil], rfl⟩
  rw [byteCount_append]
  exact ⟨_, cut_of_stands hend⟩

theorem eq_false_of_dropWhile {q : Char → Bool} (h : s.dropWhile q = c :: t) : q c = false := by
  have hfirst := List.head?_dropWhile_not q s
  rwa [h] at hfirst

theorem parseLevel_ne_splitCharacter (h : Stands text p s) :
    d.parseLevel text p ≠ .error .splitCharacter := by
  obtain ⟨r, hr⟩ := exists_cut_of_stands h
  rw [parseLevel, hr]
  dsimp only [bind, Except.bind]
  split
  · exact nofun
  · split <;> exact nofun

theorem parseEnd_ne_splitCharacter (h : Stands text p s) :
    d.parseEnd text p s ≠ .error .splitCharacter := by
  unfold parseEnd
  split
  · exact nofun
  · exact parseLevel_ne_splitCharacter (h.tail rfl)
  · exact nofun

end Directive

theorem FieldCondition.parse_ne_splitCharacter (s : List Char) :
    FieldCondition.parse s ≠ .error .splitCharacter := by
  unfold FieldCondition.parse
  split
  · split <;> exact nofun
  · dsimp only
    split <;> exact nofun

namespace Directive

theorem parseField_ne_splitCharacter (h : Stands text p s) :
    d.parseField text p s ≠ .error .splitCharacter := by
  have hrest := h.dropWhile (· != '\x7d')
  simp only [parseField, cut_takeWhile_of_stands h]
  cases hs : s.dropWhile (· != '\x7d') with
  | nil => exact nofun
  | cons c r =>
    have hc := eq_false_of_dropWhile hs
    rw [hs, bne_eq_false_iff_eq.1 hc] at hrest
    -- a malformed condition is no split one, and behind the brace only signs of one byte are passed
    dsimp only [bind, Except.bind]
    split
    · next defect hf =>
      intro hdefect
      obtain rfl := Except.error.inj hdefect
      exact FieldCondition.parse_ne_splitCharacter _ hf
    · split
      · exact parseEnd_ne_splitCharacter ((hrest.tail rfl).tail rfl)
      · exact nofun

theorem parseSpan_ne_splitCharacter (h : Stands text p s) :
    d.parseSpan text p s ≠ .error .splitCharacter := by
  have hrest := h.dropWhile fun c => c != ']' && c != '\x7b'
  simp only [parseSpan, cut_takeWhile_of_stands h]
  cases hs : s.dropWhile fun c => c != ']' && c != '\x7b' with
  | nil => exact nofun
  | cons c r =>
    have hc := eq_false_of_dropWhile hs
    rw [hs] at hrest
    dsimp only [bind, Except.bind]
    split
    · next heq => exact parseEnd_ne_splitCharacter (hrest.tail (heq ▸ rfl))
    · next hne =>
      have heq : c = '\x7b' := by simpa [hne] using hc
      exact parseField_ne_splitCharacter (hrest.tail (heq ▸ rfl))

theorem parse_ne_splitCharacter (h : ∀ c ∈ text.head?, ¬isBlank c) :
    parse text ≠ .error .splitCharacter := by
  -- nothing is trimmed in front, so that an offset means the same place in both texts
  obtain ⟨behind, htext⟩ := trim_prefix h
  have hstands : Stands text 0 (trim text) := ⟨[], behind, htext.symm, rfl⟩
  have hrest := hstands.dropWhile fun c => c != '=' && c != '['
  have hcut := cut_takeWhile_of_stands hstands fun c => c != '=' && c != '['
  rw [Nat.zero_add] at hrest hcut
  unfold parse
  dsimp only
  split
  · next r hr => exact parseSpan_ne_splitCharacter ((hr ▸ hstands).tail rfl)
  · next c s hc hs =>
    split
    · exact nofun
    · rw [hcut]
      split
      · exact nofun
      · next e r hr =>
        have he := eq_false_of_dropWhile hr
        rw [hr] at hrest
        dsimp only [bind, Except.bind]
        split
        · next heq => exact parseLevel_ne_splitCharacter (hrest.tail (heq ▸ rfl))
        · next hne =>
          have heq : e = '[' := by simpa [hne] using he
          exact parseSpan_ne_splitCharacter (hrest.tail (heq ▸ rfl))
  · exact nofun

theorem exists_blank_of_parse (h : parse text = .error .splitCharacter) :
    ∃ c ∈ text.head?, isBlank c := by
  by_contra hne
  exact parse_ne_splitCharacter (fun c hc hblank => hne ⟨c, hc, hblank⟩) h

end Directive

end

/-! ### Filters -/

namespace Filter

variable {text : String}

theorem exists_mem_of_mapM_eq_error {α β ε : Type} {f : α → Except ε β} {l : List α} {e : ε}
    (h : l.mapM f = .error e) : ∃ a ∈ l, f a = .error e := by
  induction l with
  | nil => cases h
  | cons a l ih =>
    rw [List.exists_mem_cons_iff]
    cases ha : f a with
    | error e' =>
      rw [List.mapM_cons, ha] at h
      exact .inl (congrArg _ (Except.error.inj h))
    | ok b =>
      cases hl : l.mapM f with
      | error e' =>
        rw [List.mapM_cons, ha, hl] at h
        obtain rfl := Except.error.inj h
        exact .inr (ih hl)
      | ok bs =>
        rw [List.mapM_cons, ha, hl] at h
        cases h

theorem exists_blank_of_parse (h : parse text = .error .splitCharacter) :
    ∃ part ∈ parts text, ∃ c ∈ part.head?, isBlank c := by
  obtain ⟨part, hpart, hp⟩ := exists_mem_of_mapM_eq_error h
  exact ⟨part, hpart, Directive.exists_blank_of_parse hp⟩

theorem wellFormed_eq_none_iff {parts : List (List Char)} :
    wellFormed parts = none ↔ ∃ part ∈ parts, Directive.parse part = .error .splitCharacter := by
  induction parts with
  | nil => exact ⟨nofun, nofun⟩
  | cons part parts ih =>
    rw [List.exists_mem_cons_iff, ← ih, wellFormed]
    cases hp : Directive.parse part with
    | ok d => simp
    | error defect => cases defect <;> simp

theorem ofText_eq_none_iff : ofText text = none ↔
    ∃ part ∈ parts text, Directive.parse part = .error .splitCharacter := by
  rw [ofText, Option.map_eq_none_iff, wellFormed_eq_none_iff]

end Filter

end Output

end HostLog
