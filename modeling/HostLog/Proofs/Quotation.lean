import HostLog.Proofs.Json.Spelling
import HostLog.Text.Printable

/-!
# Quoted text, read back

Quoting can be undone: `unquote` takes off the quotes and reads every escape as the character it
stands for, one character of the quoted text after another (`Place`). So different texts are quoted
differently (`unquote_quote`, `quote_inj`), and none of the characters between the quotes ends the
quotation or breaks the line (`not_breaking_of_mem_quote`).
-/

namespace HostLog.Text

/-- Where the reader of a quoted text stands. -/
inductive Place where
  /-- Between two characters. -/
  | between
  /-- After a backslash. -/
  | escaped
  /-- After the `u` of a code point, before the brace. -/
  | named
  /-- In the braces of a code point, whose digits so far make `n`. -/
  | digits (n : Nat)

/-- The letters that make an escape by themselves, and what they stand for. -/
def letterEscapes : List (Char × Char) :=
  [('0', '\x00'), ('t', '\t'), ('n', '\n'), ('r', '\r'), ('"', '"'), ('\\', '\\')]

namespace Place

/-- Reads one character: the place after it, and the character that it completes, if any. -/
def step : Place → Char → Option (Place × List Char)
  | between, c =>
    if c = '\\' then some (escaped, []) else if c = '"' then none else some (between, [c])
  | escaped, c =>
    if c = 'u' then some (named, []) else (letterEscapes.lookup c).map fun d => (between, [d])
  | named, c => if c = '\x7b' then some (digits 0, []) else none
  | digits n, c =>
    if c = '\x7d' then if n.isValidChar then some (between, [Char.ofNat n]) else none
    else (Json.hexDigit? c).map fun k => (digits (16 * n + k), [])

/-- The characters that the rest of a quoted text stands for. -/
def read : Place → List Char → Option (List Char)
  | between, [] => some []
  | _, [] => none
  | p, c :: s => (p.step c).bind fun r => (r.1.read s).map (r.2 ++ ·)

end Place

/-- The text that was quoted. -/
def unquote (text : String) : Option String :=
  match text.toList with
  | '"' :: s =>
    if s.getLast? = some '"' then (Place.between.read s.dropLast).map String.ofList else none
  | _ => none

/-! ### Escapes -/

/-- The three ways in which a character stands in a quoted text. -/
inductive Form (c : Char) : List Char → Prop
  | letter {e : Char} (mem : (e, c) ∈ letterEscapes) : Form c ['\\', e]
  | codePoint : Form c (codePointEscape c)
  | plain (ne_quote : c ≠ '"') (ne_backslash : c ≠ '\\') (printable : isPrintable c) : Form c [c]

theorem form_escape (c : Char) : Form c (escape c) := by
  unfold escape
  split
  · next h => subst h; exact .letter (by decide)
  split
  · next h => subst h; exact .letter (by decide)
  split
  · next h => subst h; exact .letter (by decide)
  split
  · next h => subst h; exact .letter (by decide)
  split
  · next h => subst h; exact .letter (by decide)
  split
  · next h => subst h; exact .letter (by decide)
  split
  · exact .codePoint
  · next hquote hbackslash hshown =>
    rw [Bool.or_eq_true, not_or, Bool.not_eq_true', Bool.not_eq_false] at hshown
    exact .plain hquote hbackslash hshown.2

namespace Place

variable {p q : Place} {c : Char} {out s t : List Char}

theorem read_cons (p : Place) (c : Char) (s : List Char) :
    p.read (c :: s) = (p.step c).bind fun r => (r.1.read s).map (r.2 ++ ·) := by
  cases p <;> rfl

theorem read_of_step (h : p.step c = some (q, out)) (s : List Char) :
    p.read (c :: s) = (q.read s).map (out ++ ·) := by
  rw [read_cons, h, Option.bind_some]

theorem read_of_step_nil (h : p.step c = some (q, [])) (s : List Char) :
    p.read (c :: s) = q.read s := by
  rw [read_of_step h]
  exact Option.map_id_apply

theorem step_digit {k : Nat} (h : k < 16) (n : Nat) :
    (digits n).step (Nat.digitChar k) = some (digits (16 * n + k), []) := by
  have hbrace : ∀ k < 16, Nat.digitChar k ≠ '\x7d' := by decide
  rw [step, if_neg (hbrace k h), Json.hexDigit?_eq_some_iff.2 (Json.hexDigit_digitChar h)]
  rfl

theorem read_toDigits (n : Nat) (s : List Char) :
    (digits 0).read (Nat.toDigits 16 n ++ s) = (digits n).read s := by
  induction n using Nat.strongRecOn generalizing s with
  | ind n ih =>
    rcases Nat.lt_or_ge n 16 with hlt | hge
    · rw [Nat.toDigits_of_lt_base hlt, List.singleton_append, read_of_step_nil (step_digit hlt 0),
        Nat.mul_zero, Nat.zero_add]
    · -- all digits but the last one first
      rw [Nat.toDigits_of_base_le (by decide) hge, List.append_assoc, ih (n / 16) (by omega),
        List.singleton_append, read_of_step_nil (step_digit (Nat.mod_lt n (by decide)) _),
        Nat.div_add_mod]

theorem read_codePointEscape (c : Char) (s : List Char) :
    between.read (codePointEscape c ++ s) = (between.read s).map (c :: ·) := by
  have hclose : (digits c.toNat).step '\x7d' = some (between, [c]) := by
    rw [step, if_pos rfl, if_pos (show c.toNat.isValidChar from c.valid), Char.ofNat_toNat]
  rw [codePointEscape, List.cons_append, List.cons_append, List.cons_append, List.append_assoc,
    read_of_step_nil (q := escaped) rfl, read_of_step_nil (q := named) rfl,
    read_of_step_nil (q := digits 0) rfl, read_toDigits, List.singleton_append,
    read_of_step hclose]
  rfl

theorem step_letter {e : Char} (h : (e, c) ∈ letterEscapes) :
    escaped.step e = some (between, [c]) := by
  simp only [letterEscapes, List.mem_cons, Prod.mk.injEq, List.not_mem_nil, or_false] at h
  rcases h with ⟨rfl, rfl⟩ | ⟨rfl, rfl⟩ | ⟨rfl, rfl⟩ | ⟨rfl, rfl⟩ | ⟨rfl, rfl⟩ | ⟨rfl, rfl⟩ <;> rfl

theorem read_escape (c : Char) (s : List Char) :
    between.read (escape c ++ s) = (between.read s).map (c :: ·) := by
  have hform := form_escape c
  generalize escape c = w at hform ⊢
  rcases hform with h | _ | ⟨hquote, hbackslash, -⟩
  · rw [List.cons_append, List.singleton_append, read_of_step_nil (q := escaped) rfl,
      read_of_step (step_letter h)]
    rfl
  · exact read_codePointEscape c s
  · have hstep : between.step c = some (between, [c]) := by
      rw [step, if_neg hbackslash, if_neg hquote]
    rw [List.singleton_append, read_of_step hstep]
    rfl

theorem read_flatMap_escape (s : List Char) : between.read (s.flatMap escape) = some s := by
  induction s with
  | nil => rfl
  | cons c s ih => rw [List.flatMap_cons, read_escape, ih, Option.map_some]

theorem read_append_eq_none (h : ∀ q : Place, q.read t = none) (p : Place) (s : List Char) :
    p.read (s ++ t) = none := by
  induction s generalizing p with
  | nil => exact h p
  | cons c s ih =>
    simp only [List.cons_append, read_cons, ih, Option.map_none, Option.bind_fun_none]

end Place

theorem toList_quote (s : String) :
    (quote s).toList = '"' :: (s.toList.flatMap escape ++ ['"']) := by
  rw [quote, String.toList_ofList]

/-- Undoing the escapes of a quoted text gives back the text. -/
theorem unquote_quote (s : String) : unquote (quote s) = some s := by
  have hlast : (s.toList.flatMap escape ++ ['"']).getLast? = some '"' := List.getLast?_concat
  rw [unquote, toList_quote]
  simp only [if_pos hlast, List.dropLast_concat, Place.read_flatMap_escape, Option.map_some,
    String.ofList_toList]

theorem quote_inj {s t : String} : quote s = quote t ↔ s = t := by
  refine ⟨fun h => ?_, fun h => h ▸ rfl⟩
  exact Option.some.inj ((unquote_quote s).symm.trans (h ▸ unquote_quote t))

/-- A quotation mark within the quotes comes after a backslash, so never after a blank. -/
theorem flatMap_escape_ne (s u v : List Char) : s.flatMap escape ≠ u ++ ' ' :: '"' :: v := by
  intro h
  have hnone (p : Place) : p.read (' ' :: '"' :: v) = none := by cases p <;> rfl
  have hread := Place.read_flatMap_escape s
  rw [h, Place.read_append_eq_none hnone] at hread
  cases hread

/-! ### Breaking characters -/

/-- The character can do more in a line than show itself: it is a control, or it separates lines or
paragraphs. -/
def Breaking (c : Char) : Prop :=
  c.toNat ≤ 0x1f ∨ (0x7f ≤ c.toNat ∧ c.toNat ≤ 0x9f) ∨ c = '\u2028' ∨ c = '\u2029'

/-- The character is one of ASCII that only shows itself. -/
def Visible (c : Char) : Prop := 0x20 ≤ c.toNat ∧ c.toNat < 0x7f

instance (c : Char) : Decidable (Visible c) :=
  inferInstanceAs (Decidable (0x20 ≤ c.toNat ∧ c.toNat < 0x7f))

variable {c x : Char}

theorem visible_of_mem {s : List Char} (hs : s.all (Visible ·)) (h : x ∈ s) : Visible x :=
  of_decide_eq_true (List.all_eq_true.1 hs x h)

theorem not_breaking_of_visible (h : Visible c) : ¬Breaking c := by
  obtain ⟨hlower, hupper⟩ := h
  rintro (hc | hc | rfl | rfl)
  · omega
  · omega
  · exact absurd hupper (by decide)
  · exact absurd hupper (by decide)

theorem inRanges_of_mem {ranges : List (Nat × Nat)} {r : Nat × Nat} {n : Nat} (hr : r ∈ ranges)
    (h : r.1 ≤ n ∧ n ≤ r.2) : inRanges ranges n := by
  rw [inRanges, List.any_eq_true]
  exact ⟨r, hr, by simpa using h⟩

theorem not_breaking_of_isPrintable (h : isPrintable c) : ¬Breaking c := by
  have hshown {r : Nat × Nat} (hr : r ∈ unprintableRanges) : ¬(r.1 ≤ c.toNat ∧ c.toNat ≤ r.2) := by
    intro hc
    simp [isPrintable, inRanges_of_mem hr hc] at h
  rintro (hc | hc | rfl | rfl)
  · exact hshown (r := (0x0, 0x1f)) (by decide) ⟨Nat.zero_le _, hc⟩
  · exact hshown (r := (0x7f, 0xa0)) (by decide) ⟨hc.1, Nat.le_succ_of_le hc.2⟩
  · exact hshown (r := (0x2028, 0x202f)) (by decide) (by decide)
  · exact hshown (r := (0x2028, 0x202f)) (by decide) (by decide)

theorem visible_digitChar {k : Nat} (h : k < 16) : Visible (Nat.digitChar k) := by
  have hall : ∀ k < 16, Visible (Nat.digitChar k) := by decide
  exact hall k h

theorem visible_of_mem_toDigits {n : Nat} (h : x ∈ Nat.toDigits 16 n) : Visible x := by
  induction n using Nat.strongRecOn with
  | ind n ih =>
    rcases Nat.lt_or_ge n 16 with hlt | hge
    · rw [Nat.toDigits_of_lt_base hlt, List.mem_singleton] at h
      exact h ▸ visible_digitChar hlt
    · rw [Nat.toDigits_of_base_le (by decide) hge, List.mem_append, List.mem_singleton] at h
      rcases h with h | h
      · exact ih (n / 16) (by omega) h
      · exact h ▸ visible_digitChar (Nat.mod_lt n (by decide))

theorem visible_of_mem_codePointEscape (h : x ∈ codePointEscape c) : Visible x := by
  simp only [codePointEscape, List.mem_cons, List.mem_append, List.not_mem_nil, or_false] at h
  rcases h with rfl | rfl | rfl | h | rfl
  · decide
  · decide
  · decide
  · exact visible_of_mem_toDigits h
  · decide

theorem visible_of_mem_letterEscapes {e : Char} (h : (e, c) ∈ letterEscapes) : Visible e := by
  have hall : ∀ e ∈ letterEscapes, Visible e.1 := by decide
  exact hall _ h

theorem not_breaking_of_mem_escape (h : x ∈ escape c) : ¬Breaking x := by
  have hform := form_escape c
  generalize escape c = w at hform h
  rcases hform with hletter | _ | ⟨-, -, hprintable⟩
  · rw [List.mem_cons, List.mem_singleton] at h
    rcases h with rfl | rfl
    · exact not_breaking_of_visible (by decide)
    · exact not_breaking_of_visible (visible_of_mem_letterEscapes hletter)
  · exact not_breaking_of_visible (visible_of_mem_codePointEscape h)
  · rw [List.mem_singleton] at h
    exact h ▸ not_breaking_of_isPrintable hprintable

theorem not_breaking_of_mem_quote {s : String} (h : x ∈ (quote s).toList) : ¬Breaking x := by
  rw [toList_quote, List.mem_cons, List.mem_append, List.mem_flatMap, List.mem_singleton] at h
  rcases h with rfl | ⟨c, -, h⟩ | rfl
  · exact not_breaking_of_visible (by decide)
  · exact not_breaking_of_mem_escape h
  · exact not_breaking_of_visible (by decide)

end HostLog.Text
