import HostLog.Proofs.ByteOrder
import Mathlib.Data.List.TakeWhile

/-!
# Which bytes are a text

The bytes of a character are one of ASCII, or a lead and one to three tails. Not all such bytes are
characters: what takes fewer bytes may not be written with more, surrogates are no characters, and
there is none beyond U+10FFFF (`CharBytes`). Bytes are the UTF-8 of a text exactly if they can be
cut into bytes of characters (`wellFormed_iff_exists_bytes`), and otherwise they begin with the
bytes of a text after which there is a definite fault (`not_wellFormed_iff_fault`).
-/

namespace HostLog.Text

/-- The byte goes on with a character. -/
def TailByte (b : UInt8) : Prop := 0x80 ≤ b.toNat ∧ b.toNat ≤ 0xBF

instance (b : UInt8) : Decidable (TailByte b) :=
  inferInstanceAs (Decidable (0x80 ≤ b.toNat ∧ b.toNat ≤ 0xBF))

/-- The bytes of one character. -/
inductive CharBytes : List UInt8 → Prop
  | one {a : UInt8} (ascii : a.toNat ≤ 0x7F) : CharBytes [a]
  | two {a b : UInt8} (lead : 0xC2 ≤ a.toNat ∧ a.toNat ≤ 0xDF) (second : TailByte b) :
      CharBytes [a, b]
  | three {a b c : UInt8} (lead : 0xE0 ≤ a.toNat ∧ a.toNat ≤ 0xEF) (second : TailByte b)
      (third : TailByte c) (not_overlong : a.toNat = 0xE0 → 0xA0 ≤ b.toNat)
      (not_surrogate : a.toNat = 0xED → b.toNat ≤ 0x9F) : CharBytes [a, b, c]
  | four {a b c d : UInt8} (lead : 0xF0 ≤ a.toNat ∧ a.toNat ≤ 0xF4) (second : TailByte b)
      (third : TailByte c) (fourth : TailByte d) (not_overlong : a.toNat = 0xF0 → 0x90 ≤ b.toNat)
      (not_beyond : a.toNat = 0xF4 → b.toNat ≤ 0x8F) : CharBytes [a, b, c, d]

inductive WellFormed : List UInt8 → Prop
  | nil : WellFormed []
  | append {s rest : List UInt8} (char : CharBytes s) (tail : WellFormed rest) :
      WellFormed (s ++ rest)

/-- The tails that a lead asks for. -/
def tailCount (lead : UInt8) : Nat :=
  if lead.toNat ≤ 0xDF then 1 else if lead.toNat ≤ 0xEF then 2 else 3

/-- What keeps bytes from beginning with a character. -/
inductive Fault : List UInt8 → Prop
  /-- A tail where a character should begin. -/
  | stray {b : UInt8} {rest : List UInt8} (tail : TailByte b) : Fault (b :: rest)
  /-- An ASCII character in two bytes. -/
  | overlongTwo {a : UInt8} {rest : List UInt8} (lead : a.toNat = 0xC0 ∨ a.toNat = 0xC1) :
      Fault (a :: rest)
  | overlongThree {a b : UInt8} {rest : List UInt8} (lead : a.toNat = 0xE0)
      (second : 0x80 ≤ b.toNat ∧ b.toNat < 0xA0) : Fault (a :: b :: rest)
  | overlongFour {a b : UInt8} {rest : List UInt8} (lead : a.toNat = 0xF0)
      (second : 0x80 ≤ b.toNat ∧ b.toNat < 0x90) : Fault (a :: b :: rest)
  | surrogate {a b : UInt8} {rest : List UInt8} (lead : a.toNat = 0xED)
      (second : 0xA0 ≤ b.toNat ∧ b.toNat ≤ 0xBF) : Fault (a :: b :: rest)
  /-- A code point from U+110000 on, with a lead that also begins characters. -/
  | beyond {a b : UInt8} {rest : List UInt8} (lead : a.toNat = 0xF4)
      (second : 0x90 ≤ b.toNat ∧ b.toNat ≤ 0xBF) : Fault (a :: b :: rest)
  | farBeyond {a : UInt8} {rest : List UInt8} (lead : 0xF5 ≤ a.toNat) : Fault (a :: rest)
  /-- A lead with fewer tails than it asks for, at the end or before something else. -/
  | truncated {a : UInt8} {tails rest : List UInt8} (lead : 0xC2 ≤ a.toNat ∧ a.toNat ≤ 0xF4)
      (tails_mem : ∀ b ∈ tails, TailByte b) (short : tails.length < tailCount a)
      (stop : ∀ b ∈ rest.head?, ¬TailByte b) : Fault (a :: (tails ++ rest))

/-! ### Characters -/

theorem toNat_byte {n : Nat} (h : n < 256) : (UInt8.ofNat n).toNat = n := by
  rw [UInt8.toNat_ofNat', Nat.mod_eq_of_lt h]

theorem tailByte_ofNat (n : Nat) : TailByte (UInt8.ofNat (n % 64 + 128)) := by
  rw [TailByte, toNat_byte (by omega)]
  omega

theorem charBytes_utf8EncodeChar (c : Char) : CharBytes (String.utf8EncodeChar c) := by
  have hvalid : c.val.toNat < 0xD800 ∨ 0xDFFF < c.val.toNat ∧ c.val.toNat < 0x110000 := c.valid
  unfold String.utf8EncodeChar
  generalize c.val.toNat = n at hvalid ⊢
  have hsecond : (UInt8.ofNat (n / 64 % 64 + 128)).toNat = n / 64 % 64 + 128 :=
    toNat_byte (by omega)
  dsimp only
  split
  · next hn =>
    refine .one ?_
    rwa [toNat_byte (by omega)]
  split
  · refine .two ?_ (tailByte_ofNat n)
    rw [toNat_byte (by omega)]
    omega
  split
  · have hlead : (UInt8.ofNat (n / 4096 % 16 + 224)).toNat = n / 4096 % 16 + 224 :=
      toNat_byte (by omega)
    refine .three ?_ (tailByte_ofNat (n / 64)) (tailByte_ofNat n) ?_ ?_ <;> omega
  · have hlead : (UInt8.ofNat (n / 262144 % 8 + 240)).toNat = n / 262144 % 8 + 240 :=
      toNat_byte (by omega)
    have hsecond : (UInt8.ofNat (n / 4096 % 64 + 128)).toNat = n / 4096 % 64 + 128 :=
      toNat_byte (by omega)
    refine .four ?_ (tailByte_ofNat (n / 4096)) (tailByte_ofNat (n / 64)) (tailByte_ofNat n) ?_ ?_
      <;> omega

/-- Bytes are determined by their values. -/
theorem ofNat_eq {n : Nat} {b : UInt8} (h : b.toNat = n) : UInt8.ofNat n = b := by
  rw [← h, UInt8.ofNat_toNat]

theorem exists_char_of_charBytes {s : List UInt8} (h : CharBytes s) :
    ∃ c, String.utf8EncodeChar c = s := by
  have hchar {n : Nat} (hn : n < 0xD800 ∨ 0xDFFF < n ∧ n < 0x110000) :
      ∃ c : Char, c.val.toNat = n := ⟨Char.ofNatAux n hn, rfl⟩
  unfold String.utf8EncodeChar
  rcases h with @⟨a, ha⟩ | @⟨a, b, ha, hb⟩ | @⟨a, b, c, ha, hb, hc, hlong, hsurrogate⟩ |
    @⟨a, b, c, d, ha, hb, hc, hd, hlong, hbeyond⟩
  · obtain ⟨x, hx⟩ := hchar (n := a.toNat) (by omega)
    refine ⟨x, ?_⟩
    dsimp only
    rw [hx, if_pos (by omega), UInt8.ofNat_toNat]
  · unfold TailByte at hb
    obtain ⟨x, hx⟩ := hchar (n := (a.toNat - 0xC0) * 64 + (b.toNat - 0x80)) (by omega)
    refine ⟨x, ?_⟩
    dsimp only
    rw [hx, if_neg (by omega), if_pos (by omega), ofNat_eq (b := a) (by omega),
      ofNat_eq (b := b) (by omega)]
  · unfold TailByte at hb hc
    obtain ⟨x, hx⟩ := hchar
      (n := ((a.toNat - 0xE0) * 64 + (b.toNat - 0x80)) * 64 + (c.toNat - 0x80)) (by omega)
    refine ⟨x, ?_⟩
    dsimp only
    rw [hx, if_neg (by omega), if_neg (by omega), if_pos (by omega), ofNat_eq (b := a) (by omega),
      ofNat_eq (b := b) (by omega), ofNat_eq (b := c) (by omega)]
  · unfold TailByte at hb hc hd
    obtain ⟨x, hx⟩ := hchar (n := (((a.toNat - 0xF0) * 64 + (b.toNat - 0x80)) * 64 +
      (c.toNat - 0x80)) * 64 + (d.toNat - 0x80)) (by omega)
    refine ⟨x, ?_⟩
    dsimp only
    rw [hx, if_neg (by omega), if_neg (by omega), if_neg (by omega), ofNat_eq (b := a) (by omega),
      ofNat_eq (b := b) (by omega), ofNat_eq (b := c) (by omega), ofNat_eq (b := d) (by omega)]

/-! ### Texts -/

theorem bytes_cons (c : Char) (text : String) :
    bytes (String.ofList (c :: text.toList)) = String.utf8EncodeChar c ++ bytes text := by
  rw [bytes_eq_flatMap, bytes_eq_flatMap, String.toList_ofList, List.flatMap_cons]

theorem wellFormed_iff_exists_bytes {s : List UInt8} :
    WellFormed s ↔ ∃ text, bytes text = s := by
  constructor
  · intro h
    induction h with
    | nil => exact ⟨"", rfl⟩
    | append hchar _ ih =>
      obtain ⟨c, rfl⟩ := exists_char_of_charBytes hchar
      obtain ⟨text, rfl⟩ := ih
      exact ⟨String.ofList (c :: text.toList), bytes_cons c text⟩
  · rintro ⟨text, rfl⟩
    rw [bytes_eq_flatMap]
    induction text.toList with
    | nil => exact .nil
    | cons c cs ih => exact .append (charBytes_utf8EncodeChar c) ih

/-- Decoding finds the text that the bytes are, if there is one. -/
theorem fromUTF8?_eq_some_iff {content : ByteArray} {text : String} :
    String.fromUTF8? content = some text ↔ bytes text = content.data.toList := by
  have hbytes : bytes text = content.data.toList ↔ text.toUTF8 = content := by
    rw [bytes, Array.toList_inj, ByteArray.ext_iff]
  rw [hbytes]
  constructor
  · intro h
    unfold String.fromUTF8? at h
    split at h
    · cases h
      rfl
    · cases h
  · rintro rfl
    rw [String.toUTF8_eq_toByteArray, String.fromUTF8?, dif_pos text.isValidUTF8]
    rfl

/-- Lead and tails of a character of more than one byte. -/
theorem CharBytes.tails {a : UInt8} {us : List UInt8} (h : CharBytes (a :: us)) :
    a.toNat ≤ 0x7F ∧ us = [] ∨
      (0xC2 ≤ a.toNat ∧ a.toNat ≤ 0xF4) ∧ us.length = tailCount a ∧ ∀ b ∈ us, TailByte b := by
  unfold tailCount
  rcases h with ha | ⟨ha, hb⟩ | ⟨ha, hb, hc, -, -⟩ | ⟨ha, hb, hc, hd, -, -⟩
  · exact .inl ⟨ha, rfl⟩
  · refine .inr ⟨by omega, ?_, by simp [hb]⟩
    rw [if_pos (by omega)]
    rfl
  · refine .inr ⟨by omega, ?_, by simp [hb, hc]⟩
    rw [if_neg (by omega), if_pos (by omega)]
    rfl
  · refine .inr ⟨by omega, ?_, by simp [hb, hc, hd]⟩
    rw [if_neg (by omega), if_neg (by omega)]
    rfl

theorem CharBytes.exists_cons {s : List UInt8} (h : CharBytes s) : ∃ a us, s = a :: us := by
  cases h <;> exact ⟨_, _, rfl⟩

/-- Bytes begin with one character at most. -/
theorem CharBytes.append_inj {s s' rest rest' : List UInt8} (h : CharBytes s) (h' : CharBytes s')
    (heq : s ++ rest = s' ++ rest') : s = s' ∧ rest = rest' := by
  obtain ⟨a, us, rfl⟩ := h.exists_cons
  obtain ⟨a', us', rfl⟩ := h'.exists_cons
  obtain ⟨rfl, -⟩ := List.cons.inj heq
  refine List.append_inj heq (congrArg Nat.succ ?_)
  rcases h.tails with ⟨ha, rfl⟩ | ⟨ha, hlength, -⟩ <;>
    rcases h'.tails with ⟨ha', rfl⟩ | ⟨ha', hlength', -⟩
  · rfl
  · omega
  · omega
  · rw [hlength, hlength']

theorem wellFormed_append_iff {s rest : List UInt8} (h : CharBytes s) :
    WellFormed (s ++ rest) ↔ WellFormed rest := by
  refine ⟨fun hw => ?_, .append h⟩
  generalize heq : s ++ rest = t at hw
  cases hw with
  | nil =>
    obtain ⟨a, us, rfl⟩ := h.exists_cons
    cases heq
  | append h' htail =>
    obtain ⟨-, rfl⟩ := h.append_inj h' heq
    exact htail

theorem wellFormed_bytes_append_iff {text : String} {rest : List UInt8} :
    WellFormed (bytes text ++ rest) ↔ WellFormed rest := by
  rw [bytes_eq_flatMap]
  induction text.toList with
  | nil => rfl
  | cons c cs ih =>
    rw [List.flatMap_cons, List.append_assoc,
      wellFormed_append_iff (charBytes_utf8EncodeChar c), ih]

/-! ### Faults -/

theorem tailCount_pos (a : UInt8) : 0 < tailCount a := by
  unfold tailCount
  split
  · decide
  · split <;> decide

/-- The second byte of a character keeps the bounds that its lead sets. -/
theorem CharBytes.second {a b : UInt8} {us : List UInt8} (h : CharBytes (a :: b :: us)) :
    (a.toNat = 0xE0 → 0xA0 ≤ b.toNat) ∧ (a.toNat = 0xED → b.toNat ≤ 0x9F) ∧
      (a.toNat = 0xF0 → 0x90 ≤ b.toNat) ∧ (a.toNat = 0xF4 → b.toNat ≤ 0x8F) := by
  rcases h with _ | ⟨ha, -⟩ | ⟨ha, -, -, hlong, hsurrogate⟩ | ⟨ha, -, -, -, hlong, hbeyond⟩
  · omega
  · exact ⟨hlong, hsurrogate, by omega, by omega⟩
  · exact ⟨by omega, by omega, hlong, hbeyond⟩

/-- A lead that sets bounds is followed by the byte that they are for. -/
theorem CharBytes.exists_second {a : UInt8} {us : List UInt8} (h : CharBytes (a :: us))
    (ha : 0xE0 ≤ a.toNat) : ∃ b us', us = b :: us' := by
  rcases h.tails with ⟨hascii, -⟩ | ⟨-, hlength, -⟩
  · omega
  · exact List.exists_cons_of_length_pos (hlength ▸ tailCount_pos a)

theorem CharBytes.not_truncated {a : UInt8} {us rest tails rest' : List UInt8}
    (h : CharBytes (a :: us)) (ha : 0xC2 ≤ a.toNat) (hshort : tails.length < tailCount a)
    (hstop : ∀ b ∈ rest'.head?, ¬TailByte b) : us ++ rest ≠ tails ++ rest' := by
  intro heq
  rcases h.tails with ⟨hascii, -⟩ | ⟨-, hlength, hmem⟩
  · omega
  · rcases List.append_eq_append_iff.1 heq with ⟨m, rfl, -⟩ | ⟨m, rfl, rfl⟩
    · rw [List.length_append] at hshort
      omega
    · cases m with
      | nil =>
        rw [List.append_nil] at hlength
        omega
      | cons b m => exact hstop b rfl (hmem b (by simp))

theorem CharBytes.not_fault {s rest : List UInt8} (h : CharBytes s) : ¬Fault (s ++ rest) := by
  intro hf
  obtain ⟨a, us, rfl⟩ := h.exists_cons
  have hlead := h.tails
  generalize heq : a :: us ++ rest = t at hf
  cases hf with
  | stray htail =>
    obtain ⟨rfl, -⟩ := List.cons.inj heq
    unfold TailByte at htail
    omega
  | overlongTwo ha | farBeyond ha =>
    obtain ⟨rfl, -⟩ := List.cons.inj heq
    omega
  | overlongThree ha hb | overlongFour ha hb | surrogate ha hb | beyond ha hb =>
    obtain ⟨rfl, htail⟩ := List.cons.inj heq
    obtain ⟨b, us, rfl⟩ := h.exists_second (by omega)
    obtain ⟨rfl, -⟩ := List.cons.inj htail
    have hsecond := h.second
    omega
  | truncated ha _ hshort hstop =>
    obtain ⟨rfl, htail⟩ := List.cons.inj heq
    exact h.not_truncated ha.1 hshort hstop htail

/-- The tails at the beginning. -/
theorem exists_tails (s : List UInt8) : ∃ tails rest, s = tails ++ rest ∧
    (∀ b ∈ tails, TailByte b) ∧ ∀ b ∈ rest.head?, ¬TailByte b := by
  refine ⟨s.takeWhile (TailByte ·), s.dropWhile (TailByte ·),
    List.takeWhile_append_dropWhile.symm, fun b hb => ?_, fun b hb => ?_⟩
  · exact of_decide_eq_true (List.mem_takeWhile_imp (p := fun b => decide (TailByte b)) hb)
  · have hnot := List.head?_dropWhile_not (fun b : UInt8 => decide (TailByte b)) s
    rw [Option.mem_def.1 hb] at hnot
    simpa using hnot

theorem charBytes_three_or_fault {a b c : UInt8} (ha : 0xE0 ≤ a.toNat ∧ a.toNat ≤ 0xEF)
    (hb : TailByte b) (hc : TailByte c) (rest : List UInt8) :
    CharBytes [a, b, c] ∨ Fault (a :: b :: rest) := by
  by_cases hlong : a.toNat = 0xE0 ∧ b.toNat < 0xA0
  · exact .inr (.overlongThree hlong.1 ⟨hb.1, hlong.2⟩)
  by_cases hsurrogate : a.toNat = 0xED ∧ 0xA0 ≤ b.toNat
  · exact .inr (.surrogate hsurrogate.1 ⟨hsurrogate.2, hb.2⟩)
  exact .inl (.three ha hb hc (by omega) (by omega))

theorem charBytes_four_or_fault {a b c d : UInt8} (ha : 0xF0 ≤ a.toNat ∧ a.toNat ≤ 0xF4)
    (hb : TailByte b) (hc : TailByte c) (hd : TailByte d) (rest : List UInt8) :
    CharBytes [a, b, c, d] ∨ Fault (a :: b :: rest) := by
  by_cases hlong : a.toNat = 0xF0 ∧ b.toNat < 0x90
  · exact .inr (.overlongFour hlong.1 ⟨hb.1, hlong.2⟩)
  by_cases hlimit : a.toNat = 0xF4 ∧ 0x90 ≤ b.toNat
  · exact .inr (.beyond hlimit.1 ⟨hlimit.2, hb.2⟩)
  exact .inl (.four ha hb hc hd (by omega) (by omega))

/-- After a lead with enough tails only the second byte can be at fault. -/
theorem charBytes_or_fault_of_tails {a : UInt8} {tails : List UInt8}
    (ha : 0xC2 ≤ a.toNat ∧ a.toNat ≤ 0xF4) (htails : ∀ b ∈ tails, TailByte b)
    (hlength : tailCount a ≤ tails.length) (rest : List UInt8) :
    (∃ t rest', CharBytes t ∧ a :: (tails ++ rest) = t ++ rest') ∨
      Fault (a :: (tails ++ rest)) := by
  obtain ⟨b, tails, rfl⟩ := List.exists_cons_of_length_pos ((tailCount_pos a).trans_le hlength)
  obtain ⟨hb, htails⟩ := List.forall_mem_cons.1 htails
  rw [List.length_cons, tailCount] at hlength
  by_cases htwo : a.toNat ≤ 0xDF
  · exact .inl ⟨[a, b], tails ++ rest, .two ⟨ha.1, htwo⟩ hb, rfl⟩
  rw [if_neg htwo] at hlength
  have hsecond : 0 < tails.length := by split at hlength <;> omega
  obtain ⟨c, tails, rfl⟩ := List.exists_cons_of_length_pos hsecond
  obtain ⟨hc, htails⟩ := List.forall_mem_cons.1 htails
  rw [List.length_cons] at hlength
  by_cases hthree : a.toNat ≤ 0xEF
  · refine (charBytes_three_or_fault ⟨by omega, hthree⟩ hb hc _).imp_left fun h => ?_
    exact ⟨_, tails ++ rest, h, rfl⟩
  rw [if_neg hthree] at hlength
  have hthird : 0 < tails.length := by omega
  obtain ⟨d, tails, rfl⟩ := List.exists_cons_of_length_pos hthird
  obtain ⟨hd, -⟩ := List.forall_mem_cons.1 htails
  refine (charBytes_four_or_fault ⟨by omega, ha.2⟩ hb hc hd _).imp_left fun h => ?_
  exact ⟨_, tails ++ rest, h, rfl⟩

theorem charBytes_or_fault (a : UInt8) (s : List UInt8) :
    (∃ t rest, CharBytes t ∧ a :: s = t ++ rest) ∨ Fault (a :: s) := by
  by_cases hascii : a.toNat ≤ 0x7F
  · exact .inl ⟨[a], s, .one hascii, rfl⟩
  by_cases hstray : a.toNat ≤ 0xBF
  · exact .inr (.stray ⟨by omega, hstray⟩)
  by_cases hoverlong : a.toNat ≤ 0xC1
  · exact .inr (.overlongTwo (by omega))
  by_cases hbeyond : 0xF5 ≤ a.toNat
  · exact .inr (.farBeyond hbeyond)
  have hlead : 0xC2 ≤ a.toNat ∧ a.toNat ≤ 0xF4 := by omega
  obtain ⟨tails, rest, rfl, htails, hstop⟩ := exists_tails s
  rcases Nat.lt_or_ge tails.length (tailCount a) with hshort | hlength
  · exact .inr (.truncated hlead htails hshort hstop)
  · exact charBytes_or_fault_of_tails hlead htails hlength rest

theorem WellFormed.not_fault {s : List UInt8} (h : WellFormed s) : ¬Fault s := by
  cases h with
  | nil => exact nofun
  | append hchar _ => exact hchar.not_fault

theorem exists_fault {s : List UInt8} (h : ¬WellFormed s) :
    ∃ text rest, s = bytes text ++ rest ∧ Fault rest := by
  induction hn : s.length using Nat.strongRecOn generalizing s with
  | ind n ih =>
    cases s with
    | nil => exact absurd .nil h
    | cons a s =>
      rcases charBytes_or_fault a s with ⟨t, rest, hchar, heq⟩ | hfault
      · rw [heq] at h hn ⊢
        obtain ⟨b, us, rfl⟩ := hchar.exists_cons
        have hlt : rest.length < n := by
          rw [← hn, List.length_append, List.length_cons]
          omega
        obtain ⟨text, rest', rfl, hfault⟩ := ih _ hlt (mt (wellFormed_append_iff hchar).2 h) rfl
        obtain ⟨c, hc⟩ := exists_char_of_charBytes hchar
        refine ⟨String.ofList (c :: text.toList), rest', ?_, hfault⟩
        rw [bytes_cons, hc, List.append_assoc]
      · exact ⟨"", a :: s, rfl, hfault⟩

/-- Bytes that are no text begin with the bytes of one, and what follows these is at fault. -/
theorem not_wellFormed_iff_fault {s : List UInt8} :
    ¬WellFormed s ↔ ∃ text rest, s = bytes text ++ rest ∧ Fault rest := by
  refine ⟨exists_fault, ?_⟩
  rintro ⟨text, rest, rfl, hfault⟩ h
  exact (wellFormed_bytes_append_iff.1 h).not_fault hfault

end HostLog.Text
