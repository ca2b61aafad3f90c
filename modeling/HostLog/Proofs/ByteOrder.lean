/-!
# The order of texts and of their bytes

Texts are ordered by their code points, and UTF-8 keeps that order: it is also the order of the
bytes (`Text.bytes_lt_bytes`). Code points of more bytes begin with a greater byte, and among those
of equally many the first of the digits to base 64 that differ decides, in the one order as in the
other.
-/

namespace HostLog.Text

/-- The bytes of a text in UTF-8. -/
def bytes (text : String) : List UInt8 := text.toUTF8.data.toList

theorem bytes_eq_flatMap (text : String) :
    bytes text = text.toList.flatMap String.utf8EncodeChar := by
  have h : text.toByteArray = text.toList.utf8Encode := by
    rw [← String.toByteArray_ofList, String.ofList_toList]
  rw [bytes, String.toUTF8_eq_toByteArray, h, List.utf8Encode, List.toList_data_toByteArray]

theorem lt_iff_div_sixtyFour {m n : Nat} :
    m < n ↔ m / 64 < n / 64 ∨ m / 64 = n / 64 ∧ m % 64 < n % 64 := by
  omega

theorem utf8EncodeChar_append_lt {a b : Char} (h : a < b) (s t : List UInt8) :
    String.utf8EncodeChar a ++ s < String.utf8EncodeChar b ++ t := by
  have hlt : a.val.toNat < b.val.toNat := h
  have hle : b.val.toNat < 0x110000 := by
    rcases b.valid with hv | hv
    · omega
    · exact hv.2
  unfold String.utf8EncodeChar
  generalize a.val.toNat = m at hlt
  generalize b.val.toNat = n at hlt hle
  dsimp only
  repeat' split
  all_goals simp only [List.cons_append, List.nil_append, List.cons_lt_cons_iff,
    UInt8.lt_iff_toNat_lt, ← UInt8.toNat_inj, UInt8.toNat_ofNat']
  case isFalse.isFalse.isFalse.isFalse.isFalse.isFalse =>
    -- four digits on both sides; the greatest one stands in the first byte
    have hm : m / 4096 = m / 64 / 64 ∧ m / 262144 = m / 64 / 64 / 64 := by omega
    have hn : n / 4096 = n / 64 / 64 ∧ n / 262144 = n / 64 / 64 / 64 := by omega
    rw [hm.1, hm.2, hn.1, hn.2]
    rcases lt_iff_div_sixtyFour.1 hlt with h | ⟨heq, hlast⟩
    · rcases lt_iff_div_sixtyFour.1 h with h | ⟨heq, hthird⟩
      · rcases lt_iff_div_sixtyFour.1 h with hfirst | ⟨heq, hsecond⟩
        · exact .inl (by omega)
        · exact .inr ⟨by rw [heq], .inl (by omega)⟩
      · exact .inr ⟨by rw [heq], .inr ⟨by rw [heq], .inl (by omega)⟩⟩
    · exact .inr ⟨by rw [heq], .inr ⟨by rw [heq], .inr ⟨by rw [heq], .inl (by omega)⟩⟩⟩
  all_goals omega

theorem flatMap_utf8EncodeChar_lt {s t : List Char} (h : s < t) :
    s.flatMap String.utf8EncodeChar < t.flatMap String.utf8EncodeChar := by
  induction s generalizing t with
  | nil =>
    cases t with
    | nil => exact absurd h (List.not_lt_nil [])
    | cons b t =>
      obtain ⟨x, xs, hx⟩ : ∃ x xs, String.utf8EncodeChar b = x :: xs :=
        List.exists_cons_of_length_pos (by rw [String.length_utf8EncodeChar]; exact b.utf8Size_pos)
      rw [List.flatMap_cons, hx]
      exact List.nil_lt_cons _ _
  | cons a s ih =>
    cases t with
    | nil => exact absurd h (List.not_lt_nil _)
    | cons b t =>
      rw [List.flatMap_cons, List.flatMap_cons]
      rcases List.cons_lt_cons_iff.1 h with hab | ⟨rfl, hst⟩
      · exact utf8EncodeChar_append_lt hab _ _
      · exact List.append_left_lt (ih hst)

theorem bytes_lt_bytes {s t : String} (h : s < t) : bytes s < bytes t := by
  rw [bytes_eq_flatMap, bytes_eq_flatMap]
  exact flatMap_utf8EncodeChar_lt h

end HostLog.Text
