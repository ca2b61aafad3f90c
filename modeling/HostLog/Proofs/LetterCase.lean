import Mathlib.Data.Char
import Mathlib.Data.List.Forall2

/-!
# The case of letters

Changing the case of letters moves those of ASCII and nothing else. So a text becomes a given one in
small letters, or in capitals, exactly if it is this one up to the case of single letters
(`map_toLower_eq_iff`, `map_toUpper_eq_iff`).
-/

namespace HostLog.Text

variable {c d : Char} {s t : List Char}

theorem toLower_eq_iff (h : 'a' ≤ d ∧ d ≤ 'z') : c.toLower = d ↔ c = d ∨ c = d.toUpper := by
  have hd : 97 ≤ d.toNat ∧ d.toNat ≤ 122 := h
  have hc : c.toNat < 4294967296 := c.val.toNat_lt
  unfold Char.toLower Char.toUpper
  rw [dif_pos (show d.val ≥ 'a'.val ∧ d.val ≤ 'z'.val from h)]
  split <;> next hupper =>
    -- to numbers, where moving between the cases is adding or taking away 32
    simp only [ge_iff_le, UInt32.le_iff_toNat_le, Char.ext_iff, ← UInt32.toNat_inj,
      UInt32.toNat_add, Char.toNat_val, Char.reduceVal, UInt32.reduceSub, UInt32.reduceToNat]
      at hupper ⊢
    omega

theorem toUpper_eq_iff (h : 'A' ≤ d ∧ d ≤ 'Z') : c.toUpper = d ↔ c = d ∨ c = d.toLower := by
  have hd : 65 ≤ d.toNat ∧ d.toNat ≤ 90 := h
  have hc : c.toNat < 4294967296 := c.val.toNat_lt
  unfold Char.toLower Char.toUpper
  rw [dif_pos (show d.val ≥ 'A'.val ∧ d.val ≤ 'Z'.val from h)]
  split <;> next hlower =>
    simp only [UInt32.le_iff_toNat_le, Char.ext_iff, ← UInt32.toNat_inj,
      UInt32.toNat_add, Char.toNat_val, Char.reduceVal, UInt32.reduceSub, UInt32.reduceToNat]
      at hlower ⊢
    omega

theorem toNat_toLower (h : 'A' ≤ d ∧ d ≤ 'Z') : d.toLower.toNat = d.toNat + 32 := by
  have hd : 65 ≤ d.toNat ∧ d.toNat ≤ 90 := h
  unfold Char.toLower
  rw [dif_pos (show d.val ≥ 'A'.val ∧ d.val ≤ 'Z'.val from h)]
  simp only [← Char.toNat_val, UInt32.toNat_add, UInt32.reduceSub, Char.reduceVal,
    UInt32.reduceToNat] at hd ⊢
  omega

theorem toNat_toUpper (c : Char) : c.toUpper.toNat =
    if 97 ≤ c.toNat ∧ c.toNat ≤ 122 then c.toNat - 32 else c.toNat := by
  have hc : c.toNat < 4294967296 := c.val.toNat_lt
  unfold Char.toUpper
  split <;> next h =>
    simp only [UInt32.le_iff_toNat_le, Char.toNat_val, Char.reduceVal, UInt32.reduceToNat] at h
    simp only [← Char.toNat_val, UInt32.toNat_add, UInt32.reduceSub, Char.reduceVal,
      UInt32.reduceToNat] at h hc ⊢
    split <;> omega

theorem map_eq_iff_forall₂ {f : Char → Char} {R : Char → Char → Prop}
    (h : ∀ d ∈ t, ∀ c, f c = d ↔ R c d) : s.map f = t ↔ List.Forall₂ R s t := by
  induction t generalizing s with
  | nil => rw [List.map_eq_nil_iff, List.forall₂_nil_right_iff]
  | cons d t ih =>
    cases s with
    | nil => exact ⟨nofun, nofun⟩
    | cons c s =>
      rw [List.map_cons, List.cons.injEq, List.forall₂_cons, h d List.mem_cons_self,
        ih fun d hd => h d (List.mem_cons_of_mem _ hd)]

theorem map_toLower_eq_iff (h : ∀ d ∈ t, 'a' ≤ d ∧ d ≤ 'z') :
    s.map Char.toLower = t ↔ List.Forall₂ (fun c d => c = d ∨ c = d.toUpper) s t :=
  map_eq_iff_forall₂ fun d hd _ => toLower_eq_iff (h d hd)

theorem map_toUpper_eq_iff (h : ∀ d ∈ t, 'A' ≤ d ∧ d ≤ 'Z') :
    s.map Char.toUpper = t ↔ List.Forall₂ (fun c d => c = d ∨ c = d.toLower) s t :=
  map_eq_iff_forall₂ fun d hd _ => toUpper_eq_iff (h d hd)

end HostLog.Text
