import HostLog.Json.Strings
import Mathlib.Data.Char

/-!
# How strings are spelt

`Spells t s` says that `t` is a way to write the characters `s` between the quotes of a document:
each one by itself, unless it is a quote, a backslash or a control, or by an escape. An escape is a
letter, or `u` and a unit of four hexadecimal digits, or two such units, which then are the
surrogates of one character beyond U+FFFF; a surrogate without its partner spells nothing. Reading
a string accepts exactly the spellings (`readString_eq_ok_iff`), and writing one produces a spelling
(`spells_flatMap_escapeChar`).
-/

namespace HostLog.Json

/-- The digits of base sixteen, in either case. -/
def hexDigits : List (List Char) :=
  [['0', '1', '2', '3', '4', '5', '6', '7', '8', '9', 'a', 'b', 'c', 'd', 'e', 'f'],
    ['0', '1', '2', '3', '4', '5', '6', '7', '8', '9', 'A', 'B', 'C', 'D', 'E', 'F']]

def HexDigit (c : Char) (n : Nat) : Prop := ∃ ds ∈ hexDigits, ds[n]? = some c

inductive HexUnit : List Char → Nat → Prop
  | digits {a b c d : Char} {i j k l : Nat} (ha : HexDigit a i) (hb : HexDigit b j)
      (hc : HexDigit c k) (hd : HexDigit d l) :
      HexUnit [a, b, c, d] (((i * 16 + j) * 16 + k) * 16 + l)

/-- The letters that make an escape by themselves, and what they stand for. -/
def shortEscapes : List (Char × Char) :=
  [('"', '"'), ('\\', '\\'), ('/', '/'), ('b', '\x08'), ('f', '\x0c'), ('n', '\n'), ('r', '\r'),
    ('t', '\t')]

/-- What may follow a backslash, and the character that it stands for. -/
inductive Escape : List Char → Char → Prop
  | short {e c : Char} (mem : (e, c) ∈ shortEscapes) : Escape [e] c
  | unit {u : List Char} {c : Char} (unit : HexUnit u c.toNat) : Escape ('u' :: u) c
  | pair {u v : List Char} {h l : Nat} {c : Char} (lead : HexUnit u h) (trail : HexUnit v l)
      (lead_mem : 0xD800 ≤ h ∧ h ≤ 0xDBFF) (trail_mem : 0xDC00 ≤ l ∧ l ≤ 0xDFFF)
      (value : c.toNat = 0x10000 + (h - 0xD800) * 0x400 + (l - 0xDC00)) :
      Escape ('u' :: (u ++ '\\' :: 'u' :: v)) c

inductive Spells : List Char → List Char → Prop
  | nil : Spells [] []
  | plain {c : Char} {t s : List Char} (ne_quote : c ≠ '"') (ne_backslash : c ≠ '\\')
      (not_control : ¬c < ' ') (tail : Spells t s) : Spells (c :: t) (c :: s)
  | escape {e : List Char} {c : Char} {t s : List Char} (escape : Escape e c) (tail : Spells t s) :
      Spells ('\\' :: (e ++ t)) (c :: s)

/-! ### Units -/

theorem HexDigit.lt {c : Char} {n : Nat} (h : HexDigit c n) : n < 16 := by
  obtain ⟨ds, hds, hc⟩ := h
  obtain ⟨hlt, -⟩ := List.getElem?_eq_some_iff.1 hc
  simp only [hexDigits, List.mem_cons, List.not_mem_nil, or_false] at hds
  rcases hds with rfl | rfl <;> exact hlt

theorem hexDigit?_eq_some_iff {c : Char} {n : Nat} : hexDigit? c = some n ↔ HexDigit c n := by
  constructor
  · intro h
    have hlt : c.toNat < 128 := by
      unfold hexDigit? at h
      split at h
      · next hc => have : c.toNat ≤ 57 := hc.2; omega
      · split at h
        · next hc => have : c.toNat ≤ 102 := hc.2; omega
        · split at h
          · next hc => have : c.toNat ≤ 70 := hc.2; omega
          · cases h
    -- so there are few characters to look at
    have hall : ∀ m < 128, ∀ n ∈ hexDigit? (Char.ofNat m), HexDigit (Char.ofNat m) n := by
      unfold HexDigit; decide
    have hc := hall c.toNat hlt n
    rw [Char.ofNat_toNat] at hc
    exact hc h
  · intro h
    have hall : ∀ ds ∈ hexDigits, ∀ n < 16, ds[n]?.bind hexDigit? = some n := by decide
    have hlt := h.lt
    obtain ⟨ds, hds, hc⟩ := h
    have hvalue := hall ds hds n hlt
    rwa [hc] at hvalue

theorem HexUnit.lt {u : List Char} {n : Nat} (h : HexUnit u n) : n < 0x10000 := by
  obtain ⟨ha, hb, hc, hd⟩ := h
  have := ha.lt
  have := hb.lt
  have := hc.lt
  have := hd.lt
  omega

theorem hexUnit?_eq_some_iff {s rest : List Char} {n : Nat} :
    hexUnit? s = some (n, rest) ↔ ∃ u, s = u ++ rest ∧ HexUnit u n := by
  constructor
  · intro h
    unfold hexUnit? at h
    split at h
    · simp only [Option.bind_eq_bind, Option.bind_eq_some_iff, Option.some.injEq, Prod.mk.injEq]
        at h
      obtain ⟨i, hi, j, hj, k, hk, l, hl, rfl, rfl⟩ := h
      exact ⟨_, rfl, .digits (hexDigit?_eq_some_iff.1 hi) (hexDigit?_eq_some_iff.1 hj)
        (hexDigit?_eq_some_iff.1 hk) (hexDigit?_eq_some_iff.1 hl)⟩
    · cases h
  · rintro ⟨u, rfl, ha, hb, hc, hd⟩
    simp only [hexUnit?, List.cons_append, List.nil_append, hexDigit?_eq_some_iff.2 ha,
      hexDigit?_eq_some_iff.2 hb, hexDigit?_eq_some_iff.2 hc, hexDigit?_eq_some_iff.2 hd,
      Option.bind_eq_bind, Option.bind_some]

theorem readUnit_eq_ok_iff {s rest : List Char} {n : Nat} :
    readUnit s = .ok (n, rest) ↔ ∃ u, s = u ++ rest ∧ HexUnit u n := by
  rw [← hexUnit?_eq_some_iff, readUnit]
  cases hexUnit? s with
  | some r => simp
  | none => simp only [reduceCtorEq, iff_false]; split <;> nofun

/-! ### Escapes -/

theorem toNat_ofNat {n : Nat} (h : n < 0xD800 ∨ 0xDFFF < n ∧ n < 0x110000) :
    (Char.ofNat n).toNat = n := by
  rw [Char.ofNat, dif_pos h]
  rfl

theorem isLeadSurrogate_iff {n : Nat} : isLeadSurrogate n ↔ 0xD800 ≤ n ∧ n ≤ 0xDBFF := by
  simp [isLeadSurrogate]

theorem isTrailSurrogate_iff {n : Nat} : isTrailSurrogate n ↔ 0xDC00 ≤ n ∧ n ≤ 0xDFFF := by
  simp [isTrailSurrogate]

theorem shortEscape?_eq_some_iff {e c : Char} :
    shortEscape? e = some c ↔ (e, c) ∈ shortEscapes := by
  unfold shortEscape? shortEscapes
  split <;> simp_all [eq_comm]

theorem readTrail_eq_ok_iff {h : Nat} {s rest : List Char} {c : Char} (hh : isLeadSurrogate h) :
    readTrail h s = .ok (c, rest) ↔ ∃ v l, s = '\\' :: 'u' :: (v ++ rest) ∧ HexUnit v l ∧
      (0xDC00 ≤ l ∧ l ≤ 0xDFFF) ∧ c.toNat = 0x10000 + (h - 0xD800) * 0x400 + (l - 0xDC00) := by
  rw [isLeadSurrogate_iff] at hh
  constructor
  · intro hr
    unfold readTrail at hr
    split at hr
    · next s =>
      obtain ⟨⟨l, r⟩, hu, hc⟩ := exists_of_bind_eq_ok hr
      obtain ⟨v, hs, hv⟩ := readUnit_eq_ok_iff.1 hu
      dsimp only at hc
      split at hc
      · next hl =>
        obtain ⟨rfl, rfl⟩ := Prod.mk.inj (Except.ok.inj hc)
        rw [isTrailSurrogate_iff] at hl
        exact ⟨v, l, by rw [hs], hv, hl, toNat_ofNat (by omega)⟩
      · cases hc
    all_goals cases hr
  · rintro ⟨v, l, rfl, hv, hl, hc⟩
    have hu : readUnit (v ++ rest) = .ok (l, rest) := readUnit_eq_ok_iff.2 ⟨v, rfl, hv⟩
    have hof : ofSurrogates h l = c := by rw [ofSurrogates, ← hc, Char.ofNat_toNat]
    rw [readTrail, hu]
    show (if isTrailSurrogate l then Except.ok (ofSurrogates h l, rest) else _) = _
    rw [if_pos (isTrailSurrogate_iff.2 hl), hof]

theorem readEscape_unit {u : List Char} {n : Nat} (hu : HexUnit u n) (r : List Char) :
    readEscape ('u' :: (u ++ r)) =
      if isTrailSurrogate n then .error (.before .loneSurrogate r)
      else if isLeadSurrogate n then readTrail n r
      else .ok (Char.ofNat n, r) := by
  rw [readEscape, readUnit_eq_ok_iff.2 ⟨u, rfl, hu⟩]
  rfl

theorem escape_of_readEscape {s rest : List Char} {c : Char} (h : readEscape s = .ok (c, rest)) :
    ∃ e, s = e ++ rest ∧ Escape e c := by
  unfold readEscape at h
  split at h
  · cases h
  · next s =>
    obtain ⟨⟨n, r⟩, hr, hc⟩ := exists_of_bind_eq_ok h
    obtain ⟨u, rfl, hu⟩ := readUnit_eq_ok_iff.1 hr
    dsimp only at hc
    split at hc
    · cases hc
    · next htrail =>
      rw [isTrailSurrogate_iff] at htrail
      split at hc
      · next hlead =>
        obtain ⟨v, l, rfl, hv, hl, hval⟩ := (readTrail_eq_ok_iff hlead).1 hc
        refine ⟨'u' :: (u ++ '\\' :: 'u' :: v), by simp, ?_⟩
        exact .pair hu hv (isLeadSurrogate_iff.1 hlead) hl hval
      · next hlead =>
        obtain ⟨rfl, rfl⟩ := Prod.mk.inj (Except.ok.inj hc)
        rw [isLeadSurrogate_iff] at hlead
        have hlt := hu.lt
        refine ⟨'u' :: u, rfl, .unit ?_⟩
        rwa [toNat_ofNat (by omega)]
  · next e s _ =>
    split at h
    · next hshort =>
      cases h
      exact ⟨[e], rfl, .short (shortEscape?_eq_some_iff.1 hshort)⟩
    · cases h

theorem readEscape_of_escape {e : List Char} {c : Char} (he : Escape e c) (rest : List Char) :
    readEscape (e ++ rest) = .ok (c, rest) := by
  cases he with
  | @short e _ hmem =>
    have hshort := shortEscape?_eq_some_iff.2 hmem
    have hne : e ≠ 'u' := by rintro rfl; cases hshort
    rw [List.singleton_append, readEscape, hshort]
    exact hne
  | unit hu =>
    -- a character is never a surrogate
    have hvalid : c.toNat < 0xD800 ∨ 0xDFFF < c.toNat ∧ c.toNat < 0x110000 := c.valid
    have htrail : ¬isTrailSurrogate c.toNat := by rw [isTrailSurrogate_iff]; omega
    have hlead : ¬isLeadSurrogate c.toNat := by rw [isLeadSurrogate_iff]; omega
    rw [List.cons_append, readEscape_unit hu, if_neg htrail, if_neg hlead, Char.ofNat_toNat]
  | @pair u v h l _ hu hv hh hl hval =>
    have htrail : ¬isTrailSurrogate h := by rw [isTrailSurrogate_iff]; omega
    have hlead : isLeadSurrogate h := isLeadSurrogate_iff.2 hh
    rw [List.cons_append, List.append_assoc, readEscape_unit hu, if_neg htrail, if_pos hlead,
      readTrail_eq_ok_iff hlead]
    exact ⟨v, l, rfl, hv, hl, hval⟩

/-! ### Strings -/

theorem readString_escape {r r' : List Char} {c : Char} (h : readEscape r = .ok (c, r')) :
    readString ('\\' :: r) = (readString r').map fun (cs, rest) => (c :: cs, rest) := by
  generalize hs : '\\' :: r = s
  fun_cases readString s with
  | case1 => cases hs
  | case2 => exact absurd (List.cons.inj hs).1 (by decide)
  | case3 _ _ hf => cases hs; cases h.symm.trans hf
  | case4 _ _ _ hc => cases hs; cases h.symm.trans hc; rfl
  | case5 _ _ _ hb | case6 _ _ _ hb => exact absurd (List.cons.inj hs).1.symm hb

theorem readString_plain {c : Char} (hq : c ≠ '"') (hb : c ≠ '\\') (hc : ¬c < ' ')
    (r : List Char) :
    readString (c :: r) = (readString r).map fun (cs, rest) => (c :: cs, rest) := by
  rw [readString, if_neg hc]
  · exact hq
  · exact hb

theorem spells_of_readString {s cs rest : List Char} (h : readString s = .ok (cs, rest)) :
    ∃ t, s = t ++ '"' :: rest ∧ Spells t cs := by
  fun_induction readString s generalizing cs rest with
  | case1 => cases h
  | case2 r => cases h; exact ⟨[], rfl, .nil⟩
  | case3 => cases h
  | case4 r c r' he _ ih =>
    obtain ⟨⟨ds, r''⟩, hp, h⟩ := exists_of_map_eq_ok h
    cases h
    obtain ⟨e, rfl, hesc⟩ := escape_of_readEscape he
    obtain ⟨t, rfl, ht⟩ := ih hp
    exact ⟨'\\' :: (e ++ t), by simp, .escape hesc ht⟩
  | case5 => cases h
  | case6 c r hq hb hc ih =>
    obtain ⟨⟨ds, r''⟩, hp, h⟩ := exists_of_map_eq_ok h
    cases h
    obtain ⟨t, rfl, ht⟩ := ih hp
    exact ⟨c :: t, rfl, .plain hq hb hc ht⟩

theorem readString_of_spells {t cs : List Char} (h : Spells t cs) (rest : List Char) :
    readString (t ++ '"' :: rest) = .ok (cs, rest) := by
  induction h with
  | nil => rw [List.nil_append, readString]
  | plain hq hb hc _ ih => rw [List.cons_append, readString_plain hq hb hc, ih]; rfl
  | escape he _ ih =>
    rw [List.cons_append, List.append_assoc, readString_escape (readEscape_of_escape he _), ih]
    rfl

/-- What stands before the closing quote is read exactly if it spells something, and as that. -/
theorem readString_eq_ok_iff {s cs rest : List Char} :
    readString s = .ok (cs, rest) ↔ ∃ t, s = t ++ '"' :: rest ∧ Spells t cs := by
  refine ⟨spells_of_readString, ?_⟩
  rintro ⟨t, rfl, ht⟩
  exact readString_of_spells ht rest

theorem Spells.unique {t s s' : List Char} (h : Spells t s) (h' : Spells t s') : s = s' := by
  have hread := readString_of_spells h []
  rw [readString_of_spells h'] at hread
  exact (Prod.mk.inj (Except.ok.inj hread)).1.symm

theorem spells_of_read {t cs : List Char} (h : readString (t ++ ['"']) = .ok (cs, [])) :
    Spells t cs := by
  obtain ⟨t', heq, ht'⟩ := readString_eq_ok_iff.1 h
  rwa [List.append_cancel_right heq]

/-! ### Written strings -/

theorem hexDigit_digitChar {n : Nat} (h : n < 16) : HexDigit (Nat.digitChar n) n := by
  have hall : ∀ n < 16, HexDigit (Nat.digitChar n) n := by unfold HexDigit; decide
  exact hall n h

theorem spells_escapeChar_append (c : Char) {t s : List Char} (h : Spells t s) :
    Spells (escapeChar c ++ t) (c :: s) := by
  have hshort {e : Char} (hmem : (e, c) ∈ shortEscapes) : Spells (['\\', e] ++ t) (c :: s) :=
    .escape (.short hmem) h
  unfold escapeChar
  split
  · next hc => subst hc; exact hshort (by decide)
  split
  · next hc => subst hc; exact hshort (by decide)
  split
  · next hc => subst hc; exact hshort (by decide)
  split
  · next hc => subst hc; exact hshort (by decide)
  split
  · next hc => subst hc; exact hshort (by decide)
  split
  · next hc => subst hc; exact hshort (by decide)
  split
  · next hc => subst hc; exact hshort (by decide)
  split
  · next hc =>
    have hlt : c.toNat < 32 := hc
    have hunit := HexUnit.digits (hexDigit_digitChar (n := 0) (by omega))
      (hexDigit_digitChar (n := 0) (by omega)) (hexDigit_digitChar (n := c.toNat / 16) (by omega))
      (hexDigit_digitChar (n := c.toNat % 16) (by omega))
    rw [show ((0 * 16 + 0) * 16 + c.toNat / 16) * 16 + c.toNat % 16 = c.toNat by omega] at hunit
    exact .escape (.unit hunit) h
  · next hq hb _ _ _ _ _ hc => exact .plain hq hb hc h

/-- A written string spells the characters it was written for. -/
theorem spells_flatMap_escapeChar (s : List Char) : Spells (s.flatMap escapeChar) s := by
  induction s with
  | nil => exact .nil
  | cons c s ih => rw [List.flatMap_cons]; exact spells_escapeChar_append c ih

end HostLog.Json
