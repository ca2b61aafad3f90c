import HostLog.Json.Fault

/-!
# Numbers of a JSON document

`readNumeral` finds where a numeral ends and splits it into its parts; it starts after a minus sign.
`Numeral.value` is the number meant by the parts. A numeral without fraction and exponent is an
integer as far as 64 bits hold it. Every other one is a binary64 number, made of the digits that
fit into 64 bits and a power of ten: one rounding for each of the two and one for their product or
quotient.
-/

namespace HostLog.Json

/-- The parts of a numeral without its minus sign. -/
structure Numeral where
  whole : List Char
  /-- The digits after the point; empty if there is no point. -/
  fraction : List Char
  /-- Whether the exponent has a minus sign, and its digits. -/
  exponent : Option (Bool × List Char)
  deriving DecidableEq, Repr

/-- The digits at the beginning of `s`, and what follows them. -/
def splitDigits (s : List Char) : List Char × List Char :=
  (s.takeWhile Char.isDigit, s.dropWhile Char.isDigit)

/-- The digits before the point: a single zero, or digits that do not begin with one. The end of
the document in place of a digit has the cause `atEnd`. -/
def readWhole (atEnd : Cause) : List Char → Except Fault (List Char × List Char)
  | [] => .error (.before atEnd [])
  | '0' :: s =>
    match s with
    | d :: _ => if d.isDigit then .error (.at .badNumber s) else .ok (['0'], s)
    | [] => .ok (['0'], [])
  | c :: s => if c.isDigit then .ok (splitDigits (c :: s)) else .error (.at .badNumber (c :: s))

/-- At least one digit. -/
def readDigits (atEnd : Cause) : List Char → Except Fault (List Char × List Char)
  | [] => .error (.before atEnd [])
  | c :: s => if c.isDigit then .ok (splitDigits (c :: s)) else .error (.at .badNumber (c :: s))

def readFraction (atEnd : Cause) : List Char → Except Fault (List Char × List Char)
  | '.' :: s => readDigits atEnd s
  | s => .ok ([], s)

def readExponent (atEnd : Cause) :
    List Char → Except Fault (Option (Bool × List Char) × List Char)
  | 'e' :: s | 'E' :: s =>
    match s with
    | '+' :: r => (readDigits atEnd r).map fun (ds, rest) => (some (false, ds), rest)
    | '-' :: r => (readDigits atEnd r).map fun (ds, rest) => (some (true, ds), rest)
    | r => (readDigits atEnd r).map fun (ds, rest) => (some (false, ds), rest)
  | s => .ok (none, s)

/-- Splits the numeral at the beginning of `s` into its parts. -/
def readNumeral (atEnd : Cause) (s : List Char) : Except Fault (Numeral × List Char) := do
  let (whole, s) ← readWhole atEnd s
  let (fraction, s) ← readFraction atEnd s
  let (exponent, s) ← readExponent atEnd s
  .ok (⟨whole, fraction, exponent⟩, s)

/-- A number: an integer of 64 bits, with or without sign, or a binary64 number. -/
inductive Number where
  | integer (n : Int)
  | real (negative : Bool) (magnitude : Decimal.Binary64)
  deriving DecidableEq, Repr

def digitValue (c : Char) : Nat := c.toNat - '0'.toNat

/-- Appends digits to `n` as long as the result is below `2 ^ 64`, and gives back the others. -/
def absorb (n : Nat) : List Char → Nat × List Char
  | [] => (n, [])
  | d :: ds =>
    let m := 10 * n + digitValue d
    if m < Nat.pow 2 64 then absorb m ds else (n, d :: ds)

/-- The binary64 number nearest to `10 ^ k`, for `k ≤ 308`. -/
def powerOfTen (k : Nat) : Decimal.Binary64 := (Decimal.Binary64.ofNat (Nat.pow 10 k)).getD .zero

/-- `x * 10 ^ e` in steps of at most 308 powers, or `none` beyond the largest number. -/
def scale (x : Decimal.Binary64) (e : Int) : Option Decimal.Binary64 :=
  if 308 < e then if x.isZero then some x else none
  else if 0 ≤ e then x.mul (powerOfTen e.toNat)
  else if -308 ≤ e then x.div (powerOfTen (-e).toNat)
  else if x.isZero then some x
  else (x.div (powerOfTen 308)).bind fun y => scale y (e + 308)
termination_by (-e).toNat
decreasing_by omega

/-- The largest power of ten that is computed with. -/
def exponentLimit : Nat := Nat.pow 2 31 - 1

/-- How many of the digits `ds` are left when `n` with digits of `ds` appended first exceeds
`exponentLimit`. -/
def digitsAfterLimit? (n : Nat) : List Char → Option Nat
  | [] => none
  | d :: ds =>
    let m := 10 * n + digitValue d
    if exponentLimit < m then some ds.length else digitsAfterLimit? m ds

/-- The natural number that digits write. -/
def ofDigits (ds : List Char) : Nat := ds.foldl (fun n d => 10 * n + digitValue d) 0

/-- The number that a numeral writes, with a minus sign before it or not. It fails for a number out
of range with how many of the numeral's characters need not be read to know it. -/
def Numeral.value (negative : Bool) (x : Numeral) : Except Nat Number :=
  let (n, dropped) := absorb 0 x.whole
  if dropped = [] ∧ x.fraction = [] ∧ x.exponent = none ∧
      (negative = false ∨ 0 < n ∧ n ≤ Nat.pow 2 63) then
    .ok (.integer (if negative then -n else n))
  else
    let (m, unused) := absorb n x.fraction
    let places : Int := (dropped.length : Int) - (x.fraction.length - unused.length : Nat)
    let significand := (Decimal.Binary64.ofNat m).getD .zero
    let tooLarge := match x.exponent with
      | some (false, ds) => if m = 0 then none else digitsAfterLimit? 0 ds
      | _ => none
    match tooLarge with
    | some k => .error k
    | none =>
      let e : Int := match x.exponent with
        | none => 0
        | some (true, ds) => -(ofDigits ds : Int)
        | some (false, ds) => ofDigits ds
      match scale significand (places + e) with
      | some y => .ok (.real negative y)
      | none => .error 0

/-- Reads a number after its minus sign, if it has one. -/
def readNumber (negative : Bool) (s : List Char) : Except Fault (Number × List Char) := do
  let (x, rest) ← readNumeral .endInValue s
  match x.value negative with
  | .ok n => .ok (n, rest)
  | .error k => .error ⟨.numberOutOfRange, Text.byteCount rest + k⟩

/-- Passes over a number after its minus sign, whatever its size. -/
def skipNumber (s : List Char) : Except Fault (List Char) :=
  (readNumeral .badNumber s).map Prod.snd

theorem length_of_readDigits {atEnd : Cause} {s ds rest : List Char}
    (h : readDigits atEnd s = .ok (ds, rest)) : rest.length < s.length := by
  unfold readDigits at h
  split at h
  · cases h
  · next c r =>
    split at h
    · next hc =>
      rw [splitDigits, List.dropWhile_cons, if_pos hc] at h
      cases h
      have := (List.dropWhile_suffix Char.isDigit (l := r)).length_le
      simp only [List.length_cons]; omega
    · cases h

theorem length_of_readWhole {atEnd : Cause} {s ds rest : List Char}
    (h : readWhole atEnd s = .ok (ds, rest)) : rest.length < s.length := by
  unfold readWhole at h
  split at h
  · cases h
  · split at h
    · split at h <;> cases h; simp
    · cases h; simp
  · next c r _ => exact @length_of_readDigits atEnd (c :: r) _ _ h

theorem length_of_readFraction {atEnd : Cause} {s ds rest : List Char}
    (h : readFraction atEnd s = .ok (ds, rest)) : rest.length ≤ s.length := by
  unfold readFraction at h
  split at h
  · have := length_of_readDigits h; simp only [List.length_cons]; omega
  · cases h; exact Nat.le_refl _

theorem length_of_readExponent {atEnd : Cause} {s rest : List Char}
    {e : Option (Bool × List Char)} (h : readExponent atEnd s = .ok (e, rest)) :
    rest.length ≤ s.length := by
  have key : ∀ {b : Bool} {r : List Char},
      (readDigits atEnd r).map (fun (ds, rest) => (some (b, ds), rest)) = .ok (e, rest) →
      rest.length < r.length := by
    intro b r hr
    cases hd : readDigits atEnd r with
    | error f => rw [hd] at hr; cases hr
    | ok p =>
      obtain ⟨ds, r'⟩ := p
      rw [hd] at hr; cases hr
      exact length_of_readDigits hd
  unfold readExponent at h
  split at h
  · split at h <;> (have h' := key h; simp only [List.length_cons] at *; omega)
  · split at h <;> (have h' := key h; simp only [List.length_cons] at *; omega)
  · cases h; exact Nat.le_refl _

theorem length_of_readNumeral {atEnd : Cause} {s rest : List Char} {x : Numeral}
    (h : readNumeral atEnd s = .ok (x, rest)) : rest.length < s.length := by
  unfold readNumeral at h
  cases hw : readWhole atEnd s with
  | error f => rw [hw] at h; cases h
  | ok p =>
    obtain ⟨w, s₁⟩ := p
    cases hf : readFraction atEnd s₁ with
    | error f => simp [bind, Except.bind, hw, hf] at h
    | ok p =>
      obtain ⟨ds, s₂⟩ := p
      cases he : readExponent atEnd s₂ with
      | error f => simp [bind, Except.bind, hw, hf, he] at h
      | ok p =>
        obtain ⟨e, s₃⟩ := p
        simp [bind, Except.bind, hw, hf, he] at h
        obtain ⟨-, rfl⟩ := h
        have h1 := length_of_readWhole hw
        have h2 := length_of_readFraction hf
        have h3 := length_of_readExponent he
        omega

theorem length_of_readNumber {negative : Bool} {s rest : List Char} {n : Number}
    (h : readNumber negative s = .ok (n, rest)) : rest.length < s.length := by
  unfold readNumber at h
  cases hx : readNumeral .endInValue s with
  | error f => rw [hx] at h; cases h
  | ok p =>
    obtain ⟨x, r⟩ := p
    have hlt := length_of_readNumeral hx
    cases hv : x.value negative with
    | error k => simp [bind, Except.bind, hx, hv] at h
    | ok y =>
      simp [bind, Except.bind, hx, hv] at h
      obtain ⟨-, rfl⟩ := h
      exact hlt

theorem length_of_skipNumber {s rest : List Char} (h : skipNumber s = .ok rest) :
    rest.length < s.length := by
  unfold skipNumber at h
  cases hx : readNumeral .badNumber s with
  | error f => rw [hx] at h; cases h
  | ok p =>
    obtain ⟨x, r⟩ := p
    rw [hx] at h; cases h
    exact length_of_readNumeral hx

end HostLog.Json
