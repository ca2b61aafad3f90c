/-!
# Non-negative binary64 numbers

A finite non-negative binary64 number is held as `mantissa * 2 ^ exponent` with exact naturals and
integers. `ofRatio` rounds a quotient of naturals to the nearest such number, a tie going to the
even mantissa, and gives `none` where the nearest one would be infinite; product and quotient are
rounded through it.
-/

namespace HostLog.Decimal

/-- The finite number `mantissa * 2 ^ exponent`. The mantissa has at most 53 bits and the exponent
is at least `-1074`; it is larger only if the mantissa has all 53 bits. -/
structure Binary64 where
  mantissa : Nat
  exponent : Int
  deriving DecidableEq, Repr

/-- `n / d` to the nearest natural, a tie going to the even one. -/
def roundDiv (n d : Nat) : Nat :=
  let q := n / d
  let r := n % d
  if 2 * r < d then q
  else if d < 2 * r then q + 1
  else q + q % 2

namespace Binary64

def zero : Binary64 := ⟨0, -1074⟩

def isZero (x : Binary64) : Bool := x.mantissa == 0

/-- Numerator of the exact value as a quotient of naturals. -/
def num (x : Binary64) : Nat := x.mantissa * Nat.pow 2 x.exponent.toNat

/-- Denominator of the exact value as a quotient of naturals. -/
def den (x : Binary64) : Nat := Nat.pow 2 (-x.exponent).toNat

/-- The largest `k` with `2 ^ k ≤ n / d`, for positive `n` and `d`. -/
def floorLog2 (n d : Nat) : Int :=
  let k : Int := (n.log2 : Int) - d.log2
  if n * Nat.pow 2 (-k).toNat < d * Nat.pow 2 k.toNat then k - 1 else k

/-- The number nearest to `n / d`, or `none` if that would be infinite. -/
def ofRatio (n d : Nat) : Option Binary64 :=
  if n = 0 then some zero
  else
    let e := max (floorLog2 n d - 52) (-1074)
    let m := roundDiv (n * Nat.pow 2 (-e).toNat) (d * Nat.pow 2 e.toNat)
    let x : Binary64 := if m = Nat.pow 2 53 then ⟨Nat.pow 2 52, e + 1⟩ else ⟨m, e⟩
    if 971 < x.exponent then none else some x

def ofNat (n : Nat) : Option Binary64 := ofRatio n 1

def mul (x y : Binary64) : Option Binary64 := ofRatio (x.num * y.num) (x.den * y.den)

/-- The quotient by a positive number. -/
def div (x y : Binary64) : Option Binary64 := ofRatio (x.num * y.den) (x.den * y.num)

end Binary64

end HostLog.Decimal
