import HostLog.Decimal.Binary64

/-!
# The shortest decimal of a binary64 number

`shortest x` is the decimal with the fewest digits among those that round back to `x`, and of these
the nearest to `x`. It is found on the grids of 1, 2, … 17 significant digits: on each one only the
two points next to the exact value can be in the interval of numbers that round to `x`. `render`
writes such a decimal with a fraction or an exponent always present.
-/

namespace HostLog.Decimal

/-- The number `digits * 10 ^ scale`, without trailing zeros in `digits`. -/
structure Shortest where
  digits : Nat
  scale : Int
  deriving DecidableEq, Repr

/-- A positive value between exact bounds, all three over one denominator. -/
structure Interval where
  low : Nat
  value : Nat
  high : Nat
  den : Nat
  /-- Whether the bounds themselves belong to the interval. -/
  closed : Bool

/-- The numbers that round to `x`. Below a power of two the next number is half as far away; the
bounds belong to it if the mantissa is even. -/
def Binary64.interval (x : Binary64) : Interval :=
  let unit := Nat.pow 2 x.exponent.toNat
  let below := if x.mantissa = Nat.pow 2 52 ∧ -1074 < x.exponent then 1 else 2
  { low := (4 * x.mantissa - below) * unit
    value := 4 * x.mantissa * unit
    high := (4 * x.mantissa + 2) * unit
    den := 4 * x.den
    closed := x.mantissa % 2 == 0 }

namespace Interval

/-- Whether `n * 10 ^ scale` lies in the interval. -/
def has (i : Interval) (n : Nat) (scale : Int) : Bool :=
  let p := n * Nat.pow 10 scale.toNat * i.den
  let q := Nat.pow 10 (-scale).toNat
  if i.closed then i.low * q ≤ p && p ≤ i.high * q else i.low * q < p && p < i.high * q

/-- The largest exponent from `k` down to `k - n` of a power of ten that is at most the value, or
`k - n` if none is. -/
def floorLog10 (i : Interval) : Nat → Int → Int
  | 0, k => k
  | n + 1, k =>
    if Nat.pow 10 k.toNat * i.den ≤ i.value * Nat.pow 10 (-k).toNat then k
    else floorLog10 i n (k - 1)

/-- The nearer of the two points of the grid `10 ^ scale` next to the value, if it is in the
interval; else the other one, if that is. A tie goes to the even point. -/
def onGrid? (i : Interval) (scale : Int) : Option Nat :=
  let p := i.value * Nat.pow 10 (-scale).toNat
  let q := i.den * Nat.pow 10 scale.toNat
  let near := roundDiv p q
  let far := if near = p / q then near + 1 else near - 1
  if i.has near scale then some near else if i.has far scale then some far else none

end Interval

/-- `n * 10 ^ scale` with the trailing zeros of `n` moved into the scale. -/
def stripZeros (n : Nat) (scale : Int) : Shortest :=
  if h : n ≠ 0 ∧ n % 10 = 0 then stripZeros (n / 10) (scale + 1) else ⟨n, scale⟩
termination_by n
decreasing_by omega

/-- The decimal of fewest digits that rounds back to the positive number `x`, the nearest one of
that length. Seventeen digits always suffice. -/
def shortest (x : Binary64) : Shortest :=
  let i := x.interval
  let log2 : Int := (i.value.log2 : Int) - i.den.log2
  let top := i.floorLog10 3 ((log2 + 1) * 30103 / 100000 + 1)
  let grids : List Int := (List.range 17).map fun (k : Nat) => top - (k : Int)
  match grids.findSome? fun scale => (i.onGrid? scale).map fun n => (n, scale) with
  | some (n, scale) => stripZeros n scale
  | none => ⟨0, 0⟩

/-- The digits of `n` in base ten, most significant first. -/
def digitsOf (n : Nat) : List Char := Nat.toDigits 10 n

/-- An exponent: its sign always, and no leading zeros. -/
def renderExponent (e : Int) : List Char :=
  (if e < 0 then '-' else '+') :: digitsOf e.natAbs

/-- A positive decimal. If its first digit stands for `10 ^ e` with `-5 ≤ e ≤ 15` it is written
positionally with at least one digit after the point, else with an exponent. -/
def Shortest.render (d : Shortest) : List Char :=
  let ds := digitsOf d.digits
  let e : Int := d.scale + ds.length - 1
  if -5 ≤ e ∧ e ≤ 15 then
    if e < 0 then '0' :: '.' :: (List.replicate (-e - 1).toNat '0' ++ ds)
    else
      let whole := e.toNat + 1
      let padded := ds ++ List.replicate (whole - ds.length) '0'
      let fraction := padded.drop whole
      padded.take whole ++ '.' :: (if fraction.isEmpty then ['0'] else fraction)
  else
    match ds with
    | [c] => c :: 'e' :: renderExponent e
    | c :: cs => c :: '.' :: (cs ++ 'e' :: renderExponent e)
    | [] => []

/-- The text of a binary64 number given by its sign and magnitude. -/
def render (negative : Bool) (x : Binary64) : String :=
  let body := if x.isZero then ['0', '.', '0'] else (shortest x).render
  String.ofList (if negative then '-' :: body else body)

end HostLog.Decimal
