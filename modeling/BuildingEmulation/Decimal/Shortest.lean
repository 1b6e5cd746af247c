import BuildingEmulation.Scalar.Double
import BuildingEmulation.Decimal.Literal

/-!
# Shortest decimals

Every decimal that lies close enough to a double reads back as that double. `shortest` takes the
one with the fewest digits, and of those the nearest; `nearest` is the reading back, exact for any
ratio of whole numbers.

Both work on whole numbers only: a double is `m · 2 ^ e`, and the decimals that read back as it
fill the interval between the midpoints to its two neighbours, ends included when `m` is even.
-/
namespace BuildingEmulation.Decimal

open Double (parts isNegative)

/-- The quotient rounded to the nearest whole number, a half going to the even one. -/
def roundDiv (num den : Nat) : Nat :=
  let q := num / den
  let r := num % den
  if 2 * r < den then q else if den < 2 * r then q + 1 else q + q % 2

/-- The double nearest to `num / den`, a tie going to the one with the even last bit. -/
def nearest (num den : Nat) : Float :=
  if num = 0 || den = 0 then 0.0 else
    let estimate : Int := (num.log2 : Int) - den.log2
    let scale (k : Int) : Nat × Nat := (num * pow2 (-k).toNat, den * pow2 k.toNat)
    let (n, d) := scale estimate
    let power := if d ≤ n then estimate else estimate - 1
    let e := max (power - 52) (-1074)
    let (n, d) := scale e
    let m := roundDiv n d
    let bits : Int := if m < pow2 52 then m else (e + 1074) * pow2 52 + m
    if bits < 2047 * pow2 52 then Float.ofBits bits.toNat.toUInt64 else 1.0 / 0.0

/-- The least `k` such that a positive number of `digits` lies below `10 ^ k`. -/
def digitCount (n : Nat) : Nat := if n = 0 then 0 else (Nat.toDigits 10 n).length

/-- Digits beyond these powers of ten only tell overflow from underflow. -/
def ofDigits (digits : Nat) (exponent : Int) : Float :=
  let top : Int := digitCount digits + exponent
  if digits = 0 || top < -330 then 0.0
  else if 310 < top then 1.0 / 0.0
  else nearest (digits * pow10 exponent.toNat) (pow10 (-exponent).toNat)

/-- The double a literal names. -/
def ofLiteral : Literal → Float
  | .finite s d e => if s then -(ofDigits d e) else ofDigits d e
  | .infinite s => if s then -1.0 / 0.0 else 1.0 / 0.0
  | .undefined => 0.0 / 0.0

/-- The same decimal without zeros at its end. -/
def dropZeros (digits : Nat) (exponent : Int) : Nat × Int :=
  if digits = 0 then (0, 0)
  else if digits % 10 = 0 then dropZeros (digits / 10) (exponent + 1)
  else (digits, exponent)
termination_by digits
decreasing_by omega

/-- A positive ratio, with the ends of the interval that reads back as it, over one denominator. -/
structure Target where
  low : Nat
  value : Nat
  high : Nat
  den : Nat
  closed : Bool
  deriving Repr

/-- The interval of the double `m · 2 ^ e`. Below a power of two the gap is half as wide. -/
def Target.ofParts (m : Nat) (e : Int) : Target :=
  let unit := pow2 (e - 2).toNat
  let below := if m = pow2 52 && (-1074 : Int) < e then 1 else 2
  { low := (4 * m - below) * unit
    value := 4 * m * unit
    high := (4 * m + 2) * unit
    den := pow2 (2 - e).toNat
    closed := m % 2 = 0 }

namespace Target

/-- The target measured in units of `10 ^ p`. -/
def inUnits (t : Target) (p : Int) : Target :=
  let up := pow10 (-p).toNat
  { t with low := t.low * up, value := t.value * up, high := t.high * up, den := t.den * pow10 p.toNat }

/-- Whether the whole number `c` lies in the interval. -/
def admits (t : Target) (c : Nat) : Bool :=
  let x := c * t.den
  if t.closed then t.low ≤ x && x ≤ t.high else t.low < x && x < t.high

/-- The whole number next to the value that reads back as it, the nearer one if there are two. -/
def hit? (tie : Tie) (t : Target) : Option Nat :=
  let c := t.value / t.den
  match t.admits c, t.admits (c + 1) with
  | false, false => none
  | true, false => some c
  | false, true => some (c + 1)
  | true, true =>
    let middle := (2 * c + 1) * t.den
    if 2 * t.value < middle then some c
    else if middle < 2 * t.value then some (c + 1)
    else match tie with
      | .up => some (c + 1)
      | .even => some (c + c % 2)

/-- The greatest `p` with `10 ^ p` not above the value. -/
def magnitude (t : Target) (log2 : Int) : Int :=
  let reaches (p : Int) : Bool := pow10 p.toNat * t.den ≤ t.value * pow10 (-p).toNat
  let estimate := (log2 * 30103).fdiv 100000
  if reaches (estimate + 1) then estimate + 1
  else if reaches estimate then estimate
  else estimate - 1

/-- The first hit on the grids `10 ^ p`, `10 ^ (p - 1)`, … -/
def search (tie : Tie) (t : Target) : Nat → Int → Nat × Int
  | 0, p => ((t.inUnits p).value / (t.inUnits p).den, p)
  | k + 1, p =>
    match (t.inUnits p).hit? tie with
    | some c => (c, p)
    | none => search tie t k (p - 1)

end Target

/-- The literal with the fewest digits that reads back as the double; seventeen always suffice. -/
def shortest (tie : Tie) (x : Float) : Literal :=
  match parts x with
  | none => if x == x then .infinite (isNegative x) else .undefined
  | some (0, _) => .finite (isNegative x) 0 0
  | some (m, e) =>
    let t := Target.ofParts m e
    let (digits, exponent) := t.search tie 17 (t.magnitude ((m.log2 : Int) + e))
    let (digits, exponent) := dropZeros digits exponent
    .finite (isNegative x) digits exponent

/-- Doubles are written with the fewest digits that read back. -/
instance double : Numeral Float where
  ofLiteral := ofLiteral
  toLiteral := shortest

end BuildingEmulation.Decimal
