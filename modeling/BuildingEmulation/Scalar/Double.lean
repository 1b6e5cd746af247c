import BuildingEmulation.Scalar

/-!
# Double precision scalars

64-bit floating point numbers as scalars. `parts` takes a finite number apart into `± m · 2 ^ e`;
its exact value and the exact remainder of a division are read off those parts.
-/
namespace BuildingEmulation.Double

/-- Set for a number with a minus sign, negative zero included. -/
def isNegative (x : Float) : Bool := x.toBits >>> 63 == 1

/-- A finite number is `m · 2 ^ e` up to its sign; `none` for an infinity and an undefined
number. -/
def parts (x : Float) : Option (Nat × Int) :=
  let bits := x.toBits.toNat
  let biased : Nat := bits / pow2 52 % pow2 11
  let fraction : Nat := bits % pow2 52
  if biased = pow2 11 - 1 then none
  else if biased = 0 then some (fraction, -1074)
  else some (pow2 52 + fraction, (biased : Int) - 1075)

/-- The rational number that a finite double stands for. -/
def value? (x : Float) : Option Rat :=
  (parts x).map fun (m, e) =>
    let signed : Int := if isNegative x then -(m : Int) else m
    if 0 ≤ e then mkRat (signed * pow2 e.toNat) 1 else mkRat signed (pow2 (-e).toNat)

/-- The remainder of truncating division, which a double always holds exactly. -/
def remainder (x y : Float) : Float :=
  match parts x, parts y with
  | some (mx, ex), some (my, ey) =>
    if my = 0 then 0.0 / 0.0
    else
      let e := min ex ey
      let r := (mx * pow2 (ex - e).toNat) % (my * pow2 (ey - e).toNat)
      let magnitude := (Float.ofNat r).scaleB e
      if isNegative x then -magnitude else magnitude
  | some _, none => if y == y then x else y
  | none, _ => 0.0 / 0.0

/-- The arithmetic of the machine. -/
instance scalar : Scalar Float where
  decidableLT := inferInstance
  decidableLE := inferInstance
  abs := Float.abs
  isFinite := Float.isFinite
  value? := value?
  remainder := remainder

end BuildingEmulation.Double
