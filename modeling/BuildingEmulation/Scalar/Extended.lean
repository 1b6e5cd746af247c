import BuildingEmulation.Scalar

/-!
# Extended scalars

The rationals with two infinities and an undefined value, under the arithmetic of limits: an
operation without a limit (`∞ - ∞`, `0 · ∞`, `0 / 0`) is undefined, and what is undefined stays so.
-/
namespace BuildingEmulation.Scalar

/-- A rational, an infinity, or no value at all. -/
inductive Extended
  | finite (q : Rat)
  | infinite (negative : Bool)
  | undefined
  deriving DecidableEq, Repr

namespace Extended

/-- The sign of a defined scalar, negative as `true`; zero has none. -/
def negative? : Extended → Option Bool
  | finite q => if q = 0 then none else some (q < 0)
  | infinite s => some s
  | undefined => none

def neg : Extended → Extended
  | finite q => finite (-q)
  | infinite s => infinite (!s)
  | undefined => undefined

def add : Extended → Extended → Extended
  | undefined, _ | _, undefined => undefined
  | finite p, finite q => finite (p + q)
  | infinite s, infinite t => if s = t then infinite s else undefined
  | infinite s, finite _ => infinite s
  | finite _, infinite t => infinite t

def mul (x y : Extended) : Extended :=
  match x, y with
  | undefined, _ | _, undefined => undefined
  | finite p, finite q => finite (p * q)
  | x, y =>
    match x.negative?, y.negative? with
    | some s, some t => infinite (s != t)
    | _, _ => undefined

def div (x y : Extended) : Extended :=
  match x, y with
  | undefined, _ | _, undefined => undefined
  | infinite _, infinite _ => undefined
  | finite _, infinite _ => finite 0
  | infinite s, finite q => infinite (s != (q < 0 : Bool))
  | finite p, finite q =>
    if q = 0 then (if p = 0 then undefined else infinite (p < 0)) else finite (p / q)

/-- The order of the extended line; an undefined scalar has no place on it. -/
def below : Extended → Extended → Bool
  | finite p, finite q => p < q
  | infinite true, infinite t => !t
  | infinite true, finite _ => true
  | finite _, infinite t => !t
  | _, _ => false

/-- Equality as numbers. -/
def same : Extended → Extended → Bool
  | undefined, _ | _, undefined => false
  | x, y => x = y

instance : LT Extended := ⟨fun x y => below x y = true⟩
instance : LE Extended := ⟨fun x y => (below x y || same x y) = true⟩

/-- Arithmetic on the extended line. -/
instance scalar : Scalar Extended where
  add := add
  sub x y := add x (neg y)
  mul := mul
  div := div
  neg := neg
  lt x y := x < y
  le x y := x ≤ y
  beq := same
  ofScientific m s e := finite (OfScientific.ofScientific m s e)
  decidableLT x y := inferInstanceAs (Decidable (below x y = true))
  decidableLE x y := inferInstanceAs (Decidable ((below x y || same x y) = true))
  abs
    | finite q => finite (if q < 0 then -q else q)
    | infinite _ => infinite false
    | undefined => undefined
  isFinite
    | finite _ => true
    | _ => false
  value?
    | finite q => some q
    | _ => none
  remainder
    | finite p, finite q =>
      if q = 0 then undefined else
        let k := p / q
        finite (p - q * (if k < 0 then k.ceil else k.floor))
    | finite p, infinite _ => finite p
    | _, _ => undefined

end Extended

end BuildingEmulation.Scalar
