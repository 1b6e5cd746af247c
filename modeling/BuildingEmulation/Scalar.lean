import BuildingEmulation.Power

/-!
# Scalars

The physics, the clock and the indicators of an emulation are written once, over any type of
scalars. `Scalar.Double` runs them on 64-bit floating point numbers, `Scalar.Exact` reads the
same definitions over the rationals, and `Scalar.Extended` over the rationals with an undefined
value and two infinities.

Comparison is the type's own: an undefined scalar is neither below, above nor equal to anything,
itself included, and `larger`, `smaller` and `clamp?` say what that means for them.
-/
namespace BuildingEmulation

/-- Numbers an emulation can compute with. -/
class Scalar (α : Type) extends Add α, Sub α, Mul α, Div α, Neg α, LT α, LE α, BEq α,
    OfScientific α where
  decidableLT : DecidableLT α
  decidableLE : DecidableLE α
  /-- The magnitude of a scalar. -/
  abs : α → α
  /-- Neither undefined nor infinite. -/
  isFinite : α → Bool
  /-- The exact value of a finite scalar. -/
  value? : α → Option Rat
  /-- What truncating division by the second scalar leaves of the first, with the sign of the
  first. -/
  remainder : α → α → α

attribute [reducible] Scalar.decidableLT Scalar.decidableLE
attribute [instance] Scalar.decidableLT Scalar.decidableLE

namespace Scalar

variable {α : Type} [Scalar α]

/-- The scalar of a count. -/
@[inline] def ofNat (n : Nat) : α := OfScientific.ofScientific n false 0

/-- An undefined scalar does not equal itself. -/
@[inline] def isNaN (x : α) : Bool := !(x == x)

/-- The larger of two scalars; an undefined one gives way to the other, a tie keeps the first. -/
@[inline] def larger (a b : α) : α :=
  if isNaN a then b else if a < b then b else a

/-- The smaller of two scalars; an undefined one gives way to the other, a tie keeps the first. -/
@[inline] def smaller (a b : α) : α :=
  if isNaN a then b else if b < a then b else a

/-- A scalar brought into `[low, high]`; there is no such interval when `high` lies below `low` or
either is undefined. -/
@[inline] def clamp? (low high x : α) : Option α :=
  if low ≤ high then some (if x < low then low else if high < x then high else x) else none

/-- The remainder that lies between zero and the magnitude of the divisor. -/
@[inline] def modulo (x y : α) : α :=
  let r := remainder x y
  if r < 0.0 then r + abs y else r

/-- The greatest integer not above a finite scalar. -/
def floor? (x : α) : Option Int := (value? x).map Rat.floor

/-- The integer nearest to a finite scalar, a half going away from zero. -/
def nearest? (x : α) : Option Int :=
  (value? x).map fun q => if q < 0 then -((-q + 1 / 2).floor) else (q + 1 / 2).floor

/-- The least integer not below a finite scalar. -/
def ceil? (x : α) : Option Int := (value? x).map Rat.ceil

/-- An integer read into a signed register of 64 bits: out of range it stops at the nearest end,
an infinite scalar goes to the end on its side, an undefined one to zero. -/
def inSigned64 (x : α) (k : Option Int) : Int :=
  let low : Int := -(pow2 63)
  let high : Int := pow2 63 - 1
  match k with
  | some k => max low (min high k)
  | none => if x < 0.0 then low else if 0.0 < x then high else 0

/-- An integer read into an unsigned register of 64 bits, by the same rule. -/
def inUnsigned64 (x : α) (k : Option Int) : Nat :=
  let high : Nat := pow2 64 - 1
  match k with
  | some k => min high k.toNat
  | none => if 0.0 < x then high else 0

/-- The sum of a list, from the left. -/
@[inline] def sum (xs : List α) : α := xs.foldl (· + ·) 0.0

theorem clamp?_isSome_iff {low high x : α} : (clamp? low high x).isSome ↔ low ≤ high := by
  unfold clamp?; split <;> simp_all

end Scalar

end BuildingEmulation
