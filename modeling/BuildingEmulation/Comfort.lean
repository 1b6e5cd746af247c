import BuildingEmulation.Scalar
import BuildingEmulation.Decimal.Layout

/-!
# Comfort bands

The range a measured temperature should stay in, and by how much it leaves it.
-/
namespace BuildingEmulation

structure ComfortBand (α : Type) where
  lower : α
  upper : α
  deriving Repr, BEq

namespace ComfortBand

variable {α : Type} [Scalar α]

/-- How far a measurement lies outside the band; zero inside. Mirrors `violation`. -/
def violation (b : ComfortBand α) (measured : α) : α :=
  Scalar.larger (measured - b.upper) 0.0 + Scalar.larger (b.lower - measured) 0.0

/-- Finite bounds in order. -/
def isValid (b : ComfortBand α) : Bool :=
  Scalar.isFinite b.lower && Scalar.isFinite b.upper && !decide (b.upper < b.lower)

/-- What is said of a band that is not valid. -/
def faultText [Decimal.Numeral α] (b : ComfortBand α) : String :=
  s!"invalid comfort band [{Decimal.plain b.lower}, {Decimal.plain b.upper}]"

end ComfortBand

end BuildingEmulation
