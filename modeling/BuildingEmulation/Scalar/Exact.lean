import BuildingEmulation.Scalar

/-!
# Exact scalars

The rationals as scalars. Every one is finite and is its own value, so the definitions written
over `Scalar` become plain arithmetic.

Results:
* `larger_exact`, `smaller_exact`: the two choices go by the order alone.
-/
namespace BuildingEmulation.Scalar

/-- Rational arithmetic, with nothing rounded. -/
instance exact : Scalar Rat where
  decidableLT := inferInstance
  decidableLE := inferInstance
  abs q := if q < 0 then -q else q
  isFinite _ := true
  value? := some
  remainder x y :=
    if y = 0 then 0 else
      let q := x / y
      x - y * (if q < 0 then q.ceil else q.floor)

theorem isNaN_exact (q : Rat) : isNaN q = false := by simp [isNaN]

theorem larger_exact (a b : Rat) : larger a b = if a < b then b else a := by
  simp [larger, isNaN_exact]

theorem smaller_exact (a b : Rat) : smaller a b = if b < a then b else a := by
  simp [smaller, isNaN_exact]

end BuildingEmulation.Scalar
