import BuildingEmulation.Kpi.Calculator
import BuildingEmulation.Scalar.Exact
import Mathlib.Algebra.Order.Field.Rat
import Mathlib.Data.Rat.Floor
import Mathlib.Tactic.FieldSimp
import Mathlib.Tactic.Linarith
import Mathlib.Tactic.Ring

/-!
# Exact arithmetic

Over the rationals the operations of `Scalar` are those of the ordered field.

Results:
* `zero_exact`, `sum_exact`, `abs_exact`, `larger_max`, `smaller_min`, `clamp?_exact`.
* `modulo_exact`: the remainder of a division that is never negative.
* `secondsOf_exact`: a latency in seconds.
-/
namespace BuildingEmulation

@[simp] theorem zero_exact :
    @OfScientific.ofScientific Rat Scalar.exact.toOfScientific 0 true 1 = 0 := by norm_num

theorem sum_exact (xs : List Rat) : Scalar.sum xs = xs.sum := by
  unfold Scalar.sum
  rw [zero_exact, List.sum_eq_foldl]

theorem abs_exact (q : Rat) : Scalar.abs q = |q| := by
  change (if q < 0 then -q else q) = |q|
  split
  · next h => exact (abs_of_neg h).symm
  · next h => exact (abs_of_nonneg (not_lt.1 h)).symm

theorem larger_max (a b : Rat) : Scalar.larger a b = max a b := by
  rw [Scalar.larger_exact, max_def]
  split <;> split <;> linarith

theorem smaller_min (a b : Rat) : Scalar.smaller a b = min a b := by
  rw [Scalar.smaller_exact, min_def]
  split <;> split <;> linarith

theorem clamp?_exact {low high : Rat} (h : low ≤ high) (x : Rat) :
    Scalar.clamp? low high x = some (max low (min high x)) := by
  unfold Scalar.clamp?
  rw [if_pos h]
  congr 1
  split
  · next hx => rw [min_eq_right (hx.le.trans h), max_eq_left hx.le]
  · next hx =>
    split
    · next hx' => rw [min_eq_left hx'.le, max_eq_right h]
    · next hx' => rw [min_eq_right (not_lt.1 hx'), max_eq_right (not_lt.1 hx)]

theorem remainder_exact (x : Rat) {y : Rat} (hy : y ≠ 0) :
    Scalar.remainder x y =
      x - y * (if x / y < 0 then (x / y).ceil else (x / y).floor : Int) := if_neg hy

/-- What lies between zero and a divisor is what is left above the greatest multiple of it. The
quotient is cut towards zero first, so below zero one divisor is missing unless it comes out even. -/
theorem modulo_exact (x : Rat) {y : Rat} (hy : 0 < y) : Scalar.modulo x y = x - y * ⌊x / y⌋ := by
  have hx : y * (x / y) = x := mul_div_cancel₀ x hy.ne'
  unfold Scalar.modulo
  rw [zero_exact, abs_exact, abs_of_pos hy, remainder_exact x hy.ne']
  by_cases hq : x / y < 0
  · have above := Rat.le_ceil (x := x / y)
    have near := Rat.ceil_lt (x := x / y)
    simp only [if_pos hq]
    by_cases even : x / y = (x / y).ceil
    · have floor : ⌊x / y⌋ = (x / y).ceil := by rw [even, Int.floor_intCast, ← even]
      have left : x - y * (x / y).ceil = 0 := by rw [← even, hx, sub_self]
      rw [floor, left, if_neg (lt_irrefl 0)]
    · have below : x / y < (x / y).ceil := lt_of_le_of_ne above even
      have floor : ⌊x / y⌋ = (x / y).ceil - 1 := by
        rw [Int.floor_eq_iff]
        push_cast
        constructor <;> linarith
      have left : x - y * (x / y).ceil < 0 := by
        have := mul_lt_mul_of_pos_left below hy
        linarith
      rw [floor, if_pos left]
      push_cast
      ring
  · have hfloor : y * (x / y).floor ≤ x := by
      calc y * ((x / y).floor : Rat) ≤ y * (x / y) := by gcongr; exact Rat.floor_le _
        _ = x := hx
    simp only [if_neg hq]
    rw [if_neg (by linarith)]
    rfl

theorem ofNat_exact (n : Nat) : (Scalar.ofNat n : Rat) = n := by
  change Rat.ofScientific n false 0 = n
  rw [Rat.ofScientific_false_def]
  simp

theorem secondsOf_exact (n : Nat) : (secondsOf n : Rat) = n / 1000000000 := by
  have hm : (n : Rat) = 1000000000 * (n / 1000000000 : Nat) + (n % 1000000000 : Nat) := by
    exact_mod_cast (Nat.div_add_mod n 1000000000).symm
  have hb : @OfScientific.ofScientific Rat Scalar.exact.toOfScientific 10000000000 true 1 =
      1000000000 := by norm_num
  unfold secondsOf
  rw [ofNat_exact, ofNat_exact, hb]
  change ((n / 1000000000 : Nat) : Rat) + ((n % 1000000000 : Nat) : Rat) / 1000000000 = _
  rw [hm]
  ring

end BuildingEmulation
