import BuildingEmulation.Proofs.Exact
import BuildingEmulation.Scalar.Extended

/-!
# Extended arithmetic on finite scalars

As long as they are finite, extended scalars are rationals: they are added and compared as such, and
a choice between two of them is `min` or `max`.

Results:
* `isFinite_iff`: the scalars that pass for finite are the rationals.
* `larger_finite`, `smaller_finite`: choices.
-/
namespace BuildingEmulation.Scalar.Extended

variable (p q : Rat)

@[simp] theorem finite_add : (finite p + finite q : Extended) = finite (p + q) := rfl

@[simp] theorem finite_sub : (finite p - finite q : Extended) = finite (p - q) := by
  change finite (p + -q) = _
  rw [sub_eq_add_neg]

@[simp] theorem finite_lt : (finite p : Extended) < finite q ↔ p < q := by
  change decide (p < q) = true ↔ _
  rw [decide_eq_true_eq]

@[simp] theorem finite_le : (finite p : Extended) ≤ finite q ↔ p ≤ q := by
  change (decide (p < q) || decide (finite p = finite q)) = true ↔ _
  rw [Bool.or_eq_true, decide_eq_true_eq, decide_eq_true_eq, finite.injEq, le_iff_lt_or_eq]

@[simp] theorem zero_finite : (0.0 : Extended) = finite 0 := by
  change finite (OfScientific.ofScientific 0 true 1) = _
  rw [zero_exact]

theorem isNaN_finite : isNaN (finite q) = false := by
  change (!decide (finite q = finite q)) = false
  simp

theorem larger_finite : larger (finite p) (finite q) = finite (max p q) := by
  rw [← larger_max, larger_exact, apply_ite finite, larger, isNaN_finite]
  simp only [finite_lt, Bool.false_eq_true, if_false]

theorem smaller_finite : smaller (finite p) (finite q) = finite (min p q) := by
  rw [← smaller_min, smaller_exact, apply_ite finite, smaller, isNaN_finite]
  simp only [finite_lt, Bool.false_eq_true, if_false]

variable {p q}

theorem isFinite_iff {x : Extended} : isFinite x = true ↔ ∃ q, x = finite q := by
  cases x with
  | finite q => exact ⟨fun _ => ⟨q, rfl⟩, fun _ => rfl⟩
  | infinite s => exact ⟨fun h => (nomatch h), fun ⟨_, h⟩ => nomatch h⟩
  | undefined => exact ⟨fun h => (nomatch h), fun ⟨_, h⟩ => nomatch h⟩

/-- Among finite scalars what is not below is at least as large. -/
theorem not_lt_iff {x y : Extended} (hx : isFinite x = true) (hy : isFinite y = true) :
    ¬ x < y ↔ y ≤ x := by
  obtain ⟨p, rfl⟩ := isFinite_iff.1 hx
  obtain ⟨q, rfl⟩ := isFinite_iff.1 hy
  rw [finite_lt, finite_le]
  exact not_lt

end BuildingEmulation.Scalar.Extended
