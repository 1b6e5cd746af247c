import BuildingEmulation.Proofs.Model.Survival
import BuildingEmulation.Proofs.ResultsLog
import BuildingEmulation.Proofs.Zone.Overrides

/-!
# The zone in its physical range

Nothing keeps the air of a zone in the plausible range: with the wrong parameters it leaves it within a
minute, and a step that fails there leaves it where it is. What is certain is what a step has checked
that returned. It went through one substep at least, so the last one led into the plausible range, under
a power that the heater has.

Parameters are extended scalars and so is the state, which may have become infinite or undefined. A power
that is undefined would make an undefined temperature, and that is not plausible.

Results:
* `clamp?_within`: a defined value that was brought into an interval lies in it.
* `integrate_inRange`: a step of a positive duration that returns ends in the range.
* `unit_shows`, `unit_survives`: the calls of the zone, as far as an exchange relies on them.
-/
namespace BuildingEmulation

open Scalar (Extended)

/-! ## Order -/

namespace Scalar

section

variable {α : Type} [Scalar α] [Linear α] {a b low high x y : α}

theorem le_of_not_lt (ha : isNaN a = false) (hb : isNaN b = false) (h : ¬ a < b) : b ≤ a :=
  Classical.byContradiction fun hle => h (Linear.lt_of_not_le ha hb hle)

theorem le_refl_of_defined (ha : isNaN a = false) : a ≤ a :=
  le_of_not_lt ha ha fun h => Linear.not_le_of_lt h (Linear.le_of_lt h)

theorem clamp?_within (h : clamp? low high x = some y) (hlow : isNaN low = false)
    (hhigh : isNaN high = false) (hy : isNaN y = false) : low ≤ y ∧ y ≤ high := by
  unfold clamp? at h
  split at h
  · next ordered =>
    have hvalue := Option.some.inj h
    split at hvalue
    · rw [← hvalue]
      exact ⟨le_refl_of_defined hlow, ordered⟩
    · next notBelow =>
      split at hvalue
      · rw [← hvalue]
        exact ⟨ordered, le_refl_of_defined hhigh⟩
      · next notAbove =>
        rw [hvalue] at notBelow notAbove
        exact ⟨le_of_not_lt hy hlow notBelow, le_of_not_lt hhigh hy notAbove⟩
  · cases h

end

namespace Extended

theorem isNaN_eq_false_iff {x : Extended} : isNaN x = false ↔ x ≠ .undefined := by
  rw [isNaN_eq]
  cases x <;> simp [same]

theorem add_undefined (x : Extended) : x + .undefined = .undefined := by
  cases x <;> rfl

end Extended

end Scalar

namespace Zone

/-! ## The last substep -/

section

variable {α : Type} [Scalar α] {z : Zone α} {dt : α} {s s' : ZoneState α}

/-- A substep that did not end the step led into the plausible range. -/
theorem substeps_first {n : Nat} (h : z.substeps dt (n + 1) s = .returned s' ()) :
    ∃ power, z.commandedPower? s = some power ∧
      isPlausible (z.substep s power dt).temperature = true ∧
      z.substeps dt n (z.substep s power dt) = .returned s' () := by
  unfold substeps at h
  split at h
  · cases h
  · next power hpower =>
    simp only at h
    split at h
    · next checked => exact ⟨power, hpower, checked, h⟩
    · cases h

/-- So did the last of the substeps of a step that returned. -/
theorem substeps_last {n : Nat} (h : z.substeps dt (n + 1) s = .returned s' ()) :
    ∃ before power, z.commandedPower? before = some power ∧ s' = z.substep before power dt ∧
      isPlausible s'.temperature = true := by
  induction n generalizing s with
  | zero =>
    obtain ⟨power, hpower, checked, hrest⟩ := substeps_first h
    cases hrest
    exact ⟨s, power, hpower, rfl, checked⟩
  | succ n ih =>
    obtain ⟨power, -, -, hrest⟩ := substeps_first h
    exact ih hrest

/-- A step of a positive duration goes through one substep at least. -/
theorem integrate_last [Scalar.Linear α] {duration : α} (pos : 0.0 < duration)
    (h : z.integrate duration s = .returned s' ()) :
    ∃ dt before power, z.commandedPower? before = some power ∧ s' = z.substep before power dt ∧
      isPlausible s'.temperature = true := by
  have nonzero : (duration == 0.0) = false := Scalar.Linear.beq_of_lt pos
  unfold integrate at h
  rw [nonzero] at h
  split at h
  · cases h
  · have hsteps : z.substeps (duration / Scalar.ofNat (substepCount duration))
        (min (substepCount duration) (pow2 64 - 1)) s = .returned s' () := h
    -- counting in 64 bits may leave out substeps, but never all of them
    have some : ∃ n, min (substepCount duration) (pow2 64 - 1) = n + 1 := by
      have one : 1 ≤ substepCount duration := Nat.le_max_left _ _
      have wide : 1 ≤ pow2 64 - 1 := by decide
      exact Nat.exists_eq_add_of_le' (Nat.le_min.2 ⟨one, wide⟩)
    obtain ⟨n, hn⟩ := some
    rw [hn] at hsteps
    exact ⟨_, substeps_last hsteps⟩

/-- The zone never aborts, as long as its heater has a range. -/
theorem unit_survives [Decimal.Numeral α] (z : Zone α) (h : (0.0 : α) ≤ z.parameters.maxPower) :
    z.unit.Survives := by
  have steps (duration : α) : (z.integrate duration).Survives := by
    intro s
    have settles := z.integrate_settles duration s
    cases hp : z.integrate duration s with
    | returned | failed => trivial
    | aborted s' =>
      rw [hp] at settles
      exact settles h
    | blocked s' resume =>
      rw [hp] at settles
      cases settles
  constructor
  case restart =>
    intro start warmupEnd
    refine Call.Survives.mapError (fun s => ?_) _
    unfold warmUp
    split
    · trivial
    · exact steps _ _
  case set => exact fun name value => Call.survives_ofState _
  case doStep => exact fun duration => (steps duration).mapError _
  case get => exact fun name => Call.survives_ofState _

end

/-! ## The range -/

/-- The air is at a temperature that can occur in a building, and the heater at a power that it has. -/
structure InRange (p : ZoneParameters Extended) (s : ZoneState Extended) : Prop where
  temperature : .finite 200 ≤ s.temperature ∧ s.temperature ≤ .finite 400
  heating : .finite 0 ≤ s.heatingPower ∧ s.heatingPower ≤ p.maxPower

/-- What a reading in the range shows. -/
structure Plausible (p : ZoneParameters Extended) (name : String) (x : Extended) : Prop where
  temperature : name = outputName temperaturePath → .finite 200 ≤ x ∧ x ≤ .finite 400
  heating : name = outputName heatingPath → .finite 0 ≤ x ∧ x ≤ p.maxPower

variable {z : Zone Extended}

theorem isPlausible_iff {temperature : Extended} :
    isPlausible temperature = true ↔ .finite 200 ≤ temperature ∧ temperature ≤ .finite 400 := by
  have low : (minPlausible : Extended) = .finite 200 := by decide +kernel
  have high : (maxPlausible : Extended) = .finite 400 := by decide +kernel
  unfold isPlausible
  rw [Bool.and_eq_true, decide_eq_true_eq, decide_eq_true_eq, low, high]

/-- An undefined power does not lead to a temperature that can occur. -/
theorem defined_of_isPlausible {s : ZoneState Extended} {power dt : Extended}
    (h : isPlausible (z.substep s power dt).temperature = true) : Scalar.isNaN power = false := by
  rw [Extended.isNaN_eq_false_iff]
  rintro rfl
  have undefined : (z.substep s .undefined dt).temperature = .undefined :=
    Extended.add_undefined s.temperature
  rw [undefined] at h
  cases h

/-- The heater has a range from zero on. -/
theorem heats_of_valid {p : ZoneParameters Extended} (valid : p.validate = .ok ()) :
    ∃ q : Rat, p.maxPower = .finite q ∧ 0 < q := by
  obtain ⟨positive, -⟩ := p.validate_ok_iff.1 valid
  obtain ⟨finite, above⟩ := positive ("max_heating_power_w", p.maxPower)
    (by simp [ZoneParameters.positives])
  obtain ⟨q, hq⟩ := Extended.isFinite_iff.1 finite
  refine ⟨q, hq, ?_⟩
  rwa [hq, Extended.zero_finite, Extended.finite_le, not_le] at above

/-- A step of a positive duration that returns ends in the range, wherever it began. -/
theorem integrate_inRange (valid : z.parameters.validate = .ok ()) {duration : Extended}
    (pos : 0.0 < duration) :
    Call.Spec (fun _ => True) (z.integrate duration) (fun s _ => InRange z.parameters s)
      fun _ _ => True := by
  intro s _
  cases hp : z.integrate duration s with
  | returned s' =>
    obtain ⟨dt, before, power, hpower, rfl, checked⟩ := integrate_last pos hp
    obtain ⟨q, hq, -⟩ := heats_of_valid valid
    refine ⟨isPlausible_iff.1 checked, ?_⟩
    rw [← Extended.zero_finite]
    refine Scalar.clamp?_within hpower ?_ ?_ (defined_of_isPlausible checked)
    · rw [Extended.zero_finite]
      exact Extended.isNaN_finite 0
    · rw [hq]
      exact Extended.isNaN_finite q
  | failed | aborted | blocked => trivial

theorem read?_plausible {s : ZoneState Extended} (h : InRange z.parameters s) {name : String}
    {x : Extended} (hx : z.read? name s = some x) : Plausible z.parameters name x := by
  constructor
  · rintro rfl
    rw [read?_temperature] at hx
    cases hx
    exact h.temperature
  · rintro rfl
    rw [read?_heating] at hx
    cases hx
    exact h.heating

/-- What can be read of the zone after a step is in its range. -/
theorem unit_shows [Decimal.Numeral Extended] (valid : z.parameters.validate = .ok ()) :
    z.unit.Shows (fun duration => 0.0 < duration) (InRange z.parameters)
      (Plausible z.parameters) where
  doStep _ pos := .mapError (integrate_inRange valid pos)
  get name := by
    intro s hs
    simp only [unit, Call.ofReading, Call.ofState]
    cases hx : z.read? name s with
    | some x => exact ⟨hs, read?_plausible hs hx⟩
    | none => trivial

/-! ## Signals -/

/-- The signals of a zone with valid parameters are well formed. -/
theorem metadata_wellFormed {p : ZoneParameters Extended} (valid : p.validate = .ok ()) :
    (metadata p).WellFormed where
  overwrite := by
    obtain ⟨q, hq, pos⟩ := heats_of_valid valid
    have named : ∀ path ∈ [setpointPath, powerPath], Text.isBlankText path = false := by
      decide +kernel
    have distinct : ([setpointPath, powerPath].map baseName).Nodup := by decide +kernel
    refine ⟨⟨fun path hm => named_iff.2 (named path hm), distinct⟩, fun b hb => ?_⟩
    simp only [metadata, List.mem_cons, List.not_mem_nil, or_false] at hb
    rcases hb with rfl | rfl
    · exact ⟨rfl, rfl, by decide +kernel⟩
    · refine ⟨rfl, by rw [hq]; rfl, ?_⟩
      rw [hq, Extended.zero_finite, Extended.finite_lt]
      exact not_lt.2 pos.le
  read := by
    have named : ∀ path ∈ [temperaturePath, heatingPath, outdoorPath],
        Text.isBlankText path = false := by decide +kernel
    have distinct : ([temperaturePath, heatingPath, outdoorPath].map baseName).Nodup := by
      decide +kernel
    exact ⟨fun path hm => named_iff.2 (named path hm), distinct⟩
  observed := List.cons_ne_nil _ _

end Zone

end BuildingEmulation
