import BuildingEmulation.Scalar

/-!
# Parameters of the zone

The constants of the bundled zone, with the labels under which they are configured.

Results:
* `validate_ok_iff`: parameters are valid if all of them are finite and in their range.
-/
namespace BuildingEmulation

/-- Temperatures are in kelvin, powers in watts. -/
structure ZoneParameters (α : Type) where
  /-- Heat that warms the zone by one degree. -/
  capacitance : α
  /-- Heat lost per degree to the outdoors. -/
  conductance : α
  maxPower : α
  /-- Power the controller asks for per degree below the setpoint. -/
  gain : α
  initialTemperature : α
  setpoint : α
  outdoorMean : α
  outdoorAmplitude : α
  deriving Repr, BEq

/-- A parameter that lies outside its range. -/
inductive ZoneParameterFault
  | notPositive (label : String)
  | negative (label : String)
  deriving Repr, DecidableEq

def ZoneParameterFault.message : ZoneParameterFault → String
  | notPositive label => s!"model {label} must be finite and positive"
  | negative label => s!"model {label} must not be negative"

namespace ZoneParameters

variable {α : Type} [Scalar α]

def default : ZoneParameters α where
  capacitance := 5.0e6
  conductance := 150.0
  maxPower := 10000.0
  gain := 2000.0
  initialTemperature := 293.15
  setpoint := 294.15
  outdoorMean := 278.15
  outdoorAmplitude := 5.0

/-- The parameters that have to be positive. -/
def positives (p : ZoneParameters α) : List (String × α) :=
  [("capacitance_j_per_k", p.capacitance), ("ua_w_per_k", p.conductance),
   ("max_heating_power_w", p.maxPower), ("initial_temperature_k", p.initialTemperature),
   ("default_setpoint_k", p.setpoint), ("outdoor_mean_k", p.outdoorMean)]

/-- The parameters that may be zero but not negative. -/
def nonNegatives (p : ZoneParameters α) : List (String × α) :=
  [("controller_gain_w_per_k", p.gain), ("outdoor_amplitude_k", p.outdoorAmplitude)]

/-- All parameters are finite and in their range; otherwise the first that is not. -/
def validate (p : ZoneParameters α) : Except ZoneParameterFault Unit :=
  match p.positives.find? (fun (_, x) => !Scalar.isFinite x || x ≤ 0.0) with
  | some (label, _) => .error (.notPositive label)
  | none =>
    match p.nonNegatives.find? (fun (_, x) => !Scalar.isFinite x || x < 0.0) with
    | some (label, _) => .error (.negative label)
    | none => .ok ()

theorem validate_ok_iff (p : ZoneParameters α) :
    p.validate = .ok () ↔
      (∀ entry ∈ p.positives, Scalar.isFinite entry.2 = true ∧ ¬ entry.2 ≤ 0.0) ∧
        ∀ entry ∈ p.nonNegatives, Scalar.isFinite entry.2 = true ∧ ¬ entry.2 < 0.0 := by
  have positives : p.positives.find? (fun (_, x) => !Scalar.isFinite x || x ≤ 0.0) = none ↔
      ∀ entry ∈ p.positives, Scalar.isFinite entry.2 = true ∧ ¬ entry.2 ≤ 0.0 := by simp
  have nonNegatives : p.nonNegatives.find? (fun (_, x) => !Scalar.isFinite x || x < 0.0) = none ↔
      ∀ entry ∈ p.nonNegatives, Scalar.isFinite entry.2 = true ∧ ¬ entry.2 < 0.0 := by simp
  unfold validate
  rw [← positives, ← nonNegatives]
  split
  · next h => simp [h]
  · next h =>
    rw [h]
    split
    · next h' => simp [h']
    · next h' => simp [h']

end ZoneParameters

end BuildingEmulation
