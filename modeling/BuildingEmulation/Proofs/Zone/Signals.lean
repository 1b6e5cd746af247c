import BuildingEmulation.Model.Exchange
import BuildingEmulation.Proofs.Registry
import BuildingEmulation.Proofs.Zone.Substeps

/-!
# Signals of the zone

The names under which a model knows the signals of the zone are the names that the zone knows. So the
inputs of an exchange go where they belong: what is supplied is in force afterwards, and what is not
is released.

Results:
* `write?_setpoint` and its kin, `read?_temperature` and its kin: the variables of the zone.
* `setInputs_under`: writing the inputs of an exchange.
-/
namespace BuildingEmulation

variable {α : Type}

/-- The value that is in force, if one is. -/
def Override.inForce (o : Override α) : Option α := if o.active then some o.value else none

/-- What an input does to an override: a value that is supplied comes into force, and if none is the
override is released. -/
def Override.under (o : Override α) : Option α → Override α
  | some x => { value := x, active := true }
  | none => { o with active := false }

theorem Override.inForce_under (o : Override α) (x : Option α) : (o.under x).inForce = x := by
  cases x <;> rfl

namespace Zone

/-- The state with the inputs of an exchange written. -/
def under (inputs : SignalMap α) (s : ZoneState α) : ZoneState α :=
  { s with
    setpoint := s.setpoint.under (inputs.get? (inputName setpointPath))
    power := s.power.under (inputs.get? (inputName powerPath)) }

variable [Scalar α]

/-! ## Variables -/

/-- No two inputs and no two outputs of the zone have one name. -/
theorem baseNames_ne :
    baseName powerPath ≠ baseName setpointPath ∧
      baseName heatingPath ≠ baseName temperaturePath ∧
      baseName outdoorPath ≠ baseName temperaturePath ∧
      baseName outdoorPath ≠ baseName heatingPath := by
  decide +kernel

section

variable (value : UnitValue α) (s : ZoneState α)

theorem write?_setpoint : write? (inputName setpointPath) value s =
    some { s with setpoint := { s.setpoint with value := asReal value } } := by
  unfold write?
  rw [if_pos rfl]

theorem write?_setpointActivation : write? (activationName setpointPath) value s =
    some { s with setpoint := { s.setpoint with active := asFlag value } } := by
  have hne : ¬ activationName setpointPath = inputName setpointPath :=
    (inputName_ne_activationName _ _).symm
  unfold write?
  rw [if_neg hne, if_pos rfl]

theorem write?_power : write? (inputName powerPath) value s =
    some { s with power := { s.power with value := asReal value } } := by
  have hne₁ : ¬ inputName powerPath = inputName setpointPath :=
    fun h => baseNames_ne.1 (inputName_inj.1 h)
  have hne₂ : ¬ inputName powerPath = activationName setpointPath :=
    inputName_ne_activationName _ _
  unfold write?
  rw [if_neg hne₁, if_neg hne₂, if_pos rfl]

theorem write?_powerActivation : write? (activationName powerPath) value s =
    some { s with power := { s.power with active := asFlag value } } := by
  have hne₁ : ¬ activationName powerPath = inputName setpointPath :=
    (inputName_ne_activationName _ _).symm
  have hne₂ : ¬ activationName powerPath = activationName setpointPath :=
    fun h => baseNames_ne.1 (activationName_inj.1 h)
  have hne₃ : ¬ activationName powerPath = inputName powerPath :=
    (inputName_ne_activationName _ _).symm
  unfold write?
  rw [if_neg hne₁, if_neg hne₂, if_neg hne₃, if_pos rfl]

end

section

variable (z : Zone α) (s : ZoneState α)

theorem read?_temperature : z.read? (outputName temperaturePath) s = some s.temperature := by
  unfold read?
  rw [if_pos rfl]

theorem read?_heating : z.read? (outputName heatingPath) s = some s.heatingPower := by
  have hne : ¬ outputName heatingPath = outputName temperaturePath :=
    fun h => baseNames_ne.2.1 (outputName_inj.1 h)
  unfold read?
  rw [if_neg hne, if_pos rfl]

theorem read?_outdoor : z.read? (outputName outdoorPath) s = some (z.outdoor s.time) := by
  have hne₁ : ¬ outputName outdoorPath = outputName temperaturePath :=
    fun h => baseNames_ne.2.2.1 (outputName_inj.1 h)
  have hne₂ : ¬ outputName outdoorPath = outputName heatingPath :=
    fun h => baseNames_ne.2.2.2 (outputName_inj.1 h)
  unfold read?
  rw [if_neg hne₁, if_neg hne₂, if_pos rfl]

end

/-! ## Inputs of an exchange -/

variable {z : Zone α} {m : Model α (ZoneState α)}

omit [Scalar α] in
/-- One input after the others. -/
theorem writeInputs_returned {inputs : SignalMap α} {signal : InputSignal α} {s s' : ZoneState α}
    (h : m.writeInput inputs signal s = .returned s' ()) (rest : List (InputSignal α)) :
    m.writeInputs inputs (signal :: rest) s = m.writeInputs inputs rest s' := by
  change (m.writeInput inputs signal s).andThen _ = _
  rw [h]
  rfl

variable [Decimal.Numeral α]

theorem lift_set (hu : m.unit = z.unit) {name : String} {value : UnitValue α} {s s' : ZoneState α}
    (h : write? name value s = some s') :
    Model.lift (α := α) (m.unit.set name value) s = .returned s' () := by
  unfold Model.lift Call.mapError
  rw [hu, unit_set_some z h]
  rfl

/-- An input puts the zone into a state of its own for every value that may be supplied, and into one
if none is. -/
theorem writeInput_returned (hu : m.unit = z.unit) {signal : InputSignal α} {s : ZoneState α}
    {f : Option α → ZoneState α}
    (supplied : ∀ x, ∃ s₁, write? signal.name (.real x) s = some s₁ ∧
      write? signal.activation (.flag true) s₁ = some (f (some x)))
    (missing : write? signal.activation (.flag false) s = some (f none)) (inputs : SignalMap α) :
    m.writeInput inputs signal s = .returned (f (inputs.get? signal.name)) () := by
  unfold Model.writeInput
  cases inputs.get? signal.name with
  | none => exact lift_set hu missing
  | some x =>
    obtain ⟨s₁, hvalue, hactivation⟩ := supplied x
    change (Model.lift (α := α) (m.unit.set _ _) s).andThen _ = _
    rw [lift_set hu hvalue]
    exact lift_set hu hactivation

/-- Writing the inputs of an exchange always succeeds, and what was in force before is
forgotten. -/
theorem setInputs_under (hu : m.unit = z.unit)
    (hr : Registry.ofMetadata z.unit.metadata = .ok m.registry) (inputs : SignalMap α)
    (s : ZoneState α) : m.setInputs inputs s = .returned (under inputs s) () := by
  have hinputs : m.registry.inputs = (metadata z.parameters).overwrite.map Registry.inputOf := by
    rw [Registry.ofMetadata_ok hr]
    rfl
  unfold Model.setInputs
  rw [hinputs]
  refine (writeInputs_returned (writeInput_returned hu
    (f := fun x => { s with setpoint := s.setpoint.under x }) ?_ ?_ inputs) _).trans
    (writeInputs_returned (writeInput_returned hu
      (f := fun x => { s with
        setpoint := s.setpoint.under (inputs.get? (inputName setpointPath))
        power := s.power.under x }) ?_ ?_ inputs) _)
  · exact fun x => ⟨_, write?_setpoint _ _, write?_setpointActivation _ _⟩
  · exact write?_setpointActivation _ _
  · exact fun x => ⟨_, write?_power _ _, write?_powerActivation _ _⟩
  · exact write?_powerActivation _ _

end Zone

end BuildingEmulation
