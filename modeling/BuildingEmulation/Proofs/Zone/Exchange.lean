import BuildingEmulation.Proofs.Zone.Signals

/-!
# Exchanges of the zone without inputs

An exchange that supplies no inputs releases both overrides, steps and reads. In a zone where nothing
is overridden there is nothing to release, and the zone has a value for each of its outputs, so
nothing but the step itself can fail.

Results:
* `setInputs_free`: releasing what is not overridden.
* `getOutputs_readings`: the outputs of the zone in any state.
* `exchange_minutes`: an exchange of whole minutes is as many substeps and a reading.
-/
namespace BuildingEmulation.Zone

variable (z : Zone Rat)

/-- Nothing is overridden. -/
structure Free (s : ZoneState Rat) : Prop where
  setpoint : s.setpoint = noOverride
  power : s.power = noOverride

/-- The outputs of the zone. -/
def readings (s : ZoneState Rat) : SignalMap Rat :=
  ((SignalMap.empty.insert (outputName temperaturePath) s.temperature).insert
    (outputName heatingPath) s.heatingPower).insert (outputName outdoorPath) (z.outdoor s.time)

theorem readings_get? (s : ZoneState Rat) :
    (z.readings s).get? "TRooAir_y" = some s.temperature ∧
      (z.readings s).get? "PHea_y" = some s.heatingPower ∧
      (z.readings s).get? "weaTDryBul_y" = some (z.outdoor s.time) := by
  have temperature : outputName temperaturePath = "TRooAir_y" := by decide +kernel
  have heating : outputName heatingPath = "PHea_y" := by decide +kernel
  have outdoor : outputName outdoorPath = "weaTDryBul_y" := by decide +kernel
  unfold readings
  rw [temperature, heating, outdoor]
  simp [SignalMap.get?_insert]

variable {z} [Decimal.Numeral Rat] {m : Model Rat (ZoneState Rat)}

/-- What is not overridden is left as it is when the overrides are released. -/
theorem setInputs_free (hu : m.unit = z.unit)
    (hr : Registry.ofMetadata z.unit.metadata = .ok m.registry) {s : ZoneState Rat} (free : Free s) :
    m.setInputs .empty s = .returned s () := by
  have hs : under .empty s = s := by
    obtain ⟨time, temperature, heatingPower, setpoint, power⟩ := s
    obtain ⟨rfl, rfl⟩ := free
    rfl
  rw [setInputs_under hu hr, hs]

theorem readOutputs_cons (hu : m.unit = z.unit) {s : ZoneState Rat} {signal : OutputSignal} {x : Rat}
    (h : z.read? signal.name s = some x) (read : SignalMap Rat) (rest : List OutputSignal) :
    m.readOutputs read (signal :: rest) s = m.readOutputs (read.insert signal.name x) rest s := by
  have lifted : (Model.lift (α := Rat) (m.unit.get signal.name)) s = .returned s x := by
    unfold Model.lift Call.mapError
    rw [hu, unit_get_some z h]
    rfl
  change ((Model.lift (α := Rat) (m.unit.get signal.name)) s).andThen _ = _
  rw [lifted]
  rfl

theorem getOutputs_readings (hu : m.unit = z.unit)
    (hr : Registry.ofMetadata z.unit.metadata = .ok m.registry) (s : ZoneState Rat) :
    m.getOutputs s = .returned s (z.readings s) := by
  have outputs : m.registry.outputs = (metadata z.parameters).read.map Registry.outputOf := by
    rw [Registry.ofMetadata_ok hr]
    rfl
  unfold Model.getOutputs
  rw [outputs]
  unfold metadata
  simp only [List.map_cons, List.map_nil]
  rw [readOutputs_cons hu (z.read?_temperature s), readOutputs_cons hu (z.read?_heating s),
    readOutputs_cons hu (z.read?_outdoor s)]
  rfl

/-- An exchange of whole minutes without inputs goes through as many substeps, and answers what can
be read behind them. -/
theorem exchange_minutes (hu : m.unit = z.unit)
    (hr : Registry.ofMetadata z.unit.metadata = .ok m.registry) {s s' : ZoneState Rat}
    (free : Free s) {n : Nat} (hn : n < 2 ^ 64) {outputs : SignalMap Rat}
    (h : m.exchange .empty (60 * n) s = .returned s' outputs) :
    z.substeps 60 n s = .returned s' () ∧ outputs = z.readings s' := by
  have hexchange : m.exchange .empty (60 * n) s = (m.doStep (60 * n) s).andThen fun _ => m.getOutputs := by
    change (m.setInputs .empty s).andThen _ = _
    rw [setInputs_free hu hr free]
    rfl
  rw [hexchange] at h
  obtain ⟨s₁, u, hstep, hread⟩ := Progress.andThen_returned_cases h
  rw [getOutputs_readings hu hr] at hread
  cases hread
  refine ⟨?_, rfl⟩
  have hunit := Progress.mapError_returned hstep
  rw [hu, doStep_minutes z hn] at hunit
  exact Progress.mapError_returned hunit

end BuildingEmulation.Zone
