import BuildingEmulation.Proofs.Decimal
import BuildingEmulation.Proofs.Model.Mirror
import BuildingEmulation.Proofs.Zone.Signals

/-!
# Overrides of the zone

An exchange writes each override once, its value before its activation, and never brings a value into
force that it has not written itself. So what earlier calls left in the overrides makes no difference to
it: what it answers and where it leads is in its inputs and in the air.

Results:
* `asked`, `demand_eq_asked`: the power that is asked for, from what is in force.
* `integrate_mirrors`: steps do not see more of an override than what is in force.
* `exchange_forgets`: exchanges with the zone.
-/
namespace BuildingEmulation

/-! ## Calls that are answered -/

section

variable {σ ε ε' β γ : Type}

/-- The call came back, with an error in `F` if it failed. It ended without an answer only if `lost`. -/
def Progress.Settles (F : ε → Prop) (lost : Prop) : Progress σ ε β → Prop
  | .returned _ _ => True
  | .failed _ e => F e
  | .aborted _ => lost
  | .blocked _ _ => False

/-- The call settles from every state. -/
def Call.Settles (c : Call σ ε β) (F : ε → Prop) (lost : Prop) : Prop :=
  ∀ s, (c s).Settles F lost

variable {F : ε → Prop} {lost : Prop}

theorem Call.Settles.bind {c : Call σ ε β} {next : β → Call σ ε γ} (h : c.Settles F lost)
    (hn : ∀ b, (next b).Settles F lost) : (c >>= next).Settles F lost := by
  intro s
  have hc := h s
  change ((c s).andThen next).Settles F lost
  cases hp : c s with
  | returned s' b => exact hn b s'
  | failed | aborted | blocked => rw [hp] at hc; exact hc

theorem Call.Settles.mapError {c : Call σ ε β} {f : ε → ε'} {F' : ε' → Prop}
    (h : c.Settles F lost) (hF : ∀ e, F e → F' (f e)) : (c.mapError f).Settles F' lost := by
  intro s
  have hc := h s
  change ((c s).mapError f).Settles F' lost
  cases hp : c s with
  | failed s' e => rw [hp] at hc; exact hF e hc
  | returned | aborted | blocked => rw [hp] at hc; exact hc

end

variable {α : Type}

/-! ## What is the same -/

/-- The same time, and the same air under the same heater. -/
structure ZoneState.SameAir (s s' : ZoneState α) : Prop where
  time : s.time = s'.time
  temperature : s.temperature = s'.temperature
  heatingPower : s.heatingPower = s'.heatingPower

/-- The same air, and the same in force. -/
structure ZoneState.Alike (s s' : ZoneState α) : Prop extends ZoneState.SameAir s s' where
  setpoint : s.setpoint.inForce = s'.setpoint.inForce
  power : s.power.inForce = s'.power.inForce

namespace Zone

open ZoneState (SameAir Alike)

variable [Scalar α] (z : Zone α)

omit [Scalar α] in
/-- With the inputs of an exchange written, the same is in force whatever was before. -/
theorem under_alike {s s' : ZoneState α} (h : SameAir s s') (inputs : SignalMap α) :
    Alike (under inputs s) (under inputs s') where
  toSameAir := ⟨h.time, h.temperature, h.heatingPower⟩
  setpoint := by
    change (s.setpoint.under _).inForce = (s'.setpoint.under _).inForce
    rw [Override.inForce_under, Override.inForce_under]
  power := by
    change (s.power.under _).inForce = (s'.power.under _).inForce
    rw [Override.inForce_under, Override.inForce_under]

/-- The power that is asked for under a setpoint and a power from outside. Without a power from outside
the controller of the zone asks for it, and without a setpoint it follows that of the zone. -/
def asked (setpoint power : Option α) (temperature : α) : α :=
  power.getD (z.parameters.gain * (setpoint.getD z.parameters.setpoint - temperature))

theorem demand_eq_asked (s : ZoneState α) :
    z.demand s = z.asked s.setpoint.inForce s.power.inForce s.temperature := by
  have getD (o : Override α) (x : α) : o.inForce.getD x = if o.active then o.value else x := by
    unfold Override.inForce
    cases o.active <;> rfl
  rw [asked, getD, getD]
  rfl

/-! ## Steps -/

theorem commandedPower?_alike {s s' : ZoneState α} (h : Alike s s') :
    z.commandedPower? s = z.commandedPower? s' := by
  unfold commandedPower?
  rw [demand_eq_asked, demand_eq_asked, h.setpoint, h.power, h.temperature]

theorem substep_alike {s s' : ZoneState α} (h : Alike s s') (power dt : α) :
    Alike (z.substep s power dt) (z.substep s' power dt) := by
  refine ⟨⟨?_, ?_, rfl⟩, h.setpoint, h.power⟩
  · simp only [substep, h.time]
  · simp only [substep, h.time, h.temperature]

theorem substeps_mirrors (dt : α) (n : Nat) : Call.Mirrors Alike (z.substeps dt n) Alike Alike := by
  induction n with
  | zero => exact fun s s' h => ⟨h, rfl⟩
  | succ n ih =>
    intro s s' h
    unfold substeps
    rw [z.commandedPower?_alike h]
    cases z.commandedPower? s' with
    | none => exact h
    | some power =>
      have hnext := z.substep_alike h power dt
      simp only [hnext.temperature, hnext.time]
      split
      · exact ih _ _ hnext
      · exact ⟨hnext, rfl⟩

theorem integrate_mirrors (duration : α) :
    Call.Mirrors Alike (z.integrate duration) Alike Alike := by
  intro s s' h
  unfold integrate
  split
  · exact ⟨h, rfl⟩
  · split
    · exact ⟨h, rfl⟩
    · exact z.substeps_mirrors _ _ s s' h

theorem substeps_settles (dt : α) (n : Nat) :
    Call.Settles (z.substeps dt n) (fun _ => True) (¬ (0.0 : α) ≤ z.parameters.maxPower) := by
  induction n with
  | zero => exact fun _ => trivial
  | succ n ih =>
    intro s
    unfold substeps
    cases hpower : z.commandedPower? s with
    | none =>
      intro hle
      have hsome := (z.commandedPower?_isSome_iff s).2 hle
      rw [hpower] at hsome
      cases hsome
    | some power =>
      simp only
      split
      · exact ih _
      · trivial

theorem integrate_settles (duration : α) :
    Call.Settles (z.integrate duration) (fun _ => True) (¬ (0.0 : α) ≤ z.parameters.maxPower) := by
  intro s
  unfold integrate
  split
  · trivial
  · split
    · trivial
    · exact z.substeps_settles _ _ s

/-! ## Readings -/

theorem read?_sameAir {s s' : ZoneState α} (h : SameAir s s') (name : String) :
    z.read? name s = z.read? name s' := by
  unfold read?
  rw [h.time, h.temperature, h.heatingPower]

theorem isSome_read? (s : ZoneState α) {signal : OutputSignal}
    (h : signal ∈ (metadata z.parameters).read.map Registry.outputOf) :
    ∃ x, z.read? signal.name s = some x := by
  obtain ⟨block, hblock, rfl⟩ := List.mem_map.1 h
  simp only [metadata, List.mem_cons, List.not_mem_nil, or_false] at hblock
  rcases hblock with rfl | rfl | rfl
  · exact ⟨_, z.read?_temperature s⟩
  · exact ⟨_, z.read?_heating s⟩
  · exact ⟨_, z.read?_outdoor s⟩

variable {z} [Decimal.Numeral α] {m : Model α (ZoneState α)}

theorem get_mirrors (name : String) : Call.Mirrors SameAir (z.unit.get name) SameAir SameAir := by
  intro s s' h
  simp only [unit, Call.ofReading, Call.ofState, z.read?_sameAir h]
  cases z.read? name s' with
  | some x => exact ⟨h, rfl⟩
  | none => exact ⟨h, rfl⟩

/-- The error is not that a variable is missing. -/
def Known (e : ModelError α) : Prop := ∀ name, e ≠ .unit (.unknownVariable name)

/-- What the call comes to from every state: an answer, or an error that is not for want of a variable.
Only a heater without a range leaves it without either. -/
def Served (z : Zone α) {β : Type} (c : Call (ZoneState α) (ModelError α) β) : Prop :=
  c.Settles Known (¬ (0.0 : α) ≤ z.parameters.maxPower)

theorem readOutputs_served (hu : m.unit = z.unit) (signals : List OutputSignal)
    (present : ∀ signal ∈ signals, ∀ s, ∃ x, z.read? signal.name s = some x) (read : SignalMap α) :
    Served z (m.readOutputs read signals) := by
  induction signals generalizing read with
  | nil => exact fun _ => trivial
  | cons signal rest ih =>
    have hget : Served z (Model.lift (α := α) (m.unit.get signal.name)) := by
      intro s
      obtain ⟨x, hx⟩ := present signal List.mem_cons_self s
      unfold Model.lift Call.mapError
      rw [hu, unit_get_some z hx]
      trivial
    refine hget.bind fun x => ?_
    split
    · exact ih (fun signal' h => present signal' (List.mem_cons_of_mem _ h)) _
    · exact fun _ _ h => nomatch h

/-! ## Exchanges -/

omit [Decimal.Numeral α] in
theorem lift_served {c : Call (ZoneState α) (ZoneFault α) Unit} {f : ZoneFault α → UnitError}
    (h : c.Settles (fun _ => True) (¬ (0.0 : α) ≤ z.parameters.maxPower))
    (hf : ∀ fault name, f fault ≠ .unknownVariable name) :
    Served z (Model.lift (α := α) (c.mapError f)) := by
  have known : (c.mapError f).Settles (fun e => ∀ name, e ≠ .unknownVariable name)
      (¬ (0.0 : α) ≤ z.parameters.maxPower) := h.mapError fun fault _ => hf fault
  refine known.mapError fun e he name hname => ?_
  cases hname
  exact he name rfl

theorem restart_served (hu : m.unit = z.unit) (start warmupEnd : α) :
    Served z (m.restart start warmupEnd) := by
  unfold Model.restart
  rw [hu]
  refine lift_served (fun s => ?_) ?_
  · unfold warmUp
    split
    · trivial
    · exact z.integrate_settles _ _
  · intro fault name
    cases fault <;> exact UnitError.noConfusion

theorem doStep_served (hu : m.unit = z.unit) (duration : α) : Served z (m.doStep duration) := by
  unfold Model.doStep
  rw [hu]
  exact lift_served (z.integrate_settles duration) fun _ _ h => nomatch h

section

variable (hu : m.unit = z.unit) (hr : Registry.ofMetadata z.unit.metadata = .ok m.registry)

include hu hr

theorem setInputs_served (inputs : SignalMap α) : Served z (m.setInputs inputs) := by
  intro s
  rw [setInputs_under hu hr]
  trivial

theorem getOutputs_served : Served z m.getOutputs := by
  have outputs : m.registry.outputs = (metadata z.parameters).read.map Registry.outputOf := by
    rw [Registry.ofMetadata_ok hr]
    rfl
  refine readOutputs_served hu _ (fun signal h s => z.isSome_read? s ?_) _
  rwa [outputs] at h

theorem exchange_under (inputs : SignalMap α) (duration : α) (s : ZoneState α) :
    m.exchange inputs duration s = (do m.doStep duration; m.getOutputs) (under inputs s) := by
  change (m.setInputs inputs s).andThen _ = _
  rw [setInputs_under hu hr]
  rfl

/-- Two exchanges of the same inputs with the same air come to the same. -/
theorem exchange_sameAir (inputs : SignalMap α) (duration : α) :
    Call.Mirrors SameAir (m.exchange inputs duration) SameAir SameAir := by
  intro s s' h
  have hstep : Call.Mirrors Alike (m.doStep duration) Alike Alike := by
    unfold Model.doStep
    rw [hu]
    exact ((z.integrate_mirrors duration).mapError _).mapError _
  have hread : Call.Mirrors SameAir m.getOutputs SameAir SameAir :=
    Model.getOutputs_mirrors fun name => by rw [hu]; exact get_mirrors name
  -- behind the writes the two are alike, and the step keeps that up
  rw [exchange_under hu hr, exchange_under hu hr]
  have stepped := (hstep _ _ (under_alike h inputs)).mono
    (fun _ _ => ZoneState.Alike.toSameAir) fun _ _ => ZoneState.Alike.toSameAir
  exact stepped.andThen fun s₁ s₁' _ h₁ => hread s₁ s₁' h₁

end

/-- What earlier calls left in the overrides of a zone makes no difference to an exchange with it. From
the same air the same inputs come to the same: the same outputs or the same error, and the same air.
In each of its substeps what is asked for is in the inputs, and where they are silent in the zone itself.
And no call fails for want of a variable. -/
theorem exchange_forgets (z : Zone α) {m : Model α (ZoneState α)} (h : Model.ofUnit z.unit = .ok m) :
    (∀ inputs duration, Call.Mirrors SameAir (m.exchange inputs duration) SameAir SameAir) ∧
    (∀ inputs duration s,
      m.exchange inputs duration s = (do m.doStep duration; m.getOutputs) (under inputs s) ∧
      ∀ dt n s', z.substeps dt n (under inputs s) = .returned s' () →
        z.commandedPower? s' = Scalar.clamp? 0.0 z.parameters.maxPower
          (z.asked (inputs.get? (inputName setpointPath)) (inputs.get? (inputName powerPath))
            s'.temperature)) ∧
    (∀ start warmupEnd, Served z (m.restart start warmupEnd)) ∧
    (∀ inputs, Served z (m.setInputs inputs)) ∧
    (∀ duration, Served z (m.doStep duration)) ∧
    Served z m.getOutputs ∧
    ∀ inputs duration, Served z (m.exchange inputs duration) := by
  obtain ⟨registry, hr, hm⟩ := bind_eq_ok h
  cases hm
  refine ⟨exchange_sameAir rfl hr, fun inputs duration s => ⟨exchange_under rfl hr _ _ _, ?_⟩,
    restart_served rfl, setInputs_served rfl hr, doStep_served rfl, getOutputs_served rfl hr,
    fun inputs duration => ?_⟩
  · intro dt n s' hs'
    obtain ⟨setpoint, power⟩ := z.substeps_overrides dt n (under inputs s)
    rw [hs'] at setpoint power
    have hsetpoint : s'.setpoint.inForce = inputs.get? (inputName setpointPath) := by
      rw [show s'.setpoint = _ from setpoint]
      exact Override.inForce_under _ _
    have hpower : s'.power.inForce = inputs.get? (inputName powerPath) := by
      rw [show s'.power = _ from power]
      exact Override.inForce_under _ _
    rw [commandedPower?, demand_eq_asked, hsetpoint, hpower]
  · exact (setInputs_served rfl hr inputs).bind fun _ =>
      (doStep_served rfl duration).bind fun _ => getOutputs_served rfl hr

/-- A zone on a day like any other. -/
def mild : Zone Rat where
  parameters := .default
  wave _ := 0

/-- The zone at its start, but for both overrides being in force. -/
def tampered : ZoneState Rat :=
  { mild.start 0 with setpoint := ⟨310, true⟩, power := ⟨-5, true⟩ }

/-- A setpoint from outside, and no power. -/
def warmer : SignalMap Rat := .ofList [("oveTSetHea_u", 300)]

theorem exchange_forgets_tampered :
    ∃ m s s' outputs, Model.ofUnit mild.unit = .ok m ∧
      m.exchange warmer 150 (mild.start 0) = .returned s outputs ∧
      m.exchange warmer 150 tampered = .returned s' outputs ∧
      SameAir s s' := by
  obtain ⟨m, hm⟩ := eq_ok_of_toBool
    (show (Model.ofUnit mild.unit).toBool = true by decide +kernel)
  have returns : (match Model.ofUnit mild.unit with
      | .ok m =>
        match m.exchange warmer 150 (mild.start 0) with
        | .returned _ _ => true
        | _ => false
      | .error _ => false) = true := by decide +kernel
  rw [hm] at returns
  have alike := (exchange_forgets mild hm).1 warmer 150
    (mild.start 0) tampered ⟨rfl, rfl, rfl⟩
  cases hs : m.exchange warmer 150 (mild.start 0) with
  | returned s outputs =>
    cases hs' : m.exchange warmer 150 tampered with
    | returned s' outputs' =>
      rw [hs, hs'] at alike
      obtain ⟨air, rfl⟩ := alike
      exact ⟨m, s, s', outputs', hm, hs, hs', air⟩
    | failed | aborted => rw [hs, hs'] at alike; cases alike
    | blocked s' resume =>
      obtain ⟨-, -, -, -, -, -, served⟩ := exchange_forgets mild hm
      have served := served warmer 150 tampered
      rw [hs'] at served
      cases served
  | failed | aborted | blocked => simp only [hs] at returns; cases returns

end Zone

end BuildingEmulation
