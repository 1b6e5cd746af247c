import BuildingEmulation.Model.Recorded
import BuildingEmulation.Proofs.Decimal
import BuildingEmulation.Proofs.Zone.Signals

/-!
# Zones that never fail

In a substep the air is pulled towards the outdoors by what it loses through the envelope, and towards
the setpoint by the controller. The pulls act for a minute at most. If together they do not carry the
air past what it is pulled to in a minute, the air stays between the coldest and the warmest of what
pulls at it, whatever the heater can do, however long the steps are and whatever happens to the
setpoint in between. So it never leaves the plausible range if those lie in it, and no call fails.

Results:
* `substep_within`: the bounds survive a substep of at most a minute.
* `integrate_within`, `perform_within`: and so they survive steps of any length and all other calls.
* `stable_neverFails`: every sequence of calls on a zone with valid parameters.
-/
namespace BuildingEmulation

/-- The unit does what it is called for; what it answers to a reading is left aside. -/
def EmulationUnit.perform {α σ : Type} (u : EmulationUnit α σ) : UnitCall α → Call σ UnitError Unit
  | .restart start warmupEnd => u.restart start warmupEnd
  | .set name value => u.set name value
  | .doStep duration => u.doStep duration
  | .get name => fun s => (u.get name s).discard

namespace Zone

/-! ## Bounds -/

/-- What pulls at the air of the zone stays between two temperatures in the plausible range, and in a
minute it does not pull the air beyond them. -/
structure Confined (z : Zone Rat) (low high : Rat) : Prop where
  capacitance : 0 < z.parameters.capacitance
  conductance : 0 ≤ z.parameters.conductance
  gain : 0 ≤ z.parameters.gain
  maxPower : 0 ≤ z.parameters.maxPower
  gentle : 60 * (z.parameters.conductance + z.parameters.gain) ≤ z.parameters.capacitance
  outdoor : ∀ t, low ≤ z.outdoor t ∧ z.outdoor t ≤ high
  initial : low ≤ z.parameters.initialTemperature ∧ z.parameters.initialTemperature ≤ high
  setpoint : z.parameters.setpoint ≤ high
  inRange : 200 ≤ low ∧ high ≤ 400

/-- The air and the heater stay within their bounds, no setpoint from outside lies above, and the
power is not overridden. -/
structure Within (z : Zone Rat) (low high : Rat) (s : ZoneState Rat) : Prop where
  temperature : low ≤ s.temperature ∧ s.temperature ≤ high
  heating : 0 ≤ s.heatingPower ∧ s.heatingPower ≤ z.parameters.maxPower
  setpoint : s.setpoint.value ≤ high
  released : s.power.active = false

variable {z : Zone Rat} {low high : Rat} {s : ZoneState Rat}

theorem Confined.high_nonneg (h : Confined z low high) : 0 ≤ high := by
  have := h.inRange
  have := h.initial
  linarith

theorem start_within (h : Confined z low high) (t : Rat) : Within z low high (z.start t) := by
  have none : (Zone.noOverride : Override Rat).value = 0 := zero_exact
  have off : (z.start t).heatingPower = 0 := zero_exact
  refine ⟨h.initial, ?_, ?_, rfl⟩
  · rw [off]
    exact ⟨le_rfl, h.maxPower⟩
  · change (Zone.noOverride : Override Rat).value ≤ high
    rw [none]
    exact h.high_nonneg

/-! ## Substeps -/

/-- The controller asks for power as long as the air is colder than the warmest setpoint, and for no
more than the distance to it allows. -/
theorem commandedPower_within (h : Confined z low high) (hs : Within z low high s) :
    ∃ power, z.commandedPower? s = some power ∧ (0 ≤ power ∧ power ≤ z.parameters.maxPower) ∧
      power ≤ z.parameters.gain * (high - s.temperature) := by
  have hsetpoint : (if s.setpoint.active then s.setpoint.value else z.parameters.setpoint) ≤ high := by
    split
    · exact hs.setpoint
    · exact h.setpoint
  have hdemand : z.demand s ≤ z.parameters.gain * (high - s.temperature) := by
    unfold demand
    rw [if_neg (by rw [hs.released]; exact Bool.false_ne_true)]
    have hgap : (if s.setpoint.active then s.setpoint.value else z.parameters.setpoint) -
        s.temperature ≤ high - s.temperature := by linarith
    exact mul_le_mul_of_nonneg_left hgap h.gain
  have hroom : 0 ≤ z.parameters.gain * (high - s.temperature) :=
    mul_nonneg h.gain (sub_nonneg.2 hs.temperature.2)
  refine ⟨max 0 (min z.parameters.maxPower (z.demand s)), ?_, ⟨le_max_left _ _, ?_⟩, ?_⟩
  · unfold commandedPower?
    rw [zero_exact]
    exact clamp?_exact h.maxPower _
  · exact max_le h.maxPower (min_le_left _ _)
  · exact max_le hroom ((min_le_right _ _).trans hdemand)

/-- A flow that is in proportion to a distance does not cover more than that distance, if the time is
short enough. -/
theorem pull_le {capacitance strength gap flux dt : Rat} (hc : 0 < capacitance) (hdt : 0 ≤ dt)
    (short : strength * dt ≤ capacitance) (hgap : 0 ≤ gap) (hflux : flux ≤ strength * gap) :
    flux / capacitance * dt ≤ gap := by
  calc flux / capacitance * dt = flux * dt / capacitance := by ring
    _ ≤ strength * gap * dt / capacitance := by gcongr
    _ = strength * dt * gap / capacitance := by ring
    _ ≤ capacitance * gap / capacitance := by gcongr
    _ = gap := by field_simp

theorem substep_within (h : Confined z low high) (hs : Within z low high s) {power dt : Rat}
    (hpower : 0 ≤ power ∧ power ≤ z.parameters.maxPower)
    (hasked : power ≤ z.parameters.gain * (high - s.temperature)) (hdt : 0 ≤ dt ∧ dt ≤ 60) :
    Within z low high (z.substep s power dt) := by
  obtain ⟨cold, warm⟩ := h.outdoor s.time
  have hloss := h.conductance
  have hgain := h.gain
  have hgentle := h.gentle
  have hbelow : 0 ≤ s.temperature - low := sub_nonneg.2 hs.temperature.1
  have habove : 0 ≤ high - s.temperature := sub_nonneg.2 hs.temperature.2
  -- nothing cools the air but the outdoors
  have hfall : -(power + z.parameters.conductance * (z.outdoor s.time - s.temperature)) /
      z.parameters.capacitance * dt ≤ s.temperature - low := by
    have hshort : z.parameters.conductance * dt ≤ z.parameters.capacitance := by nlinarith
    have hflux : z.parameters.conductance * (s.temperature - z.outdoor s.time) ≤
        z.parameters.conductance * (s.temperature - low) :=
      mul_le_mul_of_nonneg_left (by linarith) hloss
    exact pull_le h.capacitance hdt.1 hshort hbelow (by linarith [hpower.1])
  -- the outdoors and the heater pull up to the warmest at most
  have hrise : (power + z.parameters.conductance * (z.outdoor s.time - s.temperature)) /
      z.parameters.capacitance * dt ≤ high - s.temperature := by
    have hshort : (z.parameters.conductance + z.parameters.gain) * dt ≤ z.parameters.capacitance := by
      nlinarith
    have hflux : z.parameters.conductance * (z.outdoor s.time - s.temperature) ≤
        z.parameters.conductance * (high - s.temperature) :=
      mul_le_mul_of_nonneg_left (by linarith) hloss
    exact pull_le h.capacitance hdt.1 hshort habove (by linarith)
  refine ⟨?_, hpower, hs.setpoint, hs.released⟩
  change low ≤ s.temperature + (power + z.parameters.conductance * (z.outdoor s.time - s.temperature)) /
      z.parameters.capacitance * dt ∧ s.temperature + (power + z.parameters.conductance *
      (z.outdoor s.time - s.temperature)) / z.parameters.capacitance * dt ≤ high
  rw [neg_div, neg_mul] at hfall
  constructor <;> linarith

theorem isPlausible_of_within (h : Confined z low high) (hs : Within z low high s) :
    isPlausible s.temperature = true := by
  have hlow : (minPlausible : Rat) = 200 := by
    change (200.0 : Rat) = 200
    norm_num
  have hhigh : (maxPlausible : Rat) = 400 := by
    change (400.0 : Rat) = 400
    norm_num
  unfold isPlausible
  rw [hlow, hhigh, Bool.and_eq_true, decide_eq_true_eq, decide_eq_true_eq]
  exact ⟨h.inRange.1.trans hs.temperature.1, hs.temperature.2.trans h.inRange.2⟩

theorem substeps_within (h : Confined z low high) {dt : Rat} (hdt : 0 ≤ dt ∧ dt ≤ 60) (n : Nat)
    (hs : Within z low high s) :
    ∃ s', z.substeps dt n s = .returned s' () ∧ Within z low high s' := by
  induction n generalizing s with
  | zero => exact ⟨s, rfl, hs⟩
  | succ n ih =>
    obtain ⟨power, hpower, hbounds, hasked⟩ := commandedPower_within h hs
    have hnext := substep_within h hs hbounds hasked hdt
    obtain ⟨s', hrest, hs'⟩ := ih hnext
    refine ⟨s', ?_, hs'⟩
    unfold substeps
    simp only [hpower, isPlausible_of_within h hnext, if_true]
    exact hrest

/-! ## Calls -/

/-- No substep lasts more than a minute. -/
theorem le_substepCount {duration : Rat} : duration / (substepCount duration : Rat) ≤ 60 := by
  have hcount : (0 : Rat) < substepCount duration := by
    have : 0 < substepCount duration := Nat.lt_of_lt_of_le Nat.zero_lt_one (le_max_left _ _)
    exact_mod_cast this
  have hceil : (Rat.ceil (duration / 60)) ≤ (substepCount duration : Int) := by
    have hc : Scalar.ceil? (duration / maxSubstep) = some (Rat.ceil (duration / 60)) := by
      rw [maxSubstep_exact]
      rfl
    unfold substepCount
    rw [hc]
    simp only [Option.getD_some]
    omega
  have hle : duration / 60 ≤ (substepCount duration : Rat) :=
    (Rat.le_ceil (x := duration / 60)).trans (by exact_mod_cast hceil)
  rw [div_le_iff₀ hcount]
  linarith

theorem integrate_within (h : Confined z low high) {duration : Rat} (hd : 0 ≤ duration)
    (hs : Within z low high s) :
    ∃ s', z.integrate duration s = .returned s' () ∧ Within z low high s' := by
  have hfinite : Scalar.isFinite duration = true := rfl
  have hnonneg : ¬ duration < 0.0 := by
    rw [zero_exact, not_lt]
    exact hd
  unfold integrate
  simp only [hfinite, hnonneg, Bool.not_true, decide_false, Bool.or_false, Bool.false_eq_true,
    if_false]
  split
  · exact ⟨s, rfl, hs⟩
  · rw [ofNat_exact]
    exact substeps_within h ⟨div_nonneg hd (Nat.cast_nonneg _), le_substepCount⟩ _ hs

/-- A call that leaves the power alone. The setpoint may be written and be put in force or released,
time goes forward, and what is read is there. -/
def LeavesPower : UnitCall Rat → Prop
  | .restart start warmupEnd => start ≤ warmupEnd
  | .set name value =>
    name ∈ [inputName setpointPath, activationName setpointPath, inputName powerPath] ∨
      name = activationName powerPath ∧ asFlag value = false
  | .doStep duration => 0 ≤ duration
  | .get name => name ∈ [outputName temperaturePath, outputName heatingPath, outputName outdoorPath]

instance : DecidablePred LeavesPower
  | .restart start warmupEnd => inferInstanceAs (Decidable (start ≤ warmupEnd))
  | .set name value => inferInstanceAs (Decidable (name ∈ _ ∨ name = _ ∧ asFlag value = false))
  | .doStep duration => inferInstanceAs (Decidable (0 ≤ duration))
  | .get name => inferInstanceAs (Decidable (name ∈ _))

/-- The setpoint that a call writes. -/
def writtenSetpoint? : UnitCall Rat → Option Rat
  | .set name value => if name = inputName setpointPath then some (asReal value) else none
  | _ => none

section

variable [Decimal.Numeral Rat]

theorem restart_within (h : Confined z low high) {start warmupEnd : Rat} (hle : start ≤ warmupEnd)
    (s : ZoneState Rat) :
    ∃ s', z.unit.restart start warmupEnd s = .returned s' () ∧ Within z low high s' := by
  have hwarmup : 0 ≤ warmupEnd - start := sub_nonneg.2 hle
  obtain ⟨s', hs', hw⟩ := integrate_within h hwarmup (start_within h start)
  refine ⟨s', ?_, hw⟩
  have hrestart := z.restart_eq hwarmup s (t := start)
  rw [add_sub_cancel] at hrestart
  rw [hrestart, hs']
  rfl

theorem set_within (hs : Within z low high s) {name : String} {value : UnitValue Rat}
    (leaves : LeavesPower (.set name value))
    (written : ∀ x, writtenSetpoint? (.set name value) = some x → x ≤ high) :
    ∃ s', z.unit.set name value s = .returned s' () ∧ Within z low high s' := by
  rcases leaves with hname | ⟨rfl, lowered⟩
  · simp only [List.mem_cons, List.not_mem_nil, or_false] at hname
    rcases hname with rfl | rfl | rfl
    · exact ⟨_, unit_set_some z (write?_setpoint value s),
        ⟨hs.temperature, hs.heating, written _ (if_pos rfl), hs.released⟩⟩
    · exact ⟨_, unit_set_some z (write?_setpointActivation value s),
        ⟨hs.temperature, hs.heating, hs.setpoint, hs.released⟩⟩
    · exact ⟨_, unit_set_some z (write?_power value s),
        ⟨hs.temperature, hs.heating, hs.setpoint, hs.released⟩⟩
  · exact ⟨_, unit_set_some z (write?_powerActivation value s),
      ⟨hs.temperature, hs.heating, hs.setpoint, lowered⟩⟩

/-- What is known of the zone survives every call that leaves the power alone, and none fails. -/
theorem perform_within (h : Confined z low high) (hs : Within z low high s) {call : UnitCall Rat}
    (leaves : LeavesPower call) (written : ∀ x, writtenSetpoint? call = some x → x ≤ high) :
    ∃ s', z.unit.perform call s = .returned s' () ∧ Within z low high s' := by
  cases call with
  | restart start warmupEnd => exact restart_within h leaves s
  | set name value => exact set_within hs leaves written
  | doStep duration =>
    obtain ⟨s', hs', hw⟩ := integrate_within h leaves hs
    refine ⟨s', ?_, hw⟩
    change (z.integrate duration s).mapError _ = _
    rw [hs']
    rfl
  | get name =>
    have hread : ∃ x, z.read? name s = some x := by
      simp only [LeavesPower, List.mem_cons, List.not_mem_nil, or_false] at leaves
      rcases leaves with rfl | rfl | rfl
      · exact ⟨_, z.read?_temperature s⟩
      · exact ⟨_, z.read?_heating s⟩
      · exact ⟨_, z.read?_outdoor s⟩
    obtain ⟨x, hx⟩ := hread
    refine ⟨s, ?_, hs⟩
    change (z.unit.get name s).discard = _
    rw [unit_get_some z hx]
    rfl

theorem performs_within (h : Confined z low high) (calls : List (UnitCall Rat))
    (leaves : ∀ call ∈ calls, LeavesPower call)
    (written : ∀ x ∈ calls.filterMap writtenSetpoint?, x ≤ high) (hs : Within z low high s) :
    ∃ s', forM calls z.unit.perform s = .returned s' () ∧ Within z low high s' := by
  induction calls generalizing s with
  | nil => exact ⟨s, rfl, hs⟩
  | cons call rest ih =>
    have hwritten : ∀ x, writtenSetpoint? call = some x → x ≤ high := fun x hx =>
      written x (List.mem_filterMap.2 ⟨call, List.mem_cons_self, hx⟩)
    obtain ⟨s₁, hcall, hs₁⟩ := perform_within h hs (leaves call List.mem_cons_self) hwritten
    have hrest : ∀ x ∈ rest.filterMap writtenSetpoint?, x ≤ high := by
      intro x hx
      obtain ⟨call', hmem, hx'⟩ := List.mem_filterMap.1 hx
      exact written x (List.mem_filterMap.2 ⟨call', List.mem_cons_of_mem _ hmem, hx'⟩)
    obtain ⟨s', hs', hw⟩ := ih (fun call' hm => leaves call' (List.mem_cons_of_mem _ hm)) hrest hs₁
    refine ⟨s', ?_, hw⟩
    rw [List.forM_cons]
    change (z.unit.perform call s).andThen _ = _
    rw [hcall]
    exact hs'

end

end Zone

/-! ## Valid parameters -/

namespace ZoneParameters

variable {p : ZoneParameters Rat} {label : String} {x : Rat}

theorem validate_positive (h : p.validate = .ok ()) (hx : (label, x) ∈ p.positives) : 0 < x := by
  obtain ⟨-, above⟩ := (p.validate_ok_iff.1 h).1 _ hx
  rwa [zero_exact, not_le] at above

theorem validate_nonNegative (h : p.validate = .ok ()) (hx : (label, x) ∈ p.nonNegatives) :
    0 ≤ x := by
  obtain ⟨-, notBelow⟩ := (p.validate_ok_iff.1 h).2 _ hx
  rwa [zero_exact, not_lt] at notBelow

/-- The lowest temperature among the first one and those of the outdoors. -/
def coldest (p : ZoneParameters Rat) : Rat :=
  min p.initialTemperature (p.outdoorMean - p.outdoorAmplitude)

/-- The highest temperature among the first one, those of the outdoors and the setpoints, the default
one and those that are written. -/
def warmest (p : ZoneParameters Rat) (written : List Rat) : Rat :=
  written.foldr max (max p.initialTemperature (max (p.outdoorMean + p.outdoorAmplitude) p.setpoint))

theorem le_warmest (p : ZoneParameters Rat) (written : List Rat) :
    (p.initialTemperature ≤ p.warmest written ∧
      p.outdoorMean + p.outdoorAmplitude ≤ p.warmest written ∧ p.setpoint ≤ p.warmest written) ∧
    ∀ x ∈ written, x ≤ p.warmest written := by
  induction written with
  | nil =>
    refine ⟨⟨le_max_left _ _, ?_, ?_⟩, fun _ hx => nomatch hx⟩
    · exact (le_max_left _ _).trans (le_max_right _ _)
    · exact (le_max_right _ _).trans (le_max_right _ _)
  | cons y rest ih =>
    obtain ⟨⟨initial, outdoor, setpoint⟩, hrest⟩ := ih
    have hle : p.warmest rest ≤ p.warmest (y :: rest) := le_max_right _ _
    refine ⟨⟨initial.trans hle, outdoor.trans hle, setpoint.trans hle⟩, fun x hx => ?_⟩
    rcases List.mem_cons.1 hx with rfl | hx
    · exact le_max_left _ _
    · exact (hrest x hx).trans hle

end ZoneParameters

namespace Zone

variable {z : Zone Rat}

theorem confined_of_valid (wave : ∀ t, -1 ≤ z.wave t ∧ z.wave t ≤ 1)
    (valid : z.parameters.validate = .ok ())
    (gentle : 60 * (z.parameters.conductance + z.parameters.gain) ≤ z.parameters.capacitance)
    {written : List Rat}
    (inRange : 200 ≤ z.parameters.coldest ∧ z.parameters.warmest written ≤ 400) :
    Confined z z.parameters.coldest (z.parameters.warmest written) := by
  have positive (label : String) {x : Rat} (hx : (label, x) ∈ z.parameters.positives) : 0 < x :=
    ZoneParameters.validate_positive valid hx
  have nonNegative (label : String) {x : Rat} (hx : (label, x) ∈ z.parameters.nonNegatives) :
      0 ≤ x := ZoneParameters.validate_nonNegative valid hx
  have amplitude : 0 ≤ z.parameters.outdoorAmplitude :=
    nonNegative "outdoor_amplitude_k" (by simp [ZoneParameters.nonNegatives])
  obtain ⟨⟨initial, outdoor, setpoint⟩, -⟩ := z.parameters.le_warmest written
  constructor
  case capacitance =>
    exact positive "capacitance_j_per_k" (by simp [ZoneParameters.positives])
  case conductance =>
    exact (positive "ua_w_per_k" (by simp [ZoneParameters.positives])).le
  case gain =>
    exact nonNegative "controller_gain_w_per_k" (by simp [ZoneParameters.nonNegatives])
  case maxPower =>
    exact (positive "max_heating_power_w" (by simp [ZoneParameters.positives])).le
  case gentle => exact gentle
  case outdoor =>
    intro t
    obtain ⟨lowest, highest⟩ := wave t
    have hcold : z.parameters.coldest ≤ z.parameters.outdoorMean - z.parameters.outdoorAmplitude :=
      min_le_right _ _
    unfold Zone.outdoor
    constructor <;> nlinarith
  case initial => exact ⟨min_le_left _ _, initial⟩
  case setpoint => exact setpoint
  case inRange => exact inRange

/-- A zone with valid parameters that is not too quick for its substeps never fails, as long as its
power is not overridden: whatever is called, in whatever order, after every call the air is between
the coldest and the warmest temperature that it has been given, and the heater within its range. -/
theorem stable_neverFails [Decimal.Numeral Rat] (z : Zone Rat) (t : Rat)
    (calls : List (UnitCall Rat)) (wave : ∀ t, -1 ≤ z.wave t ∧ z.wave t ≤ 1)
    (valid : z.parameters.validate = .ok ())
    (gentle : 60 * (z.parameters.conductance + z.parameters.gain) ≤ z.parameters.capacitance)
    (inRange : 200 ≤ z.parameters.coldest ∧
      z.parameters.warmest (calls.filterMap writtenSetpoint?) ≤ 400)
    (leaves : ∀ call ∈ calls, LeavesPower call) :
    ∀ done, done <+: calls → ∃ s, forM done z.unit.perform (z.start t) = .returned s () ∧
      (z.parameters.coldest ≤ s.temperature ∧
        s.temperature ≤ z.parameters.warmest (calls.filterMap writtenSetpoint?)) ∧
      0 ≤ s.heatingPower ∧ s.heatingPower ≤ z.parameters.maxPower := by
  intro done hdone
  have h := confined_of_valid wave valid gentle inRange
  obtain ⟨-, hwritten⟩ := z.parameters.le_warmest (calls.filterMap writtenSetpoint?)
  have hdoneWritten : ∀ x ∈ done.filterMap writtenSetpoint?, x ∈ calls.filterMap writtenSetpoint? :=
    (hdone.filterMap _).subset
  obtain ⟨s, hs, hw⟩ := performs_within h done (fun call hc => leaves call (hdone.subset hc))
    (fun x hx => hwritten x (hdoneWritten x hx)) (start_within h t)
  exact ⟨s, hs, hw.temperature, hw.heating⟩

/-- A zone on the edge: in a minute the pulls carry the air just as far as they may. The weather
turns after half an hour. -/
def edge : Zone Rat where
  parameters := { ZoneParameters.default with capacitance := 129000 }
  wave t := if t < 1800 then 1 else -1

/-- A warm-up, steps under a setpoint above all other temperatures, and the release of a power that was
written but never in force. -/
def edgeCalls : List (UnitCall Rat) :=
  [.restart 0 600, .set (inputName setpointPath) (.real 310),
    .set (activationName setpointPath) (.flag true), .doStep 3690,
    .set (inputName powerPath) (.real (-5)), .set (activationName powerPath) (.real 0), .doStep 45]

theorem stable_neverFails_edge :
    edge.parameters.validate = .ok () ∧
    60 * (edge.parameters.conductance + edge.parameters.gain) = edge.parameters.capacitance ∧
    (∀ call ∈ edgeCalls, LeavesPower call) ∧
    ∃ s, forM edgeCalls edge.unit.perform (edge.start 9) = .returned s () ∧
      (27315 / 100 ≤ s.temperature ∧ s.temperature ≤ 310) ∧
      0 ≤ s.heatingPower ∧ s.heatingPower ≤ 10000 := by
  have wave : ∀ t, -1 ≤ edge.wave t ∧ edge.wave t ≤ 1 := by
    intro t
    change -1 ≤ (if t < 1800 then (1 : Rat) else -1) ∧ (if t < 1800 then (1 : Rat) else -1) ≤ 1
    split <;> norm_num
  have valid : edge.parameters.validate = .ok () := by decide +kernel
  have gentle : 60 * (edge.parameters.conductance + edge.parameters.gain) =
      edge.parameters.capacitance := by decide +kernel
  have leaves : ∀ call ∈ edgeCalls, LeavesPower call := by decide +kernel
  have coldest : edge.parameters.coldest = 27315 / 100 := by decide +kernel
  have warmest : edge.parameters.warmest (edgeCalls.filterMap writtenSetpoint?) = 310 := by
    decide +kernel
  have maxPower : edge.parameters.maxPower = 10000 := by decide +kernel
  have h := stable_neverFails edge 9 edgeCalls wave valid gentle.le
    ⟨by rw [coldest]; norm_num, by rw [warmest]; norm_num⟩ leaves edgeCalls (List.prefix_refl _)
  rw [coldest, warmest, maxPower] at h
  exact ⟨valid, gentle, leaves, h⟩

/-- A zone that is too quick for its substeps overshoots. -/
example :
    let quick : Zone Rat := ⟨{ ZoneParameters.default with capacitance := 1 }, fun _ => 1⟩
    (match quick.integrate 60 (quick.start 0) with
      | .failed _ (.leftRange temperature _) => some temperature
      | _ => none) = some (293.15 - 60 * 1000) := by
  decide +kernel

end Zone

end BuildingEmulation
