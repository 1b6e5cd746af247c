import BuildingEmulation.Proofs.Kpi.Resolve
import BuildingEmulation.Proofs.Session.Exchanges
import BuildingEmulation.Proofs.Zone.Range
import BuildingEmulation.Session.Configured

/-!
# Physical rows

Sessions over the zone record what is physical and nothing else. A row is added when an exchange gave
outputs; then its step has returned, and since the clock never plans a step of no duration the step has
checked where it led. The inputs in the row are those that the registry took, and it goes by the bounds
that the unit has declared. None of this depends on where the exchange began, so it is so of a retry
behind a step that failed half-way too, and none of it on the parameters, as long as they are valid:
with wrong ones steps fail, and with them the advances.

Results:
* `Step.survives`: no call of a session loses its worker, if the calls of the unit survive.
* `physical_of_outputs`: inputs that were taken and outputs that are plausible make a physical row.
* `physical_step`, `physical_run`: every step of every run keeps the rows physical.
* `zone_reliable`: sessions of valid configurations over the zone, also if it is held up.
-/
namespace BuildingEmulation

open Scalar (Extended)

variable {α σ : Type}

/-! ## Calls without an answer -/

/-- The error of the model that a call was answered with. -/
def SessionEvent.modelError? : SessionEvent α → Option (ModelError α)
  | .advance _ _ (.error (.modelStep e)) => some e
  | .reset _ (.error (.reset e)) => some e
  | _ => none

/-- The call was given up because its worker was lost. -/
def SessionEvent.Lost (e : SessionEvent α) : Prop := e.modelError? = some .worker

namespace Worker

variable {β : Type} {w w' : Worker α σ}

/-- A runaway call on the worker does not abort, wherever it goes on. -/
def Survives : Worker α σ → Prop
  | idle _ => True
  | busy _ resume => ∀ s, (resume s).Survives

theorem survives_ofProgress {p : Progress σ (ModelError α) β} (h : p.Survives) :
    (ofProgress p : Worker α σ).Survives := by
  cases p with
  | blocked s resume => exact fun s => (h s).discard
  | returned | failed | aborted => trivial

theorem Survives.release (h : w.Survives) : w.release.Survives := by
  cases w with
  | idle s => trivial
  | busy s resume => exact survives_ofProgress (h s)

/-- A call that survives, and knows of no worker, is not given up because its worker was lost. -/
theorem Survives.run (h : w.Survives) {limit : TimeLimit} {call : Call σ (ModelError α) β}
    {R : σ → β → Prop} {answer : Except (CallFailure α) β} (survives : call.Survives)
    (answered : Call.Spec (fun _ => True) call R fun _ e => e.answered = true)
    (run : w.run limit call = (w', answer)) :
    w'.Survives ∧ ∀ failure, answer = .error failure → failure.error ≠ .worker := by
  cases w with
  | busy s resume =>
    cases run
    refine ⟨h, fun failure hf lost => ?_⟩
    cases hf
    cases lost
  | idle s =>
    cases run
    refine ⟨survives_ofProgress (survives s), fun failure hf lost => ?_⟩
    cases hp : call s with
    | returned s' b =>
      rw [hp] at hf
      cases hf
    | failed s' e =>
      -- an error of the call itself is one that the model answered with
      have own := answered s trivial
      rw [hp] at hf own
      cases hf
      have known : e.answered = true := own
      rw [show e = .worker from lost] at known
      cases known
    | aborted s' =>
      have hs := survives s
      rw [hp] at hs
      exact hs
    | blocked s' resume =>
      rw [hp] at hf
      cases hf
      cases lost

end Worker

namespace Session

section

variable [Scalar α] {s s' : Session α σ} {e : SessionEvent α}

theorem Step.survives (hu : s.model.unit.Survives) (h : s.worker.Survives) (hs : s.Step e s') :
    s'.worker.Survives ∧ ¬ e.Lost := by
  have hc := hs.change
  generalize s'.worker = w at hc ⊢
  generalize s'.committed = c at hc
  have exchange {limit : TimeLimit} {inputs : SignalMap α}
      {answer : Except (CallFailure α) (SignalMap α)}
      (run : s.worker.run limit (s.model.exchange inputs s.committed.clock.plan) = (w, answer)) :=
    h.run (Model.exchange_survives hu _ _) (s.model.exchange_answered _ _) run
  have warmUp {limit : TimeLimit} {answer : Except (CallFailure α) (SignalMap α)}
      (run : s.worker.run limit (s.model.warmUp s.scenario.start s.scenario.warmupEnd) =
        (w, answer)) :=
    h.run (Model.warmUp_survives hu _ _) (s.model.warmUp_answered _ _) run
  cases hc with
  | refused plan reason =>
    refine ⟨h, ?_⟩
    rcases reason with rfl | rfl | ⟨name, fault, rfl⟩ <;> exact nofun
  | failed ready valid run =>
    exact ⟨(exchange run).1, fun lost => (exchange run).2 _ rfl (Option.some.inj lost)⟩
  | resetFailed valid run =>
    exact ⟨(warmUp run).1, fun lost => (warmUp run).2 _ rfl (Option.some.inj lost)⟩
  | uncommitted ready valid run => exact ⟨(exchange run).1, nofun⟩
  | advanced ready valid run => exact ⟨(exchange run).1, nofun⟩
  | begun valid run => exact ⟨(warmUp run).1, nofun⟩
  | resetRefused | stepRefused | stepSet => exact ⟨h, nofun⟩
  | released => exact ⟨h.release, nofun⟩

end

/-! ## Rows -/

/-- The air was at a temperature that can occur, the heater at a power that it has, and every input
within its bounds; and nothing was recorded but inputs and outputs. -/
structure Physical (p : ZoneParameters Extended) (r : Registry Extended) (row : ResultRow Extended) :
    Prop where
  temperature : ∃ x, row.values.get? "TRooAir_y" = some x ∧ .finite 200 ≤ x ∧ x ≤ .finite 400
  heating : ∃ x, row.values.get? "PHea_y" = some x ∧ .finite 0 ≤ x ∧ x ≤ p.maxPower
  inputs : ∀ signal ∈ r.inputs, ∀ x, row.values.get? signal.name = some x →
    signal.min ≤ x ∧ x ≤ signal.max
  known : ∀ name ∈ row.values.names, name ∈ r.inputNames ∨ name ∈ r.outputNames

theorem physical_of_outputs {p : ZoneParameters Extended} {r : Registry Extended}
    (hr : Registry.ofMetadata (Zone.metadata p) = .ok r) {inputs outputs : SignalMap Extended}
    (valid : Committed.checkInputs r inputs.entries = .ok ())
    (measures : Model.Measures outputs r.outputs)
    (readings : ∀ name x, outputs.get? name = some x → Zone.Plausible p name x)
    (c : Committed Extended) : Physical p r (c.nextRow inputs outputs) := by
  have values (name : String) : (c.nextRow inputs outputs).values.get? name =
      (outputs.get? name).or (inputs.get? name) := SignalMap.get?_overwrite _ _ _
  have observed (path : String) (h : path ∈ (Zone.metadata p).read.map (·.path)) :
      ∃ x, (c.nextRow inputs outputs).values.get? (outputName path) = some x ∧
        outputs.get? (outputName path) = some x := by
    obtain ⟨b, hb, rfl⟩ := List.mem_map.1 h
    have hm : outputName b.path ∈ r.outputs.map (·.name) := by
      rw [Registry.ofMetadata_ok hr, List.map_map]
      exact List.mem_map.2 ⟨b, hb, rfl⟩
    obtain ⟨x, hx⟩ := Option.isSome_iff_exists.1 ((measures.names _).2 hm)
    exact ⟨x, by rw [values, hx]; rfl, hx⟩
  constructor
  case temperature =>
    have name : outputName Zone.temperaturePath = "TRooAir_y" := by decide +kernel
    obtain ⟨x, hrow, hx⟩ := observed Zone.temperaturePath (by simp [Zone.metadata])
    exact ⟨x, name ▸ hrow, (readings _ x hx).temperature rfl⟩
  case heating =>
    have name : outputName Zone.heatingPath = "PHea_y" := by decide +kernel
    obtain ⟨x, hrow, hx⟩ := observed Zone.heatingPath (by simp [Zone.metadata])
    exact ⟨x, name ▸ hrow, (readings _ x hx).heating rfl⟩
  case inputs =>
    intro signal hs x hx
    -- an output of that name would have been written over the input
    have apart : outputs.get? signal.name = none := by
      have hn : signal.name ∉ r.outputs.map (·.name) := fun hm =>
        (List.nodup_append.1 (Registry.names_nodup hr)).2.2 _
          (List.mem_append_left _ (List.mem_map_of_mem hs)) _ hm rfl
      exact Option.not_isSome_iff_eq_none.1 fun h => hn ((measures.names _).1 h)
    rw [values, apart, Option.none_or] at hx
    exact (bounded_of_valid hr valid hs hx).2
  case known =>
    intro name hname
    have hsome := SignalMap.mem_names.1 hname
    rw [values] at hsome
    cases hx : outputs.get? name with
    | some x => exact .inr ((measures.names name).1 (by rw [hx]; rfl))
    | none =>
      rw [hx, Option.none_or] at hsome
      obtain ⟨x, hx⟩ := Option.isSome_iff_exists.1 hsome
      obtain ⟨signal, hi, -⟩ := (r.validateInput_ok_iff _ _).1
        (Committed.checkInputs_ok valid _ (SignalMap.mem_of_get? hx))
      obtain ⟨hm, rfl⟩ := Registry.mem_of_input? hi
      exact .inl (List.mem_map_of_mem hm)

/-! ## Runs -/

section

variable {p : ZoneParameters Extended} {Q : σ → Prop} {s s' : Session Extended σ}
  {e : SessionEvent Extended}

/-- Whatever is called, a row is added to the log only if it is physical. -/
theorem physical_step (hr : Registry.ofMetadata (Zone.metadata p) = .ok s.model.registry)
    (shows : s.model.unit.Shows (fun duration => 0.0 < duration) Q (Zone.Plausible p))
    {clock : Clock Rat} {times : List Rat} (coherent : s.committed.Coherent clock times)
    (h : ∀ row ∈ s.committed.results.toList, Physical p s.model.registry row) (hs : s.Step e s') :
    ∀ row ∈ s'.committed.results.toList, Physical p s'.model.registry row := by
  obtain ⟨-, hm⟩ := Step.frame hs
  rw [hm]
  have hc := hs.change
  generalize s'.worker = w at hc
  generalize s'.committed = c at hc ⊢
  cases hc with
  | refused | uncommitted | resetRefused | stepRefused | stepSet | released => exact h
  | failed =>
    obtain ⟨-, -, hresults, -⟩ := s.committed.fail_fields _
    rw [hresults]
    exact h
  | resetFailed | begun => exact fun row hrow => nomatch hrow
  | @advanced latency inputs w outputs ready valid run =>
    have pos : 0.0 < s.committed.clock.plan := by
      rw [coherent.clock_eq, clock.plan_extended, Extended.zero_finite, Extended.finite_lt]
      exact (coherent.running ready).plan_pos
    -- nothing is known of the state in which the exchange began
    obtain ⟨state, state', -, hx, -⟩ := Worker.run_ok run
    have measures := s.model.exchange_measures inputs s.committed.clock.plan state trivial
    have readings := Model.exchange_shows shows pos inputs state trivial
    rw [hx] at measures readings
    rw [Committed.record_rows]
    intro row hrow
    rcases List.mem_append.1 hrow with hrow | hrow
    · exact h row hrow
    · rw [List.mem_singleton.1 hrow]
      exact physical_of_outputs hr valid measures readings s.committed

variable {scenario : Scenario Extended} {specs : List (KpiSpec Extended)}
  {unit : EmulationUnit Extended σ} {s₀ : Session Extended σ}
  {ts : List (Transition (Session Extended σ) (SessionEvent Extended))}

/-- Along every run over a valid scenario all rows are physical. -/
theorem physical_run (hv : scenario.validate = .ok ()) (signals : unit.metadata = Zone.metadata p)
    (shows : unit.Shows (fun duration => 0.0 < duration) Q (Zone.Plausible p))
    (h₀ : (lts scenario specs unit).init s₀) (hr : (lts scenario specs unit).Run s₀ ts s) :
    ∀ row ∈ s.committed.results.toList, Physical p s.model.registry row := by
  obtain ⟨exact, rfl, window⟩ := Scenario.validate_extended hv
  induction hr with
  | nil =>
    obtain ⟨-, -, -, -, kpis, -, hc⟩ := Opened.parts h₀
    rw [hc]
    exact fun row hrow => nomatch hrow
  | snoc run step ih =>
    obtain ⟨clock, times, coherent, -⟩ := coherent_run window h₀ run
    have hf := fixed_run h₀ run
    exact physical_step (signals ▸ hf.registry_ok) (hf.unit_eq.symm ▸ shows) coherent ih step

end

section

variable [Scalar α] {scenario : Scenario α} {specs : List (KpiSpec α)} {unit : EmulationUnit α σ}
  {s₀ s : Session α σ} {ts : List (Transition (Session α σ) (SessionEvent α))}

/-- Along every run no call loses its worker, and one that has run away will not. -/
theorem survives_run (hu : unit.Survives) (h₀ : (lts scenario specs unit).init s₀)
    (hr : (lts scenario specs unit).Run s₀ ts s) :
    (∀ t ∈ ts, ¬ t.label.Lost) ∧ s.worker.Survives := by
  induction hr with
  | nil =>
    obtain ⟨-, -, -, ⟨state, hw⟩, -⟩ := Opened.parts h₀
    rw [hw]
    exact ⟨fun t ht => (nomatch ht), trivial⟩
  | snoc run step ih =>
    obtain ⟨kept, survives⟩ := ih
    have hf := fixed_run h₀ run
    obtain ⟨survives', hl⟩ := Step.survives (hf.unit_eq ▸ hu) survives step
    refine ⟨fun t ht => ?_, survives'⟩
    rcases List.mem_append.1 ht with ht | ht
    · exact kept t ht
    · rw [List.mem_singleton.1 ht]
      exact hl

/-- A session can be opened over a unit with well-formed signals exactly if its indicators resolve. -/
theorem opens_iff {r : Registry α} (hr : Registry.ofMetadata unit.metadata = .ok r) (state : σ) :
    (∃ s, start scenario specs unit state = .ok s) ↔ ∀ k ∈ specs, ∃ i, k.resolve r = .ok i := by
  simp only [KpiSpec.resolves_iff hr, ← KpiCalculator.ofSpecs_ok_iff hr]
  constructor
  · rintro ⟨s, hs⟩
    obtain ⟨r', kpis, hr', hk, -⟩ := start_ok hs
    cases hr'.symm.trans hr
    exact ⟨kpis, hk⟩
  · rintro ⟨kpis, hk⟩
    exact ⟨_, start_of_parts hr hk scenario state⟩

end

end Session

/-! ## Configured sessions -/

/-- The zone of a configuration, under some course of the outdoor temperature. -/
def Configuration.zone (c : Configuration α) (wave : α → α) : Zone α where
  parameters := c.model
  wave := wave

/-- The session of a configuration is over its zone. -/
theorem Session.ofConfiguration_eq (c : Configuration Float) :
    ofConfiguration c = start c.scenario c.kpis (c.zone Zone.cosineOfDay).unit
      ((c.zone Zone.cosineOfDay).start 0.0) := rfl

namespace Session

/-- What there is to rely on in the sessions of a configuration over a unit. -/
structure Reliable (c : Configuration Extended) (unit : EmulationUnit Extended σ) : Prop where
  /-- They are opened if the indicators resolve, and not otherwise. -/
  opens : ∃ r, Registry.ofMetadata unit.metadata = .ok r ∧ ∀ state,
    (∃ s, start c.scenario c.kpis unit state = .ok s) ↔ ∀ k ∈ c.kpis, ∃ i, k.resolve r = .ok i
  /-- No call has lost its worker, and a call that is still in the unit never will. -/
  answers : ∀ {s₀ ts s}, (lts c.scenario c.kpis unit).init s₀ →
    (lts c.scenario c.kpis unit).Run s₀ ts s →
      (∀ t ∈ ts, ¬ t.label.Lost) ∧ s.worker.Survives
  /-- What has been recorded is physical. -/
  physical : ∀ {s}, (lts c.scenario c.kpis unit).Reachable s →
    ∀ row ∈ s.committed.results.toList, Physical c.model s.model.registry row

theorem reliable {c : Configuration Extended} {unit : EmulationUnit Extended σ} {Q : σ → Prop}
    (valid : c.validate = .ok ()) (signals : unit.metadata = Zone.metadata c.model)
    (survives : unit.Survives)
    (shows : unit.Shows (fun duration => 0.0 < duration) Q (Zone.Plausible c.model)) :
    Reliable c unit := by
  obtain ⟨scenario, model, -, -⟩ := c.validate_ok_iff.1 valid
  constructor
  case opens =>
    obtain ⟨r, hr⟩ := Registry.ofMetadata_ok_iff.2 (Zone.metadata_wellFormed model)
    rw [← signals] at hr
    exact ⟨r, hr, opens_iff hr⟩
  case answers => exact survives_run survives
  case physical =>
    rintro s ⟨s₀, ts, h₀, run⟩
    exact physical_run scenario signals shows h₀ run

/-- Sessions of a valid configuration over the zone can be relied on, whatever the weather. They are
opened if their indicators resolve. No call on them loses its worker. Whatever has been called, retries
behind failed steps included, every row has the air between 200 and 400 kelvin, the heater within its
range and every input within its bounds. So it is too if the zone is held up now and then, and calls
run out of time. -/
theorem zone_reliable [Decimal.Numeral Extended] (c : Configuration Extended)
    (wave : Extended → Extended) (valid : c.validate = .ok ()) :
    Reliable c (c.zone wave).unit ∧ Reliable c (c.zone wave).unit.paced := by
  obtain ⟨-, model, -, -⟩ := c.validate_ok_iff.1 valid
  have heats : (0.0 : Extended) ≤ c.model.maxPower := by
    obtain ⟨q, hq, pos⟩ := Zone.heats_of_valid model
    rw [hq, Extended.zero_finite, Extended.finite_le]
    exact pos.le
  have survives := (c.zone wave).unit_survives heats
  have shows := Zone.unit_shows (z := c.zone wave) model
  exact ⟨reliable valid rfl survives shows, reliable valid rfl survives.paced shows.paced⟩

/-! ## A room that is too small for its heater -/

/-- Three minutes in a room that a minute of full power takes out of the plausible range. -/
def sauna : Configuration Extended :=
  { Configuration.short (.finite 180) (.finite 60) with
    model :=
      { capacitance := .finite 60, conductance := .finite (1 / 2), maxPower := .finite 20
        gain := .finite 1, initialTemperature := .finite 390, setpoint := .finite 300
        outdoorMean := .finite 380, outdoorAmplitude := .finite 0 } }

/-- The room on a day like any other. -/
def saunaZone : Zone Extended := sauna.zone fun _ => .finite 0

/-- The power of the heater, as high as it goes. -/
def fullPower : SignalMap Extended := .ofList [("oveHeaPow_u", .finite 20)]

/-- A setpoint that leaves the heater off. -/
def coolDown : SignalMap Extended := .ofList [("oveTSetHea_u", .finite 290)]

/-- An advance at full power fails and leaves the air at 405 kelvin. The next one goes on from there, and
is the only one recorded. -/
theorem zone_reliable_sauna :
    sauna.validate = .ok () ∧
    ∃ s₀ s, start sauna.scenario sauna.kpis saunaZone.unit (saunaZone.start 0.0) = .ok s₀ ∧
      s = (((s₀.reset none).1.advance 5 fullPower).1.advance 5 coolDown).1 ∧
      ((s₀.reset none).1.advance 5 fullPower).2.toBool = false ∧
      ((s₀.reset none).1.advance 5 fullPower).1.worker.state.temperature = .finite 405 ∧
      (s.committed.results.toList.map fun row => row.values.entries) =
        [[("PHea_y", .finite 0), ("TRooAir_y", .finite (785 / 2)), ("oveTSetHea_u", .finite 290),
          ("weaTDryBul_y", .finite 380)]] ∧
      s.worker.Survives ∧
      ∀ row ∈ s.committed.results.toList, Physical sauna.model s.model.registry row := by
  have valid : sauna.validate = .ok () := by
    obtain ⟨u, h⟩ := eq_ok_of_toBool (show sauna.validate.toBool = true by decide +kernel)
    exact h
  obtain ⟨s₀, hs⟩ := eq_ok_of_toBool (show (start sauna.scenario sauna.kpis saunaZone.unit
    (saunaZone.start 0.0)).toBool = true by decide +kernel)
  have observed : (match start sauna.scenario sauna.kpis saunaZone.unit (saunaZone.start 0.0) with
      | .ok s₀ =>
        let failed := (s₀.reset none).1.advance 5 fullPower
        some (failed.2.toBool, failed.1.worker.state.temperature,
          (failed.1.advance 5 coolDown).1.committed.results.toList.map fun row => row.values.entries)
      | .error _ => none) =
      some (false, .finite 405,
        [[("PHea_y", .finite 0), ("TRooAir_y", .finite (785 / 2)), ("oveTSetHea_u", .finite 290),
          ("weaTDryBul_y", .finite 380)]]) := by
    decide +kernel
  rw [hs] at observed
  simp only [Option.some.injEq, Prod.mk.injEq] at observed
  obtain ⟨failed, hot, rows⟩ := observed
  obtain ⟨reliable, -⟩ := zone_reliable sauna (fun _ => .finite 0) valid
  let M := lts sauna.scenario sauna.kpis saunaZone.unit
  have h₀ : M.init s₀ := ⟨_, s₀, hs, .inl rfl⟩
  have run : M.Run s₀ _ (((s₀.reset none).1.advance 5 fullPower).1.advance 5 coolDown).1 :=
    ((LTS.Run.nil.snoc (step_reset s₀ none)).snoc (step_advance _ 5 fullPower)).snoc
      (step_advance _ 5 coolDown)
  exact ⟨valid, s₀, _, hs, rfl, failed, hot, rows, (reliable.answers h₀ run).2,
    reliable.physical ⟨s₀, _, h₀, run⟩⟩

end Session

end BuildingEmulation
