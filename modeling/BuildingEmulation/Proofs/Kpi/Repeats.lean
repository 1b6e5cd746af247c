import BuildingEmulation.Proofs.Decimal
import BuildingEmulation.Proofs.Exact
import BuildingEmulation.Proofs.Kpi.Resolve

/-!
# Repetitions do not count

An indicator adds up what its signals read, and each signal is there once. So it makes no difference
how often a definition names an output or a block mentions a tag, nor whether an output is named that
carries the tag anyway, as long as sums do not depend on the order of their terms.

Results:
* `KpiCalculator.records_steps`: indicators over the same signals in another order are worth the same.
* `KpiSpec.Restated.fits`, `KpiSpec.Restated.perm`: definitions that differ in repetitions.
* `KpiCalculator.signals_once`: what becomes of definitions, and that repetitions do not count.
-/
namespace BuildingEmulation

variable {α : Type}

theorem map_eq_of_forall₂ {β γ δ : Type} {R : β → γ → Prop} {f : β → δ} {g : γ → δ} {xs : List β}
    {ys : List γ} (h : List.Forall₂ R xs ys) (hfg : ∀ x y, R x y → f x = g y) :
    xs.map f = ys.map g := by
  induction h with
  | nil => rfl
  | cons hxy _ ih => rw [List.map_cons, List.map_cons, hfg _ _ hxy, ih]

/-! ## Signals in another order -/

/-- The same indicator, but for the order of its signals. -/
def Indicator.Reordered (k k' : Indicator α) : Prop :=
  ∃ signals, k.signals.Perm signals ∧ k' = { k with signals }

/-- The same indicators, but for the order of their signals, with the same values. -/
structure KpiCalculator.Reordered (c c' : KpiCalculator α) : Prop where
  kpis : List.Forall₂
    (fun s s' => s.indicator.Reordered s'.indicator ∧ s'.value = s.value) c.kpis c'.kpis
  computed : c'.computed = c.computed
  simulated : c'.simulated = c.simulated

section

variable [Scalar α]

/-- Sums do not depend on the order of their terms. -/
def Scalar.SumsCommute (α : Type) [Scalar α] : Prop := ∀ x y z : α, x + y + z = x + z + y

variable (commute : Scalar.SumsCommute α)

include commute

theorem Scalar.sum_perm {xs ys : List α} (h : xs.Perm ys) : Scalar.sum xs = Scalar.sum ys :=
  h.foldl_eq' (fun x _ y _ z => commute z x y) 0.0

theorem Indicator.Reordered.after {k k' : Indicator α} (h : k.Reordered k') (value : α)
    (s : StepSample α) (computed simulated : α) :
    k'.after value s computed simulated = k.after value s computed simulated := by
  obtain ⟨signals, hperm, rfl⟩ := h
  have hreadings (f : α → α) :
      Scalar.sum ((signals.filterMap s.outputs.get?).map f) =
        Scalar.sum ((k.signals.filterMap s.outputs.get?).map f) :=
    Scalar.sum_perm commute ((hperm.symm.filterMap _).map f)
  unfold Indicator.after Indicator.rateSum Indicator.violationSum Indicator.readings
  simp only [hreadings]

namespace KpiCalculator

variable {c c' : KpiCalculator α}

theorem Reordered.step (h : c.Reordered c') (s : StepSample α) : (c.step s).Reordered (c'.step s) where
  kpis := by
    refine List.rel_map ?_ h.kpis
    rintro k k' ⟨hk, hv⟩
    refine ⟨hk, ?_⟩
    change k'.indicator.after k'.value s _ _ = k.indicator.after k.value s _ _
    rw [hk.after commute, hv, h.computed, h.simulated]
  computed := congrArg (· + secondsOf s.latency) h.computed
  simulated := congrArg (· + s.elapsed) h.simulated

/-- Whatever happens, the two report the same. -/
theorem records_steps (h : c.Reordered c') (samples : List (StepSample α)) :
    (samples.foldl step c').records = (samples.foldl step c).records := by
  induction samples generalizing c c' with
  | nil =>
    refine (map_eq_of_forall₂ h.kpis ?_).symm
    rintro ⟨k, x⟩ ⟨k', y⟩ ⟨⟨signals, -, hk⟩, hv⟩
    obtain rfl : k' = { k with signals } := hk
    obtain rfl : y = x := hv
    rfl
  | cons s rest ih => exact ih (h.step commute s)

end KpiCalculator

end

/-! ## Definitions that differ in repetitions -/

/-- The same blocks, but for the tags that the read blocks mention. -/
structure Metadata.Retagged (m m' : Metadata α) : Prop where
  overwrite : m'.overwrite = m.overwrite
  read : List.Forall₂ (fun b b' => b' = { b with kpis := b'.kpis }) m.read m'.read

/-- The same definition, but that what the first says more than once the second may say less often: an
output may be named again and again, a block may mention the tag again and again, and an output may be
named that carries the tag anyway. All outputs are still there, and so is the tag if one is left. -/
structure KpiSpec.Restated (m m' : Metadata α) (k k' : KpiSpec α) : Prop where
  same : k' = { k with signals := k'.signals, tag := k'.tag }
  tag : ∀ tag, k'.tag = some tag → ∃ b ∈ m'.read, b.Carries tag
  signals : ∀ name,
    (name ∈ k'.signals ∨ ∃ tag, k'.tag = some tag ∧ name ∈ carriers tag m'.read) ↔
      name ∈ k.signals ∨ ∃ tag, k.tag = some tag ∧ name ∈ carriers tag m.read

namespace Metadata.Retagged

variable {m m' : Metadata α}

theorem paths (h : m.Retagged m') : m'.read.map (·.path) = m.read.map (·.path) := by
  refine (map_eq_of_forall₂ h.read fun b b' same => ?_).symm
  rw [same]

theorem outputNames (h : m.Retagged m') : m'.outputNames = m.outputNames := by
  have names := congrArg (List.map outputName) h.paths
  rwa [List.map_map, List.map_map] at names

theorem wellFormed [Scalar α] (h : m.Retagged m') (wellFormed : m.WellFormed) : m'.WellFormed := by
  obtain ⟨overwrite, read, observed⟩ := wellFormed
  refine ⟨h.overwrite ▸ overwrite, h.paths ▸ read, fun none => observed ?_⟩
  have hread := h.read
  rw [none] at hread
  exact List.forall₂_nil_right_iff.1 hread

end Metadata.Retagged

namespace KpiSpec.Restated

variable {m m' : Metadata α} {k k' : KpiSpec α}

theorem kind (h : Restated m m' k k') : k'.kind = k.kind := by rw [h.same]

/-- The two look at the same outputs, in whatever order. -/
theorem mem_signalsOf_iff (h : Restated m m' k k') (kind : k.kind ≠ .computationalTimeRatio)
    {name : String} : name ∈ k'.signalsOf m' ↔ name ∈ k.signalsOf m := by
  rw [mem_signalsOf (h.kind ▸ kind), mem_signalsOf kind]
  exact h.signals name

theorem fits (h : Restated m m' k k') (hm : m.Retagged m') (fits : k.Fits m) : k'.Fits m' where
  complete := by
    rw [h.same]
    exact ⟨fits.complete.comfort, fits.complete.schedule⟩
  known := by
    intro kind name hname
    rw [h.kind] at kind
    rw [hm.outputNames]
    rcases (h.signals name).1 (.inl hname) with hname | ⟨tag, -, hname⟩
    · exact fits.known kind name hname
    · obtain ⟨b, hb, -, rfl⟩ := mem_carriers.1 hname
      exact List.mem_map_of_mem hb
  carried _ := h.tag
  nonempty := by
    intro kind none
    rw [h.kind] at kind
    obtain ⟨name, hname⟩ := List.exists_mem_of_ne_nil _ (fits.nonempty kind)
    have hname' := (h.mem_signalsOf_iff kind).2 hname
    rw [none] at hname'
    cases hname'

theorem perm [Scalar α] (h : Restated m m' k k') {r r' : Registry α}
    (hr : Registry.ofMetadata m = .ok r) (hr' : Registry.ofMetadata m' = .ok r') :
    (k.signalsOf m).Perm (k'.signalsOf m') := by
  by_cases kind : k.kind = .computationalTimeRatio
  · unfold signalsOf
    rw [h.kind, kind]
  · rw [List.perm_ext_iff_of_nodup (signalsOf_nodup hr) (signalsOf_nodup hr')]
    exact fun name => (h.mem_signalsOf_iff kind).symm

end KpiSpec.Restated

/-! ## Definitions and what becomes of them -/

namespace KpiCalculator

variable [Scalar α] {m m' : Metadata α} {r r' : Registry α} {specs specs' : List (KpiSpec α)}
  {c c' : KpiCalculator α}

/-- One definition and another that differs in repetitions, each at the start. -/
theorem reordered_of_spec (hr : Registry.ofMetadata m = .ok r)
    (hr' : Registry.ofMetadata m' = .ok r') {k k' : KpiSpec α} (hk : KpiSpec.Restated m m' k k')
    {s s' : KpiState α}
    (hs : k.rule? = .ok s.indicator.rule ∧
      s = ⟨⟨k.name, k.unit, s.indicator.rule, k.signalsOf m, k.scale⟩, 0.0⟩)
    (hs' : k'.rule? = .ok s'.indicator.rule ∧
      s' = ⟨⟨k'.name, k'.unit, s'.indicator.rule, k'.signalsOf m', k'.scale⟩, 0.0⟩) :
    s.indicator.Reordered s'.indicator ∧ s'.value = s.value := by
  obtain ⟨hrule, hs⟩ := hs
  obtain ⟨hrule', hs'⟩ := hs'
  have same : s'.indicator.rule = s.indicator.rule := by
    have hsame : k'.rule? = k.rule? := by
      rw [hk.same]
      rfl
    rw [hsame, hrule] at hrule'
    exact (Except.ok.inj hrule').symm
  rw [hs, hs', same]
  refine ⟨⟨k'.signalsOf m', hk.perm hr hr', ?_⟩, rfl⟩
  rw [hk.same]

/-- Definitions that differ in repetitions become indicators that differ in order. -/
theorem reordered_of_restated (hr : Registry.ofMetadata m = .ok r)
    (hr' : Registry.ofMetadata m' = .ok r')
    (hk : List.Forall₂ (KpiSpec.Restated m m') specs specs') (h : ofSpecs specs r = .ok c)
    (h' : ofSpecs specs' r' = .ok c') : c.Reordered c' := by
  obtain ⟨computed, simulated, kpis⟩ := ofSpecs_indicators hr h
  obtain ⟨computed', simulated', kpis'⟩ := ofSpecs_indicators hr' h'
  refine ⟨?_, computed'.trans computed.symm, simulated'.trans simulated.symm⟩
  -- definition by definition, each with the indicators that it and its restatement became
  generalize c.kpis = ks, c'.kpis = ks' at kpis kpis' ⊢
  clear h h'
  induction hk generalizing ks ks' with
  | nil =>
    cases kpis
    cases kpis'
    exact .nil
  | @cons k k' specs specs' hk _ ih =>
    cases kpis with
    | cons hs kpis =>
      cases kpis' with
      | cons hs' kpis' => exact .cons (reordered_of_spec hr hr' hk hs hs') (ih _ _ kpis kpis')

/-- Indicators are made of definitions that fit the outputs and tags of a unit, each of them over the
outputs that it names and those that carry its tag, every one once. So nothing that is said twice counts
twice: definitions and blocks without the repetitions lead to the same values after every run of steps.
If a definition does not fit the first one that does not is blamed, for the first thing that is wrong
with it. -/
theorem signals_once (hr : Registry.ofMetadata m = .ok r) (specs : List (KpiSpec α)) :
    ((∃ c, ofSpecs specs r = .ok c) ↔ ∀ k ∈ specs, k.Fits m) ∧
    (∀ c, ofSpecs specs r = .ok c →
      List.Forall₂ (fun k (s : KpiState α) => s.indicator.name = k.name ∧
        s.indicator.signals = k.signalsOf m ∧ (k.signalsOf m).Nodup) specs c.kpis) ∧
    (Scalar.SumsCommute α → ∀ c, ofSpecs specs r = .ok c →
      ∀ m' specs', m.Retagged m' → List.Forall₂ (KpiSpec.Restated m m') specs specs' →
        ∃ r' c', Registry.ofMetadata m' = .ok r' ∧ ofSpecs specs' r' = .ok c' ∧
          ∀ samples : List (StepSample α),
            (samples.foldl step c').records = (samples.foldl step c).records) ∧
    ∀ e, ofSpecs specs r = .error e ↔ ∃ before k after, specs = before ++ k :: after ∧
      (∀ k' ∈ before, k'.Fits m) ∧ k.Fault m e := by
  refine ⟨ofSpecs_ok_iff hr, fun c h => ?_, fun commute c h m' specs' hm hk => ?_,
    fun e => ofSpecs_error_iff hr⟩
  · obtain ⟨-, -, kpis⟩ := ofSpecs_indicators hr h
    refine kpis.imp fun k s hs => ?_
    rw [hs.2]
    exact ⟨rfl, rfl, KpiSpec.signalsOf_nodup hr⟩
  · obtain ⟨r', hr'⟩ := Registry.ofMetadata_ok_iff.2
      (hm.wellFormed (Registry.wellFormed_of_ofMetadata hr))
    have fits' : ∀ k' ∈ specs', k'.Fits m' := by
      intro k' hk'
      obtain ⟨k, hmem, hkk'⟩ := exists_mem_of_forall₂ hk k' hk'
      exact hkk'.fits hm ((ofSpecs_ok_iff hr).1 ⟨c, h⟩ k hmem)
    obtain ⟨c', h'⟩ := (ofSpecs_ok_iff hr').2 fits'
    exact ⟨r', c', hr', h', records_steps commute (reordered_of_restated hr hr' hk h h')⟩

end KpiCalculator

/-! ## Rational values -/

theorem Scalar.sumsCommute_exact : Scalar.SumsCommute Rat := by
  intro x y z
  ring

namespace Meters

/-- Two meters and a thermometer. One meter says twice that it measures power, and once nothing. -/
def metadata : Metadata Rat where
  read :=
    [{ path := "heat", kpis := ["power", " power ", " "] }, { path := "fan", kpis := ["power"] },
     { path := "air", kpis := ["comfort"] }]

/-- The same without the repetition. -/
def tidied : Metadata Rat where
  read :=
    [{ path := "heat", kpis := ["power"] }, { path := "fan", kpis := ["power"] },
     { path := "air", kpis := ["comfort"] }]

/-- The energy of the fan, named twice, and of all that has to do with power, the fan among it. -/
def energy : KpiSpec Rat where
  name := "energy"
  unit := "J"
  kind := .sumRate
  signals := ["fan_y", "fan_y"]
  tag := some "power"
  scale := 1
  comfort := none
  schedule := none

/-- A definition that names an output that is not there. -/
def dangling : KpiSpec Rat := { energy with name := "dangling", signals := ["fan_y", "pump_y"] }

theorem metadata_ok : ∃ r, Registry.ofMetadata metadata = .ok r :=
  eq_ok_of_toBool (by decide +kernel)

theorem signalsOf_energy : energy.signalsOf metadata = ["fan_y", "heat_y"] := by decide +kernel

theorem energy_fits : energy.Fits metadata where
  complete := ⟨nofun, nofun⟩
  known := by decide +kernel
  carried := by
    intro _ tag h
    cases h
    decide +kernel
  nonempty := by
    rw [signalsOf_energy]
    decide

theorem dangling_fault : dangling.Fault metadata (.unknownSignal "dangling" "pump_y") := by
  have signals : dangling.signals = ["fan_y"] ++ "pump_y" :: [] := rfl
  have known : ∀ name ∈ ["fan_y"], name ∈ metadata.outputNames := by decide +kernel
  have unknown : "pump_y" ∉ metadata.outputNames := by decide +kernel
  exact .unknownSignal (k := dangling) ⟨nofun, nofun⟩ nofun signals known unknown

theorem retagged : metadata.Retagged tidied :=
  ⟨rfl, .cons rfl (.cons rfl (.cons rfl .nil))⟩

theorem restated : KpiSpec.Restated metadata tidied energy { energy with signals := [] } where
  same := rfl
  tag := by
    intro tag h
    cases h
    decide +kernel
  signals := by
    have power : carriers "power" metadata.read = ["heat_y", "fan_y"] := by decide +kernel
    have power' : carriers "power" tidied.read = ["heat_y", "fan_y"] := by decide +kernel
    intro name
    simp only [energy, Option.some.injEq, exists_eq_left', power, power', List.mem_cons,
      List.not_mem_nil, or_false, false_or, or_self]
    tauto

end Meters

theorem KpiCalculator.signals_once_meters :
    ∃ r c r' c', Registry.ofMetadata Meters.metadata = .ok r ∧
      ofSpecs [Meters.energy] r = .ok c ∧ Registry.ofMetadata Meters.tidied = .ok r' ∧
      ofSpecs [{ Meters.energy with signals := [] }] r' = .ok c' ∧
      c.kpis.map (·.indicator.signals) = [["fan_y", "heat_y"]] ∧
      (∀ samples : List (StepSample Rat),
        (samples.foldl step c').records = (samples.foldl step c).records) ∧
      ofSpecs [Meters.energy, Meters.dangling] r = .error (.unknownSignal "dangling" "pump_y") := by
  obtain ⟨r, hr⟩ := Meters.metadata_ok
  obtain ⟨hok, hsignals, hrepeats, -⟩ := signals_once hr [Meters.energy]
  obtain ⟨-, -, -, herror⟩ := signals_once hr [Meters.energy, Meters.dangling]
  obtain ⟨c, h⟩ := hok.2 (by simpa using Meters.energy_fits)
  obtain ⟨r', c', hr', h', same⟩ := hrepeats Scalar.sumsCommute_exact c h Meters.tidied _
    Meters.retagged (.cons Meters.restated .nil)
  refine ⟨r, c, r', c', hr, h, hr', h', ?_, same, ?_⟩
  · have hall := hsignals c h
    refine (map_eq_of_forall₂ (f := (·.signalsOf Meters.metadata)) hall ?_).symm.trans ?_
    · exact fun k s hs => hs.2.1.symm
    · simp [Meters.signalsOf_energy]
  · refine (herror _).2 ⟨[Meters.energy], Meters.dangling, [], rfl, ?_, ?_⟩
    · simpa using Meters.energy_fits
    · exact Meters.dangling_fault

end BuildingEmulation
