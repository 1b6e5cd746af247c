import BuildingEmulation.Config.Decode
import BuildingEmulation.Config.Encode
import BuildingEmulation.Proofs.Config.SocketAddress
import BuildingEmulation.Proofs.Decimal
import BuildingEmulation.Scalar.Exact
import Mathlib.Data.List.Nodup

/-!
# Configurations survive their dump

A configuration that was read from a document, written as one and read again is the same. Writing
gives every member under its own name, so each is read back if its value is (`Kept`). A value is
kept if it was read from a document at all (`Keeps`), for reading lets only such numbers through as
their type can hold, or if it is a default; and a structure is kept if its members are.

Results:
* `members?_fields`: a record of the members of a structure gives every one of them.
* `kept_option`, `kept_list`: what is optional or listed is kept if the value or the items are.
* `Keeps.withDefault`: a member is kept, whether it was given or is a default that is kept.
* `keeps_configuration`: every configuration that is read from a document is kept.
* `configuration_reloads`: it is read back from its JSON dump, with the same verdict on it.
-/
namespace BuildingEmulation.Config

open Document (text? natural? listOf? optional? choice? ofOption)

variable {α β : Type}

/-! ## What is read back -/

/-- A value is read back from what is written for it. -/
def Kept (read : Document α → Option β) (write : β → Document α) (b : β) : Prop :=
  read (write b) = some b

/-- Whatever is read can be written and read back. -/
def Keeps (read : Document α → Option β) (write : β → Document α) : Prop :=
  ∀ d b, read d = some b → Kept read write b

/-- A list with every item written. -/
def ofItems (write : β → Document α) (bs : List β) : Document α := .list (bs.map write)

/-- A limit in whole seconds. -/
def ofLimit (t : TimeLimit) : Document α := ofNat t.seconds

theorem kept_text (s : String) : Kept (α := α) text? .text s := rfl

theorem kept_natural {bits n : Nat} (h : n < pow2 bits) :
    Kept (α := α) (natural? bits) ofNat n := by
  have : (n : Int) ≤ pow2 bits - 1 := by omega
  simp [Kept, natural?, ofNat, Document.integer?, this]

theorem lt_of_natural? {bits n : Nat} {d : Document α} (h : natural? bits d = some n) :
    n < pow2 bits := by
  cases d <;> simp [natural?, Document.integer?] at h
  omega

theorem keeps_natural (bits : Nat) : Keeps (α := α) (natural? bits) ofNat :=
  fun _ _ h => kept_natural (lt_of_natural? h)

theorem kept_choice {ofName? : String → Option β} {name : β → String}
    (named : ∀ b, ofName? (name b) = some b) (dialect : Dialect) (b : β) :
    Kept (α := α) (choice? dialect ofName?) (fun b => .text (name b)) b :=
  named b

section

variable {read : Document α → Option β} {write : β → Document α}

theorem kept_option {o : Option β} (kept : ∀ b ∈ o, Kept read write b)
    (given : ∀ b, write b ≠ .null) : Kept (optional? read) (ofOption write) o := by
  cases o with
  | none => rfl
  | some b =>
    have : optional? read (write b) = (read (write b)).map some := by
      unfold optional?
      split
      · next null => exact absurd null (given b)
      · rfl
    rw [Kept, ofOption, this, kept b rfl]
    rfl

theorem Keeps.option (keeps : Keeps read write) (given : ∀ b, write b ≠ .null) :
    Keeps (optional? read) (ofOption write) := by
  intro d o h
  refine kept_option (fun b hb => ?_) given
  unfold optional? at h
  split at h
  · cases h
    cases hb
  · obtain ⟨b', read, rfl⟩ := Option.map_eq_some_iff.1 h
    exact keeps _ b (Option.some.inj hb ▸ read)

theorem kept_list {bs : List β} (kept : ∀ b ∈ bs, Kept read write b) :
    Kept (listOf? read) (ofItems write) bs := by
  unfold Kept ofItems
  dsimp only [listOf?]
  induction bs with
  | nil => rfl
  | cons b bs ih =>
    obtain ⟨first, rest⟩ := List.forall_mem_cons.1 kept
    rw [List.map_cons, List.mapM_cons, first, ih rest]
    rfl

theorem Keeps.list (keeps : Keeps read write) :
    Keeps (listOf? read) (ofItems write) := by
  intro d bs h
  cases d <;> try cases h
  next items =>
    refine kept_list ?_
    dsimp only [listOf?] at h
    induction items generalizing bs with
    | nil => cases h; nofun
    | cons d items ih =>
      simp only [List.mapM_cons, Option.bind_eq_bind, Option.bind_eq_some_iff, Option.pure_def,
        Option.some.injEq] at h
      obtain ⟨b, first, rest, more, rfl⟩ := h
      exact List.forall_mem_cons.2 ⟨keeps d b first, ih rest more⟩

theorem Keeps.withDefault (keeps : Keeps read write) {m : Members α} {name : String}
    {default b : β} (h : m.withDefault name default read = some b)
    (kept : Kept read write default) : Kept read write b := by
  unfold Members.withDefault at h
  split at h
  · exact Option.some.inj h ▸ kept
  · next d _ => exact keeps d b h

end

/-! ## Records -/

theorem lookup_field {fields : List (String × Document α)} (nodup : (fields.map (·.1)).Nodup)
    {name : String} {d : Document α} (h : (name, d) ∈ fields) : fields.lookup name = some d := by
  obtain ⟨before, after, rfl⟩ := List.append_of_mem h
  refine List.lookup_eq_some_iff.2 ⟨before, after, rfl, fun e he => ?_⟩
  have apart := (List.nodup_append.1 (List.map_append ▸ nodup)).2.2 e.1
    (List.mem_map_of_mem he) name (by simp)
  simpa using apart.symm

/-- A record of the members of a structure gives every one of them. -/
theorem members?_fields (dialect : Dialect) {names : List String} (nodup : names.Nodup)
    {fields : List (String × Document α)} (own : fields.map (·.1) = names) :
    (Document.record fields).members? dialect names = some ⟨fields⟩ := by
  subst own
  -- a member that is given twice would make the record unreadable
  have once : (fields.map (·.1)).any (Document.repeats fields) = false := by
    refine List.any_eq_false.2 fun name _ => ?_
    have : (fields.filter (·.1 == name)).length = (fields.map (·.1)).count name := by
      rw [List.count, List.countP_map, List.countP_eq_length_filter]
      rfl
    have := List.nodup_iff_count_le_one.1 nodup name
    simp only [Document.repeats, decide_eq_true_eq]
    omega
  have given :=
    calc (fields.map (·.1)).filterMap (fun name => (fields.lookup name).map (name, ·))
      _ = fields.filterMap (fun e => (fields.lookup e.1).map (e.1, ·)) := List.filterMap_map ..
      _ = fields.filterMap some :=
        List.filterMap_congr fun e he => by rw [lookup_field nodup he, Option.map_some]
      _ = fields := List.filterMap_some ..
  rw [Document.members?_record dialect _ fields once, given]

/-! ## Addresses, limits and listeners -/

theorem kept_address (a : SocketAddress) :
    Kept (α := α) address? (fun a => .text a.text) a :=
  SocketAddress.ofText?_text a

theorem kept_ofSeconds {n : Nat} (h : n < pow2 64) :
    Kept (α := α) timeLimit? ofLimit (.ofSeconds n) := by
  have := kept_natural (α := α) h
  rw [Kept, ofLimit, TimeLimit.seconds_ofSeconds, timeLimit?, this]
  rfl

theorem keeps_timeLimit : Keeps (α := α) timeLimit? ofLimit := by
  intro d t h
  obtain ⟨n, read, rfl⟩ := Option.map_eq_some_iff.1 h
  exact kept_ofSeconds (lt_of_natural? read)

theorem kept_logging (dialect : Dialect) (l : Logging) :
    Kept (α := α) (logging? dialect) ofLogging l := by
  have format := kept_choice (α := α) LogFormat.ofName?_name dialect l.format
  have filePrefix := kept_option (fun b _ => kept_text (α := α) b) (o := l.filePrefix) nofun
  rw [Kept, logging?, ofLogging, members?_fields dialect (by decide : loggingMembers.Nodup) rfl]
  simp only [Option.bind_eq_bind, Option.bind_some, Option.bind_eq_some_iff, Option.pure_def,
    Option.some.injEq]
  exact ⟨_, rfl, _, format, _, filePrefix, _, rfl, rfl⟩

theorem kept_listener (dialect : Dialect) (standard l : Listener) :
    Kept (α := α) (listener? dialect standard) ofListener l := by
  rw [Kept, listener?, ofListener, members?_fields dialect (by decide : listenerMembers.Nodup) rfl]
  simp only [Option.bind_eq_bind, Option.bind_some, Option.bind_eq_some_iff, Option.pure_def,
    Option.some.injEq]
  exact ⟨_, rfl, _, kept_address l.listen, rfl⟩

/-! ## Indicators -/

section

variable [Decimal.Numeral α] (dialect : Dialect)

theorem kept_band (b : ComfortBand α) : Kept (band? dialect) ofBand b := by
  rw [Kept, band?, ofBand, members?_fields dialect (by decide : bandMembers.Nodup) rfl]
  rfl

theorem kept_period {p : PricePeriod α}
    (startHour : Kept (α := α) (natural? 32) ofNat p.startHour)
    (endHour : Kept (α := α) (natural? 32) ofNat p.endHour)
    (months : Kept (α := α) (listOf? (natural? 32)) (ofItems ofNat) p.months) :
    Kept (period? dialect) ofPeriod p := by
  rw [Kept, period?, ofPeriod, members?_fields dialect (by decide : periodMembers.Nodup) rfl]
  simp only [Option.bind_eq_bind, Option.bind_some, Option.bind_eq_some_iff, Option.pure_def,
    Option.some.injEq]
  exact ⟨_, startHour, _, endHour, _, months, _, rfl, rfl⟩

theorem keeps_period : Keeps (period? (α := α) dialect) ofPeriod := by
  intro d p h
  simp only [period?, Option.bind_eq_bind, Option.bind_eq_some_iff, Option.pure_def,
    Option.some.injEq] at h
  obtain ⟨m, -, startHour, hStart, endHour, hEnd, months, hMonths, price, -, rfl⟩ := h
  exact kept_period dialect ((keeps_natural 32).withDefault hStart (kept_natural (by decide)))
    ((keeps_natural 32).withDefault hEnd (kept_natural (by decide)))
    ((keeps_natural 32).list.withDefault hMonths rfl)

theorem kept_schedule {s : PriceSchedule α}
    (periods : Kept (listOf? (period? dialect)) (ofItems ofPeriod) s.periods) :
    Kept (schedule? dialect) ofSchedule s := by
  rw [Kept, schedule?, ofSchedule, members?_fields dialect (by decide : scheduleMembers.Nodup) rfl]
  simp only [Option.bind_eq_bind, Option.bind_some, Option.bind_eq_some_iff, Option.pure_def,
    Option.some.injEq]
  exact ⟨_, rfl, _, periods, rfl⟩

theorem keeps_schedule : Keeps (schedule? (α := α) dialect) ofSchedule := by
  intro d s h
  simp only [schedule?, Option.bind_eq_bind, Option.bind_eq_some_iff, Option.pure_def,
    Option.some.injEq] at h
  obtain ⟨m, -, base, -, periods, hPeriods, rfl⟩ := h
  exact kept_schedule dialect ((keeps_period dialect).list.withDefault hPeriods rfl)

variable [Scalar α]

theorem kept_kpi {k : KpiSpec α}
    (schedule : Kept (optional? (schedule? dialect)) (ofOption ofSchedule) k.schedule) :
    Kept (kpi? dialect) ofKpi k := by
  have kind := kept_choice (α := α) KpiKind.ofName?_name dialect k.kind
  have signals := kept_list fun s (_ : s ∈ k.signals) => kept_text (α := α) s
  have tag := kept_option (o := k.tag) (fun t _ => kept_text (α := α) t) nofun
  have comfort := kept_option (o := k.comfort) (fun b _ => kept_band dialect b) nofun
  rw [Kept, kpi?, ofKpi, members?_fields dialect (by decide : kpiMembers.Nodup) rfl]
  simp only [Option.bind_eq_bind, Option.bind_some, Option.bind_eq_some_iff, Option.pure_def,
    Option.some.injEq]
  exact ⟨_, rfl, _, rfl, _, kind, _, signals, _, tag, _, rfl, _, comfort, _, schedule, rfl⟩

theorem keeps_kpi : Keeps (kpi? (α := α) dialect) ofKpi := by
  intro d k h
  simp only [kpi?, Option.bind_eq_bind, Option.bind_eq_some_iff, Option.pure_def,
    Option.some.injEq] at h
  obtain ⟨m, -, name, -, unit, -, kind, -, signals, -, tag, -, scale, -, comfort, -, schedule,
    hSchedule, rfl⟩ := h
  exact kept_kpi dialect (((keeps_schedule dialect).option nofun).withDefault hSchedule rfl)

theorem kept_dayAndNight :
    Kept (schedule? (α := α) dialect) ofSchedule Configuration.dayAndNight := by
  refine kept_schedule dialect (kept_list fun p hp => ?_)
  obtain rfl := List.mem_singleton.1 hp
  exact kept_period dialect (kept_natural (by decide : 7 < pow2 32))
    (kept_natural (by decide : 22 < pow2 32)) rfl

theorem kept_defaultKpis :
    Kept (listOf? (kpi? (α := α) dialect)) (ofItems ofKpi)
      Configuration.defaultKpis := by
  have some_kept {s : PriceSchedule α} (h : Kept (schedule? dialect) ofSchedule s) :
      Kept (optional? (schedule? dialect)) (ofOption ofSchedule) (some s) :=
    kept_option (fun _ hs => Option.some.inj hs ▸ h) fun _ null => by cases null
  -- only the indicators of cost and of emissions have a schedule
  refine kept_list fun k hk => kept_kpi dialect ?_
  simp only [Configuration.defaultKpis, List.mem_cons, List.not_mem_nil, or_false] at hk
  obtain rfl | rfl | rfl | rfl | rfl | rfl := hk
  · rfl
  · rfl
  · exact some_kept (kept_dayAndNight dialect)
  · exact some_kept (kept_schedule dialect rfl)
  · rfl
  · rfl

end

/-! ## Configurations -/

section

variable [Decimal.Numeral α] [Scalar α] (dialect : Dialect)

theorem kept_scenario {s : Scenario α}
    (stepLimit : Kept (α := α) timeLimit? ofLimit s.stepLimit)
    (initLimit : Kept (α := α) timeLimit? ofLimit s.initLimit) :
    Kept (scenario? dialect) ofScenario s := by
  rw [Kept, scenario?, ofScenario, members?_fields dialect (by decide : scenarioMembers.Nodup) rfl]
  simp only [Option.bind_eq_bind, Option.bind_some, Option.bind_eq_some_iff, Option.pure_def,
    Option.some.injEq]
  exact ⟨_, rfl, _, rfl, _, rfl, _, rfl, _, rfl, _, stepLimit, _, initLimit, rfl⟩

theorem kept_defaultScenario : Kept (scenario? (α := α) dialect) ofScenario .default :=
  kept_scenario dialect (kept_ofSeconds (by decide)) (kept_ofSeconds (by decide))

theorem keeps_scenario : Keeps (scenario? (α := α) dialect) ofScenario := by
  intro d s h
  simp only [scenario?, Option.bind_eq_bind, Option.bind_eq_some_iff, Option.pure_def,
    Option.some.injEq] at h
  obtain ⟨m, -, name, -, start, -, stop, -, warmup, -, step, -, stepLimit, hStep, initLimit,
    hInit, rfl⟩ := h
  exact kept_scenario dialect (keeps_timeLimit.withDefault hStep (kept_ofSeconds (by decide)))
    (keeps_timeLimit.withDefault hInit (kept_ofSeconds (by decide)))

theorem kept_model (p : ZoneParameters α) : Kept (model? dialect) ofModel p := by
  rw [Kept, model?, ofModel, members?_fields dialect (by decide : modelMembers.Nodup) rfl]
  rfl

theorem kept_configuration {c : Configuration α}
    (scenario : Kept (scenario? dialect) ofScenario c.scenario)
    (kpis : Kept (listOf? (kpi? dialect)) (ofItems ofKpi) c.kpis) :
    Kept (configuration? dialect) ofConfiguration c := by
  rw [Kept, configuration?, ofConfiguration,
    members?_fields dialect (by decide : configurationMembers.Nodup) rfl]
  simp only [Option.bind_eq_bind, Option.bind_some, Option.bind_eq_some_iff, Option.pure_def,
    Option.some.injEq]
  exact ⟨_, scenario, _, kept_model dialect c.model, _, kpis, _, kept_logging dialect c.logging,
    _, kept_listener dialect _ c.metrics, _, kept_listener dialect _ c.api, rfl⟩

theorem keeps_configuration : Keeps (configuration? (α := α) dialect) ofConfiguration := by
  intro d c h
  simp only [configuration?, Option.bind_eq_bind, Option.bind_eq_some_iff, Option.pure_def,
    Option.some.injEq] at h
  obtain ⟨m, -, scenario, hScenario, model, -, kpis, hKpis, logging, -, metrics, -, api, -,
    rfl⟩ := h
  exact kept_configuration dialect
    ((keeps_scenario dialect).withDefault hScenario (kept_defaultScenario dialect))
    ((keeps_kpi dialect).list.withDefault hKpis (kept_defaultKpis dialect))

end

/-- Whatever document a configuration was read from, its dump is read as the same configuration,
and the same is found wrong with it. -/
theorem configuration_reloads [Decimal.Numeral α] [Scalar α] {d : Document α}
    {c : Configuration α} (h : configuration? .json d = some c) :
    configuration? .json (ofConfiguration c) = some c ∧
      (configuration? .json (ofConfiguration c)).map Configuration.validate = some c.validate := by
  have kept : configuration? .json (ofConfiguration c) = some c :=
    keeps_configuration .json d c h
  exact ⟨kept, by rw [kept, Option.map_some]⟩

/-- A document that leaves most things out, gives a scenario and a comfort band by position, and
names what nobody knows. -/
def terse : Document Rat :=
  .record
    [("scenario", .list [.text "winter week", .integer 0, .real 604800]),
     ("author", .text "unknown"),
     ("logging", .record [("file_prefix", .null), ("format", .record [("pretty", .null)])]),
     ("kpis", .list
       [.record
          [("kind", .text "discomfort"), ("name", .text "chill"), ("tag", .null),
           ("signals", .list [.text "TRooAir_y"]), ("comfort", .list [.real 293.15, .integer 298])],
        .record
          [("name", .text "bill"), ("kind", .text "priced"), ("tag", .text "power"),
           ("schedule", .record
             [("base", .real 0.18),
              ("periods", .list
                [.record [("months", .list [.integer 1, .integer 12]), ("price", .real 0.3)]])])]])]

theorem configuration_reloads_terse :
    ∃ c, configuration? .json terse = some c ∧ c.kpis.map (·.name) = ["chill", "bill"] ∧
      c.scenario.stop = 604800 ∧ configuration? .json (ofConfiguration c) = some c ∧
      (configuration? .json (ofConfiguration c)).map Configuration.validate = some c.validate := by
  have read : (configuration? .json terse).map (fun c => (c.kpis.map (·.name), c.scenario.stop)) =
      some (["chill", "bill"], 604800) := by
    decide +kernel
  obtain ⟨c, h, given⟩ := Option.map_eq_some_iff.1 read
  obtain ⟨names, stop⟩ := Prod.mk.inj given
  exact ⟨c, h, names, stop, configuration_reloads h⟩

end BuildingEmulation.Config
