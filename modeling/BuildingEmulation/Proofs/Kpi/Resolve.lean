import BuildingEmulation.Kpi.Calculator
import BuildingEmulation.Proofs.Registry

/-!
# What indicators resolve to

A definition names outputs and a tag. The registry has collected the outputs under each tag, one by one,
a block that repeats a tag as often as it does. Out of both come the signals of the indicator, each of
them once: what the definition names in the order in which it first does, and then the other outputs
that carry the tag in the order in which they are declared.

Results:
* `Registry.lookup_groupsOf`: what the registry holds under a tag.
* `addNew_eq`, `addNew_mentions`: how repetitions are dropped.
* `KpiSpec.resolve_ok_iff`, `KpiSpec.resolve_error_iff`: what becomes of a definition.
* `KpiSpec.resolve_outputs`: the signals of a resolved indicator are outputs.
* `KpiCalculator.ofSpecs_ok_iff`, `KpiCalculator.ofSpecs_error_iff`,
  `KpiCalculator.ofSpecs_indicators`: and of a list of them.
-/
namespace BuildingEmulation

variable {α : Type}

/-! ## Tags -/

/-- The block carries a tag: one of its own that is not blank is the tag, but for the blanks
around it. -/
def ReadBlock.Carries (b : ReadBlock) (tag : String) : Prop :=
  ∃ t ∈ b.kpis, Text.isBlankText t = false ∧ Text.trim t = tag

instance (b : ReadBlock) (tag : String) : Decidable (b.Carries tag) :=
  inferInstanceAs (Decidable (∃ t ∈ b.kpis, _))

/-- The outputs of the blocks that carry a tag. -/
def carriers (tag : String) (blocks : List ReadBlock) : List String :=
  (blocks.filter fun b => b.Carries tag).map fun b => outputName b.path

namespace Registry

/-- The name of a block's output, once for each of its tags that is the given one. -/
def mentions (tag : String) (b : ReadBlock) : List String :=
  (ReadBlock.tags b).filterMap fun t => if t = tag then some (outputName b.path) else none

theorem eq_of_mem_mentions {tag name : String} {b : ReadBlock} (h : name ∈ mentions tag b) :
    name = outputName b.path := by
  obtain ⟨t, -, ht⟩ := List.mem_filterMap.1 h
  split at ht
  · exact (Option.some.inj ht).symm
  · cases ht

theorem mentions_eq_nil_iff {tag : String} {b : ReadBlock} :
    mentions tag b = [] ↔ ¬ b.Carries tag := by
  simp only [mentions, ReadBlock.tags, List.filterMap_eq_nil_iff, List.mem_map, List.mem_filter,
    Bool.not_eq_true', ite_eq_right_iff, reduceCtorEq, imp_false, ReadBlock.Carries]
  constructor
  · rintro h ⟨t, hm, blank, rfl⟩
    exact h _ ⟨t, ⟨hm, blank⟩, rfl⟩ rfl
  · rintro h _ ⟨t, ⟨hm, blank⟩, rfl⟩ rfl
    exact h ⟨t, hm, blank, rfl⟩

/-- A group that some outputs are added to; without any there need not be a group. -/
def extended (group : Option (List String)) (more : List String) : Option (List String) :=
  if more = [] then group else some (group.getD [] ++ more)

theorem extended_append (group : Option (List String)) (more more' : List String) :
    extended (extended group more) more' = extended group (more ++ more') := by
  unfold extended
  by_cases h : more = []
  · simp [h]
  · by_cases h' : more' = [] <;> simp [h, h']

theorem lookup_addToGroup (tag output other : String) (groups : List (String × List String)) :
    (addToGroup tag output groups).lookup other =
      extended (groups.lookup other) (if tag = other then [output] else []) := by
  induction groups with
  | nil =>
    rw [addToGroup, SignalMap.lookup_cons_eq]
    by_cases h : tag = other <;> simp [extended, h, eq_comm]
  | cons group rest ih =>
    obtain ⟨t, members⟩ := group
    rw [addToGroup]
    split
    · next h =>
      subst h
      rw [SignalMap.lookup_cons_eq, SignalMap.lookup_cons_eq]
      by_cases h : other = t
      · simp [extended, h]
      · have h' : ¬ t = other := fun e => h e.symm
        simp [extended, h, h']
    · next h =>
      rw [SignalMap.lookup_cons_eq, SignalMap.lookup_cons_eq, ih]
      by_cases h' : other = t
      · subst h'
        simp [extended, Ne.symm h]
      · rw [if_neg h', if_neg h']

theorem lookup_addTags (output tag : String) (tags : List String)
    (groups : List (String × List String)) :
    (tags.foldl (fun groups t => addToGroup t output groups) groups).lookup tag =
      extended (groups.lookup tag)
        (tags.filterMap fun t => if t = tag then some output else none) := by
  induction tags generalizing groups with
  | nil => rfl
  | cons t rest ih =>
    rw [List.foldl_cons, ih, lookup_addToGroup, extended_append, List.filterMap_cons]
    by_cases h : t = tag <;> simp [h]

/-- What stands under a tag: the outputs of the blocks, each as often as it mentions the tag. -/
theorem lookup_groupsOf (blocks : List ReadBlock) (tag : String) :
    (groupsOf blocks).lookup tag = extended none (blocks.flatMap (mentions tag)) := by
  have general (groups : List (String × List String)) :
      (blocks.foldl (fun groups b => (ReadBlock.tags b).foldl
        (fun g t => addToGroup t (outputName b.path) g) groups) groups).lookup tag =
        extended (groups.lookup tag) (blocks.flatMap (mentions tag)) := by
    induction blocks generalizing groups with
    | nil => rfl
    | cons b rest ih =>
      rw [List.foldl_cons, ih, lookup_addTags, extended_append]
      rfl
  exact general []

end Registry

/-! ## Lists without repetitions -/

theorem addNew_append (xs ys zs : List String) :
    addNew xs (ys ++ zs) = addNew (addNew xs ys) zs := by
  induction ys generalizing xs with
  | nil => rfl
  | cons y rest ih => exact ih _

/-- A name that is added again and again is there once. -/
theorem addNew_repeated {name : String} {ys : List String} (hne : ys ≠ [])
    (h : ∀ y ∈ ys, y = name) (xs : List String) :
    addNew xs ys = if name ∈ xs then xs else xs ++ [name] := by
  induction ys generalizing xs with
  | nil => exact absurd rfl hne
  | cons y rest ih =>
    obtain ⟨rfl, hrest⟩ := List.forall_mem_cons.1 h
    rw [addNew]
    by_cases hr : rest = []
    · subst hr
      simp only [List.contains_iff_mem]
      rfl
    · rw [ih hr hrest]
      by_cases hm : y ∈ xs <;> simp [hm]

/-- What is added is what is not there yet, in the order of first mention. -/
theorem addNew_eq (xs ys : List String) :
    addNew xs ys = xs ++ (ys.filter fun y => y ∉ xs).eraseDups := by
  induction ys generalizing xs with
  | nil => simp [addNew]
  | cons y rest ih =>
    rw [addNew]
    by_cases hm : y ∈ xs
    · rw [if_pos (List.contains_iff_mem.2 hm), ih, List.filter_cons_of_neg (by simpa using hm)]
    · have hfilter : rest.filter (fun z => z ∉ xs ++ [y]) =
          (rest.filter fun z => z ∉ xs).filter fun z => !z == y := by
        rw [List.filter_filter]
        refine List.filter_congr fun z _ => ?_
        simp [not_or, and_comm, Bool.beq_eq_decide_eq]
      rw [if_neg (fun h => hm (List.contains_iff_mem.1 h)), ih,
        List.filter_cons_of_pos (by simpa using hm), List.eraseDups_cons, hfilter,
        List.append_assoc]
      rfl

theorem addNew_nil (ys : List String) : addNew [] ys = ys.eraseDups := by
  rw [addNew_eq, List.nil_append]
  simp

theorem addNew_nodup {xs : List String} (h : xs.Nodup) (ys : List String) : (addNew xs ys).Nodup := by
  induction ys generalizing xs with
  | nil => exact h
  | cons y rest ih =>
    refine ih ?_
    split
    · exact h
    · next hm =>
      rw [List.contains_iff_mem] at hm
      refine List.nodup_append.2 ⟨h, List.nodup_singleton y, fun x hx y' hy same => hm ?_⟩
      rwa [← List.mem_singleton.1 hy, ← same]

/-- The outputs that carry a tag are added where they are not there yet. -/
theorem addNew_mentions {tag : String} {blocks : List ReadBlock}
    (distinct : (blocks.map fun b => outputName b.path).Nodup) (xs : List String) :
    addNew xs (blocks.flatMap (Registry.mentions tag)) =
      xs ++ (carriers tag blocks).filter fun name => name ∉ xs := by
  -- block by block: what one block adds is not among the outputs of those behind it
  induction blocks generalizing xs with
  | nil => simp [addNew, carriers]
  | cons b rest ih =>
    obtain ⟨new, distinct⟩ := List.nodup_cons.1 distinct
    rw [List.flatMap_cons, addNew_append, ih distinct]
    by_cases carries : b.Carries tag
    · have hcarriers : carriers tag (b :: rest) = outputName b.path :: carriers tag rest := by
        simp [carriers, carries]
      have hmentions : Registry.mentions tag b ≠ [] := fun h =>
        Registry.mentions_eq_nil_iff.1 h carries
      rw [addNew_repeated hmentions (fun y => Registry.eq_of_mem_mentions), hcarriers]
      by_cases hm : outputName b.path ∈ xs
      · rw [if_pos hm, List.filter_cons_of_neg (by simpa using hm)]
      · have hfilter : (carriers tag rest).filter (fun name => name ∉ xs ++ [outputName b.path]) =
            (carriers tag rest).filter fun name => name ∉ xs := by
          refine List.filter_congr fun name hname => ?_
          have hne : name ≠ outputName b.path := by
            rintro rfl
            obtain ⟨b', hb', he⟩ := List.mem_map.1 hname
            exact new (List.mem_map.2 ⟨b', List.mem_of_mem_filter hb', he⟩)
          simp [hne]
        rw [if_neg hm, List.filter_cons_of_pos (by simpa using hm), hfilter, List.append_assoc]
        rfl
    · have hcarriers : carriers tag (b :: rest) = carriers tag rest := by
        simp [carriers, carries]
      rw [Registry.mentions_eq_nil_iff.2 carries, hcarriers]
      rfl

/-! ## Definitions that fit -/

def Metadata.outputNames (m : Metadata α) : List String := m.read.map fun b => outputName b.path

namespace KpiSpec

/-- What an indicator of this definition is to look at: the outputs that it names, in the order in which
it first names them, and then those that carry its tag, as far as it does not name them. -/
def signalsOf (k : KpiSpec α) (m : Metadata α) : List String :=
  match k.kind with
  | .computationalTimeRatio => []
  | _ =>
    k.signals.eraseDups ++
      match k.tag with
      | none => []
      | some tag => (carriers tag m.read).filter fun name => name ∉ k.signals

/-- The definition has the parameter that its kind needs. -/
structure Complete (k : KpiSpec α) : Prop where
  comfort : k.kind = .discomfort → k.comfort ≠ none
  schedule : k.kind = .priced → k.schedule ≠ none

/-- An indicator can be made of the definition. -/
structure Fits (k : KpiSpec α) (m : Metadata α) : Prop where
  complete : k.Complete
  known : k.kind ≠ .computationalTimeRatio → ∀ name ∈ k.signals, name ∈ m.outputNames
  carried : k.kind ≠ .computationalTimeRatio → ∀ tag, k.tag = some tag → ∃ b ∈ m.read, b.Carries tag
  nonempty : k.kind ≠ .computationalTimeRatio → k.signalsOf m ≠ []

/-- What is wrong with a definition: the first of these that applies. -/
inductive Fault (k : KpiSpec α) (m : Metadata α) : ResolveFault → Prop
  | noComfort (kind : k.kind = .discomfort) (h : k.comfort = none) :
    Fault k m (.missingParameter k.name "comfort band")
  | noSchedule (kind : k.kind = .priced) (h : k.schedule = none) :
    Fault k m (.missingParameter k.name "schedule")
  | unknownSignal (complete : k.Complete) (kind : k.kind ≠ .computationalTimeRatio)
    {before after : List String} {name : String} (h : k.signals = before ++ name :: after)
    (known : ∀ name ∈ before, name ∈ m.outputNames) (unknown : name ∉ m.outputNames) :
    Fault k m (.unknownSignal k.name name)
  | unknownTag (complete : k.Complete) (kind : k.kind ≠ .computationalTimeRatio)
    (known : ∀ name ∈ k.signals, name ∈ m.outputNames) {tag : String} (h : k.tag = some tag)
    (unknown : ∀ b ∈ m.read, ¬ b.Carries tag) : Fault k m (.unknownTag k.name tag)
  | noSignals (complete : k.Complete) (kind : k.kind ≠ .computationalTimeRatio)
    (named : k.signals = []) (tagged : k.tag = none) : Fault k m (.noSignals k.name)

variable {k : KpiSpec α} {m : Metadata α} {r : Registry α}

theorem signalsOf_eq (kind : k.kind ≠ .computationalTimeRatio) : k.signalsOf m =
    k.signals.eraseDups ++
      match k.tag with
      | none => []
      | some tag => (carriers tag m.read).filter fun name => name ∉ k.signals := by
  unfold signalsOf
  cases hk : k.kind with
  | computationalTimeRatio => exact absurd hk kind
  | _ => rfl

/-- The outputs that a definition looks at are those that it names and those that carry its tag. -/
theorem mem_signalsOf (kind : k.kind ≠ .computationalTimeRatio) {name : String} :
    name ∈ k.signalsOf m ↔
      name ∈ k.signals ∨ ∃ tag, k.tag = some tag ∧ name ∈ carriers tag m.read := by
  rw [signalsOf_eq kind, List.mem_append, List.mem_eraseDups]
  cases k.tag with
  | none => simp
  | some tag =>
    simp only [List.mem_filter, decide_eq_true_eq, Option.some.injEq, exists_eq_left']
    by_cases hm : name ∈ k.signals <;> simp [hm]

theorem mem_carriers {tag name : String} {blocks : List ReadBlock} :
    name ∈ carriers tag blocks ↔ ∃ b ∈ blocks, b.Carries tag ∧ outputName b.path = name := by
  simp [carriers, and_assoc]

/-- Where the outputs that are named are there, what is left to ask for is the tag. -/
theorem fits_or_fault_of_known (complete : k.Complete) (kind : k.kind ≠ .computationalTimeRatio)
    (known : ∀ name ∈ k.signals, name ∈ m.outputNames) : k.Fits m ∨ ∃ e, k.Fault m e := by
  cases tagged : k.tag with
  | none =>
    by_cases named : k.signals = []
    · exact .inr ⟨_, .noSignals complete kind named tagged⟩
    · refine .inl ⟨complete, fun _ => known, fun _ tag h => ?_, fun _ => ?_⟩
      · cases h.symm.trans tagged
      · obtain ⟨name, hm⟩ := List.exists_mem_of_ne_nil _ named
        exact List.ne_nil_of_mem ((mem_signalsOf kind).2 (.inl hm))
  | some tag =>
    by_cases carried : ∃ b ∈ m.read, b.Carries tag
    · refine .inl ⟨complete, fun _ => known, fun _ tag' h => ?_, fun _ => ?_⟩
      · cases h.symm.trans tagged
        exact carried
      · obtain ⟨b, hb, carries⟩ := carried
        have hm : outputName b.path ∈ carriers tag m.read := mem_carriers.2 ⟨b, hb, carries, rfl⟩
        exact List.ne_nil_of_mem ((mem_signalsOf kind).2 (.inr ⟨tag, tagged, hm⟩))
    · exact .inr ⟨_, .unknownTag complete kind known tagged fun b hb h => carried ⟨b, hb, h⟩⟩

theorem fits_or_fault (k : KpiSpec α) (m : Metadata α) : k.Fits m ∨ ∃ e, k.Fault m e := by
  by_cases comfort : k.kind = .discomfort ∧ k.comfort = none
  · exact .inr ⟨_, .noComfort comfort.1 comfort.2⟩
  by_cases schedule : k.kind = .priced ∧ k.schedule = none
  · exact .inr ⟨_, .noSchedule schedule.1 schedule.2⟩
  have complete : k.Complete :=
    ⟨fun kind h => comfort ⟨kind, h⟩, fun kind h => schedule ⟨kind, h⟩⟩
  by_cases kind : k.kind = .computationalTimeRatio
  · exact .inl ⟨complete, fun h => absurd kind h, fun h => absurd kind h, fun h => absurd kind h⟩
  cases hf : k.signals.find? (fun name => name ∉ m.outputNames) with
  | some name =>
    obtain ⟨unknown, before, after, h, known⟩ := List.find?_eq_some_iff_append.1 hf
    refine .inr ⟨_, .unknownSignal complete kind h (fun name hm => ?_) (by simpa using unknown)⟩
    simpa using known name hm
  | none =>
    refine fits_or_fault_of_known complete kind fun name hm => ?_
    simpa using List.find?_eq_none.1 hf name hm

/-! ## Resolving -/

/-- A definition that has what its kind needs has a rule. -/
theorem rule?_of_complete (h : k.Complete) : ∃ rule, k.rule? = .ok rule := by
  unfold rule?
  cases hk : k.kind with
  | sumRate | peak | computationalTimeRatio => exact ⟨_, rfl⟩
  | discomfort =>
    cases hc : k.comfort with
    | none => exact absurd hc (h.comfort hk)
    | some band => exact ⟨_, rfl⟩
  | priced =>
    cases hs : k.schedule with
    | none => exact absurd hs (h.schedule hk)
    | some schedule => exact ⟨_, rfl⟩

/-- What is left to do once the rule is there. -/
theorem resolve_eq {rule : KpiRule α} (hrule : k.rule? = .ok rule)
    (kind : k.kind ≠ .computationalTimeRatio) :
    k.resolve r = k.signalsIn r >>= fun signals =>
      .ok ⟨k.name, k.unit, rule, signals, k.scale⟩ := by
  have hratio : rule ≠ .timeRatio := by
    rintro rfl
    unfold rule? at hrule
    cases hk : k.kind with
    | computationalTimeRatio => exact kind hk
    | sumRate | peak =>
      rw [hk] at hrule
      cases hrule
    | discomfort | priced =>
      simp only [hk] at hrule
      split at hrule <;> cases hrule
  unfold resolve
  rw [hrule]
  cases rule with
  | timeRatio => exact absurd rfl hratio
  | _ => rfl

variable [Scalar α]

section

variable (hr : Registry.ofMetadata m = .ok r)

include hr

theorem hasOutput_iff (name : String) : r.hasOutput name = true ↔ name ∈ m.outputNames := by
  rw [Registry.ofMetadata_ok hr]
  simp [Registry.hasOutput, Registry.outputOf, Metadata.outputNames]

theorem group?_eq (tag : String) :
    r.group? tag = Registry.extended none (m.read.flatMap (Registry.mentions tag)) := by
  rw [Registry.ofMetadata_ok hr]
  exact Registry.lookup_groupsOf m.read tag

theorem find?_unknown : k.signals.find? (fun name => !r.hasOutput name) =
    k.signals.find? fun name => name ∉ m.outputNames := by
  congr 1
  funext name
  rw [Bool.eq_iff_iff]
  simp [← hasOutput_iff hr]

theorem find?_of_known (known : ∀ name ∈ k.signals, name ∈ m.outputNames) :
    k.signals.find? (fun name => !r.hasOutput name) = none := by
  rw [find?_unknown hr, List.find?_eq_none]
  simpa using known

theorem outputNames_nodup : m.outputNames.Nodup := by
  have names := (Registry.names_nodup hr).of_append_right
  rw [Registry.ofMetadata_ok hr, Registry.outputNames, List.map_map] at names
  exact names

/-- Something stands under a tag exactly if a block carries it. -/
theorem group?_eq_none_iff (tag : String) :
    r.group? tag = none ↔ ∀ b ∈ m.read, ¬ b.Carries tag := by
  have hnil : m.read.flatMap (Registry.mentions tag) = [] ↔ ∀ b ∈ m.read, ¬ b.Carries tag := by
    simp only [List.flatMap_eq_nil_iff, Registry.mentions_eq_nil_iff]
  rw [group?_eq hr, ← hnil, Registry.extended]
  split <;> simp_all

/-- What is found for a definition whose outputs and tag are there. -/
theorem signalsIn_eq (kind : k.kind ≠ .computationalTimeRatio)
    (known : ∀ name ∈ k.signals, name ∈ m.outputNames)
    (carried : ∀ tag, k.tag = some tag → ∃ b ∈ m.read, b.Carries tag) :
    k.signalsIn r =
      if (k.signalsOf m).isEmpty then .error (.noSignals k.name) else .ok (k.signalsOf m) := by
  have hfind := find?_of_known hr known
  unfold signalsIn
  rw [signalsOf_eq kind]
  simp only [hfind, addNew_nil]
  cases htag : k.tag with
  | none =>
    rw [List.append_nil]
    rfl
  | some tag =>
    obtain ⟨b, hb, carries⟩ := carried tag htag
    have hgroup : r.group? tag = some (m.read.flatMap (Registry.mentions tag)) := by
      rw [group?_eq hr, Registry.extended, if_neg]
      · rfl
      · intro hnil
        exact Registry.mentions_eq_nil_iff.1 (List.flatMap_eq_nil_iff.1 hnil b hb) carries
    simp only [hgroup, addNew_mentions (outputNames_nodup hr), List.mem_eraseDups]
    rfl

/-- No output is looked at twice. -/
theorem signalsOf_nodup : (k.signalsOf m).Nodup := by
  by_cases kind : k.kind = .computationalTimeRatio
  · unfold signalsOf
    rw [kind]
    exact List.nodup_nil
  · have hnamed : k.signals.eraseDups.Nodup := addNew_nil k.signals ▸ addNew_nodup List.nodup_nil _
    rw [signalsOf_eq kind, List.nodup_append]
    cases k.tag with
    | none => exact ⟨hnamed, List.nodup_nil, fun _ _ _ h => nomatch h⟩
    | some tag =>
      have hcarriers : (carriers tag m.read).Nodup :=
        (outputNames_nodup hr).sublist (List.filter_sublist.map _)
      refine ⟨hnamed, hcarriers.filter _, ?_⟩
      rintro name hname name' hname' rfl
      simp only [List.mem_filter, decide_eq_true_eq] at hname'
      exact hname'.2 (List.mem_eraseDups.1 hname)

theorem resolve_of_fits (h : k.Fits m) : ∃ rule, k.rule? = .ok rule ∧
    k.resolve r = .ok ⟨k.name, k.unit, rule, k.signalsOf m, k.scale⟩ := by
  obtain ⟨rule, hrule⟩ := rule?_of_complete h.complete
  refine ⟨rule, hrule, ?_⟩
  by_cases kind : k.kind = .computationalTimeRatio
  · have hratio : rule = .timeRatio := by
      unfold rule? at hrule
      rw [kind] at hrule
      exact (Except.ok.inj hrule).symm
    unfold resolve signalsOf
    rw [hrule, hratio, kind]
    rfl
  · have hsome : (k.signalsOf m).isEmpty = false := by simpa using h.nonempty kind
    rw [resolve_eq hrule kind, signalsIn_eq hr kind (h.known kind) (h.carried kind), hsome]
    rfl

/-- The checks of a definition stop at the fault, and report it. -/
theorem resolve_of_fault {e : ResolveFault} (h : k.Fault m e) : k.resolve r = .error e := by
  have signals {e : ResolveFault} (complete : k.Complete) (kind : k.kind ≠ .computationalTimeRatio)
      (he : k.signalsIn r = .error e) : k.resolve r = .error e := by
    obtain ⟨rule, hrule⟩ := rule?_of_complete complete
    rw [resolve_eq hrule kind, he]
    rfl
  cases h with
  | noComfort kind h =>
    unfold resolve rule?
    rw [kind, h]
    rfl
  | noSchedule kind h =>
    unfold resolve rule?
    rw [kind, h]
    rfl
  | @unknownSignal complete kind before after name h known unknown =>
    have hfind : k.signals.find? (fun name => !r.hasOutput name) = some name := by
      rw [find?_unknown hr]
      exact List.find?_eq_some_iff_append.2
        ⟨by simpa using unknown, before, after, h, fun name hm => by simpa using known name hm⟩
    refine signals complete kind ?_
    unfold signalsIn
    simp only [hfind]
    rfl
  | unknownTag complete kind known h unknown =>
    refine signals complete kind ?_
    unfold signalsIn
    simp only [find?_of_known hr known, h, (group?_eq_none_iff hr _).2 unknown]
    rfl
  | noSignals complete kind named tagged =>
    have hnone : k.signalsOf m = [] := by
      rw [signalsOf_eq kind, named, tagged]
      rfl
    refine signals complete kind ?_
    rw [signalsIn_eq hr kind (by simp [named]) (by simp [tagged]), hnone]
    rfl

theorem resolve_ok_iff {i : Indicator α} : k.resolve r = .ok i ↔ k.Fits m ∧
    k.rule? = .ok i.rule ∧ i = ⟨k.name, k.unit, i.rule, k.signalsOf m, k.scale⟩ := by
  constructor
  · intro h
    rcases k.fits_or_fault m with fits | ⟨e, fault⟩
    · obtain ⟨rule, hrule, hi⟩ := resolve_of_fits hr fits
      cases hi.symm.trans h
      exact ⟨fits, hrule, rfl⟩
    · cases (resolve_of_fault hr fault).symm.trans h
  · rintro ⟨fits, hrule, hi⟩
    obtain ⟨rule, hrule', h⟩ := resolve_of_fits hr fits
    cases hrule'.symm.trans hrule
    rw [h, ← hi]

theorem resolves_iff : (∃ i, k.resolve r = .ok i) ↔ k.Fits m := by
  constructor
  · rintro ⟨i, hi⟩
    exact ((resolve_ok_iff hr).1 hi).1
  · intro fits
    obtain ⟨rule, -, hi⟩ := resolve_of_fits hr fits
    exact ⟨_, hi⟩

theorem resolve_outputs {i : Indicator α} (h : k.resolve r = .ok i) :
    ∀ name ∈ i.signals, name ∈ r.outputNames := by
  obtain ⟨fits, -, hi⟩ := (resolve_ok_iff hr).1 h
  have outputs : r.outputNames = m.outputNames := by
    rw [Registry.ofMetadata_ok hr, Registry.outputNames, List.map_map]
    rfl
  rw [hi, outputs]
  intro name hname
  by_cases kind : k.kind = .computationalTimeRatio
  · simp [signalsOf, kind] at hname
  · rcases (mem_signalsOf kind).1 hname with hname | ⟨tag, -, hname⟩
    · exact fits.known kind name hname
    · obtain ⟨b, hb, -, rfl⟩ := mem_carriers.1 hname
      exact List.mem_map_of_mem hb

theorem resolve_error_iff {e : ResolveFault} : k.resolve r = .error e ↔ k.Fault m e := by
  constructor
  · intro h
    rcases k.fits_or_fault m with fits | ⟨e', fault⟩
    · obtain ⟨rule, -, hi⟩ := resolve_of_fits hr fits
      cases hi.symm.trans h
    · cases (resolve_of_fault hr fault).symm.trans h
      exact fault
  · exact resolve_of_fault hr

end

end KpiSpec

/-! ## Calculators -/

namespace KpiCalculator

variable [Scalar α] {specs : List (KpiSpec α)} {m : Metadata α} {r : Registry α}

/-- Every indicator is made of the definition in its place, and looks at what that says. -/
theorem ofSpecs_indicators (hr : Registry.ofMetadata m = .ok r) {c : KpiCalculator α}
    (h : ofSpecs specs r = .ok c) : c.computed = 0.0 ∧ c.simulated = 0.0 ∧
      List.Forall₂ (fun k (s : KpiState α) => k.rule? = .ok s.indicator.rule ∧
        s = ⟨⟨k.name, k.unit, s.indicator.rule, k.signalsOf m, k.scale⟩, 0.0⟩) specs c.kpis := by
  obtain ⟨indicators, hmap, h⟩ := bind_eq_ok h
  cases h
  refine ⟨rfl, rfl, ?_⟩
  rw [List.forall₂_map_right_iff]
  refine (mapM_eq_ok_iff.1 hmap).imp fun k i hi => ?_
  obtain ⟨-, hrule, hi⟩ := (KpiSpec.resolve_ok_iff hr).1 hi
  exact ⟨hrule, congrArg (fun i => KpiState.mk i 0.0) hi⟩

/-- The fault is that of the first definition that has one. -/
theorem ofSpecs_error_iff (hr : Registry.ofMetadata m = .ok r) {e : ResolveFault} :
    ofSpecs specs r = .error e ↔ ∃ before k after, specs = before ++ k :: after ∧
      (∀ k' ∈ before, k'.Fits m) ∧ k.Fault m e := by
  have hmap : ofSpecs specs r = .error e ↔ specs.mapM (KpiSpec.resolve r) = .error e := by
    unfold ofSpecs
    cases specs.mapM (KpiSpec.resolve r) with
    | error e' => exact ⟨fun h => congrArg _ (Except.error.inj h), fun h => by rw [h]; rfl⟩
    | ok indicators => exact ⟨nofun, nofun⟩
  simp only [hmap, mapM_eq_error_iff, KpiSpec.resolves_iff hr, KpiSpec.resolve_error_iff hr]

/-- Indicators can be made of definitions that fit, and of no others. -/
theorem ofSpecs_ok_iff (hr : Registry.ofMetadata m = .ok r) :
    (∃ c, ofSpecs specs r = .ok c) ↔ ∀ k ∈ specs, k.Fits m := by
  constructor
  · rintro ⟨c, h⟩ k hk
    obtain ⟨indicators, hmap, -⟩ := bind_eq_ok h
    obtain ⟨i, hi⟩ := List.mem_iff_getElem?.1 hk
    obtain ⟨indicator, -, hresolve⟩ := getElem?_of_mapM_eq_ok hmap hi
    exact ((KpiSpec.resolve_ok_iff hr).1 hresolve).1
  · intro fits
    cases h : ofSpecs specs r with
    | ok c => exact ⟨c, rfl⟩
    | error e =>
      obtain ⟨before, k, after, rfl, -, fault⟩ := (ofSpecs_error_iff hr).1 h
      obtain ⟨rule, -, hresolve⟩ := KpiSpec.resolve_of_fits hr (fits k (by simp))
      cases (KpiSpec.resolve_of_fault hr fault).symm.trans hresolve

end KpiCalculator

end BuildingEmulation
