import BuildingEmulation.Proofs.Except
import BuildingEmulation.Proofs.Extended
import BuildingEmulation.Proofs.Metadata
import BuildingEmulation.Registry
import Mathlib.Data.List.Nodup

/-!
# Registries of well-formed metadata

Building a registry claims the names of one block after the other, in one set of names that grows.
Names of different kinds never meet, so a block is refused for its own sake or because of an earlier
block of its kind; and what is registered is what was declared.

Results:
* `claimInputs_ok_iff`, `claimOutputs_ok_iff`: which blocks are accepted, and what they claim.
* `ofMetadata_ok_iff`, `ofMetadata_error_iff`: which metadata is accepted, and which block is blamed.
* `ofMetadata_spec`: all of it, over the extended scalars.
* `ofMetadata_inputs`, `input?_of_mem`: inputs and their names.
-/
namespace BuildingEmulation

variable {α : Type}

/-! ## Well-formed metadata -/

/-- The path has a character that is not blank. -/
def Named (path : String) : Prop := ∃ c ∈ path.toList, Text.isBlank c = false

theorem named_iff {path : String} : Named path ↔ Text.isBlankText path = false := by
  simp [Named, Text.isBlankText]

/-- The paths are names, and no two of them start a name in the same way. -/
structure WellNamed (paths : List String) : Prop where
  named : ∀ path ∈ paths, Named path
  distinct : (paths.map baseName).Nodup

theorem wellNamed_cons {path : String} {rest : List String} : WellNamed (path :: rest) ↔
    Named path ∧ (∀ path' ∈ rest, baseName path' ≠ baseName path) ∧ WellNamed rest := by
  constructor
  · rintro ⟨named, distinct⟩
    obtain ⟨first, distinct⟩ := List.nodup_cons.1 distinct
    obtain ⟨named, namedRest⟩ := List.forall_mem_cons.1 named
    exact ⟨named, fun path' hm same => first (List.mem_map.2 ⟨path', hm, same⟩), namedRest, distinct⟩
  · rintro ⟨named, apart, namedRest, distinct⟩
    refine ⟨List.forall_mem_cons.2 ⟨named, namedRest⟩, List.nodup_cons.2 ⟨fun h => ?_, distinct⟩⟩
    obtain ⟨path', hm, same⟩ := List.mem_map.1 h
    exact apart path' hm same

section

variable [Scalar α]

/-- The bounds are finite and in order. -/
structure OverwriteBlock.Bounded (b : OverwriteBlock α) : Prop where
  min : Scalar.isFinite b.min = true
  max : Scalar.isFinite b.max = true
  ordered : ¬ b.max < b.min

/-- Overwrite blocks that are well named and have bounds. -/
structure Overwritable (blocks : List (OverwriteBlock α)) : Prop where
  wellNamed : WellNamed (blocks.map (·.path))
  bounded : ∀ b ∈ blocks, b.Bounded

structure Metadata.WellFormed (m : Metadata α) : Prop where
  overwrite : Overwritable m.overwrite
  read : WellNamed (m.read.map (·.path))
  observed : m.read ≠ []

/-- What is wrong with a block that stands behind others that are in order. A name comes before bounds,
and these before a name that was taken. -/
inductive OverwriteBlock.Offends (before : List (OverwriteBlock α)) (b : OverwriteBlock α) :
    RegistryFault α → Prop
  | unnamed (h : ¬ Named b.path) : Offends before b (.emptyPath before.length)
  | unbounded (h : Named b.path) (hb : ¬ b.Bounded) :
    Offends before b (.invalidBounds (inputName b.path) b.min b.max)
  | repeated (h : Named b.path) (hb : b.Bounded) (b' : OverwriteBlock α) (hm : b' ∈ before)
    (same : baseName b.path = baseName b'.path) :
    Offends before b (.duplicateSignal (inputName b.path))

theorem OverwriteBlock.Offends.duplicate {before : List (OverwriteBlock α)} {b : OverwriteBlock α}
    {name : String} (h : b.Offends before (.duplicateSignal name)) : name = inputName b.path := by
  cases h
  rfl

end

/-- What is wrong with a read block; `position` is where the first read block stands. -/
inductive ReadBlock.Offends (position : Nat) (before : List ReadBlock) (b : ReadBlock) :
    RegistryFault α → Prop
  | unnamed (h : ¬ Named b.path) : Offends position before b (.emptyPath (position + before.length))
  | repeated (h : Named b.path) (b' : ReadBlock) (hm : b' ∈ before)
    (same : baseName b.path = baseName b'.path) :
    Offends position before b (.duplicateSignal (outputName b.path))

theorem ReadBlock.Offends.duplicate {position : Nat} {before : List ReadBlock} {b : ReadBlock}
    {name : String} (h : b.Offends position before (.duplicateSignal name : RegistryFault α)) :
    name = outputName b.path := by
  cases h
  rfl

/-- The fault of the first block that has one, or that there is nothing to read. -/
inductive Metadata.Refused [Scalar α] (m : Metadata α) : RegistryFault α → Prop
  | overwrite {before after : List (OverwriteBlock α)} {b : OverwriteBlock α} {e : RegistryFault α}
    (h : m.overwrite = before ++ b :: after) (inOrder : Overwritable before)
    (he : b.Offends before e) : Refused m e
  | read {before after : List ReadBlock} {b : ReadBlock} {e : RegistryFault α}
    (inOrder : Overwritable m.overwrite) (h : m.read = before ++ b :: after)
    (named : WellNamed (before.map (·.path))) (he : b.Offends m.overwrite.length before e) : Refused m e
  | noOutputs (inOrder : Overwritable m.overwrite) (h : m.read = []) : Refused m .noOutputs

namespace Registry

/-! ## Claims, one after the other -/

/-- Blocks that claim their names one after the other fail where the first of them does. -/
theorem scan_error_iff {B ε : Type} {step : List String → Nat → B → Except ε (List String)}
    {loop : List String → Nat → List B → Except ε (List String)}
    (nil : ∀ taken position, loop taken position [] = .ok taken)
    (cons : ∀ taken position b rest, loop taken position (b :: rest) =
      step taken position b >>= fun taken => loop taken (position + 1) rest)
    {taken : List String} {position : Nat} {blocks : List B} {e : ε} :
    loop taken position blocks = .error e ↔ ∃ before b after taken', blocks = before ++ b :: after ∧
      loop taken position before = .ok taken' ∧
      step taken' (position + before.length) b = .error e := by
  -- over the blocks, from whatever names are taken and wherever the first of them stands
  induction blocks generalizing taken position with
  | nil =>
    rw [nil]
    constructor
    · exact fun h => nomatch h
    · rintro ⟨before, b, after, taken', h, -⟩
      cases before <;> cases h
  | cons b rest ih =>
    rw [cons]
    constructor
    · intro h
      rcases bind_eq_error h with h | ⟨taken₁, hb, h⟩
      · exact ⟨[], b, rest, taken, rfl, nil _ _, h⟩
      · obtain ⟨before, b', after, taken', rfl, hbefore, he⟩ := ih.1 h
        refine ⟨b :: before, b', after, taken', rfl, ?_, ?_⟩
        · rw [cons, hb]
          exact hbefore
        · rwa [List.length_cons, ← Nat.add_assoc, Nat.add_right_comm]
    · rintro ⟨before, b', after, taken', h, hbefore, he⟩
      cases before with
      | nil =>
        cases h
        rw [nil] at hbefore
        cases hbefore
        rw [show step taken position b = .error e from he]
        rfl
      | cons b₀ before =>
        cases h
        rw [cons] at hbefore
        obtain ⟨taken₁, hb, hbefore⟩ := bind_eq_ok hbefore
        rw [hb]
        refine ih.2 ⟨before, b', after, taken', rfl, hbefore, ?_⟩
        rwa [List.length_cons, ← Nat.add_assoc, Nat.add_right_comm] at he

theorem claim_eq (taken : List String) (name : String) :
    (claim taken name : Except (RegistryFault α) _) =
      if name ∈ taken then .error (.duplicateSignal name) else .ok (name :: taken) := by
  unfold claim
  simp only [List.contains_iff_mem]

/-! ## Overwrite blocks -/

/-- The names that overwrite blocks claim, the last one first. -/
def claimedInputs (blocks : List (OverwriteBlock α)) : List String :=
  (blocks.flatMap fun b => [inputName b.path, activationName b.path]).reverse

theorem claimedInputs_cons (b : OverwriteBlock α) (rest : List (OverwriteBlock α)) :
    claimedInputs (b :: rest) =
      claimedInputs rest ++ [activationName b.path, inputName b.path] := by
  simp [claimedInputs]

theorem mem_claimedInputs {blocks : List (OverwriteBlock α)} {name : String} :
    name ∈ claimedInputs blocks ↔
      ∃ b ∈ blocks, name = inputName b.path ∨ name = activationName b.path := by
  simp [claimedInputs]

section

variable [Scalar α]

theorem claimInput_eq (taken : List String) (position : Nat) (b : OverwriteBlock α) :
    claimInput taken position b =
      if Text.isBlankText b.path then .error (.emptyPath position)
      else if !Scalar.isFinite b.min || !Scalar.isFinite b.max || b.max < b.min then
        .error (.invalidBounds (inputName b.path) b.min b.max)
      else if inputName b.path ∈ taken then .error (.duplicateSignal (inputName b.path))
      else if activationName b.path ∈ taken then .error (.duplicateSignal (activationName b.path))
      else .ok (activationName b.path :: inputName b.path :: taken) := by
  have hne : activationName b.path ≠ inputName b.path := (inputName_ne_activationName _ _).symm
  unfold claimInput
  split
  · rfl
  · split
    · rfl
    · rw [claim_eq]
      split
      · rfl
      · change claim (inputName b.path :: taken) (activationName b.path) = _
        simp only [claim_eq, List.mem_cons, hne, false_or]

theorem bounded_iff {b : OverwriteBlock α} : b.Bounded ↔
    (!Scalar.isFinite b.min || !Scalar.isFinite b.max || decide (b.max < b.min)) = false := by
  constructor
  · rintro ⟨min, max, ordered⟩
    simp [min, max, ordered]
  · intro h
    simp only [Bool.or_eq_false_iff, Bool.not_eq_false', decide_eq_false_iff_not] at h
    exact ⟨h.1.1, h.1.2, h.2⟩

theorem claimInput_ok_iff {taken taken' : List String} {position : Nat} {b : OverwriteBlock α} :
    claimInput taken position b = .ok taken' ↔ Named b.path ∧ b.Bounded ∧
      inputName b.path ∉ taken ∧ activationName b.path ∉ taken ∧
      taken' = activationName b.path :: inputName b.path :: taken := by
  rw [claimInput_eq, named_iff, bounded_iff]
  constructor
  · intro h
    split at h
    · cases h
    · next named =>
      split at h
      · cases h
      · next bounded =>
        split at h
        · cases h
        · next hinput =>
          split at h
          · cases h
          · next hactivation =>
            cases h
            exact ⟨Bool.eq_false_of_not_eq_true named, Bool.eq_false_of_not_eq_true bounded, hinput,
              hactivation, rfl⟩
  · rintro ⟨named, bounded, hinput, hactivation, rfl⟩
    rw [named, bounded, if_neg hinput, if_neg hactivation]
    rfl

theorem overwritable_cons {b : OverwriteBlock α} {rest : List (OverwriteBlock α)} :
    Overwritable (b :: rest) ↔ Named b.path ∧ b.Bounded ∧
      (∀ b' ∈ rest, baseName b'.path ≠ baseName b.path) ∧ Overwritable rest := by
  constructor
  · rintro ⟨wellNamed, bounded⟩
    obtain ⟨named, apart, wellNamed⟩ := wellNamed_cons.1 wellNamed
    obtain ⟨bounded, boundedRest⟩ := List.forall_mem_cons.1 bounded
    exact ⟨named, bounded, fun b' hm => apart _ (List.mem_map_of_mem hm), wellNamed, boundedRest⟩
  · rintro ⟨named, bounded, apart, wellNamed, boundedRest⟩
    exact ⟨wellNamed_cons.2 ⟨named, List.forall_mem_map.2 apart, wellNamed⟩,
      List.forall_mem_cons.2 ⟨bounded, boundedRest⟩⟩

omit [Scalar α] in
/-- The names of a block are new behind another one if the two start their names differently. -/
theorem new_cons {taken : List String} {b b' : OverwriteBlock α} :
    (inputName b'.path ∉ activationName b.path :: inputName b.path :: taken ∧
      activationName b'.path ∉ activationName b.path :: inputName b.path :: taken) ↔
      baseName b'.path ≠ baseName b.path ∧ inputName b'.path ∉ taken ∧
        activationName b'.path ∉ taken := by
  simp only [List.mem_cons, inputName_inj, activationName_inj, inputName_ne_activationName,
    (inputName_ne_activationName _ _).symm, not_or, false_or]
  exact ⟨fun ⟨⟨apart, hinput⟩, _, hactivation⟩ => ⟨apart, hinput, hactivation⟩,
    fun ⟨apart, hinput, hactivation⟩ => ⟨⟨apart, hinput⟩, apart, hactivation⟩⟩

/-- Blocks are accepted if they are in order and none of their names was taken before them. -/
theorem claimInputs_ok_iff {taken taken' : List String} {position : Nat}
    {blocks : List (OverwriteBlock α)} :
    claimInputs taken position blocks = .ok taken' ↔ Overwritable blocks ∧
      (∀ b ∈ blocks, inputName b.path ∉ taken ∧ activationName b.path ∉ taken) ∧
      taken' = claimedInputs blocks ++ taken := by
  induction blocks generalizing taken position with
  | nil =>
    constructor
    · intro h
      cases h
      exact ⟨⟨⟨nofun, List.nodup_nil⟩, nofun⟩, nofun, rfl⟩
    · rintro ⟨-, -, rfl⟩
      rfl
  | cons b rest ih =>
    rw [claimedInputs_cons, List.append_assoc]
    constructor
    · intro h
      obtain ⟨taken₁, hb, hrest⟩ := bind_eq_ok h
      obtain ⟨named, bounded, hinput, hactivation, rfl⟩ := claimInput_ok_iff.1 hb
      obtain ⟨inOrder, new, rfl⟩ := ih.1 hrest
      exact ⟨overwritable_cons.2 ⟨named, bounded, fun b' hm => (new_cons.1 (new b' hm)).1, inOrder⟩,
        List.forall_mem_cons.2 ⟨⟨hinput, hactivation⟩, fun b' hm => (new_cons.1 (new b' hm)).2⟩, rfl⟩
    · rintro ⟨inOrder, new, rfl⟩
      obtain ⟨named, bounded, apart, inOrder⟩ := overwritable_cons.1 inOrder
      obtain ⟨⟨hinput, hactivation⟩, new⟩ := List.forall_mem_cons.1 new
      have hb : claimInput taken position b = .ok _ :=
        claimInput_ok_iff.2 ⟨named, bounded, hinput, hactivation, rfl⟩
      change claimInput taken position b >>= _ = _
      rw [hb]
      exact ih.2 ⟨inOrder, fun b' hm => new_cons.2 ⟨apart b' hm, new b' hm⟩, rfl⟩

/-- Behind blocks that are in order the fault of a block is the first thing that is wrong with it. -/
theorem claimInput_error_iff {before : List (OverwriteBlock α)} {b : OverwriteBlock α}
    {e : RegistryFault α} :
    claimInput (claimedInputs before) before.length b = .error e ↔ b.Offends before e := by
  have hinput : inputName b.path ∈ claimedInputs before ↔
      ∃ b' ∈ before, baseName b.path = baseName b'.path := by
    simp only [mem_claimedInputs, inputName_inj, inputName_ne_activationName, or_false]
  have hactivation : activationName b.path ∈ claimedInputs before ↔
      ∃ b' ∈ before, baseName b.path = baseName b'.path := by
    simp only [mem_claimedInputs, activationName_inj, (inputName_ne_activationName _ _).symm,
      false_or]
  rw [claimInput_eq]
  constructor
  · intro h
    split at h
    · next unnamed =>
      cases h
      exact .unnamed (by rw [named_iff, unnamed]; exact Bool.noConfusion)
    · next named =>
      have named := named_iff.2 (Bool.eq_false_of_not_eq_true named)
      split at h
      · next unbounded =>
        cases h
        exact .unbounded named (by rw [bounded_iff, unbounded]; exact Bool.noConfusion)
      · next bounded =>
        have bounded := bounded_iff.2 (Bool.eq_false_of_not_eq_true bounded)
        split at h
        · next taken =>
          cases h
          obtain ⟨b', hm, same⟩ := hinput.1 taken
          exact .repeated named bounded b' hm same
        · next new =>
          rw [if_neg (fun taken => new (hinput.2 (hactivation.1 taken)))] at h
          cases h
  · rintro (unnamed | ⟨named, unbounded⟩ | ⟨named, bounded, b', hm, same⟩)
    · rw [named_iff, Bool.not_eq_false] at unnamed
      rw [if_pos unnamed]
    · rw [bounded_iff, Bool.not_eq_false] at unbounded
      rw [named_iff.1 named, if_pos unbounded]
      rfl
    · rw [named_iff.1 named, bounded_iff.1 bounded, if_pos (hinput.2 ⟨b', hm, same⟩)]
      rfl

end

/-! ## Read blocks -/

theorem claimOutput_eq (taken : List String) (position : Nat) (b : ReadBlock) :
    (claimOutput taken position b : Except (RegistryFault α) _) =
      if Text.isBlankText b.path then .error (.emptyPath position)
      else if outputName b.path ∈ taken then .error (.duplicateSignal (outputName b.path))
      else .ok (outputName b.path :: taken) := by
  unfold claimOutput
  split
  · rfl
  · exact claim_eq _ _

/-- The names that read blocks claim, the last one first. -/
def claimedOutputs (blocks : List ReadBlock) : List String :=
  (blocks.map fun b => outputName b.path).reverse

theorem claimedOutputs_cons (b : ReadBlock) (rest : List ReadBlock) :
    claimedOutputs (b :: rest) = claimedOutputs rest ++ [outputName b.path] := by
  simp [claimedOutputs]

theorem outputName_notMem_claimedInputs (path : String) (blocks : List (OverwriteBlock α)) :
    outputName path ∉ claimedInputs blocks := by
  rw [mem_claimedInputs]
  rintro ⟨b, -, h | h⟩
  · exact outputName_ne_inputName _ _ h
  · exact outputName_ne_activationName _ _ h

theorem claimOutput_ok_iff {taken taken' : List String} {position : Nat} {b : ReadBlock} :
    (claimOutput taken position b : Except (RegistryFault α) _) = .ok taken' ↔
      Named b.path ∧ outputName b.path ∉ taken ∧ taken' = outputName b.path :: taken := by
  rw [claimOutput_eq, named_iff]
  constructor
  · intro h
    split at h
    · cases h
    · next named =>
      split at h
      · cases h
      · next new =>
        cases h
        exact ⟨Bool.eq_false_of_not_eq_true named, new, rfl⟩
  · rintro ⟨named, new, rfl⟩
    rw [named, if_neg new]
    rfl

theorem claimOutputs_ok_iff {taken taken' : List String} {position : Nat}
    {blocks : List ReadBlock} :
    (claimOutputs taken position blocks : Except (RegistryFault α) _) = .ok taken' ↔
      WellNamed (blocks.map (·.path)) ∧ (∀ b ∈ blocks, outputName b.path ∉ taken) ∧
      taken' = claimedOutputs blocks ++ taken := by
  induction blocks generalizing taken position with
  | nil =>
    constructor
    · intro h
      cases h
      exact ⟨⟨nofun, List.nodup_nil⟩, nofun, rfl⟩
    · rintro ⟨-, -, rfl⟩
      rfl
  | cons b rest ih =>
    have new_cons {b' : ReadBlock} : outputName b'.path ∉ outputName b.path :: taken ↔
        baseName b'.path ≠ baseName b.path ∧ outputName b'.path ∉ taken := by
      rw [List.mem_cons, outputName_inj, not_or]
    rw [claimedOutputs_cons, List.append_assoc]
    constructor
    · intro h
      obtain ⟨taken₁, hb, hrest⟩ := bind_eq_ok h
      obtain ⟨named, houtput, rfl⟩ := claimOutput_ok_iff.1 hb
      obtain ⟨wellNamed, new, rfl⟩ := ih.1 hrest
      have apart := fun b' hm => (new_cons.1 (new b' hm)).1
      exact ⟨wellNamed_cons.2 ⟨named, List.forall_mem_map.2 apart, wellNamed⟩,
        List.forall_mem_cons.2 ⟨houtput, fun b' hm => (new_cons.1 (new b' hm)).2⟩, rfl⟩
    · rintro ⟨wellNamed, new, rfl⟩
      obtain ⟨named, apart, wellNamed⟩ := wellNamed_cons.1 wellNamed
      have apart := List.forall_mem_map.1 apart
      obtain ⟨houtput, new⟩ := List.forall_mem_cons.1 new
      have hb : (claimOutput taken position b : Except (RegistryFault α) _) = .ok _ :=
        claimOutput_ok_iff.2 ⟨named, houtput, rfl⟩
      change claimOutput taken position b >>= _ = _
      rw [hb]
      exact ih.2 ⟨wellNamed, fun b' hm => new_cons.2 ⟨apart b' hm, new b' hm⟩, rfl⟩

theorem claimOutput_error_iff {inputs : List (OverwriteBlock α)} {before : List ReadBlock}
    {position : Nat} {b : ReadBlock} {e : RegistryFault α} :
    claimOutput (claimedOutputs before ++ claimedInputs inputs) (position + before.length) b =
      .error e ↔ b.Offends position before e := by
  have houtput : outputName b.path ∈ claimedOutputs before ++ claimedInputs inputs ↔
      ∃ b' ∈ before, baseName b.path = baseName b'.path := by
    simp [claimedOutputs, outputName_notMem_claimedInputs, outputName_inj, eq_comm]
  rw [claimOutput_eq]
  constructor
  · intro h
    split at h
    · next unnamed =>
      cases h
      exact .unnamed (by rw [named_iff, unnamed]; exact Bool.noConfusion)
    · next named =>
      split at h
      · next taken =>
        cases h
        obtain ⟨b', hm, same⟩ := houtput.1 taken
        exact .repeated (named_iff.2 (Bool.eq_false_of_not_eq_true named)) b' hm same
      · cases h
  · rintro (unnamed | ⟨named, b', hm, same⟩)
    · rw [named_iff, Bool.not_eq_false] at unnamed
      rw [if_pos unnamed]
    · rw [named_iff.1 named, if_pos (houtput.2 ⟨b', hm, same⟩)]
      rfl

/-! ## Metadata -/

section

variable [Scalar α] {m : Metadata α} {r : Registry α} {e : RegistryFault α}

theorem claimInputs_eq_ok_iff {blocks : List (OverwriteBlock α)} :
    claimInputs [] 0 blocks = .ok (claimedInputs blocks) ↔ Overwritable blocks := by
  rw [claimInputs_ok_iff, List.append_nil]
  exact ⟨fun h => h.1, fun h => ⟨h, fun _ _ => ⟨nofun, nofun⟩, rfl⟩⟩

theorem claimInputs_error_iff {blocks : List (OverwriteBlock α)} :
    claimInputs [] 0 blocks = .error e ↔ ∃ before b after, blocks = before ++ b :: after ∧
      Overwritable before ∧ b.Offends before e := by
  rw [scan_error_iff (fun _ _ => rfl) fun _ _ _ _ => rfl]
  constructor
  · rintro ⟨before, b, after, taken, h, hbefore, he⟩
    obtain ⟨inOrder, -, rfl⟩ := claimInputs_ok_iff.1 hbefore
    rw [List.append_nil, Nat.zero_add] at he
    exact ⟨before, b, after, h, inOrder, claimInput_error_iff.1 he⟩
  · rintro ⟨before, b, after, h, inOrder, he⟩
    refine ⟨before, b, after, _, h, claimInputs_eq_ok_iff.2 inOrder, ?_⟩
    rw [Nat.zero_add]
    exact claimInput_error_iff.2 he

omit [Scalar α] in
theorem claimOutputs_eq_ok_iff {inputs : List (OverwriteBlock α)} {position : Nat}
    {blocks : List ReadBlock} :
    (claimOutputs (claimedInputs inputs) position blocks : Except (RegistryFault α) _) =
      .ok (claimedOutputs blocks ++ claimedInputs inputs) ↔
      WellNamed (blocks.map (·.path)) := by
  rw [claimOutputs_ok_iff]
  exact ⟨fun h => h.1,
    fun h => ⟨h, fun b _ => outputName_notMem_claimedInputs b.path inputs, rfl⟩⟩

omit [Scalar α] in
theorem claimOutputs_error_iff {inputs : List (OverwriteBlock α)} {position : Nat}
    {blocks : List ReadBlock} :
    claimOutputs (claimedInputs inputs) position blocks = .error e ↔
      ∃ before b after, blocks = before ++ b :: after ∧ WellNamed (before.map (·.path)) ∧
        b.Offends position before e := by
  rw [scan_error_iff (fun _ _ => rfl) fun _ _ _ _ => rfl]
  constructor
  · rintro ⟨before, b, after, taken, h, hbefore, he⟩
    obtain ⟨wellNamed, -, rfl⟩ := claimOutputs_ok_iff.1 hbefore
    exact ⟨before, b, after, h, wellNamed, claimOutput_error_iff.1 he⟩
  · rintro ⟨before, b, after, h, wellNamed, he⟩
    exact ⟨before, b, after, _, h, claimOutputs_eq_ok_iff.2 wellNamed, claimOutput_error_iff.2 he⟩

/-- A registry holds the signals of its metadata, block by block. -/
theorem ofMetadata_ok (h : ofMetadata m = .ok r) :
    r = { inputs := m.overwrite.map inputOf, outputs := m.read.map outputOf
          groups := groupsOf m.read } := by
  obtain ⟨taken, -, h⟩ := bind_eq_ok h
  obtain ⟨taken', -, h⟩ := bind_eq_ok h
  cases hr : m.read.isEmpty with
  | true => rw [hr] at h; cases h
  | false => rw [hr] at h; cases h; rfl

theorem wellFormed_of_ofMetadata (h : ofMetadata m = .ok r) : m.WellFormed := by
  obtain ⟨taken, hinputs, h⟩ := bind_eq_ok h
  obtain ⟨taken', houtputs, h⟩ := bind_eq_ok h
  refine ⟨(claimInputs_ok_iff.1 hinputs).1, (claimOutputs_ok_iff.1 houtputs).1, fun empty => ?_⟩
  rw [empty] at h
  cases h

theorem ofMetadata_ok_iff : (∃ r, ofMetadata m = .ok r) ↔ m.WellFormed := by
  constructor
  · rintro ⟨r, h⟩
    exact wellFormed_of_ofMetadata h
  · rintro ⟨inOrder, wellNamed, observed⟩
    have observed : m.read.isEmpty = false := by simpa using observed
    unfold ofMetadata
    rw [claimInputs_eq_ok_iff.2 inOrder]
    change ∃ r, (claimOutputs (claimedInputs m.overwrite) m.overwrite.length m.read >>= _) = .ok r
    rw [claimOutputs_eq_ok_iff.2 wellNamed, observed]
    exact ⟨_, rfl⟩

theorem ofMetadata_error_iff : ofMetadata m = .error e ↔ m.Refused e := by
  constructor
  · intro h
    rcases bind_eq_error h with h | ⟨taken, hinputs, h⟩
    · obtain ⟨before, b, after, hblocks, inOrder, he⟩ := claimInputs_error_iff.1 h
      exact .overwrite hblocks inOrder he
    · obtain ⟨inOrder, -, rfl⟩ := claimInputs_ok_iff.1 hinputs
      rw [List.append_nil] at h
      rcases bind_eq_error h with h | ⟨taken', houtputs, h⟩
      · obtain ⟨before, b, after, hblocks, wellNamed, he⟩ := claimOutputs_error_iff.1 h
        exact .read inOrder hblocks wellNamed he
      · cases hempty : m.read.isEmpty with
        | true =>
          rw [hempty] at h
          cases h
          exact .noOutputs inOrder (List.isEmpty_iff.1 hempty)
        | false =>
          rw [hempty] at h
          cases h
  · intro h
    unfold ofMetadata
    cases h with
    | overwrite hblocks inOrder he =>
      rw [claimInputs_error_iff.2 ⟨_, _, _, hblocks, inOrder, he⟩]
      rfl
    | read inOrder hblocks wellNamed he =>
      rw [claimInputs_eq_ok_iff.2 inOrder]
      change (claimOutputs (claimedInputs m.overwrite) m.overwrite.length m.read >>= _) = _
      rw [claimOutputs_error_iff.2 ⟨_, _, _, hblocks, wellNamed, he⟩]
      rfl
    | noOutputs inOrder hnone =>
      rw [claimInputs_eq_ok_iff.2 inOrder, hnone]
      rfl

/-- All names of a registry differ. -/
theorem names_nodup (h : ofMetadata m = .ok r) :
    (r.inputNames ++ r.inputs.map (·.activation) ++ r.outputNames).Nodup := by
  obtain ⟨⟨⟨-, inputs⟩, -⟩, ⟨-, outputs⟩, -⟩ := wellFormed_of_ofMetadata h
  rw [List.map_map] at inputs outputs
  have renamed {B : Type} {f g : B → String} (hfg : ∀ b b', f b = f b' → g b = g b')
      {xs : List B} (h : (xs.map g).Nodup) : (xs.map f).Nodup := by
    rw [List.Nodup, List.pairwise_map] at *
    exact h.imp fun hne same => hne (hfg _ _ same)
  have hinputs : (m.overwrite.map fun b => inputName b.path).Nodup :=
    renamed (fun _ _ => inputName_inj.1) inputs
  have hactivations : (m.overwrite.map fun b => activationName b.path).Nodup :=
    renamed (fun _ _ => activationName_inj.1) inputs
  have houtputs : (m.read.map fun b => outputName b.path).Nodup :=
    renamed (fun _ _ => outputName_inj.1) outputs
  rw [ofMetadata_ok h]
  unfold inputNames outputNames
  simp only [List.map_map, List.nodup_append, List.mem_append]
  refine ⟨⟨hinputs, hactivations, ?_⟩, houtputs, ?_⟩
  · intro name hname name' hname'
    obtain ⟨b, -, rfl⟩ := List.mem_map.1 hname
    obtain ⟨b', -, rfl⟩ := List.mem_map.1 hname'
    exact inputName_ne_activationName _ _
  · intro name hname name' hname'
    obtain ⟨b', -, rfl⟩ := List.mem_map.1 hname'
    rcases hname with hname | hname
    · obtain ⟨b, -, rfl⟩ := List.mem_map.1 hname
      exact (outputName_ne_inputName _ _).symm
    · obtain ⟨b, -, rfl⟩ := List.mem_map.1 hname
      exact (outputName_ne_activationName _ _).symm

theorem ofMetadata_inputs (h : ofMetadata m = .ok r) :
    (∀ s ∈ r.inputs, Scalar.isFinite s.min = true ∧ Scalar.isFinite s.max = true) ∧
      r.inputNames.Nodup := by
  refine ⟨?_, ?_⟩
  · obtain ⟨⟨-, bounded⟩, -, -⟩ := wellFormed_of_ofMetadata h
    rw [ofMetadata_ok h]
    intro s hs
    obtain ⟨b, hb, rfl⟩ := List.mem_map.1 hs
    exact ⟨(bounded b hb).min, (bounded b hb).max⟩
  · have names := names_nodup h
    rw [List.append_assoc] at names
    exact names.of_append_left

end

variable {r : Registry α}

theorem mem_of_input? {name : String} {s : InputSignal α} (h : r.input? name = some s) :
    s ∈ r.inputs ∧ s.name = name :=
  ⟨List.mem_of_find?_eq_some h, by simpa using List.find?_some h⟩

/-- No two inputs share a name. -/
theorem input?_of_mem (h : r.inputNames.Nodup) {s : InputSignal α} (hs : s ∈ r.inputs) :
    r.input? s.name = some s := by
  cases hf : r.input? s.name with
  | none =>
    have := List.find?_eq_none.1 hf s hs
    simp at this
  | some s' =>
    obtain ⟨hm, hn⟩ := mem_of_input? hf
    rw [List.inj_on_of_nodup_map h hm hs hn]

/-! ## Registries as maps -/

/-- An element written into a map by name that keeps the order of insertion: it takes the place of an
earlier one with its name, and stands at the end if there is none. -/
def put {B : Type} (name : B → String) (kept : List B) (x : B) : List B :=
  if kept.any (name · == name x) then kept.map fun y => if name y = name x then x else y
  else kept ++ [x]

/-- Where no two names are the same nothing is replaced. -/
theorem foldl_put {B : Type} {name : B → String} {rest kept : List B}
    (h : ((kept ++ rest).map name).Nodup) : rest.foldl (put name) kept = kept ++ rest := by
  induction rest generalizing kept with
  | nil => exact (List.append_nil kept).symm
  | cons x rest ih =>
    have new : kept.any (name · == name x) = false := by
      rw [List.map_append, List.nodup_append] at h
      rw [List.any_eq_false]
      intro y hy same
      exact h.2.2 _ (List.mem_map_of_mem hy) _ (List.mem_map_of_mem List.mem_cons_self)
        (eq_of_beq same)
    have hput : put name kept x = kept ++ [x] := by
      unfold put
      rw [new]
      rfl
    rw [List.append_cons] at h ⊢
    rw [List.foldl_cons, hput, ih h]

end Registry

open Scalar (Extended)

theorem OverwriteBlock.bounded_iff_le {b : OverwriteBlock Extended} :
    b.Bounded ↔ Scalar.isFinite b.min = true ∧ Scalar.isFinite b.max = true ∧ b.min ≤ b.max := by
  constructor
  · rintro ⟨min, max, ordered⟩
    exact ⟨min, max, (Scalar.Extended.not_lt_iff max min).1 ordered⟩
  · rintro ⟨min, max, ordered⟩
    exact ⟨min, max, (Scalar.Extended.not_lt_iff max min).2 ordered⟩

/-- A registry is built exactly of well-formed metadata. It has the blocks as they were declared, and
all of its names differ, so that nothing is lost in a map by name. If the metadata is refused the first
block that has a fault is blamed, for the first thing that is wrong with it, and never by the name of
an activation. -/
theorem Registry.ofMetadata_spec (m : Metadata Extended) :
    ((∃ r, ofMetadata m = .ok r) ↔
      WellNamed (m.overwrite.map (·.path)) ∧
      (∀ b ∈ m.overwrite, Scalar.isFinite b.min = true ∧ Scalar.isFinite b.max = true ∧
        b.min ≤ b.max) ∧
      WellNamed (m.read.map (·.path)) ∧ m.read ≠ []) ∧
    (∀ r, ofMetadata m = .ok r →
      r.inputs = m.overwrite.map inputOf ∧ r.outputs = m.read.map outputOf ∧
      r.inputs.foldl (put (·.name)) [] = r.inputs ∧ r.outputs.foldl (put (·.name)) [] = r.outputs ∧
      (∀ b ∈ m.overwrite, r.input? (inputName b.path) = some (inputOf b)) ∧
      (r.inputNames ++ r.inputs.map (·.activation) ++ r.outputNames).Nodup) ∧
    (∀ e, ofMetadata m = .error e ↔ m.Refused e) ∧
    ∀ path, ofMetadata m ≠ .error (.duplicateSignal (activationName path)) := by
  refine ⟨?_, fun r h => ?_, fun e => ofMetadata_error_iff, fun path h => ?_⟩
  · rw [ofMetadata_ok_iff]
    constructor
    · rintro ⟨⟨inputs, bounded⟩, outputs, observed⟩
      exact ⟨inputs, fun b hb => OverwriteBlock.bounded_iff_le.1 (bounded b hb), outputs, observed⟩
    · rintro ⟨inputs, bounded, outputs, observed⟩
      exact ⟨⟨inputs, fun b hb => OverwriteBlock.bounded_iff_le.2 (bounded b hb)⟩, outputs, observed⟩
  · have names := names_nodup h
    have inputs : r.inputs = m.overwrite.map inputOf := by rw [ofMetadata_ok h]
    have outputs : r.outputs = m.read.map outputOf := by rw [ofMetadata_ok h]
    obtain ⟨-, hinputs⟩ := ofMetadata_inputs h
    refine ⟨inputs, outputs, foldl_put hinputs, foldl_put names.of_append_right,
      fun b hb => ?_, names⟩
    exact input?_of_mem hinputs (inputs ▸ List.mem_map_of_mem hb)
  · cases ofMetadata_error_iff.1 h with
    | overwrite _ _ he => exact inputName_ne_activationName _ _ he.duplicate.symm
    | read _ _ _ he => exact outputName_ne_activationName _ _ he.duplicate.symm

end BuildingEmulation
