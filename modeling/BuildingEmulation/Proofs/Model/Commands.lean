import BuildingEmulation.Model.Recorded
import BuildingEmulation.Proofs.Model.Exchange

/-!
# What drives a unit

The calls that change a unit, in the order in which they reach it: restarts, writes and steps.
Reading does not count. A model call makes a fixed list of them, one after the other, and stops at
the first that does not return; while it is blocked the record shows how far it has come.

`Progress.Passes R S`: `S` holds wherever the call stops, or blocks on its way, and `R` once it has
returned. `Call.Spec` knows nothing of a call that is blocked; this does.

Results:
* `Model.exchange_carries`: an exchange writes the inputs in the order of their declaration, and
  steps.
* `Model.warmUp_carries`: a warm-up restarts.
-/
namespace BuildingEmulation

variable {α σ ε ε' β γ : Type}

/-! ## Calls on their way -/

namespace Progress

/-- `S` holds where the call stops or blocks, and `R` where it returns. -/
def Passes (R : σ → β → Prop) (S : σ → Prop) : Progress σ ε β → Prop
  | returned s b => R s b
  | failed s _ => S s
  | aborted s => S s
  | blocked s resume => S s ∧ (resume s).Passes R S

variable {R : σ → β → Prop} {S : σ → Prop} {p : Progress σ ε β}

theorem Passes.mono {R' : σ → β → Prop} {S' : σ → Prop} (h : p.Passes R S)
    (hR : ∀ s b, R s b → R' s b) (hS : ∀ s, S s → S' s) : p.Passes R' S' := by
  induction p with
  | returned s b => exact hR s b h
  | failed s e => exact hS s h
  | aborted s => exact hS s h
  | blocked s resume ih => exact ⟨hS s h.1, ih s h.2⟩

theorem Passes.andThen {R' : σ → γ → Prop} {next : β → Call σ ε γ} (h : p.Passes R S)
    (hn : ∀ s b, R s b → (next b s).Passes R' S) : (p.andThen next).Passes R' S := by
  induction p with
  | returned s b => exact hn s b h
  | failed s e => exact h
  | aborted s => exact h
  | blocked s resume ih => exact ⟨h.1, ih s h.2⟩

theorem Passes.mapError {f : ε → ε'} (h : p.Passes R S) : (p.mapError f).Passes R S := by
  induction p with
  | returned s b => exact h
  | failed s e => exact h
  | aborted s => exact h
  | blocked s resume ih => exact ⟨h.1, ih s h.2⟩

theorem Passes.discard {R : σ → Prop} (h : p.Passes (fun s _ => R s) S) :
    p.discard.Passes (fun s _ => R s) S := by
  induction p with
  | returned s b => exact h
  | failed s e => exact h
  | aborted s => exact h
  | blocked s resume ih => exact ⟨h.1, ih s h.2⟩

end Progress

/-! ## Records of driving calls -/

/-- The call drives the unit. -/
def UnitCall.drives : UnitCall α → Bool
  | .get _ => false
  | _ => true

def UnitEvent.drives : UnitEvent α → Bool
  | .called call | .returned call => call.drives

/-- What the record says of the calls that drive the unit. -/
def Recorded.driving (r : Recorded α σ) : List (UnitEvent α) := r.events.toList.filter (·.drives)

/-- Calls one after the other, all of which return. -/
def whole (cs : List (UnitCall α)) : List (UnitEvent α) :=
  cs.flatMap fun c => [.called c, .returned c]

/-- Calls one after the other up to one that does not return. -/
def CutShort (cs : List (UnitCall α)) (es : List (UnitEvent α)) : Prop :=
  ∃ done c rest, cs = done ++ c :: rest ∧ es = whole done ++ [.called c]

/-- Calls one after the other, to the end or up to one that does not return. -/
def Performed (cs : List (UnitCall α)) (es : List (UnitEvent α)) : Prop :=
  es = whole cs ∨ CutShort cs es

section

variable {cs cs' : List (UnitCall α)} {es : List (UnitEvent α)}

theorem whole_append (cs cs' : List (UnitCall α)) : whole (cs ++ cs') = whole cs ++ whole cs' :=
  List.flatMap_append

theorem CutShort.left (h : CutShort cs es) : CutShort (cs ++ cs') es := by
  obtain ⟨done, c, rest, rfl, rfl⟩ := h
  exact ⟨done, c, rest ++ cs', by rw [List.append_assoc, List.cons_append], rfl⟩

theorem CutShort.right (h : CutShort cs' es) : CutShort (cs ++ cs') (whole cs ++ es) := by
  obtain ⟨done, c, rest, rfl, rfl⟩ := h
  exact ⟨cs ++ done, c, rest, by rw [List.append_assoc],
    by rw [whole_append, List.append_assoc]⟩

theorem Performed.right (h : Performed cs' es) : Performed (cs ++ cs') (whole cs ++ es) := by
  rcases h with rfl | h
  · exact .inl (whole_append cs cs').symm
  · exact .inr h.right

end

namespace Call

/-- From a state in `P` the call passes. -/
def Passes (P : σ → Prop) (c : Call σ ε β) (R : σ → β → Prop) (S : σ → Prop) : Prop :=
  ∀ s, P s → (c s).Passes R S

/-- The record says this much. -/
def Driven (es : List (UnitEvent α)) (r : Recorded α σ) : Prop := r.driving = es

/-- The call makes these calls on the unit and no others, and stops only at one that does not
return. -/
def Performs (cs : List (UnitCall α)) (c : Call (Recorded α σ) ε β) : Prop :=
  ∀ es, Passes (Driven es) c (fun r _ => Driven (es ++ whole cs) r)
    fun r => ∃ es', CutShort cs es' ∧ Driven (es ++ es') r

/-- The call makes these calls on the unit and no others. It may stop after the last. -/
def Carries (cs : List (UnitCall α)) (c : Call (Recorded α σ) ε β) : Prop :=
  ∀ es, Passes (Driven es) c (fun r _ => Driven (es ++ whole cs) r)
    fun r => ∃ es', Performed cs es' ∧ Driven (es ++ es') r

/-- The call does not drive the unit. -/
def Quiet (c : Call (Recorded α σ) ε β) : Prop :=
  ∀ es, Passes (Driven es) c (fun r _ => Driven es r) (Driven es)

variable {cs cs' : List (UnitCall α)} {c : Call (Recorded α σ) ε β}
  {next : β → Call (Recorded α σ) ε γ}

theorem Performs.pure {b : β} : Performs [] (pure b : Call (Recorded α σ) ε β) := by
  intro es r hr
  change Driven (es ++ []) r
  rwa [List.append_nil]

/-- A call that performs, and another after it that stops as it stops. -/
theorem Performs.andThen {stop : List (UnitCall α) → List (UnitEvent α) → Prop}
    (h : Performs cs c)
    (hn : ∀ b es, Passes (Driven es) (next b) (fun r _ => Driven (es ++ whole cs') r)
      fun r => ∃ es', stop cs' es' ∧ Driven (es ++ es') r)
    (left : ∀ {es'}, CutShort cs es' → stop (cs ++ cs') es')
    (right : ∀ {es'}, stop cs' es' → stop (cs ++ cs') (whole cs ++ es')) (es : List (UnitEvent α)) :
    Passes (Driven es) (c >>= next) (fun r _ => Driven (es ++ whole (cs ++ cs')) r)
      fun r => ∃ es', stop (cs ++ cs') es' ∧ Driven (es ++ es') r := by
  intro r hr
  refine ((h es r hr).mono (fun _ _ h => h) ?_).andThen fun r b hb => ?_
  · rintro r ⟨es', hc, hd⟩
    exact ⟨es', left hc, hd⟩
  · refine (hn b _ r hb).mono ?_ ?_
    · intro r _ hd
      rwa [whole_append, ← List.append_assoc]
    · rintro r ⟨es', hc, hd⟩
      exact ⟨whole cs ++ es', right hc, by rwa [← List.append_assoc]⟩

theorem Performs.bind (h : Performs cs c) (hn : ∀ b, Performs cs' (next b)) :
    Performs (cs ++ cs') (c >>= next) :=
  h.andThen hn .left .right

theorem Performs.mapError (h : Performs cs c) (f : ε → ε') : Performs cs (c.mapError f) :=
  fun es r hr => (h es r hr).mapError

theorem Quiet.carries (h : Quiet c) : Carries [] c := by
  intro es r hr
  refine (h es r hr).mono ?_ ?_
  · intro r _ hd
    change Driven (es ++ []) r
    rwa [List.append_nil]
  · exact fun r hd => ⟨[], .inl rfl, by rwa [List.append_nil]⟩

theorem Performs.carry (h : Performs cs c) (hn : ∀ b, Carries cs' (next b)) :
    Carries (cs ++ cs') (c >>= next) :=
  h.andThen hn (fun hc => .inr hc.left) .right

theorem Quiet.pure {b : β} : Quiet (pure b : Call (Recorded α σ) ε β) := fun _ _ hr => hr

theorem Quiet.fail {e : ε} : Quiet (fail e : Call (Recorded α σ) ε β) := fun _ _ hr => hr

theorem Quiet.bind (h : Quiet c) (hn : ∀ b, Quiet (next b)) : Quiet (c >>= next) :=
  fun es r hr => (h es r hr).andThen fun r b hb => hn b es r hb

theorem Quiet.mapError (h : Quiet c) (f : ε → ε') : Quiet (c.mapError f) :=
  fun es r hr => (h es r hr).mapError

end Call

/-! ## Recorded calls -/

namespace Recorded

open Call (Driven Performs Quiet)

theorem driving_note (r : Recorded α σ) (e : UnitEvent α) :
    (r.note e).driving = r.driving ++ if e.drives then [e] else [] := by
  rw [driving, note, Array.toList_push, List.filter_append]
  cases h : e.drives <;> simp [driving, h]

theorem within_passes (call : UnitCall α) {es : List (UnitEvent α)} (p : Progress σ ε β)
    (r : Recorded α σ) (hr : r.driving = es) :
    (within call r p).Passes
      (fun r _ => r.driving = es ++ if call.drives then [.returned call] else [])
      (fun r => r.driving = es) := by
  induction p generalizing r with
  | returned s b =>
    change (({ r with inner := s } : Recorded α σ).note (.returned call)).driving = _
    rw [driving_note, ← hr]
    rfl
  | failed s e => exact hr
  | aborted s => exact hr
  | blocked s resume ih => exact ⟨hr, ih s _ hr⟩

theorem record_performs {call : UnitCall α} (hc : call.drives = true) (c : Call σ ε β) :
    Performs [call] (record call c) := by
  intro es r hr
  have hn : (r.note (.called call)).driving = es ++ [.called call] := by
    rw [driving_note, show r.driving = es from hr]
    exact congrArg _ (if_pos hc)
  refine (within_passes call (c r.inner) _ hn).mono ?_ ?_
  · intro r' _ hd
    rw [if_pos hc, List.append_assoc] at hd
    exact hd
  · exact fun r' hd => ⟨_, ⟨[], call, [], rfl, rfl⟩, hd⟩

theorem record_quiet {call : UnitCall α} (hc : call.drives = false) (c : Call σ ε β) :
    Quiet (record call c) := by
  have hc : ¬ call.drives = true := by rw [hc]; exact Bool.false_ne_true
  intro es r hr
  have hn : (r.note (.called call)).driving = es := by
    rw [driving_note, show r.driving = es from hr]
    exact (congrArg _ (if_neg hc)).trans (List.append_nil es)
  refine (within_passes call (c r.inner) _ hn).mono ?_ fun _ h => h
  intro r' _ hd
  rwa [if_neg hc, List.append_nil] at hd

end Recorded

/-! ## Model calls -/

/-- The calls that put an input in force, or release it. -/
def writeCalls (inputs : SignalMap α) (s : InputSignal α) : List (UnitCall α) :=
  match inputs.get? s.name with
  | some x => [.set s.name (.real x), .set s.activation (.flag true)]
  | none => [.set s.activation (.flag false)]

/-- The calls of an exchange. -/
def exchangeCalls (r : Registry α) (inputs : SignalMap α) (duration : α) : List (UnitCall α) :=
  r.inputs.flatMap (writeCalls inputs) ++ [.doStep duration]

namespace Model

open Call (Performs Carries Quiet)

variable {m : Model α (Recorded α σ)} {unit : EmulationUnit α σ}

theorem writeInput_performs (hm : m.unit = unit.recorded) (inputs : SignalMap α)
    (s : InputSignal α) : Performs (writeCalls inputs s) (m.writeInput inputs s) := by
  have set (name : String) (value : UnitValue α) :
      Performs [.set name value] (lift (α := α) (m.unit.set name value)) := by
    rw [hm]
    exact (Recorded.record_performs rfl _).mapError _
  unfold writeCalls writeInput
  cases inputs.get? s.name with
  | some x => exact (set _ _).bind fun _ => set _ _
  | none => exact set _ _

theorem writeInputs_performs (hm : m.unit = unit.recorded) (inputs : SignalMap α)
    (signals : List (InputSignal α)) :
    Performs (signals.flatMap (writeCalls inputs)) (m.writeInputs inputs signals) := by
  induction signals with
  | nil => exact .pure
  | cons signal rest ih =>
    rw [List.flatMap_cons]
    exact (writeInput_performs hm inputs signal).bind fun _ => ih

theorem doStep_performs (hm : m.unit = unit.recorded) (duration : α) :
    Performs [.doStep duration] (m.doStep duration) := by
  unfold doStep
  rw [hm]
  exact (Recorded.record_performs rfl _).mapError _

theorem restart_performs (hm : m.unit = unit.recorded) (start warmupEnd : α) :
    Performs [.restart start warmupEnd] (m.restart start warmupEnd) := by
  unfold restart
  rw [hm]
  exact (Recorded.record_performs rfl _).mapError _

variable [Scalar α]

theorem readOutputs_quiet (hm : m.unit = unit.recorded) (read : SignalMap α)
    (signals : List OutputSignal) : Quiet (m.readOutputs read signals) := by
  induction signals generalizing read with
  | nil => exact .pure
  | cons signal rest ih =>
    have get : Quiet (lift (α := α) (m.unit.get signal.name)) := by
      rw [hm]
      exact (Recorded.record_quiet rfl _).mapError _
    refine get.bind fun x => ?_
    cases Scalar.isFinite x with
    | false => exact .fail
    | true => exact ih _

/-- An exchange writes all inputs and steps. -/
theorem exchange_carries (hm : m.unit = unit.recorded) (inputs : SignalMap α) (duration : α) :
    Carries (exchangeCalls m.registry inputs duration) (m.exchange inputs duration) := by
  have read : Carries [] (m.getOutputs) := (readOutputs_quiet hm _ _).carries
  exact (writeInputs_performs hm inputs m.registry.inputs).carry fun _ =>
    (doStep_performs hm duration).carry fun _ => read

/-- A warm-up restarts. -/
theorem warmUp_carries (hm : m.unit = unit.recorded) (start warmupEnd : α) :
    Carries [.restart start warmupEnd] (m.warmUp start warmupEnd) := by
  have read : Carries [] (m.getOutputs) := (readOutputs_quiet hm _ _).carries
  exact (restart_performs hm start warmupEnd).carry fun _ => read

end Model

end BuildingEmulation
