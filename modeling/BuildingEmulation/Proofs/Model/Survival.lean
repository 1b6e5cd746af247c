import BuildingEmulation.Model.Paced
import BuildingEmulation.Proofs.Model.Exchange

/-!
# Units that stay alive and in range

A call that aborts leaves its caller without an answer. `Progress.Survives` says that it does not come to
that, neither now nor after a delay, whatever the call then finds the unit in. `Call.Spec` cannot say so:
it asks nothing of a call that does not come back.

What is known of the readings of a unit after a step is known of the outputs of an exchange, however
the unit was left before it: by a step that failed half-way, say.

Results:
* `Model.exchange_survives`, `Model.warmUp_survives`: the calls of a unit survive, so those of a model do.
* `Model.exchange_shows`: what the readings after a step show, the outputs of an exchange show.
* `Survives.paced`, `Shows.paced`: the same of a unit whose calls are held up now and then.
-/
namespace BuildingEmulation

variable {α σ ε ε' β γ : Type}

/-! ## Calls that do not abort -/

namespace Progress

/-- The call does not abort, neither now nor once it is let go on. -/
def Survives : Progress σ ε β → Prop
  | returned _ _ => True
  | failed _ _ => True
  | aborted _ => False
  | blocked _ resume => ∀ s, (resume s).Survives

namespace Survives

variable {p : Progress σ ε β}

theorem andThen {next : β → Call σ ε γ} (h : p.Survives) (hn : ∀ b s, (next b s).Survives) :
    (p.andThen next).Survives := by
  induction p with
  | returned s b => exact hn b s
  | failed s e => trivial
  | aborted s => exact h
  | blocked s resume ih => exact fun s => ih s (h s)

theorem mapError (h : p.Survives) (f : ε → ε') : (p.mapError f).Survives := by
  induction p with
  | blocked s resume ih => exact fun s => ih s (h s)
  | _ => exact h

theorem discard (h : p.Survives) : p.discard.Survives := by
  induction p with
  | blocked s resume ih => exact fun s => ih s (h s)
  | _ => exact h

end Survives

end Progress

namespace Call

/-- The call survives wherever it begins. -/
def Survives (c : Call σ ε β) : Prop := ∀ s, (c s).Survives

theorem Survives.bind {c : Call σ ε β} {next : β → Call σ ε γ} (h : Survives c)
    (hn : ∀ b, Survives (next b)) : Survives (c >>= next) := fun s => (h s).andThen hn

theorem Survives.mapError {c : Call σ ε β} (h : Survives c) (f : ε → ε') :
    Survives (c.mapError f) := fun s => (h s).mapError f

theorem survives_ofState (f : σ → σ × Except ε β) : Survives (ofState f) := by
  intro s
  unfold ofState
  split <;> trivial

end Call

/-- All calls of the unit survive. -/
structure EmulationUnit.Survives (u : EmulationUnit α σ) : Prop where
  restart : ∀ start warmupEnd, (u.restart start warmupEnd).Survives
  set : ∀ name value, (u.set name value).Survives
  doStep : ∀ duration, (u.doStep duration).Survives
  get : ∀ name, (u.get name).Survives

/-! ## Steps that end in a range -/

/-- Steps of certain durations end in `Q`, wherever they begin, and readings there are in `V`. -/
structure EmulationUnit.Shows (u : EmulationUnit α σ) (D : α → Prop) (Q : σ → Prop)
    (V : String → α → Prop) : Prop where
  doStep : ∀ duration, D duration →
    Call.Spec (fun _ => True) (u.doStep duration) (fun s _ => Q s) fun _ _ => True
  get : ∀ name, Call.Spec Q (u.get name) (fun s x => Q s ∧ V name x) fun _ _ => True

/-! ## Units that are held up -/

namespace Paced

theorem hold_survives {c : Call (Paced σ) ε β} (h : c.Survives) (n : Nat) : (hold n c).Survives := by
  induction n with
  | zero => exact h
  | succ n ih => exact fun _ => ih

theorem within_survives {p : Progress σ ε β} (h : p.Survives) (delays : Nat → Nat) :
    (within delays p).Survives := by
  induction p generalizing delays with
  | blocked s resume ih => exact fun s => ih s.inner (h s.inner) s.delays
  | _ => exact h

theorem pace_survives {c : Call σ ε β} (h : c.Survives) : (pace c).Survives :=
  fun s => hold_survives (fun s => within_survives (h s.inner) s.delays) (s.delays 0) _

theorem pace_spec {c : Call σ ε β} {P : σ → Prop} {R : σ → β → Prop} {F : σ → ε → Prop}
    (h : Call.Spec P c R F) :
    Call.Spec (fun s => P s.inner) (pace c) (fun s b => R s.inner b) fun s e => F s.inner e := by
  intro s hs
  unfold pace
  cases s.delays 0 with
  | succ n => trivial
  | zero =>
    have hc := h s.inner hs
    simp only [hold]
    cases hp : c s.inner <;> rw [hp] at hc <;> exact hc

end Paced

namespace EmulationUnit

variable {u : EmulationUnit α σ}

theorem Survives.paced (h : u.Survives) : u.paced.Survives where
  restart start warmupEnd := Paced.pace_survives (h.restart start warmupEnd)
  set name value := Paced.pace_survives (h.set name value)
  doStep duration := Paced.pace_survives (h.doStep duration)
  get name := Paced.pace_survives (h.get name)

theorem Shows.paced {D : α → Prop} {Q : σ → Prop} {V : String → α → Prop} (h : u.Shows D Q V) :
    u.paced.Shows D (fun s => Q s.inner) V where
  doStep duration hd := Paced.pace_spec (h.doStep duration hd)
  get name := Paced.pace_spec (h.get name)

end EmulationUnit

/-! ## Models -/

namespace Model

variable {m : Model α σ}

theorem writeInputs_survives (h : m.unit.Survives) (inputs : SignalMap α)
    (signals : List (InputSignal α)) : (m.writeInputs inputs signals).Survives := by
  induction signals with
  | nil => exact fun _ => trivial
  | cons signal rest ih =>
    have set (name : String) (value : UnitValue α) :
        (lift (α := α) (m.unit.set name value)).Survives := (h.set name value).mapError _
    have hw : (m.writeInput inputs signal).Survives := by
      unfold writeInput
      cases inputs.get? signal.name with
      | some x => exact (set _ _).bind fun _ => set _ _
      | none => exact set _ _
    exact hw.bind fun _ => ih

variable [Scalar α]

theorem readOutputs_survives (h : m.unit.Survives) (signals : List OutputSignal)
    (read : SignalMap α) : (m.readOutputs read signals).Survives := by
  induction signals generalizing read with
  | nil => exact fun _ => trivial
  | cons signal rest ih =>
    refine Call.Survives.bind ((h.get signal.name).mapError _) fun x => ?_
    cases Scalar.isFinite x with
    | true => exact ih _
    | false => exact fun _ => trivial

theorem exchange_survives (h : m.unit.Survives) (inputs : SignalMap α) (duration : α) :
    (m.exchange inputs duration).Survives :=
  (writeInputs_survives h inputs m.registry.inputs).bind fun _ =>
    ((h.doStep duration).mapError _).bind fun _ => readOutputs_survives h m.registry.outputs .empty

theorem warmUp_survives (h : m.unit.Survives) (start warmupEnd : α) :
    (m.warmUp start warmupEnd).Survives :=
  Call.Survives.bind ((h.restart start warmupEnd).mapError _) fun _ =>
    readOutputs_survives h m.registry.outputs .empty

section

variable {D : α → Prop} {Q : σ → Prop} {V : String → α → Prop}

theorem readOutputs_shows (h : m.unit.Shows D Q V) (signals : List OutputSignal)
    {read : SignalMap α} (hread : ∀ name x, read.get? name = some x → V name x) :
    Call.Spec Q (m.readOutputs read signals)
      (fun _ outputs => ∀ name x, outputs.get? name = some x → V name x) fun _ _ => True := by
  induction signals generalizing read with
  | nil => exact .pure fun _ _ => hread
  | cons signal rest ih =>
    refine Call.Spec.bind (.mapError (h.get signal.name)) fun x => ?_
    cases Scalar.isFinite x with
    | false => exact .fail fun _ _ => trivial
    | true =>
      intro s hs
      refine ih (fun name y hy => ?_) s hs.1
      rw [SignalMap.get?_insert] at hy
      split at hy
      · next same =>
        cases hy
        rw [same]
        exact hs.2
      · exact hread name y hy

/-- What readings after a step show is shown by the outputs of an exchange, whatever its inputs and
wherever it begins. -/
theorem exchange_shows (h : m.unit.Shows D Q V) {duration : α} (hd : D duration)
    (inputs : SignalMap α) :
    Call.Spec (fun _ => True) (m.exchange inputs duration)
      (fun _ outputs => ∀ name x, outputs.get? name = some x → V name x) fun _ _ => True :=
  (Call.Spec.trivial _).bind fun _ =>
    (Call.Spec.mapError (h.doStep duration hd)).bind fun _ =>
      readOutputs_shows h m.registry.outputs fun _ _ none => nomatch none

end

end Model

end BuildingEmulation
