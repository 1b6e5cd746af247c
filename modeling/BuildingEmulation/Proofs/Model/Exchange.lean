import BuildingEmulation.Model.Exchange

/-!
# What an exchange relies on

`Call.Spec P c R F`: from a state that satisfies `P` the call `c` comes back with an answer and a
state that satisfy `R`, or with an error and a state that satisfy `F`, or it does not come back.
A unit promises nothing, so what is known of an exchange is what it keeps of what the unit's own
calls keep.

Results:
* `Model.exchange_spec`: an exchange writes in `P`, steps from `P` to `Q` and reads in `Q`; its
  outputs are those of the registry, every one.
* `Model.warmUp_spec`: a restart leads to `Q`, and the outputs are read there.
* `Model.exchange_answered`, `Model.warmUp_answered`: an error that they come back with is the unit's or
  that of an output; only the worker makes a timeout or loses a call.
* `Model.exchange_measures`, `Model.warmUp_measures`: the outputs that they come back with are those
  of the registry and no others, and all of them are finite.
-/
namespace BuildingEmulation

/-! ## Specifications of calls -/

section

variable {σ ε ε' β γ : Type}

/-- The call came back with an answer in `R`, or with an error in `F`, or not at all. -/
def Progress.Ends (R : σ → β → Prop) (F : σ → ε → Prop) : Progress σ ε β → Prop
  | .returned s b => R s b
  | .failed s e => F s e
  | .aborted _ => True
  | .blocked _ _ => True

theorem Progress.Ends.andThen {p : Progress σ ε β} {next : β → Call σ ε γ} {R : σ → β → Prop}
    {R' : σ → γ → Prop} {F : σ → ε → Prop} (h : p.Ends R F)
    (hn : ∀ s b, R s b → (next b s).Ends R' F) : (p.andThen next).Ends R' F := by
  cases p with
  | returned s b => exact hn s b h
  | failed s e => exact h
  | aborted s => trivial
  | blocked s resume => trivial

namespace Call

/-- What a call that comes back leads to, from a state in `P`. -/
def Spec (P : σ → Prop) (c : Call σ ε β) (R : σ → β → Prop) (F : σ → ε → Prop) : Prop :=
  ∀ s, P s → (c s).Ends R F

variable {P : σ → Prop} {R : σ → β → Prop} {F : σ → ε → Prop}

theorem Spec.pure {b : β} (h : ∀ s, P s → R s b) : Spec P (pure b : Call σ ε β) R F := h

theorem Spec.bind {c : Call σ ε β} {next : β → Call σ ε γ} {R' : σ → γ → Prop}
    (h : Spec P c R F) (hn : ∀ b, Spec (R · b) (next b) R' F) : Spec P (c >>= next) R' F :=
  fun s hs => (h s hs).andThen fun s b hb => hn b s hb

theorem Spec.fail {e : ε} (h : ∀ s, P s → F s e) : Spec P (fail e : Call σ ε β) R F := h

theorem Spec.mapError {c : Call σ ε β} {f : ε → ε'} {F : σ → ε' → Prop}
    (h : Spec P c R fun s e => F s (f e)) : Spec P (c.mapError f) R F := by
  intro s hs
  have hc := h s hs
  unfold Call.mapError
  cases hp : c s <;> rw [hp] at hc <;> exact hc

theorem Spec.mono {c : Call σ ε β} {R' : σ → β → Prop} {F' : σ → ε → Prop} (h : Spec P c R F)
    (hR : ∀ s b, R s b → R' s b) (hF : ∀ s e, F s e → F' s e) : Spec P c R' F' := by
  intro s hs
  have hc := h s hs
  cases hp : c s <;> rw [hp] at hc
  · exact hR _ _ hc
  · exact hF _ _ hc
  · trivial
  · trivial

/-- Of a unit that promises nothing, nothing is known. -/
theorem Spec.trivial (c : Call σ ε β) : Spec P c (fun _ _ => True) fun _ _ => True := by
  intro s _
  cases hp : c s <;> exact True.intro

end Call

end

/-! ## Exchanges -/

namespace Model

variable {α σ : Type} {m : Model α σ} {P Q : σ → Prop} {F : σ → ModelError α → Prop}

/-- What every write keeps is kept by writing all inputs. -/
theorem writeInputs_spec
    (set : ∀ name value, Call.Spec P (lift (α := α) (m.unit.set name value)) (fun s _ => P s) F)
    (inputs : SignalMap α) (signals : List (InputSignal α)) :
    Call.Spec P (m.writeInputs inputs signals) (fun s _ => P s) F := by
  induction signals with
  | nil => exact .pure fun _ h => h
  | cons signal rest ih =>
    have hw : Call.Spec P (m.writeInput inputs signal) (fun s _ => P s) F := by
      unfold writeInput
      cases inputs.get? signal.name with
      | some x => exact (set _ _).bind fun _ => set _ _
      | none => exact set _ _
    exact hw.bind fun _ => ih

variable [Scalar α]

/-- The map has a value for every output of a list. -/
def Observes (outputs : SignalMap α) (signals : List OutputSignal) : Prop :=
  ∀ s ∈ signals, (outputs.get? s.name).isSome

/-- What every read keeps is kept by reading outputs one by one, and none is left out. -/
theorem readOutputs_spec
    (get : ∀ name, Call.Spec Q (lift (α := α) (m.unit.get name)) (fun s _ => Q s) F)
    (notFinite : ∀ s name x, Q s → F s (.outputNotFinite name x)) {done : List OutputSignal}
    (signals : List OutputSignal) {read : SignalMap α} (hd : Observes read done) :
    Call.Spec Q (m.readOutputs read signals)
      (fun s outputs => Q s ∧ Observes outputs (done ++ signals)) F := by
  induction signals generalizing read done with
  | nil => exact .pure fun _ h => ⟨h, by rwa [List.append_nil]⟩
  | cons signal rest ih =>
    refine (get signal.name).bind fun x => ?_
    cases Scalar.isFinite x with
    | false => exact .fail fun s h => notFinite s signal.name x h
    | true =>
      have hr : Observes (read.insert signal.name x) (done ++ [signal]) := by
        intro s hs
        rw [SignalMap.get?_insert]
        split
        · rfl
        · next hne =>
          rcases List.mem_append.1 hs with hs | hs
          · exact hd s hs
          · exact absurd (congrArg OutputSignal.name (List.mem_singleton.1 hs)) hne
      have h := ih hr
      rwa [List.append_assoc, List.singleton_append] at h

theorem getOutputs_spec
    (get : ∀ name, Call.Spec Q (lift (α := α) (m.unit.get name)) (fun s _ => Q s) F)
    (notFinite : ∀ s name x, Q s → F s (.outputNotFinite name x)) :
    Call.Spec Q m.getOutputs (fun s outputs => Q s ∧ Observes outputs m.registry.outputs) F := by
  have none : Observes (.empty : SignalMap α) [] := fun _ h => nomatch h
  exact readOutputs_spec get notFinite m.registry.outputs none

theorem exchange_spec {duration : α}
    (set : ∀ name value, Call.Spec P (lift (α := α) (m.unit.set name value)) (fun s _ => P s) F)
    (step : Call.Spec P (m.doStep duration) (fun s _ => Q s) F)
    (get : ∀ name, Call.Spec Q (lift (α := α) (m.unit.get name)) (fun s _ => Q s) F)
    (notFinite : ∀ s name x, Q s → F s (.outputNotFinite name x)) (inputs : SignalMap α) :
    Call.Spec P (m.exchange inputs duration)
      (fun s outputs => Q s ∧ Observes outputs m.registry.outputs) F :=
  (writeInputs_spec set inputs m.registry.inputs).bind fun _ =>
    step.bind fun _ => getOutputs_spec get notFinite

theorem warmUp_spec {start warmupEnd : α}
    (restart : Call.Spec P (m.restart start warmupEnd) (fun s _ => Q s) F)
    (get : ∀ name, Call.Spec Q (lift (α := α) (m.unit.get name)) (fun s _ => Q s) F)
    (notFinite : ∀ s name x, Q s → F s (.outputNotFinite name x)) :
    Call.Spec P (m.warmUp start warmupEnd)
      (fun s outputs => Q s ∧ Observes outputs m.registry.outputs) F :=
  restart.bind fun _ => getOutputs_spec get notFinite

end Model

/-! ## Errors that a call comes back with -/

/-- The call came back with the error, and the worker had no part in it. -/
def ModelError.answered {α : Type} : ModelError α → Bool
  | .unit _ | .outputNotFinite _ _ => true
  | .timeout _ | .worker => false

namespace Model

variable {α σ : Type} {m : Model α σ}

theorem lift_answered {β : Type} (c : Call σ UnitError β) :
    Call.Spec (fun _ => True) (lift (α := α) c) (fun _ _ => True) fun _ e => e.answered = true :=
  .mapError ((Call.Spec.trivial c).mono (fun _ _ _ => trivial) fun _ _ _ => rfl)

variable [Scalar α]

theorem exchange_answered (m : Model α σ) (inputs : SignalMap α) (duration : α) :
    Call.Spec (fun _ => True) (m.exchange inputs duration)
      (fun _ outputs => Observes outputs m.registry.outputs) fun _ e => e.answered = true :=
  (exchange_spec (Q := fun _ => True) (fun _ _ => lift_answered _) (lift_answered _)
    (fun _ => lift_answered _) (fun _ _ _ _ => rfl) inputs).mono
    (fun _ _ h => h.2) fun _ _ h => h

theorem warmUp_answered (m : Model α σ) (start warmupEnd : α) :
    Call.Spec (fun _ => True) (m.warmUp start warmupEnd)
      (fun _ outputs => Observes outputs m.registry.outputs) fun _ e => e.answered = true :=
  (warmUp_spec (Q := fun _ => True) (lift_answered _) (fun _ => lift_answered _)
    fun _ _ _ _ => rfl).mono (fun _ _ h => h.2) fun _ _ h => h

/-! ## Outputs that a call comes back with -/

/-- The map has finite values, for the outputs of a list and for nothing else. -/
structure Measures (outputs : SignalMap α) (signals : List OutputSignal) : Prop where
  names : ∀ name, (outputs.get? name).isSome ↔ name ∈ signals.map (·.name)
  finite : ∀ name x, outputs.get? name = some x → Scalar.isFinite x = true

theorem Measures.insert {outputs : SignalMap α} {signals : List OutputSignal}
    (h : Measures outputs signals) (signal : OutputSignal) {x : α}
    (hx : Scalar.isFinite x = true) :
    Measures (outputs.insert signal.name x) (signals ++ [signal]) where
  names name := by
    rw [SignalMap.get?_insert, List.map_append, List.mem_append, List.map_singleton,
      List.mem_singleton]
    split
    · next he => exact ⟨fun _ => .inr he, fun _ => rfl⟩
    · next hne => rw [h.names name]; exact ⟨.inl, fun hm => hm.resolve_right hne⟩
  finite name y hy := by
    rw [SignalMap.get?_insert] at hy
    split at hy
    · cases hy; exact hx
    · exact h.finite name y hy

theorem readOutputs_measures (m : Model α σ) {read : SignalMap α} {done : List OutputSignal}
    (signals : List OutputSignal) (h : Measures read done) :
    Call.Spec (fun _ => True) (m.readOutputs read signals)
      (fun _ outputs => Measures outputs (done ++ signals)) fun _ _ => True := by
  induction signals generalizing read done with
  | nil => exact .pure fun _ _ => by rwa [List.append_nil]
  | cons signal rest ih =>
    refine (Call.Spec.trivial _).bind fun x => ?_
    cases hx : Scalar.isFinite x with
    | false => exact .fail fun _ _ => trivial
    | true =>
      have := ih (h.insert signal hx)
      rwa [List.append_assoc, List.singleton_append] at this

theorem getOutputs_measures (m : Model α σ) :
    Call.Spec (fun _ => True) m.getOutputs
      (fun _ outputs => Measures outputs m.registry.outputs) fun _ _ => True := by
  have none : Measures (.empty : SignalMap α) [] := ⟨fun _ => by simp [SignalMap.get?_empty],
    fun _ _ h => nomatch h⟩
  exact readOutputs_measures m m.registry.outputs none

theorem exchange_measures (m : Model α σ) (inputs : SignalMap α) (duration : α) :
    Call.Spec (fun _ => True) (m.exchange inputs duration)
      (fun _ outputs => Measures outputs m.registry.outputs) fun _ _ => True :=
  (Call.Spec.trivial _).bind fun _ => (Call.Spec.trivial _).bind fun _ => getOutputs_measures m

theorem warmUp_measures (m : Model α σ) (start warmupEnd : α) :
    Call.Spec (fun _ => True) (m.warmUp start warmupEnd)
      (fun _ outputs => Measures outputs m.registry.outputs) fun _ _ => True :=
  (Call.Spec.trivial _).bind fun _ => getOutputs_measures m

end Model

end BuildingEmulation
