import BuildingEmulation.Model.Exchange
import BuildingEmulation.Model.Paced
import BuildingEmulation.Zone.Unit

/-!
# Calls from two states

`Call.Mirrors P c R F`: from two states in `P` the call `c` comes to the same, as long as it is not
held up from either. It returns the same answer and leaves states in `R`, or it does not and leaves
states in `F`, with the same error if there is one.

Every call comes to the same from the same state, so what two sessions over a unit have to agree
upon is where a restart leaves it. A unit is `Forgetful` if that depends on the arguments of the
restart alone.

Results:
* `Model.exchange_mirrors`, `Model.warmUp_mirrors`: what the calls of a unit do not tell apart, an
  exchange does not either, and a warm-up ends in it wherever it began.
* `Forgetful.mirrors`, `Mirrors.paced`: units that forget, and the same units held up now and then.
* `Zone.unit_forgetful`: the zone is one.
-/
namespace BuildingEmulation

variable {α σ ε ε' β γ : Type}

/-! ## Progress and calls -/

/-- Both came to the same, or one of them is held up. -/
def Progress.Mirrors (R F : σ → σ → Prop) : Progress σ ε β → Progress σ ε β → Prop
  | .returned s b, .returned s' b' => R s s' ∧ b' = b
  | .failed s e, .failed s' e' => F s s' ∧ e' = e
  | .aborted s, .aborted s' => F s s'
  | .blocked _ _, _ => True
  | _, .blocked _ _ => True
  | _, _ => False

namespace Progress.Mirrors

variable {R R' F F' : σ → σ → Prop} {p p' : Progress σ ε β}

theorem refl (hR : ∀ s, R s s) (hF : ∀ s, F s s) (p : Progress σ ε β) : p.Mirrors R F p := by
  cases p with
  | returned s b => exact ⟨hR s, rfl⟩
  | failed s e => exact ⟨hF s, rfl⟩
  | aborted s => exact hF s
  | blocked s resume => trivial

theorem mono (h : p.Mirrors R F p') (hR : ∀ s s', R s s' → R' s s')
    (hF : ∀ s s', F s s' → F' s s') : p.Mirrors R' F' p' := by
  cases p <;> cases p' <;>
    first
      | exact ⟨hR _ _ h.1, h.2⟩
      | exact ⟨hF _ _ h.1, h.2⟩
      | exact hF _ _ h
      | exact h

theorem andThen (h : p.Mirrors R F p') {next : β → Call σ ε γ}
    (hn : ∀ s s' b, R s s' → (next b s).Mirrors R' F (next b s')) :
    (p.andThen next).Mirrors R' F (p'.andThen next) := by
  cases p with
  | returned s b =>
    cases p' with
    | returned s' b' => obtain ⟨hs, rfl⟩ := h; exact hn s s' b' hs
    | blocked s' resume => cases hp : next b s <;> simp only [Progress.andThen, hp, Mirrors]
    | failed | aborted => cases h
  | failed s e => cases p' <;> first | exact h | cases h
  | aborted s => cases p' <;> first | exact h | cases h
  | blocked s resume => trivial

theorem mapError (h : p.Mirrors R F p') (f : ε → ε') :
    (p.mapError f).Mirrors R F (p'.mapError f) := by
  cases p <;> cases p' <;>
    first
      | exact ⟨h.1, congrArg f h.2⟩
      | exact h

end Progress.Mirrors

namespace Call

/-- From two states in `P` the call comes to the same, unless it is held up from one of them. -/
def Mirrors (P : σ → σ → Prop) (c : Call σ ε β) (R F : σ → σ → Prop) : Prop :=
  ∀ s s', P s s' → (c s).Mirrors R F (c s')

variable {P R R' F F' : σ → σ → Prop}

theorem Mirrors.pure (b : β) : Mirrors R (pure b : Call σ ε β) R F := fun _ _ h => ⟨h, rfl⟩

theorem Mirrors.fail (e : ε) (hF : ∀ s s', P s s' → F s s') :
    Mirrors P (fail e : Call σ ε β) R F := fun s s' h => ⟨hF s s' h, rfl⟩

theorem Mirrors.bind {c : Call σ ε β} {next : β → Call σ ε γ} (h : Mirrors P c R F)
    (hn : ∀ b, Mirrors R (next b) R' F) : Mirrors P (c >>= next) R' F :=
  fun s s' hs => (h s s' hs).andThen fun s s' b hb => hn b s s' hb

theorem Mirrors.mapError {c : Call σ ε β} (h : Mirrors P c R F) (f : ε → ε') :
    Mirrors P (c.mapError f) R F := fun s s' hs => (h s s' hs).mapError f

theorem Mirrors.mono {c : Call σ ε β} (h : Mirrors P c R F) (hF : ∀ s s', F s s' → F' s s') :
    Mirrors P c R F' := fun s s' hs => (h s s' hs).mono (fun _ _ h => h) hF

end Call

/-! ## Units -/

/-- The unit does not tell apart states in `R`, and starts over into such states. -/
structure EmulationUnit.Mirrors (u : EmulationUnit α σ) (R : σ → σ → Prop) : Prop where
  restart : ∀ start warmupEnd,
    Call.Mirrors (fun _ _ => True) (u.restart start warmupEnd) R fun _ _ => True
  set : ∀ name value, Call.Mirrors R (u.set name value) R R
  doStep : ∀ duration, Call.Mirrors R (u.doStep duration) R R
  get : ∀ name, Call.Mirrors R (u.get name) R R

/-- What a restart comes to depends on its arguments alone: whether it returns, fails or aborts, with
which error, and which state it leaves if it returns. -/
def EmulationUnit.Forgetful (u : EmulationUnit α σ) : Prop :=
  ∀ start warmupEnd, Call.Mirrors (fun _ _ => True) (u.restart start warmupEnd)
    (fun s s' => s = s') fun _ _ => True

/-- A unit that forgets what was before a restart is in the same state after it. -/
theorem EmulationUnit.Forgetful.mirrors {u : EmulationUnit α σ} (h : u.Forgetful) :
    u.Mirrors fun s s' => s = s' where
  restart := h
  set _ _ := by rintro s _ rfl; exact .refl (fun _ => rfl) (fun _ => rfl) _
  doStep _ := by rintro s _ rfl; exact .refl (fun _ => rfl) (fun _ => rfl) _
  get _ := by rintro s _ rfl; exact .refl (fun _ => rfl) (fun _ => rfl) _

namespace Paced

variable {P R F : σ → σ → Prop}

theorem within_mirrors {p p' : Progress σ ε β} (h : p.Mirrors R F p') (delays delays' : Nat → Nat) :
    (within delays p).Mirrors (fun s s' => R s.inner s'.inner) (fun s s' => F s.inner s'.inner)
      (within delays' p') := by
  cases p <;> cases p' <;> exact h

/-- A call that is held up behaves otherwise as it is. -/
theorem pace_mirrors {c : Call σ ε β} (h : Call.Mirrors P c R F) :
    Call.Mirrors (fun s s' => P s.inner s'.inner) (pace c) (fun s s' => R s.inner s'.inner)
      fun s s' => F s.inner s'.inner := by
  intro s s' hs
  unfold pace
  cases s.delays 0 with
  | succ n => trivial
  | zero =>
    cases s'.delays 0 with
    | zero => exact within_mirrors (h _ _ hs) _ _
    | succ n =>
      simp only [hold]
      cases within (fun k => s.delays (k + 1)) (c s.inner) <;> trivial

end Paced

theorem EmulationUnit.Mirrors.paced {u : EmulationUnit α σ} {R : σ → σ → Prop} (h : u.Mirrors R) :
    u.paced.Mirrors fun s s' => R s.inner s'.inner where
  restart start warmupEnd := Paced.pace_mirrors (h.restart start warmupEnd)
  set name value := Paced.pace_mirrors (h.set name value)
  doStep duration := Paced.pace_mirrors (h.doStep duration)
  get name := Paced.pace_mirrors (h.get name)

/-- Where the zone starts over from is in the arguments of the restart and in its parameters. -/
theorem Zone.unit_forgetful [Scalar α] [Decimal.Numeral α] (z : Zone α) : z.unit.Forgetful := by
  intro start warmupEnd
  refine Call.Mirrors.mapError (fun s s' _ => ?_) _
  unfold Zone.warmUp
  split
  · exact ⟨trivial, rfl⟩
  · exact .refl (fun _ => rfl) (fun _ => trivial) _

/-! ## Models -/

namespace Model

variable {m : Model α σ} {R F : σ → σ → Prop}

theorem writeInputs_mirrors (h : m.unit.Mirrors R) (inputs : SignalMap α)
    (signals : List (InputSignal α)) : Call.Mirrors R (m.writeInputs inputs signals) R R := by
  induction signals with
  | nil => exact .pure ()
  | cons signal rest ih =>
    have set (name : String) (value : UnitValue α) :
        Call.Mirrors R (lift (α := α) (m.unit.set name value)) R R := (h.set name value).mapError _
    have hw : Call.Mirrors R (m.writeInput inputs signal) R R := by
      unfold writeInput
      cases inputs.get? signal.name with
      | some x => exact (set _ _).bind fun _ => set _ _
      | none => exact set _ _
    exact hw.bind fun _ => ih

variable [Scalar α]

theorem readOutputs_mirrors (get : ∀ name, Call.Mirrors R (m.unit.get name) R R)
    (signals : List OutputSignal) (read : SignalMap α) :
    Call.Mirrors R (m.readOutputs read signals) R R := by
  induction signals generalizing read with
  | nil => exact .pure read
  | cons signal rest ih =>
    refine ((get signal.name).mapError _).bind fun x => ?_
    cases Scalar.isFinite x with
    | true => exact ih _
    | false => exact .fail _ fun _ _ hs => hs

theorem getOutputs_mirrors (get : ∀ name, Call.Mirrors R (m.unit.get name) R R) :
    Call.Mirrors R m.getOutputs R R :=
  readOutputs_mirrors get m.registry.outputs .empty

theorem exchange_mirrors (h : m.unit.Mirrors R) (inputs : SignalMap α) (duration : α) :
    Call.Mirrors R (m.exchange inputs duration) R R :=
  (writeInputs_mirrors h inputs m.registry.inputs).bind fun _ =>
    ((h.doStep duration).mapError _).bind fun _ => getOutputs_mirrors h.get

theorem warmUp_mirrors (h : m.unit.Mirrors R) (start warmupEnd : α) :
    Call.Mirrors (fun _ _ => True) (m.warmUp start warmupEnd) R fun _ _ => True :=
  ((h.restart start warmupEnd).mapError _).bind fun _ =>
    (getOutputs_mirrors h.get).mono fun _ _ _ => trivial

end Model

end BuildingEmulation
