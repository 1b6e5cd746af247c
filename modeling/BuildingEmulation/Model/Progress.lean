/-!
# Calls that may not come back

A call on a unit returns, fails, aborts, or blocks. A blocked call is kept as the rest of what it
will do: whoever lets it go on hands it the state the unit has by then.

Results:
* `andThen_returned`: a call followed by nothing is the call.
* `andThen_andThen`: and so calls form a monad.
-/
namespace BuildingEmulation

/-- How far a call has come: what it did to the state, and how it ended if it did. -/
inductive Progress (σ ε β : Type)
  | returned (state : σ) (value : β)
  | failed (state : σ) (error : ε)
  /-- The call ended without an answer. -/
  | aborted (state : σ)
  /-- The call waits inside the unit, and goes on from the state it then finds. -/
  | blocked (state : σ) (resume : σ → Progress σ ε β)

/-- A call: it finds a state and makes progress from there. -/
def Call (σ ε β : Type) : Type := σ → Progress σ ε β

namespace Progress

variable {σ τ ε ε' β γ : Type}

/-- The state a call has left behind so far. -/
def state : Progress σ ε β → σ
  | returned s _ => s
  | failed s _ => s
  | aborted s => s
  | blocked s _ => s

/-- The first call, and then one that depends on its value. -/
def andThen (p : Progress σ ε β) (next : β → Call σ ε γ) : Progress σ ε γ :=
  match p with
  | returned s b => next b s
  | failed s e => failed s e
  | aborted s => aborted s
  | blocked s resume => blocked s fun s => (resume s).andThen next

/-- The same progress with the errors of another type. -/
def mapError (f : ε → ε') : Progress σ ε β → Progress σ ε' β
  | returned s b => returned s b
  | failed s e => failed s (f e)
  | aborted s => aborted s
  | blocked s resume => blocked s fun s => (resume s).mapError f

/-- The same progress with its value thrown away. -/
def discard : Progress σ ε β → Progress σ ε Unit
  | returned s _ => returned s ()
  | failed s e => failed s e
  | aborted s => aborted s
  | blocked s resume => blocked s fun s => (resume s).discard

theorem andThen_returned (p : Progress σ ε β) :
    p.andThen (fun b s => .returned s b) = p := by
  induction p with
  | blocked s resume ih => simp [andThen, ih]
  | _ => rfl

theorem andThen_andThen {δ : Type} (p : Progress σ ε β) (f : β → Call σ ε γ)
    (g : γ → Call σ ε δ) :
    (p.andThen f).andThen g = p.andThen fun b s => (f b s).andThen g := by
  induction p with
  | blocked s resume ih => simp [andThen, ih]
  | _ => rfl

/-- What has been thrown away once cannot be thrown away again. -/
theorem discard_discard (p : Progress σ ε β) : p.discard.discard = p.discard := by
  induction p with
  | blocked s resume ih => simp only [discard, ih]
  | _ => rfl

end Progress

namespace Call

variable {σ ε ε' β γ : Type}

instance : Monad (Call σ ε) where
  pure b := fun s => .returned s b
  bind c next := fun s => (c s).andThen next

/-- A call that fails and leaves the state as it is. -/
def fail (e : ε) : Call σ ε β := fun s => .failed s e

/-- A call that always ends: it computes an answer and a new state. -/
def ofState (f : σ → σ × Except ε β) : Call σ ε β := fun s =>
  match f s with
  | (s, .ok b) => .returned s b
  | (s, .error e) => .failed s e

/-- A call that only looks at the state. -/
def ofReading (f : σ → Except ε β) : Call σ ε β := ofState fun s => (s, f s)

def mapError (f : ε → ε') (c : Call σ ε β) : Call σ ε' β := fun s => (c s).mapError f

instance : LawfulMonad (Call σ ε) :=
  LawfulMonad.mk' (Call σ ε)
    (fun c => funext fun s => Progress.andThen_returned (c s))
    (fun _ _ => rfl)
    (fun c f g => funext fun s => Progress.andThen_andThen (c s) f g)

end Call

end BuildingEmulation
