import BuildingEmulation.Proofs.Engine.Standing
import BuildingEmulation.Session.Basic

/-!
# Many callers at one gate

Clients call at the same time, and read at any time. Two locks keep them apart. The gate is held by
a call from its entrance to its end, through the whole of its model call. The committed state is
locked only for as long as it is looked at or written: it is free while the model works, and
readers look at it then. What stands in it while somebody writes to it is left open altogether.

The tasks that calls send to the model are those of `Engine`, and they are moved by its steps; its
own turn is not used, since every caller has a place of its own.

* `issue`: a call is made; its caller gets the next number.
* `enter`: it passes the gate.
* `send`: it looks at the committed state and sends a task to the model.
* `task`: some task moves on.
* `learn`: a caller hears how its task has ended, or stops waiting for it.
* `hold`: a caller gets the committed state to write to, and finds it as it stands.
* `write`: it writes something.
* `settle`: the answer is known. What was written is complete, and the committed state is let go; or
  there is nothing to write, because the call is refused or its failure changes nothing.
* `leave`: the caller opens the gate and takes the answer away.
* `read`: somebody reads.
-/
namespace BuildingEmulation

variable {α σ : Type}

/-! ## Reading -/

/-- A question about the committed state. -/
inductive Query (α : Type)
  | status
  | step
  | kpis
  | kpiRecords
  | measurements
  | results (range : TimeRange α)
  | series (signal : String) (range : TimeRange α)

namespace Query

def Answer : Query α → Type
  | status => SessionStatus α
  | step => α
  | kpis => List (String × α)
  | kpiRecords => List (KpiRecord α)
  | measurements => SignalMap α
  | results _ => List (ResultRow α)
  | series _ _ => Except (SessionError α) (TimeSeries α)

/-- The answer of a session. -/
def ask [Scalar α] (s : Session α σ) : (q : Query α) → q.Answer
  | status => s.status
  | step => s.getStep
  | kpis => s.kpis
  | kpiRecords => s.kpiRecords
  | measurements => s.measurements
  | results range => s.results range
  | series signal range => s.series signal range

end Query

/-! ## Callers -/

/-- Where a caller stands. -/
inductive Station (α : Type)
  /-- In front of the gate. -/
  | outside
  | entered
  /-- It waits for the task with this number. -/
  | awaiting (i : Nat)
  | learned (i : Nat) (told : Told α)
  /-- It knows its answer, and has not left the gate. -/
  | settled (reply : Reply α)
  | gone (reply : Reply α)

/-- The caller is behind the gate. -/
def Station.inside : Station α → Bool
  | outside | gone _ => false
  | _ => true

structure Caller (α : Type) where
  request : Request α
  station : Station α

/-- The caller has something to write: what it was told, or a new step. -/
def Caller.Writes (c : Caller α) : Prop :=
  (∃ i told, c.station = .learned i told) ∨ ∃ step, c.request = .setStep step ∧ c.station = .entered

/-- A session, its tasks and its callers. -/
structure Crowd (α σ : Type) where
  engine : Engine α σ
  /-- The caller who has passed the gate. -/
  gate : Option Nat
  /-- The caller who has locked the committed state, with what it found there. -/
  writer : Option (Nat × Standing α)
  callers : List (Caller α)

inductive CrowdEvent (α : Type)
  | issue (request : Request α)
  | enter (k : Nat)
  | send (k : Nat) (job : Job α)
  | task (move : Move α)
  | learn (k : Nat)
  | hold (k : Nat)
  | write
  | settle (x : Settlement α)
  | leave (k : Nat)
  | read (q : Query α) (answer : q.Answer)

/-- The move of a task that has been sent off. -/
def Move.ofTask : Move α → Bool
  | lock _ | look _ | work _ => true
  | _ => false

/-- The caller of a task learns what has become of it. -/
def Move.ofCaller : Move α → Bool
  | hear | expire => true
  | _ => false

namespace Engine

def standing (e : Engine α σ) : Standing α := ⟨e.committed, e.begun⟩

/-- The session with a task sent off. -/
def post (e : Engine α σ) (job : Job α) : Engine α σ :=
  { e with tasks := e.tasks ++ [.fresh job] }

/-- The session with another committed state. -/
def stand (e : Engine α σ) (s : Standing α) : Engine α σ :=
  { e with committed := s.committed, begun := s.begun }

/-- The session as its readers see it. -/
def view (e : Engine α σ) : Session α σ where
  scenario := e.scenario
  model := e.model
  worker := .idle e.unit
  committed := e.committed
  begun := e.begun
  metrics := none

end Engine

namespace Crowd

def registry (c : Crowd α σ) : Registry α := c.engine.model.registry

/-- What stands between the calls: while somebody writes, what was found before. -/
def standing (c : Crowd α σ) : Standing α :=
  match c.writer with
  | some (_, s) => s
  | none => c.engine.standing

def setCaller (c : Crowd α σ) (k : Nat) (caller : Caller α) : Crowd α σ :=
  { c with callers := c.callers.set k caller }

variable [Scalar α]

inductive Step (c : Crowd α σ) : CrowdEvent α → Crowd α σ → Prop
  | issue (request : Request α) :
      Step c (.issue request) { c with callers := c.callers ++ [⟨request, .outside⟩] }
  | enter {k request} (caller : c.callers[k]? = some ⟨request, .outside⟩) (gate : c.gate = none) :
      Step c (.enter k) ({ c with gate := some k }.setCaller k ⟨request, .entered⟩)
  | send {k request job} (caller : c.callers[k]? = some ⟨request, .entered⟩)
      (unlocked : c.writer = none)
      (intent : request.intent c.registry c.engine.committed = .send job) :
      Step c (.send k job)
        ({ c with engine := c.engine.post job }.setCaller k
          ⟨request, .awaiting c.engine.tasks.length⟩)
  | task {move e} (task : move.ofTask = true) (step : c.engine.Step move e) :
      Step c (.task move) { c with engine := e }
  | learn {k request i move e told} (caller : c.callers[k]? = some ⟨request, .awaiting i⟩)
      (learns : move.ofCaller = true)
      (step : { c.engine with turn := .awaiting i }.Step move e) (turn : e.turn = .learned i told) :
      Step c (.learn k)
        ({ c with engine := { e with turn := .free } }.setCaller k ⟨request, .learned i told⟩)
  | hold {k u} (caller : c.callers[k]? = some u) (writes : u.Writes)
      (unlocked : c.writer = none) :
      Step c (.hold k) { c with writer := some (k, c.engine.standing) }
  | write {w} (writer : c.writer = some w) (s : Standing α) :
      Step c .write { c with engine := c.engine.stand s }
  | refuse {k request reply} (caller : c.callers[k]? = some ⟨request, .entered⟩)
      (unlocked : c.writer = none)
      (intent : request.intent c.registry c.engine.committed = .refuse reply) :
      Step c (.settle ⟨k, request, none, reply⟩) (c.setCaller k ⟨request, .settled reply⟩)
  | pass {k request i t plan latency failure}
      (caller : c.callers[k]? = some ⟨request, .learned i (.error failure)⟩)
      (unlocked : c.writer = none) (task : c.engine.tasks[i]? = some t)
      (advance : t.job = .advance plan latency) (outside : failure.inFlight = false) :
      Step c (.settle ⟨k, request, some (.error failure), .advance (.error (.modelStep failure.error))⟩)
        (c.setCaller k ⟨request, .settled (.advance (.error (.modelStep failure.error)))⟩)
  | conclude {k request i t told s} (caller : c.callers[k]? = some ⟨request, .learned i told⟩)
      (writer : c.writer = some (k, s)) (task : c.engine.tasks[i]? = some t) :
      Step c (.settle ⟨k, request, some told, (s.conclude t.job told).2⟩)
        ({ c with engine := c.engine.stand (s.conclude t.job told).1, writer := none }.setCaller k
          ⟨request, .settled (s.conclude t.job told).2⟩)
  | set {k step s} (caller : c.callers[k]? = some ⟨.setStep step, .entered⟩)
      (writer : c.writer = some (k, s)) :
      Step c (.settle ⟨k, .setStep step, none, (s.set step).2⟩)
        ({ c with engine := c.engine.stand (s.set step).1, writer := none }.setCaller k
          ⟨.setStep step, .settled (s.set step).2⟩)
  | leave {k request reply} (caller : c.callers[k]? = some ⟨request, .settled reply⟩) :
      Step c (.leave k) ({ c with gate := none }.setCaller k ⟨request, .gone reply⟩)
  | read (unlocked : c.writer = none) (q : Query α) : Step c (.read q (q.ask c.engine.view)) c

/-- A session that has just been opened, and nobody has called. -/
def ofSession (s : Session α σ) : Crowd α σ where
  engine := .ofSession s
  gate := none
  writer := none
  callers := []

/-- The runs of the sessions over a unit with any number of callers. -/
def lts (scenario : Scenario α) (specs : List (KpiSpec α)) (unit : EmulationUnit α σ) :
    LTS (Crowd α σ) (CrowdEvent α) where
  init c := ∃ s, Session.Opened scenario specs unit s ∧ c = ofSession s
  step := Step

end Crowd

end BuildingEmulation
