import BuildingEmulation.Api.Encode
import BuildingEmulation.Document.Shape
import BuildingEmulation.Http.Request

/-!
# Service

A session behind requests. A path names a resource and the method what to do with it; the answer is
a status and, where the session itself has answered, a body.
-/
namespace BuildingEmulation.Api

open Document (Shape ShapeFault)
open Http (Request)

/-! ## Answers -/

structure Response (α : Type) where
  status : Nat
  body : Option (Document α) := none
  deriving Repr

namespace Response

variable {α : Type}

def ok (d : Document α) : Response α := { status := 200, body := some d }

def notFound : Response α := { status := 404 }

def methodNotAllowed : Response α := { status := 405 }

def badRequest : Response α := { status := 400 }

def payloadTooLarge : Response α := { status := 413 }

def unsupportedMediaType : Response α := { status := 415 }

/-- A JSON body that could not be used. -/
def ofShapeFault : ShapeFault → Response α
  | .malformed => badRequest
  | .mismatched => { status := 422 }

end Response

/-- The status for what a session refuses. Mirrors `ApiError`. -/
def errorStatus {α : Type} : SessionError α → Nat
  | .invalidInput _ _ | .invalidStep _ => 400
  | .notReady | .scenarioEnded => 409
  | .unknownSignal _ => 404
  | .modelStep _ | .reset _ | .commit _ => 500

/-- The answer that a session has given. -/
def ofAnswer {α β : Type} [Decimal.Numeral α] (encode : β → Document α) :
    Except (SessionError α) β → Response α
  | .ok b => .ok (encode b)
  | .error e => { status := errorStatus e, body := some (ofMessage e.message) }

/-! ## Resources -/

/-- What a path can name. -/
inductive Resource
  | advance
  | reset
  | step
  | inputs
  | measurements
  | results
  | series (segment : String)
  | kpi
  | name
  | status
  deriving Repr, DecidableEq

/-- The parts of a path between its slashes. -/
def segments (path : String) : List String := (path.toList.splitOn '/').map String.ofList

def Resource.ofPath? (path : String) : Option Resource :=
  match segments path with
  | ["", "advance"] => some .advance
  | ["", "reset"] => some .reset
  | ["", "step"] => some .step
  | ["", "inputs"] => some .inputs
  | ["", "measurements"] => some .measurements
  | ["", "results"] => some .results
  | ["", "results", segment] => if segment.isEmpty then none else some (.series segment)
  | ["", "kpi"] => some .kpi
  | ["", "name"] => some .name
  | ["", "status"] => some .status
  | _ => none

/-! ## What requests carry -/

variable {α : Type} [Scalar α] [Decimal.Numeral α]

/-- The shape of the inputs of an advance. -/
def inputsShape : Shape := .table .real

/-- The shape of a new step. -/
def stepShape : Shape := .record [("step", true, .real)]

/-- The shape of a reset, which may name a step. -/
def resetShape : Shape := .record [("step", false, .optional .real)]

/-- The body of a request, unless it is too large to be taken in. -/
def receive (q : Request) : Except (Response α) (List UInt8) :=
  if Http.Body.limit < q.body.bytes.length then .error .payloadTooLarge else .ok q.body.bytes

/-- The JSON value that a body starts with; what stands behind it does not count. -/
def jsonBody (shape : Shape) (q : Request) : Except (Response α) (Document α) :=
  if !q.saysJson then .error .unsupportedMediaType
  else match receive q with
    | .error r => .error r
    | .ok bytes =>
      match shape.readFirst bytes with
      | .error fault => .error (.ofShapeFault fault)
      | .ok (d, _) => .ok d

/-- The values of a table of reals, the last one for each name. -/
def signals (d : Document α) : SignalMap α :=
  match d with
  | .record fields =>
    .ofList (fields.filterMap fun (name, value) => value.real?.map (name, ·))
  | _ => .empty

/-- The bytes of ASCII blanks: tab, line feed, form feed, carriage return and space. -/
def isBlank (b : UInt8) : Bool := [9, 10, 12, 13, 32].contains b

/-- The step that a reset asks for. A body of blanks asks for none. -/
def resetStep (q : Request) : Except (Response α) (Option α) :=
  match receive q with
  | .error r => .error r
  | .ok bytes =>
    if bytes.all isBlank then .ok none
    else match resetShape.readJson bytes with
      | .ok d => .ok (d.field? "step" >>= Document.real?)
      | .error _ => .error { status := 400, body := some (ofMessage "invalid reset request") }

/-- A bound that a query gives, at most once. -/
def bound? (query : List (String × String)) (name : String) : Option (Option α) :=
  match query.filter (·.1 == name) with
  | [] => some none
  | [(_, text)] =>
    (Decimal.Literal.ofChars? text.toList).map fun x => some (Decimal.Numeral.ofLiteral x)
  | _ => none

/-- The window that a query asks for. -/
def window (q : Request) : Except (Response α) (TimeRange α) :=
  let query := Http.queryPairs q.query
  match bound? query "start", bound? query "end" with
  | some start, some stop => .ok { start, stop }
  | _, _ => .error .badRequest

/-! ## Answering -/

variable {σ : Type}

/-- Mirrors `post_advance`. -/
def postAdvance (latency : Nat) (s : Session α σ) (q : Request) : Session α σ × Response α :=
  match jsonBody inputsShape q with
  | .error r => (s, r)
  | .ok d =>
    let (s, answer) := s.advance latency (signals d)
    (s, ofAnswer ofAdvance answer)

/-- Mirrors `put_reset`. -/
def putReset (s : Session α σ) (q : Request) : Session α σ × Response α :=
  match resetStep q with
  | .error r => (s, r)
  | .ok step =>
    let (s, answer) := s.reset step
    (s, ofAnswer ofReset answer)

/-- Mirrors `put_step`. -/
def putStep (s : Session α σ) (q : Request) : Session α σ × Response α :=
  match jsonBody stepShape q with
  | .error r => (s, r)
  | .ok d =>
    match d.field? "step" >>= Document.real? with
    | none => (s, .badRequest)
    | some step =>
      let (s, answer) := s.setStep step
      (s, ofAnswer ofStep answer)

/-- Mirrors `get_results`. -/
def getResults (s : Session α σ) (q : Request) : Response α :=
  match window q with
  | .error r => r
  | .ok range => .ok (.list ((s.results range).map ofRow))

/-- The series of the signal that a segment of a path names. Mirrors `get_series`. -/
def getSeries (s : Session α σ) (segment : String) (q : Request) : Response α :=
  match Http.percentDecode? segment, window q with
  | none, _ => .badRequest
  | _, .error r => r
  | some signal, .ok range => ofAnswer ofSeries (s.series signal range)

/-- The answer to a request to look at a resource, if it can be looked at. -/
def get? (s : Session α σ) (q : Request) : Resource → Option (Response α)
  | .step => some (.ok (ofStep s.getStep))
  | .inputs => some (.ok (.list (s.inputs.map ofInput)))
  | .measurements => some (.ok (.list (s.outputs.map ofOutput)))
  | .results => some (getResults s q)
  | .series segment => some (getSeries s segment q)
  | .kpi => some (.ok (ofSnapshot s.kpis))
  | .name => some (.ok (.record [("name", .text s.scenario.name)]))
  | .status => some (.ok (ofStatus s.status))
  | .advance | .reset => none

/-- The answer to a request for a resource. Mirrors `router`. -/
def answer (latency : Nat) (s : Session α σ) (q : Request) (resource : Resource) :
    Session α σ × Response α :=
  match q.method, resource with
  | "POST", .advance => postAdvance latency s q
  | "PUT", .reset => putReset s q
  | "PUT", .step => putStep s q
  | "GET", resource => (s, (get? s q resource).getD .methodNotAllowed)
  | "HEAD", resource =>
    (s, { (get? s q resource).getD .methodNotAllowed with body := none })
  | _, _ => (s, .methodNotAllowed)

/-- The answer to a request, and the session after it. An advance takes `latency` nanoseconds to
compute. -/
def respond (latency : Nat) (s : Session α σ) (q : Request) : Session α σ × Response α :=
  match Resource.ofPath? q.path with
  | none => (s, .notFound)
  | some resource => answer latency s q resource

end BuildingEmulation.Api
