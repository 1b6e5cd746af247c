import BuildingEmulation.Http.MediaType
import BuildingEmulation.Http.Percent

/-!
# Requests

What a client sends: a method, a target with a path and perhaps a query, and a body whose type a
header may name.
-/
namespace BuildingEmulation.Http

/-- The body of a request, which need not be a text. -/
structure Body where
  bytes : List UInt8 := []
  deriving Repr

namespace Body

/-- More bytes than these are not taken in. -/
def limit : Nat := 2 * 1024 * 1024

def ofText (s : String) : Body := { bytes := s.toUTF8.toList }

instance : Coe String Body := ⟨ofText⟩

end Body

structure Request where
  method : String
  target : String
  contentType : Option String := none
  body : Body := {}
  deriving Repr

namespace Request

/-- The target without the fragment behind it. -/
def address (q : Request) : List Char := q.target.toList.takeWhile (· ≠ '#')

/-- The part of the target that names a resource. -/
def path (q : Request) : String := String.ofList (q.address.takeWhile (· ≠ '?'))

/-- The part of the target behind its question mark. -/
def query (q : Request) : String := String.ofList ((q.address.dropWhile (· ≠ '?')).drop 1)

/-- Whether the body is said to be JSON. -/
def saysJson (q : Request) : Bool := (q.contentType >>= MediaType.ofText?).any MediaType.isJson

end Request

/-! ## Queries -/

/-- The text of a part of a query: a plus sign is a blank. Bytes that form no text come out as a
mark that no name holds. -/
def queryText (s : String) : String :=
  (percentDecode? (s.map fun c => if c = '+' then ' ' else c)).getD "\ufffd"

/-- The names and values of a query. -/
def queryPairs (query : String) : List (String × String) :=
  ((query.splitOn "&").filter (!·.isEmpty)).map fun pair =>
    match pair.splitOn "=" with
    | name :: rest => (queryText name, queryText ("=".intercalate rest))
    | [] => ("", "")

end BuildingEmulation.Http
