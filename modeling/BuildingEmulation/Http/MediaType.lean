/-!
# Media types

The type of a body as a header names it: a type and a subtype, which may end in a suffix behind a
plus sign, and parameters, which have to be well formed but are not kept.
-/
namespace BuildingEmulation.Http

structure MediaType where
  kind : String
  subtype : String
  suffix : Option String := none
  deriving Repr, DecidableEq

namespace MediaType

/-- Characters of the names in a header. -/
def isToken (c : Char) : Bool := c.isAlphanum || "!#$%&\x27*+-.^_\x60|~".toList.contains c

/-- Characters that a header may hold. -/
def isVisible (c : Char) : Bool := c = '\t' || (0x20 ≤ c.toNat && c.toNat < 0x7F)

/-- What follows the value of a parameter that is quoted: the end, or a semicolon. -/
def afterQuoted? : List Char → Option (List Char)
  | [] => some []
  | ' ' :: rest => afterQuoted? rest
  | ';' :: rest => some rest
  | _ => none

/-- Past the value of a parameter and the semicolon behind it. A quoted value is not empty. -/
def afterValue? : List Char → Option (List Char)
  | '"' :: c :: rest =>
    match rest.dropWhile (· ≠ '"') with
    | '"' :: rest' => if c = '\t' || rest.contains '\t' then none else afterQuoted? rest'
    | _ => none
  | cs =>
    match cs.takeWhile isToken, cs.dropWhile isToken with
    | _, [] => some []
    | _ :: _, ';' :: rest => some rest
    | _, _ => none

/-- Whether a text is a list of parameters. -/
def areParameters : Nat → List Char → Bool
  | 0, _ => false
  | fuel + 1, cs =>
    match cs.dropWhile (· = ' ') with
    | [] => true
    | cs =>
      match cs.takeWhile isToken, cs.dropWhile isToken with
      | _ :: _, '=' :: rest =>
        match afterValue? rest with
        | some rest => areParameters fuel rest
        | none => false
      | _, _ => false

/-- A type from its name and the name of its subtype with any suffix. -/
def ofNames (kind name : List Char) : MediaType :=
  let suffix := (name.reverse.takeWhile (· ≠ '+')).reverse
  let stem := name.take (name.length - suffix.length - 1)
  if stem.isEmpty then { kind := String.ofList kind, subtype := String.ofList name }
  else { kind := String.ofList kind, subtype := String.ofList stem
         suffix := some (String.ofList suffix) }

/-- The type that a header names; case does not count. -/
def ofText? (s : String) : Option MediaType :=
  let cs := s.toList
  let kind := cs.takeWhile isToken
  if !cs.all isVisible || kind.isEmpty then none
  else match cs.dropWhile isToken with
    | '/' :: rest =>
      let type := ofNames (kind.map Char.toLower) ((rest.takeWhile isToken).map Char.toLower)
      match rest.dropWhile isToken with
      | [] => some type
      | ';' :: parameters =>
        if (rest.takeWhile isToken).isEmpty || !areParameters (cs.length + 1) parameters then none
        else some type
      | _ => none
    | _ => none

/-- Whether a body of the type is JSON. -/
def isJson (m : MediaType) : Bool :=
  m.kind = "application" && (m.subtype = "json" || m.suffix = some "json")

end MediaType

end BuildingEmulation.Http
