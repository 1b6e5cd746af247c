import BuildingEmulation.Power
import BuildingEmulation.Yaml.Scalar

/-!
# YAML tags and directives

A tag names the type of a node, in full or through a handle that stands for the start of the name.
Directives say which version a document is in and what its handles stand for.
-/
namespace BuildingEmulation.Yaml

/-- A tag as it is written: a handle, empty for a tag in full, and what follows it. -/
structure Tag where
  handle : String
  suffix : String
  deriving DecidableEq, Repr

inductive Directive
  | version (major minor : Nat)
  | handle (name expansion : String)
  deriving DecidableEq, Repr

/-! ## Reading tags -/

/-- Characters of the name of a tag. -/
def isTagCharacter (isFull : Bool) (c : Char) : Bool :=
  isWord c || ";/?:@&=+$.%!~*\x27()".toList.contains c || (isFull && ",[]".toList.contains c)

/-- How many bytes a character takes whose UTF-8 form starts with this one. -/
def utf8Width? (n : Nat) : Option Nat :=
  if n < 0x80 then some 1
  else if 0xC0 ≤ n && n < 0xE0 then some 2
  else if 0xE0 ≤ n && n < 0xF0 then some 3
  else if 0xF0 ≤ n && n < 0xF8 then some 4
  else none

/-- The byte that an escape of two hexadecimal digits spells, and what follows it. -/
def escapedByte? : List Char → Option (Nat × List Char)
  | '%' :: a :: b :: rest => do
    let a ← hexValue? a
    let b ← hexValue? b
    pure (a * 16 + b, rest)
  | _ => none

/-- What the next bytes of an escaped character add to those before, and what follows them. -/
def escapedTail? : Nat → Nat → List Char → Option (Nat × List Char)
  | 0, n, rest => some (n, rest)
  | k + 1, n, cs => do
    let (b, rest) ← escapedByte? cs
    if 0x80 ≤ b && b < 0xC0 then escapedTail? k (n * 64 + (b - 0x80)) rest else none

/-- A character that is escaped byte by byte, and what follows it. -/
def escapedCharacter? (cs : List Char) : Option (Char × List Char) := do
  let (b, rest) ← escapedByte? cs
  let width ← utf8Width? b
  let first := if width = 1 then b else b % pow2 (7 - width)
  let (n, rest) ← escapedTail? (width - 1) first rest
  pure (Char.ofNat n, rest)

/-- The name of a tag, which may be empty, and what follows it. -/
def tagName? (isFull : Bool) : Nat → List Char → Option (List Char × List Char)
  | 0, _ => none
  | _ + 1, [] => some ([], [])
  | fuel + 1, c :: rest =>
    if !isTagCharacter isFull c then some ([], c :: rest)
    else if c = '%' then do
      let (x, rest) ← escapedCharacter? (c :: rest)
      let (name, rest) ← tagName? isFull fuel rest
      pure (x :: name, rest)
    else (tagName? isFull fuel rest).map fun (name, rest) => (c :: name, rest)

/-- The handle a tag starts with, marks included, and what follows it. It may lack the second mark
and is then no handle, but the start of a name. -/
def handle? : List Char → Option (List Char × List Char)
  | '!' :: rest =>
    let word := rest.takeWhile isWord
    match rest.dropWhile isWord with
    | '!' :: rest => some ('!' :: word ++ ['!'], rest)
    | rest => some ('!' :: word, rest)
  | _ => none

/-- A tag of some length. -/
def Tag.span? (cs : List Char) : Option (Tag × List Char) :=
  match cs with
  | '!' :: '<' :: rest => do
    let (name, rest) ← tagName? true (rest.length + 1) rest
    match rest with
    | '>' :: rest => if name.isEmpty then none else some (⟨"", String.ofList name⟩, rest)
    | _ => none
  | cs => do
    let (handle, rest) ← handle? cs
    if 1 < handle.length && handle.getLast? = some '!' then
      let (name, rest) ← tagName? false (rest.length + 1) rest
      if name.isEmpty then none else some (⟨String.ofList handle, String.ofList name⟩, rest)
    else
      let (name, rest) ← tagName? false (rest.length + 1) rest
      let suffix := handle.drop 1 ++ name
      if suffix.isEmpty then some (⟨"", "!"⟩, rest) else some (⟨"!", String.ofList suffix⟩, rest)

/-! ## Reading directives -/

/-- A number of at most nine digits, and what follows it. -/
def versionNumber? (cs : List Char) : Option (Nat × List Char) :=
  let digits := cs.takeWhile Char.isDigit
  if digits.isEmpty || 9 < digits.length then none
  else some (digits.foldl (fun n c => n * 10 + (c.toNat - 48)) 0, cs.dropWhile Char.isDigit)

/-- The value of a version directive. -/
def version? (cs : List Char) : Option (Directive × List Char) := do
  let (major, rest) ← versionNumber? (cs.dropWhile isBlank)
  match rest with
  | '.' :: rest =>
    let (minor, rest) ← versionNumber? rest
    pure (.version major minor, rest)
  | _ => none

/-- The value of a directive for a handle. -/
def expansion? (cs : List Char) : Option (Directive × List Char) := do
  let (handle, rest) ← handle? (cs.dropWhile isBlank)
  if 1 < handle.length && handle.getLast? ≠ some '!' then none
  else if !rest.head?.any isBlank then none
  else
    let rest := rest.dropWhile isBlank
    let (name, rest) ← tagName? true (rest.length + 1) rest
    if name.isEmpty || !endsWord rest then none
    else some (.handle (String.ofList handle) (String.ofList name), rest)

/-- A directive from behind its percent sign, up to the end of its line. -/
def Directive.read? (c : Cursor) : Option (Directive × Cursor) := do
  let name := c.rest.takeWhile isWord
  let rest := c.rest.dropWhile isWord
  if name.isEmpty || !endsWord rest then none
  else
    let (directive, rest) ←
      if name = "YAML".toList then version? rest
      else if name = "TAG".toList then expansion? rest
      else none
    let c := ((c.skip (c.rest.length - rest.length)).skipWhile isBlank).skipComment
    if endsLine c.rest then some (directive, c.breakLine.2) else none

/-! ## What tags stand for -/

/-- The tags of the language itself. -/
def coreTags : String := "tag:yaml.org,2002:"

/-- What handles stand for, unless a directive says otherwise. -/
def standardHandles : List (String × String) := [("!", "!"), ("!!", coreTags)]

/-- The full name of a tag, if its handle is known. -/
def Tag.resolve? (handles : List (String × String)) (t : Tag) : Option String :=
  if t.handle.isEmpty then some t.suffix
  else ((handles ++ standardHandles).lookup t.handle).map (· ++ t.suffix)

end BuildingEmulation.Yaml
