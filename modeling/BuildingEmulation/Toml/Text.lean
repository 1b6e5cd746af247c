/-!
# Texts in TOML

The smallest parts of a TOML document: blanks, line ends, comments, quoted strings and keys. Every
reader takes the characters that are left and gives back what follows.
-/
namespace BuildingEmulation.Toml

def isBlank (c : Char) : Bool := c = ' ' || c = '\t'

/-- Characters that may stand in a comment or a string as they are. -/
def isPrintable (c : Char) : Bool := c = '\t' || (0x20 ≤ c.toNat && c.toNat ≤ 0x7E) || 0x80 ≤ c.toNat

def skipBlanks (cs : List Char) : List Char := cs.dropWhile isBlank

/-- What follows a line end. -/
def newLine? : List Char → Option (List Char)
  | '\n' :: rest => some rest
  | '\r' :: '\n' :: rest => some rest
  | _ => none

/-- What follows the end of a line or of the text. -/
def lineEnd? : List Char → Option (List Char)
  | [] => some []
  | cs => newLine? cs

/-- A text without the comment it may start with. -/
def skipComment : List Char → List Char
  | '#' :: rest => rest.dropWhile isPrintable
  | cs => cs

/-- What follows the rest of a line that holds nothing but blanks and a comment. -/
def restOfLine? (cs : List Char) : Option (List Char) := lineEnd? (skipComment (skipBlanks cs))

/-- A text without the blanks, comments and line ends in front of it; a comment has to end with its
line. -/
def skipLines? : Nat → List Char → Option (List Char)
  | 0, _ => none
  | fuel + 1, cs =>
    match skipBlanks cs with
    | '#' :: rest => newLine? (rest.dropWhile isPrintable) >>= skipLines? fuel
    | rest =>
      match newLine? rest with
      | some rest => skipLines? fuel rest
      | none => some rest

/-! ## Strings -/

def hexValue? (c : Char) : Option Nat :=
  if c.isDigit then some (c.toNat - '0'.toNat)
  else if 'a' ≤ c && c ≤ 'f' then some (c.toNat - 'a'.toNat + 10)
  else if 'A' ≤ c && c ≤ 'F' then some (c.toNat - 'A'.toNat + 10)
  else none

/-- The character with a code point, if there is one. -/
def character? (code : Nat) : Option Char :=
  if code < 0xD800 || (0xE000 ≤ code && code < 0x110000) then some (Char.ofNat code) else none

/-- The number that hexadecimal digits spell. -/
def hexNumber? (cs : List Char) : Option Nat :=
  cs.foldlM (fun n c => (hexValue? c).map (n * 16 + ·)) 0

/-- The character of an escape, given what follows the backslash. -/
def escape? : List Char → Option (Char × List Char)
  | 'b' :: rest => some ('\x08', rest)
  | 't' :: rest => some ('\t', rest)
  | 'n' :: rest => some ('\n', rest)
  | 'f' :: rest => some ('\x0c', rest)
  | 'r' :: rest => some ('\r', rest)
  | '"' :: rest => some ('"', rest)
  | '\\' :: rest => some ('\\', rest)
  | 'u' :: rest => do
    if rest.length < 4 then none
    pure (← character? (← hexNumber? (rest.take 4)), rest.drop 4)
  | 'U' :: rest => do
    if rest.length < 8 then none
    pure (← character? (← hexNumber? (rest.take 8)), rest.drop 8)
  | _ => none

/-- A string on one line between double quotes, behind the first of them. -/
def basicBody? : Nat → List Char → Option (List Char × List Char)
  | 0, _ => none
  | _ + 1, '"' :: rest => some ([], rest)
  | fuel + 1, '\\' :: rest => do
    let (c, rest) ← escape? rest
    let (s, rest) ← basicBody? fuel rest
    pure (c :: s, rest)
  | fuel + 1, c :: rest =>
    if isPrintable c then (basicBody? fuel rest).map fun (s, rest) => (c :: s, rest) else none
  | _ + 1, [] => none

/-- A string on one line between single quotes, behind the first of them. -/
def literalBody? : List Char → Option (List Char × List Char)
  | [] => none
  | c :: rest =>
    if c = '\x27' then some ([], rest)
    else if isPrintable c then (literalBody? rest).map fun (s, rest) => (c :: s, rest)
    else none

/-- Where a run of quotes is no longer part of a string over several lines: up to two of them may
stand in front of the three that close it. -/
def closing? (quote : Char) (cs : List Char) : Option (List Char × List Char) :=
  let run := (cs.takeWhile (· = quote)).length
  if 3 ≤ run && run ≤ 5 then some (List.replicate (run - 3) quote, cs.drop run) else none

/-- A string over several lines, behind its opening quotes. A basic one knows escapes, and skips a
line end behind a backslash together with the blanks and line ends that follow. -/
def longBody? (quote : Char) (escapes : Bool) : Nat → List Char → Option (List Char × List Char)
  | 0, _ => none
  | _ + 1, [] => none
  | fuel + 1, c :: rest =>
    if c = quote then
      match closing? quote (c :: rest) with
      | some closed => some closed
      | none =>
        if 3 ≤ (rest.takeWhile (· = quote)).length + 1 then none
        else (longBody? quote escapes fuel rest).map fun (s, rest) => (c :: s, rest)
    else if c = '\\' && escapes then
      match newLine? (skipBlanks rest) with
      | some next => longBody? quote escapes fuel (skipSpace fuel next)
      | none => do
        let (c, rest) ← escape? rest
        let (s, rest) ← longBody? quote escapes fuel rest
        pure (c :: s, rest)
    else
      match newLine? (c :: rest) with
      | some rest => (longBody? quote escapes fuel rest).map fun (s, rest) => ('\n' :: s, rest)
      | none =>
        if isPrintable c then
          (longBody? quote escapes fuel rest).map fun (s, rest) => (c :: s, rest)
        else none
where
  /-- A text without the blanks and line ends in front of it. -/
  skipSpace : Nat → List Char → List Char
    | 0, cs => cs
    | fuel + 1, cs =>
      match newLine? (skipBlanks cs) with
      | some rest => skipSpace fuel rest
      | none => skipBlanks cs

/-- A text without the line end it may start with. -/
def skipNewLine (cs : List Char) : List Char := (newLine? cs).getD cs

/-- A string of any of the four kinds. -/
def string? (cs : List Char) : Option (String × List Char) :=
  let found : Option (List Char × List Char) := match cs with
    | '"' :: '"' :: '"' :: rest => longBody? '"' true (rest.length + 1) (skipNewLine rest)
    | '"' :: rest => basicBody? (rest.length + 1) rest
    | '\x27' :: '\x27' :: '\x27' :: rest =>
      longBody? '\x27' false (rest.length + 1) (skipNewLine rest)
    | '\x27' :: rest => literalBody? rest
    | _ => none
  found.map fun (s, rest) => (String.ofList s, rest)

/-! ## Keys -/

def isBare (c : Char) : Bool := c.isAlphanum || c = '_' || c = '-'

/-- One part of a key: a string on one line, or a bare word. -/
def simpleKey? (cs : List Char) : Option (String × List Char) :=
  match cs with
  | '"' :: rest => (basicBody? (rest.length + 1) rest).map fun (s, rest) => (String.ofList s, rest)
  | '\x27' :: rest => (literalBody? rest).map fun (s, rest) => (String.ofList s, rest)
  | cs =>
    let word := cs.takeWhile isBare
    if word.isEmpty then none else some (String.ofList word, cs.drop word.length)

/-- The parts of a key with points between them, at most `limit` of them, with blanks around each. -/
def key? : Nat → List Char → Option (List String × List Char)
  | 0, _ => none
  | limit + 1, cs => do
    let (part, rest) ← simpleKey? (skipBlanks cs)
    match skipBlanks rest with
    | '.' :: rest =>
      let (parts, rest) ← key? limit rest
      pure (part :: parts, rest)
    | rest => pure ([part], rest)

end BuildingEmulation.Toml
