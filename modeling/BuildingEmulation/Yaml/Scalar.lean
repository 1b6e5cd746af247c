import BuildingEmulation.Yaml.Cursor

/-!
# YAML scalars

The three ways to write a text in YAML: plain, between quotes, and as an indented block. Line
breaks inside the first two are folded; a block keeps or folds them as its header says.
-/
namespace BuildingEmulation.Yaml

/-! ## Gaps between words -/

/-- What stands between two words of a scalar. -/
inductive Gap
  | blanks (cs : List Char)
  /-- A first line break, unless it was escaped, and those that follow it. -/
  | lines (first : Option Char) (others : List Char)

namespace Gap

/-- The text a gap stands for. -/
def fold : Gap → List Char
  | blanks cs => cs
  | lines (some '\n') [] => [' ']
  | lines (some '\n') others => others
  | lines first others => first.toList ++ others

/-- The gap with another blank; blanks around line breaks do not count. -/
def addBlank (g : Gap) (c : Char) : Gap :=
  match g with
  | blanks cs => blanks (cs ++ [c])
  | lines first others => lines first others

/-- The gap with another line break. -/
def addBreak (g : Gap) (c : Char) : Gap :=
  match g with
  | blanks _ => lines (some c) []
  | lines first others => lines first (others ++ [c])

def hasBreak : Gap → Bool
  | blanks _ => false
  | lines _ _ => true

end Gap

/-- Past a gap that has begun. Behind a line break no tab may stand left of the indentation. -/
def gap? (indent : Int) : Nat → Gap → Cursor → Option (Gap × Cursor)
  | 0, _, _ => none
  | fuel + 1, g, c =>
    match c.rest with
    | [] => some (g, c)
    | x :: _ =>
      if isBlank x then
        if g.hasBreak && (c.column : Int) < indent && x = '\t' then none
        else gap? indent fuel (g.addBlank x) (c.skip 1)
      else
        match c.breakLine with
        | (none, c) => some (g, c)
        | (some b, c) => gap? indent fuel (g.addBreak b) c

/-! ## Plain scalars -/

/-- The characters up to the end of a plain word and how many they are. In a flow collection
brackets and commas end it, and a colon must not stand before one of them. -/
def plainWord? (inFlow : Bool) : List Char → Option (List Char)
  | [] => some []
  | c :: rest =>
    if isSpace c then some []
    else if c = ':' then
      if inFlow && rest.head?.any (",?[]\x7b\x7d".toList.contains ·) then none
      else if endsWord rest then some []
      else (plainWord? inFlow rest).map (c :: ·)
    else if inFlow && ",[]\x7b\x7d".toList.contains c then some []
    else (plainWord? inFlow rest).map (c :: ·)

/-- The words of a plain scalar, the gap before each of them folded; with what follows, and whether
it ended on a new line. -/
def plain? (inFlow : Bool) (indent : Int) :
    Nat → Gap → Cursor → Option (List Char × Bool × Cursor)
  | 0, _, _ => none
  | fuel + 1, g, c =>
    let stop := some ([], g.hasBreak, c)
    if c.isAtBoundary || c.rest.head? = some '#' then stop
    else match plainWord? inFlow c.rest with
      | none => none
      | some word =>
        let (before, g) := if word.isEmpty then ([], g) else (g.fold ++ word, Gap.blanks [])
        let c := c.skip word.length
        if c.rest.isEmpty || !endsWord c.rest then some (before, g.hasBreak, c)
        else match gap? indent (c.rest.length + 1) g c with
          | none => none
          | some (g, c) =>
            if !inFlow && (c.column : Int) < indent then some (before, g.hasBreak, c)
            else (plain? inFlow indent fuel g c).map fun (rest, r) => (before ++ rest, r)

/-! ## Quoted scalars -/

def hexValue? (c : Char) : Option Nat :=
  if c.isDigit then some (c.toNat - '0'.toNat)
  else if 'a' ≤ c && c ≤ 'f' then some (c.toNat - 'a'.toNat + 10)
  else if 'A' ≤ c && c ≤ 'F' then some (c.toNat - 'A'.toNat + 10)
  else none

/-- The character whose code point hexadecimal digits spell. -/
def hexCharacter? (digits : List Char) : Option Char := do
  let n ← digits.foldlM (fun n c => (hexValue? c).map (n * 16 + ·)) 0
  if n < 0xD800 || (0xE000 ≤ n && n < 0x110000) then some (Char.ofNat n) else none

/-- The character that a code of so many digits stands for, and their number. -/
def coded? (digits : Nat) (rest : List Char) : Option (Char × Nat) :=
  if rest.length < digits then none else (hexCharacter? (rest.take digits)).map (·, digits)

/-- The character that an escape stands for, and how many characters follow its first one. -/
def escape? : List Char → Option (Char × Nat)
  | '0' :: _ => some ('\x00', 0)
  | 'a' :: _ => some ('\x07', 0)
  | 'b' :: _ => some ('\x08', 0)
  | 't' :: _ | '\t' :: _ => some ('\t', 0)
  | 'n' :: _ => some ('\n', 0)
  | 'v' :: _ => some ('\x0b', 0)
  | 'f' :: _ => some ('\x0c', 0)
  | 'r' :: _ => some ('\r', 0)
  | 'e' :: _ => some ('\x1b', 0)
  | ' ' :: _ => some (' ', 0)
  | '"' :: _ => some ('"', 0)
  | '/' :: _ => some ('/', 0)
  | '\\' :: _ => some ('\\', 0)
  | 'N' :: _ => some ('\x85', 0)
  | '_' :: _ => some ('\xa0', 0)
  | 'L' :: _ => some (Char.ofNat 0x2028, 0)
  | 'P' :: _ => some (Char.ofNat 0x2029, 0)
  | 'x' :: rest => coded? 2 rest
  | 'u' :: rest => coded? 4 rest
  | 'U' :: rest => coded? 8 rest
  | _ => none

/-- A scalar between single or double quotes, from behind the first of them. -/
def quoted? (isSingle : Bool) : Nat → Cursor → Option (List Char × Cursor)
  | 0, _ => none
  | fuel + 1, c =>
    let close := if isSingle then '\x27' else '"'
    if c.isAtBoundary then none
    else match c.rest with
      | [] => none
      | x :: rest =>
        if isSpace x then
          match gap? 0 (c.rest.length + 1) (.blanks []) c with
          | none => none
          | some (g, c) => (quoted? isSingle fuel c).map fun (s, r) => (g.fold ++ s, r)
        else if isSingle && x = close && rest.head? = some close then
          (quoted? isSingle fuel (c.skip 2)).map fun (s, r) => (close :: s, r)
        else if x = close then some ([], c.skip 1)
        else if !isSingle && x = '\\' then
          match (c.skip 1).breakLine with
          | (some _, c) =>
            match gap? 0 (c.rest.length + 1) (.lines none []) c with
            | none => none
            | some (g, c) => (quoted? isSingle fuel c).map fun (s, r) => (g.fold ++ s, r)
          | (none, _) =>
            match escape? rest with
            | none => none
            | some (y, n) => (quoted? isSingle fuel (c.skip (2 + n))).map fun (s, r) => (y :: s, r)
        else (quoted? isSingle fuel (c.skip 1)).map fun (s, r) => (x :: s, r)

/-! ## Block scalars -/

/-- What becomes of the line breaks at the end of a block. -/
inductive Chomping
  | strip
  | clip
  | keep
  deriving DecidableEq

/-- What a block scalar says about itself behind its indicator. -/
structure BlockHeader where
  chomping : Chomping := .clip
  /-- The indentation of the block, relative to what it stands in. -/
  indent : Option Nat := none

/-- The mark of a chomping that a text may start with, and what follows it. -/
def Chomping.span : List Char → Option Chomping × List Char
  | '+' :: rest => (some .keep, rest)
  | '-' :: rest => (some .strip, rest)
  | cs => (none, cs)

/-- The digit of an indentation that a text may start with, and what follows it; it must not be
zero. -/
def indentation? : List Char → Option (Option Nat × List Char)
  | [] => some (none, [])
  | c :: rest =>
    if c = '0' then none
    else if c.isDigit then some (some (c.toNat - '0'.toNat), rest)
    else some (none, c :: rest)

/-- The header a text starts with, its two parts in either order, and what follows it. -/
def BlockHeader.span? (cs : List Char) : Option (BlockHeader × List Char) :=
  match Chomping.span cs with
  | (some chomping, rest) => do
    let (indent, rest) ← indentation? rest
    pure (⟨chomping, indent⟩, rest)
  | (none, _) => do
    let (indent, rest) ← indentation? cs
    if indent.isNone then pure ({}, rest)
    else
      let (chomping, rest) := Chomping.span rest
      pure (⟨chomping.getD .clip, indent⟩, rest)

/-- What the line breaks at the end of a block come to: the one that ends its last line, and those
of the empty lines behind it. -/
def Chomping.ending (last : Option Char) (breaks : List Char) : Chomping → List Char
  | strip => []
  | clip => last.toList
  | keep => last.toList ++ breaks

/-- Past the empty lines of a block and the indentation of the line behind them: their line breaks
and the widest indentation among them. An indentation of zero is not known yet. -/
def blockLines? (indent : Nat) :
    Nat → Nat → List Char → Cursor → Option (Nat × List Char × Cursor)
  | 0, _, _, _ => none
  | fuel + 1, widest, breaks, c =>
    let blanks := (c.rest.takeWhile (· = ' ')).length
    let c := c.skip (if indent = 0 then blanks else min blanks (indent - c.column))
    let widest := max widest c.column
    if (indent = 0 || c.column < indent) && c.rest.head? = some '\t' then none
    else match c.breakLine with
      | (none, c) => some (widest, breaks, c)
      | (some b, c) => blockLines? indent fuel widest (breaks ++ [b]) c

/-- The text between two lines of a block: `previous` ends the first of them, and `breaks` are the
empty lines that follow. A folded block joins lines that do not start with a blank. -/
def joint (isFolded wasBlank isBlank : Bool) (previous : Option Char) (breaks : List Char) :
    List Char :=
  if isFolded && previous = some '\n' && !wasBlank && !isBlank then
    if breaks.isEmpty then [' '] else breaks
  else previous.toList ++ breaks

/-- The lines of a block, from the first one, and what its end comes to. -/
def blockText? (isFolded : Bool) (chomping : Chomping) (indent : Nat) :
    Nat → Bool → Option Char → List Char → Cursor → Option (List Char × Cursor)
  | 0, _, _, _, _ => none
  | fuel + 1, wasBlank, previous, breaks, c =>
    match c.rest with
    | [] => some (chomping.ending previous breaks, c)
    | x :: _ =>
      if c.column ≠ indent then some (chomping.ending previous breaks, c)
      else
        let line := c.rest.takeWhile (!isBreak ·)
        let (last, d) := (c.skip line.length).breakLine
        match blockLines? indent (d.rest.length + 1) 0 [] d with
        | none => none
        | some (_, following, d) =>
          (blockText? isFolded chomping indent fuel (isBlank x) last following d).map
            fun (s, r) => (joint isFolded wasBlank (isBlank x) previous breaks ++ line ++ s, r)

/-- A block scalar from behind its indicator, inside a block that is indented by `outer`. -/
def block? (isFolded : Bool) (outer : Int) (c : Cursor) : Option (List Char × Cursor) := do
  let (header, rest) ← BlockHeader.span? c.rest
  let c := ((c.skip (c.rest.length - rest.length)).skipWhile isBlank).skipComment
  if !endsLine c.rest then none
  else
    let (_, c) := c.breakLine
    let stated : Nat := match header.indent with
      | none => 0
      | some n => (max outer 0).toNat + n
    let (widest, breaks, c) ← blockLines? stated (c.rest.length + 1) 0 [] c
    let indent : Nat := if stated = 0 then max (max widest (outer + 1).toNat) 1 else stated
    blockText? isFolded header.chomping indent (c.rest.length + 1) false none breaks c

end BuildingEmulation.Yaml
