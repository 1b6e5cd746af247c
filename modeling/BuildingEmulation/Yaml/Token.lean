import BuildingEmulation.Yaml.Tag

/-!
# YAML tokens

A YAML text as a sequence of tokens. Indentation becomes tokens of its own: a block starts where
its first entry stands further right than what is around it, and ends before the first token that
stands further left. That a text was the key of an entry shows only at the colon behind it; so a
place where a key may have started is remembered, and the token for it is put there afterwards.
-/
namespace BuildingEmulation.Yaml

/-- A token of a YAML text. -/
inductive Token
  | directive (d : Directive)
  | documentStart
  | documentEnd
  | blockSequenceStart
  | blockMappingStart
  | blockEnd
  | flowSequenceStart
  | flowSequenceEnd
  | flowMappingStart
  | flowMappingEnd
  | blockEntry
  | flowEntry
  | key
  | value
  | reference (name : String)
  | anchor (name : String)
  | tag (t : Tag)
  | plain (text : String)
  | quoted (text : String)
  | literal (text : String)
  | folded (text : String)
  deriving DecidableEq, Repr

/-- A place where a key may have started. -/
structure KeyStart where
  /-- Nothing but a key can stand there. -/
  isRequired : Bool
  /-- How many tokens come before it. -/
  token : Nat
  index : Nat
  line : Nat
  column : Nat

/-- The tokens so far, and what decides how the text goes on. -/
structure Scan where
  cursor : Cursor
  tokens : List Token := []
  /-- The column of the innermost block, or `-1` outside of all blocks. -/
  indent : Int := -1
  /-- The columns of the blocks around it. -/
  outer : List Int := []
  /-- Where a key may have started, in each of the flow collections that are open, the innermost
  first, and at last outside of them. -/
  keys : List (Option KeyStart) := [none]
  /-- Whether a key may start here. -/
  mayStartKey : Bool := true

namespace Scan

/-- Whether a flow collection is open. -/
def inFlow (s : Scan) : Bool := 1 < s.keys.length

def push (s : Scan) (t : Token) : Scan := { s with tokens := s.tokens ++ [t] }

/-- Past some characters of the line, with a token for them. -/
def accept (s : Scan) (n : Nat) (t : Token) : Scan := { s with cursor := s.cursor.skip n }.push t

def allowKey (s : Scan) (b : Bool) : Scan := { s with mayStartKey := b }

/-! ## Indentation -/

/-- Open a block at a column that is further right than the innermost one, with its token in front
of the `position`-th. -/
def roll (s : Scan) (column position : Nat) (t : Token) : Scan :=
  if s.inFlow || (column : Int) ≤ s.indent then s
  else { s with outer := s.indent :: s.outer, indent := column
                tokens := s.tokens.insertIdx position t }

/-- The columns of the blocks that stay open at a column, and how many are closed. -/
def closing (column : Int) : Int → List Int → Int × List Int × Nat
  | indent, [] => (indent, [], 0)
  | indent, next :: outer =>
    if column < indent then
      let (i, o, n) := closing column next outer
      (i, o, n + 1)
    else (indent, next :: outer, 0)

/-- Close the blocks that are indented further than a column. -/
def unroll (s : Scan) (column : Int) : Scan :=
  if s.inFlow then s
  else
    let (indent, outer, n) := closing column s.indent s.outer
    { s with indent, outer, tokens := s.tokens ++ List.replicate n .blockEnd }

/-! ## Keys -/

/-- Forget where a key may have started; but a key that had to be there must have been found. -/
def dropKey? (s : Scan) : Option Scan :=
  match s.keys with
  | some k :: rest => if k.isRequired then none else some { s with keys := none :: rest }
  | _ => some s

/-- Remember that a key may start here. -/
def saveKey? (s : Scan) : Option Scan :=
  if !s.mayStartKey then some s
  else
    let c := s.cursor
    let isRequired := !s.inFlow && s.indent = c.column
    let k : KeyStart := ⟨isRequired, s.tokens.length, c.index, c.line, c.column⟩
    s.dropKey?.map fun s => { s with keys := some k :: s.keys.tail }

/-- A key stands on one line with its colon, and at most 1024 characters before it. -/
def isStale (c : Cursor) (k : KeyStart) : Bool := k.line < c.line || k.index + 1024 < c.index

/-- Forget the keys that can no longer be ended by a colon. -/
def dropStaleKeys? (s : Scan) : Option Scan := do
  let keys ← s.keys.mapM fun
    | some k =>
      if isStale s.cursor k then (if k.isRequired then none else some none) else some (some k)
    | none => some none
  pure { s with keys }

/-! ## Blanks -/

/-- Past blanks, comments and line ends. Outside of flow collections a new line may start a key,
and no tab may stand before one. -/
def skipToToken : Nat → Scan → Scan
  | 0, s => s
  | fuel + 1, s =>
    let c := s.cursor.skipWhile fun x => x = ' ' || (x = '\t' && (s.inFlow || !s.mayStartKey))
    match c.skipComment.breakLine with
    | (none, c) => { s with cursor := c }
    | (some _, c) =>
      skipToToken fuel { s with cursor := c, mayStartKey := s.mayStartKey || !s.inFlow }

/-! ## Tokens -/

def openFlow? (s : Scan) (t : Token) : Option Scan := do
  let s ← s.saveKey?
  pure (({ s with keys := none :: s.keys }.allowKey true).accept 1 t)

def closeFlow? (s : Scan) (t : Token) : Option Scan := do
  let s ← s.dropKey?
  let keys := if s.inFlow then s.keys.tail else s.keys
  pure (({ s with keys }.allowKey false).accept 1 t)

/-- An indicator in front of an entry, a key or a value; outside of flow collections it opens a
block, if it stands where a key might. -/
def openEntry? (s : Scan) (block : Token) : Option Scan :=
  if s.inFlow then some s
  else if !s.mayStartKey then none
  else some (s.roll s.cursor.column s.tokens.length block)

def blockEntry? (s : Scan) : Option Scan := do
  let s ← (← s.openEntry? .blockSequenceStart).dropKey?
  pure ((s.allowKey true).accept 1 .blockEntry)

def key? (s : Scan) : Option Scan := do
  let s ← (← s.openEntry? .blockMappingStart).dropKey?
  pure ((s.allowKey !s.inFlow).accept 1 .key)

/-- The colon behind a key. Where the key may have started it gets its token. -/
def value? (s : Scan) : Option Scan :=
  match s.keys with
  | some k :: rest =>
    let s := { s with tokens := s.tokens.insertIdx k.token .key, keys := none :: rest }
    let s := s.roll k.column k.token .blockMappingStart
    some ((s.allowKey false).accept 1 .value)
  | _ => do
    let s ← s.openEntry? .blockMappingStart
    pure ((s.allowKey !s.inFlow).accept 1 .value)

def flowEntry? (s : Scan) : Option Scan := do
  let s ← s.dropKey?
  pure ((s.allowKey true).accept 1 .flowEntry)

/-- Directives and marks of documents close all blocks. -/
def leave? (s : Scan) : Option Scan := (s.unroll (-1)).dropKey?.map (·.allowKey false)

def mark? (s : Scan) (t : Token) : Option Scan := s.leave?.map (·.accept 3 t)

def directive? (s : Scan) : Option Scan := do
  let s ← s.leave?
  let (d, cursor) ← Directive.read? (s.cursor.skip 1)
  pure ({ s with cursor }.push (.directive d))

/-- The name of an anchor or of a reference to one. -/
def name? (s : Scan) (token : String → Token) : Option Scan := do
  let s ← s.saveKey?
  let name := (s.cursor.rest.drop 1).takeWhile isWord
  let rest := (s.cursor.rest.drop 1).dropWhile isWord
  if name.isEmpty || !(endsWord rest || rest.head?.any ("?:,]\x7d%@\x60".toList.contains ·)) then none
  else some ((s.allowKey false).accept (name.length + 1) (token (String.ofList name)))

def tag? (s : Scan) : Option Scan := do
  let s ← s.saveKey?
  let (t, rest) ← Tag.span? s.cursor.rest
  if !endsWord rest && !(s.inFlow && rest.head? = some ',') then none
  else some ((s.allowKey false).accept (s.cursor.rest.length - rest.length) (.tag t))

def block? (s : Scan) (isFolded : Bool) : Option Scan := do
  let s ← s.dropKey?
  let (text, cursor) ← Yaml.block? isFolded s.indent (s.cursor.skip 1)
  let text := String.ofList text
  pure (({ s with cursor }.allowKey true).push (if isFolded then .folded text else .literal text))

def quoted? (s : Scan) (isSingle : Bool) : Option Scan := do
  let s ← s.saveKey?
  let (text, cursor) ← Yaml.quoted? isSingle (s.cursor.rest.length + 1) (s.cursor.skip 1)
  pure (({ s with cursor }.allowKey false).push (.quoted (String.ofList text)))

def plain? (s : Scan) : Option Scan := do
  let s ← s.saveKey?
  let (text, endedLine, cursor) ←
    Yaml.plain? s.inFlow (s.indent + 1) (s.cursor.rest.length + 1) (.blanks []) s.cursor
  pure (({ s with cursor }.allowKey endedLine).push (.plain (String.ofList text)))

/-- Whether a plain scalar starts with the character in front of these. -/
def startsPlain (inFlow : Bool) (c : Char) (rest : List Char) : Bool :=
  !(isSpace c || "-?:,[]\x7b\x7d#&*!|>\x27\"%@\x60".toList.contains c) ||
    (c = '-' && !rest.head?.any isBlank) || (!inFlow && (c = '?' || c = ':') && !endsWord rest)

/-- The next token, at a character that is neither blank nor a line end. -/
def next? (s : Scan) (c : Char) (rest : List Char) : Option Scan :=
  if s.cursor.column = 0 && c = '%' then s.directive?
  else if s.cursor.isAtMark '-' then s.mark? .documentStart
  else if s.cursor.isAtMark '.' then s.mark? .documentEnd
  else if c = '[' then s.openFlow? .flowSequenceStart
  else if c = '\x7b' then s.openFlow? .flowMappingStart
  else if c = ']' then s.closeFlow? .flowSequenceEnd
  else if c = '\x7d' then s.closeFlow? .flowMappingEnd
  else if c = ',' then s.flowEntry?
  else if c = '-' && endsWord rest then s.blockEntry?
  else if c = '?' && (s.inFlow || endsWord rest) then s.key?
  else if c = ':' && (s.inFlow || endsWord rest) then s.value?
  else if c = '*' then s.name? .reference
  else if c = '&' then s.name? .anchor
  else if c = '!' then s.tag?
  else if c = '|' && !s.inFlow then s.block? false
  else if c = '>' && !s.inFlow then s.block? true
  else if c = '\x27' then s.quoted? true
  else if c = '"' then s.quoted? false
  else if startsPlain s.inFlow c rest then s.plain?
  else none

/-- The tokens of what is left of a text; each takes at least a character. -/
def run? : Nat → Scan → Option (List Token)
  | 0, _ => none
  | fuel + 1, s => do
    let s ← (skipToToken (s.cursor.rest.length + 1) s).dropStaleKeys?
    let s := s.unroll s.cursor.column
    match s.cursor.rest with
    | [] => s.leave?.map (·.tokens)
    | c :: rest => s.next? c rest >>= run? fuel

end Scan

/-- The tokens of a YAML text, which may start with a byte order mark. -/
def Token.ofText? (text : String) : Option (List Token) :=
  let cs := match text.toList with
    | c :: rest => if c.toNat = 0xFEFF then rest else c :: rest
    | [] => []
  if cs.all isAllowed then Scan.run? (cs.length + 1) { cursor := { rest := cs } } else none

end BuildingEmulation.Yaml
