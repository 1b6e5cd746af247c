import BuildingEmulation.Yaml.Token

/-!
# YAML nodes

The tree that a sequence of tokens spells. A node may carry an anchor, and a reference to an anchor
stands for the node that carries it.
-/
namespace BuildingEmulation.Yaml

/-- How a scalar is written. -/
inductive Style
  | plain
  | quoted
  | literal
  | folded
  deriving DecidableEq, Repr

/-- A node of a YAML document. -/
inductive Node
  | scalar (style : Style) (tag : Option String) (text : String)
  | sequence (items : List Node)
  | mapping (entries : List (Node × Node))
  /-- What stands for the node with an anchor of this number. -/
  | reference (number : Nat)
  deriving Repr

/-- The node where nothing is written. -/
def Node.empty : Node := .scalar .plain none ""

/-! ## Anchors -/

/-- The anchors of a document so far. A node takes the number of names that are known when it
starts, so it may share a number with a later node once a name is given again. -/
structure Anchors where
  /-- Known names and the numbers they stand for, the latest in front. -/
  names : List (String × Nat) := []
  /-- Numbers in the order in which their nodes start, the latest in front. -/
  starts : List Nat := []
  /-- Nodes that have ended, under their places in that order. -/
  nodes : List (Nat × Node) := []

namespace Anchors

/-- The anchors when a node starts that may carry one. -/
def start (a : Anchors) : Option String → Anchors
  | none => a
  | some name =>
    let number := a.names.length
    { a with names := (name, number) :: a.names.filter (·.1 != name)
             starts := number :: a.starts }

/-- The anchors when a node ends that started after `before` and may carry an anchor. -/
def finish (a before : Anchors) (node : Node) : Option String → Anchors
  | none => a
  | some _ => { a with nodes := (before.starts.length, node) :: a.nodes }

/-- The node that a number stands for: of those with the number the one that started last. -/
def node? (a : Anchors) (number : Nat) : Option Node :=
  a.nodes.lookup (a.starts.length - 1 - a.starts.idxOf number)

end Anchors

/-! ## Nodes -/

/-- What comes out of reading a part of a document: the anchors by then, and the tokens left. -/
abbrev Parsed (β : Type) := β × Anchors × List Token

/-- The anchor and the tag in front of a node, in either order. -/
def properties : List Token → Option String × Option Tag × List Token
  | .anchor name :: .tag t :: r | .tag t :: .anchor name :: r => (some name, some t, r)
  | .anchor name :: r => (some name, none, r)
  | .tag t :: r => (none, some t, r)
  | r => (none, none, r)

/-- Whether a value is left out in a block. -/
def isMissing : List Token → Bool
  | .key :: _ | .value :: _ | .blockEnd :: _ => true
  | _ => false

/-- Whether a value is left out in a flow collection that ends with a token. -/
def isMissingBefore (close : Token) : List Token → Bool
  | [] => false
  | t :: _ => t = .flowEntry || t = close

/-- Past the comma in front of every entry but the first. -/
def afterComma? (isFirst : Bool) : List Token → Option (List Token)
  | .flowEntry :: r => if isFirst then some (.flowEntry :: r) else some r
  | r => if isFirst then some r else none

variable (handles : List (String × String))

mutual

/-- A node. Outside of flow collections it may be a block; and behind a key, a sequence whose
entries stand no further right than the key. -/
def node? : Nat → Bool → Bool → Anchors → List Token → Option (Parsed Node)
  | 0, _, _, _, _ => none
  | fuel + 1, mayBeBlock, mayBeFlush, a, ts =>
    match ts with
    | .reference name :: r => (a.names.lookup name).map fun number => (.reference number, a, r)
    | ts => do
      let (anchor, tag, r) := properties ts
      let fullTag ← match tag with
        | none => some none
        | some t => (t.resolve? handles).map some
      let begun := a.start anchor
      let (node, b, r) ← match r with
        | .plain s :: r => some (.scalar .plain fullTag s, begun, r)
        | .quoted s :: r => some (.scalar .quoted fullTag s, begun, r)
        | .literal s :: r => some (.scalar .literal fullTag s, begun, r)
        | .folded s :: r => some (.scalar .folded fullTag s, begun, r)
        | .flowSequenceStart :: r =>
          (flowItems? fuel true begun r).map fun (items, rest) => (.sequence items, rest)
        | .flowMappingStart :: r =>
          (flowEntries? fuel true begun r).map fun (entries, rest) => (.mapping entries, rest)
        | t :: r =>
          if mayBeFlush && t = .blockEntry then
            (flushItems? fuel begun (t :: r)).map fun (items, rest) => (.sequence items, rest)
          else if mayBeBlock && t = .blockSequenceStart then
            (blockItems? fuel begun r).map fun (items, rest) => (.sequence items, rest)
          else if mayBeBlock && t = .blockMappingStart then
            (blockEntries? fuel begun r).map fun (entries, rest) => (.mapping entries, rest)
          else if anchor.isSome || tag.isSome then
            some (.scalar .plain fullTag "", begun, t :: r)
          else none
        | [] =>
          if anchor.isSome || tag.isSome then some (.scalar .plain fullTag "", begun, []) else none
      pure (node, b.finish a node anchor, r)

/-- The items of a block sequence up to its end. -/
def blockItems? : Nat → Anchors → List Token → Option (Parsed (List Node))
  | 0, _, _ => none
  | _ + 1, a, .blockEnd :: r => some ([], a, r)
  | fuel + 1, a, .blockEntry :: r => do
    let isEmpty := match r with
      | .blockEntry :: _ | .blockEnd :: _ => true
      | _ => false
    let (item, a, r) ← if isEmpty then some (.empty, a, r) else node? fuel true false a r
    let (items, rest) ← blockItems? fuel a r
    pure (item :: items, rest)
  | _ + 1, _, _ => none

/-- The items of a sequence that stands flush with the key in front of it. -/
def flushItems? : Nat → Anchors → List Token → Option (Parsed (List Node))
  | 0, _, _ => none
  | fuel + 1, a, .blockEntry :: r => do
    let isEmpty := isMissing r || r.head? = some .blockEntry
    let (item, a, r) ← if isEmpty then some (.empty, a, r) else node? fuel true false a r
    let (items, rest) ← flushItems? fuel a r
    pure (item :: items, rest)
  | _ + 1, a, r => some ([], a, r)

/-- The entries of a block mapping up to its end. -/
def blockEntries? : Nat → Anchors → List Token → Option (Parsed (List (Node × Node)))
  | 0, _, _ => none
  | _ + 1, a, .blockEnd :: r => some ([], a, r)
  | fuel + 1, a, .key :: r => do
    let (key, a, r) ← if isMissing r then some (.empty, a, r) else node? fuel true true a r
    let (value, a, r) ← match r with
      | .value :: r => if isMissing r then some (.empty, a, r) else node? fuel true true a r
      | r => some (.empty, a, r)
    let (entries, rest) ← blockEntries? fuel a r
    pure ((key, value) :: entries, rest)
  | _ + 1, _, _ => none

/-- The items of a flow sequence up to its bracket. An item with a key is a mapping of its own; if
nothing stands behind the mark of a key, the token that follows it is lost. -/
def flowItems? : Nat → Bool → Anchors → List Token → Option (Parsed (List Node))
  | 0, _, _, _ => none
  | _ + 1, _, a, .flowSequenceEnd :: r => some ([], a, r)
  | fuel + 1, isFirst, a, ts => do
    match ← afterComma? isFirst ts with
    | .flowSequenceEnd :: r => pure ([], a, r)
    | .key :: r =>
      let (key, a, r) ← match r with
        | .value :: r | .flowEntry :: r | .flowSequenceEnd :: r => some (.empty, a, r)
        | r => node? fuel false false a r
      let (value, a, r) ← match r with
        | .value :: r =>
          if isMissingBefore .flowSequenceEnd r then some (.empty, a, r)
          else node? fuel false false a r
        | r => some (.empty, a, r)
      let (items, rest) ← flowItems? fuel false a r
      pure (.mapping [(key, value)] :: items, rest)
    | r =>
      let (item, a, r) ← node? fuel false false a r
      let (items, rest) ← flowItems? fuel false a r
      pure (item :: items, rest)

/-- The entries of a flow mapping up to its brace. -/
def flowEntries? : Nat → Bool → Anchors → List Token → Option (Parsed (List (Node × Node)))
  | 0, _, _, _ => none
  | _ + 1, _, a, .flowMappingEnd :: r => some ([], a, r)
  | fuel + 1, isFirst, a, ts => do
    match ← afterComma? isFirst ts with
    | .flowMappingEnd :: r => pure ([], a, r)
    | .key :: r =>
      let (key, a, r) ←
        if isMissingBefore .flowMappingEnd r || r.head? = some .value then some (.empty, a, r)
        else node? fuel false false a r
      let (value, a, r) ← match r with
        | .value :: r =>
          if isMissingBefore .flowMappingEnd r then some (.empty, a, r)
          else node? fuel false false a r
        | r => some (.empty, a, r)
      let (entries, rest) ← flowEntries? fuel false a r
      pure ((key, value) :: entries, rest)
    | r =>
      let (key, a, r) ← node? fuel false false a r
      let (entries, rest) ← flowEntries? fuel false a r
      pure ((key, .empty) :: entries, rest)

end

/-! ## Documents -/

/-- The handles that directives define, and the tokens behind them. A document has at most one
version, which must be known, and defines a handle once. -/
def directives? (hasVersion : Bool) (handles : List (String × String)) :
    List Token → Option (List (String × String) × List Token)
  | .directive (.version major minor) :: r =>
    if hasVersion || major ≠ 1 || (minor ≠ 1 && minor ≠ 2) then none
    else directives? true handles r
  | .directive (.handle name expansion) :: r =>
    if handles.any (·.1 == name) then none
    else directives? hasVersion (handles ++ [(name, expansion)]) r
  | r => some (handles, r)

/-- Whether a document without contents ends here. -/
def isEmptyDocument : List Token → Bool
  | [] | .directive _ :: _ | .documentStart :: _ | .documentEnd :: _ => true
  | _ => false

/-- The node of the only document that tokens spell, with its anchors. -/
def document? (ts : List Token) : Option (Node × Anchors) := do
  let fuel := 4 * ts.length + 4
  let (node, a, r) ← match ts with
    | [] => some (.empty, {}, [])
    | .directive _ :: _ | .documentStart :: _ => do
      let (handles, r) ← directives? false [] ts
      match r with
      | .documentStart :: r =>
        if isEmptyDocument r then some (.empty, {}, r)
        else node? handles fuel true false {} r
      | _ => none
    | ts => node? [] fuel true false {} ts
  if (r.dropWhile (· = .documentEnd)).isEmpty then some (node, a) else none

end BuildingEmulation.Yaml
