import BuildingEmulation.Document.Shape
import BuildingEmulation.Yaml.Node

/-!
# Reading YAML

A YAML text read against a shape. The shape decides what a scalar is: any scalar is a text, and a
plain one may be a number. Where a list or a record is expected nothing may stand for an empty one.
-/
namespace BuildingEmulation.Yaml

open Document (Shape)
open Decimal (Literal Numeral)

/-! ## Numbers -/

/-- The number a scalar spells: a decimal that is not beyond every finite scalar, or the name of a
number that is not finite behind a point. -/
def number? {α : Type} [Scalar α] [Numeral α] (text : String) : Option α :=
  let unsigned := match text.toList with
    | '+' :: rest => rest
    | cs => cs
  if [".inf", ".Inf", ".INF"].contains (String.ofList unsigned) then
    some (Numeral.ofLiteral (.infinite false))
  else if ["-.inf", "-.Inf", "-.INF"].contains text then some (Numeral.ofLiteral (.infinite true))
  else if [".nan", ".NaN", ".NAN"].contains text then some (Numeral.ofLiteral .undefined)
  else if text.startsWith "+" && unsigned.head?.any (fun c => c = '+' || c = '-') then none
  else do
    let x : α := Numeral.ofLiteral (← Literal.ofChars? unsigned)
    if Scalar.isFinite x then some x else none

/-! ## Nodes against shapes -/

/-- The node that a reference leads to, or the node itself. -/
def Node.follow? (a : Anchors) : Node → Option Node
  | .reference number => a.node? number
  | node => some node

/-- The text of a scalar. -/
def Node.text? : Node → Option String
  | .scalar _ _ text => some text
  | _ => none

/-- The number of a scalar that is plain, or a literal block whose tag says so. -/
def Node.real? {α : Type} [Scalar α] [Numeral α] : Node → Option α
  | .scalar .plain _ text => number? text
  | .scalar .literal tag text => if tag = some (coreTags ++ "float") then number? text else none
  | _ => none

/-- A plain scalar that stands for no value. -/
def Node.isNull : Node → Bool
  | .scalar .plain none text => ["", "~", "null", "Null", "NULL"].contains text
  | .scalar .plain tag _ => tag = some (coreTags ++ "null")
  | _ => false

def Node.isNothing : Node → Bool
  | .scalar .plain _ text => text.isEmpty
  | _ => false

/-- The items of a sequence. -/
def Node.items? (node : Node) : Option (List Node) :=
  match node with
  | .sequence items => some items
  | node => if node.isNothing then some [] else none

/-- The entries of a mapping whose keys are scalars. -/
def Node.entries? (a : Anchors) (node : Node) : Option (List (String × Node)) :=
  match node with
  | .mapping entries => entries.mapM fun (key, value) => do
    pure (← (← key.follow? a).text?, value)
  | node => if node.isNothing then some [] else none

/-- The value of a member among the entries of a mapping, read once it is found. A member may be
given once. -/
def member? {β : Type} (entries : List (String × Node)) (name : String) (isRequired : Bool)
    (read : Node → Option β) : Option (Option (String × β)) :=
  match entries.filter (·.1 == name) with
  | [] => if isRequired then none else some none
  | [(_, node)] => (read node).map fun d => some (name, d)
  | _ => none

variable {α : Type} [Scalar α] [Numeral α]

/-- The document of a shape that a node spells. -/
def ofNode? (a : Anchors) : Shape → Node → Option (Document α)
  | .text, node => do pure (.text (← (← node.follow? a).text?))
  | .real, node => do pure (.real (← (← node.follow? a).real?))
  | .optional value, node => do
    if (← node.follow? a).isNull then pure .null else ofNode? a value node
  | .list item, node => do
    pure (.list (← (← (← node.follow? a).items?).mapM (ofNode? a item)))
  | .table value, node => do
    let entries ← (← node.follow? a).entries? a
    pure (.record (← entries.mapM fun (name, node) => do pure (name, ← ofNode? a value node)))
  | .record members, node => do
    let entries ← (← node.follow? a).entries? a
    let fields ← members.attach.mapM fun ⟨(name, isRequired, shape), _hmem⟩ =>
      member? entries name isRequired (ofNode? a shape)
    pure (.record fields.reduceOption)
termination_by shape => sizeOf shape
decreasing_by
  all_goals simp_wf
  have := List.sizeOf_lt_of_mem _hmem
  simp only [Prod.mk.sizeOf_spec] at this
  omega

/-- The document of a shape that a YAML text spells. -/
def read? (shape : Shape) (text : String) : Option (Document α) := do
  let (node, a) ← document? (← Token.ofText? text)
  ofNode? a shape node

end BuildingEmulation.Yaml
