import BuildingEmulation.Scalar
import BuildingEmulation.Document
import BuildingEmulation.Decimal.Layout

/-!
# Writing JSON

A document on one line, or spread over indented lines. A real that is not finite has no JSON form
and is written as `null`.
-/
namespace BuildingEmulation.Document

/-- The two hexadecimal digits of a control character. -/
def hexPair (n : Nat) : List Char := [Nat.digitChar (n / 16), Nat.digitChar (n % 16)]

/-- A character inside a quoted string. -/
def escape (c : Char) : List Char :=
  match c with
  | '"' => ['\\', '"']
  | '\\' => ['\\', '\\']
  | '\n' => ['\\', 'n']
  | '\r' => ['\\', 'r']
  | '\t' => ['\\', 't']
  | '\x08' => ['\\', 'b']
  | '\x0c' => ['\\', 'f']
  | c => if c.toNat < 0x20 then '\\' :: 'u' :: '0' :: '0' :: hexPair c.toNat else [c]

def quote (s : String) : String := String.ofList ('"' :: (s.toList.flatMap escape ++ ['"']))

variable {α : Type} [Scalar α] [Decimal.Numeral α]

/-- A value that is neither list nor record. -/
def renderScalar : Document α → String
  | .bool true => "true"
  | .bool false => "false"
  | .integer n => toString n
  | .real x => if Scalar.isFinite x then Decimal.compact x else "null"
  | .text s => quote s
  | _ => "null"

mutual

/-- A document on one line. -/
def render : Document α → String
  | .list items => "[" ++ renderItems items ++ "]"
  | .record fields => "\x7b" ++ renderFields fields ++ "\x7d"
  | d => renderScalar d

def renderItems : List (Document α) → String
  | [] => ""
  | [d] => render d
  | d :: rest => render d ++ "," ++ renderItems rest

def renderFields : List (String × Document α) → String
  | [] => ""
  | [(name, d)] => quote name ++ ":" ++ render d
  | (name, d) :: rest => quote name ++ ":" ++ render d ++ "," ++ renderFields rest

end

/-- A new line, indented by two blanks per level. -/
def newLine (level : Nat) : String := "\n" ++ String.ofList (List.replicate (2 * level) ' ')

mutual

/-- A document over several lines, one item or field on each. -/
def renderIndented (level : Nat) : Document α → String
  | .list [] => "[]"
  | .record [] => "\x7b\x7d"
  | .list items => "[" ++ indentItems (level + 1) items ++ newLine level ++ "]"
  | .record fields => "\x7b" ++ indentFields (level + 1) fields ++ newLine level ++ "\x7d"
  | d => renderScalar d

def indentItems (level : Nat) : List (Document α) → String
  | [] => ""
  | [d] => newLine level ++ renderIndented level d
  | d :: rest => newLine level ++ renderIndented level d ++ "," ++ indentItems level rest

def indentFields (level : Nat) : List (String × Document α) → String
  | [] => ""
  | [(name, d)] => newLine level ++ quote name ++ ": " ++ renderIndented level d
  | (name, d) :: rest =>
    newLine level ++ quote name ++ ": " ++ renderIndented level d ++ "," ++ indentFields level rest

end

end BuildingEmulation.Document
