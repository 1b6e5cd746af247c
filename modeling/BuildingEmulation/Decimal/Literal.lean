/-!
# Decimal literals

A number as it stands in a text: digits and a power of ten, an infinity, or no number at all.
`Numeral` says which scalar a literal names and which literal is written for a scalar;
`Literal.ofChars?` reads the common notation of reals.
-/
namespace BuildingEmulation.Decimal

/-- `± digits · 10 ^ exponent`, an infinity, or an undefined number. -/
inductive Literal
  | finite (negative : Bool) (digits : Nat) (exponent : Int)
  | infinite (negative : Bool)
  | undefined
  deriving DecidableEq, Repr

/-- Which of two decimals is written for a number that lies exactly between them. -/
inductive Tie
  | up
  | even
  deriving DecidableEq, Repr

/-- Scalars that have a written form. -/
class Numeral (α : Type) where
  /-- The scalar nearest to what the literal says. -/
  ofLiteral : Literal → α
  /-- A literal that names the scalar. -/
  toLiteral : Tie → α → Literal

/-- The value of a decimal digit; zero for any other character. -/
def digitValue (c : Char) : Nat := if c.isDigit then c.toNat - '0'.toNat else 0

/-- The number that digits spell, read after `before`. -/
def digitsValue (digits : List Char) (before : Nat) : Nat :=
  digits.foldl (fun n c => n * 10 + digitValue c) before

/-- The digits a text starts with, and what follows them. -/
def spanDigits (cs : List Char) : List Char × List Char :=
  (cs.takeWhile Char.isDigit, cs.dropWhile Char.isDigit)

namespace Literal

/-- The same number with the other sign. -/
def negate : Literal → Literal
  | finite s d e => finite (!s) d e
  | infinite s => infinite (!s)
  | undefined => undefined

/-- A literal from the digits before and after the point and a power of ten. -/
def ofParts (whole fraction : List Char) (exponent : Int) : Literal :=
  finite false (digitsValue fraction (digitsValue whole 0)) (exponent - fraction.length)

/-- An exponent: digits after an optional sign, and nothing else. -/
def exponent? (cs : List Char) : Option Int :=
  let (negative, digits) := match cs with
    | '-' :: r => (true, r)
    | '+' :: r => (false, r)
    | r => (false, r)
  if digits.isEmpty || !digits.all Char.isDigit then none
  else some (if negative then -(digitsValue digits 0 : Int) else digitsValue digits 0)

/-- An unsigned real: digits with an optional point among or beside them, at least one digit, and
an optional exponent; or the name of a number that is not finite, in any case. -/
def ofUnsigned? (cs : List Char) : Option Literal :=
  let word := String.ofList (cs.map Char.toLower)
  if word = "inf" || word = "infinity" then some (infinite false)
  else if word = "nan" then some undefined
  else
    let (whole, afterWhole) := spanDigits cs
    let (fraction, rest) := match afterWhole with
      | '.' :: r => spanDigits r
      | r => ([], r)
    if whole.isEmpty && fraction.isEmpty then none
    else match rest with
      | [] => some (ofParts whole fraction 0)
      | c :: r => if c = 'e' || c = 'E' then (exponent? r).map (ofParts whole fraction) else none

/-- A real with an optional sign. -/
def ofChars? : List Char → Option Literal
  | '-' :: r => (ofUnsigned? r).map negate
  | '+' :: r => ofUnsigned? r
  | cs => ofUnsigned? cs

end Literal

end BuildingEmulation.Decimal
