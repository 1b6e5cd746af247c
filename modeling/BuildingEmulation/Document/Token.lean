import BuildingEmulation.Scalar
import BuildingEmulation.Document

/-!
# Tokens of JSON

A JSON text as a sequence of tokens. Where the text stops being JSON the sequence ends with a
`malformed` token, so a reader that goes from left to right meets the faults of a text in their
order. A number or string that is well formed but names no value is a token of its own: it does no
harm where nobody reads it.

The text comes as bytes. Only inside of strings are there any that do not stand for a character of
their own, so the tokens are told apart by the characters that single bytes stand for, and it is the
bytes of a string that have to be the UTF-8 form of a text.
-/
namespace BuildingEmulation.Document

/-- A token of a JSON text. -/
inductive Token (α : Type)
  | openRecord
  | closeRecord
  | openList
  | closeList
  | colon
  | comma
  | scalar (d : Document α)
  /-- A string that is not a text, or else a number beyond every finite scalar. -/
  | valueless (isText : Bool)
  | malformed
  deriving Repr

namespace Token

/-- The blanks between tokens. -/
def isBlank (c : Char) : Bool := c = ' ' || c = '\n' || c = '\t' || c = '\r'

def hexValue? (c : Char) : Option Nat :=
  if c.isDigit then some (c.toNat - '0'.toNat)
  else if 'a' ≤ c && c ≤ 'f' then some (c.toNat - 'a'.toNat + 10)
  else if 'A' ≤ c && c ≤ 'F' then some (c.toNat - 'A'.toNat + 10)
  else none

/-- The number that four hexadecimal digits spell. -/
def hex4? (a b c d : Char) : Option Nat := do
  let a ← hexValue? a
  let b ← hexValue? b
  let c ← hexValue? c
  let d ← hexValue? d
  pure (a * 4096 + b * 256 + c * 16 + d)

/-- The characters that stand for themselves or a control character behind a backslash. -/
def escaped? : Char → Option Char
  | '"' => some '"'
  | '\\' => some '\\'
  | '/' => some '/'
  | 'b' => some '\x08'
  | 'f' => some '\x0c'
  | 'n' => some '\n'
  | 'r' => some '\r'
  | 't' => some '\t'
  | _ => none

/-- The character with the number of a byte. -/
def ofByte (b : UInt8) : Char := Char.ofNat b.toNat

/-- The UTF-8 form of the character with a number. -/
def encode (n : Nat) : List UInt8 := String.utf8EncodeChar (Char.ofNat n)

/-- The bytes of a string up to its closing quote, and what follows. A character outside the first
plane is escaped as two halves, and neither half may stand alone. -/
def stringBody? : List Char → Option (List UInt8 × List Char)
  | '"' :: r => some ([], r)
  | '\\' :: 'u' :: a :: b :: c :: d :: '\\' :: 'u' :: e :: f :: g :: h :: r =>
    match hex4? a b c d with
    | none => none
    | some high =>
      if 0xD800 ≤ high && high < 0xDC00 then
        match hex4? e f g h with
        | none => none
        | some low =>
          if 0xDC00 ≤ low && low < 0xE000 then
            (stringBody? r).map fun (s, rest) =>
              (encode (0x10000 + (high - 0xD800) * 1024 + (low - 0xDC00)) ++ s, rest)
          else none
      else if 0xDC00 ≤ high && high < 0xE000 then none
      else
        (stringBody? ('\\' :: 'u' :: e :: f :: g :: h :: r)).map fun (s, rest) =>
          (encode high ++ s, rest)
  | '\\' :: 'u' :: a :: b :: c :: d :: r =>
    match hex4? a b c d with
    | none => none
    | some code =>
      if 0xD800 ≤ code && code < 0xE000 then none
      else (stringBody? r).map fun (s, rest) => (encode code ++ s, rest)
  | '\\' :: c :: r =>
    match escaped? c with
    | none => none
    | some x => (stringBody? r).map fun (s, rest) => (encode x.toNat ++ s, rest)
  | c :: r =>
    if c.toNat < 0x20 then none
    else (stringBody? r).map fun (s, rest) => (UInt8.ofNat c.toNat :: s, rest)
  | [] => none

/-- What follows the closing quote of a string, whatever its bytes and escapes may stand for. -/
def afterString? : List Char → Option (List Char)
  | '"' :: r => some r
  | '\\' :: 'u' :: a :: b :: c :: d :: r => if (hex4? a b c d).isSome then afterString? r else none
  | '\\' :: c :: r => if (escaped? c).isSome then afterString? r else none
  | c :: r => if c.toNat < 0x20 then none else afterString? r
  | [] => none

section

variable {α : Type} [Scalar α] [Decimal.Numeral α]

open Decimal (spanDigits digitsValue Literal Numeral)

/-- A literal as a real, unless it exceeds every finite scalar. -/
def finite? (literal : Literal) : Option (Document α) :=
  let x : α := Numeral.ofLiteral literal
  if Scalar.isFinite x then some (.real x) else none

/-- A number without point and exponent: whole if it fits in 64 bits, with a sign or without. -/
def wholeNumber? (negative : Bool) (n : Nat) : Option (Document α) :=
  if negative then
    if 0 < n && n ≤ pow2 63 then some (.integer (-n)) else finite? (.finite true n 0)
  else if n < pow2 64 then some (.integer n)
  else finite? (.finite false n 0)

/-- A number, unless it exceeds every finite scalar, and what follows it: no zero in front of other
digits, digits on both sides of a point and in an exponent. -/
def number? (cs : List Char) : Option (Option (Document α) × List Char) :=
  let (negative, r) := match cs with
    | '-' :: r => (true, r)
    | r => (false, r)
  let (whole, r) := spanDigits r
  if whole.isEmpty || (1 < whole.length && whole.head? = some '0') then none
  else
    let (fraction, r) : Option (List Char) × List Char := match r with
      | '.' :: r => let (f, r) := spanDigits r; (some f, r)
      | r => (none, r)
    let (exponent, r) : Option (Bool × List Char) × List Char := match r with
      | 'e' :: '-' :: r | 'E' :: '-' :: r => let (e, r) := spanDigits r; (some (true, e), r)
      | 'e' :: '+' :: r | 'E' :: '+' :: r => let (e, r) := spanDigits r; (some (false, e), r)
      | 'e' :: r | 'E' :: r => let (e, r) := spanDigits r; (some (false, e), r)
      | r => (none, r)
    if fraction = some [] || exponent.map (·.2) = some [] then none
    else match fraction, exponent with
      | none, none => some (wholeNumber? negative (digitsValue whole 0), r)
      | _, _ =>
        let power : Int := match exponent with
          | none => 0
          | some (true, e) => -(digitsValue e 0 : Int)
          | some (false, e) => digitsValue e 0
        let literal := Literal.ofParts whole (fraction.getD []) power
        some (finite? (if negative then literal.negate else literal), r)

/-- What is left behind a word. -/
def after? : List Char → List Char → Option (List Char)
  | [], r => some r
  | w :: ws, c :: r => if w = c then after? ws r else none
  | _ :: _, [] => none

/-- The token a text without leading blanks starts with, and what follows. -/
def first? : List Char → Option (Token α × List Char)
  | '{' :: r => some (openRecord, r)
  | '}' :: r => some (closeRecord, r)
  | '[' :: r => some (openList, r)
  | ']' :: r => some (closeList, r)
  | ':' :: r => some (colon, r)
  | ',' :: r => some (comma, r)
  | '"' :: r =>
    match stringBody? r with
    | some (bytes, rest) =>
      match String.fromUTF8? ⟨bytes.toArray⟩ with
      | some s => some (scalar (.text s), rest)
      | none => some (valueless true, rest)
    | none => (afterString? r).map (valueless true, ·)
  | 'n' :: r => (after? ['u', 'l', 'l'] r).map (scalar .null, ·)
  | 't' :: r => (after? ['r', 'u', 'e'] r).map (scalar (.bool true), ·)
  | 'f' :: r => (after? ['a', 'l', 's', 'e'] r).map (scalar (.bool false), ·)
  | cs =>
    (number? cs).map fun
      | (some d, rest) => (scalar d, rest)
      | (none, rest) => (valueless false, rest)

/-- The tokens of a text, at most as many as it has bytes. -/
def scan : Nat → List Char → List (Token α)
  | 0, _ => []
  | fuel + 1, cs =>
    match cs.dropWhile isBlank with
    | [] => []
    | rest =>
      match first? rest with
      | none => [malformed]
      | some (t, rest) => t :: scan fuel rest

/-- The tokens of a JSON text. -/
def ofBytes (bytes : List UInt8) : List (Token α) := scan (bytes.length + 1) (bytes.map ofByte)

end

end Token

end BuildingEmulation.Document
