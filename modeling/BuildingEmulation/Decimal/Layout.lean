import BuildingEmulation.Scalar
import BuildingEmulation.Decimal.Literal

/-!
# Layouts of numbers

Three ways of setting a number in a text: `plain` never uses an exponent, `compact` uses one for
very small and very large numbers and otherwise always shows a point, `fixed` shows a given number
of places.
-/
namespace BuildingEmulation.Decimal

/-- The digits of a whole number. -/
def digitsOf (n : Nat) : List Char := Nat.toDigits 10 n

def zeros (n : Nat) : List Char := List.replicate n '0'

def signOf (negative : Bool) : List Char := if negative then ['-'] else []

/-- Digits with a point before the last `places` of them, filled up with zeros on the left. -/
def withPoint (digits : List Char) (places : Nat) : List Char :=
  if places = 0 then digits
  else if places < digits.length then
    digits.take (digits.length - places) ++ '.' :: digits.drop (digits.length - places)
  else '0' :: '.' :: (zeros (places - digits.length) ++ digits)

/-- Every digit is written out. -/
def Literal.plainChars : Literal → List Char
  | .undefined => "NaN".toList
  | .infinite s => signOf s ++ "inf".toList
  | .finite s 0 _ => signOf s ++ ['0']
  | .finite s d e =>
    signOf s ++ if 0 ≤ e then digitsOf d ++ zeros e.toNat else withPoint (digitsOf d) (-e).toNat

/-- A point is always shown between `0.00001` and `10 ^ 16`, an exponent outside. -/
def Literal.compactChars : Literal → List Char
  | .undefined => "NaN".toList
  | .infinite s => signOf s ++ "inf".toList
  | .finite s 0 _ => signOf s ++ "0.0".toList
  | .finite s d e =>
    let digits := digitsOf d
    let point : Int := digits.length + e
    signOf s ++
      if 0 ≤ e && point ≤ 16 then digits ++ zeros e.toNat ++ ".0".toList
      else if (-5 : Int) < point && point ≤ 16 then withPoint digits (-e).toNat
      else
        let power := point - 1
        let mantissa := match digits with
          | [c] => [c]
          | c :: r => c :: '.' :: r
          | [] => []
        mantissa ++ 'e' :: (signOf (power < 0) ++ digitsOf power.natAbs)

section

variable {α : Type} [Numeral α]

/-- The text of a number in messages and tables: no exponent, and a number exactly between two
shortest decimals is written as the upper one. -/
def plain (x : α) : String := String.ofList (Numeral.toLiteral .up x).plainChars

/-- The text of a number in documents and reference files. -/
def compact (x : α) : String := String.ofList (Numeral.toLiteral .even x).compactChars

/-- The exact value rounded to a number of places, a half going to the even last digit. -/
def fixed [Scalar α] (places : Nat) (x : α) : String :=
  String.ofList <| match Numeral.toLiteral .up x, Scalar.value? x with
    | .finite s _ _, some q =>
      let num := q.num.natAbs * pow10 places
      let whole := num / q.den
      let rest := num % q.den
      let rounded :=
        if 2 * rest < q.den then whole
        else if q.den < 2 * rest then whole + 1
        else whole + whole % 2
      let digits := digitsOf rounded
      signOf s ++ withPoint (zeros (places + 1 - digits.length) ++ digits) places
    | literal, _ => literal.plainChars

end

/-- A text filled up with blanks on the right. -/
def padRight (width : Nat) (s : String) : String :=
  s ++ String.ofList (List.replicate (width - s.length) ' ')

/-- A text filled up with blanks on the left. -/
def padLeft (width : Nat) (s : String) : String :=
  String.ofList (List.replicate (width - s.length) ' ') ++ s

end BuildingEmulation.Decimal
