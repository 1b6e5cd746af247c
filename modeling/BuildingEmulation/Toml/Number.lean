import BuildingEmulation.Power
import BuildingEmulation.Scalar
import BuildingEmulation.Document

/-!
# Numbers and times in TOML

Whole numbers in four radices, reals, and points in time. Digits may be separated by single
underscores. A point in time is a document of its own kind: a record with one field that no
structure has.
-/
namespace BuildingEmulation.Toml

open Decimal (Literal Numeral digitsValue)

/-! ## Digits -/

/-- Digits with single underscores between them, and what follows; at least one digit. -/
def digits? (isDigit : Char → Bool) : List Char → Option (List Char × List Char)
  | [] => none
  | c :: rest =>
    if !isDigit c then none
    else match rest with
      | '_' :: d :: after =>
        if isDigit d then (digits? isDigit (d :: after)).map fun (ds, r) => (c :: ds, r)
        else none
      | d :: after =>
        if isDigit d then (digits? isDigit (d :: after)).map fun (ds, r) => (c :: ds, r)
        else some ([c], d :: after)
      | [] => some ([c], [])

/-- A sign that may be missing; set for a minus. -/
def sign (cs : List Char) : Bool × List Char :=
  match cs with
  | '-' :: rest => (true, rest)
  | '+' :: rest => (false, rest)
  | cs => (false, cs)

/-- Decimal digits without a zero in front of others. -/
def whole? (cs : List Char) : Option (List Char × List Char) :=
  match cs with
  | '0' :: rest => some (['0'], rest)
  | cs => digits? Char.isDigit cs

/-! ## Whole numbers -/

/-- A whole number that fits in 64 bits with a sign. -/
def inRange? {α : Type} (n : Int) : Option (Document α) :=
  if -(pow2 63) ≤ n && n < pow2 63 then some (.integer n) else none

def radixDigit? (radix : Nat) (c : Char) : Option Nat :=
  let d :=
    if c.isDigit then c.toNat - '0'.toNat
    else if 'a' ≤ c && c ≤ 'f' then c.toNat - 'a'.toNat + 10
    else if 'A' ≤ c && c ≤ 'F' then c.toNat - 'A'.toNat + 10
    else radix
  if d < radix then some d else none

/-- A whole number behind the mark of its radix. -/
def radixInteger? {α : Type} (radix : Nat) (cs : List Char) : Option (Document α × List Char) := do
  let (ds, rest) ← digits? (fun c => (radixDigit? radix c).isSome) cs
  let n := ds.foldl (fun n c => n * radix + (radixDigit? radix c).getD 0) 0
  pure (← inRange? n, rest)

def integer? {α : Type} (cs : List Char) : Option (Document α × List Char) :=
  match cs with
  | '0' :: 'x' :: rest => radixInteger? 16 rest
  | '0' :: 'o' :: rest => radixInteger? 8 rest
  | '0' :: 'b' :: rest => radixInteger? 2 rest
  | cs => do
    let (negative, rest) := sign cs
    let (ds, rest) ← whole? rest
    let n : Int := digitsValue ds 0
    pure (← inRange? (if negative then -n else n), rest)

/-! ## Reals -/

/-- An exponent, if there is one here. -/
def exponent? (cs : List Char) : Option (Int × List Char) :=
  match cs with
  | c :: rest =>
    if c = 'e' || c = 'E' then do
      let (negative, rest) := sign rest
      let (ds, rest) ← digits? Char.isDigit rest
      let n : Int := digitsValue ds 0
      pure (if negative then -n else n, rest)
    else none
  | [] => none

/-- Digits with a point and digits behind it, or an exponent, or both. -/
def decimal? (cs : List Char) : Option (Literal × List Char) := do
  let (ds, rest) ← whole? cs
  match rest with
  | '.' :: rest =>
    let (fraction, rest) ← digits? Char.isDigit rest
    match exponent? rest with
    | some (e, rest) => pure (.ofParts ds fraction e, rest)
    | none => pure (.ofParts ds fraction 0, rest)
  | rest =>
    let (e, rest) ← exponent? rest
    pure (.ofParts ds [] e, rest)

/-- The names of numbers that are not finite. -/
def special? (cs : List Char) : Option (Literal × List Char) :=
  match cs with
  | 'i' :: 'n' :: 'f' :: rest => some (.infinite false, rest)
  | 'n' :: 'a' :: 'n' :: rest => some (.undefined, rest)
  | _ => none

/-- A real. Written in digits it must not exceed every finite number, though it may lie below. -/
def real? {α : Type} [Scalar α] [Numeral α] (cs : List Char) : Option (Document α × List Char) :=
  let (negative, rest) := sign cs
  let signed (literal : Literal) : α :=
    Numeral.ofLiteral (if negative then literal.negate else literal)
  match decimal? rest with
  | some (literal, rest) =>
    let x := signed literal
    if x == Numeral.ofLiteral (.infinite false) then none else some (.real x, rest)
  | none => (special? rest).map fun (literal, rest) => (.real (signed literal), rest)

/-! ## Points in time -/

/-- The field under which a point in time stands. -/
def timestampField : String := "$datetime"

/-- A number of exactly `count` digits between two bounds. -/
def fixed? (count low high : Nat) (cs : List Char) : Option (Nat × List Char) :=
  let ds := cs.take count
  let n := digitsValue ds 0
  if ds.length = count && ds.all Char.isDigit && low ≤ n && n ≤ high then some (n, cs.drop count)
  else none

/-- What follows a character. -/
def after? (c : Char) : List Char → Option (List Char)
  | d :: rest => if d = c then some rest else none
  | [] => none

def isLeap (year : Nat) : Bool := year % 4 = 0 && (year % 100 ≠ 0 || year % 400 = 0)

def daysIn (year month : Nat) : Nat :=
  if month = 2 then (if isLeap year then 29 else 28)
  else if month = 4 || month = 6 || month = 9 || month = 11 then 30
  else 31

/-- What follows a date. -/
def date? (cs : List Char) : Option (List Char) := do
  let (year, rest) ← fixed? 4 0 9999 cs
  let (month, rest) ← fixed? 2 1 12 (← after? '-' rest)
  let (_, rest) ← fixed? 2 1 (daysIn year month) (← after? '-' rest)
  pure rest

/-- What follows a time of day. -/
def time? (cs : List Char) : Option (List Char) := do
  let (_, rest) ← fixed? 2 0 23 cs
  let (_, rest) ← fixed? 2 0 59 (← after? ':' rest)
  let (_, rest) ← fixed? 2 0 60 (← after? ':' rest)
  match rest with
  | '.' :: fraction =>
    let ds := fraction.takeWhile Char.isDigit
    if ds.isEmpty then pure rest else pure (fraction.drop ds.length)
  | rest => pure rest

/-- What follows an offset from universal time. -/
def offset? (cs : List Char) : Option (List Char) :=
  match cs with
  | [] => none
  | c :: rest =>
    if c = 'Z' || c = 'z' then some rest
    else if c = '+' || c = '-' then do
      let (_, rest) ← fixed? 2 0 23 rest
      let (_, rest) ← fixed? 2 0 59 (← after? ':' rest)
      pure rest
    else none

/-- What follows a time of day and its offset behind a date, if they are there. -/
def timeBehindDate (cs : List Char) : List Char :=
  match cs with
  | c :: rest =>
    if c = 'T' || c = 't' || c = ' ' then
      match time? rest with
      | some rest => (offset? rest).getD rest
      | none => cs
    else cs
  | [] => cs

/-- A date, a time of day, or both. -/
def timestamp? {α : Type} (cs : List Char) : Option (Document α × List Char) := do
  let rest ← match date? cs with
    | some rest => some (timeBehindDate rest)
    | none => time? cs
  let written := cs.take (cs.length - rest.length)
  pure (.record [(timestampField, .text (String.ofList written))], rest)

end BuildingEmulation.Toml
