import BuildingEmulation.Power

/-!
# Socket addresses

A host and a port: four decimal octets, or eight hexadecimal groups in brackets of which one run
of zeros may be left out.
-/
namespace BuildingEmulation

/-- The address of a host. -/
inductive Host
  | v4 (a b c d : UInt8)
  /-- A scope of zero is no scope. -/
  | v6 (groups : Vector UInt16 8) (scope : UInt32)
  deriving Repr, DecidableEq

structure SocketAddress where
  host : Host
  port : UInt16
  deriving Repr, DecidableEq

namespace SocketAddress

/-! ## Writing -/

def hexDigits (n : Nat) : String := String.ofList (Nat.toDigits 16 n)

/-- Groups with colons between them. -/
def groupsText (groups : List UInt16) : String :=
  ":".intercalate (groups.map fun g => hexDigits g.toNat)

/-- The longest run of zeros in a list that starts at `index`, and the run that is being read; the
first of equal runs. A run is its start and its length. -/
def longestRun (index : Nat) (current longest : Nat × Nat) : List UInt16 → Nat × Nat
  | [] => longest
  | g :: rest =>
    if g = 0 then
      let current := if current.2 = 0 then (index, 1) else (current.1, current.2 + 1)
      longestRun (index + 1) current (if longest.2 < current.2 then current else longest) rest
    else longestRun (index + 1) (0, 0) longest rest

/-- Eight groups; a host of four octets in the last two of them is written as such. -/
def groupsOfHost (groups : List UInt16) : String :=
  match groups with
  | [0, 0, 0, 0, 0, 0xFFFF, g, h] =>
    s!"::ffff:{g.toNat / 256}.{g.toNat % 256}.{h.toNat / 256}.{h.toNat % 256}"
  | groups =>
    let (start, length) := longestRun 0 (0, 0) (0, 0) groups
    if length < 2 then groupsText groups
    else groupsText (groups.take start) ++ "::" ++ groupsText (groups.drop (start + length))

def text (a : SocketAddress) : String :=
  match a.host with
  | .v4 w x y z => s!"{w.toNat}.{x.toNat}.{y.toNat}.{z.toNat}:{a.port.toNat}"
  | .v6 groups scope =>
    let host := groupsOfHost groups.toList
    let scope := if scope = 0 then "" else s!"%{scope.toNat}"
    s!"[{host}{scope}]:{a.port.toNat}"

/-! ## Reading -/

/-- The digit a character stands for in a radix. -/
def digit? (radix : Nat) (c : Char) : Option Nat :=
  let d :=
    if c.isDigit then c.toNat - '0'.toNat
    else if 'a' ≤ c && c ≤ 'f' then c.toNat - 'a'.toNat + 10
    else if 'A' ≤ c && c ≤ 'F' then c.toNat - 'A'.toNat + 10
    else radix
  if d < radix then some d else none

/-- A number below a bound, and what follows its digits. -/
def number? (radix bound : Nat) (maxDigits : Option Nat) (leadingZeros : Bool) (cs : List Char) :
    Option (Nat × List Char) :=
  let digits := cs.takeWhile fun c => (digit? radix c).isSome
  let n := digits.foldl (fun n c => n * radix + (digit? radix c).getD 0) 0
  let tooLong := match maxDigits with
    | some m => m < digits.length
    | none => false
  if digits.isEmpty || tooLong || bound ≤ n then none
  else if !leadingZeros && 1 < digits.length && digits.head? = some '0' then none
  else some (n, cs.drop digits.length)

def octet? (cs : List Char) : Option (UInt8 × List Char) :=
  (number? 10 256 (some 3) false cs).map fun (n, rest) => (n.toUInt8, rest)

/-- What follows a character. -/
def after? (c : Char) : List Char → Option (List Char)
  | d :: rest => if d = c then some rest else none
  | [] => none

/-- Four octets with points between them. -/
def octets? (cs : List Char) : Option ((UInt8 × UInt8 × UInt8 × UInt8) × List Char) := do
  let (a, cs) ← octet? cs
  let (b, cs) ← octet? (← after? '.' cs)
  let (c, cs) ← octet? (← after? '.' cs)
  let (d, cs) ← octet? (← after? '.' cs)
  pure ((a, b, c, d), cs)

def group? (cs : List Char) : Option (UInt16 × List Char) :=
  (number? 16 65536 (some 4) true cs).map fun (n, rest) => (n.toUInt16, rest)

/-- Two groups that hold four octets. -/
def embed (o : UInt8 × UInt8 × UInt8 × UInt8) : List UInt16 :=
  let (a, b, c, d) := o
  [(a.toNat * 256 + b.toNat).toUInt16, (c.toNat * 256 + d.toNat).toUInt16]

/-- At most `limit` groups with colons between them, whether they end with four octets, and what
follows. There is a colon in front of the first group unless it is the very first. -/
def groups? (first : Bool) : Nat → List Char → List UInt16 × Bool × List Char
  | 0, cs => ([], false, cs)
  | limit + 1, cs =>
    match (if first then some cs else after? ':' cs) with
    | none => ([], false, cs)
    | some inner =>
      match (if 0 < limit then octets? inner else none) with
      | some (o, rest) => (embed o, true, rest)
      | none =>
        match group? inner with
        | none => ([], false, cs)
        | some (g, rest) =>
          let (more, octets, rest) := groups? false limit rest
          (g :: more, octets, rest)

/-- The groups in front of and behind the run that was left out, with that run filled in. -/
def fill? (head tail : List UInt16) : Option (Vector UInt16 8) :=
  let groups := (head ++ List.replicate (8 - head.length - tail.length) 0 ++ tail).toArray
  if h : groups.size = 8 then some ⟨groups, h⟩ else none

/-- Eight groups, and what follows them. -/
def hostGroups? (cs : List Char) : Option (Vector UInt16 8 × List Char) := do
  let (head, octets, rest) := groups? true 8 cs
  if head.length = 8 then
    pure (← fill? head [], rest)
  else if octets then none
  else
    let rest ← after? ':' (← after? ':' rest)
    let (tail, _, rest) := groups? true (7 - head.length) rest
    pure (← fill? head tail, rest)

/-- A port and nothing behind it. -/
def port? (cs : List Char) : Option UInt16 := do
  match ← number? 10 65536 none true (← after? ':' cs) with
  | (n, []) => pure n.toUInt16
  | _ => none

def v4? (cs : List Char) : Option SocketAddress := do
  let ((a, b, c, d), rest) ← octets? cs
  pure { host := .v4 a b c d, port := ← port? rest }

/-- A scope behind a percent sign, or none. -/
def scope? (cs : List Char) : Option (UInt32 × List Char) :=
  match cs with
  | '%' :: rest => (number? 10 (pow2 32) none true rest).map fun (n, rest) => (n.toUInt32, rest)
  | cs => some (0, cs)

def v6? (cs : List Char) : Option SocketAddress := do
  let (groups, rest) ← hostGroups? (← after? '[' cs)
  let (scope, rest) ← scope? rest
  pure { host := .v6 groups scope, port := ← port? (← after? ']' rest) }

/-- The address that a text spells. -/
def ofText? (s : String) : Option SocketAddress := v4? s.toList <|> v6? s.toList

end SocketAddress

end BuildingEmulation
