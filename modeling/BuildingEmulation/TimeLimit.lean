import BuildingEmulation.Decimal.Layout

/-!
# Time limits

How long a call on a model may take.
-/
namespace BuildingEmulation

structure TimeLimit where
  milliseconds : Nat
  deriving Repr, DecidableEq

namespace TimeLimit

def ofSeconds (n : Nat) : TimeLimit := ⟨n * 1000⟩

/-- A limit in whole seconds, a half counting as one. -/
def seconds (t : TimeLimit) : Nat := (t.milliseconds + 500) / 1000

/-- The limit in the largest unit that does not exceed it, with no zeros behind the point. -/
def text (t : TimeLimit) : String :=
  let whole := t.milliseconds / 1000
  let rest := t.milliseconds % 1000
  if t.milliseconds = 0 then "0ns"
  else if whole = 0 then s!"{rest}ms"
  else if rest = 0 then s!"{whole}s"
  else
    let digits := Decimal.digitsOf rest
    let places := (Decimal.zeros (3 - digits.length) ++ digits).reverse.dropWhile (· = '0')
    s!"{whole}.{String.ofList places.reverse}s"

theorem seconds_ofSeconds (n : Nat) : (ofSeconds n).seconds = n := by
  simp only [seconds, ofSeconds]; omega

end TimeLimit

end BuildingEmulation
