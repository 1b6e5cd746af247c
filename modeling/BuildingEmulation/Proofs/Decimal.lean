import BuildingEmulation.Decimal.Layout
import BuildingEmulation.Reference.Series
import BuildingEmulation.Scalar.Extended
import Mathlib.Algebra.Order.Ring.Rat

/-!
# Numbers and their texts

No number has an empty text, so a field of a table that holds nothing holds no number.

Exact numbers have texts too, among the extended scalars as well. A ratio is written with as many
places as its denominator may need, and is cut off there if it has no end.

Results:
* `plain_ne_nil`: the text of a number is never empty.
-/
namespace BuildingEmulation.Decimal

theorem digitsOf_ne_nil (n : Nat) : digitsOf n ≠ [] := Nat.toDigits_ne_nil

theorem withPoint_ne_nil {digits : List Char} (h : digits ≠ []) (places : Nat) :
    withPoint digits places ≠ [] := by
  unfold withPoint
  split
  · exact h
  · split <;> simp

theorem Literal.plainChars_ne_nil (l : Literal) : l.plainChars ≠ [] := by
  unfold plainChars
  split
  · simp
  · simp
  · simp
  · next d e _ =>
    have hdigits := digitsOf_ne_nil d
    split
    · simp [hdigits]
    · simp [withPoint_ne_nil hdigits]

section

variable {α : Type} [Numeral α]

theorem plain_ne_nil (x : α) : (plain x).toList ≠ [] := by
  unfold plain
  rw [String.toList_ofList]
  exact Literal.plainChars_ne_nil _

/-- The text of a number in a table stands for that number. Among the numbers of a machine this is
so for all that are finite; an undefined one is not even equal to itself. -/
def ReadsBack (x : α) : Prop := Reference.number? (plain x).toList = some x

instance [DecidableEq α] (x : α) : Decidable (ReadsBack x) :=
  inferInstanceAs (Decidable (Reference.number? (plain x).toList = some x))

end

/-! ## Exact numbers -/

/-- The value of a finite literal; zero for any other. -/
def Literal.exact : Literal → Rat
  | .finite s d e => (if s then -1 else 1) * (d * 10 ^ e)
  | _ => 0

/-- The places that a ratio is written with. A denominator of `k` bits divides a power of ten
only if it divides the `k`-th one. -/
def placesOf (q : Rat) : Nat := q.den.log2

instance exact : Numeral Rat where
  ofLiteral := Literal.exact
  toLiteral _ q :=
    .finite (q < 0) (q.num.natAbs * 10 ^ placesOf q / q.den) (-(placesOf q : Int))

/-- Scalars that are not finite have their names. -/
instance extended : Numeral Scalar.Extended where
  ofLiteral
    | .infinite s => .infinite s
    | .undefined => .undefined
    | l => .finite l.exact
  toLiteral
    | tie, .finite q => Numeral.toLiteral tie q
    | _, .infinite s => .infinite s
    | _, .undefined => .undefined

end BuildingEmulation.Decimal
