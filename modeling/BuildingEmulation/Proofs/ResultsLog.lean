import BuildingEmulation.Proofs.Extended
import BuildingEmulation.ResultsLog
import Mathlib.Data.List.Chain

/-!
# Reading a log that grows

A log takes a row unless its time is at or before that of the last one. Among numbers this puts the
rows in strict order, so a reader that has the rows up to some instant can ask for those from that
instant on, leave out what it has, and misses nothing. An undefined time stands outside the order:
it is neither at, before nor behind any other.

Results:
* `Ordered.push`: a row that the log takes keeps its order.
* `Ordered.increasing`: rows with defined times are strictly increasing.
* `range_newer`: what a reader gets from the last row it has on.
* `series_pairs`: a series is what the rows of its window have recorded.
-/
namespace BuildingEmulation

/-! ## Comparing -/

/-- Comparisons that put all defined scalars in one order, as those of floating point numbers do. -/
class Scalar.Linear (α : Type) [Scalar α] : Prop where
  lt_of_not_le : ∀ {a b : α}, Scalar.isNaN a = false → Scalar.isNaN b = false → ¬ b ≤ a → a < b
  lt_trans : ∀ {a b c : α}, a < b → b < c → a < c
  le_of_lt : ∀ {a b : α}, a < b → a ≤ b
  not_le_of_lt : ∀ {a b : α}, a < b → ¬ b ≤ a
  beq_of_lt : ∀ {a b : α}, a < b → (b == a) = false

instance Scalar.linear_exact : Scalar.Linear Rat where
  lt_of_not_le _ _ h := not_le.1 h
  lt_trans h h' := lt_trans h h'
  le_of_lt h := le_of_lt h
  not_le_of_lt h := not_le_of_gt h
  beq_of_lt h := beq_false_of_ne (ne_of_gt h)

namespace Scalar.Extended

/-- Where a scalar is below another, and where it equals one, by the kinds of both. -/
theorem lt_iff_below {a b : Extended} : a < b ↔ below a b = true := Iff.rfl

theorem le_iff_below {a b : Extended} : a ≤ b ↔ below a b = true ∨ same a b = true := by
  change (below a b || same a b) = true ↔ _
  rw [Bool.or_eq_true]

theorem isNaN_eq (a : Extended) : isNaN a = !same a a := rfl

instance linear : Linear Extended where
  lt_of_not_le {a b} ha hb h := by
    rw [isNaN_eq] at ha hb
    rw [le_iff_below, not_or] at h
    rw [lt_iff_below]
    rcases a with p | (_ | _) | _ <;> rcases b with q | (_ | _) | _ <;> simp_all [below, same]
    exact lt_of_le_of_ne h.1 (Ne.symm h.2)
  lt_trans {a b c} h h' := by
    rw [lt_iff_below] at h h' ⊢
    rcases a with p | (_ | _) | _ <;> rcases b with q | (_ | _) | _ <;>
      rcases c with r | (_ | _) | _ <;> simp_all [below]
    exact lt_trans h h'
  le_of_lt h := le_iff_below.2 (.inl h)
  not_le_of_lt {a b} h := by
    rw [lt_iff_below] at h
    rw [le_iff_below, not_or]
    rcases a with p | (_ | _) | _ <;> rcases b with q | (_ | _) | _ <;> simp_all [below, same]
    exact ⟨h.le, h.ne'⟩
  beq_of_lt {a b} h := by
    rw [lt_iff_below] at h
    change same b a = false
    rcases a with p | (_ | _) | _ <;> rcases b with q | (_ | _) | _ <;> simp_all [below, same]
    exact h.ne'

end Scalar.Extended

/-! ## The order of the rows -/

namespace ResultsLog

variable {α : Type} [Scalar α] {l : ResultsLog α} {row : ResultRow α}

/-- No row is at or before the one in front of it. -/
def Ordered (l : ResultsLog α) : Prop := l.toList.IsChain fun a b => ¬ b.time ≤ a.time

/-- Every row has a defined time. -/
def Stamped (l : ResultsLog α) : Prop := ∀ row ∈ l.toList, Scalar.isNaN row.time = false

theorem Ordered.push (h : l.Ordered) (later : l.checkNext row.time = .ok ()) :
    (⟨l.rows.push row⟩ : ResultsLog α).Ordered := by
  have hrows : (⟨l.rows.push row⟩ : ResultsLog α).toList = l.toList ++ [row] := Array.toList_push
  unfold Ordered
  rw [hrows, List.isChain_append]
  refine ⟨h, List.isChain_singleton row, ?_⟩
  intro last hlast next hnext
  have hb : l.last? = some last := by
    rw [last?, ← Array.getLast?_toList]
    exact hlast
  have hn : next = row := by simpa using hnext.symm
  subst hn
  intro hle
  unfold checkNext at later
  rw [hb] at later
  simp only [if_pos hle] at later
  cases later

theorem Ordered.increasing [Scalar.Linear α] (h : l.Ordered) (stamped : l.Stamped) :
    l.toList.Pairwise fun a b => a.time < b.time := by
  have trans : Trans (fun a b : ResultRow α => a.time < b.time)
      (fun a b : ResultRow α => a.time < b.time) fun a b : ResultRow α => a.time < b.time :=
    ⟨fun h h' => Scalar.Linear.lt_trans h h'⟩
  suffices hc : l.toList.IsChain fun a b => a.time < b.time from hc.pairwise
  unfold Ordered at h
  unfold Stamped at stamped
  generalize l.toList = rows at h stamped ⊢
  induction rows with
  | nil => exact List.isChain_nil
  | cons a rest ih =>
    cases rest with
    | nil => exact List.isChain_singleton a
    | cons b rest =>
      obtain ⟨hab, hrest⟩ := List.isChain_cons_cons.1 h
      have ha : Scalar.isNaN a.time = false := stamped a (by simp)
      have hb : Scalar.isNaN b.time = false := stamped b (by simp)
      have hlt : a.time < b.time := Scalar.Linear.lt_of_not_le ha hb hab
      exact List.isChain_cons_cons.2 ⟨hlt, ih hrest fun row hm => stamped row (by simp [hm])⟩

/-! ## Windows -/

theorem range_open (l : ResultsLog α) : l.range {} = l.toList := by
  unfold range
  rw [List.filter_eq_self]
  intro row _
  rfl

/-- From the last of the rows that a reader has, only that row itself is not new. -/
theorem range_newer [Scalar.Linear α] {before after : List (ResultRow α)} {last : ResultRow α}
    (hrows : l.toList = before ++ last :: after) (defined : Scalar.isNaN last.time = false)
    (increasing : l.toList.Pairwise fun a b => a.time < b.time) :
    (l.range { start := some last.time }).filter (fun row => !(row.time == last.time)) = after := by
  rw [hrows] at increasing
  obtain ⟨-, hcons, hbefore⟩ := List.pairwise_append.1 increasing
  obtain ⟨hafter, -⟩ := List.pairwise_cons.1 hcons
  have hcontains : ∀ row : ResultRow α,
      ({ start := some last.time } : TimeRange α).contains row.time =
        decide (last.time ≤ row.time) := by
    intro row
    simp [TimeRange.contains]
  unfold range
  simp only [hcontains]
  rw [hrows, List.filter_append, List.filter_cons, List.filter_append]
  have old : (before.filter fun row => decide (last.time ≤ row.time)) = [] := by
    rw [List.filter_eq_nil_iff]
    intro row hm
    have hn : ¬ last.time ≤ row.time :=
      Scalar.Linear.not_le_of_lt (hbefore row hm last (by simp))
    simp [hn]
  have new : ((after.filter fun row => decide (last.time ≤ row.time)).filter
      fun row => !(row.time == last.time)) = after := by
    rw [List.filter_filter, List.filter_eq_self]
    intro row hm
    have hlt : last.time < row.time := hafter row hm
    simp [Scalar.Linear.le_of_lt hlt, Scalar.Linear.beq_of_lt hlt]
  rw [old, List.filter_nil, List.nil_append]
  have same : (last.time == last.time) = true := by simpa [Scalar.isNaN] using defined
  by_cases hle : last.time ≤ last.time
  · simp [hle, same, new]
  · simp [hle, new]

/-- A series has the time and the value of every row in its window that recorded the signal. -/
theorem series_pairs (l : ResultsLog α) (signal : String) (r : TimeRange α) :
    (l.series signal r).time.length = (l.series signal r).values.length ∧
      (l.series signal r).time.zip (l.series signal r).values =
        (l.range r).filterMap fun row => (row.values.get? signal).map (row.time, ·) := by
  unfold series
  constructor
  · simp
  · exact (List.zip_of_prod rfl rfl).symm

end ResultsLog

end BuildingEmulation
