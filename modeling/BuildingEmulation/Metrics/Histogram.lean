import BuildingEmulation.Scalar

/-!
# Histograms

Observations counted in buckets. A bucket holds the observations up to its bound that no earlier
bucket holds; those beyond the last bound are in the total only.
-/
namespace BuildingEmulation.Metrics

structure Histogram (α : Type) where
  /-- Each bound with the observations of its own bucket. -/
  buckets : List (α × Nat)
  count : Nat
  sum : α
  deriving Repr

namespace Histogram

variable {α : Type} [Scalar α]

/-- A number of bounds, each twice the one before. -/
def doublingBounds (first : α) : Nat → List α
  | 0 => []
  | n + 1 => first :: doublingBounds (first * 2.0) n

def ofBounds (bounds : List α) : Histogram α where
  buckets := bounds.map (·, 0)
  count := 0
  sum := 0.0

/-- Buckets with an observation counted in the first that takes it. -/
def countIn (x : α) : List (α × Nat) → List (α × Nat)
  | [] => []
  | (bound, n) :: rest =>
    if x ≤ bound then (bound, n + 1) :: rest else (bound, n) :: countIn x rest

def observe (h : Histogram α) (x : α) : Histogram α where
  buckets := countIn x h.buckets
  count := h.count + 1
  sum := h.sum + x

omit [Scalar α] in
/-- Each bound with the observations up to it, given how many came before. -/
def cumulative (before : Nat) : List (α × Nat) → List (α × Nat)
  | [] => []
  | (bound, n) :: rest => (bound, before + n) :: cumulative (before + n) rest

end Histogram

end BuildingEmulation.Metrics
