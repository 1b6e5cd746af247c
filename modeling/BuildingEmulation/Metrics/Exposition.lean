import BuildingEmulation.Decimal.Layout
import BuildingEmulation.Metrics.Histogram

/-!
# Exposition of metrics

Metrics as lines of text: families in the order of their names, each headed by its help and its
kind, then its samples in the order of their label values. A family without samples is left out.
-/
namespace BuildingEmulation.Metrics

/-- Labels with their values, in the order of the labels. -/
abbrev Labels := List (String × String)

/-- What a family of metrics holds. -/
inductive Samples (α : Type)
  | counter (samples : List (Labels × α))
  | gauge (samples : List (Labels × α))
  | histogram (h : Histogram α)

/-- Metrics under one name. -/
structure Family (α : Type) where
  name : String
  help : String
  samples : Samples α

/-- A character of a label value. -/
def escapeLabel (c : Char) : List Char :=
  match c with
  | '\\' => ['\\', '\\']
  | '"' => ['\\', '"']
  | '\n' => ['\\', 'n']
  | c => [c]

def labelText (label : String × String) : String :=
  label.1 ++ "=\"" ++ String.ofList (label.2.toList.flatMap escapeLabel) ++ "\""

/-- The labels of a sample behind its name. -/
def labelsText (labels : Labels) : String :=
  if labels.isEmpty then "" else "\x7b" ++ ",".intercalate (labels.map labelText) ++ "\x7d"

def sampleLine (name : String) (labels : Labels) (value : String) : String :=
  name ++ labelsText labels ++ " " ++ value

/-- Whether the values of the first labels come no later than those of the second. -/
def valuesLE : Labels → Labels → Bool
  | [], _ => true
  | _ :: _, [] => false
  | (_, a) :: as, (_, b) :: bs => a < b || (a == b && valuesLE as bs)

namespace Family

variable {α : Type} [Decimal.Numeral α]

def sortedSamples (samples : List (Labels × α)) : List (Labels × α) :=
  samples.mergeSort fun a b => valuesLE a.1 b.1

def plainLines (name : String) (samples : List (Labels × α)) : List String :=
  (sortedSamples samples).map fun (labels, x) => sampleLine name labels (Decimal.plain x)

/-- The running totals of a histogram, then its sum and its count. -/
def histogramLines (name : String) (h : Histogram α) : List String :=
  (Histogram.cumulative 0 h.buckets).map (fun (bound, n) =>
      sampleLine (name ++ "_bucket") [("le", Decimal.plain bound)] (toString n)) ++
    [sampleLine (name ++ "_bucket") [("le", "+Inf")] (toString h.count),
     sampleLine (name ++ "_sum") [] (Decimal.plain h.sum),
     sampleLine (name ++ "_count") [] (toString h.count)]

/-- The lines of the samples, and the word for their kind. -/
def body (f : Family α) : String × List String :=
  match f.samples with
  | .counter samples => ("counter", plainLines f.name samples)
  | .gauge samples => ("gauge", plainLines f.name samples)
  | .histogram h => ("histogram", histogramLines f.name h)

def lines (f : Family α) : List String :=
  match f.body with
  | (_, []) => []
  | (kind, samples) => s!"# HELP {f.name} {f.help}" :: s!"# TYPE {f.name} {kind}" :: samples

end Family

/-- The text of a set of families, line by line. -/
def lines {α : Type} [Decimal.Numeral α] (families : List (Family α)) : List String :=
  (families.mergeSort fun a b => a.name ≤ b.name).flatMap Family.lines

end BuildingEmulation.Metrics
