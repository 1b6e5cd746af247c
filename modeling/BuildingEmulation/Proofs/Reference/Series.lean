import BuildingEmulation.Proofs.Csv
import BuildingEmulation.Proofs.Decimal
import BuildingEmulation.Proofs.FileStore
import BuildingEmulation.Reference.Series

/-!
# Reference files written and read

A series is written as a headed table, or as nothing at all if it is empty, and either is read as the
series that it was. What is asked of the numbers is only that each can be read from its text.

Results:
* `row?_pair`: a record of two fields.
* `series?_tableText`: a table is read as its series.
* `series_kept`: a series is written to a file and read from it, or nothing is written.
-/
namespace BuildingEmulation.Reference

section

variable {α : Type} [Decimal.Numeral α]

/-- The text of a number in a reference file stands for that number. -/
def ReadsBack (x : α) : Prop := number? (numberText x) = some x

instance [DecidableEq α] (x : α) : Decidable (ReadsBack x) :=
  inferInstanceAs (Decidable (number? (numberText x) = some x))

/-- The header of a table. -/
def header : List (List Char) := [timeColumn, valueColumn]

/-- The records of a table, one for each sample. -/
def records (s : TimeSeries α) : List (List (List Char)) :=
  s.time.zipWith (fun t v => [numberText t, numberText v]) s.values

theorem tableText_of_ne_nil {s : TimeSeries α} (h : s.time ≠ []) :
    tableText s = Csv.write (header :: records s) := by
  unfold tableText
  rw [if_neg (by simpa using h)]
  rfl

/-- The text of a table begins with the name of the column of times. -/
theorem read_table (s : TimeSeries α) :
    Csv.read (Csv.write (header :: records s)) = header :: records s := by
  have pairs : records s = (s.time.zip s.values).map fun x => [numberText x.1, numberText x.2] := by
    unfold records
    rw [List.zip, List.map_zipWith]
  apply Csv.read_write
  · rw [List.forall_mem_cons, pairs, List.forall_mem_map]
    exact ⟨List.cons_ne_nil _ _, fun _ _ => List.cons_ne_nil _ _⟩
  · have first : Csv.writeRecord header = "time,value\n".toList := by decide
    unfold Csv.write
    rw [List.flatMap_cons, first]
    simp

theorem row?_pair {time value : List Char} {t v : α} (ht : number? time = some t)
    (hv : number? value = some v) : row? header [time, value] = some (t, v) := by
  have first : fieldUnder? header [time, value] timeColumn = some time := rfl
  have second : fieldUnder? header [time, value] valueColumn = some value := rfl
  unfold row?
  rw [first, second]
  change (number? time >>= fun t => number? value >>= fun v => some (t, v)) = _
  rw [ht, hv]
  rfl

/-- Every record is read as the sample that it was made of. -/
theorem mapM_records {s : TimeSeries α} (ht : ∀ t ∈ s.time, ReadsBack t)
    (hv : ∀ v ∈ s.values, ReadsBack v) :
    (records s).mapM (row? header) = some (s.time.zip s.values) := by
  obtain ⟨times, values⟩ := s
  unfold records
  induction times generalizing values with
  | nil => rfl
  | cons t times ih =>
    cases values with
    | nil => rfl
    | cons v values =>
      obtain ⟨ht, htimes⟩ := List.forall_mem_cons.1 ht
      obtain ⟨hv, hvalues⟩ := List.forall_mem_cons.1 hv
      rw [List.zipWith_cons_cons, List.mapM_cons, row?_pair ht hv, ih values htimes hvalues]
      rfl

/-- An empty text has no header, and is read as a series without samples. -/
theorem series?_tableText {s : TimeSeries α} (length : s.time.length = s.values.length)
    (ht : ∀ t ∈ s.time, ReadsBack t) (hv : ∀ v ∈ s.values, ReadsBack v) :
    series? (tableText s) = some s := by
  by_cases empty : s.time = []
  · have without : s.values = [] := by
      rw [← List.length_eq_zero_iff, ← length, empty]
      rfl
    obtain ⟨times, values⟩ := s
    cases empty
    cases without
    rfl
  · unfold series?
    rw [tableText_of_ne_nil empty, read_table]
    simp only [mapM_records ht hv, Option.map_some]
    rw [List.map_fst_zip length.le, List.map_snd_zip length.ge]

/-- A series with a value for each time is written to any file that can be created, whatever was in
it, and read from there as it was; of any other series nothing is written. -/
theorem series_kept (files : FileStore) (path : String) (s : TimeSeries α) :
    (s.time.length = s.values.length → files.Writable path →
      (∀ t ∈ s.time, ReadsBack t) → (∀ v ∈ s.values, ReadsBack v) →
        ∃ files', write files path s = (files', .ok ()) ∧ read files' path = .ok s) ∧
    (s.time.length ≠ s.values.length →
      ∃ fault, write files path s = (files, .error fault)) := by
  refine ⟨fun length writable ht hv => ?_, fun length => ⟨_, write_of_length_ne files path length⟩⟩
  obtain ⟨files', written, found⟩ := FileStore.write?_read? writable (String.ofList (tableText s))
  refine ⟨files', ?_, ?_⟩
  · unfold write
    rw [if_neg (not_not.2 length), written]
  · unfold read
    rw [found]
    simp only [String.toList_ofList, series?_tableText length ht hv]

end

open Scalar (Extended)

/-- A file with some other text in a directory. -/
def held : FileStore := .ofFiles [("refs/air.csv", "time,value\n60.0,cold\n")]

/-- A series that leaves the finite numbers. -/
def diverging : TimeSeries Extended where
  time := [.finite 3600, .finite 7200, .finite 10800]
  values := [.finite (5863 / 20), .finite (-1 / 8), .infinite true]

/-- A series with a value too few. -/
def cutShort : TimeSeries Extended := { diverging with values := [.finite 293, .infinite true] }

theorem series_kept_diverging :
    diverging.time.length = diverging.values.length ∧ held.Writable "refs/air.csv" ∧
      (∀ t ∈ diverging.time, ReadsBack t) ∧ (∀ v ∈ diverging.values, ReadsBack v) ∧
      (∃ files, write held "refs/air.csv" diverging = (files, .ok ()) ∧
        read files "refs/air.csv" = .ok diverging) ∧
      cutShort.time.length ≠ cutShort.values.length ∧
      ∃ fault, write held "refs/air.csv" cutShort = (held, .error fault) := by
  have length : diverging.time.length = diverging.values.length := by decide
  have ragged : cutShort.time.length ≠ cutShort.values.length := by decide
  have writable : held.Writable "refs/air.csv" :=
    ⟨["refs", "air.csv"], by decide +kernel, by decide +kernel, by decide +kernel⟩
  have times : ∀ t ∈ diverging.time, ReadsBack t := by decide +kernel
  have values : ∀ v ∈ diverging.values, ReadsBack v := by decide +kernel
  obtain ⟨kept, -⟩ := series_kept held "refs/air.csv" diverging
  obtain ⟨-, refused⟩ := series_kept held "refs/air.csv" cutShort
  exact ⟨length, writable, times, values, kept length writable times values, ragged, refused ragged⟩

end BuildingEmulation.Reference
