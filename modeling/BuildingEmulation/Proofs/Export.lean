import BuildingEmulation.Proofs.Csv
import BuildingEmulation.Proofs.Decimal
import BuildingEmulation.Proofs.SignalMap
import BuildingEmulation.Proofs.Text.Bytes
import Mathlib.Data.List.Forall2

/-!
# The exported log

The rows of a log need not record the same signals, so the table has a column for every signal that
any row has recorded, and a row leaves the cells of the others empty. An empty cell is told from a
value since every number has a text, and a name is read back whatever characters it is made of.

Results:
* `mem_columns`, `columns_increasing`: the columns are the recorded signals, in the order of their
  bytes.
* `csv_tabulates`: the text is read as a table with these columns and one record for each row.
* `ofTable?_csv`: the table says all that the log said, if its numbers can be read from their texts.
-/
namespace BuildingEmulation.ResultsLog

variable {α : Type} {l : ResultsLog α}

/-! ## Columns -/

/-- The names of a list of entries, added to a set of names. -/
theorem isSome_foldl_insert (entries : List (String × α)) (m : SignalMap Unit) (name : String) :
    ((entries.foldl (fun m (name, _) => m.insert name ()) m).get? name).isSome ↔
      (m.get? name).isSome ∨ ∃ e ∈ entries, e.1 = name := by
  induction entries generalizing m with
  | nil => simp
  | cons e rest ih =>
    rw [List.foldl_cons, ih, SignalMap.get?_insert]
    by_cases he : name = e.1
    · simp [he]
    · have hne : ¬ e.1 = name := fun h => he h.symm
      simp [he, hne]

theorem isSome_foldl_rows (rows : List (ResultRow α)) (m : SignalMap Unit) (name : String) :
    ((rows.foldl (fun m row => row.values.entries.foldl (fun m (name, _) => m.insert name ()) m)
      m).get? name).isSome ↔
      (m.get? name).isSome ∨ ∃ row ∈ rows, (row.values.get? name).isSome := by
  induction rows generalizing m with
  | nil => simp
  | cons row rest ih =>
    have hrow : (∃ e ∈ row.values.entries, e.1 = name) ↔ (row.values.get? name).isSome := by
      rw [← SignalMap.mem_names]
      exact List.mem_map.symm
    rw [List.foldl_cons, ih, isSome_foldl_insert, hrow, or_assoc]
    simp

/-- A signal has a column if any row has recorded it. -/
theorem mem_columns {name : String} :
    name ∈ l.columns ↔ ∃ row ∈ l.toList, (row.values.get? name).isSome := by
  unfold columns
  rw [SignalMap.mem_names, isSome_foldl_rows, SignalMap.get?_empty]
  simp

theorem columns_increasing (l : ResultsLog α) : l.columns.Pairwise (· < ·) :=
  SignalMap.names_increasing _

/-! ## The table -/

variable [Decimal.Numeral α]

/-- A record that says what a row has recorded under some names. -/
structure Tells (names : List String) (row : ResultRow α) (record : List (List Char)) : Prop where
  width : record.length = names.length + 1
  time : record[0]? = some (Decimal.plain row.time).toList
  recorded : ∀ (i : Nat) (name : String) (x : α), names[i]? = some name →
    row.values.get? name = some x → record[i + 1]? = some (Decimal.plain x).toList
  missing : ∀ (i : Nat) (name : String), names[i]? = some name →
    row.values.get? name = none → record[i + 1]? = some []

/-- A table with a column for the time and one for each recorded signal, and a record for each
row. -/
structure Tabulates (l : ResultsLog α) (names : List String) (table : List (List (List Char))) :
    Prop where
  increasing : names.Pairwise fun a b => Text.bytes a < Text.bytes b
  complete : ∀ name, name ∈ names ↔ ∃ row ∈ l.toList, (row.values.get? name).isSome
  header : table.head? = some (("time" :: names).map String.toList)
  records : List.Forall₂ (Tells names) l.toList table.tail

theorem tells_fields (names : List String) (row : ResultRow α) :
    Tells names row (fields names row) where
  width := by simp [fields]
  time := rfl
  recorded i name x hname hx := by
    unfold fields
    rw [List.getElem?_cons_succ, List.getElem?_map, hname]
    simp [hx]
  missing i name hname hx := by
    unfold fields
    rw [List.getElem?_cons_succ, List.getElem?_map, hname]
    simp [hx]

/-- The text of a log is read as its header and its rows. -/
theorem read_csv (l : ResultsLog α) :
    Csv.read l.csv.toList =
      ("time" :: l.columns).map String.toList :: l.toList.map (fields l.columns) := by
  unfold csv
  rw [String.toList_ofList]
  apply Csv.read_write
  · intro record hm
    rcases List.mem_cons.1 hm with rfl | hm
    · simp
    · obtain ⟨row, -, rfl⟩ := List.mem_map.1 hm
      simp [fields]
  · -- the text begins with the name of the column of times
    have hbare : Csv.writeField ['t', 'i', 'm', 'e'] = ['t', 'i', 'm', 'e'] := by decide
    unfold Csv.write
    rw [List.flatMap_cons, List.map_cons]
    unfold Csv.writeRecord
    cases l.columns with
    | nil => simp [Csv.joinFields, hbare]
    | cons name rest => simp [Csv.joinFields, hbare]

theorem csv_tabulates (l : ResultsLog α) : Tabulates l l.columns (Csv.read l.csv.toList) := by
  rw [read_csv]
  refine ⟨l.columns_increasing.imp Text.bytes_lt, fun name => mem_columns, rfl, ?_⟩
  rw [List.tail_cons, List.forall₂_map_right_iff, List.forall₂_same]
  intro row _
  exact tells_fields l.columns row

/-! ## Reading a table -/

/-- The values in the cells under some names. An empty cell holds none. -/
def values? (names : List String) (cells : List (List Char)) : Option (SignalMap α) :=
  (((names.zip cells).filter fun e => !e.2.isEmpty).mapM fun e =>
    (Reference.number? e.2).map (e.1, ·)).map SignalMap.ofList

/-- The row that a record is of. -/
def row? (names : List String) : List (List Char) → Option (ResultRow α)
  | [] => none
  | time :: cells => do
    let time ← Reference.number? time
    let values ← values? names cells
    pure { time, values }

/-- The log that a table is of. -/
def ofTable? : List (List (List Char)) → Option (ResultsLog α)
  | [] => none
  | header :: records =>
    (records.mapM (row? (header.tail.map String.ofList))).map fun rows => ⟨rows.toArray⟩

/-- The numbers of a row can be read from their texts. -/
def ReadsBack (row : ResultRow α) : Prop :=
  Decimal.ReadsBack row.time ∧ ∀ e ∈ row.values.entries, Decimal.ReadsBack e.2

instance [DecidableEq α] (row : ResultRow α) : Decidable (ReadsBack row) :=
  inferInstanceAs (Decidable (_ ∧ _))

variable {names : List String} {row : ResultRow α}

theorem ReadsBack.value (hr : ReadsBack row) {name : String} {x : α}
    (hx : row.values.get? name = some x) : Reference.number? (Decimal.plain x).toList = some x :=
  hr.2 (name, x) (SignalMap.mem_of_get? hx)

/-- The cells that are not empty are those of the signals that the row has recorded. -/
theorem mapM_cells (hr : ReadsBack row) (names : List String) :
    (((names.zip (fields names row).tail).filter fun e => !e.2.isEmpty).mapM fun e =>
      (Reference.number? e.2).map (e.1, ·)) =
        some (names.filterMap fun n => (row.values.get? n).map (n, ·)) := by
  unfold fields
  rw [List.tail_cons]
  induction names with
  | nil => rfl
  | cons name rest ih =>
    rw [List.map_cons, List.zip_cons_cons, List.filter_cons, List.filterMap_cons]
    cases hx : row.values.get? name with
    | none => simpa using ih
    | some x =>
      have hfilled : (Decimal.plain x).toList.isEmpty = false := by
        simpa using Decimal.plain_ne_nil x
      simp only [hfilled, Bool.not_false, if_true]
      rw [List.mapM_cons, ih, hr.value hx]
      rfl

/-- The record of a row is read as that row, if there is a name for each of its signals. -/
theorem row?_fields (hr : ReadsBack row) (increasing : names.Pairwise (· < ·))
    (all : ∀ name, (row.values.get? name).isSome → name ∈ names) :
    row? names (fields names row) = some row := by
  have htime : Reference.number? (Decimal.plain row.time).toList = some row.time := hr.1
  have hvalues : values? names (fields names row).tail = some row.values := by
    unfold values?
    rw [mapM_cells hr, Option.map_some, SignalMap.ofList_filterMap _ increasing all]
  have hfields : fields names row =
      (Decimal.plain row.time).toList :: (fields names row).tail := rfl
  rw [hfields]
  simp only [row?, htime, hvalues]
  rfl

theorem mapM_fields (increasing : names.Pairwise (· < ·)) {rows : List (ResultRow α)}
    (hr : ∀ row ∈ rows, ReadsBack row)
    (all : ∀ row ∈ rows, ∀ name, (row.values.get? name).isSome → name ∈ names) :
    (rows.map (fields names)).mapM (row? names) = some rows := by
  induction rows with
  | nil => rfl
  | cons row rest ih =>
    have hrow := row?_fields (hr row (by simp)) increasing (all row (by simp))
    have hrest := ih (fun row hm => hr row (by simp [hm])) fun row hm => all row (by simp [hm])
    rw [List.map_cons, List.mapM_cons, hrow, hrest]
    rfl

/-- The table of a log whose numbers can be read from their texts is that of no other log. -/
theorem ofTable?_csv (hr : ∀ row ∈ l.toList, ReadsBack row) :
    ofTable? (Csv.read l.csv.toList) = some l := by
  have hnames : (("time" :: l.columns).map String.toList).tail.map String.ofList = l.columns := by
    simp [Function.comp_def]
  have hrows := mapM_fields l.columns_increasing hr fun row hm name hname =>
    mem_columns.2 ⟨row, hm, hname⟩
  rw [read_csv]
  simp only [ofTable?, hnames, hrows]
  rfl

/-- Nothing is lost in the text of a log: it is read as a table with one column for each signal that
any row has recorded and one record for each row, in order; and if the numbers can be read from
their texts, which are never empty, the table gives back the log. -/
theorem csv_loses_nothing (l : ResultsLog α) :
    (∃ names, Tabulates l names (Csv.read l.csv.toList)) ∧
      (∀ x : α, (Decimal.plain x).toList ≠ []) ∧
      ((∀ row ∈ l.toList, ReadsBack row) → ofTable? (Csv.read l.csv.toList) = some l) := by
  refine ⟨⟨l.columns, csv_tabulates l⟩, Decimal.plain_ne_nil, ?_⟩
  intro hr
  exact ofTable?_csv hr

/-- Rows that record different signals, with names that hold what a table is made of. -/
def oddly : ResultsLog Rat where
  rows := #[⟨1 / 2, .ofList [("a,b", 2), ("so \"called\"", -3 / 4)]⟩,
    ⟨60, .ofList [("", 0), ("two\r\nlines", 21)]⟩, ⟨90, .empty⟩]

theorem csv_loses_nothing_oddly :
    (∀ row ∈ oddly.toList, ReadsBack row) ∧
      oddly.csv = "time,,\"a,b\",\"so \"\"called\"\"\",\"two\r\nlines\"\n" ++
        "0.5,,2,-0.75,\n60,0,,,21\n90,,,,\n" ∧
      ofTable? (Csv.read oddly.csv.toList) = some oddly := by
  have hr : ∀ row ∈ oddly.toList, ReadsBack row := by decide +kernel
  obtain ⟨-, -, restored⟩ := csv_loses_nothing oddly
  exact ⟨hr, by decide +kernel, restored hr⟩

end BuildingEmulation.ResultsLog
