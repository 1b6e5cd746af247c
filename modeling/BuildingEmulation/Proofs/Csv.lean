import BuildingEmulation.Csv

/-!
# Tables read back

The reader takes one character at a time and the writer lays out one field at a time, so what is
written is read back field by field: from any place where a field may start, the text of a field
leads to a place where that field has been read and only its end is missing. Whether it stood
between quotes makes no difference from there on.

The one thing that a reader cannot tell from nothing is a record with a single empty field, and
this is what the writer has the pair of quotes for.

Results:
* `Progress.holds_writeField`: the text of any field, wherever a field may start.
* `Progress.foldl_writeRecord`: the line of a record.
* `read_write`: tables without records of no fields are read back.
-/
namespace BuildingEmulation.Csv

/-- The characters for which a field is put between quotes. -/
def Special (c : Char) : Prop := c = ',' ∨ c = '"' ∨ c = '\r' ∨ c = '\n'

theorem needsQuotes_cons {c : Char} {field : List Char} (h : needsQuotes (c :: field) = false) :
    ¬ Special c ∧ needsQuotes field = false := by
  unfold needsQuotes at h ⊢
  rw [List.any_cons, Bool.or_eq_false_iff] at h
  refine ⟨?_, h.2⟩
  intro hc
  have hany := h.1
  unfold Special at hc
  rcases hc with rfl | rfl | rfl | rfl <;> simp at hany

namespace Progress

variable {p q : Progress} {field : List Char}

/-- A place where a field may start. -/
structure Fresh (p : Progress) : Prop where
  start : p.position = .recordStart ∨ p.position = .fieldStart
  blank : p.field = []

/-- A field has been read from `p` on, and is still to be ended. A reader that has not seen a
character of it may still stand where it was. -/
structure Holds (p q : Progress) (text : List Char) : Prop where
  field : q.field = text.reverse
  fields : q.fields = p.fields
  records : q.records = p.records
  closed : q.position ≠ .quoted
  begun : q.position = .recordStart → text = [] ∧ p.position = .recordStart

/-! ## Characters -/

theorem step_quoted {c : Char} (hp : p.position = .quoted) (hc : c ≠ '"') :
    p.step c = { p with field := c :: p.field } := by
  unfold step
  rw [hp]
  simp only [if_neg hc]
  rfl

/-- Inside quotes two of them stand for one. -/
theorem step_quotes (hp : p.position = .quoted) :
    (p.step '"').step '"' = { p with field := '"' :: p.field } := by
  have first : p.step '"' = { p with position := .quoteInQuoted } := by
    unfold step
    rw [hp]
    rfl
  rw [first]
  unfold step put
  simp only [if_true]
  rw [hp]

theorem foldl_doubled (hp : p.position = .quoted) (field : List Char) :
    (doubled field).foldl step p = { p with field := field.reverse ++ p.field } := by
  induction field generalizing p with
  | nil => rfl
  | cons c rest ih =>
    unfold doubled
    by_cases hc : c = '"'
    · subst hc
      rw [if_pos rfl, List.foldl_cons, List.foldl_cons, step_quotes hp]
      refine (ih (p := { p with field := '"' :: p.field }) hp).trans ?_
      simp
    · rw [if_neg hc, List.foldl_cons, step_quoted hp hc]
      refine (ih (p := { p with field := c :: p.field }) hp).trans ?_
      simp

/-- A character that needs no quotes goes into the field. -/
theorem bareStep_put {c : Char} (hc : ¬ Special c) :
    p.bareStep c = p.put c .bare := by
  have hcomma : c ≠ ',' := fun h => hc (.inl h)
  have hreturn : c ≠ '\r' := fun h => hc (.inr (.inr (.inl h)))
  have hnewline : c ≠ '\n' := fun h => hc (.inr (.inr (.inr h)))
  unfold bareStep
  simp [hcomma, hreturn, hnewline]

theorem foldl_bare (hp : p.position = .bare) (hf : needsQuotes field = false) :
    field.foldl step p = { p with field := field.reverse ++ p.field } := by
  induction field generalizing p with
  | nil => rfl
  | cons c rest ih =>
    obtain ⟨hc, hrest⟩ := needsQuotes_cons hf
    have hstep : p.step c = p.put c .bare := by
      unfold step
      rw [hp]
      exact bareStep_put hc
    have hput : (p.put c .bare).position = .bare := rfl
    rw [List.foldl_cons, hstep, ih hput hrest]
    unfold put
    simp [hp]

/-! ## Fields -/

/-- Where a field may start a quote opens it, and any character that needs none belongs to it. -/
theorem Fresh.step_open (hp : p.Fresh) : p.step '"' = { p with position := .quoted } := by
  unfold step startStep
  rcases hp.start with h | h <;> rw [h] <;> simp

theorem Fresh.step_bare {c : Char} (hp : p.Fresh)
    (hc : ¬ Special c) :
    p.step c = { p with position := .bare, field := [c] } := by
  have hquote : c ≠ '"' := fun h => hc (.inr (.inl h))
  have hbreak : ¬ (c = '\r' ∨ c = '\n') := fun h => hc (.inr (.inr h))
  have hstart : p.startStep c = { p with position := .bare, field := [c] } := by
    unfold startStep
    rw [if_neg hquote, bareStep_put hc]
    unfold put
    rw [hp.blank]
  unfold step
  rcases hp.start with h | h
  · rw [h]
    simp only [Bool.or_eq_true, decide_eq_true_eq, if_neg hbreak]
    exact hstart
  · rw [h]
    exact hstart

theorem holds_writeField (hp : p.Fresh) (field : List Char) :
    Holds p ((writeField field).foldl step p) field := by
  unfold writeField
  by_cases hq : needsQuotes field = true
  · rw [if_pos hq, List.foldl_cons, List.foldl_append, hp.step_open, foldl_doubled rfl]
    -- the quote at the end leaves the reader waiting for what follows it
    refine ⟨?_, rfl, rfl, Position.noConfusion, Position.noConfusion⟩
    simp [step, hp.blank]
  · rw [if_neg hq]
    rw [Bool.not_eq_true] at hq
    cases field with
    | nil =>
      refine ⟨hp.blank, rfl, rfl, ?_, fun h => ⟨rfl, h⟩⟩
      rcases hp.start with h | h <;> simp [h]
    | cons c rest =>
      obtain ⟨hc, hrest⟩ := needsQuotes_cons hq
      rw [List.foldl_cons, hp.step_bare hc, foldl_bare rfl hrest]
      refine ⟨?_, rfl, rfl, Position.noConfusion, Position.noConfusion⟩
      simp

/-- A comma ends the field. -/
theorem Holds.comma (h : Holds p q field) :
    q.step ',' = { p with position := .fieldStart, field := [], fields := field :: p.fields } := by
  have hstep : q.step ',' = q.endField := by
    have hclosed := h.closed
    unfold step startStep bareStep
    cases hq : q.position <;> simp_all
  rw [hstep]
  unfold endField
  simp [h.field, h.fields, h.records]

/-- A line break ends the field and the record, unless there is neither. -/
theorem Holds.newline (h : Holds p q field) (hp : p.position = .recordStart → field ≠ []) :
    q.step '\n' =
      { position := .recordStart, records := (p.fields.reverse ++ [field]) :: p.records } := by
  have hstart : q.position ≠ .recordStart := by
    intro hq
    obtain ⟨hempty, hposition⟩ := h.begun hq
    exact hp hposition hempty
  have hstep : q.step '\n' = q.endRecord := by
    have hclosed := h.closed
    unfold step startStep bareStep
    cases hq : q.position <;> simp_all
  rw [hstep]
  unfold endRecord
  simp [h.field, h.fields, h.records]

/-! ## Records -/

/-- The fields of a record up to the end of its line. The induction goes along the fields, of which
those in front of them have been read. -/
theorem foldl_joinFields {fields : List (List Char)} (hp : p.Fresh) (hfields : fields ≠ [])
    (hstart : p.position = .recordStart → fields ≠ [[]]) :
    (joinFields fields ++ ['\n']).foldl step p =
      { position := .recordStart, records := (p.fields.reverse ++ fields) :: p.records } := by
  induction fields using joinFields.induct generalizing p with
  | case1 => exact absurd rfl hfields
  | case2 field =>
    have held := holds_writeField hp field
    unfold joinFields
    rw [List.foldl_append, List.foldl_cons, List.foldl_nil]
    apply held.newline
    intro h hempty
    exact hstart h (by rw [hempty])
  | case3 field rest hrest ih =>
    have held := holds_writeField hp field
    have hrest : rest ≠ [] := fun h => hrest h
    rw [joinFields.eq_3 _ _ hrest, List.append_assoc, List.foldl_append, List.cons_append,
      List.foldl_cons, held.comma]
    rw [ih ⟨.inr rfl, rfl⟩ hrest Position.noConfusion]
    simp

theorem joinFields_eq_nil {fields : List (List Char)} (h : joinFields fields = []) :
    fields = [] ∨ fields = [[]] := by
  cases fields with
  | nil => exact .inl rfl
  | cons field rest =>
    cases rest with
    | nil =>
      unfold joinFields writeField at h
      split at h
      · cases h
      · exact .inr (by rw [h])
    | cons _ _ => simp [joinFields] at h

/-- The line of a record, at the start of a line. -/
theorem foldl_writeRecord {fields : List (List Char)} (hfields : fields ≠ [])
    (records : List (List (List Char))) :
    (writeRecord fields).foldl step { records } = { records := fields :: records } := by
  unfold writeRecord
  by_cases hempty : joinFields fields = []
  · have hone : fields = [[]] := (joinFields_eq_nil hempty).resolve_left hfields
    subst hone
    rfl
  · have hfilled : (joinFields fields).isEmpty = false := by simpa using hempty
    simp only [hfilled, Bool.false_eq_true, if_false]
    rw [foldl_joinFields ⟨.inl rfl, rfl⟩ hfields]
    · rfl
    · intro _ hone
      rw [hone] at hempty
      exact hempty rfl

theorem foldl_write {table : List (List (List Char))} (h : ∀ fields ∈ table, fields ≠ [])
    (records : List (List (List Char))) :
    (write table).foldl step { records } = { records := table.reverse ++ records } := by
  induction table generalizing records with
  | nil => rfl
  | cons fields rest ih =>
    have hfields : fields ≠ [] := h fields (by simp)
    have hrest : ∀ fields ∈ rest, fields ≠ [] := fun fields hm => h fields (by simp [hm])
    unfold write at ih ⊢
    rw [List.flatMap_cons, List.foldl_append, foldl_writeRecord hfields, ih hrest]
    simp

end Progress

/-- What has been written is read back, as long as every record has a field and the text does not
begin with a byte order mark. -/
theorem read_write {table : List (List (List Char))} (h : ∀ fields ∈ table, fields ≠ [])
    (mark : (write table).head? ≠ some '\uFEFF') : read (write table) = table := by
  have hread : read (write table) = ((write table).foldl Progress.step {}).finish := by
    unfold read
    cases htext : write table with
    | nil => rfl
    | cons c rest =>
      rw [htext] at mark
      have hc : c ≠ '\uFEFF' := by simpa using mark
      split
      · next heq => exact absurd (List.cons.inj heq).1 hc
      · rfl
  rw [hread, Progress.foldl_write h]
  unfold Progress.finish
  simp

end BuildingEmulation.Csv
