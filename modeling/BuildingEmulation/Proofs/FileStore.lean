import BuildingEmulation.FileStore

/-!
# Files written and read

A path is walked through directories only. A file is never put in the place of one, so the way that
led to its place before leads there afterwards, whether or not a file stood there already.

Results:
* `walk?_put`: ways do not change when a file is put into the store.
* `write?_read?`: what has been written can be read.
-/
namespace BuildingEmulation.FileStore

variable {s : FileStore} {path text : String} {place : Place}

/-- A path that leads to a place in some directory, where no directory stands. -/
def Writable (s : FileStore) (path : String) : Prop :=
  ∃ place, s.place? path = some place ∧ s.lookup? place ≠ some .directory ∧
    s.lookup? place.dropLast = some .directory

theorem lookup?_put_file (free : s.lookup? place ≠ some .directory) (other : Place) :
    (s.put place (.file text)).lookup? other =
      if other = place then some (.file text) else s.lookup? other := by
  refine s.lookup?_put other _ ?_
  rintro rfl
  exact free rfl

/-- The induction is on the parts that are still to be walked, from any place on the way. -/
theorem walk?_put (free : s.lookup? place ≠ some .directory) {here there : Place}
    {parts : List String} (h : s.walk? here parts = some there) :
    (s.put place (.file text)).walk? here parts = some there := by
  induction parts generalizing here with
  | nil => exact h
  | cons part rest ih =>
    unfold walk? at h ⊢
    split at h
    · cases h
    · next h' =>
      have directory : s.lookup? here = some .directory := Decidable.of_not_not h'
      have same : (s.put place (.file text)).lookup? here = some .directory := by
        rw [lookup?_put_file free, if_neg, directory]
        rintro rfl
        exact free directory
      rw [if_neg fun h => h same]
      split at h
      · next stay =>
        rw [if_pos stay]
        exact ih h
      · next go =>
        rw [if_neg go]
        split at h
        · next up =>
          rw [if_pos up]
          split at h
          · cases h
          · next below =>
            rw [if_neg below]
            exact ih h
        · next down =>
          rw [if_neg down]
          exact ih h

theorem place?_put (free : s.lookup? place ≠ some .directory) {there : Place}
    (h : s.place? path = some there) : (s.put place (.file text)).place? path = some there := by
  unfold place? at h ⊢
  cases parts : parts? path with
  | none =>
    rw [parts] at h
    cases h
  | some parts' =>
    rw [parts] at h
    exact walk?_put free h

theorem write?_read? (h : s.Writable path) (text : String) :
    ∃ s', s.write? path text = some s' ∧ s'.read? path = some text := by
  obtain ⟨place, leads, free, inside⟩ := h
  refine ⟨s.put place (.file text), ?_, ?_⟩
  · unfold write?
    simp [leads, free, inside]
  · unfold read?
    rw [place?_put free leads, Option.bind_eq_bind, Option.bind_some, lookup?_put_file free,
      if_pos rfl]

end BuildingEmulation.FileStore
