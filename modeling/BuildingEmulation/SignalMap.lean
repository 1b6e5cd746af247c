/-!
# Signal maps

Values by signal name, kept in the order of the names. The order is part of the type, so two maps
with the same values are the same map.

Results:
* `get?_insert`: writing a signal changes that signal and no other.
* `get?_overwrite`: a map written over another one hides it where both have a value.
-/
namespace BuildingEmulation

/-- Values by name, the names strictly increasing. -/
structure SignalMap (α : Type) where
  entries : List (String × α) := []
  sorted : entries.Pairwise (fun a b => a.1 < b.1) := by exact List.Pairwise.nil

namespace SignalMap

variable {α : Type}

instance [Repr α] : Repr (SignalMap α) := ⟨fun m _ => repr m.entries⟩

instance : Inhabited (SignalMap α) := ⟨{}⟩

theorem eq_of_entries_eq {m n : SignalMap α} (h : m.entries = n.entries) : m = n := by
  cases m; cases n; simp_all

/-- No signals. -/
def empty : SignalMap α := {}

def get? (m : SignalMap α) (name : String) : Option α := m.entries.lookup name

def names (m : SignalMap α) : List String := m.entries.map (·.1)

/-! ## Writing -/

/-- A sorted list of entries with one entry written into its place. -/
def insertEntry (name : String) (x : α) : List (String × α) → List (String × α)
  | [] => [(name, x)]
  | (k, v) :: rest =>
    if name < k then (name, x) :: (k, v) :: rest
    else if k < name then (k, v) :: insertEntry name x rest
    else (name, x) :: rest

theorem mem_insertEntry {name : String} {x : α} {a : String × α} {l : List (String × α)}
    (h : a ∈ insertEntry name x l) : a = (name, x) ∨ a ∈ l := by
  induction l with
  | nil => simpa [insertEntry] using h
  | cons hd tl ih =>
    obtain ⟨k, v⟩ := hd
    rw [insertEntry] at h
    split at h
    · simpa using h
    · split at h
      · rcases List.mem_cons.1 h with h | h
        · exact .inr (by simp [h])
        · rcases ih h with h | h
          · exact .inl h
          · exact .inr (by simp [h])
      · rcases List.mem_cons.1 h with h | h
        · exact .inl h
        · exact .inr (by simp [h])

theorem insertEntry_sorted (name : String) (x : α) {l : List (String × α)}
    (h : l.Pairwise (fun a b => a.1 < b.1)) :
    (insertEntry name x l).Pairwise (fun a b => a.1 < b.1) := by
  induction l with
  | nil => simp [insertEntry]
  | cons hd tl ih =>
    obtain ⟨k, v⟩ := hd
    have hk : ∀ a ∈ tl, k < a.1 := fun a ha => List.rel_of_pairwise_cons h ha
    rw [insertEntry]
    split
    · next hlt =>
      refine .cons (fun a ha => ?_) h
      rcases List.mem_cons.1 ha with ha | ha
      · subst ha; exact hlt
      · exact String.lt_trans hlt (hk a ha)
    · next hlt =>
      split
      · next hgt =>
        refine .cons (fun a ha => ?_) (ih h.of_cons)
        rcases mem_insertEntry ha with ha | ha
        · subst ha; exact hgt
        · exact hk a ha
      · next hgt =>
        have heq : name = k := String.le_antisymm (String.not_lt.1 hgt) (String.not_lt.1 hlt)
        subst heq
        exact .cons hk h.of_cons

/-- The map with one signal written. -/
def insert (m : SignalMap α) (name : String) (x : α) : SignalMap α where
  entries := insertEntry name x m.entries
  sorted := insertEntry_sorted name x m.sorted

/-- The map of a list of entries, written in order, so the last value of a name stays. -/
def ofList (entries : List (String × α)) : SignalMap α :=
  entries.foldl (fun m (name, x) => m.insert name x) empty

/-- The first map with every signal of the second written over it. -/
def overwrite (m n : SignalMap α) : SignalMap α :=
  n.entries.foldl (fun m (name, x) => m.insert name x) m

theorem lookup_cons_eq (name k : String) (v : α) (l : List (String × α)) :
    ((k, v) :: l).lookup name = if name = k then some v else l.lookup name := by
  rw [List.lookup_cons]
  by_cases h : name = k
  · simp [h]
  · rw [beq_eq_false_iff_ne.2 h, if_neg h]

theorem lookup_insertEntry (name other : String) (x : α) (l : List (String × α)) :
    (insertEntry name x l).lookup other = if other = name then some x else l.lookup other := by
  induction l with
  | nil => rw [insertEntry, lookup_cons_eq]
  | cons hd tl ih =>
    obtain ⟨k, v⟩ := hd
    rw [insertEntry]
    split
    · rw [lookup_cons_eq]
    · next hlt =>
      split
      · next hgt =>
        have hne : k ≠ name := fun e => String.lt_irrefl _ (e ▸ hgt)
        rw [lookup_cons_eq, lookup_cons_eq, ih]
        by_cases hk : other = k
        · simp [hk, hne]
        · simp [hk]
      · next hgt =>
        have heq : name = k := String.le_antisymm (String.not_lt.1 hgt) (String.not_lt.1 hlt)
        rw [lookup_cons_eq, lookup_cons_eq, heq]
        by_cases hk : other = k <;> simp [hk]

theorem get?_insert (m : SignalMap α) (name other : String) (x : α) :
    (m.insert name x).get? other = if other = name then some x else m.get? other :=
  lookup_insertEntry name other x m.entries

theorem get?_overwrite (m n : SignalMap α) (name : String) :
    (m.overwrite n).get? name = (n.get? name).or (m.get? name) := by
  obtain ⟨entries, hs⟩ := n
  change (entries.foldl (fun m (name, x) => m.insert name x) m).get? name =
    (entries.lookup name).or (m.get? name)
  induction entries generalizing m with
  | nil => rfl
  | cons hd tl ih =>
    obtain ⟨k, v⟩ := hd
    have hk : ∀ a ∈ tl, k < a.1 := fun a ha => List.rel_of_pairwise_cons hs ha
    rw [List.foldl_cons, ih (m.insert k v) hs.of_cons, get?_insert, lookup_cons_eq]
    by_cases h : name = k
    · have hn : tl.lookup name = none := by
        rw [List.lookup_eq_none_iff]
        intro a ha
        have hne : a.1 ≠ name := fun e => String.lt_irrefl _ (h ▸ e ▸ hk a ha)
        simpa using hne.symm
      simp [h, h ▸ hn]
    · simp [h]

theorem get?_empty (name : String) : (empty : SignalMap α).get? name = none := rfl

end SignalMap

end BuildingEmulation
