import BuildingEmulation.SignalMap

/-!
# Signal maps by their names

A map is known by the values that it has under every name, so a map that has been taken apart into
names and values is put together again from them.

Results:
* `ext_get?`: maps with the same values are the same.
* `mem_names`, `mem_of_get?`, `names_increasing`: the names of a map, and its values.
* `ofList_filterMap`: a map put together again from its values under some names.
-/
namespace BuildingEmulation.SignalMap

variable {α : Type} {m n : SignalMap α} {name : String}

theorem mem_names : name ∈ m.names ↔ (m.get? name).isSome := by
  unfold names get?
  rw [List.lookup_isSome_iff, List.mem_map]
  simp only [beq_iff_eq, eq_comm (a := name)]

theorem mem_of_get? {x : α} (h : m.get? name = some x) : (name, x) ∈ m.entries := by
  obtain ⟨before, after, hentries, -⟩ := List.lookup_eq_some_iff.1 h
  rw [hentries]
  exact List.mem_append_right _ List.mem_cons_self

theorem names_increasing (m : SignalMap α) : m.names.Pairwise (· < ·) := by
  unfold names
  rw [List.pairwise_map]
  exact m.sorted

/-! ## Equality -/

/-- A name in front of all others is found nowhere behind. -/
theorem lookup_eq_none_of_lt {entries : List (String × α)} (h : ∀ e ∈ entries, name < e.1) :
    entries.lookup name = none := by
  rw [List.lookup_eq_none_iff]
  intro e he
  have hne : name ≠ e.1 := fun hn => String.lt_irrefl _ (hn ▸ h e he)
  simpa using hne

/-- The lesser of two first names would be missing from the list that begins with the other. -/
theorem first_le {xs ys : List (String × α)} {k k' : String} {v v' : α}
    (hk' : ∀ e ∈ ys, k' < e.1)
    (h : ∀ name, ((k, v) :: xs).lookup name = ((k', v') :: ys).lookup name) : k' ≤ k := by
  rw [← String.not_lt]
  intro hlt
  have hfirst := h k
  have hrest : ys.lookup k = none :=
    lookup_eq_none_of_lt fun e he => String.lt_trans hlt (hk' e he)
  have hne : k ≠ k' := fun he => String.lt_irrefl _ (he ▸ hlt)
  rw [lookup_cons_eq, if_pos rfl, lookup_cons_eq, if_neg hne, hrest] at hfirst
  cases hfirst

theorem entries_ext {xs ys : List (String × α)} (hx : xs.Pairwise fun a b => a.1 < b.1)
    (hy : ys.Pairwise fun a b => a.1 < b.1) (h : ∀ name, xs.lookup name = ys.lookup name) :
    xs = ys := by
  induction xs generalizing ys with
  | nil =>
    cases ys with
    | nil => rfl
    | cons y ys =>
      have hfirst := h y.1
      rw [lookup_cons_eq, if_pos rfl] at hfirst
      cases hfirst
  | cons x xs ih =>
    obtain ⟨k, v⟩ := x
    obtain ⟨hk, hxs⟩ := List.pairwise_cons.1 hx
    cases ys with
    | nil =>
      have hfirst := h k
      rw [lookup_cons_eq, if_pos rfl] at hfirst
      cases hfirst
    | cons y ys =>
      obtain ⟨k', v'⟩ := y
      obtain ⟨hk', hys⟩ := List.pairwise_cons.1 hy
      have hkk : k = k' := String.le_antisymm (first_le hk fun name => (h name).symm) (first_le hk' h)
      subst hkk
      have hfirst := h k
      rw [lookup_cons_eq, if_pos rfl, lookup_cons_eq, if_pos rfl] at hfirst
      have hv : v = v' := Option.some.inj hfirst
      have hrest : xs = ys := by
        apply ih hxs hys
        intro name
        by_cases hname : name = k
        · rw [hname, lookup_eq_none_of_lt hk, lookup_eq_none_of_lt hk']
        · have hother := h name
          rwa [lookup_cons_eq, if_neg hname, lookup_cons_eq, if_neg hname] at hother
      rw [hv, hrest]

theorem ext_get? (h : ∀ name, m.get? name = n.get? name) : m = n :=
  eq_of_entries_eq (entries_ext m.sorted n.sorted h)

/-! ## Maps from lists -/

theorem get?_ofList {entries : List (String × α)} (h : entries.Pairwise fun a b => a.1 < b.1)
    (name : String) : (ofList entries).get? name = entries.lookup name := by
  have hover := get?_overwrite empty ⟨entries, h⟩ name
  rw [get?_empty, Option.or_none] at hover
  exact hover

theorem lookup_filterMap (m : SignalMap α) (names : List String) (name : String) :
    (names.filterMap fun n => (m.get? n).map (n, ·)).lookup name =
      if name ∈ names then m.get? name else none := by
  induction names with
  | nil => rfl
  | cons n rest ih =>
    rw [List.filterMap_cons]
    by_cases hn : name = n
    · subst hn
      rw [if_pos List.mem_cons_self]
      cases hx : m.get? name with
      | none =>
        simp only [Option.map_none]
        rw [ih, hx]
        exact ite_self _
      | some x =>
        simp only [Option.map_some]
        rw [lookup_cons_eq, if_pos rfl]
    · have hmem : name ∈ n :: rest ↔ name ∈ rest := by simp [hn]
      cases hx : m.get? n with
      | none =>
        simp only [Option.map_none, hmem]
        exact ih
      | some x =>
        simp only [Option.map_some, hmem]
        rw [lookup_cons_eq, if_neg hn]
        exact ih

/-- What a map has under names in order, all of its own among them, is the whole map. -/
theorem ofList_filterMap (m : SignalMap α) {names : List String}
    (increasing : names.Pairwise (· < ·)) (all : ∀ name, (m.get? name).isSome → name ∈ names) :
    ofList (names.filterMap fun n => (m.get? n).map (n, ·)) = m := by
  have hsorted : (names.filterMap fun n => (m.get? n).map (n, ·)).Pairwise
      fun a b => a.1 < b.1 := by
    refine increasing.filterMap _ ?_
    intro a a' hlt e he e' he'
    obtain ⟨x, -, rfl⟩ := Option.map_eq_some_iff.1 he
    obtain ⟨x', -, rfl⟩ := Option.map_eq_some_iff.1 he'
    exact hlt
  apply ext_get?
  intro name
  rw [get?_ofList hsorted, lookup_filterMap]
  by_cases hname : name ∈ names
  · rw [if_pos hname]
  · rw [if_neg hname]
    have hnone : ¬ (m.get? name).isSome = true := fun h => hname (all name h)
    exact (Option.not_isSome_iff_eq_none.1 hnone).symm

end BuildingEmulation.SignalMap
