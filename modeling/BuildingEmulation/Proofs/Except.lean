import Mathlib.Data.List.Forall2

/-!
# Results taken apart

A chain of fallible steps succeeds exactly if each step does, and fails where its first failing
step does. Inversions of long `do` blocks go through these, one step at a time.
-/
namespace BuildingEmulation

variable {ε ε' β γ : Type}

theorem bind_eq_ok {x : Except ε β} {f : β → Except ε γ} {c : γ} (h : x >>= f = .ok c) :
    ∃ b, x = .ok b ∧ f b = .ok c := by
  cases x with
  | error e => cases h
  | ok b => exact ⟨b, rfl, h⟩

theorem bind_eq_error {x : Except ε β} {f : β → Except ε γ} {e : ε} (h : x >>= f = .error e) :
    x = .error e ∨ ∃ b, x = .ok b ∧ f b = .error e := by
  cases x with
  | error e' => cases h; exact .inl rfl
  | ok b => exact .inr ⟨b, rfl, h⟩

theorem mapError_eq_ok {x : Except ε β} {f : ε → ε'} {b : β} (h : x.mapError f = .ok b) :
    x = .ok b := by
  cases x with
  | error e => cases h
  | ok b' => cases h; rfl

theorem mapError_eq_error {x : Except ε β} {f : ε → ε'} {e : ε'} (h : x.mapError f = .error e) :
    ∃ e₀, x = .error e₀ ∧ e = f e₀ := by
  cases x with
  | error e₀ => cases h; exact ⟨e₀, rfl, rfl⟩
  | ok b => cases h

/-- A list of steps succeeds where every step has the result that stands in its place. -/
theorem mapM_eq_ok_iff {f : β → Except ε γ} {xs : List β} {ys : List γ} :
    xs.mapM f = .ok ys ↔ List.Forall₂ (fun x y => f x = .ok y) xs ys := by
  induction xs generalizing ys with
  | nil =>
    rw [List.forall₂_nil_left_iff]
    exact ⟨fun h => (Except.ok.inj h).symm, fun h => by rw [h]; rfl⟩
  | cons x rest ih =>
    rw [List.mapM_cons, List.forall₂_cons_left_iff]
    constructor
    · intro h
      obtain ⟨y, hx, h⟩ := bind_eq_ok h
      obtain ⟨ys', hrest, h⟩ := bind_eq_ok h
      cases h
      exact ⟨y, ys', hx, ih.1 hrest, rfl⟩
    · rintro ⟨y, ys', hx, hrest, rfl⟩
      rw [hx, ih.2 hrest]
      rfl

/-- What stands in the second list stands in the place of something in the first. -/
theorem exists_mem_of_forall₂ {R : β → γ → Prop} {xs : List β} {ys : List γ}
    (h : List.Forall₂ R xs ys) : ∀ y ∈ ys, ∃ x ∈ xs, R x y := by
  induction h with
  | nil => exact fun _ hy => nomatch hy
  | cons hxy _ ih =>
    intro y' hy
    rcases List.mem_cons.1 hy with rfl | hy
    · exact ⟨_, List.mem_cons_self, hxy⟩
    · obtain ⟨x', hm, hx'⟩ := ih y' hy
      exact ⟨x', List.mem_cons_of_mem _ hm, hx'⟩

/-- Every result of a list of steps that all succeed comes from one of them. -/
theorem mem_of_mapM_eq_ok {f : β → Except ε γ} {xs : List β} {ys : List γ}
    (h : xs.mapM f = .ok ys) : ∀ y ∈ ys, ∃ x ∈ xs, f x = .ok y :=
  exists_mem_of_forall₂ (mapM_eq_ok_iff.1 h)

/-- A list of steps that all succeed has the result of each at its place. -/
theorem getElem?_of_mapM_eq_ok {f : β → Except ε γ} {xs : List β} {ys : List γ}
    (h : xs.mapM f = .ok ys) {i : Nat} {x : β} (hx : xs[i]? = some x) :
    ∃ y, ys[i]? = some y ∧ f x = .ok y := by
  obtain ⟨hlength, hget⟩ := List.forall₂_iff_get.1 (mapM_eq_ok_iff.1 h)
  obtain ⟨hi, rfl⟩ := List.getElem?_eq_some_iff.1 hx
  have hi' : i < ys.length := hlength ▸ hi
  exact ⟨ys[i], List.getElem?_eq_getElem hi', hget i hi hi'⟩

theorem length_of_mapM_eq_ok {f : β → Except ε γ} {xs : List β} {ys : List γ}
    (h : xs.mapM f = .ok ys) : ys.length = xs.length :=
  (mapM_eq_ok_iff.1 h).length_eq.symm

/-- A list of steps fails where its first failing step does. -/
theorem mapM_eq_error_iff {f : β → Except ε γ} {xs : List β} {e : ε} :
    xs.mapM f = .error e ↔ ∃ before x after, xs = before ++ x :: after ∧
      (∀ x' ∈ before, ∃ y, f x' = .ok y) ∧ f x = .error e := by
  induction xs with
  | nil =>
    constructor
    · exact fun h => nomatch h
    · rintro ⟨before, x, after, h, -⟩
      cases before <;> cases h
  | cons x rest ih =>
    rw [List.mapM_cons]
    constructor
    · intro h
      rcases bind_eq_error h with h | ⟨y, hx, h⟩
      · exact ⟨[], x, rest, rfl, nofun, h⟩
      · rcases bind_eq_error h with h | ⟨ys, -, h⟩
        · obtain ⟨before, x', after, rfl, hbefore, he⟩ := ih.1 h
          exact ⟨x :: before, x', after, rfl, List.forall_mem_cons.2 ⟨⟨y, hx⟩, hbefore⟩, he⟩
        · cases h
    · rintro ⟨before, x', after, h, hbefore, he⟩
      cases before with
      | nil =>
        cases h
        rw [he]
        rfl
      | cons x₀ before =>
        cases h
        obtain ⟨⟨y, hx⟩, hbefore⟩ := List.forall_mem_cons.1 hbefore
        have hrest : (before ++ x' :: after).mapM f = .error e :=
          ih.2 ⟨before, x', after, rfl, hbefore, he⟩
        rw [hx]
        change ((before ++ x' :: after).mapM f >>= _) = _
        rw [hrest]
        rfl

/-- A result that is known to be one. -/
theorem eq_ok_of_toBool {x : Except ε β} (h : x.toBool = true) : ∃ b, x = .ok b := by
  cases x with
  | error e => cases h
  | ok b => exact ⟨b, rfl⟩

end BuildingEmulation
