/-!
# Transition systems

What moves from state to state by labelled steps: its runs, the states they reach, and what holds
of all of them because it holds at the start and every step keeps it.

A run is kept as the list of its transitions, each with the states it leads from and to, so that
what has happened on the way (the rows committed since a reset, say) is a function of the run.

Results:
* `Run.invariant`: what every step keeps holds along every run, together with its history.
* `Run.append`, `Run.split`: runs compose, and come apart at each of their transitions.
-/
namespace BuildingEmulation

/-- A labelled transition system. -/
structure LTS (S L : Type) where
  init : S → Prop
  step : S → L → S → Prop

/-- A step that was taken. -/
structure Transition (S L : Type) where
  source : S
  label : L
  target : S

namespace LTS

variable {S L : Type}

/-- The runs from a state, with every transition in order. -/
inductive Run (M : LTS S L) (s₀ : S) : List (Transition S L) → S → Prop
  | nil : Run M s₀ [] s₀
  | snoc {ts s l s'} (run : Run M s₀ ts s) (step : M.step s l s') :
      Run M s₀ (ts ++ [⟨s, l, s'⟩]) s'

/-- The states at the end of a run from a first state. -/
def Reachable (M : LTS S L) (s : S) : Prop := ∃ s₀ ts, M.init s₀ ∧ M.Run s₀ ts s

variable {M : LTS S L} {s₀ s s' : S} {l : L} {ts ts' : List (Transition S L)}

theorem Reachable.of_init (h : M.init s) : M.Reachable s := ⟨s, [], h, .nil⟩

theorem Reachable.of_step (h : M.Reachable s) (hs : M.step s l s') : M.Reachable s' := by
  obtain ⟨s₀, ts, h₀, hr⟩ := h
  exact ⟨s₀, _, h₀, hr.snoc hs⟩

/-- What holds of the first state with no history, and is kept by every step together with its
history, holds at the end of a run. -/
theorem Run.invariant {P : List (Transition S L) → S → Prop} (h₀ : P [] s₀)
    (hs : ∀ ts s l s', P ts s → M.step s l s' → P (ts ++ [⟨s, l, s'⟩]) s') (h : M.Run s₀ ts s) :
    P ts s := by
  induction h with
  | nil => exact h₀
  | snoc _ step ih => exact hs _ _ _ _ ih step

theorem Run.append (h : M.Run s₀ ts s) (h' : M.Run s ts' s') : M.Run s₀ (ts ++ ts') s' := by
  induction h' with
  | nil => rwa [List.append_nil]
  | snoc _ step ih => rw [← List.append_assoc]; exact ih.snoc step

/-- A run up to one of its transitions, and from there on. -/
theorem Run.split {t : Transition S L} (h : M.Run s₀ (ts ++ t :: ts') s) :
    M.Run s₀ ts t.source ∧ M.step t.source t.label t.target ∧ M.Run t.target ts' s := by
  generalize hus : ts ++ t :: ts' = us at h
  induction h generalizing ts' with
  | nil => exact absurd hus (by simp)
  | @snoc us s l s' run step ih =>
    rcases List.eq_nil_or_concat ts' with rfl | ⟨ts', u, rfl⟩
    · obtain ⟨rfl, ht⟩ := List.append_inj' hus rfl
      cases ht
      exact ⟨run, step, .nil⟩
    · rw [List.concat_eq_append, ← List.cons_append, ← List.append_assoc] at hus
      obtain ⟨hinit, hu⟩ := List.append_inj' hus rfl
      cases hu
      obtain ⟨before, at_, after⟩ := ih hinit
      exact ⟨before, at_, by rw [List.concat_eq_append]; exact after.snoc step⟩

theorem Reachable.of_run (h : M.Reachable s) (hr : M.Run s ts s') : M.Reachable s' := by
  obtain ⟨s₀, ts', h₀, hr'⟩ := h
  exact ⟨s₀, _, h₀, hr'.append hr⟩

/-- A property that holds at the start and that every step keeps. -/
structure Inductive (M : LTS S L) (P : S → Prop) : Prop where
  init : ∀ s, M.init s → P s
  step : ∀ s l s', P s → M.step s l s' → P s'

theorem Inductive.run {P : S → Prop} (h : M.Inductive P) (hr : M.Run s₀ ts s) (h₀ : P s₀) : P s :=
  hr.invariant (P := fun _ => P) h₀ fun _ s l s' => h.step s l s'

theorem Inductive.reachable {P : S → Prop} (h : M.Inductive P) (hr : M.Reachable s) : P s := by
  obtain ⟨s₀, ts, h₀, hr⟩ := hr
  exact h.run hr (h.init s₀ h₀)

end LTS

end BuildingEmulation
