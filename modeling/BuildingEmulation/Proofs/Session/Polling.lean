import BuildingEmulation.Proofs.ResultsLog
import BuildingEmulation.Proofs.Session.Coherent
import BuildingEmulation.Proofs.Session.Tank

/-!
# A client that polls

A client follows a session by asking for its rows now and then: for all of them while it has none,
and afterwards for those from the time of the last row that it has. In between the session is
called as often as anyone likes, but not started over.

Results:
* `Step.rows`: a call adds a row that the log takes, leaves the log alone, or starts over.
* `Watched.appended`: the rows that a session has stay in front of those that it gets.
* `caughtUp_eq`: a client that has some of the first rows has all of them after a poll, as long as
  the rows have defined times.
* `stamped_of_valid`: those of a valid scenario have.
* `polling_follows`: so the client has all of them after every poll of every run.
-/
namespace BuildingEmulation

open Scalar (Extended)

namespace Session

variable {α σ : Type} [Scalar α]

/-! ## What a call does to the log -/

/-- The log after a call. -/
inductive RowsAfter (l : ResultsLog α) (e : SessionEvent α) : ResultsLog α → Prop
  | kept (stays : e.restarts = false) : RowsAfter l e l
  | added {row : ResultRow α} (stays : e.restarts = false)
      (later : l.checkNext row.time = .ok ()) : RowsAfter l e ⟨l.rows.push row⟩
  | cleared (restarts : e.restarts = true) : RowsAfter l e {}

theorem Step.rows {s s' : Session α σ} {e : SessionEvent α} (h : s.Step e s') :
    RowsAfter s.committed.results e s'.committed.results := by
  have hc := h.change
  generalize s'.worker = w at hc
  generalize s'.committed = c at hc
  cases hc with
  | refused | uncommitted | resetRefused | stepRefused | stepSet | released => exact .kept rfl
  | failed =>
    obtain ⟨-, -, hresults, -⟩ := s.committed.fail_fields _
    rw [hresults]
    exact .kept rfl
  | advanced _ _ _ log => exact .added rfl log
  | resetFailed | begun => exact .cleared rfl

/-- The log of a session is in order whatever has been called. -/
theorem ordered_inductive (scenario : Scenario α) (specs : List (KpiSpec α))
    (unit : EmulationUnit α σ) :
    (lts scenario specs unit).Inductive fun s => s.committed.results.Ordered where
  init s h := by
    obtain ⟨-, -, -, -, kpis, -, hc⟩ := Opened.parts h
    rw [hc]
    exact List.isChain_nil
  step s e s' h hs := by
    have hr := Step.rows hs
    generalize s'.committed.results = l at hr
    cases hr with
    | kept => exact h
    | added _ later => exact h.push later
    | cleared => exact List.isChain_nil

/-! ## Polling -/

/-- What a client holds after a poll. It asks for all rows while it has none, and otherwise for those
from its last one on, of which it drops the ones with the time that it asked from. -/
def caughtUp (s : Session α σ) (held : List (ResultRow α)) : List (ResultRow α) :=
  match held.getLast? with
  | none => s.results {}
  | some last =>
    held ++ (s.results { start := some last.time }).filter fun row => !(row.time == last.time)

/-- A session that is called and polled, but not started over, and what its client holds. The client
has no rows at first. -/
inductive Watched (s₀ : Session α σ) : Session α σ → List (ResultRow α) → Prop
  | start : Watched s₀ s₀ []
  | call {s e s' held} (watched : Watched s₀ s held) (step : s.Step e s')
      (stays : e.restarts = false) : Watched s₀ s' held
  | poll {s held} (watched : Watched s₀ s held) : Watched s₀ s (s.caughtUp held)

variable {scenario : Scenario α} {specs : List (KpiSpec α)} {unit : EmulationUnit α σ}
  {s₀ s s' : Session α σ} {held : List (ResultRow α)}

theorem Step.appended {e : SessionEvent α} (h : s.Step e s') (stays : e.restarts = false) :
    s.committed.results.toList <+: s'.committed.results.toList := by
  have hr := h.rows
  generalize s'.committed.results = l at hr
  cases hr with
  | kept => exact List.prefix_refl _
  | added =>
    simp only [ResultsLog.toList, Array.toList_push]
    exact List.prefix_append _ _
  | cleared restarts => rw [stays] at restarts; cases restarts

/-- As long as a session is not started over its log only gets longer. -/
theorem Watched.appended (h : Watched s₀ s held) :
    s₀.committed.results.toList <+: s.committed.results.toList := by
  induction h with
  | start => exact List.prefix_refl _
  | call _ step stays ih => exact ih.trans (Step.appended step stays)
  | poll _ ih => exact ih

theorem Watched.advance (h : Watched s₀ s held) (latency : Nat) (inputs : SignalMap α) :
    Watched s₀ (s.advance latency inputs).1 held :=
  h.call (e := .advance latency inputs (s.advance latency inputs).2) rfl rfl

theorem Watched.setStep (h : Watched s₀ s held) (step : α) :
    Watched s₀ (s.setStep step).1 held :=
  h.call (e := .setStep step (s.setStep step).2) rfl rfl

theorem Watched.reachable (h : Watched s₀ s held) (hr : (lts scenario specs unit).Reachable s₀) :
    (lts scenario specs unit).Reachable s := by
  induction h with
  | start => exact hr
  | call _ step _ ih => exact ih.of_step step
  | poll _ ih => exact ih

/-- A client that has some of the first rows of a log in strict order has all of them after a
poll. -/
theorem caughtUp_eq [Scalar.Linear α] (hp : held <+: s.committed.results.toList)
    (ordered : s.committed.results.Ordered) (stamped : s.committed.results.Stamped) :
    s.caughtUp held = s.committed.results.toList := by
  have increasing := ordered.increasing stamped
  obtain ⟨after, hrows⟩ := hp
  unfold caughtUp results
  rcases List.eq_nil_or_concat held with rfl | ⟨before, last, rfl⟩
  · exact ResultsLog.range_open _
  · have hlast : (before.concat last).getLast? = some last := by simp
    have hrows' : s.committed.results.toList = before ++ last :: after := by
      rw [← hrows]
      simp
    have defined : Scalar.isNaN last.time = false := stamped last (by simp [hrows'])
    rw [hlast]
    simp only
    rw [ResultsLog.range_newer hrows' defined increasing, hrows]

/-- What a client holds are the first rows of the log at any time. -/
theorem Watched.held_prefix [Scalar.Linear α] (h : Watched s₀ s held)
    (hr : (lts scenario specs unit).Reachable s₀) (stamped : s.committed.results.Stamped) :
    held <+: s.committed.results.toList := by
  induction h with
  | start => exact List.nil_prefix
  | call watched step stays ih =>
    have happ := Step.appended step stays
    -- the rows before the call have defined times since they are still there after it
    exact (ih fun row hm => stamped row (happ.subset hm)).trans happ
  | poll watched ih =>
    have ordered := (ordered_inductive scenario specs unit).reachable (watched.reachable hr)
    have caught := caughtUp_eq (ih stamped) ordered stamped
    exact ⟨[], by rw [List.append_nil, caught]⟩

/-- What a client can rely on that has watched a session for a while. -/
structure Followed (s₀ s : Session α σ) (held : List (ResultRow α)) : Prop where
  /-- The rows from the beginning of the watch are still there, in front. -/
  appended : s₀.committed.results.toList <+: s.committed.results.toList
  /-- One more poll, and the client holds the log. -/
  complete : s.caughtUp held = s.committed.results.toList
  /-- A series is what the rows of the same window have recorded. -/
  series : ∀ signal range, s.model.registry.hasSignal signal = true →
    ∃ series, s.series signal range = .ok series ∧ series.time.length = series.values.length ∧
      series.time.zip series.values =
        (s.results range).filterMap fun row => (row.values.get? signal).map (row.time, ·)

/-- As long as no row has an undefined time a client can rely on all of it. -/
theorem Watched.followed [Scalar.Linear α] (h : Watched s₀ s held)
    (hr : (lts scenario specs unit).Reachable s₀) (stamped : s.committed.results.Stamped) :
    Followed s₀ s held where
  appended := h.appended
  complete :=
    have ordered := (ordered_inductive scenario specs unit).reachable (h.reachable hr)
    caughtUp_eq (h.held_prefix hr stamped) ordered stamped
  series signal range known := by
    refine ⟨s.committed.results.series signal range, ?_, ResultsLog.series_pairs _ _ _⟩
    unfold Session.series
    rw [if_pos known]

section

variable {scenario : Scenario Extended} {specs : List (KpiSpec Extended)}
  {unit : EmulationUnit Extended σ} {s₀ s : Session Extended σ} {held : List (ResultRow Extended)}

/-- Every row of a valid scenario has a defined time. -/
theorem stamped_of_valid (hv : scenario.validate = .ok ())
    (hr : (lts scenario specs unit).Reachable s) : s.committed.results.Stamped := by
  obtain ⟨exact, rfl, window⟩ := Scenario.validate_extended hv
  obtain ⟨s₀, ts, h₀, run⟩ := hr
  obtain ⟨clock, times, coherent, -⟩ := coherent_run window h₀ run
  intro row hm
  have ht : row.time ∈ times.map Extended.finite := by
    rw [← coherent.rows_eq]
    exact List.mem_map_of_mem hm
  obtain ⟨t, -, he⟩ := List.mem_map.1 ht
  rw [← he]
  exact Extended.isNaN_finite t

/-- In a session over a valid scenario a client that polls loses and repeats nothing. -/
theorem polling_follows (valid : scenario.validate = .ok ())
    (hr : (lts scenario specs unit).Reachable s₀) (watched : Watched s₀ s held) :
    Followed s₀ s held := by
  have stamped : s.committed.results.Stamped := stamped_of_valid valid (watched.reachable hr)
  exact watched.followed hr stamped

end

/-- A client watches a tank over two steps and a step that is not taken, and polls after each of
them. It asks once more when it has all rows, and gets nothing new. -/
theorem polling_follows_tank :
    ∃ (s₀ s : Session Extended (ScriptedState Extended)) (held : List (ResultRow Extended)),
      Tank.scenario.validate = .ok () ∧
      (lts Tank.scenario [Tank.fill] (scriptedUnit Tank.metadata)).Reachable s₀ ∧
      Watched s₀ s held ∧ Followed s₀ s held ∧
      held.map (·.time) = [.finite 5, .finite 8] ∧
      (s.caughtUp held).map (·.time) = [.finite 5, .finite 8] := by
  let s₀ := ((Tank.session (scriptedUnit Tank.metadata) (Tank.state {})).reset none).1
  let s₁ := (s₀.advance 5 .empty).1
  let s₂ := (s₁.setStep (.finite 0)).1
  let s₃ := (s₂.advance 5 .empty).1
  have hr : (lts Tank.scenario [Tank.fill] (scriptedUnit Tank.metadata)).Reachable s₀ :=
    reachable_reset (.of_init (Tank.opened rfl _)) none
  have first : Watched s₀ s₁ (s₁.caughtUp (s₀.caughtUp [])) :=
    (Watched.start.poll.advance 5 .empty).poll
  have refused : Watched s₀ s₂ (s₂.caughtUp (s₁.caughtUp (s₀.caughtUp []))) :=
    (first.setStep (.finite 0)).poll
  have second := (refused.advance 5 .empty).poll
  exact ⟨s₀, s₃, _, Tank.scenario_valid, hr, second,
    polling_follows Tank.scenario_valid hr second, by decide +kernel, by decide +kernel⟩

end Session

end BuildingEmulation
