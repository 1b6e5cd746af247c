import BuildingEmulation.Proofs.Session.Coherent
import BuildingEmulation.Proofs.Session.Tank
import Mathlib.Order.Bounds.Basic

/-!
# Running to the end

A client that advances until the scenario has ended asks for whole steps, and the last of them is
cut where the scenario ends. So the number of steps is known beforehand: it is the least number of
whole steps that comes within the time tolerance of the end. Before it the clock stands at whole
steps, where the session is ready; there it lands on the end.

Results:
* `Clock.next_wholeSteps`, `Clock.next_lastStep`: where each step leads.
* `Underway.advance`, `Underway.finish`: one more step of a run, and its last.
* `runToEnd_spec`: from every session, running to the end stops, after how many steps, with which
  rows, and with which error if the model fails on the way.
-/
namespace BuildingEmulation

open Scalar (Extended)

/-! ## Counting steps -/

namespace Clock

variable (c : Clock Rat)

/-- Some whole steps from the time of the clock come within the time tolerance of the end. -/
def Reaches (n : Nat) : Prop := 1 ≤ n ∧ c.stop - Calendar.timeTolerance ≤ c.time + n * c.step

/-- The clock some whole steps later. -/
def later (k : Nat) : Clock Rat := { c with time := c.time + k * c.step }

/-- The times of the next whole steps. -/
def wholeSteps (k : Nat) : List Rat := (List.range k).map fun j => c.time + (j + 1 : Nat) * c.step

/-- The times of the next steps, of which the last leads to the end. -/
def schedule (n : Nat) : List Rat := c.wholeSteps (n - 1) ++ [c.stop]

theorem later_zero : c.later 0 = c := by
  unfold later
  rw [Nat.cast_zero, zero_mul, add_zero]

theorem wholeSteps_succ (k : Nat) :
    c.wholeSteps (k + 1) = c.wholeSteps k ++ [c.time + (k + 1 : Nat) * c.step] := by
  rw [wholeSteps, List.range_succ, List.map_append]
  rfl

/-- The schedule up to one of its steps consists of whole steps. -/
theorem take_schedule {k n : Nat} (h : k < n) : (c.schedule n).take k = c.wholeSteps k := by
  have hl : (c.wholeSteps (n - 1)).length = n - 1 := by
    rw [wholeSteps, List.length_map, List.length_range]
  rw [schedule, List.take_append_of_le_length (by omega), wholeSteps, ← List.map_take,
    List.take_range, Nat.min_eq_left (by omega), wholeSteps]

theorem time_later_step (k : Nat) : (c.later k).time + c.step = c.time + (k + 1 : Nat) * c.step := by
  change c.time + k * c.step + c.step = _
  push_cast
  ring

variable {c}

/-- Before the last step the next one is a whole step. -/
theorem next_wholeSteps {n k : Nat} (h : IsLeast {n | c.Reaches n} n) (hk : k + 1 < n) :
    (c.later k).next = (c.later (k + 1)).time := by
  have hr : ¬ c.Reaches (k + 1) := fun hr => by
    have := h.2 hr
    omega
  have hlt : c.time + (k + 1 : Nat) * c.step < c.stop - Calendar.timeTolerance := by
    by_contra hle
    exact hr ⟨by omega, not_lt.1 hle⟩
  rw [← c.time_later_step k] at hlt
  exact (if_pos hlt).trans (c.time_later_step k)

/-- The last step leads to the end. -/
theorem next_lastStep {n : Nat} (h : IsLeast {n | c.Reaches n} (n + 1)) :
    (c.later n).next = c.stop := by
  have hle := h.1.2
  rw [← c.time_later_step n] at hle
  exact if_neg (not_lt.2 hle)

/-- The whole steps that fit what is left of the scenario come within the time tolerance of its
end. -/
theorem Running.reaches (h : c.Running) : c.Reaches ((c.stop - c.time) / c.step).ceil.toNat := by
  have hb : 0 < c.stop - c.time := sub_pos.2 h.before
  have hq : 0 < (c.stop - c.time) / c.step := div_pos hb h.step_pos
  have hle := (div_le_iff₀ h.step_pos).1 (Rat.le_ceil (x := (c.stop - c.time) / c.step))
  have hc : 0 < ((c.stop - c.time) / c.step).ceil := by
    by_contra hn
    have := Rat.ceil_le_iff.1 (not_lt.1 hn)
    rw [Int.cast_zero] at this
    linarith
  have hcast : ((((c.stop - c.time) / c.step).ceil.toNat : Nat) : Rat) =
      (((c.stop - c.time) / c.step).ceil : Rat) := by
    exact_mod_cast Int.toNat_of_nonneg hc.le
  have htol := tolerance_pos
  refine ⟨by omega, ?_⟩
  rw [hcast]
  linarith

end Clock

namespace Session

/-! ## The loop -/

section

variable {α σ : Type} [Scalar α] (latency : Nat → Nat) (s : Session α σ)

/-- The session after some advances without inputs, the k-th of which takes `latency k`
nanoseconds. -/
def after : Nat → Session α σ
  | 0 => s
  | k + 1 => ((after k).advance (latency k) .empty).1

/-- What the model answers to an advance without inputs. -/
def nextAnswer : Except (CallFailure α) (SignalMap α) :=
  (s.exchange (s.committed.planned .empty)).2

/-- The advance after some others goes through, and does not end the scenario. -/
def GoesOn (k : Nat) : Prop :=
  ∃ report, ((s.after latency k).advance (latency k) .empty).2 = .ok report ∧
    report.endOfScenario = false

/-- As long as advances go through, running on is advancing. -/
theorem runFor_after {k : Nat} (fuel : Nat) (h : ∀ j < k, s.GoesOn latency j) :
    runFor latency (k + fuel) 0 s = runFor latency fuel k (s.after latency k) := by
  induction k generalizing fuel with
  | zero => rw [Nat.zero_add]; rfl
  | succ k ih =>
    obtain ⟨report, hr, hend⟩ := h k (by omega)
    rw [show k + 1 + fuel = k + (fuel + 1) by omega, ih (fuel + 1) fun j hj => h j (by omega)]
    rw [runFor, after]
    cases ha : (s.after latency k).advance (latency k) .empty with
    | mk s' answer =>
      rw [ha] at hr
      cases hr
      simp only [hend, Bool.false_eq_true, if_false]

/-- The loop stops at an advance that ends the scenario. -/
theorem runFor_ended {k : Nat} (fuel : Nat) (h : ∀ j < k, s.GoesOn latency j)
    {report : AdvanceReport α}
    (last : ((s.after latency k).advance (latency k) .empty).2 = .ok report)
    (hend : report.endOfScenario = true) :
    runFor latency (k + (fuel + 1)) 0 s = (s.after latency (k + 1), some (.ok (k + 1))) := by
  rw [runFor_after latency s (fuel + 1) h, runFor, after]
  cases ha : (s.after latency k).advance (latency k) .empty with
  | mk s' answer =>
    rw [ha] at last
    cases last
    simp only [hend, if_true]

/-- The loop stops at an advance that fails. -/
theorem runFor_failed {k : Nat} (fuel : Nat) (h : ∀ j < k, s.GoesOn latency j)
    {e : SessionError α}
    (last : ((s.after latency k).advance (latency k) .empty).2 = .error e) :
    runFor latency (k + (fuel + 1)) 0 s = (s.after latency (k + 1), some (.error e)) := by
  rw [runFor_after latency s (fuel + 1) h, runFor, after]
  cases ha : (s.after latency k).advance (latency k) .empty with
  | mk s' answer =>
    rw [ha] at last
    cases last
    rfl

/-- A loop that has stopped would not have gone on with a higher bound. -/
theorem runFor_more {fuel fuel' k : Nat} {s : Session α σ}
    (h : (runFor latency fuel k s).2.isSome) (hle : fuel ≤ fuel') :
    runFor latency fuel' k s = runFor latency fuel k s := by
  induction fuel generalizing fuel' k s with
  | zero => cases h
  | succ fuel ih =>
    obtain ⟨fuel', rfl⟩ : ∃ n, fuel' = n + 1 := ⟨fuel' - 1, by omega⟩
    rw [runFor] at h ⊢
    rw [runFor]
    cases ha : s.advance (latency k) .empty with
    | mk s' answer =>
      rw [ha] at h
      cases answer with
      | error e => rfl
      | ok report =>
        simp only at h ⊢
        split
        · rfl
        · next hend =>
          rw [if_neg hend] at h
          exact ih h (by omega)

/-! ## One advance without inputs -/

variable {latency s}

theorem advance_of_answer (ready : s.committed.lifecycle = .ready)
    (log : s.committed.results.checkNext s.committed.move.time = .ok ()) {outputs : SignalMap α}
    (h : s.nextAnswer = .ok outputs) (latency : Nat) :
    (s.advance latency .empty).2 = .ok (s.committed.recordReport .empty outputs latency) ∧
      (s.advance latency .empty).1.committed = s.committed.record .empty outputs latency := by
  have hc := advance_change s latency .empty
  generalize (s.advance latency .empty).2 = answer at hc ⊢
  generalize (s.advance latency .empty).1.worker = w at hc
  generalize (s.advance latency .empty).1.committed = c at hc ⊢
  cases hc with
  | refused plan => rw [Committed.plan_ready ready rfl] at plan; cases plan
  | failed _ _ run => rw [nextAnswer, exchange, Committed.planned, run] at h; cases h
  | uncommitted _ _ _ full => rw [log] at full; cases full
  | advanced _ _ run =>
    rw [nextAnswer, exchange, Committed.planned, run] at h
    cases h
    exact ⟨rfl, rfl⟩

theorem advance_of_failure (ready : s.committed.lifecycle = .ready) {failure : CallFailure α}
    (h : s.nextAnswer = .error failure) (latency : Nat) :
    (s.advance latency .empty).2 = .error (.modelStep failure.error) ∧
      (s.advance latency .empty).1.committed = s.committed.fail failure.inFlight := by
  have hc := advance_change s latency .empty
  generalize (s.advance latency .empty).2 = answer at hc ⊢
  generalize (s.advance latency .empty).1.worker = w at hc
  generalize (s.advance latency .empty).1.committed = c at hc ⊢
  cases hc with
  | refused plan => rw [Committed.plan_ready ready rfl] at plan; cases plan
  | failed _ _ run =>
    rw [nextAnswer, exchange, Committed.planned, run] at h
    cases h
    exact ⟨rfl, rfl⟩
  | uncommitted _ _ run | advanced _ _ run =>
    rw [nextAnswer, exchange, Committed.planned, run] at h
    cases h

/-- A session that is not ready refuses, and nothing but the count changes. -/
theorem advance_not_ready {e : SessionError α} (h : s.committed.checkReady = .error e)
    (latency : Nat) (inputs : SignalMap α) :
    s.advance latency inputs = (s.count (.error e), .error e) := by
  have hp : s.committed.plan s.model.registry inputs = .error e := by
    rw [Committed.plan, h]; rfl
  rw [advance, advance_rejected hp]

theorem stepsLeft_pos (s : Session α σ) : 0 < s.stepsLeft := by
  simp only [stepsLeft]
  split
  · omega
  · exact pow2_pos 20

end

/-! ## Steps of the loop -/

variable {σ : Type} {scenario : Scenario Extended} {specs : List (KpiSpec Extended)}
  {unit : EmulationUnit Extended σ} {s s' : Session Extended σ} {clock : Clock Rat} {n : Nat}

/-- The bound of the loop is not below the number of steps that it makes. -/
theorem le_stepsLeft (hc : s.committed.clock = clock.extended) (running : clock.Running)
    (least : IsLeast {n | clock.Reaches n} n) : n ≤ s.stepsLeft := by
  have hle : n ≤ ((clock.stop - clock.time) / clock.step).ceil.toNat := least.2 running.reaches
  have hq : (clock.extended.stop - clock.extended.time) / clock.extended.step =
      .finite ((clock.stop - clock.time) / clock.step) := by
    change (Extended.finite clock.stop - .finite clock.time) / .finite clock.step = _
    rw [Extended.finite_sub]
    exact if_neg running.step_pos.ne'
  unfold stepsLeft
  simp only [hc, hq]
  change n ≤ 2 * ((clock.stop - clock.time) / clock.step).ceil.toNat + 2
  omega

/-- After some whole steps of a session it is ready for the next one, and the rows of these steps
have been added. -/
structure Underway (clock : Clock Rat) (s : Session Extended σ) (k : Nat)
    (s' : Session Extended σ) : Prop where
  ready : s'.committed.lifecycle = .ready
  coherent : ∃ times, s'.committed.Coherent (clock.later k) times
  rows : ∃ rows, s'.committed.results.toList = s.committed.results.toList ++ rows ∧
    rows.map (·.time) = (clock.wholeSteps k).map .finite

/-- The session has come to the end of its scenario in some steps, with a row for each. -/
structure Ended (clock : Clock Rat) (s : Session Extended σ) (n : Nat)
    (s' : Session Extended σ) : Prop where
  lifecycle : s'.committed.lifecycle = .scenarioEnded
  time : s'.committed.clock.time = .finite clock.stop
  rows : ∃ rows, s'.committed.results.toList = s.committed.results.toList ++ rows ∧
    rows.map (·.time) = (clock.schedule n).map .finite

theorem Underway.refl {times : List Rat} (ready : s.committed.lifecycle = .ready)
    (h : s.committed.Coherent clock times) : Underway clock s 0 s where
  ready := ready
  coherent := ⟨times, by rwa [clock.later_zero]⟩
  rows := ⟨[], (List.append_nil _).symm, rfl⟩

/-- A recorded step adds one row, at the next time of the clock. -/
theorem rows_record {times : List Rat} {time : Rat} (h : s'.committed.Coherent clock times)
    (ready : s'.committed.lifecycle = .ready) (next : clock.next = time)
    {stepped : List Rat} (rows : ∃ rows, s'.committed.results.toList =
      s.committed.results.toList ++ rows ∧ rows.map (·.time) = stepped.map .finite)
    (outputs : SignalMap Extended) (latency : Nat) :
    ∃ rows, (s'.committed.record .empty outputs latency).results.toList =
      s.committed.results.toList ++ rows ∧ rows.map (·.time) = (stepped ++ [time]).map .finite := by
  obtain ⟨rows, hrows, htimes⟩ := rows
  refine ⟨rows ++ [s'.committed.nextRow .empty outputs], ?_, ?_⟩
  · rw [← List.append_assoc, ← hrows]
    exact Array.toList_push
  · rw [List.map_append, List.map_append, htimes, ← next]
    exact congrArg (_ ++ [·]) (h.move_eq ready).1

/-- One more whole step. -/
theorem Underway.advance {k : Nat} (h : Underway clock s k s')
    (least : IsLeast {n | clock.Reaches n} n) (hk : k + 1 < n) (ok : s'.nextAnswer.isOk)
    (latency : Nat) :
    (∃ report, (s'.advance latency .empty).2 = .ok report ∧ report.endOfScenario = false) ∧
      Underway clock s (k + 1) (s'.advance latency .empty).1 := by
  obtain ⟨times, coherent⟩ := h.coherent
  cases ha : s'.nextAnswer with
  | error failure => rw [ha] at ok; cases ok
  | ok outputs =>
    obtain ⟨hr, hc⟩ := advance_of_answer h.ready (coherent.log_takes h.ready) ha latency
    have next := Clock.next_wholeSteps least hk
    have hend : s'.committed.move.reachedEnd = false := by
      -- a whole step before the last one stays clear of the end
      by_contra hne
      have hstop := (coherent.move_eq h.ready).2.2.1 (Bool.eq_true_of_not_eq_false hne)
      have hn : ¬ clock.Reaches (k + 1) := fun hr => by
        have := least.2 hr
        omega
      rw [next] at hstop
      exact hn ⟨by omega, by
        have := Clock.tolerance_pos
        change clock.time + _ = clock.stop at hstop
        linarith⟩
    refine ⟨⟨_, hr, hend⟩, ?_, ?_, ?_⟩
    · rw [hc, Committed.record, hend]
      exact h.ready
    · have record := coherent.record h.ready .empty outputs latency
      rw [next] at record
      exact ⟨_, by rw [hc]; exact record⟩
    · rw [hc, clock.wholeSteps_succ]
      exact rows_record coherent h.ready next h.rows outputs latency

/-- The last step. -/
theorem Underway.finish {k : Nat} (h : Underway clock s k s')
    (least : IsLeast {n | clock.Reaches n} (k + 1)) (ok : s'.nextAnswer.isOk) (latency : Nat) :
    (∃ report, (s'.advance latency .empty).2 = .ok report ∧ report.endOfScenario = true) ∧
      Ended clock s (k + 1) (s'.advance latency .empty).1 := by
  obtain ⟨times, coherent⟩ := h.coherent
  cases ha : s'.nextAnswer with
  | error failure => rw [ha] at ok; cases ok
  | ok outputs =>
    obtain ⟨hr, hc⟩ := advance_of_answer h.ready (coherent.log_takes h.ready) ha latency
    have next := Clock.next_lastStep least
    have hend : s'.committed.move.reachedEnd = true := (coherent.move_eq h.ready).2.2.2 next
    refine ⟨⟨_, hr, hend⟩, ?_, ?_, ?_⟩
    · rw [hc, Committed.record, hend]
      rfl
    · rw [hc, (coherent.record h.ready .empty outputs latency).clock_eq, next]
      rfl
    · rw [hc]
      exact rows_record coherent h.ready next h.rows outputs latency

/-- As long as the model answers, whole steps are made. -/
theorem underway_after {times : List Rat} {latency : Nat → Nat} {k : Nat}
    (ready : s.committed.lifecycle = .ready) (coherent : s.committed.Coherent clock times)
    (least : IsLeast {n | clock.Reaches n} n) (hk : k < n)
    (ok : ∀ j < k, (s.after latency j).nextAnswer.isOk) :
    (∀ j < k, s.GoesOn latency j) ∧ Underway clock s k (s.after latency k) := by
  induction k with
  | zero => exact ⟨fun _ hj => (nomatch hj), .refl ready coherent⟩
  | succ k ih =>
    obtain ⟨goesOn, underway⟩ := ih (by omega) fun j hj => ok j (by omega)
    obtain ⟨goes, underway⟩ := underway.advance least hk (ok k (by omega)) (latency k)
    refine ⟨fun j hj => ?_, underway⟩
    rcases Nat.lt_succ_iff_lt_or_eq.1 hj with hj | rfl
    · exact goesOn j hj
    · exact goes

/-! ## The whole run -/

/-- What running a ready session to the end comes to. -/
structure Completes (clock : Clock Rat) (latency : Nat → Nat) (s : Session Extended σ) (n : Nat) :
    Prop where
  least : IsLeast {n | clock.Reaches n} n
  completed : (∀ k < n, (s.after latency k).nextAnswer.isOk) →
    ∃ s', s.runToEnd latency = (s', some (.ok n)) ∧ Ended clock s n s'
  /-- The first call that fails is the last one: its row and those after it are missing. -/
  interrupted : ∀ k < n, ∀ failure, (∀ j < k, (s.after latency j).nextAnswer.isOk) →
    (s.after latency k).nextAnswer = .error failure →
    ∃ s' rows, s.runToEnd latency = (s', some (.error (.modelStep failure.error))) ∧
      s'.committed = (s.after latency k).committed.fail failure.inFlight ∧
      s'.committed.results.toList = s.committed.results.toList ++ rows ∧
      rows.map (·.time) = ((clock.schedule n).take k).map .finite

theorem runToEnd_completes {times : List Rat} (ready : s.committed.lifecycle = .ready)
    (coherent : s.committed.Coherent clock times) (latency : Nat → Nat)
    (least : IsLeast {n | clock.Reaches n} n) : Completes clock latency s n := by
  have bound : n ≤ s.stepsLeft := le_stepsLeft coherent.clock_eq (coherent.running ready) least
  refine ⟨least, fun ok => ?_, fun k hk failure ok failed => ?_⟩
  · obtain ⟨k, rfl⟩ : ∃ k, n = k + 1 := ⟨n - 1, by have : 1 ≤ n := least.1.1; omega⟩
    obtain ⟨goesOn, underway⟩ :=
      underway_after ready coherent least (Nat.lt_succ_self k) fun j hj => ok j (by omega)
    obtain ⟨⟨report, hr, hend⟩, ended⟩ :=
      underway.finish least (ok k (Nat.lt_succ_self k)) (latency k)
    obtain ⟨fuel, hf⟩ : ∃ fuel, s.stepsLeft = k + (fuel + 1) := ⟨s.stepsLeft - k - 1, by omega⟩
    exact ⟨_, by rw [runToEnd, hf]; exact runFor_ended latency s fuel goesOn hr hend, ended⟩
  · obtain ⟨goesOn, underway⟩ := underway_after ready coherent least hk ok
    obtain ⟨hr, hc⟩ := advance_of_failure underway.ready failed (latency k)
    obtain ⟨fuel, hf⟩ : ∃ fuel, s.stepsLeft = k + (fuel + 1) := ⟨s.stepsLeft - k - 1, by omega⟩
    obtain ⟨rows, hrows, htimes⟩ := underway.rows
    refine ⟨_, rows, by rw [runToEnd, hf]; exact runFor_failed latency s fuel goesOn hr, hc, ?_, ?_⟩
    · rw [hc, ((s.after latency k).committed.fail_fields _).2.2.1, hrows]
    · rw [clock.take_schedule hk, htimes]

/-- The model answers every call, or there is a first one that it fails. -/
theorem answers_or_fails (latency : Nat → Nat) (s : Session Extended σ) (n : Nat) :
    (∀ k < n, (s.after latency k).nextAnswer.isOk) ∨
      ∃ k < n, ∃ failure, (∀ j < k, (s.after latency j).nextAnswer.isOk) ∧
        (s.after latency k).nextAnswer = .error failure := by
  induction n with
  | zero => exact .inl fun _ hk => nomatch hk
  | succ n ih =>
    rcases ih with ok | ⟨k, hk, failure, ok, failed⟩
    · cases ha : (s.after latency n).nextAnswer with
      | error failure => exact .inr ⟨n, Nat.lt_succ_self n, failure, ok, ha⟩
      | ok outputs =>
        refine .inl fun k hk => ?_
        rcases Nat.lt_succ_iff_lt_or_eq.1 hk with hk | rfl
        · exact ok k hk
        · rw [ha]; rfl
    · exact .inr ⟨k, by omega, failure, ok, failed⟩

theorem Completes.stops {latency : Nat → Nat} (h : Completes clock latency s n) :
    (s.runToEnd latency).2.isSome := by
  rcases answers_or_fails latency s n with ok | ⟨k, hk, failure, ok, failed⟩
  · obtain ⟨s', hr, -⟩ := h.completed ok
    rw [hr]; rfl
  · obtain ⟨s', rows, hr, -⟩ := h.interrupted k hk failure ok failed
    rw [hr]; rfl

/-- What running a session to the end comes to. -/
structure RunsToEnd (latency : Nat → Nat) (s : Session Extended σ) : Prop where
  stops : (s.runToEnd latency).2.isSome
  /-- The loop does not need its bound. -/
  unbounded : ∀ fuel ≥ s.stepsLeft, runFor latency fuel 0 s = s.runToEnd latency
  ready : s.committed.lifecycle = .ready →
    ∃ clock n, s.committed.clock = clock.extended ∧ Completes clock latency s n
  ended : s.committed.lifecycle = .scenarioEnded →
    s.runToEnd latency = (s.measure (·.recordAdvance .rejected), some (.error .scenarioEnded))
  notReady : s.committed.lifecycle = .uninitialized ∨ s.committed.lifecycle = .needsReset →
    s.runToEnd latency = (s.measure (·.recordAdvance .rejected), some (.error .notReady))

/-- A loop over a session that is not ready ends with its first refusal. -/
theorem runToEnd_refused {e : SessionError Extended} (h : s.committed.checkReady = .error e)
    (latency : Nat → Nat) : s.runToEnd latency = (s.count (.error e), some (.error e)) := by
  obtain ⟨fuel, hf⟩ : ∃ fuel, s.stepsLeft = fuel + 1 :=
    ⟨s.stepsLeft - 1, by have := s.stepsLeft_pos; omega⟩
  rw [runToEnd, hf, runFor, advance_not_ready h]

/-- From every session of a valid scenario running to the end stops: a ready one after as many steps
as lead to the end, or with the first failure of its model, any other at once. -/
theorem runToEnd_spec (hv : scenario.validate = .ok ())
    (hr : (lts scenario specs unit).Reachable s) (latency : Nat → Nat) : RunsToEnd latency s := by
  obtain ⟨exact, rfl, window⟩ := Scenario.validate_extended hv
  obtain ⟨s₀, ts, h₀, run⟩ := hr
  obtain ⟨clock, times, coherent, -⟩ := coherent_run window h₀ run
  have ended (hl : s.committed.lifecycle = .scenarioEnded) :
      s.runToEnd latency = (s.measure (·.recordAdvance .rejected), some (.error .scenarioEnded)) :=
    runToEnd_refused (by rw [Committed.checkReady, hl]) latency
  have notReady (hl : s.committed.lifecycle = .uninitialized ∨
      s.committed.lifecycle = .needsReset) :
      s.runToEnd latency = (s.measure (·.recordAdvance .rejected), some (.error .notReady)) := by
    rcases hl with hl | hl <;> exact runToEnd_refused (by rw [Committed.checkReady, hl]) latency
  have ready (hl : s.committed.lifecycle = .ready) :
      ∃ clock n, s.committed.clock = clock.extended ∧ Completes clock latency s n := by
    have reaches : ∃ n, clock.Reaches n := ⟨_, (coherent.running hl).reaches⟩
    classical
    have least : IsLeast {n | clock.Reaches n} (Nat.find reaches) :=
      ⟨Nat.find_spec reaches, fun n hn => Nat.find_min' reaches hn⟩
    exact ⟨clock, _, coherent.clock_eq, runToEnd_completes hl coherent latency least⟩
  have stops : (s.runToEnd latency).2.isSome := by
    cases hl : s.committed.lifecycle with
    | ready =>
      obtain ⟨clock, n, -, completes⟩ := ready hl
      exact completes.stops
    | uninitialized => rw [notReady (.inl hl)]; rfl
    | needsReset => rw [notReady (.inr hl)]; rfl
    | scenarioEnded => rw [ended hl]; rfl
  exact ⟨stops, fun fuel hf => runFor_more latency stops hf, ready, ended, notReady⟩

end Session

namespace Tank

/-- A tank whose second step fails. -/
def brittle : EmulationUnit Extended Nat where
  metadata := metadata
  restart _ _ := fun _ => .returned 0 ()
  set _ _ := fun made => .returned made ()
  doStep _ := fun made =>
    if made = 1 then .failed made (.solver "dry") else .returned (made + 1) ()
  get _ := fun made => .returned made (.finite 4)

end Tank

namespace Session

/-- A tank comes to its end in three steps, the last of which is cut to two seconds. One that breaks
in the second step is left with the row of the first. -/
theorem runToEnd_tank :
    ∃ (s : Session Extended (ScriptedState Extended)) (b : Session Extended Nat),
      Tank.scenario.validate = .ok () ∧
      (lts Tank.scenario [Tank.fill] (scriptedUnit Tank.metadata)).Reachable s ∧
      (lts Tank.scenario [Tank.fill] Tank.brittle).Reachable b ∧
      RunsToEnd (fun _ => 5) s ∧ RunsToEnd (fun _ => 5) b ∧
      s.committed.lifecycle = .ready ∧ b.committed.lifecycle = .ready ∧
      (s.runToEnd fun _ => 5).2.map (·.toOption) = some (some 3) ∧
      (s.runToEnd fun _ => 5).1.committed.results.toList.map (·.time) =
        [.finite 5, .finite 8, .finite 10] ∧
      (b.runToEnd fun _ => 5).2.map (·.toOption) = some none ∧
      (b.runToEnd fun _ => 5).1.committed.results.toList.map (·.time) = [.finite 5] := by
  let s := ((Tank.session (scriptedUnit Tank.metadata) (Tank.state {})).reset none).1
  let b := ((Tank.session Tank.brittle 0).reset none).1
  have hs : (lts Tank.scenario [Tank.fill] (scriptedUnit Tank.metadata)).Reachable s :=
    reachable_reset (.of_init (Tank.opened rfl _)) none
  have hb : (lts Tank.scenario [Tank.fill] Tank.brittle).Reachable b :=
    reachable_reset (.of_init (Tank.opened rfl _)) none
  exact ⟨s, b, Tank.scenario_valid, hs, hb, runToEnd_spec Tank.scenario_valid hs _,
    runToEnd_spec Tank.scenario_valid hb _, by decide +kernel, by decide +kernel,
    by decide +kernel, by decide +kernel, by decide +kernel, by decide +kernel⟩

end Session

end BuildingEmulation
