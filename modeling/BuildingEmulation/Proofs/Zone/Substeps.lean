import BuildingEmulation.Proofs.Exact
import BuildingEmulation.Zone.Unit
import Mathlib.Algebra.BigOperators.Ring.Finset

/-!
# Substeps of the zone

A step that lasts some whole minutes is cut into substeps of one minute each, so it does not matter
how the minutes are handed out to steps: the zone goes through the same substeps one after the
other, up to the one that takes it out of the plausible range.

Results:
* `substeps_add`: some substeps and then some more.
* `doStep_minutes`: a step of whole minutes.
* `forM_doStep`: a list of such steps is one step of all their minutes.
* `restart_then`: a warm-up is a start without one and then a step.
-/
namespace BuildingEmulation

namespace Progress

variable {σ ε ε' β γ : Type}

theorem mapError_andThen (p : Progress σ ε β) (f : ε → ε') (next : β → Call σ ε γ) :
    (p.andThen next).mapError f = (p.mapError f).andThen fun b s => (next b s).mapError f := by
  induction p with
  | blocked s resume ih => simp [andThen, mapError, ih]
  | _ => rfl

/-- A call that returned after another one, which must have returned too. -/
theorem andThen_returned_cases {p : Progress σ ε β} {next : β → Call σ ε γ} {s : σ} {c : γ}
    (h : p.andThen next = .returned s c) :
    ∃ s' b, p = .returned s' b ∧ next b s' = .returned s c := by
  cases p with
  | returned s' b => exact ⟨s', b, rfl, h⟩
  | failed | aborted | blocked => cases h

theorem mapError_returned {p : Progress σ ε β} {f : ε → ε'} {s : σ} {b : β}
    (h : p.mapError f = .returned s b) : p = .returned s b := by
  cases p with
  | returned => cases h; rfl
  | failed | aborted | blocked => cases h

end Progress

namespace Zone

section

variable {α : Type} [Scalar α] (z : Zone α)

theorem substeps_add (dt : α) (m n : Nat) (s : ZoneState α) :
    z.substeps dt (m + n) s = (z.substeps dt m s).andThen fun _ => z.substeps dt n := by
  induction m generalizing s with
  | zero => rw [Nat.zero_add]; rfl
  | succ m ih =>
    rw [Nat.succ_add]
    simp only [substeps]
    cases z.commandedPower? s with
    | none => rfl
    | some power =>
      simp only
      split
      · exact ih _
      · rfl

/-- Nothing that the zone does by itself touches what is overridden. -/
theorem substeps_overrides (dt : α) (n : Nat) (s : ZoneState α) :
    (z.substeps dt n s).state.setpoint = s.setpoint ∧
      (z.substeps dt n s).state.power = s.power := by
  induction n generalizing s with
  | zero => exact ⟨rfl, rfl⟩
  | succ n ih =>
    unfold substeps
    cases z.commandedPower? s with
    | none => exact ⟨rfl, rfl⟩
    | some power =>
      simp only
      split
      · exact ih _
      · exact ⟨rfl, rfl⟩

theorem integrate_overrides (duration : α) (s : ZoneState α) :
    (z.integrate duration s).state.setpoint = s.setpoint ∧
      (z.integrate duration s).state.power = s.power := by
  unfold integrate
  split
  · exact ⟨rfl, rfl⟩
  · split
    · exact ⟨rfl, rfl⟩
    · exact z.substeps_overrides _ _ _

variable [Decimal.Numeral α]

theorem unit_set_some {name : String} {value : UnitValue α} {s s' : ZoneState α}
    (h : write? name value s = some s') : z.unit.set name value s = .returned s' () := by
  simp only [unit, Call.ofState, h]

theorem unit_get_some {name : String} {s : ZoneState α} {x : α} (h : z.read? name s = some x) :
    z.unit.get name s = .returned s x := by
  simp only [unit, Call.ofReading, Call.ofState, h]

/-- What a warm-up reports if its simulation fails. -/
def warmupError (e : UnitError) : UnitError := .initialization e.message

theorem substeps_restartError (dt : α) (n : Nat) (s : ZoneState α) :
    (z.substeps dt n s).mapError restartError =
      ((z.substeps dt n s).mapError fun fault => UnitError.solver fault.message).mapError
        warmupError := by
  induction n generalizing s with
  | zero => rfl
  | succ n ih =>
    unfold substeps
    cases z.commandedPower? s with
    | none => rfl
    | some power =>
      simp only
      split
      · exact ih _
      · rfl

theorem integrate_restartError (duration : α) (s : ZoneState α) :
    (z.integrate duration s).mapError restartError =
      (z.unit.doStep duration s).mapError warmupError := by
  change _ = ((z.integrate duration s).mapError _).mapError _
  unfold integrate
  split
  · rfl
  · split
    · rfl
    · exact z.substeps_restartError _ _ _

end

/-! ## Whole minutes -/

variable (z : Zone Rat)

theorem maxSubstep_exact : (maxSubstep : Rat) = 60 := by
  change (60.0 : Rat) = 60
  norm_num

/-- A duration of whole minutes is cut into as many substeps. -/
theorem substepCount_minutes {n : Nat} (h : 0 < n) : substepCount (60 * (n : Rat)) = n := by
  have hq : 60 * (n : Rat) / maxSubstep = (n : Int) := by
    rw [maxSubstep_exact]
    push_cast
    field_simp
  have hc : Scalar.ceil? (60 * (n : Rat) / maxSubstep) = some (n : Int) := by
    rw [hq]
    change some (Rat.ceil ((n : Int) : Rat)) = _
    rw [Rat.ceil_intCast]
  unfold substepCount
  rw [hc]
  simp only [Option.getD_some, Int.toNat_natCast]
  omega

theorem integrate_minutes {n : Nat} (h : n < 2 ^ 64) :
    z.integrate (60 * n) = z.substeps 60 n := by
  funext s
  have hfinite : Scalar.isFinite (60 * (n : Rat)) = true := rfl
  have hnonneg : ¬ 60 * (n : Rat) < 0.0 := by
    rw [zero_exact, not_lt]
    positivity
  unfold integrate
  simp only [hfinite, hnonneg, Bool.not_true, decide_false, Bool.or_false, Bool.false_eq_true,
    if_false]
  by_cases hn : n = 0
  · subst hn
    have hzero : (60 * ((0 : Nat) : Rat) == 0.0) = true := by
      rw [zero_exact]
      simp
    rw [if_pos hzero]
    rfl
  · have hpos : 0 < n := Nat.pos_of_ne_zero hn
    have hzero : ¬ (60 * (n : Rat) == 0.0) = true := by
      rw [zero_exact]
      simp [hn]
    have hcount : min n (pow2 64 - 1) = n := by
      have hpow : pow2 64 = 2 ^ 64 := rfl
      omega
    have hlength : 60 * (n : Rat) / Scalar.ofNat n = 60 := by
      rw [ofNat_exact]
      have hne : (n : Rat) ≠ 0 := by exact_mod_cast hn
      field_simp
    rw [if_neg hzero, substepCount_minutes hpos, hcount, hlength]

variable [Decimal.Numeral Rat]

theorem doStep_minutes {n : Nat} (h : n < 2 ^ 64) :
    z.unit.doStep (60 * n) = (z.substeps 60 n).mapError fun fault => .solver fault.message := by
  change (z.integrate (60 * n)).mapError _ = _
  rw [integrate_minutes z h]

/-- Two steps of whole minutes are one step of both. -/
theorem doStep_add {m n : Nat} (h : m + n < 2 ^ 64) :
    (do z.unit.doStep (60 * m); z.unit.doStep (60 * n)) = z.unit.doStep (60 * (m + n : Nat)) := by
  rw [doStep_minutes z h, doStep_minutes z (by omega : m < 2 ^ 64),
    doStep_minutes z (by omega : n < 2 ^ 64)]
  funext s
  unfold Call.mapError
  rw [substeps_add, Progress.mapError_andThen]
  rfl

/-- Steps of whole minutes, one after the other up to the first that fails, are one step of all
their minutes. -/
theorem forM_minutes {counts : List Nat} (h : counts.sum < 2 ^ 64) :
    forM (counts.map fun n : Nat => 60 * (n : Rat)) z.unit.doStep =
      z.unit.doStep (60 * (counts.sum : Nat)) := by
  induction counts with
  | nil => exact (doStep_minutes z (n := 0) (by decide)).symm
  | cons n rest ih =>
    rw [List.sum_cons] at h ⊢
    rw [List.map_cons, List.forM_cons, ih (by omega)]
    exact doStep_add z h

theorem forM_doStep {durations : List Rat} (minutes : ∀ d ∈ durations, ∃ n : Nat, d = 60 * n)
    (bound : durations.sum < 60 * 2 ^ 64) :
    forM durations z.unit.doStep = z.unit.doStep durations.sum := by
  have hcounts : ∃ counts : List Nat, durations = counts.map fun n : Nat => 60 * (n : Rat) := by
    clear bound
    induction durations with
    | nil => exact ⟨[], rfl⟩
    | cons d rest ih =>
      obtain ⟨n, rfl⟩ := minutes d (by simp)
      obtain ⟨counts, rfl⟩ := ih fun d hd => minutes d (by simp [hd])
      exact ⟨n :: counts, rfl⟩
  obtain ⟨counts, rfl⟩ := hcounts
  have hsum : (counts.map fun n : Nat => 60 * (n : Rat)).sum = 60 * (counts.sum : Nat) := by
    rw [List.sum_map_mul_left, Nat.cast_list_sum]
  rw [hsum] at bound ⊢
  apply forM_minutes
  have hlt : (counts.sum : Rat) < 2 ^ 64 := by linarith
  exact_mod_cast hlt

/-! ## Warm-ups -/

theorem restart_eq {t w : Rat} (h : 0 ≤ w) (s : ZoneState Rat) :
    z.unit.restart t (t + w) s = (z.integrate w (z.start t)).mapError restartError := by
  have hlater : ¬ t + w < t := by linarith
  have hsub : t + w - t = w := by ring
  have hfinite : Scalar.isFinite t = true := rfl
  change (z.warmUp t (t + w) s).mapError restartError = _
  unfold warmUp
  simp only [hfinite, hlater, Bool.not_true, decide_false, Bool.or_false, Bool.false_eq_true,
    if_false, hsub]

/-- A start without a warm-up leads to the first state at once. -/
theorem restart_at (t : Rat) (s : ZoneState Rat) :
    z.unit.restart t t s = .returned (z.start t) () := by
  have hzero := z.restart_eq (le_refl 0) s (t := t)
  have hnone := z.integrate_minutes (n := 0) (by decide)
  rw [add_zero] at hzero
  rw [Nat.cast_zero, mul_zero] at hnone
  rw [hzero, hnone]
  rfl

/-- A warm-up comes to what a start without one and then a step come to. If that step fails the
warm-up does, and says so of the initialization. -/
theorem restart_then {t w : Rat} (h : 0 ≤ w) :
    z.unit.restart t (t + w) =
      (do z.unit.restart t t; z.unit.doStep w).mapError warmupError := by
  funext s
  have hthen : (do z.unit.restart t t; z.unit.doStep w : Call _ _ _) s =
      z.unit.doStep w (z.start t) := by
    change (z.unit.restart t t s).andThen _ = _
    rw [restart_at]
    rfl
  unfold Call.mapError
  rw [hthen, restart_eq z h, integrate_restartError]

/-- There is no time to go back to. -/
theorem restart_before {t w : Rat} (h : w < 0) (s : ZoneState Rat) :
    (∃ e, z.unit.restart t (t + w) s = .failed s e) ∧
      ∃ e, (do z.unit.restart t t; z.unit.doStep w : Call _ _ _) s = .failed (z.start t) e := by
  constructor
  · have hbefore : t + w < t := by linarith
    change ∃ e, (z.warmUp t (t + w) s).mapError restartError = .failed s e
    unfold warmUp
    simp only [hbefore, decide_true, Bool.or_true, if_true]
    exact ⟨_, rfl⟩
  · have hnegative : w < 0.0 := by rwa [zero_exact]
    change ∃ e, (z.unit.restart t t s).andThen (fun _ => z.unit.doStep w) = .failed (z.start t) e
    rw [restart_at]
    change ∃ e, (z.integrate w (z.start t)).mapError _ = .failed (z.start t) e
    unfold integrate
    simp only [hnegative, decide_true, Bool.or_true, if_true]
    exact ⟨_, rfl⟩

end Zone

end BuildingEmulation
