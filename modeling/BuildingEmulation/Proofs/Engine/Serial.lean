import BuildingEmulation.Proofs.Engine.Order
import BuildingEmulation.Proofs.Session.Fixed

/-!
# Concurrent calls are serial

However the steps of calls and reads are mixed, every run comes to the same as its calls one after
the other, each as a whole, in the order in which they passed the gate; and readers see what stands
before or after a whole call.

Results:
* `serial`: along every run of any number of callers.
-/
namespace BuildingEmulation.Crowd

variable {α σ : Type} [Scalar α]

/-- A run comes to the same as its calls one after the other. -/
structure Serial (r : Registry α) (start : Standing α)
    (ts : List (Transition (Crowd α σ) (CrowdEvent α))) (c : Crowd α σ) : Prop where
  /-- Nobody passes the gate twice. -/
  once : (entries ts).Nodup
  /-- The calls settle in the order in which they passed the gate. The last one may be on its way. -/
  order : entries ts = (settlements ts).map (·.caller) ++ c.pending
  /-- Executed in this order, each as a whole and told the same of its model call, they give the
  same replies and come to what stands in the end. -/
  served : Served r start (settlements ts) c.standing
  /-- That is what the callers are told. -/
  answered : ∀ {k caller reply}, c.callers[k]? = some caller → caller.station = .gone reply →
    Answered ts k caller.request reply
  /-- Once they have all gone, it is what readers see. -/
  final : (∀ caller ∈ c.callers, ∃ reply, caller.station = .gone reply) →
    c.pending = [] ∧ c.engine.standing = c.standing
  /-- A reader sees what stands after the calls that have settled by then. -/
  reads : ∀ {before t after q answer}, ts = before ++ t :: after → t.label = .read q answer →
    ∃ s, Served r start (settlements before) s ∧ answer = q.ask (t.source.engine.stand s).view
  /-- What a caller was told is entered into the very state in which its job was planned. -/
  planned : ∀ {before t after x told}, ts = before ++ t :: after → t.label = .settle x →
    x.told = some told → ∃ sent ∈ before, ∃ job, sent.label = .send x.caller job ∧
      x.request.intent r sent.source.engine.committed = .send job ∧
      t.source.standing.committed = sent.source.engine.committed
  /-- After a reset there is a row for every advance that has succeeded. -/
  rows : ∀ {pre x post report}, settlements ts = pre ++ x :: post → x.reply = .reset (.ok report) →
    (∀ y ∈ post, y.request.isReset = false) →
    c.standing.committed.results.size = post.countP (·.reply.advanced)

variable {scenario : Scenario α} {specs : List (KpiSpec α)} {unit : EmulationUnit α σ}
  {c₀ c c' : Crowd α σ} {ts : List (Transition (Crowd α σ) (CrowdEvent α))} {e : CrowdEvent α}
  {start : Standing α}

theorem Step.registry (h : Step c e c') : c'.registry = c.registry := by
  cases h with
  | task task step => exact congrArg Model.registry (step.model_frame (.inl task)).2.1
  | learn _ learns step => exact congrArg Model.registry (step.model_frame (.inr learns)).2.1
  | _ => rfl

theorem registry_run (hr : (lts scenario specs unit).Run c₀ ts c) : c.registry = c₀.registry :=
  hr.invariant (P := fun _ c => c.registry = c₀.registry) rfl
    fun _ _ _ _ h hs => (Step.registry hs).trans h

/-- A call that was told of its job settles in the state in which the job was planned. -/
theorem Orderly.planned (h : Orderly start ts c) {x : Settlement α} (hs : Step c (.settle x) c')
    {told : Told α} (hx : x.told = some told) :
    ∃ job, Sent ts c x.caller x.request job := by
  generalize he : CrowdEvent.settle x = e at hs
  cases hs with
  | refuse | set => cases he; cases hx
  | pass hk | conclude hk =>
    cases he
    obtain ⟨-, t, -, sent⟩ := h.fits _ _ hk
    exact ⟨t.job, sent⟩
  | _ => cases he

/-- A reader is answered from what stands. -/
theorem Step.answer {q : Query α} {answer : q.Answer} (h : Step c (.read q answer) c') :
    answer = q.ask (c.engine.stand c.standing).view := by
  generalize he : CrowdEvent.read q answer = e at h
  cases h with
  | read unlocked =>
    cases he
    rw [standing_unlocked unlocked]
    rfl
  | _ => cases he

/-- When everybody has gone, nobody is behind the gate and nobody writes. -/
theorem Orderly.final (h : Orderly start ts c)
    (gone : ∀ caller ∈ c.callers, ∃ reply, caller.station = .gone reply) :
    c.gate = none ∧ c.writer = none := by
  have free : c.gate = none := by
    cases hg : c.gate with
    | none => rfl
    | some k =>
      obtain ⟨caller, hk, hi⟩ := h.held k hg
      obtain ⟨reply, hs⟩ := gone caller (List.mem_of_getElem? hk)
      rw [hs] at hi; cases hi
  refine ⟨free, ?_⟩
  cases hw : c.writer with
  | none => rfl
  | some w =>
    have hg := (h.writer_gate hw).1
    rw [free] at hg; cases hg

/-- Concurrent calls are serial, whatever the unit does to them. -/
theorem serial (h₀ : (lts scenario specs unit).init c₀)
    (hr : (lts scenario specs unit).Run c₀ ts c) : Serial c₀.registry c₀.standing ts c := by
  have h := orderly_run h₀ hr
  have served : Served c₀.registry c₀.standing (settlements ts) c.standing := by
    rw [← registry_run hr]
    exact h.served
  exact
    { once := h.once
      order := h.order
      served := served
      answered := by
        rintro k ⟨request, station⟩ reply hk rfl
        exact h.fits k _ hk
      final := by
        intro gone
        obtain ⟨free, unlocked⟩ := h.final gone
        exact ⟨pending_free free, (standing_unlocked unlocked).symm⟩
      reads := by
        rintro before t after q answer rfl hl
        obtain ⟨run, step, -⟩ := hr.split
        refine ⟨t.source.standing, ?_, ?_⟩
        · rw [← registry_run run]
          exact (orderly_run h₀ run).served
        · change Step _ _ _ at step
          rw [hl] at step
          exact step.answer
      planned := by
        rintro before t after x told rfl hl hx
        obtain ⟨run, step, -⟩ := hr.split
        change Step _ _ _ at step
        rw [hl] at step
        obtain ⟨job, hi, sent, hm, hs, hc⟩ := (orderly_run h₀ run).planned step hx
        rw [registry_run run, ← hc] at hi
        exact ⟨sent, hm, job, hs, hi, hc.symm⟩
      rows := by
        intro pre x post report hts hx hpost
        rw [hts] at served
        exact served.rows hx hpost }

/-- Two calls at the same time. A reset goes into the tank and does not come out in time, a client
reads the step while it is there, and the other call sets a step of five once the reset has left the
gate. -/
theorem serial_tank :
    ∃ (c₀ c : Crowd Rat (ScriptedState Rat))
      (ts : List (Transition (Crowd Rat (ScriptedState Rat)) (CrowdEvent Rat))),
      (lts Sample.scenario [Sample.fill] (scriptedUnit Sample.metadata)).init c₀ ∧
      (lts Sample.scenario [Sample.fill] (scriptedUnit Sample.metadata)).Run c₀ ts c ∧
      Serial c₀.registry c₀.standing ts c ∧ entries ts = [1, 0] ∧
      c.engine.committed.clock.step = 5 := by
  let c₀ := ofSession (Sample.session (scriptedUnit Sample.metadata) (Sample.state {}))
  let M := lts Sample.scenario [Sample.fill] (scriptedUnit Sample.metadata)
  have h₀ : M.init c₀ := ⟨_, Sample.opened rfl _, rfl⟩
  have next {ts c e c'} (run : M.Run c₀ ts c) (h : Step c e c') :
      M.Run c₀ (ts ++ [⟨c, e, c'⟩]) c' := run.snoc h
  have issued := next (next .nil (.issue (.setStep 5))) (.issue (.reset none))
  have sent := next (next issued (.enter (k := 1) rfl rfl)) (.send (k := 1) rfl rfl rfl)
  have inside := next (next sent (.task rfl (.lock (i := 0) rfl rfl rfl)))
    (.task rfl (.run (i := 0) rfl rfl (fun h => nomatch h)))
  have expired := next (next inside (.read rfl .step))
    (.learn (k := 1) rfl rfl (.expire (i := 0) rfl rfl) rfl)
  have settled := next (next expired (.hold (k := 1) rfl (.inl ⟨_, _, rfl⟩) rfl))
    (.conclude (k := 1) rfl rfl rfl)
  have entered := next (next settled (.leave (k := 1) rfl)) (.enter (k := 0) rfl rfl)
  have set := next (next entered (.hold (k := 0) rfl (.inr ⟨_, rfl, rfl⟩) rfl))
    (.set (k := 0) rfl rfl)
  exact ⟨c₀, _, _, h₀, set, serial h₀ set, rfl, by decide +kernel⟩

end BuildingEmulation.Crowd
