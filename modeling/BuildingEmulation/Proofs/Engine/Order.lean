import BuildingEmulation.Proofs.Engine.Crowd
import BuildingEmulation.Proofs.Engine.Invariant

/-!
# The order behind the gate

Whoever is behind the gate holds it, so there is one of them at most, and nothing that it has looked
at changes before it settles. So the calls settle in the order in which they passed the gate, and
each comes to what it would have come to by itself.

Results:
* `orderly_step`, `orderly_run`: every step of every run keeps that order.
* `Engine.Step.model_frame`: a model call leaves the committed state alone.
-/
namespace BuildingEmulation

variable {α σ : Type}

/-! ## Histories -/

def CrowdEvent.entrant? : CrowdEvent α → Option Nat
  | .enter k => some k
  | _ => none

def CrowdEvent.settlement? : CrowdEvent α → Option (Settlement α)
  | .settle x => some x
  | _ => none

/-- The callers in the order in which they passed the gate. -/
def entries (ts : List (Transition (Crowd α σ) (CrowdEvent α))) : List Nat :=
  ts.filterMap (·.label.entrant?)

/-- The calls in the order in which they settled. -/
def settlements (ts : List (Transition (Crowd α σ) (CrowdEvent α))) : List (Settlement α) :=
  ts.filterMap (·.label.settlement?)

section

variable (ts : List (Transition (Crowd α σ) (CrowdEvent α)))
  (t : Transition (Crowd α σ) (CrowdEvent α))

theorem entries_snoc : entries (ts ++ [t]) = entries ts ++ t.label.entrant?.toList := by
  rw [entries, List.filterMap_append]
  cases h : t.label.entrant? <;> simp [entries, h]

theorem settlements_snoc :
    settlements (ts ++ [t]) = settlements ts ++ t.label.settlement?.toList := by
  rw [settlements, List.filterMap_append]
  cases h : t.label.settlement? <;> simp [settlements, h]

variable {ts t}

theorem entries_quiet (h : t.label.entrant? = none) : entries (ts ++ [t]) = entries ts := by
  rw [entries_snoc, h, Option.toList_none, List.append_nil]

theorem settlements_quiet (h : t.label.settlement? = none) :
    settlements (ts ++ [t]) = settlements ts := by
  rw [settlements_snoc, h, Option.toList_none, List.append_nil]

end

/-- The caller has learned something, or has just entered. -/
def Station.mayWrite : Station α → Bool
  | .learned _ _ | .entered => true
  | _ => false

/-- The caller knows its answer, and has not left the gate. -/
def Station.isSettled : Station α → Bool
  | .settled _ => true
  | _ => false

/-- Only who has learned something, or has entered with a new step, has something to write. -/
theorem Caller.not_writes {caller : Caller α} (h : caller.station.mayWrite = false) :
    ¬ caller.Writes := by
  rintro (⟨i, told, hs⟩ | ⟨step, -, hs⟩)
  · rw [hs] at h; cases h
  · rw [hs] at h; cases h

variable [Scalar α]

/-! ## Model calls leave the committed state alone -/

theorem Engine.Step.model_frame {e e' : Engine α σ} {m : Move α} (h : e.Step m e')
    (hm : m.ofTask = true ∨ m.ofCaller = true) :
    e'.standing = e.standing ∧ e'.model = e.model ∧
      ∀ (i : Nat) (t : Task α σ), e.tasks[i]? = some t →
        ∃ t', e'.tasks[i]? = some t' ∧ t'.job = t.job := by
  have jobs {i : Nat} {t t' : Task α σ} (task : e.tasks[i]? = some t) (hj : t'.job = t.job) :
      ∀ (j : Nat) (u : Task α σ), e.tasks[j]? = some u →
        ∃ u', (e.tasks.set i t')[j]? = some u' ∧ u'.job = u.job := by
    intro j u hu
    rw [getElem?_set_of task]
    split
    · next hji =>
      rw [hji, task] at hu
      cases hu
      exact ⟨t', rfl, hj⟩
    · exact ⟨u, hu, rfl⟩
  cases h with
  | lock task | run task | skip task | work task | hear _ task | expire _ task =>
    exact ⟨rfl, rfl, jobs task rfl⟩
  | _ => rcases hm with hm | hm <;> cases hm

namespace Crowd

variable {ts : List (Transition (Crowd α σ) (CrowdEvent α))} {c c' : Crowd α σ} {k : Nat}
  {caller : Caller α}

omit [Scalar α] in
theorem standing_unlocked (h : c.writer = none) : c.standing = c.engine.standing := by
  unfold standing
  rw [h]

omit [Scalar α] in
theorem standing_locked {s : Standing α} (h : c.writer = some (k, s)) : c.standing = s := by
  unfold standing
  rw [h]

omit [Scalar α] in
theorem standing_eq (unlocked : c.writer = none) (unlocked' : c'.writer = none)
    (h : c'.engine.standing = c.engine.standing) : c'.standing = c.standing := by
  rw [standing_unlocked unlocked, standing_unlocked unlocked', h]

/-! ## What holds of a caller -/

/-- The job was sent off in the state that still stands. -/
def Sent (ts : List (Transition (Crowd α σ) (CrowdEvent α))) (c : Crowd α σ) (k : Nat)
    (request : Request α) (job : Job α) : Prop :=
  request.intent c.registry c.standing.committed = .send job ∧
    ∃ t ∈ ts, t.label = .send k job ∧ t.source.engine.committed = c.standing.committed

/-- The call has settled with the reply. -/
def Answered (ts : List (Transition (Crowd α σ) (CrowdEvent α))) (k : Nat) (request : Request α)
    (reply : Reply α) : Prop :=
  ∃ x ∈ settlements ts, x.caller = k ∧ x.request = request ∧ x.reply = reply

/-- A job that has just been sent off. -/
theorem Sent.fresh {request : Request α} {job : Job α}
    (intent : request.intent c.registry c.engine.committed = .send job)
    {t : Transition (Crowd α σ) (CrowdEvent α)} (label : t.label = .send k job)
    (source : t.source = c) (writer : c'.writer = none)
    (standing : c'.engine.standing = c.engine.standing) (registry : c'.registry = c.registry) :
    Sent (ts ++ [t]) c' k request job := by
  rw [Sent, standing_unlocked writer, standing, registry]
  exact ⟨intent, t, List.mem_append_right _ (List.mem_singleton_self _), label, by rw [source]; rfl⟩

theorem Sent.snoc {request : Request α} {job : Job α} (h : Sent ts c k request job)
    (t : Transition (Crowd α σ) (CrowdEvent α)) (standing : c'.standing = c.standing)
    (registry : c'.registry = c.registry) : Sent (ts ++ [t]) c' k request job := by
  obtain ⟨hi, u, hu, hl, hs⟩ := h
  rw [Sent, registry, standing]
  exact ⟨hi, u, List.mem_append_left _ hu, hl, hs⟩

/-- What is told of a job makes a whole call of it. -/
theorem Sent.call {request : Request α} {job : Job α} (h : Sent ts c k request job)
    (told : Told α) :
    c.standing.call c.registry request (some told) = some (c.standing.conclude job told) :=
  Standing.call_send h.1 told

/-- What holds of a caller by where it stands. -/
def Fits (ts : List (Transition (Crowd α σ) (CrowdEvent α))) (c : Crowd α σ) (k : Nat)
    (caller : Caller α) : Prop :=
  match caller.station with
  | .outside => k ∉ entries ts
  | .entered => c.gate = some k
  | .awaiting i | .learned i _ =>
    c.gate = some k ∧ ∃ t, c.engine.tasks[i]? = some t ∧ Sent ts c k caller.request t.job
  | .settled reply => c.gate = some k ∧ Answered ts k caller.request reply
  | .gone reply => Answered ts k caller.request reply

/-- Whoever is behind the gate holds it. -/
theorem Fits.gate (h : Fits ts c k caller) (hi : caller.station.inside = true) :
    c.gate = some k := by
  obtain ⟨request, station⟩ := caller
  cases station with
  | outside | gone => cases hi
  | entered => exact h
  | awaiting | learned | settled => exact h.1

omit [Scalar α] in
theorem Answered.snoc {request : Request α} {reply : Reply α} (h : Answered ts k request reply)
    (t : Transition (Crowd α σ) (CrowdEvent α)) : Answered (ts ++ [t]) k request reply := by
  obtain ⟨x, hx, hs⟩ := h
  rw [Answered, settlements_snoc]
  exact ⟨x, List.mem_append_left _ hx, hs⟩

/-- A caller in front of the gate, or gone, does not care for what the others do. -/
theorem Fits.away (h : Fits ts c k caller) (out : caller.station.inside = false)
    {t : Transition (Crowd α σ) (CrowdEvent α)} (entrant : t.label.entrant? ≠ some k) :
    Fits (ts ++ [t]) c' k caller := by
  obtain ⟨request, station⟩ := caller
  cases station with
  | outside =>
    change k ∉ entries (ts ++ [t])
    rw [entries_snoc, List.mem_append, Option.mem_toList]
    rintro (hk | hk)
    · exact h hk
    · exact entrant hk
  | gone reply => exact Answered.snoc h t
  | _ => cases out

/-- A caller behind the gate stays where it is as long as what stands, and its task, do. -/
theorem Fits.stay (h : Fits ts c k caller) {t : Transition (Crowd α σ) (CrowdEvent α)}
    (entrant : t.label.entrant? ≠ some k) (gate : c'.gate = c.gate)
    (standing : c'.standing = c.standing) (registry : c'.registry = c.registry)
    (jobs : ∀ (i : Nat) (t : Task α σ), c.engine.tasks[i]? = some t →
      ∃ t', c'.engine.tasks[i]? = some t' ∧ t'.job = t.job) :
    Fits (ts ++ [t]) c' k caller := by
  obtain ⟨request, station⟩ := caller
  cases station with
  | outside | gone => exact h.away rfl entrant
  | entered => exact gate.trans h
  | settled reply => exact ⟨gate.trans h.1, h.2.snoc t⟩
  | awaiting i | learned i =>
    obtain ⟨hg, u, hu, sent⟩ := h
    obtain ⟨u', hu', hj⟩ := jobs i u hu
    exact ⟨gate.trans hg, u', hu', hj ▸ sent.snoc t standing registry⟩

/-! ## The order -/

/-- The caller that is behind the gate without an answer. -/
def pending (c : Crowd α σ) : List Nat :=
  match c.gate with
  | none => []
  | some k =>
    match c.callers[k]? with
    | some ⟨_, .settled _⟩ => []
    | _ => [k]

/-- The calls have settled in the order in which they passed the gate, and came to what they come
to one after the other. -/
structure Orderly (start : Standing α) (ts : List (Transition (Crowd α σ) (CrowdEvent α)))
    (c : Crowd α σ) : Prop where
  fits : ∀ (k : Nat) (caller : Caller α), c.callers[k]? = some caller → Fits ts c k caller
  held : ∀ k, c.gate = some k → ∃ caller, c.callers[k]? = some caller ∧ caller.station.inside = true
  writer : ∀ k s, c.writer = some (k, s) → ∃ caller, c.callers[k]? = some caller ∧ caller.Writes
  known : ∀ k ∈ entries ts, k < c.callers.length
  order : entries ts = (settlements ts).map (·.caller) ++ c.pending
  once : (entries ts).Nodup
  served : Served c.registry start (settlements ts) c.standing

omit [Scalar α] in
theorem pending_free (h : c.gate = none) : c.pending = [] := by
  simp only [pending, h]

omit [Scalar α] in
theorem pending_unsettled (gate : c.gate = some k) (hk : c.callers[k]? = some caller)
    (h : caller.station.isSettled = false) : c.pending = [k] := by
  obtain ⟨request, station⟩ := caller
  simp only [pending, gate, hk]
  cases station with
  | settled reply => cases h
  | _ => rfl

omit [Scalar α] in
theorem pending_settled {request : Request α} {reply : Reply α} (gate : c.gate = some k)
    (hk : c.callers[k]? = some ⟨request, .settled reply⟩) : c.pending = [] := by
  simp only [pending, gate, hk]

variable {start : Standing α} {t : Transition (Crowd α σ) (CrowdEvent α)}

/-- Who has locked the committed state is behind the gate. -/
theorem Orderly.writer_gate (h : Orderly start ts c) {s : Standing α}
    (hw : c.writer = some (k, s)) :
    c.gate = some k ∧ ∃ caller, c.callers[k]? = some caller ∧ caller.Writes := by
  obtain ⟨caller, hk, hc⟩ := h.writer k s hw
  refine ⟨(h.fits k caller hk).gate ?_, caller, hk, hc⟩
  rcases hc with ⟨i, told, hs⟩ | ⟨step, -, hs⟩ <;> rw [hs] <;> rfl

/-- If the one caller that may be behind the gate has nothing to write, nobody has. -/
theorem Orderly.unlocked (h : Orderly start ts c) (hk : c.callers[k]? = some caller)
    (gate : c.gate = none ∨ c.gate = some k) (hn : ¬ caller.Writes) : c.writer = none := by
  cases hw : c.writer with
  | none => rfl
  | some w =>
    obtain ⟨j, s⟩ := w
    obtain ⟨hj, u, hu, hs⟩ := h.writer_gate hw
    rcases gate with gate | gate <;> rw [gate] at hj <;> cases hj
    rw [hk] at hu
    cases hu
    exact absurd hs hn

/-- Nothing happens at the gate. -/
theorem Orderly.stay (h : Orderly start ts c) (entrant : t.label.entrant? = none)
    (settlement : t.label.settlement? = none) (callers : c'.callers = c.callers)
    (gate : c'.gate = c.gate) (standing : c'.standing = c.standing)
    (registry : c'.registry = c.registry)
    (jobs : ∀ (i : Nat) (t : Task α σ), c.engine.tasks[i]? = some t →
      ∃ t', c'.engine.tasks[i]? = some t' ∧ t'.job = t.job)
    (writer : ∀ k s, c'.writer = some (k, s) →
      ∃ caller, c.callers[k]? = some caller ∧ caller.Writes) :
    Orderly start (ts ++ [t]) c' := by
  have hpending : c'.pending = c.pending := by
    simp only [pending, gate, callers]
  refine ⟨?_, ?_, ?_, ?_, ?_, ?_, ?_⟩
  · intro k caller hk
    rw [callers] at hk
    exact (h.fits k caller hk).stay (by rw [entrant]; exact nofun) gate standing registry jobs
  · rw [gate, callers]; exact h.held
  · rw [callers]; exact writer
  · rw [entries_quiet entrant, callers]; exact h.known
  · rw [entries_quiet entrant, settlements_quiet settlement, hpending]; exact h.order
  · rw [entries_quiet entrant]; exact h.once
  · rw [settlements_quiet settlement, standing, registry]; exact h.served

/-- One caller moves on, and nobody else is behind the gate. -/
theorem Orderly.act (h : Orderly start ts c) (hk : c.callers[k]? = some caller)
    (gate : c.gate = none ∨ c.gate = some k) {caller' : Caller α}
    (callers : c'.callers = c.callers.set k caller')
    (entrant : ∀ j, t.label.entrant? = some j → j = k)
    (fits : Fits (ts ++ [t]) c' k caller')
    (held : ∀ j, c'.gate = some j → j = k ∧ caller'.station.inside = true)
    (writer : c'.writer = none)
    (order : entries (ts ++ [t]) = (settlements (ts ++ [t])).map (·.caller) ++ c'.pending)
    (once : (entries (ts ++ [t])).Nodup)
    (served : Served c'.registry start (settlements (ts ++ [t])) c'.engine.standing) :
    Orderly start (ts ++ [t]) c' := by
  have self : c'.callers[k]? = some caller' := by rw [callers]; exact Engine.set_self hk caller'
  refine ⟨?_, ?_, ?_, ?_, order, once, ?_⟩
  · intro j u hu
    rw [callers, Engine.getElem?_set_of hk] at hu
    split at hu
    · next hj => cases hu; rw [hj]; exact fits
    · next hj =>
      -- a second caller behind the gate would hold it, and only `k` can
      have hf := h.fits j u hu
      refine hf.away ?_ fun he => hj (entrant j he)
      by_contra hi
      have hg := hf.gate ((Bool.not_eq_false _).mp hi)
      rcases gate with gate | gate <;> rw [gate] at hg <;> cases hg
      exact hj rfl
  · intro j hj
    obtain ⟨rfl, hi⟩ := held j hj
    exact ⟨caller', self, hi⟩
  · intro j s hw
    rw [writer] at hw; cases hw
  · intro j hj
    rw [callers, List.length_set]
    rw [entries_snoc, List.mem_append, Option.mem_toList] at hj
    rcases hj with hj | hj
    · exact h.known j hj
    · rw [entrant j hj]
      exact (List.getElem?_eq_some_iff.1 hk).1
  · rw [standing_unlocked writer]; exact served

/-! ## Steps -/

/-- A caller moves on behind the gate without an answer; what stands is what stood before. -/
theorem Orderly.proceed (h : Orderly start ts c) (hk : c.callers[k]? = some caller)
    (gate : c.gate = some k) (unsettled : caller.station.isSettled = false)
    {caller' : Caller α} (callers : c'.callers = c.callers.set k caller')
    (unsettled' : caller'.station.isSettled = false)
    (entrant : t.label.entrant? = none) (settlement : t.label.settlement? = none)
    (fits : Fits (ts ++ [t]) c' k caller') (inside : caller'.station.inside = true)
    (gate' : c'.gate = some k) (writer : c.writer = none) (writer' : c'.writer = none)
    (standing : c'.engine.standing = c.engine.standing) (registry : c'.registry = c.registry) :
    Orderly start (ts ++ [t]) c' := by
  have self : c'.callers[k]? = some caller' := by rw [callers]; exact Engine.set_self hk caller'
  refine h.act hk (.inr gate) callers (by rw [entrant]; exact nofun) fits ?_ writer' ?_ ?_ ?_
  · intro j hj
    rw [gate'] at hj; cases hj
    exact ⟨rfl, inside⟩
  · rw [entries_quiet entrant, settlements_quiet settlement, h.order,
      pending_unsettled gate' self unsettled', pending_unsettled gate hk unsettled]
  · rw [entries_quiet entrant]; exact h.once
  · rw [settlements_quiet settlement, standing, registry, ← standing_unlocked writer]; exact h.served

/-- A caller settles with what its call comes to by itself. -/
theorem Orderly.settle (h : Orderly start ts c) {request : Request α} {told : Option (Told α)}
    {reply : Reply α} {station : Station α} (hk : c.callers[k]? = some ⟨request, station⟩)
    (gate : c.gate = some k) (unsettled : station.isSettled = false)
    (callers : c'.callers = c.callers.set k ⟨request, .settled reply⟩)
    (label : t.label = .settle ⟨k, request, told, reply⟩) (gate' : c'.gate = some k)
    (writer : c'.writer = none) (registry : c'.registry = c.registry)
    (call : c.standing.call c.registry request told = some (c'.engine.standing, reply)) :
    Orderly start (ts ++ [t]) c' := by
  have hentries : entries (ts ++ [t]) = entries ts := entries_quiet (by rw [label]; rfl)
  have hsettlements : settlements (ts ++ [t]) = settlements ts ++ [⟨k, request, told, reply⟩] := by
    rw [settlements_snoc, label]; rfl
  have self : c'.callers[k]? = some ⟨request, .settled reply⟩ := by
    rw [callers]; exact Engine.set_self hk _
  have answered : Answered (ts ++ [t]) k request reply := by
    rw [Answered, hsettlements]
    exact ⟨_, List.mem_append_right _ (List.mem_singleton_self _), rfl, rfl, rfl⟩
  refine h.act hk (.inr gate) callers (by rw [label]; exact nofun) ⟨gate', answered⟩ ?_ writer
    ?_ ?_ ?_
  · intro j hj
    rw [gate'] at hj; cases hj
    exact ⟨rfl, rfl⟩
  · rw [hentries, hsettlements, pending_settled gate' self, h.order,
      pending_unsettled gate hk unsettled, List.map_append, List.append_nil]
    rfl
  · rw [hentries]; exact h.once
  · rw [hsettlements, registry]
    exact h.served.snoc call

/-- Another call is made, and waits in front of the gate. -/
theorem Orderly.issue (h : Orderly start ts c) (request : Request α)
    (callers : c'.callers = c.callers ++ [⟨request, .outside⟩]) (engine : c'.engine = c.engine)
    (gate : c'.gate = c.gate) (writer : c'.writer = c.writer)
    (label : t.label = .issue request) : Orderly start (ts ++ [t]) c' := by
  have hentries : entries (ts ++ [t]) = entries ts := entries_quiet (by rw [label]; rfl)
  have hsettlements : settlements (ts ++ [t]) = settlements ts :=
    settlements_quiet (by rw [label]; rfl)
  have hstanding : c'.standing = c.standing := by
    unfold standing
    rw [writer, engine]
  have keeps {k : Nat} {u : Caller α} (hk : c.callers[k]? = some u) :
      c'.callers[k]? = some u := by
    obtain ⟨hl, -⟩ := List.getElem?_eq_some_iff.1 hk
    rw [callers, List.getElem?_append_left hl, hk]
  have hpending : c'.pending = c.pending := by
    cases hg : c.gate with
    | none => rw [pending_free hg, pending_free (gate.trans hg)]
    | some k =>
      obtain ⟨u, hu, -⟩ := h.held k hg
      simp only [pending, gate, hg, hu, keeps hu]
  refine ⟨?_, ?_, ?_, ?_, ?_, ?_, ?_⟩
  · intro k u hk
    rw [callers] at hk
    rcases Engine.of_getElem?_snoc hk with hk | ⟨rfl, rfl⟩
    · exact (h.fits k u hk).stay (by rw [label]; exact nofun) gate hstanding
        (by rw [registry, engine]; rfl) (by rw [engine]; exact fun i t ht => ⟨t, ht, rfl⟩)
    · change c.callers.length ∉ entries (ts ++ [t])
      rw [hentries]
      exact fun hm => Nat.lt_irrefl _ (h.known _ hm)
  · intro k hk
    obtain ⟨u, hu, hi⟩ := h.held k (gate ▸ hk)
    exact ⟨u, keeps hu, hi⟩
  · intro k s hw
    obtain ⟨u, hu, hs⟩ := h.writer k s (writer ▸ hw)
    exact ⟨u, keeps hu, hs⟩
  · intro k hk
    rw [hentries] at hk
    rw [callers, List.length_append, List.length_singleton]
    exact Nat.lt_succ_of_lt (h.known k hk)
  · rw [hentries, hsettlements, hpending]; exact h.order
  · rw [hentries]; exact h.once
  · rw [hsettlements, hstanding, registry, engine]; exact h.served

theorem Orderly.enter (h : Orderly start ts c) {request : Request α}
    (hk : c.callers[k]? = some ⟨request, .outside⟩) (gate : c.gate = none)
    (label : t.label = .enter k) :
    Orderly start (ts ++ [t]) ({ c with gate := some k }.setCaller k ⟨request, .entered⟩) := by
  have hentries : entries (ts ++ [t]) = entries ts ++ [k] := by rw [entries_snoc, label]; rfl
  have hsettlements : settlements (ts ++ [t]) = settlements ts :=
    settlements_quiet (by rw [label]; rfl)
  have unlocked : c.writer = none := h.unlocked hk (.inl gate) (Caller.not_writes rfl)
  have new : k ∉ entries ts := h.fits k _ hk
  refine h.act hk (.inl gate) rfl ?_ rfl ?_ unlocked ?_ ?_ ?_
  · intro j hj
    rw [label] at hj; cases hj
    rfl
  · intro j hj
    cases hj
    exact ⟨rfl, rfl⟩
  · rw [hentries, hsettlements, h.order, pending_free gate, List.append_nil]
    exact congrArg _ (pending_unsettled rfl (Engine.set_self hk _) rfl).symm
  · rw [hentries]
    exact List.nodup_append.2 ⟨h.once, List.pairwise_singleton _ k, by
      intro j hj j' hj'
      rw [List.mem_singleton.1 hj']
      exact fun he => new (he ▸ hj)⟩
  · rw [hsettlements]
    exact standing_unlocked unlocked ▸ h.served

theorem Orderly.leave (h : Orderly start ts c) {request : Request α} {reply : Reply α}
    (hk : c.callers[k]? = some ⟨request, .settled reply⟩) (label : t.label = .leave k) :
    Orderly start (ts ++ [t]) ({ c with gate := none }.setCaller k ⟨request, .gone reply⟩) := by
  have hentries : entries (ts ++ [t]) = entries ts := entries_quiet (by rw [label]; rfl)
  have hsettlements : settlements (ts ++ [t]) = settlements ts :=
    settlements_quiet (by rw [label]; rfl)
  obtain ⟨gate, answered⟩ := h.fits k _ hk
  have unlocked : c.writer = none := h.unlocked hk (.inr gate) (Caller.not_writes rfl)
  refine h.act hk (.inr gate) rfl (by rw [label]; exact nofun) (answered.snoc t) nofun unlocked
    ?_ ?_ ?_
  · rw [hentries, hsettlements, h.order, pending_settled gate hk, pending_free rfl]
  · rw [hentries]; exact h.once
  · rw [hsettlements]
    exact standing_unlocked unlocked ▸ h.served

theorem orderly_step (h : Orderly start ts c) {e : CrowdEvent α} (hs : Step c e c') :
    Orderly start (ts ++ [⟨c, e, c'⟩]) c' := by
  cases hs with
  | issue request => exact h.issue request rfl rfl rfl rfl rfl
  | enter hk gate => exact h.enter hk gate rfl
  | @send k request job hk unlocked intent =>
    have gate := (h.fits _ _ hk).gate rfl
    exact h.proceed hk gate rfl rfl rfl rfl rfl ⟨gate, .fresh job,
      List.getElem?_concat_length, .fresh intent rfl rfl unlocked rfl rfl⟩ rfl gate unlocked
      unlocked rfl rfl
  | task task step =>
    obtain ⟨hs, hm, jobs⟩ := step.model_frame (.inl task)
    refine h.stay rfl rfl rfl rfl ?_ (congrArg Model.registry hm) jobs h.writer
    unfold standing
    rw [hs]
  | @learn k request i move e told hk learns step turn =>
    obtain ⟨gate, t, ht, sent⟩ := h.fits _ _ hk
    -- the task moves while the caller learns of it, and keeps the job that was sent
    obtain ⟨hs, hm, jobs⟩ := step.model_frame (.inr learns)
    obtain ⟨t', ht', hj⟩ := jobs i t ht
    have unlocked : c.writer = none := h.unlocked hk (.inr gate) (Caller.not_writes rfl)
    have hr := congrArg Model.registry hm
    refine h.proceed hk gate rfl rfl rfl rfl rfl ⟨gate, t', ht', ?_⟩ rfl gate unlocked
      unlocked hs hr
    rw [hj]
    exact sent.snoc _ (standing_eq unlocked unlocked hs) hr
  | hold hk writes unlocked =>
    refine h.stay rfl rfl rfl rfl (standing_unlocked unlocked).symm rfl
      (fun i t ht => ⟨t, ht, rfl⟩) ?_
    intro j s hw
    cases hw
    exact ⟨_, hk, writes⟩
  | @write w writer s =>
    -- what stands is what the writer found, so what it leaves there meanwhile does not matter
    refine h.stay rfl rfl rfl rfl ?_ rfl (fun i t ht => ⟨t, ht, rfl⟩) h.writer
    unfold standing
    rw [writer]
  | refuse hk unlocked intent =>
    have gate := (h.fits _ _ hk).gate rfl
    refine h.settle hk gate rfl rfl rfl gate unlocked rfl ?_
    rw [standing_unlocked unlocked]
    exact Standing.call_refuse intent
  | @pass k request i t plan latency failure hk unlocked task advance outside =>
    obtain ⟨gate, u, hu, sent⟩ := h.fits _ _ hk
    rw [task] at hu
    cases hu
    refine h.settle hk gate rfl rfl rfl gate unlocked rfl ?_
    rw [sent.call, advance, standing_unlocked unlocked]
    simp only [Standing.conclude, Committed.settleAdvance, outside]
    rfl
  | @conclude k request i t told s hk writer task =>
    obtain ⟨gate, u, hu, sent⟩ := h.fits _ _ hk
    rw [task] at hu
    cases hu
    refine h.settle hk gate rfl rfl rfl gate rfl rfl ?_
    rw [sent.call, standing_locked writer]
    rfl
  | @set k step s hk writer =>
    have gate := (h.fits _ _ hk).gate rfl
    refine h.settle hk gate rfl rfl rfl gate rfl rfl ?_
    rw [standing_locked writer]
    exact s.call_set step
  | leave hk => exact h.leave hk rfl
  | read unlocked q =>
    exact h.stay rfl rfl rfl rfl rfl rfl (fun i t ht => ⟨t, ht, rfl⟩) h.writer

variable {scenario : Scenario α} {specs : List (KpiSpec α)} {unit : EmulationUnit α σ}
  {c₀ : Crowd α σ}

theorem orderly_init (h₀ : (lts scenario specs unit).init c₀) : Orderly c₀.standing [] c₀ := by
  obtain ⟨s, -, rfl⟩ := h₀
  refine ⟨fun k caller hk => ?_, nofun, nofun, nofun, rfl, List.nodup_nil, .nil⟩
  cases hk

/-- Along every run the calls come in order. -/
theorem orderly_run (h₀ : (lts scenario specs unit).init c₀)
    (hr : (lts scenario specs unit).Run c₀ ts c) : Orderly c₀.standing ts c :=
  hr.invariant (orderly_init h₀) fun _ _ _ _ h hs => orderly_step h hs

end Crowd

end BuildingEmulation
