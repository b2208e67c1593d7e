import RefundOps.Resolution.Properties.FailedOpinion
import RefundOps.Resolution.Properties.Sequential

/-!
# What an escalation says it is for

The reason `peer_failure` belongs to the row of the decision engine for failed findings, and no
finding ever says it failed; the only one to give this reason is the intake loop, when a
delegation could not be sent. A failed or rejected task result is handled as a missing opinion:
the decision goes to a human at once, for a reason that is not about the peer. A completed task
result is not looked into at all, whatever its data: it is left to the domain handler.

`analysis_timeout` means what it says: it is only ever given to a record past its deadline with
one of its two tasks pending.
-/

set_option autoImplicit false

namespace RefundOps.Resolution

/-! ## Timeouts -/

/-- Only the first row gives `analysis_timeout`. -/
theorem decide_analysis_timeout {triage : Triage} {billing : Option BillingFinding}
    {risk : Option RiskFinding} {ts : TimeoutStatus} {caseId : Option UUID}
    {ticketId customerId : String}
    (h : (decide triage billing risk (some ts) caseId ticketId customerId).escalationReason =
      some "analysis_timeout") : ts.anyMissing = true ∧ ts.deadlineExceeded = true := by
  unfold decide at h
  dsimp only at h
  split at h
  · exact absurd h (by simp)
  split at h
  · rename_i hmissing
    refine ⟨hmissing, ?_⟩
    split at h
    · rename_i hlate
      exact hlate
    · exact absurd h (by simp [escalation])
  split at h
  · repeat' split at h
    all_goals exact absurd h (by simp [escalation])
  · exact absurd h (by simp [escalation])

theorem taskPending_iff {pending : Finset UUID} {task : Option UUID} :
    taskPending pending task = true ↔ ∃ t, task = some t ∧ t ∈ pending := by
  cases task with
  | none => simp [taskPending]
  | some t => simp [taskPending]

/-- The record was past its deadline with a task pending. -/
def TimedOut (c : ResolutionCase) (now : Time) : Prop :=
  (∃ deadline, c.deadlineAt = some deadline ∧ deadline < now) ∧
    ∃ t ∈ c.pendingTasks, c.billingTaskId = some t ∨ c.riskTaskId = some t

theorem timedOut_of_status {c : ResolutionCase} {now : Time}
    (hmissing : (buildTimeoutStatus c now).anyMissing = true)
    (hlate : (buildTimeoutStatus c now).deadlineExceeded = true) : TimedOut c now := by
  constructor
  · cases hd : c.deadlineAt with
    | none => simp [buildTimeoutStatus, hd] at hlate
    | some deadline => exact ⟨deadline, rfl, by simpa [buildTimeoutStatus, hd] using hlate⟩
  · by_cases hb : taskPending c.pendingTasks c.billingTaskId = true
    · obtain ⟨t, ht, hpend⟩ := taskPending_iff.mp hb
      exact ⟨t, hpend, .inl ht⟩
    · by_cases hr : taskPending c.pendingTasks c.riskTaskId = true
      · obtain ⟨t, ht, hpend⟩ := taskPending_iff.mp hr
        exact ⟨t, hpend, .inr ht⟩
      · simp [buildTimeoutStatus, hb, hr] at hmissing

/-- The loop `i` took the decision `d` on a record of the case `k` that had timed out. -/
def TakenLate (i : LoopId) (k : UUID) (d : CustomerResponseDecisionPayload) (tr : Trace) : Prop :=
  ∃ c now, (i, Obs.decisionTaken c now d) ∈ tr ∧ c.caseId = k ∧ TimedOut c now

/-- Every decision that is being emitted with this reason was taken late. -/
def TimeoutsLate (tr : Trace) (_ : View) (ph : LoopId → Phase) : Prop :=
  ∀ i k d m, ph i = .emitting k d m → d.escalationReason = some "analysis_timeout" →
    TakenLate i k d tr

theorem timeoutsLate_inductive (S : Settings) : Inductive S EventLoop.anyStep TimeoutsLate := by
  intro tr V ph i os p' V' waiting h hok ha hw hg
  refine emitting_act
    (Q := fun i k d tr => d.escalationReason = some "analysis_timeout" → TakenLate i k d tr)
    ?_ h ha ?_
  · intro i k d tr os hq hreason
    obtain ⟨c, now, hmem, hc⟩ := hq hreason
    exact ⟨c, now, List.mem_append_left _ hmem, hc⟩
  · intro k d m hopen hreason
    cases hopen with
    | direct hc hs hd hr =>
      rw [hr] at hreason
      exact absurd hreason (by simp)
    | fallback hc hd hr =>
      rw [hr] at hreason
      exact absurd hreason (by simp)
    | highRisk => exact absurd hreason (by simp [highRiskDecision, escalation])
    | @claimed _ c snapshot now hc hb hu hs =>
      obtain ⟨hmissing, hlate⟩ := decide_analysis_timeout hreason
      refine ⟨snapshot, now, by simp, ?_, timedOut_of_status hmissing hlate⟩
      exact (congrArg ResolutionCase.caseId hs).trans (hok.case k c hc).caseId

/-! ## Task results -/

/-- A failed task of an undecided case that was pending: its finding is missing for good. -/
theorem onFailure_escalates {S : Settings} {x : ResolutionCase} {t : UUID}
    (hd : Delegated S x) (hu : undecided x.status = true) (hpend : t ∈ x.pendingTasks)
    (now : Time) : ∃ d, (onFailure x t now).1 = [d] ∧ d.outcome = .escalateHuman := by
  have hready := slotFailedCase_ready x t (x.billingTaskId == some t)
  have hu' : undecided (slotFailedCase x t (x.billingTaskId == some t)).status = true :=
    undecided_slotFailedCase hu
  unfold onFailure settleCase
  rw [if_pos ⟨hready, hu'⟩]
  refine ⟨_, rfl, ?_⟩
  obtain ⟨triage, htriage, hn⟩ := hd.triage
  refine decisionOn_missing htriage hn ?_
  rcases Finset.mem_insert.mp (hd.pendingTasks hpend) with rfl | hmem
  · exact .inr (hd.riskOpen hu hpend)
  · obtain rfl := Finset.mem_singleton.mp hmem
    exact .inl (hd.billingOpen hpend)

/-- **What a task result leads to, and what a timeout means.** A failed or rejected result for a
    pending task of an undecided case, handled alone, has exactly one decision published for the
    case, an escalation; a completed one has nothing published and leaves the store alone. And
    in every run `analysis_timeout` is published only for a case decided after its deadline with
    a task pending. -/
theorem task_result_outcomes {S : Settings} {now : Time} {nextId : UUID} {tr : Trace} {s : State}
    (hrun : (service S).Run EventLoop.anyStep (start now nextId) tr s) :
    (∀ (answer : ∀ x, Reply x) (e : Inbound TaskResult) (result : TaskResult)
      (c : ResolutionCase), Granted answer → e.payload = some result →
      s.world.store.getByTaskId result.taskId = some c → undecided c.status = true →
      result.taskId ∈ c.pendingTasks →
      let out := (resultHandler S e).runSync answer s.world
      (result.status ≠ .completed →
        ∃ d, shown c.caseId out.1 = [d] ∧ d.outcome = .escalateHuman) ∧
      (result.status = .completed → out.1 = [] ∧ out.2.1.store = s.world.store)) ∧
    ∀ before after i ev d, tr = before ++ (i, Obs.published ev) :: after →
      ev.payload = .resolutionDecided d → d.escalationReason = some "analysis_timeout" →
      TakenLate i ev.correlationId d before := by
  have hok := run_viewOk hrun
  refine ⟨?_, ?_⟩
  · intro answer e result c hg he hc hu hpend
    obtain ⟨hs, hindex, hids⟩ := stored_of_getByTaskId hok hc
    refine ⟨?_, ?_⟩
    · intro hfailed
      obtain ⟨a, os, w', hout, hdone⟩ :=
        returns_resultHandler_failed (S := S) hg hs hindex hu he hfailed
      have hd : Delegated S c.core := (hok.case _ _ hs.case).delegated_of_task
        (hids.imp Option.isSome_of_mem Option.isSome_of_mem)
      obtain ⟨d, hone, hesc⟩ := onFailure_escalates hd hu hpend s.world.now
      rw [hout]
      exact ⟨d, hdone.decisions.trans hone, hesc⟩
    · intro hcompleted
      obtain ⟨a, os, w', hout, hnil, hstore⟩ : Coro.Returns answer (resultHandler S e) s.world _ :=
        returns_resultHandler_completed hc hids he hcompleted
      rw [hout]
      exact ⟨hnil, hstore⟩
  · intro before after i ev d htr hd hreason
    have hwarranted := warranted_run
      (Q := fun i k d tr => d.escalationReason = some "analysis_timeout" → TakenLate i k d tr)
      (timeoutsLate_inductive S) (fun _ _ _ _ h => absurd h (by simp))
      (fun _ _ _ i k d m h hph => h i k d m hph) hrun
    exact hwarranted before (i, .published ev) after htr ev d rfl hd hreason

theorem grant_granted : Granted grant := fun _ => rfl

/-- The reaper finds the case after its deadline, with both tasks pending, and publishes. -/
def timeoutSchedule : Schedule :=
  delegationSchedule ++ [.env 16000000, .deliver .sweep, .answer .reaper grant]

def timesOut : LoopId × Obs → Bool
  | (_, .published ev) =>
      match ev.payload with
      | .resolutionDecided d => d.escalationReason == some "analysis_timeout"
      | _ => false
  | _ => false

theorem exists_of_timesOut {o : LoopId × Obs} (h : timesOut o = true) :
    ∃ i ev d, o = (i, .published ev) ∧ ev.payload = .resolutionDecided d ∧
      d.escalationReason = some "analysis_timeout" := by
  obtain ⟨i, ev, d, rfl, hd, hf⟩ :=
    exists_of_showsDecision (f := fun d => d.escalationReason == some "analysis_timeout") h
  exact ⟨i, ev, d, rfl, hd, beq_iff_eq.mp hf⟩

/-- The reasons of the escalations among the decisions for a case. -/
def reasonsFor (k : UUID) (os : List Obs) : List (Option String) :=
  ((shown k os).filter fun d => d.outcome == .escalateHuman).map (·.escalationReason)

theorem not_peer_failure {k : UUID} {os : List Obs}
    (h : some "peer_failure" ∉ reasonsFor k os) :
    ¬ ∃ d ∈ shown k os, d.outcome = .escalateHuman ∧
      d.escalationReason = some "peer_failure" := by
  rintro ⟨d, hd, hout, hreason⟩
  exact h (List.mem_map.mpr ⟨d, List.mem_filter.mpr ⟨hd, beq_iff_eq.mpr hout⟩, hreason⟩)

/-- The reasons given when `result` is handled alone. -/
def reasonsOn (s : State) (result : TaskResult) : List (Option String) :=
  reasonsFor 1 ((resultHandler sampleSettings (resultEnvelope result)).runSync grant s.world).1

/-- The case `1` after its ticket: it waits for both peers, before its deadline, and no handler
    is running. -/
structure AwaitsPeers (s : State) (c : ResolutionCase) : Prop where
  quiescent : s.Quiescent
  stored : s.world.store.get 1 = some c
  indexed : s.world.store.getByTaskId billingTask = some c
  caseId : c.caseId = 1
  undecided : undecided c.status = true
  triage : c.triage.isSome
  billingTaskId : c.billingTaskId = some billingTask
  billingPending : billingTaskOf sampleSettings 1 ∈ c.pendingTasks
  riskPending : riskTaskOf sampleSettings 1 ∈ c.pendingTasks
  deadline : ∃ deadline, c.deadlineAt = some deadline ∧ s.world.now ≤ deadline

/-- The delegated case, with whatever can be checked by running it on. -/
theorem exists_delegated (check : State → Bool)
    (h : ((service sampleSettings).exec delegationSchedule (start 0 1000)).map
      (fun out => check out.2) = some true) :
    ∃ tr s c, (service sampleSettings).Run EventLoop.anyStep (start 0 1000) tr s ∧
      AwaitsPeers s c ∧ check s = true := by
  have hexec : (((service sampleSettings).exec delegationSchedule (start 0 1000)).map fun out =>
      (out.2.world.store.get 1).map fun c =>
        (allIdle out.2 && out.2.world.store.byTaskId.get? billingTask == some 1 &&
            c.caseId == 1 && undecided c.status && c.triage.isSome &&
            c.billingTaskId == some billingTask &&
            (billingTaskOf sampleSettings 1 ∈ c.pendingTasks : Bool) &&
            (riskTaskOf sampleSettings 1 ∈ c.pendingTasks : Bool),
          c.deadlineAt.map fun deadline => (out.2.world.now ≤ deadline : Bool))) =
      some (some (true, some true)) := by decide +kernel
  obtain ⟨⟨tr, s⟩, hout, heq⟩ := Option.map_eq_some_iff.mp hexec
  obtain ⟨c, hc, heq⟩ := Option.map_eq_some_iff.mp heq
  simp only [Prod.mk.injEq, Bool.and_eq_true, beq_iff_eq, decide_eq_true_eq] at heq
  obtain ⟨⟨⟨⟨⟨⟨⟨⟨hidle, hindex⟩, hid⟩, hu⟩, ht⟩, hb⟩, hpb⟩, hpr⟩, hdeadline⟩ := heq
  obtain ⟨deadline, hsome, hle⟩ := Option.map_eq_some_iff.mp hdeadline
  have hindexed : s.world.store.getByTaskId billingTask = some c := by
    unfold InMemoryCaseStateStore.getByTaskId
    rw [hindex]
    exact hc
  rw [hout] at h
  exact ⟨tr, s, c, .of_exec hout fun _ _ _ => trivial,
    ⟨quiescent_of_allIdle hidle, hc, hindexed, hid, hu, ht, hb, hpb, hpr,
      ⟨deadline, hsome, of_decide_eq_true hle⟩⟩,
    Option.some.inj h⟩

theorem task_result_outcomes_samples :
    (∃ tr s c d, (service sampleSettings).Run EventLoop.anyStep (start 0 1000) tr s ∧
      s.world.store.getByTaskId billingTask = some c ∧
      shown c.caseId ((resultHandler sampleSettings
        (resultEnvelope (failedResult billingTask))).runSync grant s.world).1 = [d] ∧
      d.outcome = .escalateHuman) ∧
    ∃ tr s before i ev d, (service sampleSettings).Run EventLoop.anyStep (start 0 1000) tr s ∧
      tr = before ++ [(i, Obs.published ev)] ∧ ev.payload = .resolutionDecided d ∧
      d.escalationReason = some "analysis_timeout" ∧ TakenLate i ev.correlationId d before := by
  refine ⟨?_, ?_⟩
  · obtain ⟨tr, s, c, hrun, hc, -⟩ := exists_delegated (fun _ => true) (by decide +kernel)
    obtain ⟨d, hone, hesc⟩ := ((task_result_outcomes hrun).1 grant
      (resultEnvelope (failedResult billingTask)) (failedResult billingTask) c grant_granted rfl
      hc.indexed hc.undecided hc.billingPending).1 (by decide)
    exact ⟨tr, s, c, d, hrun, hc.indexed, hone, hesc⟩
  · have hexec : (((service sampleSettings).exec timeoutSchedule (start 0 1000)).map fun out =>
        (out.1.getLast?.map timesOut)) = some (some true) := by decide +kernel
    obtain ⟨⟨tr, s⟩, hout, heq⟩ := Option.map_eq_some_iff.mp hexec
    obtain ⟨o, hlast, ho⟩ := Option.map_eq_some_iff.mp heq
    obtain ⟨i, ev, d, rfl, hd, hreason⟩ := exists_of_timesOut ho
    obtain ⟨before, rfl⟩ := List.getLast?_eq_some_iff.mp hlast
    have hrun := EventLoop.Run.of_exec (G := EventLoop.anyStep) hout fun _ _ _ => trivial
    exact ⟨_, s, before, i, ev, d, hrun, rfl, hd, hreason,
      (task_result_outcomes hrun).2 before [] i ev d rfl hd hreason⟩

/-- Neither a failed task nor one with unreadable data is escalated for `peer_failure`. -/
theorem peer_failure_not_named :
    (¬ ∀ (S : Settings) (now : Time) (nextId : UUID) (tr : Trace) (s : State)
      (answer : ∀ x, Reply x) (e : Inbound TaskResult) (result : TaskResult) (c : ResolutionCase),
      (service S).Run EventLoop.anyStep (start now nextId) tr s → s.Quiescent →
      Granted answer → e.payload = some result →
      s.world.store.getByTaskId result.taskId = some c → undecided c.status = true →
      result.taskId ∈ c.pendingTasks →
      (∃ deadline, c.deadlineAt = some deadline ∧ s.world.now ≤ deadline) →
      result.status ≠ .completed →
      ∃ d ∈ shown c.caseId ((resultHandler S e).runSync answer s.world).1,
        d.outcome = .escalateHuman ∧ d.escalationReason = some "peer_failure") ∧
    ¬ ∀ (S : Settings) (now : Time) (nextId : UUID) (tr : Trace) (s : State)
      (answer : ∀ x, Reply x) (e : Inbound TaskResult) (result : TaskResult) (c : ResolutionCase),
      (service S).Run EventLoop.anyStep (start now nextId) tr s → s.Quiescent →
      Granted answer → e.payload = some result →
      s.world.store.getByTaskId result.taskId = some c → undecided c.status = true →
      result.taskId ∈ c.pendingTasks →
      (∃ deadline, c.deadlineAt = some deadline ∧ s.world.now ≤ deadline) →
      c.billingTaskId = some result.taskId →
      (normalizeBillingResult S result.taskId result.performerAgentId
        (resultData result.output)).isNone →
      ∃ d ∈ shown c.caseId ((resultHandler S e).runSync answer s.world).1,
        d.outcome = .escalateHuman ∧ d.escalationReason = some "peer_failure" := by
  obtain ⟨tr, s, c, hrun, hc, hcheck⟩ := exists_delegated
    (fun s => reasonsOn s (failedResult billingTask) == [some "missing_analysis"] &&
      reasonsOn s (emptyResult billingTask) == []) (by decide +kernel)
  simp only [Bool.and_eq_true, beq_iff_eq] at hcheck
  refine ⟨?_, ?_⟩
  · intro h
    have hnamed := h sampleSettings 0 1000 tr s grant (resultEnvelope (failedResult billingTask))
      (failedResult billingTask) c hrun hc.quiescent grant_granted rfl hc.indexed hc.undecided
      hc.billingPending hc.deadline (by decide)
    rw [hc.caseId] at hnamed
    refine not_peer_failure ?_ hnamed
    rw [show reasonsFor 1 _ = _ from hcheck.1]
    decide
  · intro h
    have hnamed := h sampleSettings 0 1000 tr s grant (resultEnvelope (emptyResult billingTask))
      (emptyResult billingTask) c hrun hc.quiescent grant_granted rfl hc.indexed hc.undecided
      hc.billingPending hc.deadline hc.billingTaskId (by decide)
    rw [hc.caseId] at hnamed
    refine not_peer_failure ?_ hnamed
    rw [show reasonsFor 1 _ = _ from hcheck.2]
    exact List.not_mem_nil

end RefundOps.Resolution
