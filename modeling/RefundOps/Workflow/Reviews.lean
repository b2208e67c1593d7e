import RefundOps.Lib.Lists
import RefundOps.Workflow.Approvals
import RefundOps.Workflow.Calls

/-!
# One review for a case

While the tracker of a peer has room for the cases it is asked about and no mark is lost, a case is
reviewed once by each peer, however often the agent asks, however often an entry of the endpoint topic
is handed over, however often the peer is started again, and whatever becomes of the answers. So a case
has at most one verdict of each peer on the topics, and the agent cannot get two that contradict each
other. A restart falls between two messages: the gap between publishing a verdict and marking its task,
in which a peer may be stopped, is left out.

`ReviewedOnce` is the bookkeeping for one peer: its handler was called at most once for a task, and what
came on its topic is of the calls. `handle` is the step, the same for both peers.
-/

set_option autoImplicit false

namespace RefundOps.Workflow

open Resolution (LoopId billingPeer riskPeer reviewRequest taskOf Peer)

/-! ## One peer -/

def billingCall : Event → Option TaskRequest
  | .billing _ o => Runtime.calledFor o
  | _ => none

def billingMark : Event → Option UUID
  | .billing _ o => Runtime.markedFor o
  | _ => none

def riskCall : Event → Option TaskRequest
  | .risk _ o => Runtime.calledFor o
  | _ => none

def riskMark : Event → Option UUID
  | .risk _ o => Runtime.markedFor o
  | _ => none

/-- A peer is called at most once for a task, and every verdict is of a call for its case. -/
structure ReviewedOnce {β : Type} (task : UUID → UUID) (F : Finset UUID)
    (call : Event → Option TaskRequest) (mark : Event → Option UUID) (tr : List Event)
    (w : Runtime.World) (results : List (Inbound β)) : Prop where
  calls : Runtime.AtMostOnce F w (tr.filterMap mark) (tr.filterMap call)
  results : ∀ k, results.countP (·.correlationId == k) ≤
    (tr.filterMap call).countP (·.taskId == task k)

section ReviewedOnce

variable {β : Type} {task : UUID → UUID} {F : Finset UUID} {call : Event → Option TaskRequest}
  {mark : Event → Option UUID} {tr os : List Event} {w w' : Runtime.World}
  {results : List (Inbound β)}

theorem ReviewedOnce.start (hF : F.card ≤ Runtime.trackerSize) :
    ReviewedOnce task F call mark [] (Runtime.start 0) ([] : List (Inbound β)) :=
  ⟨.start hF 0, by simp⟩

theorem ReviewedOnce.results_le_one (h : ReviewedOnce task F call mark tr w results) (k : UUID) :
    results.countP (·.correlationId == k) ≤ 1 := (h.results k).trans (h.calls.once _)

/-- What does not concern the peer. -/
theorem ReviewedOnce.idle (h : ReviewedOnce task F call mark tr w results)
    (hos : ∀ o ∈ os, call o = none ∧ mark o = none) :
    ReviewedOnce task F call mark (tr ++ os) w results := by
  have hcall : os.filterMap call = [] := List.filterMap_eq_nil_iff.mpr fun o ho => (hos o ho).1
  have hmark : os.filterMap mark = [] := List.filterMap_eq_nil_iff.mpr fun o ho => (hos o ho).2
  refine ⟨?_, fun k => ?_⟩
  · rw [List.filterMap_append, List.filterMap_append, hmark, hcall, List.append_nil, List.append_nil]
    exact h.calls
  · rw [List.filterMap_append, hcall, List.append_nil]
    exact h.results k

/-- A restart that finds the marks. -/
theorem ReviewedOnce.restart (h : ReviewedOnce task F call mark tr w results)
    (hw : Runtime.Rebuilt (tr.filterMap mark) w') :
    ReviewedOnce task F call mark (tr ++ []) w' results := by
  rw [List.append_nil]
  exact ⟨h.calls.restart hw, h.results⟩

/-- **A review that is handed over.** The peer gives at most one verdict for a call. -/
theorem ReviewedOnce.handle (h : ReviewedOnce task F call mark tr w results) (req : TaskRequest)
    (k : UUID) (hreq : req.taskId = task k) {new : List (Inbound β)}
    (hdelivered : Runtime.AtMostOnce F w' (tr.filterMap mark ++ os.filterMap mark)
      (tr.filterMap call ++ os.filterMap call))
    (hcalls : ∀ r ∈ os.filterMap call, r = req) (hlen : new.length ≤ (os.filterMap call).length)
    (hnew : ∀ e ∈ new, e.correlationId = k) :
    ReviewedOnce task F call mark (tr ++ os) w' (results ++ new) := by
  refine ⟨by rwa [List.filterMap_append, List.filterMap_append], fun j => ?_⟩
  rw [List.filterMap_append, List.countP_append, List.countP_append]
  refine Nat.add_le_add (h.results j) ?_
  by_cases hj : k = j
  · subst hj
    have hall : (os.filterMap call).countP (·.taskId == task k) = (os.filterMap call).length := by
      rw [List.countP_eq_length]
      intro r hr
      rw [hcalls r hr, hreq]
      exact beq_self_eq_true _
    rw [hall]
    exact List.countP_le_length.trans hlen
  · have hnone : new.countP (·.correlationId == j) = 0 := by
      rw [List.countP_eq_zero]
      intro e he heq
      exact hj ((hnew e he).symm.trans (beq_iff_eq.mp heq))
    rw [hnone]
    exact Nat.zero_le _

end ReviewedOnce

/-! ## Along a run -/

/-- Who is started again finds its marks, compacted or not. -/
def Choice.FindsMarks (tr : List Event) : Choice → Prop
  | .restartBilling w => Runtime.Rebuilt (tr.filterMap billingMark) w
  | .restartRisk w => Runtime.Rebuilt (tr.filterMap riskMark) w
  | _ => True

/-- A run in which no mark is lost: a peer that is started again, between two messages, reads all of them
    back. -/
inductive DurableRun (D : Deployment) (now : Time) (nextId : UUID) : List Event → State → Prop where
  | nil : DurableRun D now nextId [] (start now nextId)
  | step {tr os : List Event} {s s' : State} (h : DurableRun D now nextId tr s) (ch : Choice)
      (hch : ch.FindsMarks tr) (hs : step D ch s = some (os, s')) :
      DurableRun D now nextId (tr ++ os) s'

/-- The cases a peer has been asked about. -/
def casesAsked (tasks : List Runtime.Envelope) : Finset UUID :=
  (tasks.map (·.correlationId)).toFinset

section Durable

variable {D : Deployment} {now : Time} {nextId : UUID} {tr : List Event} {s s' : State}

theorem DurableRun.run (h : DurableRun D now nextId tr s) : Run D now nextId tr s := by
  induction h with
  | nil => exact .nil
  | step _ ch _ hs ih => exact ih.step ch hs

/-- A schedule without a restart goes on from any state. -/
theorem DurableRun.of_exec {chs : List Choice} {tr' : List Event} (h : DurableRun D now nextId tr s)
    (hsteady : ∀ ch ∈ chs, ∀ tr, ch.FindsMarks tr) (hexec : exec D chs s = some (tr', s')) :
    DurableRun D now nextId (tr ++ tr') s' := by
  induction chs generalizing tr tr' s with
  | nil =>
    cases hexec
    simpa using h
  | cons ch chs ih =>
    obtain ⟨hch, hchs⟩ := List.forall_mem_cons.mp hsteady
    obtain ⟨⟨os, s₁⟩, hs, hrest⟩ := Option.bind_eq_some_iff.mp hexec
    obtain ⟨⟨tr₁, s₂⟩, hrun, heq⟩ := Option.map_eq_some_iff.mp hrest
    cases heq
    rw [← List.append_assoc]
    exact ih (h.step ch (hch tr) hs) hchs hrun

/-- The tasks of a peer fit into its tracker. -/
def Fits (D : Deployment) (peer : Peer) (F : Finset UUID) (tasks : List Runtime.Envelope) : Prop :=
  ∀ e ∈ tasks, taskOf D.settings e.correlationId peer ∈ F

def BillingOnce (D : Deployment) (F : Finset UUID) (tr : List Event) (s : State) : Prop :=
  ReviewedOnce (taskOf D.settings · billingPeer) F billingCall billingMark tr s.billing s.billingResults

def RiskOnce (D : Deployment) (F : Finset UUID) (tr : List Event) (s : State) : Prop :=
  ReviewedOnce (taskOf D.settings · riskPeer) F riskCall riskMark tr s.risk s.riskResults

variable {F : Finset UUID} {os : List Event} {ch : Choice}

theorem filterMap_billing {β : Type} (f : Event → Option β) (t : Time) (os : List Runtime.Obs) :
    (os.map (.billing t)).filterMap f = os.filterMap fun o => f (.billing t o) := List.filterMap_map

theorem filterMap_risk {β : Type} (f : Event → Option β) (t : Time) (os : List Runtime.Obs) :
    (os.map (.risk t)).filterMap f = os.filterMap fun o => f (.risk t o) := List.filterMap_map

theorem BillingOnce.step (hrun : Run D now nextId tr s) (h : BillingOnce D F tr s)
    (hfits : Fits D billingPeer F s.billingTasks) (hch : ch.FindsMarks tr)
    (hs : Stepped D s ch os s') : BillingOnce D F (tr ++ os) s' := by
  cases hs with
  | agent =>
    refine h.idle fun o ho => ?_
    obtain ⟨_, _, rfl⟩ := List.mem_map.mp ho
    exact ⟨rfl, rfl⟩
  | opened | restartRisk => exact h.idle (by simp)
  | restartBilling w => exact h.restart hch
  | arrived =>
    unfold BillingOnce
    rw [accept_eq]
    exact h.idle (by simp)
  | risk =>
    refine h.idle fun o ho => ?_
    obtain ⟨_, _, rfl⟩ := List.mem_map.mp ho
    exact ⟨rfl, rfl⟩
  | @billing n e hd he =>
    have hasked := hrun.faithful.billingTasks e he
    obtain ⟨t, hreq⟩ := requestOf_billingAsked hasked
    have hcalls : ((handleBilling D e hd s.billing).1.map (.billing hd.now)).filterMap billingCall = _ :=
      (filterMap_billing ..).trans (calls_handleBilling hreq).1
    refine h.handle (reviewRequest D.settings billingPeer e.correlationId t) e.correlationId rfl ?_ ?_ ?_
      fun r hr => ?_
    · rw [filterMap_billing, filterMap_billing]
      exact h.calls.deliver (d := { raw := e, now := hd.now, answer := _ }) hreq (hfits e he)
    · rw [hcalls]
      intro r hr
      split at hr
      · cases hr
      · exact List.mem_singleton.mp hr
    · rw [filterMap_billing]
      split
      · rw [filterMap_billingEvent]
        exact List.length_filterMap_le _ _
      · exact Nat.zero_le _
    · split at hr
      · exact (billingReviewed_of_handled hasked hr).1
      · cases hr

theorem RiskOnce.step (hrun : Run D now nextId tr s) (h : RiskOnce D F tr s)
    (hfits : Fits D riskPeer F s.riskTasks) (hch : ch.FindsMarks tr)
    (hs : Stepped D s ch os s') : RiskOnce D F (tr ++ os) s' := by
  cases hs with
  | agent =>
    refine h.idle fun o ho => ?_
    obtain ⟨_, _, rfl⟩ := List.mem_map.mp ho
    exact ⟨rfl, rfl⟩
  | opened | restartBilling => exact h.idle (by simp)
  | restartRisk w => exact h.restart hch
  | arrived =>
    unfold RiskOnce
    rw [accept_eq]
    exact h.idle (by simp)
  | billing =>
    refine h.idle fun o ho => ?_
    obtain ⟨_, _, rfl⟩ := List.mem_map.mp ho
    exact ⟨rfl, rfl⟩
  | @risk n e hd he =>
    have hasked := hrun.faithful.riskTasks e he
    obtain ⟨t, hreq⟩ := requestOf_riskAsked hasked
    have hcalls : ((handleRisk D e hd s.risk).1.map (.risk hd.now)).filterMap riskCall = _ :=
      (filterMap_risk ..).trans (calls_handleRisk hreq).1
    refine h.handle (reviewRequest D.settings riskPeer e.correlationId t) e.correlationId rfl ?_ ?_ ?_
      fun r hr => ?_
    · rw [filterMap_risk, filterMap_risk]
      exact h.calls.deliver (d := { raw := e, now := hd.now, answer := _ }) hreq (hfits e he)
    · rw [hcalls]
      intro r hr
      split at hr
      · cases hr
      · exact List.mem_singleton.mp hr
    · rw [filterMap_risk]
      split
      · rw [filterMap_riskEvent]
        exact List.length_filterMap_le _ _
      · exact Nat.zero_le _
    · split at hr
      · exact (riskReviewed_of_handled hasked hr).1
      · cases hr

/-- What is on a topic stays there. -/
structure LogsKept (s s' : State) : Prop where
  tickets : s.tickets ⊆ s'.tickets
  billingTasks : s.billingTasks ⊆ s'.billingTasks
  riskTasks : s.riskTasks ⊆ s'.riskTasks
  billingResults : s.billingResults ⊆ s'.billingResults
  riskResults : s.riskResults ⊆ s'.riskResults

theorem logsKept_accept (s : State) (ev : Resolution.OutEvent) : LogsKept s (s.accept ev) := by
  have hrefl : LogsKept s s := ⟨by simp, by simp, by simp, by simp, by simp⟩
  unfold State.accept
  split
  · exact hrefl
  split
  · exact { hrefl with billingTasks := List.subset_append_left _ _ }
  split
  · exact { hrefl with riskTasks := List.subset_append_left _ _ }
  · exact hrefl

theorem Stepped.logsKept (hs : Stepped D s ch os s') : LogsKept s s' := by
  cases hs with
  | agent | restartBilling | restartRisk => exact ⟨by simp, by simp, by simp, by simp, by simp⟩
  | opened => exact ⟨by simp, by simp, by simp, by simp, by simp⟩
  | arrived => exact logsKept_accept s _
  | billing | risk => exact ⟨by simp, by simp, by simp, by simp, by simp⟩

theorem Fits.of_subset {peer : Peer} {tasks tasks' : List Runtime.Envelope} (hsub : tasks ⊆ tasks')
    (h : Fits D peer F tasks') : Fits D peer F tasks := fun e he => h e (hsub he)

/-- **Every run that loses no mark**, as long as the tasks fit. -/
theorem DurableRun.billingOnce (h : DurableRun D now nextId tr s)
    (hF : F.card ≤ Runtime.trackerSize) (hfits : Fits D billingPeer F s.billingTasks) :
    BillingOnce D F tr s := by
  induction h with
  | nil => exact ReviewedOnce.start hF
  | @step tr os s s' h ch hch hs ih =>
    have hstepped := stepped_of_step hs
    have hfits₀ := hfits.of_subset hstepped.logsKept.billingTasks
    exact (ih hfits₀).step h.run hfits₀ hch hstepped

theorem DurableRun.riskOnce (h : DurableRun D now nextId tr s)
    (hF : F.card ≤ Runtime.trackerSize) (hfits : Fits D riskPeer F s.riskTasks) :
    RiskOnce D F tr s := by
  induction h with
  | nil => exact ReviewedOnce.start hF
  | @step tr os s s' h ch hch hs ih =>
    have hstepped := stepped_of_step hs
    have hfits₀ := hfits.of_subset hstepped.logsKept.riskTasks
    exact (ih hfits₀).step h.run hfits₀ hch hstepped

/-- The tasks of the cases that a peer was asked about. -/
def tasksAsked (D : Deployment) (peer : Peer) (tasks : List Runtime.Envelope) : Finset UUID :=
  (casesAsked tasks).image (taskOf D.settings · peer)

theorem card_tasksAsked_le {peer : Peer} {tasks : List Runtime.Envelope}
    (h : (casesAsked tasks).card ≤ Runtime.trackerSize) :
    (tasksAsked D peer tasks).card ≤ Runtime.trackerSize := Finset.card_image_le.trans h

theorem fits_tasksAsked (peer : Peer) (tasks : List Runtime.Envelope) :
    Fits D peer (tasksAsked D peer tasks) tasks := by
  intro e he
  refine Finset.mem_image_of_mem _ ?_
  exact List.mem_toFinset.mpr (List.mem_map_of_mem he)

theorem OnTopic.mono {m : Resolution.Message} (h : OnTopic s m) (hk : LogsKept s s') :
    OnTopic s' m := by
  cases m with
  | ticket e => exact hk.tickets h
  | billingResult e => exact hk.billingResults h
  | riskResult e => exact hk.riskResults h
  | taskResult | sweep => trivial

/-- Whatever was received is on its topic. -/
theorem Run.received_onTopic (hrun : Run D now nextId tr s) {i : LoopId} {m : Resolution.Message}
    (hm : .agent i (.received m) ∈ tr) : OnTopic s m := by
  induction hrun generalizing i with
  | nil => cases hm
  | @step tr os s s' h ch hs ih =>
    have hstepped := stepped_of_step hs
    refine OnTopic.mono ?_ hstepped.logsKept
    rcases List.mem_append.mp hm with hold | hnew
    · exact ih hold
    · rcases hstepped.received h hnew with hon | hold
      · exact hon
      · exact ih hold

/-- **Each case is reviewed once.** In every run of the three agents in which no peer is asked about
    more cases than its tracker holds and none that is started again, between two messages, misses a
    mark, the peers are called at most once for the review of a case, and the agent is never handed two
    different verdicts of a peer about it. -/
theorem each_case_is_reviewed_once (h : DurableRun D now nextId tr s)
    (hbilling : (casesAsked s.billingTasks).card ≤ Runtime.trackerSize)
    (hrisk : (casesAsked s.riskTasks).card ≤ Runtime.trackerSize) (k : UUID) :
    (tr.filterMap billingCall).countP (·.taskId == taskOf D.settings k billingPeer) ≤ 1 ∧
      (tr.filterMap riskCall).countP (·.taskId == taskOf D.settings k riskPeer) ≤ 1 ∧
      (∀ i e i' e', .agent i (.received (.billingResult e)) ∈ tr →
        .agent i' (.received (.billingResult e')) ∈ tr →
        e.correlationId = k → e'.correlationId = k → e = e') ∧
      (∀ i e i' e', .agent i (.received (.riskResult e)) ∈ tr →
        .agent i' (.received (.riskResult e')) ∈ tr →
        e.correlationId = k → e'.correlationId = k → e = e') := by
  have hb := h.billingOnce (card_tasksAsked_le hbilling) (fits_tasksAsked _ _)
  have hr := h.riskOnce (card_tasksAsked_le hrisk) (fits_tasksAsked _ _)
  refine ⟨hb.calls.once _, hr.calls.once _, ?_, ?_⟩
  · intro i e i' e' he he' hk hk'
    exact eq_of_countP_le_one (hb.results_le_one k) (h.run.received_onTopic he)
      (h.run.received_onTopic he') (by simpa using hk) (by simpa using hk')
  · intro i e i' e' he he' hk hk'
    exact eq_of_countP_le_one (hr.results_le_one k) (h.run.received_onTopic he)
      (h.run.received_onTopic he') (by simpa using hk) (by simpa using hk')

end Durable

/-! ### A refund whose tasks are handed over again after a restart -/

/-- The billing agent, back with its one mark. -/
def billingBack : Runtime.World :=
  { tracker := Runtime.rebuilt [taskOf sampleDeployment.settings 1 billingPeer], now := 0, nextId := 0 }

def repeatedSchedule : List Choice := [.handleBilling 0 smoothBilling, .handleRisk 0 smoothRisk]

theorem each_case_is_reviewed_once_sample :
    ∃ tr s, DurableRun sampleDeployment 0 1000 tr s ∧
      (tr.filterMap billingCall).length = 1 ∧ (tr.filterMap riskCall).length = 1 ∧
      (tr.filterMap billingCall).countP
        (·.taskId == taskOf sampleDeployment.settings 1 billingPeer) ≤ 1 := by
  have hexec : ((exec sampleDeployment refundSchedule (start 0 1000)).bind fun out =>
      (exec sampleDeployment repeatedSchedule { out.2 with billing := billingBack }).map fun out' =>
        (out.1.filterMap billingMark, ((out.1 ++ out'.1).filterMap billingCall).length,
          ((out.1 ++ out'.1).filterMap riskCall).length, out'.2.billingTasks.length,
          out'.2.riskTasks.length)) =
      some ([taskOf sampleDeployment.settings 1 billingPeer], 1, 1, 1, 1) := by
    decide +kernel
  obtain ⟨⟨tr, s⟩, hout, hrest⟩ := Option.bind_eq_some_iff.mp hexec
  obtain ⟨⟨tr', s'⟩, hout', heq⟩ := Option.map_eq_some_iff.mp hrest
  simp only [Prod.mk.injEq] at heq
  obtain ⟨hmarks, hcalls, hcalls', htasks, htasks'⟩ := heq
  have hback : Choice.FindsMarks tr (.restartBilling billingBack) := by
    refine ⟨_, .refl _, ?_⟩
    rw [hmarks]
    rfl
  have hfirst : DurableRun sampleDeployment 0 1000 tr s := by
    refine DurableRun.nil.of_exec ?_ hout
    simp [refundSchedule, Choice.FindsMarks]
  have hagain : DurableRun sampleDeployment 0 1000 tr { s with billing := billingBack } := by
    simpa using hfirst.step _ hback rfl
  have hrun : DurableRun sampleDeployment 0 1000 (tr ++ tr') s' := by
    refine hagain.of_exec ?_ hout'
    simp [repeatedSchedule, Choice.FindsMarks]
  have hfew : ∀ tasks : List Runtime.Envelope, tasks.length = 1 →
      (casesAsked tasks).card ≤ Runtime.trackerSize := by
    intro tasks hlen
    refine (List.toFinset_card_le _).trans ?_
    rw [List.length_map, hlen]
    decide
  exact ⟨_, s', hrun, hcalls, hcalls',
    (each_case_is_reviewed_once hrun (hfew _ htasks) (hfew _ htasks') 1).1⟩

end RefundOps.Workflow
