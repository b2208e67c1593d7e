import RefundOps.Lib.Protocol
import RefundOps.Resolution.Service

/-!
# The case protocol

What the loops of the agent may do to a case, one constructor of `Act` for each thing that can
happen to it: created, classified, delegated, a result attached, a slot failed, claimed, a
decision published, finished. The handlers are checked against this once (`Conformance`); the
properties of runs are then proved over the constructors and never look at a handler again.

The protocol sees a store through its `View`: the records without what no decision ever reads
(versions, event ids, failure texts), and the two indexes. A loop's `Phase` is what it has
promised: a loop that attached a result *owes* the case a decision if that made it ready, a loop
that claimed is *emitting*. A claim of the store is one way to a decision; the intake loop has
two more (`Emission.direct`, `Emission.fallback`) that never ask for one.
-/

set_option autoImplicit false

namespace RefundOps.Resolution

/-! ## Views -/

/-- The record without versions, event ids and failure texts. -/
def ResolutionCase.core (c : ResolutionCase) : ResolutionCase :=
  { c with
    version := 0
    updatedAt := 0
    billingResultEventId := none
    riskResultEventId := none
    billingFailureReason := none
    riskFailureReason := none
    decidedEventId := none
    draftedEventId := none }

structure View where
  cases : UUID → Option ResolutionCase
  byCorrelation : UUID → Option UUID
  byTaskId : UUID → Option UUID

namespace View

def put (V : View) (k : UUID) (c : ResolutionCase) : View :=
  { V with cases := Function.update V.cases k (some c) }

@[simp] theorem put_cases_self (V : View) (k : UUID) (c : ResolutionCase) :
    (V.put k c).cases k = some c := by
  simp [put]

theorem put_cases_ne (V : View) {k j : UUID} (c : ResolutionCase) (h : j ≠ k) :
    (V.put k c).cases j = V.cases j := by
  simp [put, h]

theorem of_put {V : View} {k j : UUID} {c x : ResolutionCase} (h : (V.put k c).cases j = some x) :
    (j = k ∧ x = c) ∨ (j ≠ k ∧ V.cases j = some x) := by
  by_cases hj : j = k
  · subst hj
    rw [put_cases_self, Option.some.injEq] at h
    exact .inl ⟨rfl, h.symm⟩
  · rw [put_cases_ne V c hj] at h
    exact .inr ⟨hj, h⟩

@[simp] theorem put_byCorrelation (V : View) (k : UUID) (c : ResolutionCase) :
    (V.put k c).byCorrelation = V.byCorrelation := rfl

@[simp] theorem put_byTaskId (V : View) (k : UUID) (c : ResolutionCase) :
    (V.put k c).byTaskId = V.byTaskId := rfl

theorem put_self {V : View} {k : UUID} {c : ResolutionCase} (h : V.cases k = some c) :
    V.put k c = V := by
  obtain ⟨cases, corr, task⟩ := V
  have h' : cases k = some c := h
  simp [put, ← h']

@[simp] theorem put_put (V : View) (k : UUID) (c c' : ResolutionCase) :
    (V.put k c).put k c' = V.put k c' := by
  simp [put]

end View

def InMemoryCaseStateStore.view (st : InMemoryCaseStateStore) : View where
  cases := fun k => (st.get k).map ResolutionCase.core
  byCorrelation := st.byCorrelation.get?
  byTaskId := st.byTaskId.get?

def World.view (w : World) : View := w.store.view

/-! ## Phases -/

/-- Which path a decision is emitted on. The first two are the intake loop's own. -/
inductive Emission where
  | direct
  | fallback
  | claimed
  | highRisk
  deriving DecidableEq, Repr

/-- The status a case is given after the emission. -/
def Emission.finalStatus : Emission → CaseStatus
  | .direct => .closed
  | .fallback => .escalated
  | .claimed => .decided
  | .highRisk => .escalated

inductive Phase where
  | quiet
  | triaging (k : UUID)
  | delegating (k : UUID)
  | owing (k : UUID)
  | emitting (k : UUID) (d : CustomerResponseDecisionPayload) (e : Emission)
  | emitted (k : UUID) (d : CustomerResponseDecisionPayload) (e : Emission)

/-- The suspensions of an emission: publishing the decision, auditing it, publishing the
    draft. -/
def Request.emits (k : UUID) : Request → Prop
  | .send ev => ev.correlationId = k ∧
      ((∃ d, ev.payload = .resolutionDecided d) ∨ ∃ p, ev.payload = .responseDrafted p)
  | .sendAudit _ a => a.original.correlationId = k ∧ a.outcome = .completed
  | _ => False

def Phase.Waits : Phase → Request → Prop
  | .emitting k _ _, x => x.emits k
  | .emitted k _ _, x => x.emits k
  | _, _ => True

/-! ## The records the actions produce -/

/-- A record as `get_or_create` makes it. -/
structure NewCase (k : UUID) (c : ResolutionCase) : Prop where
  caseId : c.caseId = k
  correlationId : c.correlationId = k
  status : c.status = .received
  triage : c.triage = none
  billingTaskId : c.billingTaskId = none
  riskTaskId : c.riskTaskId = none
  pendingTasks : c.pendingTasks = ∅
  billingResult : c.billingResult = none
  riskResult : c.riskResult = none
  billingSlotFailed : c.billingSlotFailed = false
  riskSlotFailed : c.riskSlotFailed = false

def billingTaskOf (S : Settings) (k : UUID) : UUID := S.uuid5 k billingCapabilityId
def riskTaskOf (S : Settings) (k : UUID) : UUID := S.uuid5 k riskCapabilityId

/-- A classified record handed to the peers. -/
def delegatedCase (S : Settings) (k : UUID) (deadline : Time) (c : ResolutionCase) :
    ResolutionCase :=
  { c with
    status := .waitingForPeerReviews
    deadlineAt := some deadline
    billingTaskId := some (billingTaskOf S k)
    riskTaskId := some (riskTaskOf S k)
    pendingTasks := {riskTaskOf S k, billingTaskOf S k} }

/-- What `apply_result` makes of a record it attaches to. -/
def attachedCase (c : ResolutionCase) (taskId : UUID) (finding : Finding) : ResolutionCase :=
  let c' := InMemoryCaseStateStore.attach c finding
  { c' with
    pendingTasks := c.pendingTasks.erase taskId
    status :=
      if c.pendingTasks.erase taskId = ∅ ∧ canTransitionToReady c.status then .readyForDecision
      else c.status }

theorem attachedCase_ready {c : ResolutionCase} {taskId : UUID} {finding : Finding}
    (h : c.pendingTasks.erase taskId = ∅ ∧ canTransitionToReady c.status = true) :
    attachedCase c taskId finding =
      { InMemoryCaseStateStore.attach c finding with
        pendingTasks := c.pendingTasks.erase taskId
        status := .readyForDecision } := by
  unfold attachedCase
  rw [if_pos h]

theorem attachedCase_waiting {c : ResolutionCase} {taskId : UUID} {finding : Finding}
    (h : ¬ (c.pendingTasks.erase taskId = ∅ ∧ canTransitionToReady c.status = true)) :
    attachedCase c taskId finding =
      { InMemoryCaseStateStore.attach c finding with
        pendingTasks := c.pendingTasks.erase taskId
        status := c.status } := by
  unfold attachedCase
  rw [if_neg h]

/-- What `mark_slot_failed` makes of a record that is not terminal. -/
def slotFailedCase (c : ResolutionCase) (taskId : UUID) (isBilling : Bool) : ResolutionCase :=
  { c with
    billingSlotFailed := c.billingSlotFailed || isBilling
    riskSlotFailed := c.riskSlotFailed || !isBilling
    pendingTasks := c.pendingTasks.erase taskId
    status := if canTransitionToReady c.status then .readyForDecision else c.status }

theorem undecided_attachedCase {c : ResolutionCase} {t : UUID} {f : Finding}
    (hu : undecided c.status = true) : undecided (attachedCase c t f).status = true := by
  by_cases h : c.pendingTasks.erase t = ∅ ∧ canTransitionToReady c.status = true
  · rw [attachedCase_ready h]
    rfl
  · rw [attachedCase_waiting h]
    exact hu

theorem undecided_slotFailedCase {c : ResolutionCase} {t : UUID} {b : Bool}
    (hu : undecided c.status = true) : undecided (slotFailedCase c t b).status = true := by
  unfold slotFailedCase
  dsimp only
  split
  · rfl
  · exact hu

/-- A failed slot makes a record ready, whatever the other one says. -/
theorem slotFailedCase_ready (c : ResolutionCase) (taskId : UUID) (isBilling : Bool) :
    (slotFailedCase c taskId isBilling).isReadyToDecide = true := by
  cases isBilling <;> simp [slotFailedCase, ResolutionCase.isReadyToDecide]

/-! ## Actions -/

/-- What a loop may show at any time without it meaning anything to a case. -/
def Obs.Minor : Obs → Prop
  | .received _ => True
  | .published ev => ∀ d, ev.payload ≠ .resolutionDecided d
  | .publishFailed ev =>
      (∃ p, ev.payload = .taskRequest p) ∨ ∃ p, ev.payload = .refundReviewRequested p
  | _ => False

inductive Act (S : Settings) : LoopId → Phase → View → List Obs → Phase → View → Prop where
  | minor {i : LoopId} {p : Phase} {V : View} {os : List Obs} (h : ∀ o ∈ os, o.Minor) :
      Act S i p V os p V
  | create {V : View} {k : UUID} {c : ResolutionCase} (hnone : V.cases k = none)
      (hnew : NewCase k c) :
      Act S .intake .quiet V [] (.triaging k)
        { V.put k c with byCorrelation := Function.update V.byCorrelation k (some k) }
  | reopen {V : View} {k : UUID} {c : ResolutionCase} (hc : V.cases k = some c)
      (hs : c.status = .received ∨ c.status = .classified) :
      Act S .intake .quiet V [] (.triaging k) V
  | classify {V : View} {k : UUID} {c : ResolutionCase} {t : Triage} (hc : V.cases k = some c)
      (hs : c.status = .received ∨ c.status = .classified) :
      Act S .intake (.triaging k) V [] (.triaging k)
        (V.put k { c with triage := some t, status := .classified })
  | abandon {V : View} {k : UUID} {ev : OutEvent} {p : CustomerIssueClassifiedPayload}
      (hp : ev.payload = .issueClassified p) (hk : ev.correlationId = k) :
      Act S .intake (.triaging k) V [.publishFailed ev] .quiet V
  | direct {V : View} {k : UUID} {c : ResolutionCase} {d : CustomerResponseDecisionPayload}
      (hc : V.cases k = some c) (hs : c.status = .classified)
      (hd : d.outcome = .directResponse) (hr : d.escalationReason = none) :
      Act S .intake (.triaging k) V [] (.emitting k d .direct) V
  | delegate {V : View} {k : UUID} {c : ResolutionCase} {t : Triage} {deadline : Time}
      (hc : V.cases k = some c) (hs : c.status = .classified) (ht : c.triage = some t)
      (hn : t.needsRefundReview = true) :
      Act S .intake (.triaging k) V [] (.delegating k)
        { V.put k (delegatedCase S k deadline c) with
          byTaskId := Function.update (Function.update V.byTaskId (billingTaskOf S k) (some k))
            (riskTaskOf S k) (some k) }
  | delegated {V : View} {k : UUID} : Act S .intake (.delegating k) V [] .quiet V
  | delegationFailed {V : View} {k : UUID} {c : ResolutionCase}
      {d : CustomerResponseDecisionPayload} (hc : V.cases k = some c)
      (hb : c.billingTaskId.isSome) (hd : d.outcome = .escalateHuman)
      (hr : d.escalationReason = some "peer_failure") :
      Act S .intake (.delegating k) V [.delegationFailed k c.status] (.emitting k d .fallback) V
  | attachBilling {V : View} {k t : UUID} {c : ResolutionCase}
      {e : Inbound BillingRefundAnalysisCompletedPayload}
      {payload : BillingRefundAnalysisCompletedPayload} (hc : V.cases k = some c)
      (hu : undecided c.status = true) (ht : c.billingTaskId = some t)
      (hp : t ∈ c.pendingTasks) (he : e.payload = some payload) (hk : e.correlationId = k) :
      Act S .billing .quiet V
        [.received (.billingResult e),
          .attached e.ref k t (.billing (billingFinding payload t))] (.owing k)
        (V.put k (attachedCase c t (.billing (billingFinding payload t))))
  | attachRisk {V : View} {k t : UUID} {c : ResolutionCase}
      {e : Inbound RiskReviewCompletedPayload} {payload : RiskReviewCompletedPayload}
      (hc : V.cases k = some c) (hu : undecided c.status = true) (ht : c.riskTaskId = some t)
      (hp : t ∈ c.pendingTasks) (he : e.payload = some payload) (hk : e.correlationId = k) :
      Act S .risk .quiet V
        [.received (.riskResult e), .attached e.ref k t (.risk (riskFinding payload t))]
        (.owing k) (V.put k (attachedCase c t (.risk (riskFinding payload t))))
  | slotFailed {V : View} {k : UUID} {before : ResolutionCase} {e : Inbound TaskResult}
      {result : TaskResult} (hc : V.cases k = some before.core)
      (hu : undecided before.status = true)
      (ht : before.billingTaskId = some result.taskId ∨ before.riskTaskId = some result.taskId)
      (he : e.payload = some result) (hs : result.status ≠ .completed) :
      Act S .result .quiet V
        [.received (.taskResult e),
          .slotFailed before result.taskId (before.billingTaskId == some result.taskId)]
        (.owing k)
        (V.put k (slotFailedCase before.core result.taskId
          (before.billingTaskId == some result.taskId)))
  | release {i : LoopId} {V : View} {k : UUID} {c : ResolutionCase} (hc : V.cases k = some c)
      (h : undecided c.status = false ∨ c.isReadyToDecide = false) :
      Act S i (.owing k) V [] .quiet V
  | claim {i : LoopId} {p : Phase} {V : View} {k : UUID} {c snapshot : ResolutionCase}
      {now : Time} (hi : i ≠ .intake) (hp : p = .quiet ∨ p = .owing k) (hc : V.cases k = some c)
      (hb : c.billingTaskId.isSome) (hu : undecided c.status = true)
      (hs : snapshot.core = { c with status := .decided }) :
      Act S i p V [.claimed k, .decisionTaken snapshot now (decisionOn snapshot now)]
        (.emitting k (decisionOn snapshot now) .claimed) (V.put k { c with status := .decided })
  | claimHighRisk {V : View} {k t : UUID} {c snapshot : ResolutionCase}
      {e : Inbound RiskReviewCompletedPayload} {payload : RiskReviewCompletedPayload}
      (hc : V.cases k = some c) (hu : undecided c.status = true) (ht : c.riskTaskId = some t)
      (he : e.payload = some payload) (hk : e.correlationId = k) :
      Act S .risk .quiet V [.received (.riskResult e), .claimed k]
        (.emitting k (highRiskDecision snapshot (riskFinding payload t)) .highRisk)
        (V.put k { c with status := .decided, riskResult := some (riskFinding payload t) })
  | published {i : LoopId} {V : View} {k : UUID} {d : CustomerResponseDecisionPayload}
      {m : Emission} {ev : OutEvent} (hp : ev.payload = .resolutionDecided d)
      (hk : ev.correlationId = k) :
      Act S i (.emitting k d m) V [.published ev] (.emitted k d m) V
  | publishFailed {i : LoopId} {V : View} {k : UUID} {d : CustomerResponseDecisionPayload}
      {m : Emission} {ev : OutEvent} (hp : ev.payload = .resolutionDecided d)
      (hk : ev.correlationId = k) :
      Act S i (.emitting k d m) V [.publishFailed ev] .quiet V
  | draftFailed {i : LoopId} {V : View} {k : UUID} {d : CustomerResponseDecisionPayload}
      {m : Emission} {ev : OutEvent} {p : CustomerResponseDraftedPayload}
      (hp : ev.payload = .responseDrafted p) (hk : ev.correlationId = k) :
      Act S i (.emitted k d m) V [.publishFailed ev] .quiet V
  | close {V : View} {k : UUID} {c : ResolutionCase} {d : CustomerResponseDecisionPayload}
      (hc : V.cases k = some c) (hs : c.status = .classified) :
      Act S .intake (.emitted k d .direct) V [] .quiet (V.put k { c with status := .closed })
  | finish {i : LoopId} {V : View} {k : UUID} {c : ResolutionCase}
      {d : CustomerResponseDecisionPayload} {m : Emission} (hm : m ≠ .direct)
      (hc : V.cases k = some c) (hb : c.billingTaskId.isSome) :
      Act S i (.emitted k d m) V [] .quiet (V.put k { c with status := m.finalStatus })

end RefundOps.Resolution
