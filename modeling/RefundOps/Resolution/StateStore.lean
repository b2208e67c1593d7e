import RefundOps.Lib.Dict
import RefundOps.Resolution.Models

/-!
# The case store

`InMemoryCaseStateStore` of `state_store.py`, one pure function for each method. A method body
runs under the store's lock and has no suspension point, so it is one function of the store.

The program hands out references to the stored records and assigns to their fields directly.
A reference is the record's key here and such an assignment is `modify`; the store never puts
a different object under a key that is taken, so a reference and its key cannot come apart.
-/

set_option autoImplicit false

namespace RefundOps.Resolution

def parkedBufferMax : Nat := 200

inductive AttachOutcome where
  | attached
  | unknownCase
  | duplicate
  deriving DecidableEq, Repr

inductive Finding where
  | billing (f : BillingFinding)
  | risk (f : RiskFinding)

structure InMemoryCaseStateStore where
  cases : Dict UUID ResolutionCase := .empty
  byCorrelation : Dict UUID UUID := .empty
  byTaskId : Dict UUID UUID := .empty
  parkedBilling : List (UUID × BillingRefundAnalysisCompletedPayload) := []
  parkedRisk : List (UUID × RiskReviewCompletedPayload) := []

def canTransitionToReady (status : CaseStatus) : Bool :=
  status ∈ [CaseStatus.received, .classified, .waitingForPeerReviews, .readyForDecision]

/-- A `deque(maxlen=n)` append: the oldest entry goes when the deque is full. -/
def boundedAppend {α : Type} (n : Nat) (xs : List α) (x : α) : List α :=
  (xs ++ [x]).drop (xs.length + 1 - n)

namespace InMemoryCaseStateStore

def get (st : InMemoryCaseStateStore) (caseId : UUID) : Option ResolutionCase :=
  st.cases.get? caseId

def getByCorrelationId (st : InMemoryCaseStateStore) (correlationId : UUID) :
    Option ResolutionCase :=
  match st.byCorrelation.get? correlationId with
  | none => none
  | some caseId => st.cases.get? caseId

def getByTaskId (st : InMemoryCaseStateStore) (taskId : UUID) : Option ResolutionCase :=
  match st.byTaskId.get? taskId with
  | none => none
  | some caseId => st.cases.get? caseId

/-- Assignments to the fields of the record under `caseId`. -/
def modify (st : InMemoryCaseStateStore) (caseId : UUID) (f : ResolutionCase → ResolutionCase) :
    InMemoryCaseStateStore :=
  match st.cases.get? caseId with
  | none => st
  | some c => { st with cases := st.cases.set caseId (f c) }

def getOrCreate (st : InMemoryCaseStateStore) (caseId : UUID) (ticketId customerId : String)
    (correlationId : UUID) (ticketAmount : ℚ) (ticketCurrency ticketReason : String)
    (createdAt : Time) : ResolutionCase × InMemoryCaseStateStore :=
  match st.getByCorrelationId correlationId with
  | some c => (c, st)
  | none =>
      -- the handlers use the correlation id as the case id, so this finds nothing more
      match st.cases.get? caseId with
      | some c => (c, st)
      | none =>
          let c : ResolutionCase :=
            { caseId, ticketId, customerId, correlationId, ticketAmount, ticketCurrency,
              ticketReason, status := .received, createdAt, updatedAt := createdAt }
          (c, { st with
            cases := st.cases.set caseId c
            byCorrelation := st.byCorrelation.set correlationId caseId })

/-- `save(case, expected_version=...)`; `none` is `CaseSaveConflict`. -/
def save (st : InMemoryCaseStateStore) (c : ResolutionCase) (expectedVersion : Option Nat)
    (now : Time) : Option InMemoryCaseStateStore :=
  let existing := st.cases.get? c.caseId
  let stale : Bool := match existing, expectedVersion with
    | some e, some v => e.version != v
    | _, _ => false
  if stale then none
  else
    -- the version of the argument is not looked at
    let version := match existing with
      | some e => e.version + 1
      | none => 0
    some { st with
      cases := st.cases.set c.caseId { c with version, updatedAt := now }
      byCorrelation := st.byCorrelation.set c.correlationId c.caseId }

/-- `transition(case_id, to_status)`; `none` is `KeyError` or an illegal transition. -/
def transition (st : InMemoryCaseStateStore) (caseId : UUID) (toStatus : CaseStatus)
    (now : Time) : Option InMemoryCaseStateStore :=
  match st.cases.get? caseId with
  | none => none
  | some c =>
      if canTransition c.status toStatus then
        some (st.modify caseId fun c =>
          { c with status := toStatus, version := c.version + 1, updatedAt := now })
      else none

/-- `add_pending_task(case_id, task_id)`; `none` is `KeyError`. -/
def addPendingTask (st : InMemoryCaseStateStore) (caseId taskId : UUID) :
    Option InMemoryCaseStateStore :=
  match st.cases.get? caseId with
  | none => none
  | some _ =>
      let st' := st.modify caseId fun c => { c with pendingTasks := insert taskId c.pendingTasks }
      some { st' with byTaskId := st'.byTaskId.set taskId caseId }

def attach (c : ResolutionCase) : Finding → ResolutionCase
  | .billing f => { c with billingResult := some f }
  | .risk f => { c with riskResult := some f }

def applyResult (st : InMemoryCaseStateStore) (caseId taskId : UUID) (finding : Finding)
    (now : Time) : AttachOutcome × InMemoryCaseStateStore :=
  match st.cases.get? caseId with
  | none => (.unknownCase, st)
  | some c =>
      if isTerminal c.status || c.status == .decided then (.duplicate, st)
      -- a slot that was settled before keeps its first finding
      else if taskId ∉ c.pendingTasks then (.duplicate, st)
      else
        let c' := attach c finding
        let c' := { c' with
          pendingTasks := c'.pendingTasks.erase taskId
          updatedAt := now
          version := c'.version + 1 }
        let c' :=
          if c'.pendingTasks = ∅ ∧ canTransitionToReady c'.status then
            { c' with status := .readyForDecision }
          else c'
        (.attached, { st with cases := st.cases.set caseId c' })

def claimDecision (st : InMemoryCaseStateStore) (caseId : UUID) (now : Time) :
    Bool × InMemoryCaseStateStore :=
  match st.cases.get? caseId with
  | none => (false, st)
  | some c =>
      if c.status == .decided || isTerminal c.status then (false, st)
      else
        (true, st.modify caseId fun c =>
          { c with status := .decided, updatedAt := now, version := c.version + 1 })

def markSlotFailed (st : InMemoryCaseStateStore) (caseId taskId : UUID) (isBilling : Bool)
    (reason : String) (now : Time) : InMemoryCaseStateStore :=
  match st.cases.get? caseId with
  | none => st
  | some c =>
      -- a case that is decided but not terminal is written to all the same
      if isTerminal c.status then st
      else
        st.modify caseId fun c =>
          let c' :=
            if isBilling then
              { c with billingSlotFailed := true, billingFailureReason := some reason }
            else { c with riskSlotFailed := true, riskFailureReason := some reason }
          let c' := { c' with
            pendingTasks := c'.pendingTasks.erase taskId
            updatedAt := now
            version := c'.version + 1 }
          -- ready at once: the other slot is not waited for
          if canTransitionToReady c'.status then { c' with status := .readyForDecision } else c'

def parkBillingResult (st : InMemoryCaseStateStore) (correlationId : UUID)
    (payload : BillingRefundAnalysisCompletedPayload) : InMemoryCaseStateStore :=
  { st with parkedBilling := boundedAppend parkedBufferMax st.parkedBilling (correlationId, payload) }

def parkRiskResult (st : InMemoryCaseStateStore) (correlationId : UUID)
    (payload : RiskReviewCompletedPayload) : InMemoryCaseStateStore :=
  { st with parkedRisk := boundedAppend parkedBufferMax st.parkedRisk (correlationId, payload) }

def setDeadline (st : InMemoryCaseStateStore) (caseId : UUID) (deadlineAt : Time) :
    InMemoryCaseStateStore :=
  st.modify caseId fun c => { c with deadlineAt := some deadlineAt }

def timedOut (c : ResolutionCase) (now : Time) : Bool :=
  !isTerminal c.status && c.status != .decided &&
    (match c.deadlineAt with
      | none => false
      | some deadline => Decidable.decide (now > deadline)) &&
    Decidable.decide (c.pendingTasks ≠ ∅)

def listTimedOutCases (st : InMemoryCaseStateStore) (now : Time) : List ResolutionCase :=
  st.cases.values.filter fun c => timedOut c now

end InMemoryCaseStateStore

end RefundOps.Resolution
