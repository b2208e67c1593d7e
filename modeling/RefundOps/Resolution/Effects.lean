import RefundOps.Lib.EventLoop
import RefundOps.Foundation.AgentCard
import RefundOps.Foundation.Audit
import RefundOps.Resolution.StateStore
import RefundOps.Resolution.TicketClassifier

/-!
# What a handler can do

The monad the handlers are written in. A handler shares the case store, the clock and the source
of fresh ids with the other loops; it suspends on the broker, on discovery and on the LLM, and
nowhere else (the methods of the store have no suspension point of their own).

A record handed out by the store is a reference: reading a field through it reads the record as
it is *now*, whoever changed it meanwhile. `deref` and `assign` are that reading and writing.

`Obs` is what the theorems speak about. Besides the events that reached the broker, or did not,
it has one note for each of the points the claims are about: a result attached, a slot failed, a
claim won, a decision taken with the record it was taken on, a delegation that failed. A note
changes nothing and no handler can see it.
-/

set_option autoImplicit false

namespace RefundOps.Resolution

/-! ## Messages in and out -/

inductive OutPayload where
  | issueClassified (p : CustomerIssueClassifiedPayload)
  | taskRequest (p : TaskRequest)
  | refundReviewRequested (p : RefundReviewRequestedPayload)
  | resolutionDecided (p : CustomerResponseDecisionPayload)
  | responseDrafted (p : CustomerResponseDraftedPayload)

structure OutEvent where
  eventId : UUID
  correlationId : UUID
  causationId : UUID
  payload : OutPayload

def OutEvent.ref (ev : OutEvent) : EventRef := ⟨ev.eventId, ev.correlationId⟩

/-- What the loops are given: a ticket, a generic task result, the two domain results, and the
    tick of the reaper. -/
inductive Message where
  | ticket (envelope : Inbound SupportTicketCreatedPayload)
  | taskResult (envelope : Inbound TaskResult)
  | billingResult (envelope : Inbound BillingRefundAnalysisCompletedPayload)
  | riskResult (envelope : Inbound RiskReviewCompletedPayload)
  | sweep

/-! ## The shared state, the suspensions and the notes -/

structure World where
  store : InMemoryCaseStateStore := {}
  now : Time
  nextId : UUID

inductive Request where
  | send (ev : OutEvent)
  | sendAudit (eventId : UUID) (audit : AuditPayload)
  | discoverAgents
  | classifyWithLlm (ticket : SupportTicketCreatedPayload) (correlationId causationId : UUID)

/-- Every answer can be an exception; an LLM answer may also be no classification. -/
@[reducible] def Reply : Request → Type
  | .send _ => Except String Unit
  | .sendAudit _ _ => Except String Unit
  | .discoverAgents => Except String (List AgentCard)
  | .classifyWithLlm _ _ _ => Except String (Option TicketClassification)

inductive Obs where
  | received (m : Message)
  | published (ev : OutEvent)
  | publishFailed (ev : OutEvent)
  | attached (envelope : EventRef) (caseId taskId : UUID) (finding : Finding)
  | slotFailed (before : ResolutionCase) (taskId : UUID) (isBilling : Bool)
  | claimed (caseId : UUID)
  | decisionTaken (snapshot : ResolutionCase) (now : Time)
      (decision : CustomerResponseDecisionPayload)
  | delegationFailed (caseId : UUID) (status : CaseStatus)

abbrev M := Coro World Obs Request Reply String

/-! ## Clock, ids and store -/

def datetimeNow : M Time := do
  let w ← Coro.read
  pure w.now

def uuid4 : M UUID := do
  let w ← Coro.read
  Coro.write { w with nextId := w.nextId + 1 }
  pure w.nextId

/-- A method of the store. -/
def withStore {α : Type} (f : InMemoryCaseStateStore → α × InMemoryCaseStateStore) : M α := do
  let w ← Coro.read
  Coro.write { w with store := (f w.store).2 }
  pure (f w.store).1

def readStore {α : Type} (f : InMemoryCaseStateStore → α) : M α := do
  let w ← Coro.read
  pure (f w.store)

/-- A method that may raise. -/
def updateStore (err : String) (f : InMemoryCaseStateStore → Option InMemoryCaseStateStore) :
    M Unit := do
  let w ← Coro.read
  match f w.store with
  | some st => Coro.write { w with store := st }
  | none => throw err

theorem updateStore_eq (err : String)
    (f : InMemoryCaseStateStore → Option InMemoryCaseStateStore) :
    updateStore err f = Coro.read >>= fun w =>
      (f w.store).elim (throw err) fun st => Coro.write { w with store := st } := by
  unfold updateStore
  congr 1
  funext w
  cases f w.store with
  | none => rfl
  | some st => rfl

/-- The record behind a reference; also `await store.get(case.case_id) or case`. -/
def deref (c : ResolutionCase) : M ResolutionCase :=
  readStore fun st => (st.get c.caseId).getD c

/-- Assignments to fields through a reference. -/
def assign (c : ResolutionCase) (f : ResolutionCase → ResolutionCase) : M Unit :=
  withStore fun st => ((), st.modify c.caseId f)

/-- `await store.save(case)`. -/
def save (c : ResolutionCase) : M Unit := do
  let c ← deref c
  let now ← datetimeNow
  updateStore "CaseSaveConflict" fun st => st.save c none now

/-! ## The broker -/

/-- `send_and_wait`. -/
def sendAndWait (ev : OutEvent) : M OutEvent := do
  let sent ← Coro.request (Request.send ev)
  match sent with
  | .ok () =>
      Coro.observe (.published ev)
      pure ev
  | .error e =>
      Coro.observe (.publishFailed ev)
      throw e

/-- `await publisher.publish(...)`. -/
def publish (payload : OutPayload) (correlationId causationId : UUID) : M OutEvent := do
  let eventId ← uuid4
  sendAndWait { eventId, correlationId, causationId, payload }

/-- `write_audit` and `write_task_audit`: a record that cannot be sent is logged and dropped. -/
def writeTaskAudit (envelope : EventRef) (outcome : AuditOutcome) (taskId : Option UUID)
    (reason : Option String) (h : outcome.reasonOk reason = true := by rfl) : M Unit := do
  let recordedAt ← datetimeNow
  let eventId ← uuid4
  let _ ← Coro.request (Request.sendAudit eventId
    { original := envelope, outcome, reason, recordedAt, taskId, validateReasonRequired := h })
  pure ()

def writeAudit (envelope : EventRef) (outcome : AuditOutcome) (reason : Option String)
    (h : outcome.reasonOk reason = true := by rfl) : M Unit :=
  writeTaskAudit envelope outcome none reason h

end RefundOps.Resolution
