import RefundOps.Resolution.Effects

/-!
# Delegation to the peers

`a2a_handlers.py`. The billing and the risk request differ in data only, so `Peer` holds that
data and `requestAnalysis` is the one program; `delegate` registers both tasks before it sends
either request, so that an early result finds its task pending.
-/

set_option autoImplicit false

namespace RefundOps.Resolution

structure Peer where
  capabilityId : String
  agentId : String
  /-- The message of `BillingPeerUnavailable` or `RiskPeerUnavailable`. -/
  unavailable : String
  taskId : ResolutionCase → Option UUID
  setTaskId : UUID → ResolutionCase → ResolutionCase
  /-- The input of the task request, as JSON. -/
  input : ResolutionCase → Json

def billingPeer : Peer where
  capabilityId := billingCapabilityId
  agentId := billingPeerAgentId
  unavailable := "No published card for " ++ billingPeerAgentId ++ " declares " ++
    billingCapabilityId
  taskId := (·.billingTaskId)
  setTaskId := fun t c => { c with billingTaskId := some t }
  input := fun c => .obj
    [("case_id", .str (uuidStr c.correlationId)), ("ticket_id", .str c.ticketId),
      ("customer_id", .str c.customerId), ("requested_refund_amount", .num c.ticketAmount),
      ("purchase_reference", .str c.ticketId), ("customer_message_summary", .str c.ticketReason),
      ("policy_context", .str "standard")]

def riskPeer : Peer where
  capabilityId := riskCapabilityId
  agentId := riskPeerAgentId
  unavailable := "No published card for " ++ riskPeerAgentId ++ " declares capability " ++
    riskCapabilityId
  taskId := (·.riskTaskId)
  setTaskId := fun t c => { c with riskTaskId := some t }
  input := fun c => .obj
    [("case_id", .str (uuidStr c.correlationId)), ("ticket_id", .str c.ticketId),
      ("customer_id", .str c.customerId), ("requested_refund_amount", .num c.ticketAmount),
      ("customer_message_summary", .str c.ticketReason)]

/-- `validate_billing_capability` and `validate_risk_capability`. -/
def validateCapability (peer : Peer) : M AgentCard := do
  let found ← Coro.request Request.discoverAgents
  let cards ← Coro.ofExcept found
  match (findCapable peer.capabilityId cards).find? fun card => card.agentId == peer.agentId with
  | some card => pure card
  | none => throw peer.unavailable

/-- The stable idempotency key: the task id of the case, minted from its correlation id the
    first time. -/
def mintTaskId (S : Settings) (peer : Peer) (c : ResolutionCase) : M UUID := do
  let cur ← deref c
  match peer.taskId cur with
  | some t => pure t
  | none =>
      let t := S.uuid5 c.correlationId peer.capabilityId
      assign c (peer.setTaskId t)
      pure t

def taskRequestFor (peer : Peer) (c : ResolutionCase) (taskId : UUID) : TaskRequest :=
  { taskId
    capability := peer.capabilityId
    requesterAgentId := agentId
    targetAgentId := peer.agentId
    input :=
      { role := .user
        parts := [{ type := .data, data := some (peer.input c), validateConditionalFields := rfl }]
        validatePartsNonempty := by simp } }

/-- `request_billing_analysis` and `request_risk_analysis`. -/
def requestAnalysis (S : Settings) (peer : Peer) (c : ResolutionCase) (ticketEnvelope : EventRef) :
    M Unit := do
  let _ ← validateCapability peer
  let taskId ← mintTaskId S peer c
  let cur ← deref c
  let _ ← publish (.taskRequest (taskRequestFor peer cur taskId)) c.correlationId
    ticketEnvelope.eventId
  pure ()

/-- The `refund-review.requested` announcement. -/
def announceReviews (c : ResolutionCase) (ticketEnvelope : EventRef) : M Unit := do
  let cur ← deref c
  match cur.billingTaskId, cur.riskTaskId with
  | some billingTaskId, some riskTaskId => do
      let requestedAt ← datetimeNow
      let _ ← publish (.refundReviewRequested
        { caseId := cur.correlationId
          ticketId := cur.ticketId
          customerId := cur.customerId
          requestedReviews := [.billing, .risk]
          billingTaskId
          riskTaskId
          timeoutSeconds := some delegationTimeoutSeconds
          requestedAt }) c.correlationId ticketEnvelope.eventId
      pure ()
  | _, _ => pure ()

def delegate (S : Settings) (c : ResolutionCase) (ticketEnvelope : EventRef) : M Unit := do
  let billingTaskId ← mintTaskId S billingPeer c
  let riskTaskId ← mintTaskId S riskPeer c
  updateStore "KeyError" fun st => st.addPendingTask c.caseId billingTaskId
  updateStore "KeyError" fun st => st.addPendingTask c.caseId riskTaskId
  requestAnalysis S billingPeer c ticketEnvelope
  requestAnalysis S riskPeer c ticketEnvelope
  announceReviews c ticketEnvelope

end RefundOps.Resolution
