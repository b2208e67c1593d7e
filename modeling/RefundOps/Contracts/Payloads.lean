import RefundOps.Contracts.Base

/-!
# Domain event payloads

The payload models of `packages/contracts/events/payloads.py`, field by field. A validator that
every value of a model has to pass is a field of the structure where the program builds the
value from literals (`CustomerResponseDecisionPayload`), and a `Bool` check where it builds it
from data that is not known to pass (`CustomerResponseDraftedPayload.valid`): there the failure
is a branch of the program.
-/

set_option autoImplicit false

namespace RefundOps

structure SupportTicketCreatedPayload where
  ticketId : String
  customerId : String
  amount : ℚ
  currency : String
  reason : String
  createdAt : Time

inductive ResolutionOutcome where
  | approveRefund
  | denyRefund
  | escalateHuman
  | directResponse
  | offerPartialCredit
  | requestMoreInformation
  deriving DecidableEq, Repr

/-- `outcome.value`. -/
def ResolutionOutcome.value : ResolutionOutcome → String
  | .approveRefund => "approve_refund"
  | .denyRefund => "deny_refund"
  | .escalateHuman => "escalate_human"
  | .directResponse => "direct_response"
  | .offerPartialCredit => "offer_partial_credit"
  | .requestMoreInformation => "request_more_information"

/-- The final decision, as emitted on `TOPIC_RESOLUTION_DECIDED`. -/
structure CustomerResponseDecisionPayload where
  caseId : UUID
  ticketId : String
  customerId : String
  outcome : ResolutionOutcome
  customerResponse : String
  escalationReason : Option String := none
  billingSummary : Option String := none
  riskSummary : Option String := none
  rationale : String := ""
  validateEscalationReason :
    outcome = .escalateHuman → ∃ reason, escalationReason = some reason ∧ reason ≠ "" := by simp

structure CustomerIssueClassifiedPayload where
  caseId : UUID
  ticketId : String
  customerId : String
  issueType : String
  confidence : Confidence
  requiresBillingReview : Bool
  requiresRiskReview : Bool
  requiresHumanReview : Bool
  reasoningSummary : String

inductive ReviewKind where
  | billing
  | risk
  deriving DecidableEq, Repr

def ReviewKind.value : ReviewKind → String
  | .billing => "billing"
  | .risk => "risk"

structure RefundReviewRequestedPayload where
  caseId : UUID
  ticketId : String
  customerId : String
  requestedReviews : List ReviewKind
  billingTaskId : UUID
  riskTaskId : UUID
  timeoutSeconds : Option Nat
  requestedByAgentId : String := "customer-resolution-agent"
  requestedAt : Time

structure CustomerResponseDraftedPayload where
  caseId : UUID
  ticketId : String
  customerId : String
  decisionEventId : UUID
  outcome : ResolutionOutcome
  draftResponse : String
  requiresHumanApproval : Bool
  draftedByAgentId : String := "customer-resolution-agent"
  draftedAt : Time

/-- `validate_draft_payload`. -/
def CustomerResponseDraftedPayload.valid (p : CustomerResponseDraftedPayload) : Bool :=
  Text.strip p.draftResponse ≠ "" && (p.outcome ≠ .escalateHuman || p.requiresHumanApproval)

structure BillingRefundAnalysisCompletedPayload where
  ticketId : String
  recommendation : String
  confidence : Confidence
  evidence : List EvidenceItem
  reasoningSummary : String
  requiresHumanReview : Bool
  caseId : UUID
  customerId : String
  billingAccountId : Option String := none
  subscriptionStatus : String := "unknown"
  invoiceStatus : String := "unknown"
  paymentStatus : String := "unknown"
  entitlementStatus : String := "unknown"
  usageLevel : String := "unknown"
  refundWindowStatus : String := "unknown"
  eligibleRefundAmount : ℚ := 0
  enrichedReasoningSummary : Option String := none
  evidenceExplanation : Option String := none

structure RiskReviewCompletedPayload where
  ticketId : String
  recommendation : String
  confidence : Confidence
  evidence : List EvidenceItem
  reasoningSummary : String
  requiresHumanReview : Bool
  enrichedReasoningSummary : Option String := none
  evidenceExplanation : Option String := none

end RefundOps
