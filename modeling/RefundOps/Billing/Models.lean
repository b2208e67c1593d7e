import RefundOps.Contracts.Payloads

/-!
# The facts of the Billing and Entitlement Agent

`models.py` of `billing_entitlement`: what the agent owns about a purchase, the request it is
asked, and the recommendation it returns. Each record of a purchase may be absent. The two
constants of `policy.py` that the rules compare against are here as well; the texts of the
policy are read by nothing.
-/

set_option autoImplicit false

namespace RefundOps.Billing

def refundWindowDays : Int := 30
def usageHeavyThreshold : ℚ := 8 / 10

inductive Recommendation where
  | approveFullRefund
  | approvePartialRefund
  | denyRefund
  | requestMoreInformation
  | manualReview
  deriving DecidableEq, Repr

/-- `str(recommendation)`. -/
def Recommendation.value : Recommendation → String
  | .approveFullRefund => "approve_full_refund"
  | .approvePartialRefund => "approve_partial_refund"
  | .denyRefund => "deny_refund"
  | .requestMoreInformation => "request_more_information"
  | .manualReview => "manual_review"

structure RefundEligibilityRequest where
  caseId : UUID
  ticketId : String
  customerId : String
  requestedRefundAmount : { x : ℚ // 0 ≤ x }
  purchaseReference : String
  customerMessageSummary : Option String := none
  policyContext : Option String := none

inductive SubscriptionStatus where
  | active
  | cancelled
  | lapsed
  deriving DecidableEq, Repr

def SubscriptionStatus.value : SubscriptionStatus → String
  | .active => "active"
  | .cancelled => "cancelled"
  | .lapsed => "lapsed"

inductive Term where
  | monthly
  | annual
  deriving DecidableEq, Repr

def Term.value : Term → String
  | .monthly => "monthly"
  | .annual => "annual"

structure Subscription where
  subscriptionId : String
  status : SubscriptionStatus
  term : Term
  startedAt : Time
  renewedAt : Option Time := none

structure Invoice where
  invoiceId : String
  purchaseReference : String
  amount : ℚ
  currency : String
  issuedAt : Time
  paid : Bool

structure Payment where
  paymentId : String
  invoiceId : String
  captured : Bool
  amount : ℚ
  reversedAmount : ℚ

inductive EntitlementStatus where
  | active
  | revoked
  deriving DecidableEq, Repr

def EntitlementStatus.value : EntitlementStatus → String
  | .active => "active"
  | .revoked => "revoked"

structure Entitlement where
  entitlementId : String
  subscriptionId : String
  status : EntitlementStatus
  delivered : Bool
  accessGranted : Bool := false
  accessUsed : Bool := false
  featureEnabled : Bool := false
  accountActive : Bool := false

structure ProductUsage where
  usageUnits : ℚ
  allotmentUnits : ℚ

structure BillingFacts where
  subscription : Option Subscription := none
  invoice : Option Invoice := none
  payment : Option Payment := none
  entitlement : Option Entitlement := none
  usage : Option ProductUsage := none

structure EligibilityRecommendation where
  recommendation : Recommendation
  confidence : Confidence
  evidence : List EvidenceItem
  policyReferences : List String
  reasoningSummary : String
  requiresHumanReview : Bool
  eligibleRefundAmount : ℚ
  subscriptionStatus : String
  invoiceStatus : String
  paymentStatus : String
  entitlementStatus : String
  usageLevel : String
  refundWindowStatus : String

/-- `subscription.status if subscription else "unknown"`. -/
def BillingFacts.subscriptionStatus (facts : BillingFacts) : String :=
  match facts.subscription with
  | some s => s.status.value
  | none => "unknown"

/-- `entitlement.status if entitlement else "unknown"`. -/
def BillingFacts.entitlementStatus (facts : BillingFacts) : String :=
  match facts.entitlement with
  | some e => e.status.value
  | none => "unknown"

end RefundOps.Billing
