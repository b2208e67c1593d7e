import RefundOps.Billing.RulesEngine

/-!
# The result the billing agent publishes

`build_result_payload` of `service.py`. The narrative of the language model, where there is one,
fills two text fields of its own; everything that binds comes from the recommendation.
-/

set_option autoImplicit false

namespace RefundOps.Billing

structure BillingNarrative where
  polishedSummary : String
  evidenceExplanation : String

def buildResultPayload (request : RefundEligibilityRequest) (r : EligibilityRecommendation)
    (facts : Option BillingFacts) (narrative : Option BillingNarrative) :
    BillingRefundAnalysisCompletedPayload :=
  { caseId := request.caseId
    ticketId := request.ticketId
    customerId := request.customerId
    billingAccountId := (facts.bind (·.subscription)).map (·.subscriptionId)
    subscriptionStatus := r.subscriptionStatus
    invoiceStatus := r.invoiceStatus
    paymentStatus := r.paymentStatus
    entitlementStatus := r.entitlementStatus
    usageLevel := r.usageLevel
    refundWindowStatus := r.refundWindowStatus
    recommendation := r.recommendation.value
    confidence := r.confidence
    evidence := r.evidence
    reasoningSummary := r.reasoningSummary
    requiresHumanReview := r.requiresHumanReview
    eligibleRefundAmount := r.eligibleRefundAmount
    enrichedReasoningSummary := narrative.map (·.polishedSummary)
    evidenceExplanation := narrative.map (·.evidenceExplanation) }

/-- The analysis of a purchase whose facts were found, as it goes out. -/
def analysis (now : Time) (facts : BillingFacts) (request : RefundEligibilityRequest)
    (narrative : Option BillingNarrative) : BillingRefundAnalysisCompletedPayload :=
  buildResultPayload request (evaluate now facts request) (some facts) narrative

end RefundOps.Billing
