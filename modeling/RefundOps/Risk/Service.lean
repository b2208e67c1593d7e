import RefundOps.Risk.Scoring

/-!
# The result the risk agent publishes

`to_result_payload` of `service.py`. On the wire the recommendation is the level; the recommended
action is not sent.
-/

set_option autoImplicit false

namespace RefundOps.Risk

structure RiskNarrative where
  polishedSummary : String
  evidenceExplanation : String

def toResultPayload (assessment : RiskAssessment) (request : RiskAssessmentRequest)
    (narrative : Option RiskNarrative) : RiskReviewCompletedPayload :=
  { ticketId := request.ticketId
    recommendation := assessment.riskLevel.value
    confidence := assessment.confidence
    evidence := assessment.evidence
    reasoningSummary := assessment.reasoningSummary
    requiresHumanReview := assessment.requiresHumanReview
    enrichedReasoningSummary := narrative.map (·.polishedSummary)
    evidenceExplanation := narrative.map (·.evidenceExplanation) }

/-- The review of a customer whose signals were found, as it goes out. -/
def review (signals : RiskSignals) (request : RiskAssessmentRequest)
    (policy : Option FraudPolicy) (narrative : Option RiskNarrative) :
    RiskReviewCompletedPayload :=
  toResultPayload (assessSignals signals request policy) request narrative

end RefundOps.Risk
