import RefundOps.Resolution.Models

/-!
# The ticket classifier

`ticket_classifier.py`: the deterministic triage by the refund vocabulary, the schema an LLM
classification has to pass with its mapping to a triage, and the classification event. The two
ways to a triage differ in what they can say: the vocabulary gives one of three fixed triages,
the LLM any triage whose ambiguity follows from its confidence.
-/

set_option autoImplicit false

namespace RefundOps.Resolution

/-- The schema of the LLM's answer. -/
structure TicketClassification where
  issueType : String
  needsRefundReview : Bool
  confidence : Confidence
  rationale : String
  matchedSignals : List String := []

def TicketClassification.toTriage (c : TicketClassification) : Triage :=
  { needsRefundReview := c.needsRefundReview
    ambiguous := Decidable.decide (c.confidence.val < 7 / 10)
    matchedSignals := c.matchedSignals
    rationale := c.rationale
    issueType := c.issueType
    confidence := c.confidence }

/-- Too short to be recognised. -/
def looksAmbiguous (reasonLower : String) : Bool := (Text.strip reasonLower).length < 5

def classify (ticket : SupportTicketCreatedPayload) : Triage :=
  let reasonLower := Text.lower ticket.reason
  let matched := refundIntentSignals.filter fun signal => Text.contains signal reasonLower
  if !matched.isEmpty then
    { needsRefundReview := true
      ambiguous := false
      matchedSignals := matched
      rationale := "Refund intent detected: " ++ Text.join ", " matched
      issueType := "refund_request"
      confidence := ⟨1, one_inBounds⟩ }
  else if reasonLower = "" || looksAmbiguous reasonLower then
    { needsRefundReview := true
      ambiguous := true
      -- the dash of the source was decoded twice before it got into the literal
      rationale := "Ambiguous intent \u00c3\u00a2\u00e2\u201a\u00ac\u00e2\u20ac\u009d" ++
        " defaulted to refund review"
      issueType := "unknown"
      confidence := ⟨5 / 10, by norm_num⟩ }
  else
    { needsRefundReview := false
      ambiguous := false
      rationale := "No refund intent detected"
      issueType := "general_inquiry"
      confidence := ⟨9 / 10, nineTenths_inBounds⟩ }

/-- What `classify_with_llm` makes of an answer that did not come, or that is no
    classification, is the deterministic triage. -/
def triageOfAnswer (ticket : SupportTicketCreatedPayload) : Option TicketClassification → Triage
  | some c => c.toTriage
  | none => classify ticket

def buildIssueClassifiedPayload (ticket : SupportTicketCreatedPayload) (correlationId : UUID)
    (triage : Triage) : CustomerIssueClassifiedPayload :=
  { caseId := correlationId
    ticketId := ticket.ticketId
    customerId := ticket.customerId
    issueType := triage.issueType
    confidence := triage.confidence
    requiresBillingReview := triage.needsRefundReview
    requiresRiskReview := triage.needsRefundReview
    requiresHumanReview := triage.ambiguous
    reasoningSummary := triage.rationale }

end RefundOps.Resolution
