import RefundOps.Billing.Tasks
import RefundOps.Llm.Narratives

/-!
# The narrative of an analysis

`llm_summary.py`: what the model is asked about a recommendation, and the handler of `main.py` with
the model in it. To the handler of `Tasks.lean` the model is a function that may give a narrative
(`handleEligibilityWith_eq`).
-/

set_option autoImplicit false

namespace RefundOps.Billing

open Llm (Narrator Provider)

/-- The stable instruction block. -/
def instructions : String :=
  "You are a billing-analysis assistant for a refund eligibility system.\n\n" ++
  ("Given a deterministic refund eligibility recommendation (recommendation, confidence,\n" ++
    "eligible_refund_amount, evidence items, and policy references), produce a clear,\n" ++
    "concise narrative that:\n\n" ++
    "1. **polished_summary**: Rewrite the reasoning_summary into a polished 2-4 sentence\n" ++
    "   paragraph suitable for a human reviewer. Reference the fired policy rules by ID\n" ++
    "   (e.g. RP-001, RP-002) and explain WHY they contribute to the overall recommendation.\n" ++
    "   Include the subscription, invoice, payment, and entitlement statuses in context.\n" ++
    "   Do NOT invent facts — ground every claim in the provided evidence.\n\n" ++
    "2. **evidence_explanation**: Summarize the evidence items into a cohesive explanation\n" ++
    "   that a non-technical reviewer can understand. Group related billing signals\n" ++
    "   (e.g. subscription status + payment status = account health). Keep it factual\n" ++
    "   and grounded.\n\n" ++
    "CONSTRAINTS:\n" ++
    "- Do NOT suggest a different recommendation, confidence, or eligible_refund_amount.\n" ++
    "- Do NOT fabricate evidence or policy rules not present in the input.\n" ++
    "- Keep each field under 500 characters.\n" ++
    "- Return valid JSON matching the output schema.\n")

/-- `str(rec.eligible_refund_amount)`: an approval has a decimal made from a float, `49.0` for 49, and
    every other recommendation has `Decimal("0.00")`. -/
def refundAmountStr (r : EligibilityRecommendation) : String :=
  if r.recommendation = .approveFullRefund then Text.floatStr r.eligibleRefundAmount else "0.00"

/-- `_build_grounding_inputs`. -/
def buildGroundingInputs {Obj : Type} (ofJson : Json → Obj) (r : EligibilityRecommendation)
    (request : RefundEligibilityRequest) : Llm.Kwargs Obj :=
  [("recommendation", ofJson (.str r.recommendation.value)),
    ("confidence", ofJson (.num r.confidence.val)),
    ("reasoning_summary", ofJson (.str r.reasoningSummary)),
    ("requires_human_review", ofJson (.bool r.requiresHumanReview)),
    ("eligible_refund_amount", ofJson (.str (refundAmountStr r))),
    ("evidence", ofJson (.arr (r.evidence.map evidenceDump))),
    ("policy_references", ofJson (.arr (r.policyReferences.map .str))),
    ("subscription_status", ofJson (.str r.subscriptionStatus)),
    ("invoice_status", ofJson (.str r.invoiceStatus)),
    ("payment_status", ofJson (.str r.paymentStatus)),
    ("entitlement_status", ofJson (.str r.entitlementStatus)),
    ("usage_level", ofJson (.str r.usageLevel)),
    ("refund_window_status", ofJson (.str r.refundWindowStatus)),
    ("ticket_id", ofJson (.str request.ticketId)),
    ("customer_id", ofJson (.str request.customerId)),
    ("case_id", ofJson (.str (uuidStr request.caseId)))]

/-- `_make_fallback`. -/
def fallbackNarrative (r : EligibilityRecommendation) : BillingNarrative where
  polishedSummary := r.reasoningSummary
  evidenceExplanation := Llm.evidenceDigest r.evidence

section Model

variable (N : Narrator BillingNarrative) (P : Provider N.env)

/-- The request that is made of a recommendation. -/
def narrativeRequest (r : EligibilityRecommendation) (request : RefundEligibilityRequest)
    (causationId : Option UUID) : Option (Llm.AssistiveRequest N.S N.Obj) :=
  N.request billingAgentId instructions (buildGroundingInputs N.lib.ofJson r request)
    (fallbackNarrative r) request.caseId causationId (Llm.strip_append_ne_empty (by decide +kernel) _)

/-- `enrich_recommendation`, as the handler calls it. -/
def enrichRecommendation (r : EligibilityRecommendation) (request : RefundEligibilityRequest)
    (causationId : Option UUID) : Option N.Obj :=
  N.narrate P (narrativeRequest N r request causationId)

/-- `handle_eligibility`, with its model. -/
def handleEligibilityWith (B : Backend)
    (publish : BillingRefundAnalysisCompletedPayload → UUID → UUID → Except String Unit) (now : Time)
    (req : TaskRequest) : Except String A2AMessage := do
  let a ← analyze B now req.input.parts
  let narrative ← N.read (enrichRecommendation N P a.recommendation a.request (some req.taskId))
  publish (buildResultPayload a.request a.recommendation a.facts narrative) a.request.caseId req.taskId
  pure (buildA2aOutput a.recommendation narrative)

/-- The model as a service of the handler. -/
def modelServices
    (publish : BillingRefundAnalysisCompletedPayload → UUID → UUID → Except String Unit) :
    Services where
  narrative r request taskId :=
    (enrichRecommendation N P r request (some taskId)).bind N.schema.fields
  publish

end Model

section Properties

variable {N : Narrator BillingNarrative} {P : Provider N.env}
  (publish : BillingRefundAnalysisCompletedPayload → UUID → UUID → Except String Unit)

/-- What the model adds to a recommendation. -/
theorem modelServices_narrative (r : EligibilityRecommendation) (request : RefundEligibilityRequest)
    (taskId : UUID) :
    Llm.NarratedBy N P (narrativeRequest N r request (some taskId)) (fallbackNarrative r)
      ((modelServices N P publish).narrative r request taskId) := by
  obtain ⟨_, -, rfl, horigin⟩ := Llm.narrate_cases N P (narrativeRequest N r request (some taskId)) rfl
  exact horigin

theorem read_enrichRecommendation (r : EligibilityRecommendation) (request : RefundEligibilityRequest)
    (taskId : UUID) : N.read (enrichRecommendation N P r request (some taskId)) =
      .ok ((modelServices N P publish).narrative r request taskId) := by
  obtain ⟨_, hread, rfl, -⟩ := Llm.narrate_cases N P (narrativeRequest N r request (some taskId)) rfl
  exact hread

/-- **The handler with its model is the handler with a service.** -/
theorem handleEligibilityWith_eq {publish} {B : Backend} {now : Time} (req : TaskRequest) :
    handleEligibilityWith N P B publish now req =
      handleEligibility B (modelServices N P publish) now req := by
  unfold handleEligibilityWith handleEligibility
  cases analyze B now req.input.parts with
  | error exc => rfl
  | ok a =>
    simp only [bind, Except.bind, read_enrichRecommendation publish]
    rfl

end Properties

end RefundOps.Billing
