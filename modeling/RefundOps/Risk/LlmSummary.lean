import RefundOps.Llm.Narratives
import RefundOps.Risk.Tasks

/-!
# The narrative of an assessment

`llm_summary.py` of the risk agent, and the handler of `main.py` with the model in it.
-/

set_option autoImplicit false

namespace RefundOps.Risk

open Llm (Narrator Provider)

/-- The stable instruction block. -/
def instructions : String :=
  "You are a risk-analysis assistant for a refund-fraud detection system.\n\n" ++
  ("Given a deterministic risk assessment (risk_level, recommended_action, confidence,\n" ++
    "evidence items, and policy references), produce a clear, concise narrative that:\n\n" ++
    "1. **polished_summary**: Rewrite the reasoning_summary into a polished 2-4 sentence\n" ++
    "   paragraph suitable for a human reviewer. Reference the fired policy rules by ID\n" ++
    "   (e.g. FP-002, FP-003) and explain WHY they contribute to the overall risk level.\n" ++
    "   Do NOT invent facts — ground every claim in the provided evidence.\n\n" ++
    "2. **evidence_explanation**: Summarize the evidence items into a cohesive explanation\n" ++
    "   that a non-technical reviewer can understand. Group related signals (e.g. velocity\n" ++
    "   + anomaly = behavioral concern). Keep it factual and grounded.\n\n" ++
    "CONSTRAINTS:\n" ++
    "- Do NOT suggest a different risk_level, recommended_action, or confidence.\n" ++
    "- Do NOT fabricate evidence or policy rules not present in the input.\n" ++
    "- Keep each field under 500 characters.\n" ++
    "- Return valid JSON matching the output schema.\n")

/-- `str(recommended_action)`. -/
def RecommendedAction.value : RecommendedAction → String
  | .approveRiskClearance => "approve_risk_clearance"
  | .allowWithCaution => "allow_with_caution"
  | .denyOrEscalate => "deny_or_escalate"
  | .requestMoreInformation => "request_more_information"
  | .manualReview => "manual_review"

/-- `_build_grounding_inputs`. -/
def buildGroundingInputs {Obj : Type} (ofJson : Json → Obj) (assessment : RiskAssessment)
    (request : RiskAssessmentRequest) : Llm.Kwargs Obj :=
  [("risk_level", ofJson (.str assessment.riskLevel.value)),
    ("recommended_action", ofJson (.str assessment.recommendedAction.value)),
    ("confidence", ofJson (.num assessment.confidence.val)),
    ("reasoning_summary", ofJson (.str assessment.reasoningSummary)),
    ("requires_human_review", ofJson (.bool assessment.requiresHumanReview)),
    ("evidence", ofJson (.arr (assessment.evidence.map evidenceDump))),
    ("policy_references", ofJson (.arr (assessment.policyReferences.map .str))),
    ("ticket_id", ofJson (.str request.ticketId)),
    ("customer_id", ofJson (.str request.customerId)),
    ("case_id", ofJson (.str (uuidStr request.caseId)))]

/-- `_make_fallback`. -/
def fallbackNarrative (assessment : RiskAssessment) : RiskNarrative where
  polishedSummary := assessment.reasoningSummary
  evidenceExplanation := Llm.evidenceDigest assessment.evidence

section Model

variable (N : Narrator RiskNarrative) (P : Provider N.env)

/-- The request that is made of an assessment. -/
def narrativeRequest (assessment : RiskAssessment) (request : RiskAssessmentRequest)
    (causationId : Option UUID) : Option (Llm.AssistiveRequest N.S N.Obj) :=
  N.request riskAgentId instructions (buildGroundingInputs N.lib.ofJson assessment request)
    (fallbackNarrative assessment) request.caseId causationId
    (Llm.strip_append_ne_empty (by decide +kernel) _)

/-- `enrich_assessment`, as the handler calls it. -/
def enrichAssessment (assessment : RiskAssessment) (request : RiskAssessmentRequest)
    (causationId : Option UUID) : Option N.Obj :=
  N.narrate P (narrativeRequest N assessment request causationId)

/-- `handle_risk`, with its model. -/
def handleRiskWith (B : Backend)
    (publish : RiskReviewCompletedPayload → UUID → UUID → Except String Unit) (req : TaskRequest) :
    Except String A2AMessage := do
  let (assessment, request) ← assess B req.input.parts
  let narrative ← N.read (enrichAssessment N P assessment request (some req.taskId))
  publish (toResultPayload assessment request narrative) request.caseId req.taskId
  pure (buildA2aOutput assessment narrative)

/-- The model as a service of the handler. -/
def modelServices (publish : RiskReviewCompletedPayload → UUID → UUID → Except String Unit) :
    Services where
  narrative assessment request taskId :=
    (enrichAssessment N P assessment request (some taskId)).bind N.schema.fields
  publish

end Model

section Properties

variable {N : Narrator RiskNarrative} {P : Provider N.env}
  (publish : RiskReviewCompletedPayload → UUID → UUID → Except String Unit)

/-- What the model adds to an assessment. -/
theorem modelServices_narrative (assessment : RiskAssessment) (request : RiskAssessmentRequest)
    (taskId : UUID) :
    Llm.NarratedBy N P (narrativeRequest N assessment request (some taskId))
      (fallbackNarrative assessment)
      ((modelServices N P publish).narrative assessment request taskId) := by
  obtain ⟨_, -, rfl, horigin⟩ := Llm.narrate_cases N P
    (narrativeRequest N assessment request (some taskId)) rfl
  exact horigin

theorem read_enrichAssessment (assessment : RiskAssessment) (request : RiskAssessmentRequest)
    (taskId : UUID) : N.read (enrichAssessment N P assessment request (some taskId)) =
      .ok ((modelServices N P publish).narrative assessment request taskId) := by
  obtain ⟨_, hread, rfl, -⟩ := Llm.narrate_cases N P
    (narrativeRequest N assessment request (some taskId)) rfl
  exact hread

/-- **The handler with its model is the handler with a service.** -/
theorem handleRiskWith_eq {publish} {B : Backend} (req : TaskRequest) :
    handleRiskWith N P B publish req = handleRisk B (modelServices N P publish) req := by
  unfold handleRiskWith handleRisk
  cases assess B req.input.parts with
  | error exc => rfl
  | ok a =>
    simp only [bind, Except.bind, read_enrichAssessment publish]
    rfl

end Properties

end RefundOps.Risk
