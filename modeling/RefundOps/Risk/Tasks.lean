import RefundOps.Foundation.Envelope
import RefundOps.Foundation.Fields
import RefundOps.Foundation.Runtime
import RefundOps.Risk.Service

/-!
# The task of the risk agent

`assess` of `service.py`, from the parts of a message to an assessment, and the Kafka entrypoint
`main.py` with the handler of the one capability: it assesses, publishes the verdict as a domain
event of its own, and only then answers. The signals come from the seeded dataset.
-/

set_option autoImplicit false

namespace RefundOps.Risk

/-- `RiskAssessmentRequest.model_validate`; other keys are ignored. -/
def RiskAssessmentRequest.modelValidate (P : Parsers) (j : Json) :
    Option RiskAssessmentRequest := do
  let caseId ← j.required "case_id" Json.asUuid
  let ticketId ← j.required "ticket_id" Json.nonEmpty
  let customerId ← j.required "customer_id" Json.nonEmpty
  let requestedRefundAmount ←
    j.optional "requested_refund_amount" (Json.nonNegative (Json.asDecimal P))
  let customerMessageSummary ← j.optional "customer_message_summary" Json.asStr
  let accountAgeDays ← j.optional "account_age_days" (Json.asNat P)
  let metadata ← j.optional "metadata" Json.asDict
  pure { caseId, ticketId := ticketId.val, customerId := customerId.val, requestedRefundAmount
         customerMessageSummary, accountAgeDays, metadata
         ticketIdNonempty := ticketId.property, customerIdNonempty := customerId.property }

structure Backend where
  /-- `RiskAssessmentRequest.model_validate(data)`, or `str(exc)`. -/
  assessmentRequest : Json → Except String RiskAssessmentRequest
  /-- `load_signals`, of a customer id. -/
  loadSignals : String → Option RiskSignals

/-- The texts of pydantic's errors are its own. -/
def runningBackend (P : Parsers) (validationError : Json → String)
    (loadSignals : String → Option RiskSignals) : Backend where
  assessmentRequest j :=
    match RiskAssessmentRequest.modelValidate P j with
    | some request => .ok request
    | none => .error (validationError j)
  loadSignals := loadSignals

section Service

variable (B : Backend)

/-- `validate_input`. -/
def validateInput (parts : List A2APart) : Except String RiskAssessmentRequest :=
  firstData B.assessmentRequest parts

theorem twoTenths_inBounds : 0 ≤ (2 / 10 : ℚ) ∧ (2 / 10 : ℚ) ≤ 1 := by norm_num

/-- `_missing_data_assessment`. -/
def missingDataAssessment (customerId : String) : RiskAssessment where
  riskLevel := .low
  recommendedAction := .requestMoreInformation
  confidence := ⟨2 / 10, twoTenths_inBounds⟩
  evidence :=
    [{ source := "fraud_policy"
       description := "Data-completeness gate: no risk signal record found"
       value := .obj
         [("reason", .str ("no risk signals for customer_id=" ++ Text.repr customerId)),
          ("rule", .str "data-completeness-gate")] }]
  policyReferences := []
  reasoningSummary := "No risk signal record found for customer_id=" ++ Text.repr customerId ++
    ". Unable to assess risk without owned signal data (FR-010). Manual review required."
  requiresHumanReview := true

/-- The assessment of a request; the running agent takes the policy of `policy.py`. -/
def assessment (request : RiskAssessmentRequest) : RiskAssessment :=
  match B.loadSignals request.customerId with
  | none => missingDataAssessment request.customerId
  | some signals => assessSignals signals request none

def assess (parts : List A2APart) : Except String (RiskAssessment × RiskAssessmentRequest) := do
  let request ← validateInput B parts
  pure (assessment B request, request)

end Service

/-- The fields of a narrative, where there is one. -/
def narrativeFields : Option RiskNarrative → List (String × Json)
  | none => []
  | some n => [("enriched_reasoning_summary", .str n.polishedSummary),
      ("evidence_explanation", .str n.evidenceExplanation)]

def evidenceDump (e : EvidenceItem) : Json :=
  .obj [("source", .str e.source), ("description", .str e.description), ("value", e.value)]

/-- The data of the part that `build_a2a_output` makes. -/
def outputData (r : RiskAssessment) (narrative : Option RiskNarrative) : Json :=
  .obj ([("recommendation", .str r.riskLevel.value), ("score", .num r.confidence.val),
    ("confidence", .num r.confidence.val), ("evidence", .arr (r.evidence.map evidenceDump)),
    ("reasoning_summary", .str r.reasoningSummary),
    ("requires_human_review", .bool r.requiresHumanReview),
    ("policy_references", .arr (r.policyReferences.map .str))] ++ narrativeFields narrative)

def buildA2aOutput (r : RiskAssessment) (narrative : Option RiskNarrative) : A2AMessage where
  role := .agent
  parts := [{ type := .data, data := some (outputData r narrative)
              validateConditionalFields := Option.isSome_some }]
  validatePartsNonempty := List.cons_ne_nil _ _

/-! ## The Kafka entrypoint -/

def riskAgentId : String := "risk-fraud-agent"

def assessCapability : String := "assess_fraud_risk"

/-- `build_agent_card`, in the environment `env`. -/
def buildAgentCard (env : String) : AgentCard where
  agentId := riskAgentId
  name := "Risk Fraud Agent"
  description := "Assesses fraud risk for refund requests based on owned risk/fraud signals."
  version := "1.0.0"
  endpointTopic := resolveTopic env "agent" riskAgentId "task.requested"
  capabilities :=
    [{ id := assessCapability
       name := "Assess Fraud Risk"
       description := "Validates the structured refund risk request, loads owned risk/fraud signals, " ++
         "and returns a deterministic risk assessment (low / elevated / high) with " ++
         "confidence score, evidence, policy references, and a human-review flag. " ++
         "Descriptive intent: assess_refund_risk."
       tags := ["risk", "fraud", "refund"] }]

theorem assessCapability_declared :
    ∀ c ∈ [assessCapability], c ∈ [assessCapability] := fun _ h => h

/-- The runtime that `main` serves. -/
def riskRuntime : Runtime.AgentRuntime where
  agentId := riskAgentId
  capabilityIds := [assessCapability]
  handlers := [assessCapability]
  declared := assessCapability_declared

example (env : String) :
    (Runtime.AgentRuntime.init riskAgentId (buildAgentCard env)).handler assessCapability =
      .ok riskRuntime := rfl

/-- What the handler asks of others. -/
structure Services where
  /-- What the language model makes of an assessment, for a task; nothing where it is turned off or
      fails. -/
  narrative : RiskAssessment → RiskAssessmentRequest → UUID → Option RiskNarrative
  /-- `_domain_pub.publish`, of a payload with the case and the task it belongs to. -/
  publish : RiskReviewCompletedPayload → UUID → UUID → Except String Unit

section Handler

variable (B : Backend) (services : Services)

/-- `handle_risk`. -/
def handleRisk (req : TaskRequest) : Except String A2AMessage := do
  let (assessment, request) ← assess B req.input.parts
  let narrative := services.narrative assessment request req.taskId
  services.publish (toResultPayload assessment request narrative) request.caseId req.taskId
  pure (buildA2aOutput assessment narrative)

end Handler

end RefundOps.Risk
