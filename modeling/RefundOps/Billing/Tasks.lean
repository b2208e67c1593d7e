import RefundOps.Billing.Service
import RefundOps.Foundation.Envelope
import RefundOps.Foundation.Runtime

/-!
# The task of the billing agent

`analyze` of `service.py`, from the parts of a message to a recommendation, and the Kafka entrypoint
`main.py`, which registers the handler of the one capability: it analyzes, publishes the result as a
domain event of its own, and only then answers. Reading the request out of the data part is pydantic's,
the facts come from the seeded dataset; both are in `Backend`.
-/

set_option autoImplicit false

namespace RefundOps.Billing

structure Backend where
  /-- `RefundEligibilityRequest.model_validate(data)`, or `str(exc)`. -/
  eligibilityRequest : Json → Except String RefundEligibilityRequest
  /-- `load_facts`, of a purchase reference and a customer id. -/
  loadFacts : String → String → Option BillingFacts

/-- What an analysis comes to. -/
structure Analysis where
  request : RefundEligibilityRequest
  recommendation : EligibilityRecommendation
  facts : Option BillingFacts

section Service

variable (B : Backend)

/-- `validate_input`: the first data part that is not empty is the request. -/
def validateInput : List A2APart → Except String RefundEligibilityRequest
  | [] => .error "No valid data part found in input parts (FR-011)"
  | part :: parts =>
    match part.type, part.data with
    | .data, some data => if data.truthy then B.eligibilityRequest data else validateInput parts
    | _, _ => validateInput parts

theorem twoTenths_inBounds : 0 ≤ (2 / 10 : ℚ) ∧ (2 / 10 : ℚ) ≤ 1 := by norm_num

/-- `_missing_data_recommendation`. -/
def missingDataRecommendation (purchaseReference : String) : EligibilityRecommendation where
  recommendation := .requestMoreInformation
  confidence := ⟨2 / 10, twoTenths_inBounds⟩
  evidence :=
    [{ source := "refund_policy"
       description := "Data-completeness gate: no billing record found"
       value := .obj [("reason",
         .str ("no billing record for purchase_reference=" ++ Text.repr purchaseReference))] }]
  policyReferences := []
  reasoningSummary := "No billing record found for purchase_reference=" ++
    Text.repr purchaseReference ++ ". Manual review required (FR-010)."
  requiresHumanReview := true
  eligibleRefundAmount := 0
  subscriptionStatus := "unknown"
  invoiceStatus := "unknown"
  paymentStatus := "unknown"
  entitlementStatus := "unknown"
  usageLevel := "unknown"
  refundWindowStatus := "unknown"

def analyze (now : Time) (parts : List A2APart) : Except String Analysis := do
  let request ← validateInput B parts
  match B.loadFacts request.purchaseReference request.customerId with
  | none =>
    pure { request, recommendation := missingDataRecommendation request.purchaseReference
           facts := none }
  | some facts => pure { request, recommendation := evaluate now facts request, facts := some facts }

end Service

/-- The fields of a narrative, where there is one. -/
def narrativeFields : Option BillingNarrative → List (String × Json)
  | none => []
  | some n => [("enriched_reasoning_summary", .str n.polishedSummary),
      ("evidence_explanation", .str n.evidenceExplanation)]

def evidenceDump (e : EvidenceItem) : Json :=
  .obj [("source", .str e.source), ("description", .str e.description), ("value", e.value)]

/-- The data of the part that `build_a2a_output` makes. -/
def outputData (r : EligibilityRecommendation) (narrative : Option BillingNarrative) : Json :=
  .obj ([("recommendation", .str r.recommendation.value), ("confidence", .num r.confidence.val),
    ("evidence", .arr (r.evidence.map evidenceDump)), ("reasoning_summary", .str r.reasoningSummary),
    ("requires_human_review", .bool r.requiresHumanReview)] ++ narrativeFields narrative)

def outputPart (r : EligibilityRecommendation) (narrative : Option BillingNarrative) : A2APart where
  type := .data
  data := some (outputData r narrative)
  validateConditionalFields := Option.isSome_some

def buildA2aOutput (r : EligibilityRecommendation) (narrative : Option BillingNarrative) :
    A2AMessage where
  role := .agent
  parts := [outputPart r narrative]
  validatePartsNonempty := List.cons_ne_nil _ _

/-! ## The Kafka entrypoint -/

def billingAgentId : String := "billing-entitlement-agent"

def analyzeCapability : String := "analyze_refund_eligibility"

/-- `build_agent_card`, in the environment `env`. -/
def buildAgentCard (env : String) : AgentCard where
  agentId := billingAgentId
  name := "Billing Entitlement Agent"
  description := "Analyzes refund eligibility based on owned billing and entitlement data."
  version := "1.0.0"
  endpointTopic := resolveTopic env "agent" billingAgentId "task.requested"
  capabilities :=
    [{ id := analyzeCapability
       name := "Analyze Refund Eligibility"
       description := "Validates the structured refund request, loads owned billing facts, " ++
         "and returns a deterministic recommendation (approve_full_refund / " ++
         "approve_partial_refund / deny_refund / request_more_information / " ++
         "manual_review) with confidence score, evidence, and policy references."
       tags := ["billing", "entitlement", "refund"] }]

theorem analyzeCapability_declared :
    ∀ c ∈ [analyzeCapability], c ∈ [analyzeCapability] := fun _ h => h

/-- The runtime that `main` serves. -/
def billingRuntime : Runtime.AgentRuntime where
  agentId := billingAgentId
  capabilityIds := [analyzeCapability]
  handlers := [analyzeCapability]
  declared := analyzeCapability_declared

example (env : String) :
    (Runtime.AgentRuntime.init billingAgentId (buildAgentCard env)).handler analyzeCapability =
      .ok billingRuntime := rfl

/-- What the handler asks of others. -/
structure Services where
  /-- What the language model makes of a recommendation, for a task; nothing where it is turned off
      or fails. -/
  narrative : EligibilityRecommendation → RefundEligibilityRequest → UUID → Option BillingNarrative
  /-- `_domain_pub.publish`, of a payload with the case and the task it belongs to. -/
  publish : BillingRefundAnalysisCompletedPayload → UUID → UUID → Except String Unit

section Handler

variable (B : Backend) (services : Services) (now : Time)

/-- The domain event of an analysis, as `handle_eligibility` publishes it for a task. -/
def publishAnalysis (taskId : UUID) (a : Analysis) : Except String Unit :=
  services.publish
    (buildResultPayload a.request a.recommendation a.facts
      (services.narrative a.recommendation a.request taskId))
    a.request.caseId taskId

/-- `handle_eligibility`. -/
def handleEligibility (req : TaskRequest) : Except String A2AMessage := do
  let a ← analyze B now req.input.parts
  publishAnalysis services req.taskId a
  pure (buildA2aOutput a.recommendation (services.narrative a.recommendation a.request req.taskId))

end Handler

/-! ## What comes of a task -/

section Outcome

variable {B : Backend} {services : Services} {now : Time} {req : TaskRequest}

/-- **An analysis fails only on its input**, at whatever time it is made. -/
theorem analyze_isOk_iff {parts : List A2APart} :
    (∃ a, analyze B now parts = .ok a) ↔ ∃ request, validateInput B parts = .ok request := by
  unfold analyze
  cases hv : validateInput B parts with
  | error exc =>
    refine iff_of_false (fun h => ?_) (fun h => ?_)
    · obtain ⟨a, ha⟩ := h
      cases ha
    · obtain ⟨request, hr⟩ := h
      cases hr
  | ok request =>
    refine iff_of_true ?_ ⟨request, rfl⟩
    change ∃ a, (match B.loadFacts request.purchaseReference request.customerId with
      | none => _
      | some facts => _) = Except.ok a
    cases B.loadFacts request.purchaseReference request.customerId with
    | none => exact ⟨_, rfl⟩
    | some facts => exact ⟨_, rfl⟩

/-- The handler returns if the analysis does and the domain event is taken. -/
theorem handleEligibility_isOk_iff :
    (∃ m, handleEligibility B services now req = .ok m) ↔
      ∃ a, analyze B now req.input.parts = .ok a ∧
        publishAnalysis services req.taskId a = .ok () := by
  unfold handleEligibility
  cases ha : analyze B now req.input.parts with
  | error exc =>
    refine iff_of_false (fun h => ?_) (fun h => ?_)
    · obtain ⟨m, hm⟩ := h
      cases hm
    · obtain ⟨a, h, _⟩ := h
      cases h
  | ok a =>
    change (∃ m, (publishAnalysis services req.taskId a).bind _ = Except.ok m) ↔ _
    cases hp : publishAnalysis services req.taskId a with
    | error exc =>
      refine iff_of_false (fun h => ?_) (fun h => ?_)
      · obtain ⟨m, hm⟩ := h
        cases hm
      · obtain ⟨a', h, hp'⟩ := h
        cases h
        rw [hp] at hp'
        cases hp'
    | ok u => exact iff_of_true ⟨_, rfl⟩ ⟨a, rfl, hp⟩

end Outcome

end RefundOps.Billing
