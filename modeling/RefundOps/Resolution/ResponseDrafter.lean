import RefundOps.Resolution.Models

/-!
# Customer-facing templates

The fixed texts of `response_drafter.py` and the guard that keeps internal field names out of
them. No template trips the guard (`draftCustomerResponse_leakFree`), so drafting a response
never raises and its value is the template. The structured drafter adds what the tone says around
the template, and the amount.
-/

set_option autoImplicit false

namespace RefundOps.Resolution

/-- `_TEMPLATES`. -/
def templates : ResolutionOutcome → String
  | .approveRefund =>
      "We have reviewed your request and are pleased to approve your refund. " ++
      "Please allow 3-5 business days for the amount to appear in your account."
  | .denyRefund =>
      "We have reviewed your request. Based on our review, we are unable to process " ++
      "a refund at this time. If you have further questions, please contact our support team."
  | .escalateHuman =>
      "Thank you for contacting us. Your case has been forwarded to a specialist " ++
      "who will review your request and reach out to you shortly."
  | .directResponse =>
      "Thank you for reaching out. Our team is happy to assist you. " ++
      "Please let us know if you need any further information."
  | .offerPartialCredit =>
      "We have reviewed your request. We are able to offer a partial credit " ++
      "to your account as a resolution. A specialist will reach out with details."
  | .requestMoreInformation =>
      "Thank you for contacting us. To better assist you, we need some additional " ++
      "information. A support specialist will be in touch shortly."

/-- `_assert_no_internal_leak`: the first field name found in the text, as the error. -/
def assertNoInternalLeak (text : String) : Except String Unit :=
  match internalOnlyDraftFields.find? fun field => Text.contains field (Text.lower text) with
  | some field => .error s!"Internal field '{field}' leaked into customer draft"
  | none =>
      match fraudScoringFields.find? fun field => Text.contains field (Text.lower text) with
      | some field => .error s!"Fraud-scoring field '{field}' leaked into customer draft"
      | none => .ok ()

def draftCustomerResponse (outcome : ResolutionOutcome) : String := templates outcome

/-- Every template, and the field names, letter by letter. -/
theorem templates_letters (outcome : ResolutionOutcome) :
    ∃ (l : List Char) (ns : List (List Char)), templates outcome = String.ofList l ∧
      internalOnlyDraftFields ++ fraudScoringFields = ns.map String.ofList ∧
      l.any (fun c => !Text.isSpace c) = true ∧
      ∀ n ∈ ns, Text.isInfix n (l.flatMap Text.lowerChar) = false := by
  cases outcome
  all_goals
    refine ⟨_, [_, _, _, _, _, _, _, _, _],
      (congrArg₂ (· ++ ·) rfl rfl : _ = String.ofList _ ++ String.ofList _).trans
        String.ofList_append.symm, rfl, ?_⟩
    decide +kernel

theorem draftCustomerResponse_leakFree (outcome : ResolutionOutcome) :
    assertNoInternalLeak (draftCustomerResponse outcome) = .ok () := by
  obtain ⟨l, ns, hl, hns, -, hfree⟩ := templates_letters outcome
  have hnone : ∀ fields : List String,
      (∀ field ∈ fields, field ∈ internalOnlyDraftFields ++ fraudScoringFields) →
      fields.find? (fun field => Text.contains field (Text.lower (templates outcome))) = none := by
    intro fields hsub
    rw [List.find?_eq_none]
    intro field hmem
    have hin := hsub field hmem
    rw [hns, List.mem_map] at hin
    obtain ⟨n, hn, rfl⟩ := hin
    rw [Text.contains_lower rfl hl, hfree n hn]
    exact Bool.false_ne_true
  unfold assertNoInternalLeak draftCustomerResponse
  rw [hnone _ fun field h => List.mem_append_left _ h]
  dsimp only
  rw [hnone _ fun field h => List.mem_append_right _ h]

/-- `requires_human_approval`. -/
def requiresHumanApproval (outcome : ResolutionOutcome) : Bool :=
  outcome ∈ humanApprovalOutcomes

/-- The draft that follows a decision, as `_emit_decision_and_draft` builds it. -/
def draftFor (decision : CustomerResponseDecisionPayload) (correlationId decisionEventId : UUID)
    (draftedAt : Time) : CustomerResponseDraftedPayload :=
  { caseId := correlationId
    ticketId := decision.ticketId
    customerId := decision.customerId
    decisionEventId
    outcome := decision.outcome
    draftResponse := decision.customerResponse
    requiresHumanApproval := requiresHumanApproval decision.outcome
    draftedAt }

/-- A decision whose text is the template of its outcome always has a valid draft. -/
theorem draftFor_valid {decision : CustomerResponseDecisionPayload}
    (h : decision.customerResponse = draftCustomerResponse decision.outcome)
    (correlationId decisionEventId : UUID) (draftedAt : Time) :
    (draftFor decision correlationId decisionEventId draftedAt).valid = true := by
  obtain ⟨l, ns, hl, -, hany, -⟩ := templates_letters decision.outcome
  have hstrip := Text.strip_ne_empty hl hany
  unfold CustomerResponseDraftedPayload.valid draftFor
  rw [h]
  cases ho : decision.outcome <;>
    simp_all [draftCustomerResponse, requiresHumanApproval, humanApprovalOutcomes]

/-! ## The structured drafter -/

inductive ResponseType where
  | refundConfirmation
  | refundDenial
  | escalationAcknowledgement
  | directAnswer
  | partialCreditOffer
  | informationRequest
  deriving DecidableEq, Repr

def ResponseType.value : ResponseType → String
  | .refundConfirmation => "refund_confirmation"
  | .refundDenial => "refund_denial"
  | .escalationAcknowledgement => "escalation_acknowledgement"
  | .directAnswer => "direct_answer"
  | .partialCreditOffer => "partial_credit_offer"
  | .informationRequest => "information_request"

/-- `_OUTCOME_TO_RESPONSE_TYPE`. -/
def outcomeToResponseType : ResolutionOutcome → ResponseType
  | .approveRefund => .refundConfirmation
  | .denyRefund => .refundDenial
  | .escalateHuman => .escalationAcknowledgement
  | .directResponse => .directAnswer
  | .offerPartialCredit => .partialCreditOffer
  | .requestMoreInformation => .informationRequest

structure ToneConfig where
  brandName : String := "Support"
  greeting : String := "Dear Customer,"
  signoff : String := "Best regards,\nThe Support Team"
  formality : String := "friendly"
  apologetic : Bool := true

def defaultTone : ToneConfig := {}

structure AllowedFacts where
  refundAmount : Option ℚ := none
  currency : Option String := none
  orderReference : Option String := none
  billingOutcomeSummary : Option String := none
  eligibility : Option Bool := none

/-- A draft. The response type is any string: only the drafter itself takes it from the table. -/
structure ResponseDraft where
  subject : String
  body : String
  responseType : String
  requiresHumanApproval : Bool
  subjectNonEmpty : Text.strip subject ≠ ""
  bodyNonEmpty : Text.strip body ≠ ""

def ResponseDraft.validate (subject body responseType : String) (requiresHumanApproval : Bool) :
    Except String ResponseDraft :=
  if hs : Text.strip subject = "" then .error "subject must be non-empty"
  else if hb : Text.strip body = "" then .error "body must be non-empty"
  else .ok { subject, body, responseType, requiresHumanApproval
             subjectNonEmpty := hs, bodyNonEmpty := hb }

/-- The template with the amount, where there is one to name. -/
def structuredBody (outcome : ResolutionOutcome) (facts : AllowedFacts) : String :=
  match facts.refundAmount with
  | some amount =>
      if amount ≠ 0 ∧ (outcome = .approveRefund ∨ outcome = .offerPartialCredit) then
        Text.strip (templates outcome ++ " Amount: " ++ Text.floatStr amount ++ " " ++
          facts.currency.getD "")
      else templates outcome
  | none => templates outcome

def draftSubject (tone : ToneConfig) : String :=
  tone.brandName ++ ": Your support request has been reviewed"

def draftBody (tone : ToneConfig) (body : String) : String :=
  tone.greeting ++ "\n\n" ++ body ++ "\n\n" ++ tone.signoff

/-- `draft_structured_response`. The ticket summary it is given is not looked at, and the tone is
    not checked for internal names. -/
def draftStructuredResponse (outcome : ResolutionOutcome) (facts : AllowedFacts)
    (tone : ToneConfig) : Except String ResponseDraft := do
  assertNoInternalLeak (structuredBody outcome facts)
  ResponseDraft.validate (draftSubject tone) (draftBody tone (structuredBody outcome facts))
    (outcomeToResponseType outcome).value (requiresHumanApproval outcome)

end RefundOps.Resolution
