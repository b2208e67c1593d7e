import RefundOps.Llm.Runtime
import RefundOps.Resolution.ResponseDrafter
import RefundOps.Resolution.TicketClassifier

/-!
# What the agent asks the model

`classify_with_llm` and `draft_with_llm`: one request each to the LLM runtime, with a deterministic
fallback, and what is made of the result. Both look first whether the value is an instance of their
schema. A result that was served from the store is not, and falls to the deterministic value.

A pydantic model is a `ModelClass`: its instances are made from field values that pass its
validators, and the field values can be read off an instance.
-/

set_option autoImplicit false

namespace RefundOps.Resolution

/-- A pydantic model with the field values `α`. -/
structure ModelClass {S Obj : Type} (lib : Llm.Library S Obj) (α : Type) where
  schema : S
  /-- The instance with these field values. -/
  new : α → Obj
  /-- The field values of an object, if it is an instance. -/
  fields : Obj → Option α
  fields_new : ∀ a, fields (new a) = some a
  isInstance_iff : ∀ value, lib.IsInstance schema value ↔ (fields value).isSome = true

section Requests

variable {S Obj : Type} {lib : Llm.Library S Obj}

/-! ## Classifying a ticket -/

/-- The deterministic triage, in the terms of the schema. -/
def fallbackClassification (ticket : SupportTicketCreatedPayload) : TicketClassification :=
  { issueType := (classify ticket).issueType
    needsRefundReview := (classify ticket).needsRefundReview
    confidence := (classify ticket).confidence
    rationale := (classify ticket).rationale
    matchedSignals := (classify ticket).matchedSignals }

def classifyRequest (K : ModelClass lib TicketClassification) (ticket : SupportTicketCreatedPayload)
    (correlationId causationId : UUID) (hid : correlationId < 2 ^ 128) :
    Llm.AssistiveRequest S Obj where
  taskKind := .classify
  agentId := agentId
  correlationId
  causationId
  instructions :=
    "Classify this customer support ticket. Determine the issue_type, " ++
    "whether it needs refund review, your confidence level, a rationale, " ++
    "and any matched signals from the ticket text."
  groundingInputs :=
    [("ticket_id", lib.ofJson (.str ticket.ticketId)),
      ("customer_id", lib.ofJson (.str ticket.customerId)),
      ("reason", lib.ofJson (.str ticket.reason)),
      ("amount", lib.ofJson (.num ticket.amount)),
      ("currency", lib.ofJson (.str ticket.currency))]
  outputSchema := K.schema
  fallback := .ok (K.new (fallbackClassification ticket))
  correlationIdOk := hid
  instructionsNonEmpty := Text.strip_ne_empty (String.ofList_toList).symm (by decide +kernel)

/-! ## Drafting a response -/

def optionJson {α : Type} (f : α → Json) : Option α → Json
  | some a => f a
  | none => .null

/-- `allowed_facts.model_dump(mode="json")`. -/
def AllowedFacts.dump (facts : AllowedFacts) : Json :=
  .obj [("refund_amount", optionJson .num facts.refundAmount),
    ("currency", optionJson .str facts.currency),
    ("order_reference", optionJson .str facts.orderReference),
    ("billing_outcome_summary", optionJson .str facts.billingOutcomeSummary),
    ("eligibility", optionJson .bool facts.eligibility)]

/-- `tone.model_dump(mode="json")`. -/
def ToneConfig.dump (tone : ToneConfig) : Json :=
  .obj [("brand_name", .str tone.brandName), ("greeting", .str tone.greeting),
    ("signoff", .str tone.signoff), ("formality", .str tone.formality),
    ("apologetic", .bool tone.apologetic)]

def draftRequest (K : ModelClass lib ResponseDraft) (outcome : ResolutionOutcome)
    (facts : AllowedFacts) (tone : ToneConfig) (ticketSummary : String)
    (correlationId causationId : UUID) (hid : correlationId < 2 ^ 128) :
    Llm.AssistiveRequest S Obj where
  taskKind := .draftResponse
  agentId := agentId
  correlationId
  causationId
  instructions :=
    "Draft a customer-facing response for this support case. " ++
    "Use ONLY the allowed facts provided. Do NOT reveal internal fields, " ++
    "risk scores, confidence values, or evidence details. " ++
    "The response must be professional and empathetic."
  groundingInputs :=
    [("outcome", lib.ofJson (.str outcome.value)), ("allowed_facts", lib.ofJson facts.dump),
      ("tone", lib.ofJson tone.dump), ("ticket_summary", lib.ofJson (.str ticketSummary))]
  outputSchema := K.schema
  fallback :=
    match draftStructuredResponse outcome facts tone with
    | .ok draft => .ok (K.new draft)
    | .error exc => .error (.other exc)
  correlationIdOk := hid
  instructionsNonEmpty := Text.strip_ne_empty (String.ofList_toList).symm (by decide +kernel)

end Requests

/-! ## The two programs -/

section Programs

variable {env : String} {S Obj : Type} {lib : Llm.Library S Obj}

/-- `classify_with_llm`. -/
def classifyWithLlm (K : ModelClass lib TicketClassification) (auditLib : Llm.AuditLibrary Obj)
    (rt : Llm.LLMRuntime) (ticket : SupportTicketCreatedPayload) (correlationId causationId : UUID)
    (hid : correlationId < 2 ^ 128) : Llm.M env Triage := do
  let result ← Llm.reason lib auditLib rt (classifyRequest K ticket correlationId causationId hid)
  match K.fields result.value with
  | some classification => pure classification.toTriage
  | none => pure (classify ticket)

/-- What is made of a result: the model's draft if its body names nothing internal, the
    deterministic one otherwise. A draft of the fallback, and one in place of a leak, goes to a
    human; the last line does not ask for one. -/
def finishDraft (K : ModelClass lib ResponseDraft) (outcome : ResolutionOutcome)
    (facts : AllowedFacts) (tone : ToneConfig) (result : Llm.AssistiveResult Obj) :
    Except String ResponseDraft :=
  match K.fields result.value with
  | some draft =>
      match assertNoInternalLeak draft.body with
      | .error _ => do
          let draft ← draftStructuredResponse outcome facts tone
          ResponseDraft.validate draft.subject draft.body draft.responseType true
      | .ok () =>
          if result.reasoningPath = .fallback then
            ResponseDraft.validate draft.subject draft.body draft.responseType true
          -- the subject, the type and the flag are the model's own
          else .ok draft
  | none => draftStructuredResponse outcome facts tone

/-- `draft_with_llm`. -/
def draftWithLlm (K : ModelClass lib ResponseDraft) (auditLib : Llm.AuditLibrary Obj)
    (rt : Llm.LLMRuntime) (outcome : ResolutionOutcome) (facts : AllowedFacts)
    (toneConfig : Option ToneConfig) (ticketSummary : String) (correlationId causationId : UUID)
    (hid : correlationId < 2 ^ 128) : Llm.M env ResponseDraft := do
  let tone := toneConfig.getD defaultTone
  let result ← Llm.reason lib auditLib rt
    (draftRequest K outcome facts tone ticketSummary correlationId causationId hid)
  match finishDraft K outcome facts tone result with
  | .ok draft => pure draft
  | .error exc => throw (.other exc)

end Programs

/-! ## A sample

One model with the field values `α`, and plain data beside its instances. -/

section Sample

variable {α : Type}

def sampleModelLibrary (validate : Json → Except String α) (dump : α → Json)
    (loads : String → Except Llm.LoadsError Json) : Llm.Library Unit (α ⊕ Json) where
  IsInstance _ value := value.isLeft = true
  modelValidate _ data := (validate data).map .inl
  modelJsonSchema _ := .ok (.obj [("type", .str "object")])
  modelDump
    | .inl a => .ok (dump a)
    | .inr _ => .error "object has no attribute 'model_dump'"
  ofJson := .inr
  asStr
    | .inr (.str text) => some text
    | _ => none
  loads
  dumps _ := "\x7b\"type\": \"object\"\x7d"
  dumpsIndented _ := "\x7b\n  \"type\": \"object\"\n\x7d"
  dumpsExamples _ := .ok "[]"
  dumpsGrounding _ := "\x7b\x7d"
  dumpsGroundingIndented _ := "\x7b\x7d"
  dumpsGroundingSorted _ := "\x7b\x7d"
  digest text := if text = "\x7b\x7d" then "44136fa355b3678a" else ":" ++ text
  lower := Text.lower
  isDigit := Char.isDigit
  isInstance_of_validate {_ data value} h := by
    cases hv : validate data with
    | error exc =>
      rw [hv] at h
      cases h
    | ok a =>
      rw [hv] at h
      cases h
      rfl
  not_isInstance_ofJson _ _ h := by cases h

def sampleClass (validate : Json → Except String α) (dump : α → Json)
    (loads : String → Except Llm.LoadsError Json) :
    ModelClass (sampleModelLibrary validate dump loads) α where
  schema := ()
  new := .inl
  fields := Sum.getLeft?
  fields_new _ := rfl
  isInstance_iff value := by
    cases value with
    | inl a => exact iff_of_true rfl rfl
    | inr data => exact iff_of_false nofun nofun

def sampleAuditOf (α : Type) : Llm.AuditLibrary (α ⊕ Json) where
  isModel := Sum.isLeft
  str _ := "\x7b\x7d"
  scrubDigest digest := digest
  scrubSummary summary := summary
  dumpRecord _ := .ok (.obj [])
  dumpAudit _ := .obj []
  dumpInvocation _ := .obj []

end Sample

end RefundOps.Resolution
