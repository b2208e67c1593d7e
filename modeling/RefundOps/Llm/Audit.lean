import RefundOps.Foundation.Audit
import RefundOps.Llm.Structured

/-!
# The audit of a reasoning step

`audit.py` and `audit_events.py`: the record of a reasoning step, the envelope it is published in, and
the optional event beside it. Both are built from values that have to pass validators of other
modules, and a failure is logged and swallowed.

Neither passes. The outcomes of a record are not among those that `AuditPayload` allows, and the event
types have no version, so `EventEnvelope` refuses them: **no reasoning step leaves a trace on the
bus** (`reasoning_leaves_no_trace`).
-/

set_option autoImplicit false

namespace RefundOps.Llm

/-! ## `AuditPayload(…)` -/

/-- The literals that the field `outcome` of an `AuditPayload` allows. -/
def outcomeOfString : String → Option AuditOutcome
  | "accepted" => some .accepted
  | "rejected" => some .rejected
  | "duplicate_skipped" => some .duplicateSkipped
  | "completed" => some .completed
  | "failed" => some .failed
  | _ => none

def validateAuditPayload (original : EventRef) (outcome : String) (reason : Option String)
    (recordedAt : Time) : Except (List FieldError) AuditPayload :=
  match outcomeOfString outcome with
  | none => .error [{ loc := "outcome", msg := "Input should be 'accepted', 'rejected', " ++
      "'duplicate_skipped', 'completed' or 'failed'" }]
  | some outcome =>
      if h : outcome.reasonOk reason = true then
        .ok { original, outcome, reason, recordedAt, validateReasonRequired := h }
      else .error [{ loc := "", msg := "reason is required" }]

/-! ## The record -/

structure ReasoningAuditRecord (Obj : Type) where
  agentId : String
  correlationId : UUID
  causationId : UUID
  taskKind : TaskKind
  modelId : Option String
  temperature : ℚ
  maxTokens : Int
  promptRef : String
  groundingDigest : Kwargs Obj
  reasoningPath : ReasoningPath
  resultSummary : Json
  tokenUsage : Option TokenUsage
  cacheHit : Bool
  latencyMs : Int
  outcome : String
  failureReason : Option FailureReason
  recordedAt : Time

/-- The payload of an invocation event. `LlmInvocationFailedPayload` is the one with a failure
    reason. -/
structure LlmInvocationPayload where
  agentId : String
  modelId : Option String
  promptId : String
  taskKind : String
  correlationId : UUID
  causationId : UUID
  latencyMs : Int
  tokenUsage : Option TokenUsage
  cacheHit : Bool
  reasoningPath : String
  recordedAt : Time
  rawPrompt : Option String
  failureReason : Option String

/-- What the records are dumped to, and how they are made safe to keep. -/
structure AuditLibrary (Obj : Type) where
  /-- `hasattr(value, "model_dump")`. -/
  isModel : Obj → Bool
  /-- `str(value)`. -/
  str : Obj → String
  scrubDigest : Kwargs Obj → Kwargs Obj
  scrubSummary : Json → Json
  /-- `record.model_dump(mode="json")`. -/
  dumpRecord : ReasoningAuditRecord Obj → Except String Json
  dumpAudit : AuditPayload → Json
  dumpInvocation : LlmInvocationPayload → Json

section Record

variable {S Obj : Type} (lib : Library S Obj) (auditLib : AuditLibrary Obj)

/-- `_compact_digest`. -/
def compactDigest (grounding : Kwargs Obj) : Kwargs Obj :=
  grounding.map fun field =>
    match lib.asStr field.2 with
    | some text =>
        if text.length > 200 then
          (field.1, lib.ofJson (.str (String.ofList (text.toList.take 200) ++ "...")))
        else field
    | none => field

/-- `_compact_result`. -/
def compactResult (value : Obj) : Json :=
  if auditLib.isModel value then
    match lib.modelDump value with
    | .ok data => data
    | .error _ => .obj [("value", .str "unable_to_serialize")]
  else .obj [("value", .str (auditLib.str value))]

/-- `outcome_map`. -/
def outcomeText (path : ReasoningPath) (failureReason : Option FailureReason) : String :=
  match path with
  | .model => "produced"
  | .cache => "served_from_cache"
  | .fallback => if failureReason = none then "fallback" else "unable_to_produce"

/-- `build_audit_record`. -/
def buildAuditRecord (redact : Bool) (request : AssistiveRequest S Obj) (result : AssistiveResult Obj)
    (profile : ModelProfile) (promptRef : String) (now : Time) : ReasoningAuditRecord Obj :=
  let digest := compactDigest lib request.groundingInputs
  let summary := compactResult lib auditLib result.value
  { agentId := request.agentId
    correlationId := request.correlationId
    causationId := request.causationId
    taskKind := request.taskKind
    modelId := result.modelId
    temperature := profile.temperature
    maxTokens := profile.maxTokens
    promptRef := if promptRef = "" then lib.digest "" else promptRef
    groundingDigest := if redact then auditLib.scrubDigest digest else digest
    reasoningPath := result.reasoningPath
    resultSummary := if redact then auditLib.scrubSummary summary else summary
    tokenUsage := result.tokenUsage
    cacheHit := result.cacheHit
    latencyMs := result.latencyMs
    outcome := outcomeText result.reasoningPath result.failureReason
    failureReason := result.failureReason
    recordedAt := now }

end Record

/-! ## Publishing -/

section Publish

variable {S Obj : Type} {env : String} (auditLib : AuditLibrary Obj)

def uuid4 : M env UUID := do
  let w ← Coro.read
  Coro.write { w with nextId := w.nextId + 1 }
  pure w.nextId

/-- The envelope that both records are wrapped in. -/
def wrap (env agentId : String) (correlationId causationId eventId : UUID) (recordedAt : Time)
    (eventType : String) (payload : Json) : Except (List FieldError) (EventEnvelope env) :=
  EventEnvelope.validate env
    { eventId, correlationId, causationId := some causationId, agentId, tenantId := "default"
      timestamp := recordedAt, eventType, schemaVersion := "1.0.0", payload }

/-- Publish what could be built; log and swallow what could not, and what cannot be sent. -/
def publishBuilt (built : Except (List FieldError) (EventEnvelope env)) (topic : String) :
    M env Unit :=
  match built with
  | .error _ => Coro.observe .auditWriteFailed
  | .ok envelope => do
      let sent ← Coro.request (Request.publishRaw envelope topic)
      match sent with
      | .ok () => Coro.observe (.published envelope topic)
      | .error _ => Coro.observe .auditWriteFailed

/-- The envelope of a record: an audit payload about an envelope of its own. -/
def reasoningEnvelope (record : ReasoningAuditRecord Obj) (originalId eventId : UUID) :
    Except (List FieldError) (EventEnvelope env) := do
  let data ← match auditLib.dumpRecord record with
    | .ok data => .ok data
    | .error exc => .error [{ loc := "", msg := exc }]
  let original ← wrap env record.agentId record.correlationId record.causationId originalId
    record.recordedAt "agent.llm.reasoning.v1" data
  let audit ← validateAuditPayload ⟨original.eventId, original.correlationId⟩ record.outcome none
    record.recordedAt
  wrap env record.agentId record.correlationId record.causationId eventId record.recordedAt
    "agent.audit.v1" (auditLib.dumpAudit audit)

def writeReasoningAudit (record : ReasoningAuditRecord Obj) : M env Unit := do
  let originalId ← uuid4
  let eventId ← uuid4
  publishBuilt (reasoningEnvelope auditLib record originalId eventId) (topicAudit env)

/-- `is_failure`. -/
def isFailure (result : AssistiveResult Obj) : Bool :=
  decide (result.reasoningPath = .fallback) && result.failureReason.isSome

def invocationPayload (logRawPrompts : Bool) (renderedPrompt : String)
    (request : AssistiveRequest S Obj) (result : AssistiveResult Obj) (now : Time) :
    LlmInvocationPayload where
  agentId := request.agentId
  modelId := result.modelId
  promptId := result.promptRef.getD ""
  taskKind := request.taskKind.value
  correlationId := request.correlationId
  causationId := request.causationId
  latencyMs := result.latencyMs
  tokenUsage := result.tokenUsage
  cacheHit := result.cacheHit
  reasoningPath := result.reasoningPath.value
  recordedAt := now
  rawPrompt := if logRawPrompts then some renderedPrompt else none
  failureReason := if isFailure result then result.failureReason.map FailureReason.value else none

/-- The last word of the topic and of the event type. -/
def invocationVerb (result : AssistiveResult Obj) : String :=
  if isFailure result then "failed" else "completed"

def emitLlmInvocationEvent (eventsEnabled logRawPrompts : Bool) (renderedPrompt : String)
    (request : AssistiveRequest S Obj) (result : AssistiveResult Obj) : M env Unit :=
  if eventsEnabled then do
    let w ← Coro.read
    let eventId ← uuid4
    let payload := invocationPayload logRawPrompts renderedPrompt request result w.now
    publishBuilt
      (wrap env request.agentId request.correlationId request.causationId eventId w.now
        ("audit.llm.invocation." ++ invocationVerb result) (auditLib.dumpInvocation payload))
      (resolveTopic env "audit" "llm.invocation" (invocationVerb result))
  else pure ()

end Publish

/-! ## Nothing is published -/

section NoTrace

variable {S Obj : Type} {env : String}

def publications (seen : List (Obs env)) : List (EventEnvelope env × String) :=
  seen.filterMap fun
    | .published envelope topic => some (envelope, topic)
    | _ => none

/-- Exactly one envelope is published, on the topic. -/
def PublishesOne (topic : String) (seen : List (Obs env)) : Prop :=
  ∃ envelope, publications seen = [(envelope, topic)]

/-- No outcome of a record is one that an audit payload can have. -/
theorem outcomeOfString_outcomeText (path : ReasoningPath) (reason : Option FailureReason) :
    outcomeOfString (outcomeText path reason) = none := by
  cases path with
  | model => rfl
  | cache => rfl
  | fallback =>
    unfold outcomeText
    dsimp only
    split <;> rfl

/-- The event types of the two invocation events have no version. -/
theorem not_accepts_invocation (result : AssistiveResult Obj) :
    IdPattern.eventType.accepts ("audit.llm.invocation." ++ invocationVerb result) = false := by
  unfold invocationVerb
  split <;> decide +kernel

/-- What could not be built is not published. -/
theorem publications_of_error (answer : ∀ x : Request env, Reply x) (w : World)
    {built : Except (List FieldError) (EventEnvelope env)} (h : ∀ envelope, built ≠ .ok envelope)
    (topic : String) : publications ((publishBuilt built topic).runSync answer w).1 = [] := by
  cases built with
  | error _ => rfl
  | ok envelope => exact absurd rfl (h envelope)

theorem wrap_of_not_accepts {agentId eventType : String} {correlationId causationId eventId : UUID}
    {recordedAt : Time} {payload : Json} (h : IdPattern.eventType.accepts eventType = false)
    (envelope : EventEnvelope env) :
    wrap env agentId correlationId causationId eventId recordedAt eventType payload ≠
      .ok envelope := by
  intro hok
  have heq := EventEnvelope.validate_eq_ok_iff.mp hok
  have hacc := (EnvelopeFields.fieldErrors_eq_nil_iff.mp envelope.fieldsOk).2.2.1
  rw [heq] at hacc
  dsimp only at hacc
  rw [h] at hacc
  cases hacc

/-- No record of a reasoning step has an envelope. -/
theorem reasoningEnvelope_ne_ok (lib : Library S Obj) (auditLib : AuditLibrary Obj) (redact : Bool)
    (request : AssistiveRequest S Obj) (result : AssistiveResult Obj) (profile : ModelProfile)
    (promptRef : String) (now : Time) (originalId eventId : UUID) (envelope : EventEnvelope env) :
    reasoningEnvelope auditLib
      (buildAuditRecord lib auditLib redact request result profile promptRef now) originalId eventId ≠
      .ok envelope := by
  generalize hrecord : buildAuditRecord lib auditLib redact request result profile promptRef now =
    record
  have houtcome : outcomeOfString record.outcome = none := by
    rw [← hrecord]
    exact outcomeOfString_outcomeText _ _
  -- the record and the envelope it is about may or may not be valid; the payload is not
  unfold reasoningEnvelope validateAuditPayload
  cases auditLib.dumpRecord record with
  | error exc => exact fun h => by cases h
  | ok data =>
    intro h
    cases horiginal : wrap env record.agentId record.correlationId record.causationId originalId
      record.recordedAt "agent.llm.reasoning.v1" data with
    | error errors =>
      simp only [bind, Except.bind, horiginal] at h
      cases h
    | ok original =>
      simp only [bind, Except.bind, horiginal, houtcome] at h
      cases h

/-- Nothing is published about a record. -/
theorem publications_writeReasoningAudit (lib : Library S Obj) (auditLib : AuditLibrary Obj)
    (redact : Bool) (request : AssistiveRequest S Obj) (result : AssistiveResult Obj)
    (profile : ModelProfile) (promptRef : String) (now : Time) (answer : ∀ x : Request env, Reply x)
    (w : World) :
    publications ((writeReasoningAudit auditLib
      (buildAuditRecord lib auditLib redact request result profile promptRef now)).runSync
      answer w).1 = [] := by
  generalize hrecord : buildAuditRecord lib auditLib redact request result profile promptRef now =
    record
  have hrun : ((writeReasoningAudit auditLib record).runSync answer w).1 =
      ((publishBuilt (reasoningEnvelope auditLib record w.nextId (w.nextId + 1))
        (topicAudit env)).runSync answer { w with nextId := w.nextId + 1 + 1 }).1 := rfl
  rw [hrun]
  apply publications_of_error
  intro envelope
  rw [← hrecord]
  exact reasoningEnvelope_ne_ok lib auditLib redact request result profile promptRef now _ _ envelope

/-- Nothing is published about an invocation. -/
theorem publications_emitLlmInvocationEvent (auditLib : AuditLibrary Obj) (logRawPrompts : Bool)
    (renderedPrompt : String) (request : AssistiveRequest S Obj) (result : AssistiveResult Obj)
    (answer : ∀ x : Request env, Reply x) (w : World) :
    publications ((emitLlmInvocationEvent auditLib true logRawPrompts renderedPrompt request
      result).runSync answer w).1 = [] := by
  have hrun : ((emitLlmInvocationEvent auditLib true logRawPrompts renderedPrompt request
      result).runSync answer w).1 =
      ((publishBuilt (wrap env request.agentId request.correlationId request.causationId w.nextId
          w.now ("audit.llm.invocation." ++ invocationVerb result) (auditLib.dumpInvocation
            (invocationPayload logRawPrompts renderedPrompt request result w.now)))
        (resolveTopic env "audit" "llm.invocation" (invocationVerb result))).runSync answer
        { w with nextId := w.nextId + 1 }).1 := rfl
  rw [hrun]
  exact publications_of_error _ _ (wrap_of_not_accepts (not_accepts_invocation result)) _

theorem not_publishesOne_of_nil {topic : String} {seen : List (Obs env)}
    (h : publications seen = []) : ¬ PublishesOne topic seen := by
  rintro ⟨envelope, hone⟩
  rw [h] at hone
  cases hone

end NoTrace

/-- **No reasoning step leaves a trace.** Whatever the request, the result and its path, whatever the
    publisher does: the record is not published, and neither is the event. -/
theorem reasoning_leaves_no_trace {S Obj : Type} {env : String} (lib : Library S Obj)
    (auditLib : AuditLibrary Obj) (redact logRawPrompts : Bool) (renderedPrompt promptRef : String)
    (request : AssistiveRequest S Obj) (result : AssistiveResult Obj) (profile : ModelProfile)
    (now : Time) (answer : ∀ x : Request env, Reply x) (w : World) :
    (¬ PublishesOne (topicAudit env) ((writeReasoningAudit auditLib
        (buildAuditRecord lib auditLib redact request result profile promptRef now)).runSync
        answer w).1) ∧
      ¬ ∃ topic, PublishesOne topic ((emitLlmInvocationEvent auditLib true logRawPrompts
        renderedPrompt request result).runSync answer w).1 := by
  constructor
  · exact not_publishesOne_of_nil (publications_writeReasoningAudit lib auditLib redact request result
      profile promptRef now answer w)
  · rintro ⟨topic, hone⟩
    exact not_publishesOne_of_nil (publications_emitLlmInvocationEvent auditLib logRawPrompts
      renderedPrompt request result answer w) hone

def sampleAuditLibrary : AuditLibrary SampleObj where
  isModel
    | .model _ => true
    | .plain _ => false
  str _ := "\x7b\x7d"
  scrubDigest digest := digest
  scrubSummary summary := summary
  dumpRecord _ := .ok (.obj [])
  dumpAudit _ := .obj []
  dumpInvocation _ := .obj []

/-- A result that the model produced. -/
def sampleResult : AssistiveResult SampleObj where
  value := .model (.obj [])
  reasoningPath := .model

/-- A provider that answers with the same text every time, and a publisher that works. -/
def sampleAnswer (text : Except Exc String) : ∀ x : Request "local", Reply x
  | .invoke _ _ => text.map fun text => { text }
  | .latencyMs => (0 : Int)
  | .persist _ => .ok ()
  | .publishRaw _ _ => .ok ()

def sampleWorld : World where
  store := .empty 10000
  now := 0
  nextId := 1

/-- **A result that the model produced is not audited.** -/
theorem produced_result_is_not_audited :
    ¬ PublishesOne (topicAudit "local") ((writeReasoningAudit sampleAuditLibrary
        (buildAuditRecord sampleLibrary sampleAuditLibrary true (sampleRequest "test-agent")
          sampleResult {} "" 0)).runSync (sampleAnswer (.ok "\x7b\x7d")) sampleWorld).1 := by
  exact not_publishesOne_of_nil (publications_writeReasoningAudit sampleLibrary sampleAuditLibrary
    true (sampleRequest "test-agent") sampleResult {} "" 0 (sampleAnswer (.ok "\x7b\x7d"))
    sampleWorld)

end RefundOps.Llm
