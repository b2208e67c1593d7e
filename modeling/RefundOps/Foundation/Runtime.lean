import RefundOps.Lib.Coro
import RefundOps.Lib.LRUCache
import RefundOps.Foundation.AgentCard
import RefundOps.Foundation.Audit

/-!
# The agent runtime

`AgentRuntime._handle_message`, with the tracker of processed tasks it consults: a message from
the endpoint topic is parsed, checked, deduplicated, dispatched to the handler of its capability,
answered with a result and audited at every exit. The serve loop awaits one message before it
fetches the next, so the runtime is sequential; the handlers it calls, the broker and the topic
that keeps the processed ids are outside.

Parsing is outside as well: `Codec` has what pydantic and `uuid` make of a message, over any type
of raw messages.
-/

set_option autoImplicit false

namespace RefundOps.Runtime

/-! ## The runtime and its messages -/

structure AgentRuntime where
  agentId : String
  capabilityIds : List String
  /-- The capabilities with a registered handler. -/
  handlers : List String
  declared : ∀ c ∈ handlers, c ∈ capabilityIds

def AgentRuntime.init (agentId : String) (card : AgentCard) : AgentRuntime :=
  { agentId, capabilityIds := card.capabilities.map (·.id), handlers := [], declared := by simp }

/-- Register a handler: the decorator `handler`, which raises for an undeclared capability. -/
def AgentRuntime.handler (rt : AgentRuntime) (capabilityId : String) : Except String AgentRuntime :=
  if h : capabilityId ∈ rt.capabilityIds then
    .ok { rt with
      handlers := capabilityId :: rt.handlers
      declared := by
        intro c hc
        rcases List.mem_cons.mp hc with rfl | hc
        · exact h
        · exact rt.declared c hc }
  else
    .error ("Capability " ++ Text.repr capabilityId ++
      " is not declared on the agent card; declared: [" ++
      Text.join ", " ((rt.capabilityIds.eraseDups.mergeSort fun a b => decide (a ≤ b)).map
        Text.repr) ++ "]")

/-- An `EventEnvelope`, as far as the runtime looks at it. -/
structure Envelope where
  eventId : UUID
  correlationId : UUID
  payload : Json

def Envelope.ref (e : Envelope) : EventRef := ⟨e.eventId, e.correlationId⟩

structure Codec (Raw : Type) where
  /-- `EventEnvelope.model_validate_json(raw)`. -/
  envelope : Raw → Except String Envelope
  /-- `TaskRequest.model_validate(payload)`. -/
  taskRequest : Json → Except String TaskRequest
  /-- `UUID(str(x))`, `none` where it raises. -/
  uuid : Json → Option UUID

structure ResultEvent where
  eventId : UUID
  correlationId : UUID
  causationId : UUID
  result : TaskResult

/-! ## State, suspensions and observations -/

/-- The size of the cache of the tracker. -/
def trackerSize : Nat := 10000

structure World where
  tracker : LRUCache UUID
  now : Time
  nextId : UUID

/-- A runtime that starts with nothing processed. -/
def start (nextId : UUID) : World := { tracker := .empty trackerSize, now := 0, nextId }

inductive Request where
  | sendResult (ev : ResultEvent)
  | sendAudit (eventId : UUID) (audit : AuditPayload)
  | callHandler (req : TaskRequest)
  | persist (taskId : UUID)

/-- A handler raises, or returns a message. One that returns what cannot be made a result, or
    cannot be sent, counts as raising. -/
@[reducible] def Reply : Request → Type
  | .sendResult _ => Except String Unit
  | .sendAudit _ _ => Except String Unit
  | .callHandler _ => Except String A2AMessage
  | .persist _ => Except String Unit

inductive Obs where
  | resultPublished (ev : ResultEvent)
  | resultLost (ev : ResultEvent)
  | audited (audit : AuditPayload)
  | auditLost (audit : AuditPayload)
  | handlerCalled (req : TaskRequest)
  | markedProcessed (taskId : UUID)

abbrev M := Coro World Obs Request Reply String

def uuid4 : M UUID := do
  let w ← Coro.read
  Coro.write { w with nextId := w.nextId + 1 }
  pure w.nextId

/-- `_publish_result`: a result that cannot be sent is logged and dropped. -/
def publishResult (result : TaskResult) (envelope : Envelope) : M Unit := do
  let eventId ← uuid4
  let ev : ResultEvent :=
    { eventId, correlationId := envelope.correlationId, causationId := envelope.eventId, result }
  let sent ← Coro.request (Request.sendResult ev)
  match sent with
  | .ok () => Coro.observe (.resultPublished ev)
  | .error _ => Coro.observe (.resultLost ev)

/-- `write_task_audit`: so is an audit record. -/
def writeTaskAudit (envelope : Envelope) (outcome : AuditOutcome) (taskId : Option UUID)
    (reason : Option String) (h : outcome.reasonOk reason = true := by rfl) : M Unit := do
  let w ← Coro.read
  let audit : AuditPayload :=
    { original := envelope.ref, outcome, reason, recordedAt := w.now, taskId
      validateReasonRequired := h }
  let eventId ← uuid4
  let sent ← Coro.request (Request.sendAudit eventId audit)
  match sent with
  | .ok () => Coro.observe (.audited audit)
  | .error _ => Coro.observe (.auditLost audit)

/-- `tracker.is_duplicate`, of a tracker that is initialized. -/
def isDuplicate (taskId : UUID) : M Bool := do
  let w ← Coro.read
  Coro.write { w with tracker := (w.tracker.contains taskId).2 }
  pure (w.tracker.contains taskId).1

/-- `tracker.mark_processed`. The id is in the cache before it is persisted, and whether it is
    persisted changes nothing here. -/
def markProcessed (taskId : UUID) : M Unit := do
  let w ← Coro.read
  Coro.write { w with tracker := w.tracker.add taskId }
  Coro.observe (.markedProcessed taskId)
  let _ ← Coro.request (Request.persist taskId)
  pure ()

def callHandler (req : TaskRequest) : M A2AMessage := do
  Coro.observe (.handlerCalled req)
  let output ← Coro.request (Request.callHandler req)
  Coro.ofExcept output

/-! ## The exits -/

section Exits

variable (rt : AgentRuntime)

def rejectedResult (taskId : UUID) (category : ErrorCategory) (message : String)
    (h : category = .validation ∨ category = .unsupportedCapability ∨ category = .duplicate) :
    TaskResult :=
  { taskId, status := .rejected, performerAgentId := rt.agentId
    error := some { category, message }
    validateStatusFields := ⟨rfl, _, rfl, h⟩ }

def failedResult (taskId : UUID) (category : ErrorCategory) (message : String)
    (h : category = .handlerError ∨ category = .internal) : TaskResult :=
  { taskId, status := .failed, performerAgentId := rt.agentId
    error := some { category, message }
    validateStatusFields := ⟨rfl, _, rfl, h⟩ }

def completedResult (taskId : UUID) (output : A2AMessage) : TaskResult :=
  { taskId, status := .completed, performerAgentId := rt.agentId
    output := some output
    validateStatusFields := ⟨rfl, rfl⟩ }

/-- `str(exc)[:500]`. -/
def excText (exc : String) : String := String.ofList (exc.toList.take 500)

/-- The task id for the answer to a payload that is no task request: its own if it has one, which
    raises if that is no UUID. -/
def taskIdForResult {Raw : Type} (codec : Codec Raw) (envelope : Envelope) : M UUID :=
  match envelope.payload.get? "task_id" with
  | some raw =>
      if raw.truthy then
        match codec.uuid raw with
        | some u => pure u
        | none => throw "ValueError"
      else uuid4
  | none => uuid4

/-- The payload is no task request. -/
def rejectPayload {Raw : Type} (codec : Codec Raw) (envelope : Envelope) (exc : String) :
    M Unit := do
  let taskId ← taskIdForResult codec envelope
  publishResult (rejectedResult rt taskId .validation (excText exc) (.inl rfl)) envelope
  writeTaskAudit envelope .rejected none (some (excText exc))

/-- The request is for another agent. -/
def rejectTarget (envelope : Envelope) (req : TaskRequest) : M Unit := do
  publishResult (rejectedResult rt req.taskId .validation
    ("This agent is " ++ Text.repr rt.agentId ++ ", not " ++ Text.repr req.targetAgentId)
    (.inl rfl)) envelope
  writeTaskAudit envelope .rejected (some req.taskId) (some "wrong_target")

/-- The capability is not declared. -/
def rejectCapability (envelope : Envelope) (req : TaskRequest) : M Unit := do
  publishResult (rejectedResult rt req.taskId .unsupportedCapability
    ("Capability " ++ Text.repr req.capability ++ " is not supported") (.inr (.inl rfl))) envelope
  writeTaskAudit envelope .rejected (some req.taskId) (some "unsupported_capability")

/-- The capability is declared and no handler is registered for it. The task is not marked. -/
def failUnhandled (envelope : Envelope) (req : TaskRequest) : M Unit := do
  publishResult (failedResult rt req.taskId .internal "No handler registered for this capability"
    (.inr rfl)) envelope
  writeTaskAudit envelope .failed (some req.taskId) (some "no_handler")

/-- Run the handler and answer with its output. -/
def attempt (envelope : Envelope) (req : TaskRequest) : M Unit := do
  let output ← callHandler req
  -- a result that is lost is audited as completed all the same
  publishResult (completedResult rt req.taskId output) envelope
  writeTaskAudit envelope .completed (some req.taskId) none AuditOutcome.completed_reasonOk

/-- Answer with what the handler raised. -/
def recover (envelope : Envelope) (req : TaskRequest) (exc : String) : M Unit := do
  publishResult (failedResult rt req.taskId .handlerError (excText exc) (.inl rfl)) envelope
  writeTaskAudit envelope .failed (some req.taskId) (some (excText exc))

/-- Either way the task is marked. -/
def dispatch (envelope : Envelope) (req : TaskRequest) : M Unit := do
  tryCatch (attempt rt envelope req) (recover rt envelope req)
  markProcessed req.taskId

/-- A request that passed the checks: skip it if its task was processed, else accept it. -/
def process (envelope : Envelope) (req : TaskRequest) : M Unit := do
  let duplicate ← isDuplicate req.taskId
  -- a duplicate is audited and gets no answer of its own
  if duplicate then
    writeTaskAudit envelope .duplicateSkipped (some req.taskId) none
      AuditOutcome.duplicateSkipped_reasonOk
  else do
    writeTaskAudit envelope .accepted (some req.taskId) none AuditOutcome.accepted_reasonOk
    if req.capability ∈ rt.handlers then dispatch rt envelope req
    else failUnhandled rt envelope req

end Exits

/-- `_handle_message`. -/
def handleMessage {Raw : Type} (rt : AgentRuntime) (codec : Codec Raw) (raw : Raw) : M Unit :=
  match codec.envelope raw with
  -- without an envelope there is nobody to answer
  | .error _ => pure ()
  | .ok envelope =>
      match codec.taskRequest envelope.payload with
      | .error exc => rejectPayload rt codec envelope exc
      | .ok req =>
          if req.targetAgentId ≠ rt.agentId then rejectTarget rt envelope req
          else if req.capability ∉ rt.capabilityIds then rejectCapability rt envelope req
          else process rt envelope req

/-! ## Deliveries -/

/-- A message, with the time at which it is handled and how the outside behaves meanwhile. -/
structure Delivery (Raw : Type) where
  raw : Raw
  now : Time
  answer : ∀ x, Reply x

section Deliveries

variable {Raw : Type} (rt : AgentRuntime) (codec : Codec Raw)

/-- Handle one message; an exception is for the serve loop and leaves the state as it is. -/
def deliver (d : Delivery Raw) (w : World) : List Obs × World :=
  let out := (handleMessage rt codec d.raw).runSync d.answer { w with now := d.now }
  (out.1, out.2.1)

/-- One message after the other, each with what could be observed of its handling. -/
def deliverAll : List (Delivery Raw) → World → List (Delivery Raw × List Obs)
  | [], _ => []
  | d :: ds, w => (d, (deliver rt codec d w).1) :: deliverAll ds (deliver rt codec d w).2

end Deliveries

end RefundOps.Runtime
