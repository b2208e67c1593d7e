import RefundOps.Foundation.Tracker
import RefundOps.Foundation.Envelope

/-!
# The consumer

`Consumer.run`: fetch a message, validate its envelope, skip it if its event was processed, validate
its payload, call the handler, mark the event and write audit records. One message is done with
before the next is fetched, so a run is a sequence of deliveries over the state that lasts between
them, the tracker's cache.

Every way to move on to the next message is an `Outcome` (`outcome` says which one a message takes,
from the state it finds), and `handleMessage` is followed to its observations once per outcome.

**Not every message is audited** (`every_message_audited_iff`). A message whose envelope is invalid is
parsed again, by the same validation, for an envelope to audit it under, and there is none; a handler
that raises moves on without a record.
-/

set_option autoImplicit false

namespace RefundOps.Transport

/-! ## Outside the consumer -/

/-- `PAYLOAD_REGISTRY`: the event types with a registered payload model. -/
def payloadRegistry (env : String) : List String :=
  ["agent.message.v1", "agent.audit.v1", "agent.sample.v1", "agent.task_request.v1",
   "agent.task_result.v1", "agent.agent_card.v1",
   resolveTopic env "support" "ticket" "created",
   resolveTopic env "customer" "resolution" "decided",
   resolveTopic env "resolution" "customer-issue" "classified",
   resolveTopic env "resolution" "refund-review" "requested",
   resolveTopic env "billing" "refund-analysis" "completed",
   resolveTopic env "risk" "review" "completed",
   resolveTopic env "resolution" "customer-response" "drafted",
   resolveTopic env "audit" "llm.invocation" "completed",
   resolveTopic env "audit" "llm.invocation" "failed"]

/-- What pydantic does, over any type of raw messages. -/
structure Codec (Raw : Type) where
  /-- The typed fields of an envelope in a raw message, or why there are none. -/
  fields : Raw → Except (List FieldError) EnvelopeFields
  /-- `model_cls.model_validate(payload)`, for the model that is registered for an event type. -/
  payloadErrors : String → Json → List FieldError
  /-- `audit_payload.model_dump(mode="json")`. -/
  auditDump : AuditPayload → Json

structure World where
  tracker : Option (LRUCache UUID)
  now : Time
  nextId : UUID

inductive Request (env : String) where
  | publishRaw (envelope : EventEnvelope env) (topic : String)
  | callHandler (envelope : EventEnvelope env)
  | persist (eventId : UUID)

@[reducible] def Reply {env : String} : Request env → Type
  | .publishRaw _ _ => Except String Unit
  | .callHandler _ => Except String Unit
  | .persist _ => Except String Unit

/-- What is logged, what is published, and that a handler returned. -/
inductive Obs (env : String) where
  | eventRejected (eventId : Option UUID) (reason : String)
  | eventDuplicateSkipped (eventId : UUID)
  | eventReceived (eventId : UUID)
  | handled (eventId : UUID)
  | consumerError (eventId : UUID) (exc : String)
  | published (envelope : EventEnvelope env) (topic : String)
  | auditWriteFailed (eventId : UUID)

abbrev M (env : String) := Coro World (Obs env) (Request env) Reply String

/-- A consumer, as far as one run depends on it. Whether it is idempotent shows in the state, by
    there being a tracker. -/
structure Consumer where
  publisher : Option AgentIdentity

/-! ## One message -/

section Message

variable {env : String} {Raw : Type} (consumer : Consumer) (codec : Codec Raw)

/-- `EventEnvelope.model_validate_json(raw)`. -/
def Codec.modelValidateJson (env : String) (raw : Raw) :
    Except (List FieldError) (EventEnvelope env) :=
  codec.fields raw >>= EventEnvelope.validate env

/-- `_make_partial_envelope`. -/
def makePartialEnvelope (env : String) (raw : Raw) : Option (EventEnvelope env) :=
  match codec.modelValidateJson env raw with
  | .ok envelope => some envelope
  | .error _ => none

inductive PayloadFault where
  | unknownEventType
  | validationError
  deriving DecidableEq

def PayloadFault.reason : PayloadFault → String
  | .unknownEventType => "unknown_schema_version"
  | .validationError => "payload_invalid"

/-- `lookup(event_type)`, and the payload against the model. -/
def checkPayload (envelope : EventEnvelope env) : Except PayloadFault Unit :=
  if envelope.eventType ∉ payloadRegistry env then .error .unknownEventType
  else if codec.payloadErrors envelope.eventType envelope.payload ≠ [] then .error .validationError
  else .ok ()

def uuid4 : M env UUID := do
  let w ← Coro.read
  Coro.write { w with nextId := w.nextId + 1 }
  pure w.nextId

/-- The envelope of an audit record. It is valid because the publisher's identity is. -/
def auditEnvelope (publisher : AgentIdentity) (envelope : EventEnvelope env) (audit : AuditPayload)
    (eventId : UUID) : EventEnvelope env where
  eventId
  correlationId := envelope.correlationId
  causationId := some envelope.eventId
  agentId := publisher.agentId
  tenantId := publisher.tenantId
  timestamp := audit.recordedAt
  eventType := "agent.audit.v1"
  schemaVersion := "1.0.0"
  payload := codec.auditDump audit
  fieldsOk := EnvelopeFields.fieldErrors_eq_nil_iff.mpr
    ⟨publisher.agentIdOk, publisher.tenantIdOk, accepts_audit, accepts_schemaVersion⟩
  causationOk := fun h => Option.some_ne_none _ h.1

/-- `write_audit`: a record that cannot be published is logged and dropped. -/
def writeAudit (publisher : AgentIdentity) (envelope : EventEnvelope env) (outcome : AuditOutcome)
    (reason : Option String) (h : outcome.reasonOk reason = true := by rfl) : M env Unit := do
  let w ← Coro.read
  let audit : AuditPayload :=
    { original := ⟨envelope.eventId, envelope.correlationId⟩, outcome, reason, recordedAt := w.now
      validateReasonRequired := h }
  let eventId ← uuid4
  let record := auditEnvelope codec publisher envelope audit eventId
  let sent ← Coro.request (Request.publishRaw record (topicAudit env))
  match sent with
  | .ok () => Coro.observe (.published record (topicAudit env))
  | .error _ => Coro.observe (.auditWriteFailed envelope.eventId)

/-- `if publisher: await write_audit(…)`. -/
def audit (envelope : EventEnvelope env) (outcome : AuditOutcome) (reason : Option String)
    (h : outcome.reasonOk reason = true := by rfl) : M env Unit :=
  match consumer.publisher with
  | none => pure ()
  | some publisher => writeAudit codec publisher envelope outcome reason h

/-- `tracker.is_duplicate`, of a tracker that is initialized; without one nothing is a duplicate. -/
def isDuplicate (eventId : UUID) : M env Bool := do
  let w ← Coro.read
  match w.tracker with
  | none => pure false
  | some lru => do
      Coro.write { w with tracker := some (lru.contains eventId).2 }
      pure (lru.contains eventId).1

/-- `tracker.mark_processed`, with its errors suppressed. The id is in the cache before it is
    persisted. -/
def markProcessed (eventId : UUID) : M env Unit := do
  let w ← Coro.read
  match w.tracker with
  | none => pure ()
  | some lru => do
      Coro.write { w with tracker := some (lru.add eventId) }
      let _ ← Coro.request (Request.persist eventId : Request env)
      pure ()

/-- The envelope is invalid: audit it under what can be extracted of it. -/
def rejectEnvelope (raw : Raw) : M env Unit := do
  Coro.observe (.eventRejected none "invalid_envelope")
  -- the extraction repeats the validation that has just failed
  match makePartialEnvelope codec env raw with
  | none => pure ()
  | some envelope => audit consumer codec envelope .rejected (some "invalid_envelope")

/-- The check for duplicates, and whether the message is skipped. -/
def skipDuplicate (envelope : EventEnvelope env) : M env Bool :=
  tryCatch (do
    let duplicate ← isDuplicate envelope.eventId
    if duplicate then do
      Coro.observe (.eventDuplicateSkipped envelope.eventId)
      audit consumer codec envelope .duplicateSkipped none AuditOutcome.duplicateSkipped_reasonOk
      pure true
    else pure false)
    -- an error of the check counts as "not a duplicate"
    fun _ => pure false

/-- Call the handler; whether it returned. -/
def callHandler (envelope : EventEnvelope env) : M env Bool := do
  Coro.observe (.eventReceived envelope.eventId)
  let returned ← Coro.request (Request.callHandler envelope)
  match returned with
  | .ok () => do
      Coro.observe (.handled envelope.eventId)
      pure true
  | .error exc => do
      Coro.observe (.consumerError envelope.eventId exc)
      pure false

/-- A message whose envelope is valid. -/
def handleEnvelope (envelope : EventEnvelope env) : M env Unit := do
  let skipped ← skipDuplicate consumer codec envelope
  if skipped then pure ()
  else
    match checkPayload codec envelope with
    | .error fault => do
        Coro.observe (.eventRejected (some envelope.eventId) fault.reason)
        audit consumer codec envelope .rejected (some fault.reason)
    | .ok () => do
        let returned ← callHandler envelope
        if returned then do
          markProcessed envelope.eventId
          audit consumer codec envelope .accepted none AuditOutcome.accepted_reasonOk
        -- neither marked nor audited: the event is handled again if it comes again
        else pure ()

/-- The body of the loop of `Consumer.run`. -/
def handleMessage (env : String) (raw : Raw) : M env Unit :=
  match codec.modelValidateJson env raw with
  | .error _ => rejectEnvelope consumer codec raw
  | .ok envelope => handleEnvelope consumer codec envelope

end Message

/-! ## Deliveries -/

/-- A message, with the time at which it is handled and how the outside behaves meanwhile. -/
structure Delivery (env : String) (Raw : Type) where
  raw : Raw
  now : Time
  answer : ∀ x : Request env, Reply x

/-- What the loop finds when it comes round: the stop event is set, nothing arrives in time, the
    fetch fails, or there is a message. -/
inductive Poll (env : String) (Raw : Type) where
  | stopped
  | timeout
  | failed (exc : String)
  | message (d : Delivery env Raw)

/-- A message that was consumed: the state it found, and what could be observed of it. -/
structure Step (env : String) (Raw : Type) where
  before : World
  delivery : Delivery env Raw
  seen : List (Obs env)

section Run

variable {env : String} {Raw : Type} (consumer : Consumer) (codec : Codec Raw)

def deliver (d : Delivery env Raw) (w : World) : List (Obs env) × World :=
  let out := (handleMessage consumer codec env d.raw).runSync d.answer { w with now := d.now }
  (out.1, out.2.1)

/-- The loop of `Consumer.run`. -/
def run : List (Poll env Raw) → World → List (Step env Raw)
  | [], _ => []
  | .stopped :: _, _ => []
  | .timeout :: polls, w => run polls w
  -- an error of the fetch is caught, logged, and ends the loop
  | .failed _ :: _, _ => []
  | .message d :: polls, w =>
      { before := w, delivery := d, seen := (deliver consumer codec d w).1 } ::
        run polls (deliver consumer codec d w).2

/-- The messages that a run consumes. -/
def consumed : List (Poll env Raw) → List (Delivery env Raw)
  | [] => []
  | .stopped :: _ => []
  | .timeout :: polls => consumed polls
  | .failed _ :: _ => []
  | .message d :: polls => d :: consumed polls

/-- The state in which the loop starts: the tracker of an idempotent consumer has the ids that could
    be read back. -/
def start (idempotent : Bool) (recovered : List UUID) (nextId : UUID) : World where
  tracker := if idempotent then some (Runtime.rebuilt recovered) else none
  now := 0
  nextId

end Run

/-! ## What becomes of a message -/

/-- The ways to move on to the next message. -/
inductive Outcome (env : String) where
  | invalidEnvelope
  | duplicate (envelope : EventEnvelope env)
  | payloadRejected (envelope : EventEnvelope env) (fault : PayloadFault)
  | raised (envelope : EventEnvelope env) (exc : String)
  | returned (envelope : EventEnvelope env)

section Outcomes

variable {env : String} {Raw : Type} {consumer : Consumer} {codec : Codec Raw}

/-- The event was processed, as far as the tracker knows. -/
def World.Knows (w : World) (eventId : UUID) : Prop := ∃ lru ∈ w.tracker, eventId ∈ lru.keys

instance {w : World} {eventId : UUID} : Decidable (w.Knows eventId) :=
  inferInstanceAs (Decidable (∃ lru ∈ w.tracker, eventId ∈ lru.keys))

/-- How a valid envelope fares. -/
def outcomeOf (codec : Codec Raw) (d : Delivery env Raw) (w : World) (envelope : EventEnvelope env) :
    Outcome env :=
  if w.Knows envelope.eventId then .duplicate envelope
  else
    match checkPayload codec envelope with
    | .error fault => .payloadRejected envelope fault
    | .ok () =>
        match d.answer (.callHandler envelope) with
        | .ok () => .returned envelope
        | .error exc => .raised envelope exc

def outcome (codec : Codec Raw) (d : Delivery env Raw) (w : World) : Outcome env :=
  match codec.modelValidateJson env d.raw with
  | .error _ => .invalidEnvelope
  | .ok envelope => outcomeOf codec d w envelope

/-- What each outcome leaves in the cache: a duplicate is refreshed, an event that was handled is
    added. -/
def Outcome.tracker (lru : LRUCache UUID) : Outcome env → LRUCache UUID
  | .duplicate envelope => (lru.contains envelope.eventId).2
  | .returned envelope => lru.add envelope.eventId
  | _ => lru

/-- What is logged, before any audit record. -/
def Outcome.log : Outcome env → List (Obs env)
  | .invalidEnvelope => [.eventRejected none "invalid_envelope"]
  | .duplicate envelope => [.eventDuplicateSkipped envelope.eventId]
  | .payloadRejected envelope fault => [.eventRejected (some envelope.eventId) fault.reason]
  | .raised envelope exc => [.eventReceived envelope.eventId, .consumerError envelope.eventId exc]
  | .returned envelope => [.eventReceived envelope.eventId, .handled envelope.eventId]

/-- The outcomes that write an audit record. -/
def Outcome.Records : Outcome env → Prop
  | .invalidEnvelope => False
  | .duplicate _ => True
  | .payloadRejected _ _ => True
  | .raised _ _ => False
  | .returned _ => True

/-- An attempt to write an audit record, as an observation. -/
def Obs.IsRecord (o : Obs env) : Prop :=
  (∃ envelope topic, o = .published envelope topic) ∨ ∃ eventId, o = .auditWriteFailed eventId

/-- The publisher works: every publication succeeds. -/
def Works (answer : ∀ x : Request env, Reply x) : Prop :=
  ∀ envelope topic, answer (.publishRaw envelope topic) = .ok ()

/-- A record is among the observations. -/
def Audited (seen : List (Obs env)) : Prop := ∃ envelope, .published envelope (topicAudit env) ∈ seen

/-- What a call of `audit` shows: attempts to write a record, and a record if all goes well. -/
structure Recorded (consumer : Consumer) (answer : ∀ x : Request env, Reply x)
    (records : List (Obs env)) : Prop where
  only : ∀ o ∈ records, o.IsRecord
  audited : consumer.publisher.isSome = true → Works answer → Audited records

/-- What can be seen of a message with the outcome `o`, and what it leaves in the tracker. -/
structure Outcome.Seen (consumer : Consumer) (answer : ∀ x : Request env, Reply x) (o : Outcome env)
    (tracker : Option (LRUCache UUID)) (seen : List (Obs env)) (tracker' : Option (LRUCache UUID)) :
    Prop where
  tracker_eq : tracker' = tracker.map o.tracker
  seen_eq : ∃ records, seen = o.log ++ records ∧
    ((o.Records ∧ Recorded consumer answer records) ∨ (¬ o.Records ∧ records = []))

variable {answer : ∀ x : Request env, Reply x} {w : World} {envelope : EventEnvelope env}

theorem returns_audit {outcome : AuditOutcome} {reason : Option String}
    {h : outcome.reasonOk reason = true} {Q : Unit → List (Obs env) → World → Prop}
    (hQ : ∀ records w', Recorded consumer answer records → w'.tracker = w.tracker →
      Q () records w') :
    Coro.Returns answer (audit consumer codec envelope outcome reason h) w Q := by
  unfold audit
  cases hp : consumer.publisher with
  | none =>
    refine Coro.Returns.pure (hQ [] w ⟨by simp, fun hc => ?_⟩ rfl)
    rw [hp] at hc
    cases hc
  | some publisher =>
    apply Coro.Returns.bind
    refine ⟨w, [], w, rfl, ?_⟩
    apply Coro.Returns.bind
    refine ⟨w.nextId, [], { w with nextId := w.nextId + 1 }, rfl, ?_⟩
    apply Coro.Returns.bind
    refine ⟨answer (.publishRaw _ _), [], _, rfl, ?_⟩
    cases hsent : answer (.publishRaw _ _) with
    | ok _ =>
      refine ⟨(), [_], _, rfl, hQ _ _ ⟨?_, fun _ _ => ⟨_, List.mem_singleton_self _⟩⟩ rfl⟩
      intro o ho
      exact .inl ⟨_, _, List.mem_singleton.mp ho⟩
    | error _ =>
      refine ⟨(), [_], _, rfl, hQ _ _ ⟨?_, fun _ hworks => ?_⟩ rfl⟩
      · intro o ho
        exact .inr ⟨_, List.mem_singleton.mp ho⟩
      · rw [hworks] at hsent
        cases hsent

theorem returns_isDuplicate (eventId : UUID) :
    Coro.Returns answer (isDuplicate eventId : M env Bool) w fun duplicate os w' =>
      os = [] ∧ (duplicate = true ↔ w.Knows eventId) ∧
        w'.tracker = w.tracker.map fun lru => (lru.contains eventId).2 := by
  apply Coro.Returns.bind
  refine ⟨w, [], w, rfl, ?_⟩
  dsimp only
  cases hw : w.tracker with
  | none =>
    refine Coro.Returns.pure ⟨rfl, ?_, hw⟩
    refine iff_of_false Bool.false_ne_true fun hk => ?_
    obtain ⟨lru, hlru, -⟩ := hk
    rw [hw] at hlru
    cases hlru
  | some lru =>
    refine ⟨(lru.contains eventId).1, [], { w with tracker := some (lru.contains eventId).2 }, rfl,
      rfl, ?_, rfl⟩
    rw [LRUCache.contains_fst, decide_eq_true_iff]
    unfold World.Knows
    rw [hw]
    simp

/-- The check for duplicates skips what the tracker knows, and writes a record. -/
theorem returns_skipDuplicate {Q : Bool → List (Obs env) → World → Prop}
    (hskip : ∀ records w', w.Knows envelope.eventId → Recorded consumer answer records →
      w'.tracker = w.tracker.map (fun lru => (lru.contains envelope.eventId).2) →
      Q true ([.eventDuplicateSkipped envelope.eventId] ++ records) w')
    (hpass : ∀ w', ¬ w.Knows envelope.eventId → w'.tracker = w.tracker → Q false [] w') :
    Coro.Returns answer (skipDuplicate consumer codec envelope) w Q := by
  apply Coro.Returns.tryCatch
  apply Coro.Returns.bind
  refine (returns_isDuplicate envelope.eventId).mono ?_
  rintro duplicate os w₁ ⟨rfl, hknows, hw₁⟩
  cases duplicate with
  | true =>
    have hknows : w.Knows envelope.eventId := hknows.mp rfl
    rw [if_pos rfl]
    apply Coro.Returns.bind
    refine ⟨(), [.eventDuplicateSkipped envelope.eventId], w₁, rfl, ?_⟩
    apply Coro.Returns.bind
    refine returns_audit fun records w₂ hrecords hw₂ => ?_
    refine Coro.Returns.pure ?_
    rw [List.append_nil, List.nil_append]
    exact hskip records w₂ hknows hrecords (hw₂.trans hw₁)
  | false =>
    have hnot : ¬ w.Knows envelope.eventId := fun hk => Bool.false_ne_true (hknows.mpr hk)
    rw [if_neg Bool.false_ne_true]
    refine Coro.Returns.pure (hpass w₁ hnot ?_)
    rw [hw₁]
    cases hw : w.tracker with
    | none => rfl
    | some lru =>
      have hmem : envelope.eventId ∉ lru.keys := fun hmem => hnot ⟨lru, hw, hmem⟩
      rw [Option.map_some, LRUCache.contains_of_notMem hmem]

theorem returns_markProcessed (eventId : UUID) :
    Coro.Returns answer (markProcessed eventId : M env Unit) w fun _ os w' =>
      os = [] ∧ w'.tracker = w.tracker.map fun lru => lru.add eventId := by
  apply Coro.Returns.bind
  refine ⟨w, [], w, rfl, ?_⟩
  dsimp only
  cases hw : w.tracker with
  | none => exact Coro.Returns.pure ⟨rfl, hw⟩
  | some lru => exact ⟨(), [], { w with tracker := some (lru.add eventId) }, rfl, rfl, rfl⟩

theorem returns_callHandler {Q : Bool → List (Obs env) → World → Prop}
    (hok : answer (.callHandler envelope) = .ok () →
      Q true [.eventReceived envelope.eventId, .handled envelope.eventId] w)
    (hraise : ∀ exc, answer (.callHandler envelope) = .error exc →
      Q false [.eventReceived envelope.eventId, .consumerError envelope.eventId exc] w) :
    Coro.Returns answer (callHandler envelope) w Q := by
  apply Coro.Returns.bind
  refine ⟨(), [.eventReceived envelope.eventId], w, rfl, ?_⟩
  apply Coro.Returns.bind
  refine ⟨answer (.callHandler envelope), [], w, rfl, ?_⟩
  cases hanswer : answer (.callHandler envelope) with
  | ok _ => exact ⟨true, [.handled envelope.eventId], w, rfl, hok hanswer⟩
  | error exc => exact ⟨false, [.consumerError envelope.eventId exc], w, rfl, hraise exc hanswer⟩

variable {d : Delivery env Raw}

/-- **What becomes of a message whose envelope is valid.** -/
theorem returns_handleEnvelope :
    Coro.Returns d.answer (handleEnvelope consumer codec envelope) w fun _ os w' =>
      (outcomeOf codec d w envelope).Seen consumer d.answer w.tracker os w'.tracker := by
  apply Coro.Returns.bind
  refine returns_skipDuplicate ?_ ?_
  · intro records w' hknows hrecords hw'
    have hout : outcomeOf codec d w envelope = .duplicate envelope := if_pos hknows
    rw [if_pos rfl, hout]
    refine Coro.Returns.pure ⟨hw', records, ?_, .inl ⟨trivial, hrecords⟩⟩
    rw [List.append_nil]
    rfl
  · intro w₁ hnot hw₁
    have hout : outcomeOf codec d w envelope = match checkPayload codec envelope with
        | .error fault => .payloadRejected envelope fault
        | .ok () =>
            match d.answer (.callHandler envelope) with
            | .ok () => .returned envelope
            | .error exc => .raised envelope exc := if_neg hnot
    rw [if_neg Bool.false_ne_true, hout]
    cases checkPayload codec envelope with
    | error fault =>
      apply Coro.Returns.bind
      refine ⟨(), [.eventRejected (some envelope.eventId) fault.reason], w₁, rfl, ?_⟩
      refine returns_audit fun records w₂ hrecords hw₂ => ?_
      refine ⟨?_, records, rfl, .inl ⟨trivial, hrecords⟩⟩
      rw [hw₂, hw₁]
      exact (congrFun Option.map_id w.tracker).symm
    | ok _ =>
      apply Coro.Returns.bind
      refine returns_callHandler ?_ ?_
      · intro hanswer
        rw [hanswer, if_pos rfl]
        apply Coro.Returns.bind
        refine (returns_markProcessed envelope.eventId).mono ?_
        rintro - os w₂ ⟨rfl, hw₂⟩
        refine returns_audit fun records w₃ hrecords hw₃ => ?_
        refine ⟨?_, records, rfl, .inl ⟨trivial, hrecords⟩⟩
        rw [hw₃, hw₂, hw₁]
        rfl
      · intro exc hanswer
        rw [hanswer, if_neg Bool.false_ne_true]
        refine Coro.Returns.pure ⟨?_, [], rfl, .inr ⟨not_false, rfl⟩⟩
        rw [hw₁]
        exact (congrFun Option.map_id w.tracker).symm

/-- An envelope that is invalid the first time is invalid the second time. -/
theorem makePartialEnvelope_of_error {raw : Raw} {errors : List FieldError}
    (h : codec.modelValidateJson env raw = .error errors) :
    makePartialEnvelope codec env raw = none := by
  unfold makePartialEnvelope
  rw [h]

/-- **What becomes of a message.** -/
theorem returns_handleMessage :
    Coro.Returns d.answer (handleMessage consumer codec env d.raw) w fun _ os w' =>
      (outcome codec d w).Seen consumer d.answer w.tracker os w'.tracker := by
  unfold handleMessage outcome
  cases hraw : codec.modelValidateJson env d.raw with
  | ok envelope => exact returns_handleEnvelope
  | error errors =>
    apply Coro.Returns.bind
    refine ⟨(), [.eventRejected none "invalid_envelope"], w, rfl, ?_⟩
    rw [makePartialEnvelope_of_error hraw]
    refine Coro.Returns.pure ⟨(congrFun Option.map_id w.tracker).symm, [], rfl, .inr ⟨not_false, rfl⟩⟩

theorem deliver_spec (d : Delivery env Raw) (w : World) :
    (outcome codec d w).Seen consumer d.answer w.tracker (deliver consumer codec d w).1
      (deliver consumer codec d w).2.tracker := by
  obtain ⟨_, os, w', hrun, hseen⟩ := @returns_handleMessage env Raw consumer codec
    { w with now := d.now } d
  unfold deliver
  rw [hrun]
  exact hseen

/-! ## Audit -/

/-- The message is one that leaves a record: its envelope is valid, and it is a duplicate, its payload
    is rejected, or its handler returns. -/
def Accounted (codec : Codec Raw) (d : Delivery env Raw) (w : World) : Prop :=
  ∃ envelope, codec.modelValidateJson env d.raw = .ok envelope ∧
    (w.Knows envelope.eventId ∨ (∃ fault, checkPayload codec envelope = .error fault) ∨
      d.answer (.callHandler envelope) = .ok ())

theorem records_outcomeOf_iff :
    (outcomeOf codec d w envelope).Records ↔ w.Knows envelope.eventId ∨
      (∃ fault, checkPayload codec envelope = .error fault) ∨
      d.answer (.callHandler envelope) = .ok () := by
  unfold outcomeOf
  by_cases hknows : w.Knows envelope.eventId
  · rw [if_pos hknows]
    exact iff_of_true trivial (.inl hknows)
  · rw [if_neg hknows]
    cases hpayload : checkPayload codec envelope with
    | error fault => exact iff_of_true trivial (.inr (.inl ⟨fault, rfl⟩))
    | ok _ =>
      cases hanswer : d.answer (.callHandler envelope) with
      | ok _ => exact iff_of_true trivial (.inr (.inr rfl))
      | error exc =>
        refine iff_of_false not_false ?_
        rintro (hk | ⟨fault, hfault⟩ | hok)
        · exact hknows hk
        · cases hfault
        · cases hok

theorem records_outcome_iff : (outcome codec d w).Records ↔ Accounted codec d w := by
  unfold outcome Accounted
  cases hraw : codec.modelValidateJson env d.raw with
  | error errors =>
    refine iff_of_false not_false ?_
    rintro ⟨envelope, hok, -⟩
    cases hok
  | ok envelope =>
    constructor
    · intro h
      exact ⟨envelope, rfl, records_outcomeOf_iff.mp h⟩
    · rintro ⟨envelope', hok, h⟩
      cases hok
      exact records_outcomeOf_iff.mpr h

/-- What is logged is no record. -/
theorem not_audited_log (o : Outcome env) : ¬ Audited o.log := by
  rintro ⟨envelope, h⟩
  cases o <;> simp [Outcome.log] at h

/-- **A message is audited exactly if it is one of the accounted ones.** -/
theorem deliver_audited_iff (hp : consumer.publisher.isSome = true) (hworks : Works d.answer) :
    Audited (deliver consumer codec d w).1 ↔ Accounted codec d w := by
  obtain ⟨-, records, hseen, h⟩ := @deliver_spec env Raw consumer codec d w
  rw [← records_outcome_iff, hseen]
  rcases h with ⟨hout, hrecords⟩ | ⟨hout, rfl⟩
  · refine iff_of_true ?_ hout
    obtain ⟨record, hmem⟩ := hrecords.audited hp hworks
    exact ⟨record, List.mem_append_right _ hmem⟩
  · rw [List.append_nil]
    exact iff_of_false (not_audited_log _) hout

/-- A step of a run is the delivery of one of its messages to the state before it. -/
theorem mem_run {polls : List (Poll env Raw)} {s : Step env Raw}
    (h : s ∈ run consumer codec polls w) :
    .message s.delivery ∈ polls ∧ s.seen = (deliver consumer codec s.delivery s.before).1 := by
  induction polls generalizing w with
  | nil => cases h
  | cons poll polls ih =>
    cases poll with
    | stopped => cases h
    | failed exc => cases h
    | timeout =>
      obtain ⟨hmem, hseen⟩ := ih h
      exact ⟨List.mem_cons_of_mem _ hmem, hseen⟩
    | message d =>
      rcases List.mem_cons.mp h with rfl | h
      · exact ⟨List.mem_cons_self .., rfl⟩
      · obtain ⟨hmem, hseen⟩ := ih h
        exact ⟨List.mem_cons_of_mem _ hmem, hseen⟩

end Outcomes

/-- **Every message of a run is audited exactly if every message of it is accounted for**: its
    envelope is valid, and it is a duplicate, its payload is rejected, or its handler returns. -/
theorem every_message_audited_iff {env : String} {Raw : Type} {consumer : Consumer}
    {codec : Codec Raw} (hp : consumer.publisher.isSome = true) {polls : List (Poll env Raw)}
    (hworks : ∀ d, .message d ∈ polls → Works d.answer) (w : World) :
    (∀ s ∈ run consumer codec polls w, Audited s.seen) ↔
      ∀ s ∈ run consumer codec polls w, Accounted codec s.delivery s.before := by
  have hstep : ∀ s ∈ run consumer codec polls w,
      (Audited s.seen ↔ Accounted codec s.delivery s.before) := by
    intro s hs
    obtain ⟨hmem, hseen⟩ := mem_run hs
    rw [hseen]
    exact deliver_audited_iff hp (hworks _ hmem)
  constructor
  · intro h s hs
    exact (hstep s hs).mp (h s hs)
  · intro h s hs
    exact (hstep s hs).mpr (h s hs)

/-! ## Two messages without a record -/

/-- Messages as fields, or as bytes that are none. -/
def plainCodec : Codec (Option EnvelopeFields) where
  fields
    | some f => .ok f
    | none => .error [{ loc := "", msg := "Invalid JSON" }]
  payloadErrors _ _ := []
  auditDump _ := .null

def sampleFields (eventId : UUID) : EnvelopeFields where
  eventId
  correlationId := 1
  causationId := none
  agentId := "test.agent"
  tenantId := "default"
  timestamp := 0
  eventType := "agent.sample.v1"
  schemaVersion := "1.0.0"
  payload := .obj [("message", .str "hello")]

def sampleConsumer : Consumer where
  publisher := some
    { agentId := "audit.agent", displayName := "Audit", tenantId := "default"
      agentIdOk := by decide +kernel, displayNameOk := by decide, tenantIdOk := by decide +kernel }

/-- A message at time zero, over a broker that works, with a handler that returns or raises. -/
def sampleDelivery (raw : Option EnvelopeFields) (handler : Except String Unit) :
    Delivery "local" (Option EnvelopeFields) where
  raw
  now := 0
  answer
    | .publishRaw _ _ => .ok ()
    | .callHandler _ => handler
    | .persist _ => .ok ()

theorem sampleDelivery_works (raw : Option EnvelopeFields) (handler : Except String Unit) :
    Works (sampleDelivery raw handler).answer := fun _ _ => rfl

def sampleEnvelope (eventId : UUID) : EventEnvelope "local" :=
  { sampleFields eventId with
    fieldsOk := EnvelopeFields.fieldErrors_eq_nil_iff.mpr
      ⟨(by decide +kernel : IdPattern.agentId.accepts "test.agent" = true),
        (by decide +kernel : IdPattern.tenantId.accepts "default" = true),
        (by decide +kernel : IdPattern.eventType.accepts "agent.sample.v1" = true),
        accepts_schemaVersion⟩
    causationOk := fun h => h.2 (List.mem_cons_self ..) }

theorem validate_sample (eventId : UUID) :
    plainCodec.modelValidateJson "local" (some (sampleFields eventId)) =
      .ok (sampleEnvelope eventId) :=
  EventEnvelope.validate_eq_ok_iff.mpr rfl

theorem checkPayload_sample (eventId : UUID) :
    checkPayload plainCodec (sampleEnvelope eventId) = .ok () := by
  have hregistered : (sampleEnvelope eventId).eventType ∈ payloadRegistry "local" :=
    List.mem_cons_of_mem _ (List.mem_cons_of_mem _ (List.mem_cons_self ..))
  unfold checkPayload
  rw [if_neg (not_not.mpr hregistered)]
  rfl

/-- One sample event, and the same once more. -/
theorem every_message_audited_iff_sample :
    let polls := [.message (sampleDelivery (some (sampleFields 7)) (.ok ())), .timeout,
      .message (sampleDelivery (some (sampleFields 7)) (.ok ())), .stopped]
    ∀ s ∈ run sampleConsumer plainCodec polls (start true [] 0), Audited s.seen := by
  intro polls
  refine (every_message_audited_iff rfl ?_ _).mpr ?_
  · intro d hd
    simp only [polls, List.mem_cons, Poll.message.injEq, reduceCtorEq, false_or, or_self,
      List.not_mem_nil, or_false] at hd
    rw [hd]
    exact sampleDelivery_works _ _
  · intro s hs
    rcases List.mem_cons.mp hs with rfl | hs
    · exact ⟨sampleEnvelope 7, validate_sample 7, .inr (.inr rfl)⟩
    · rw [List.mem_singleton.mp hs]
      exact ⟨sampleEnvelope 7, validate_sample 7, .inr (.inr rfl)⟩

/-- **Bytes that are no envelope, and an event whose handler raises, leave no record.** -/
theorem unaudited_messages :
    let polls := [.message (sampleDelivery none (.ok ())),
      .message (sampleDelivery (some (sampleFields 7)) (.error "boom"))]
    (∀ d, .message d ∈ polls → Works d.answer) ∧
      (run sampleConsumer plainCodec polls (start true [] 0)).length = 2 ∧
      ∀ s ∈ run sampleConsumer plainCodec polls (start true [] 0), ¬ Audited s.seen := by
  refine ⟨?_, rfl, ?_⟩
  · intro d hd
    simp only [List.mem_cons, Poll.message.injEq, List.not_mem_nil, or_false] at hd
    rcases hd with rfl | rfl <;> exact sampleDelivery_works _ _
  · intro s hs
    rcases List.mem_cons.mp hs with rfl | hs
    · rw [deliver_audited_iff rfl (sampleDelivery_works _ _)]
      rintro ⟨envelope, hok, -⟩
      cases hok
    · rw [List.mem_singleton.mp hs, deliver_audited_iff rfl (sampleDelivery_works _ _)]
      rintro ⟨envelope, hok, hacc⟩
      have heq := (validate_sample 7).symm.trans hok
      cases heq
      rcases hacc with ⟨lru, hlru, hmem⟩ | ⟨fault, hfault⟩ | hok
      · -- the first message left the tracker as it was, empty
        cases hlru
        cases hmem
      · rw [checkPayload_sample] at hfault
        cases hfault
      · cases hok

end RefundOps.Transport
