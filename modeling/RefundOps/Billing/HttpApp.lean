import RefundOps.Billing.Tasks
import RefundOps.Foundation.FirstAnswer
import RefundOps.Foundation.TaskJson

/-!
# The HTTP entrypoint of the billing agent

`handle_task` of `http_app.py`, which answers a task request over HTTP with what is meant to be a task
result. It does not go through the runtime: the body is read field by field, nothing checks whom the
request is for or what it asks, and whatever the analysis raises becomes a failed result.

Two things are asked of it (`HonoursContract`): that the answer is a task result, and that for a task
request it has the status which the runtime gives on Kafka. **`honoursContract_iff`** says when. The
answer to a body that is no JSON has an error category that no failed result may have; on a body that
is JSON and no object the handler raises before its `try`; the task id is handed back unread. And as
nothing is rejected, the statuses agree only for requests that the runtime would not reject, and only
if the domain event is published, which is not this entrypoint's to do.
-/

set_option autoImplicit false

namespace RefundOps.Billing

open RefundOps.Runtime (statusOf)

/-! ## The entrypoint -/

/-- What the entrypoint takes from outside. -/
structure HttpLibrary (Raw : Type) where
  /-- `request.json()`, `none` where it raises. -/
  json : Raw → Option Json
  /-- `uuid.uuid4()`. -/
  uuid4 : { u : UUID // u < 2 ^ 128 }
  /-- `type(x).__name__`. -/
  typeName : Json → String
  /-- `str(exc)` of what `A2APart.model_validate` raises. -/
  validationError : Json → String

/-- An answer with a JSON body, or the server's own after an exception. -/
inductive HttpResponse where
  | json (statusCode : Nat) (content : Json)
  | internalServerError

section Entrypoint

variable {Raw : Type} (lib : HttpLibrary Raw) (B : Backend) (now : Time)

/-- `for p in x`. -/
def iterate : Json → Except String (List Json)
  | .arr xs => .ok xs
  | .str s => .ok (s.toList.map fun c => .str (String.ofList [c]))
  | .obj kvs => .ok (kvs.map fun kv => .str kv.1)
  | j => .error ("'" ++ lib.typeName j ++ "' object is not iterable")

def validatePart (j : Json) : Except String A2APart :=
  match A2APart.modelValidate j with
  | some part => .ok part
  | none => .error (lib.validationError j)

/-- `[A2APart.model_validate(p) for p in body.get("input", {}).get("parts", [])]`. -/
def inputParts (body : Json) : Except String (List A2APart) :=
  match (body.get? "input").getD (.obj []) with
  | .obj kvs => do
    let raw ← iterate lib (((Json.obj kvs).get? "parts").getD (.arr []))
    raw.mapM (validatePart lib)
  | j => .error ("'" ++ lib.typeName j ++ "' object has no attribute 'get'")

def completedContent (taskId : Json) (output : A2AMessage) : Json :=
  .obj [("task_id", taskId), ("status", .str "completed"),
    ("performer_agent_id", .str billingAgentId), ("output", output.modelDump)]

def failedContent (taskId : Json) (error : TaskError) : Json :=
  .obj [("task_id", taskId), ("status", .str "failed"),
    ("performer_agent_id", .str billingAgentId), ("error", error.modelDump)]

/-- `body.get("task_id", str(uuid.uuid4()))`, which goes into the answer as it came. -/
def taskIdStr (body : Json) : Json := (body.get? "task_id").getD (.str (uuidStr lib.uuid4.val))

/-- What the handler does in its `try`. -/
def runTask (body : Json) : Except String A2AMessage := do
  let parts ← inputParts lib body
  let a ← analyze B now parts
  pure (buildA2aOutput a.recommendation none)

/-- `handle_task`. -/
def handleTask (raw : Raw) : HttpResponse :=
  match lib.json raw with
  | none =>
    .json 400 (failedContent (.str (uuidStr lib.uuid4.val))
      { category := .validation, message := "Request body is not valid JSON" })
  | some (.obj kvs) =>
    match runTask lib B now (.obj kvs) with
    | .ok output => .json 200 (completedContent (taskIdStr lib (.obj kvs)) output)
    | .error exc =>
      .json 200 (failedContent (taskIdStr lib (.obj kvs))
        { category := .handlerError, message := exc })
  -- `body.get` of what is no dict, outside of the `try`
  | some _ => .internalServerError

end Entrypoint

/-! ## The contract -/

/-- The answer, read as a task result. -/
def HttpResponse.taskResult : HttpResponse → Option TaskResult
  | .json _ content => TaskResult.modelValidate content
  | .internalServerError => none

/-- The other transport: how a request comes to the runtime, and how the outside behaves. -/
structure KafkaSide where
  eventId : UUID
  correlationId : UUID
  now : Time
  nextId : UUID
  services : Services
  sendResult : Runtime.ResultEvent → Except String Unit
  sendAudit : UUID → AuditPayload → Except String Unit
  persist : UUID → Except String Unit

section Contract

variable {Raw : Type} (lib : HttpLibrary Raw) (B : Backend) (K : KafkaSide) (now : Time) (raw : Raw)

/-- The handler of `main` answers the runtime's calls. -/
def KafkaSide.answer : ∀ x, Runtime.Reply x
  | .sendResult ev => K.sendResult ev
  | .sendAudit eventId audit => K.sendAudit eventId audit
  | .callHandler req => handleEligibility B K.services K.now req
  | .persist taskId => K.persist taskId

/-- Envelopes come decoded; their payload is read as on the other transport. -/
def kafkaCodec : Runtime.Codec Runtime.Envelope where
  envelope := .ok
  taskRequest payload :=
    match TaskRequest.modelValidate payload with
    | some req => .ok req
    | none => .error (lib.validationError payload)
  uuid := Json.asUuid

/-- What `_handle_message` lets see of a request, on a runtime that has processed nothing. -/
def kafkaRun (body : Json) : List Runtime.Obs :=
  (Runtime.deliver billingRuntime (kafkaCodec lib)
    { raw := { eventId := K.eventId, correlationId := K.correlationId, payload := body }
      now := K.now, answer := K.answer B }
    (Runtime.start K.nextId)).1

/-- The answer is a task result, with the status of the other transport if the body is a request. -/
def HonoursContract : Prop :=
  ∃ r, (handleTask lib B now raw).taskResult = some r ∧
    ∀ body req, lib.json raw = some body → TaskRequest.modelValidate body = some req →
      Runtime.Gives r.status (kafkaRun lib B K body)

/-- The body is an object, and its task id, if it has one, is a UUID. -/
def HasUsableId : Prop :=
  ∃ kvs, lib.json raw = some (.obj kvs) ∧
    ∀ id, (Json.obj kvs).get? "task_id" = some id → ∃ u, id.asUuid = some u

/-- The request is for this agent and its capability, and the domain event of the analysis, where
    there is one, is taken. -/
def IsServed (req : TaskRequest) : Prop :=
  req.targetAgentId = billingAgentId ∧ req.capability = analyzeCapability ∧
    ∀ a, analyze B K.now req.input.parts = .ok a →
      publishAnalysis K.services req.taskId a = .ok ()

end Contract

/-! ## What the answers are read as -/

theorem holdsDict_outputPart (r : EligibilityRecommendation) (narrative : Option BillingNarrative) :
    (outputPart r narrative).HoldsDict := by
  intro d hd
  rw [← Option.some.inj hd]
  rfl

theorem modelValidate_output (r : EligibilityRecommendation) (narrative : Option BillingNarrative) :
    A2AMessage.modelValidate (buildA2aOutput r narrative).modelDump =
      some (buildA2aOutput r narrative) := by
  refine A2AMessage.modelValidate_modelDump ?_ ?_
  · exact List.forall_mem_singleton.mpr (holdsDict_outputPart r narrative)
  · intro u hu
    cases hu

/-- A completed answer is a task result if its id is a UUID. -/
theorem status_completedContent {taskId : Json} {m : A2AMessage}
    (hm : A2AMessage.modelValidate m.modelDump = some m) :
    (TaskResult.modelValidate (completedContent taskId m)).map TaskResult.status =
      taskId.asUuid.map fun _ => .completed := by
  have hkeys : (completedContent taskId m).onlyKeys
      ["task_id", "status", "performer_agent_id", "output", "error"] = true := rfl
  have hid : (completedContent taskId m).required "task_id" Json.asUuid = taskId.asUuid := rfl
  have hstatus : ((completedContent taskId m).required "status" Json.asStr).bind TaskStatus.ofValue =
      some .completed := rfl
  have hperformer : (completedContent taskId m).required "performer_agent_id" Json.asStr =
      some billingAgentId := rfl
  have hout : (completedContent taskId m).optional "output" A2AMessage.modelValidate =
      some (some m) := by
    change (A2AMessage.modelValidate m.modelDump).map some = _
    rw [hm, Option.map_some]
  have herror : (completedContent taskId m).optional "error" TaskError.modelValidate = some none :=
    rfl
  unfold TaskResult.modelValidate
  rw [hkeys, hid, hstatus, hperformer, hout, herror]
  cases taskId.asUuid with
  | none => rfl
  | some u => rfl

/-- A failed answer is one if besides its error has a category of failures. -/
theorem status_failedContent {taskId : Json} {e : TaskError} :
    (TaskResult.modelValidate (failedContent taskId e)).map TaskResult.status =
      if TaskResult.checkFields .failed none (some e) = true then taskId.asUuid.map fun _ => .failed
      else none := by
  have hkeys : (failedContent taskId e).onlyKeys
      ["task_id", "status", "performer_agent_id", "output", "error"] = true := rfl
  have hid : (failedContent taskId e).required "task_id" Json.asUuid = taskId.asUuid := rfl
  have hstatus : ((failedContent taskId e).required "status" Json.asStr).bind TaskStatus.ofValue =
      some .failed := rfl
  have hperformer : (failedContent taskId e).required "performer_agent_id" Json.asStr =
      some billingAgentId := rfl
  have hout : (failedContent taskId e).optional "output" A2AMessage.modelValidate = some none := rfl
  have herror : (failedContent taskId e).optional "error" TaskError.modelValidate =
      some (some e) := by
    change (TaskError.modelValidate e.modelDump).map some = _
    rw [TaskError.modelValidate_modelDump, Option.map_some]
  unfold TaskResult.modelValidate
  rw [hkeys, hid, hstatus, hperformer, hout, herror]
  cases taskId.asUuid with
  | none => split <;> rfl
  | some u =>
    split
    · rename_i h
      exact congrArg (Option.map TaskResult.status) (dif_pos h)
    · rename_i h
      exact congrArg (Option.map TaskResult.status) (dif_neg h)

section Answers

variable {Raw : Type} {lib : HttpLibrary Raw} {B : Backend} {K : KafkaSide} {now : Time} {raw : Raw}

/-- The status of the answer to an object. -/
theorem status_handleTask {kvs : List (String × Json)} (h : lib.json raw = some (.obj kvs)) :
    (handleTask lib B now raw).taskResult.map TaskResult.status =
      (taskIdStr lib (.obj kvs)).asUuid.map fun _ => statusOf (runTask lib B now (.obj kvs)) := by
  unfold handleTask
  rw [h]
  dsimp only
  cases hrun : runTask lib B now (.obj kvs) with
  | ok output =>
    have hout : A2AMessage.modelValidate output.modelDump = some output := by
      unfold runTask at hrun
      cases hparts : inputParts lib (.obj kvs) with
      | error exc =>
        rw [hparts] at hrun
        cases hrun
      | ok parts =>
        rw [hparts] at hrun
        change (analyze B now parts).bind _ = _ at hrun
        cases ha : analyze B now parts with
        | error exc =>
          rw [ha] at hrun
          cases hrun
        | ok a =>
          rw [ha] at hrun
          cases hrun
          exact modelValidate_output a.recommendation none
    exact status_completedContent hout
  | error exc => exact status_failedContent

/-- No other body is answered with a task result. -/
theorem taskResult_handleTask_eq_none (h : ∀ kvs, lib.json raw ≠ some (.obj kvs)) :
    (handleTask lib B now raw).taskResult = none := by
  unfold handleTask
  split
  · have hnone : (TaskResult.modelValidate (failedContent (.str (uuidStr lib.uuid4.val))
        { category := .validation, message := "Request body is not valid JSON" })).map
          TaskResult.status = none := status_failedContent
    exact Option.map_eq_none_iff.mp hnone
  · rename_i kvs hobj
    exact absurd hobj (h kvs)
  · rfl

theorem exists_asUuid_taskIdStr_iff (lib : HttpLibrary Raw) {body : Json} :
    (∃ u, (taskIdStr lib body).asUuid = some u) ↔
      ∀ id, body.get? "task_id" = some id → ∃ u, id.asUuid = some u := by
  unfold taskIdStr
  cases hid : body.get? "task_id" with
  | none =>
    refine iff_of_true ⟨lib.uuid4.val, ?_⟩ fun id h => ?_
    · rw [Option.getD_none, Json.asUuid_str]
      exact parseUuid_uuidStr lib.uuid4.property
    · cases h
  | some id =>
    rw [Option.getD_some]
    constructor
    · intro h id' hid'
      cases hid'
      exact h
    · intro h
      exact h id rfl

/-! ## Task requests -/

theorem mapM_validatePart {items : List Json} {parts : List A2APart}
    (h : items.mapM A2APart.modelValidate = some parts) :
    items.mapM (validatePart lib) = .ok parts := by
  induction items generalizing parts with
  | nil =>
    cases h
    rfl
  | cons item items ih =>
    simp only [List.mapM_cons, Option.bind_eq_bind, Option.bind_eq_some_iff, Option.pure_def,
      Option.some.injEq] at h
    obtain ⟨part, hpart, rest, hrest, rfl⟩ := h
    have hvalid : validatePart lib item = .ok part := by
      unfold validatePart
      rw [hpart]
    rw [List.mapM_cons, hvalid, ih hrest]
    rfl

/-- The parts that the entrypoint reads are those of the request. -/
theorem inputParts_of_request {body : Json} {req : TaskRequest}
    (h : TaskRequest.modelValidate body = some req) : inputParts lib body = .ok req.input.parts := by
  obtain ⟨_, _, hinput⟩ := TaskRequest.of_modelValidate h
  unfold Json.required at hinput
  obtain ⟨input, hget, hvalid⟩ := Option.bind_eq_some_iff.mp hinput
  obtain ⟨kvs, items, rfl, hparts, hitems⟩ := A2AMessage.of_modelValidate hvalid
  unfold inputParts
  rw [hget, Option.getD_some]
  dsimp only
  rw [hparts, Option.getD_some]
  exact mapM_validatePart hitems

/-- The runtime's status for a request that comes over Kafka. -/
theorem kafkaRun_gives {body : Json} {req : TaskRequest}
    (h : TaskRequest.modelValidate body = some req) :
    Runtime.Gives (Runtime.firstStatus billingRuntime (K.answer B) req) (kafkaRun lib B K body) := by
  refine Runtime.deliver_first K.nextId rfl ?_
  unfold kafkaCodec
  dsimp only
  rw [h]

/-! ## When the contract is honoured -/

theorem statusOf_eq_statusOf_iff {α β : Type} {x : Except String α} {y : Except String β} :
    statusOf x = statusOf y ↔ ((∃ a, x = .ok a) ↔ ∃ b, y = .ok b) := by
  cases x with
  | ok a =>
    cases y with
    | ok b => exact iff_of_true rfl (iff_of_true ⟨a, rfl⟩ ⟨b, rfl⟩)
    | error e => simp [statusOf]
  | error e =>
    cases y with
    | ok b => simp [statusOf]
    | error e' => simp [statusOf]

theorem statusOf_ne_rejected {α : Type} (x : Except String α) : statusOf x ≠ .rejected := by
  cases x <;> simp [statusOf]

/-- The runtime rejects what is for another agent or capability and leaves the rest to the
    handler. -/
theorem firstStatus_eq (req : TaskRequest) :
    Runtime.firstStatus billingRuntime (K.answer B) req =
      if req.targetAgentId = billingAgentId ∧ req.capability = analyzeCapability then
        statusOf (handleEligibility B K.services K.now req)
      else .rejected := by
  have hcap : req.capability ∈ [analyzeCapability] ↔ req.capability = analyzeCapability :=
    List.mem_singleton
  unfold Runtime.firstStatus
  change (if req.targetAgentId ≠ billingAgentId then TaskStatus.rejected
    else if req.capability ∉ [analyzeCapability] then .rejected
    else if req.capability ∉ [analyzeCapability] then .failed
    else statusOf (handleEligibility B K.services K.now req)) = _
  by_cases htarget : req.targetAgentId = billingAgentId
  · by_cases hc : req.capability = analyzeCapability
    · rw [if_neg (not_not.mpr htarget), if_neg (not_not.mpr (hcap.mpr hc)),
        if_neg (not_not.mpr (hcap.mpr hc)), if_pos ⟨htarget, hc⟩]
    · rw [if_neg (not_not.mpr htarget), if_pos (fun h => hc (hcap.mp h)), if_neg fun h => hc h.2]
  · rw [if_pos htarget, if_neg fun h => htarget h.1]

/-- **The two transports agree** on the requests that are served, and on no others. -/
theorem statuses_agree_iff (req : TaskRequest) :
    statusOf (analyze B now req.input.parts) =
        Runtime.firstStatus billingRuntime (K.answer B) req ↔ IsServed B K req := by
  have hanalyze : (∃ a, analyze B now req.input.parts = .ok a) ↔
      ∃ a, analyze B K.now req.input.parts = .ok a :=
    analyze_isOk_iff.trans analyze_isOk_iff.symm
  rw [firstStatus_eq]
  unfold IsServed
  by_cases haddressed : req.targetAgentId = billingAgentId ∧ req.capability = analyzeCapability
  · rw [if_pos haddressed, statusOf_eq_statusOf_iff, handleEligibility_isOk_iff, hanalyze]
    constructor
    · intro h
      refine ⟨haddressed.1, haddressed.2, ?_⟩
      intro a ha
      obtain ⟨a', ha', hpub⟩ := h.mp ⟨a, ha⟩
      rw [ha] at ha'
      cases ha'
      exact hpub
    · intro h
      constructor
      · intro hok
        obtain ⟨a, ha⟩ := hok
        exact ⟨a, ha, h.2.2 a ha⟩
      · intro hok
        obtain ⟨a, ha, _⟩ := hok
        exact ⟨a, ha⟩
  · rw [if_neg haddressed]
    refine iff_of_false (statusOf_ne_rejected _) fun h => ?_
    exact haddressed ⟨h.1, h.2.1⟩

/-- The answers that are task results. -/
theorem exists_taskResult_iff :
    (∃ r, (handleTask lib B now raw).taskResult = some r) ↔ HasUsableId lib raw := by
  constructor
  · intro h
    obtain ⟨r, hr⟩ := h
    by_cases hobj : ∃ kvs, lib.json raw = some (.obj kvs)
    · obtain ⟨kvs, hobj⟩ := hobj
      refine ⟨kvs, hobj, (exists_asUuid_taskIdStr_iff lib).mp ?_⟩
      have hstatus := @status_handleTask _ lib B now raw kvs hobj
      rw [hr, Option.map_some] at hstatus
      obtain ⟨u, hu, _⟩ := Option.map_eq_some_iff.mp hstatus.symm
      exact ⟨u, hu⟩
    · have hnone := @taskResult_handleTask_eq_none _ lib B now raw fun kvs h => hobj ⟨kvs, h⟩
      rw [hr] at hnone
      cases hnone
  · intro h
    obtain ⟨kvs, hobj, hid⟩ := h
    obtain ⟨u, hu⟩ := (exists_asUuid_taskIdStr_iff lib).mpr hid
    have hstatus := @status_handleTask _ lib B now raw kvs hobj
    rw [hu, Option.map_some] at hstatus
    obtain ⟨r, hr, _⟩ := Option.map_eq_some_iff.mp hstatus
    exact ⟨r, hr⟩

/-- The status that a task request gets over HTTP. -/
theorem status_of_request {body : Json} {req : TaskRequest} {r : TaskResult}
    (hbody : lib.json raw = some body) (hreq : TaskRequest.modelValidate body = some req)
    (hr : (handleTask lib B now raw).taskResult = some r) :
    r.status = statusOf (analyze B now req.input.parts) := by
  obtain ⟨⟨kvs, rfl⟩, _, _⟩ := TaskRequest.of_modelValidate hreq
  have hstatus := @status_handleTask _ lib B now raw kvs hbody
  rw [hr, Option.map_some] at hstatus
  obtain ⟨u, _, hrun⟩ := Option.map_eq_some_iff.mp hstatus.symm
  rw [← hrun]
  unfold runTask
  rw [inputParts_of_request hreq]
  change statusOf ((analyze B now req.input.parts).bind _) = _
  cases analyze B now req.input.parts with
  | ok a => rfl
  | error exc => rfl

end Answers

/-- **When the entrypoint honours the contract**: exactly if the body is an object whose task id, if
    there is one, is a UUID, and, if it is a task request, it is for this agent and its capability,
    and the domain event of its analysis is taken. -/
theorem honoursContract_iff {Raw : Type} (lib : HttpLibrary Raw) (B : Backend) (K : KafkaSide)
    (now : Time) (raw : Raw) :
    HonoursContract lib B K now raw ↔
      HasUsableId lib raw ∧
        ∀ body req, lib.json raw = some body → TaskRequest.modelValidate body = some req →
          IsServed B K req := by
  unfold HonoursContract
  constructor
  · intro h
    obtain ⟨r, hr, hgives⟩ := h
    refine ⟨exists_taskResult_iff.mp ⟨r, hr⟩, ?_⟩
    intro body req hbody hreq
    have hagree : statusOf (analyze B now req.input.parts) =
        Runtime.firstStatus billingRuntime (K.answer B) req ↔ IsServed B K req :=
      statuses_agree_iff req
    rw [← hagree, ← status_of_request hbody hreq hr]
    exact (hgives body req hbody hreq).unique (kafkaRun_gives hreq)
  · intro h
    obtain ⟨hid, hserved⟩ := h
    obtain ⟨r, hr⟩ := exists_taskResult_iff.mpr hid
    refine ⟨r, hr, ?_⟩
    intro body req hbody hreq
    rw [status_of_request hbody hreq hr, (statuses_agree_iff req).mpr (hserved body req hbody hreq)]
    exact kafkaRun_gives hreq

/-! ## A request for another agent -/

def nonnegative : Json → Option { x : ℚ // 0 ≤ x }
  | .num x => if h : 0 ≤ x then some ⟨x, h⟩ else none
  | _ => none

/-- The required fields of a refund request, and a dataset without the purchase. -/
def sampleBackend : Backend where
  eligibilityRequest j :=
    let request : Option RefundEligibilityRequest := do
      let caseId ← j.required "case_id" Json.asUuid
      let ticketId ← j.required "ticket_id" Json.asStr
      let customerId ← j.required "customer_id" Json.asStr
      let requestedRefundAmount ← j.required "requested_refund_amount" nonnegative
      let purchaseReference ← j.required "purchase_reference" Json.asStr
      pure { caseId, ticketId, customerId, requestedRefundAmount, purchaseReference }
    request.elim (.error "ValidationError") .ok
  loadFacts _ _ := none

theorem sampleId_lt : 7 < 2 ^ 128 := by norm_num

/-- A body is what its parser makes of it. -/
def sampleHttp : HttpLibrary (Option Json) where
  json := id
  uuid4 := ⟨7, sampleId_lt⟩
  typeName _ := "object"
  validationError _ := "ValidationError"

/-- Everything is sent, and there is no language model. -/
def sampleKafka : KafkaSide where
  eventId := 1
  correlationId := 2
  now := 0
  nextId := 100
  services := { narrative := fun _ _ _ => none, publish := fun _ _ _ => .ok () }
  sendResult _ := .ok ()
  sendAudit _ _ := .ok ()
  persist _ := .ok ()

/-- A task request with a refund request in it. -/
def sampleBody (targetAgentId : String) : Json :=
  .obj [
    ("task_id", .str "00000000-0000-0000-0000-000000000007"),
    ("capability", .str "analyze_refund_eligibility"),
    ("requester_agent_id", .str "test-client"),
    ("target_agent_id", .str targetAgentId),
    ("input", .obj [
      ("role", .str "user"),
      ("parts", .arr [.obj [
        ("type", .str "data"),
        ("data", .obj [
          ("case_id", .str "00000000-0000-0000-0000-000000000009"),
          ("ticket_id", .str "TKT-001"),
          ("customer_id", .str "CUS-001"),
          ("requested_refund_amount", .num 50),
          ("purchase_reference", .str "PR-UNKNOWN")])]])])]

/-- A body that is no JSON is answered with what is no task result, and a request for the risk agent
    is completed over HTTP and rejected over Kafka. -/
theorem misdirected_request_is_completed :
    (handleTask sampleHttp sampleBackend 0 none).taskResult = none ∧
    (handleTask sampleHttp sampleBackend 0 (some (sampleBody "risk-fraud-agent"))).taskResult.map
      TaskResult.status = some .completed ∧
    Runtime.Gives .rejected
      (kafkaRun sampleHttp sampleBackend sampleKafka (sampleBody "risk-fraud-agent")) ∧
    ¬ HonoursContract sampleHttp sampleBackend sampleKafka 0
      (some (sampleBody "risk-fraud-agent")) := by
  have hhttp : (handleTask sampleHttp sampleBackend 0
      (some (sampleBody "risk-fraud-agent"))).taskResult.map TaskResult.status = some .completed := by
    decide +kernel
  have hkafka : Runtime.Gives .rejected
      (kafkaRun sampleHttp sampleBackend sampleKafka (sampleBody "risk-fraud-agent")) :=
    Runtime.gives_iff.mpr (by decide +kernel)
  refine ⟨?_, hhttp, hkafka, ?_⟩
  · exact taskResult_handleTask_eq_none fun kvs h => by cases h
  · intro h
    obtain ⟨r, hr, hgives⟩ := h
    rw [hr, Option.map_some] at hhttp
    have hcompleted : r.status = .completed := Option.some.inj hhttp
    have hreq : (TaskRequest.modelValidate (sampleBody "risk-fraud-agent")).isSome = true := by
      decide +kernel
    obtain ⟨req, hreq⟩ := Option.isSome_iff_exists.mp hreq
    have hsame := (hgives _ req rfl hreq).unique hkafka
    rw [hcompleted] at hsame
    cases hsame

end RefundOps.Billing
