import RefundOps.Foundation.Lifecycle

/-!
# Every message is answered, or is it

Two promises of the runtime. It survives whatever arrives on its endpoint (`Robust`): no message
makes `_handle_message` raise, and one whose payload is no task request is rejected with a result.
And no result is lost for good (`NoLostResult`): however often the broker refused it, once a
request of the task is handled with publishing working a result is out.

Both hold up to one exit. `rejectPayload` makes a UUID of a task id it has not validated, outside
of any `try`. `dispatch` marks the task also if its result was refused, and `process` answers a
marked task with nothing. `robust_iff` and `noLostResult_iff` say exactly which messages, and which
histories of a task, come to that.
-/

set_option autoImplicit false

namespace RefundOps.Runtime

/-! ## Exits that return

What is published depends on the broker only, and every exit publishes one result. -/

/-- The results among what was observed. -/
def publishedResult : Obs → Option ResultEvent
  | .resultPublished ev => some ev
  | _ => none

section Exits

variable {rt : AgentRuntime} {answer : ∀ x, Reply x} {w : World} {envelope : Envelope}

theorem returns_taskIdForResult {Raw : Type} {codec : Codec Raw}
    {Q : UUID → List Obs → World → Prop}
    (husable : ∀ id, envelope.payload.get? "task_id" = some id → id.truthy = true →
      codec.uuid id ≠ none)
    (h : ∀ u w', w'.tracker = w.tracker → Q u [] w') :
    Coro.Returns answer (taskIdForResult codec envelope) w Q := by
  unfold taskIdForResult
  split
  · rename_i id hid
    split
    · rename_i htruthy
      cases hu : codec.uuid id with
      | none => exact absurd hu (husable id hid htruthy)
      | some u => exact .pure (h u w rfl)
    · exact ⟨_, _, _, rfl, h _ _ rfl⟩
  · exact ⟨_, _, _, rfl, h _ _ rfl⟩

/-- A payload that is no task request, with a task id that can be used or with none. -/
theorem returns_rejectPayload {Raw : Type} {codec : Codec Raw} (rt : AgentRuntime) (exc : String)
    (w : World) (hp : Publishing answer)
    (husable : ∀ id, envelope.payload.get? "task_id" = some id → id.truthy = true →
      codec.uuid id ≠ none) :
    Coro.Returns answer (rejectPayload rt codec envelope exc) w fun _ os _ =>
      ∃ ev, os.filterMap publishedResult = [ev] ∧ ev.result.status = .rejected := by
  apply Coro.Returns.bind
  refine returns_taskIdForResult husable ?_
  intro u w₁ _
  refine returns_settle ?_
  intro o o' w' ho ho' _
  obtain ⟨ev, rfl, hev⟩ := ho.of_publishing hp
  refine ⟨ev, ?_, by rw [hev]; rfl⟩
  cases ho' with
  | sent => rfl
  | lost => rfl

/-- One whose task id is no UUID makes the runtime raise. -/
theorem rejectPayload_raises {Raw : Type} {codec : Codec Raw} {exc : String} {id : Json}
    (hid : envelope.payload.get? "task_id" = some id) (htruthy : id.truthy = true)
    (hu : codec.uuid id = none) :
    (rejectPayload rt codec envelope exc).runSync answer w = ([], w, .error "ValueError") := by
  have hraise : taskIdForResult codec envelope = throw "ValueError" := by
    unfold taskIdForResult
    rw [hid]
    dsimp only
    rw [if_pos htruthy, hu]
  unfold rejectPayload
  rw [hraise]
  rfl

end Exits

/-! ## Robustness -/

section Robustness

variable {Raw : Type}

/-- Handling the message returns, and a payload that is no task request is rejected once. -/
structure Robust (rt : AgentRuntime) (codec : Codec Raw) (answer : ∀ x, Reply x) (raw : Raw)
    (w : World) : Prop where
  returns : ((handleMessage rt codec raw).runSync answer w).2.2 = .ok ()
  rejected : ∀ envelope exc, codec.envelope raw = .ok envelope →
    codec.taskRequest envelope.payload = .error exc →
    ∃ ev, ((handleMessage rt codec raw).runSync answer w).1.filterMap publishedResult = [ev] ∧
      ev.result.status = .rejected

/-- The payload is no task request and has a task id, which is no UUID. -/
def UnusableTaskId (codec : Codec Raw) (raw : Raw) : Prop :=
  ∃ envelope exc id, codec.envelope raw = .ok envelope ∧
    codec.taskRequest envelope.payload = .error exc ∧
    envelope.payload.get? "task_id" = some id ∧ id.truthy = true ∧ codec.uuid id = none

theorem handleMessage_of_invalid (rt : AgentRuntime) {codec : Codec Raw} {raw : Raw}
    {envelope : Envelope} {exc : String} (henv : codec.envelope raw = .ok envelope)
    (hreq : codec.taskRequest envelope.payload = .error exc) :
    handleMessage rt codec raw = rejectPayload rt codec envelope exc := by
  unfold handleMessage
  rw [henv]
  dsimp only
  rw [hreq]

/-- A message that is a task request is handled to its end, whatever its handler does. -/
theorem returns_handleMessage (rt : AgentRuntime) {codec : Codec Raw} {answer : ∀ x, Reply x}
    {raw : Raw} (w : World) {envelope : Envelope} {req : TaskRequest}
    (henv : codec.envelope raw = .ok envelope)
    (hreq : codec.taskRequest envelope.payload = .ok req) :
    Coro.Returns answer (handleMessage rt codec raw) w fun _ _ _ => True := by
  unfold handleMessage
  rw [henv]
  dsimp only
  rw [hreq]
  dsimp only
  split
  · exact returns_settle fun _ _ _ _ _ _ => trivial
  split
  · exact returns_settle fun _ _ _ _ _ _ => trivial
  · exact returns_process.mono fun _ _ _ _ => trivial

/-- **The runtime survives every message but those with an unusable task id.** -/
theorem robust_iff (rt : AgentRuntime) (codec : Codec Raw) (answer : ∀ x, Reply x) (raw : Raw)
    (w : World) (hp : Publishing answer) :
    Robust rt codec answer raw w ↔ ¬ UnusableTaskId codec raw := by
  constructor
  · rintro hrobust ⟨envelope, exc, id, henv, hreq, hid, htruthy, hu⟩
    have hreturns := hrobust.returns
    rw [handleMessage_of_invalid rt henv hreq, rejectPayload_raises hid htruthy hu] at hreturns
    exact absurd hreturns (by simp)
  · intro husable
    cases henv : codec.envelope raw with
    | error e =>
      have hmsg : handleMessage rt codec raw = pure () := by
        unfold handleMessage
        rw [henv]
      refine ⟨by rw [hmsg]; rfl, ?_⟩
      intro envelope exc henv' _
      rw [henv] at henv'
      exact absurd henv' (by simp)
    | ok envelope =>
      cases hreq : codec.taskRequest envelope.payload with
      | ok req =>
        obtain ⟨_, os, w', hrun, -⟩ := returns_handleMessage rt w henv hreq
        refine ⟨by rw [hrun], ?_⟩
        intro envelope' exc henv' hreq'
        obtain rfl := Except.ok.inj (henv.symm.trans henv')
        rw [hreq] at hreq'
        exact absurd hreq' (by simp)
      | error exc =>
        have hmsg := handleMessage_of_invalid rt henv hreq
        have hid : ∀ id, envelope.payload.get? "task_id" = some id → id.truthy = true →
            codec.uuid id ≠ none := by
          intro id hid htruthy hu
          exact husable ⟨envelope, exc, id, henv, hreq, hid, htruthy, hu⟩
        obtain ⟨_, os, w', hrun, hone⟩ := returns_rejectPayload rt exc w hp hid
        refine ⟨by rw [hmsg, hrun], ?_⟩
        intro _ _ _ _
        rw [hmsg, hrun]
        exact hone

end Robustness

/-- A message with a payload of its own. -/
def sampleMessage (payload : Json) : Json :=
  .obj [
    ("event_id", .str "00000000-0000-0000-0000-000000000002"),
    ("correlation_id", .str "00000000-0000-0000-0000-000000000001"),
    ("payload", payload)]

theorem robust_iff_no_task_id :
    Publishing sampleAnswer ∧
      Robust sampleRuntime sampleCodec sampleAnswer (sampleMessage (.obj [])) (start 100) := by
  refine ⟨sampleAnswer_publishing, ?_⟩
  refine (robust_iff _ _ _ _ _ sampleAnswer_publishing).mpr ?_
  rintro ⟨envelope, exc, id, henv, -, hid, -⟩
  obtain rfl : (⟨2, 1, .obj []⟩ : Envelope) = envelope := Except.ok.inj henv
  exact absurd hid (by simp [Json.get?])

/-- The payload has a task id and no other field of a request. -/
theorem task_id_that_is_no_uuid_raises :
    Publishing sampleAnswer ∧
      ((handleMessage sampleRuntime sampleCodec
        (sampleMessage (.obj [("task_id", .str "T-1")]))).runSync sampleAnswer (start 100)).2.2 =
          .error "ValueError" ∧
      ¬ Robust sampleRuntime sampleCodec sampleAnswer
        (sampleMessage (.obj [("task_id", .str "T-1")])) (start 100) := by
  refine ⟨sampleAnswer_publishing, rfl, ?_⟩
  intro hrobust
  exact absurd hrobust.returns (by nofun)

/-! ## No result is lost

The history of one task: its requests in the order of their handling, each with what the broker,
the handler and the tracker's topic do meanwhile. -/

/-- A handler publishes at most one result, so for the results it is enough whether the broker
    takes them. -/
structure Attempt (Raw : Type) where
  raw : Raw
  now : Time
  takesResults : Bool
  audit : UUID → AuditPayload → Except String Unit
  handler : TaskRequest → Except String A2AMessage
  persist : UUID → Except String Unit

namespace Attempt

variable {Raw : Type}

def answer (a : Attempt Raw) : ∀ x, Reply x
  | .sendResult _ => if a.takesResults then .ok () else .error "KafkaConnectionError"
  | .sendAudit id audit => a.audit id audit
  | .callHandler req => a.handler req
  | .persist taskId => a.persist taskId

def delivery (a : Attempt Raw) : Delivery Raw := { raw := a.raw, now := a.now, answer := a.answer }

/-- The task request of a message, whoever it is for. -/
def request (codec : Codec Raw) (a : Attempt Raw) : Option TaskRequest :=
  match codec.envelope a.raw with
  | .error _ => none
  | .ok envelope =>
      match codec.taskRequest envelope.payload with
      | .error _ => none
      | .ok req => some req

/-- It is for another agent, or for a capability that is not declared. -/
def Refused (rt : AgentRuntime) (codec : Codec Raw) (a : Attempt Raw) : Prop :=
  ∃ req, a.request codec = some req ∧
    (req.targetAgentId ≠ rt.agentId ∨ req.capability ∉ rt.capabilityIds)

/-- It is for this agent, and its capability has a handler. -/
def Runs (rt : AgentRuntime) (codec : Codec Raw) (a : Attempt Raw) : Prop :=
  ∃ req, a.request codec = some req ∧ req.targetAgentId = rt.agentId ∧ req.capability ∈ rt.handlers

end Attempt

section Results

variable {Raw : Type}

/-- A result for the task was published. -/
def Published (t : UUID) (os : List Obs) : Prop :=
  ∃ ev, Obs.resultPublished ev ∈ os ∧ ev.result.taskId = t

/-- Once a request is handled with publishing working, a result is out, of this attempt or of an
    earlier one. -/
def NoLostResult (rt : AgentRuntime) (codec : Codec Raw) (t : UUID) (as : List (Attempt Raw))
    (w : World) : Prop :=
  ∀ pre a post, as = pre ++ a :: post → Publishing a.answer →
    ∃ x ∈ deliverAll rt codec ((pre ++ [a]).map Attempt.delivery) w, Published t x.2

/-- Before a request that works is skipped, one was handled while the broker took results, and
    that one was refused or came before the handler had run. -/
def AnsweredBefore (rt : AgentRuntime) (codec : Codec Raw) (as : List (Attempt Raw)) : Prop :=
  ∀ pre a post, as = pre ++ a :: post → Publishing a.answer → ¬ a.Refused rt codec →
    (∃ e ∈ pre, e.Runs rt codec) →
    ∃ pre₁ b pre₂, pre = pre₁ ++ b :: pre₂ ∧ b.takesResults = true ∧
      (b.Refused rt codec ∨ ∀ e ∈ pre₁, ¬ e.Runs rt codec)

/-! ### One attempt -/

section Attempts

variable {rt : AgentRuntime} {codec : Codec Raw} {a : Attempt Raw} {w : World}
  {envelope : Envelope} {req : TaskRequest}

theorem published_append {t : UUID} {os os' : List Obs} :
    Published t (os ++ os') ↔ Published t os ∨ Published t os' := by
  unfold Published
  simp only [List.mem_append, or_and_right, exists_or]

/-- A result is published if the broker takes it. -/
theorem ResultSeen.published {result : TaskResult} {o : Obs} (h : ResultSeen a.answer result o) :
    Published result.taskId [o] ↔ a.takesResults = true := by
  cases h with
  | @sent ev hev hsent =>
    refine iff_of_true ⟨ev, List.mem_singleton_self _, by rw [hev]⟩ ?_
    by_contra hno
    exact absurd ((if_neg hno).symm.trans hsent) (by simp)
  | lost hev hlost =>
    refine iff_of_false (by simp [Published]) ?_
    intro htakes
    exact absurd ((if_pos htakes).symm.trans hlost) (by simp)

theorem AuditSeen.not_published {outcome : AuditOutcome} {taskId : Option UUID} {o : Obs} {t : UUID}
    (h : AuditSeen a.answer outcome taskId o) : ¬ Published t [o] := by
  cases h with
  | sent => simp [Published]
  | lost => simp [Published]

/-- An audit record does not change what is published. -/
theorem published_cons_audit {outcome : AuditOutcome} {taskId : Option UUID} {o : Obs} {t : UUID}
    {os : List Obs} (h : AuditSeen a.answer outcome taskId o) :
    Published t (o :: os) ↔ Published t os := by
  rw [show o :: os = [o] ++ os from rfl, published_append]
  exact or_iff_right h.not_published

theorem published_settle {result : TaskResult} {outcome : AuditOutcome} {taskId : Option UUID}
    {o o' : Obs} (ho : ResultSeen a.answer result o) (ho' : AuditSeen a.answer outcome taskId o') :
    Published result.taskId [o, o'] ↔ a.takesResults = true := by
  rw [show [o, o'] = [o] ++ [o'] from rfl, published_append, ho.published]
  exact or_iff_left ho'.not_published

/-- The task is marked whether its result was taken or not. -/
theorem Dispatched.published {os : List Obs} (h : Dispatched a.answer req os) :
    Published req.taskId os ↔ a.takesResults = true := by
  have hmid : ∀ o o' : Obs,
      Published req.taskId [.handlerCalled req, o, o', .markedProcessed req.taskId] ↔
        Published req.taskId [o, o'] := by
    intro o o'
    simp [Published]
  cases h with
  | completed ht _ ho ho' =>
    rw [hmid, ← ht]
    exact published_settle ho ho'
  | failed ht _ ho ho' =>
    rw [hmid, ← ht]
    exact published_settle ho ho'

theorem Processed.published {os : List Obs} {tracker tracker' : LRUCache UUID}
    (h : Processed a.answer rt req tracker os tracker') :
    (Published req.taskId os ↔ a.takesResults = true ∧ req.taskId ∉ tracker.keys) ∧
      tracker' = if req.taskId ∉ tracker.keys ∧ req.capability ∈ rt.handlers then
          (tracker.contains req.taskId).2.add req.taskId
        else (tracker.contains req.taskId).2 := by
  cases h with
  | skipped hdup ho =>
    rw [if_neg fun h => h.1 hdup]
    exact ⟨iff_of_false ho.not_published fun h => h.2 hdup, rfl⟩
  | executed hnew hhandler ho hos =>
    rw [if_pos ⟨hnew, hhandler⟩, published_cons_audit ho, hos.published]
    exact ⟨(and_iff_left hnew).symm, rfl⟩
  | unhandled hnew hhandler ho ht _ ho₁ ho₂ =>
    rw [if_neg fun h => hhandler h.2, published_cons_audit ho, ← ht, published_settle ho₁ ho₂]
    exact ⟨(and_iff_left (ht ▸ hnew)).symm, rfl⟩

/-- What is left to do with a task request. -/
theorem handleMessage_of_attempt (rt : AgentRuntime) (hreq : a.request codec = some req) :
    ∃ envelope, handleMessage rt codec a.raw =
      if req.targetAgentId ≠ rt.agentId then rejectTarget rt envelope req
      else if req.capability ∉ rt.capabilityIds then rejectCapability rt envelope req
      else process rt envelope req := by
  unfold Attempt.request at hreq
  split at hreq
  · cases hreq
  rename_i envelope henv
  split at hreq
  · cases hreq
  rename_i req' hparse
  obtain rfl := Option.some.inj hreq
  refine ⟨envelope, ?_⟩
  unfold handleMessage
  rw [henv]
  dsimp only
  rw [hparse]

theorem refused_iff (hreq : a.request codec = some req) :
    a.Refused rt codec ↔ req.targetAgentId ≠ rt.agentId ∨ req.capability ∉ rt.capabilityIds := by
  unfold Attempt.Refused
  simp [hreq]

theorem runs_iff (hreq : a.request codec = some req) :
    a.Runs rt codec ↔ req.targetAgentId = rt.agentId ∧ req.capability ∈ rt.handlers := by
  unfold Attempt.Runs
  simp [hreq]

/-- What an attempt at the task `t` comes to: a result is published if the broker takes it and
    the task is refused or not marked yet, and the task is marked if it was or if its handler
    runs. -/
structure Tried (rt : AgentRuntime) (codec : Codec Raw) (a : Attempt Raw) (t : UUID) (w : World)
    (os : List Obs) (w' : World) : Prop where
  published : Published t os ↔
    a.takesResults = true ∧ (a.Refused rt codec ∨ t ∉ w.tracker.keys)
  roomy : Roomy {t} w'
  marked : t ∈ w'.tracker.keys ↔ t ∈ w.tracker.keys ∨ a.Runs rt codec

theorem tried_of_refused {os : List Obs} {w' : World} (hreq : a.request codec = some req)
    (hw : Roomy {req.taskId} w) (href : a.Refused rt codec)
    (hos : Published req.taskId os ↔ a.takesResults = true) (hw' : w'.tracker = w.tracker) :
    Tried rt codec a req.taskId w os w' where
  published := hos.trans (and_iff_left (.inl href)).symm
  roomy := ⟨hw' ▸ hw.fits, hw' ▸ hw.keys⟩
  marked := by
    rw [hw']
    refine (or_iff_left ?_).symm
    rw [runs_iff hreq]
    rintro ⟨htarget, hhandler⟩
    rcases (refused_iff hreq).mp href with href | href
    · exact href htarget
    · exact href (rt.declared _ hhandler)

theorem tried_of_processed {os : List Obs} {w' : World} (hreq : a.request codec = some req)
    (hw : Roomy {req.taskId} w) (href : ¬ a.Refused rt codec)
    (hos : Published req.taskId os ↔ a.takesResults = true ∧ req.taskId ∉ w.tracker.keys)
    (hw' : w'.tracker = if req.taskId ∉ w.tracker.keys ∧ req.capability ∈ rt.handlers then
      (w.tracker.contains req.taskId).2.add req.taskId else (w.tracker.contains req.taskId).2) :
    Tried rt codec a req.taskId w os w' := by
  have hruns : a.Runs rt codec ↔ req.capability ∈ rt.handlers := by
    rw [refused_iff hreq, not_or, not_not] at href
    rw [runs_iff hreq]
    exact and_iff_right href.1
  have hadd := hw.mem_mark (Finset.mem_singleton_self req.taskId)
  refine ⟨by rw [hos, or_iff_right href], ?_, ?_⟩
  · have hkeys := hw.keys
    have hfits := hw.fits
    refine ⟨?_, ?_⟩
    · rw [hw']
      split <;> simpa using hfits
    · intro u hu
      rw [hw'] at hu
      split at hu
      · rcases (hadd u).mp hu with rfl | hu
        · exact Finset.mem_singleton_self _
        · exact hkeys u hu
      · exact hkeys u (by simpa using hu)
  · rw [hw', hruns]
    split
    · rename_i hnew
      rw [hadd]
      exact iff_of_true (.inl rfl) (.inr hnew.2)
    · rename_i hold
      rw [LRUCache.mem_contains]
      refine (or_iff_left_of_imp ?_).symm
      intro hhandler
      by_contra hnew
      exact hold ⟨hnew, hhandler⟩

theorem deliver_attempt (hreq : a.request codec = some req) (hw : Roomy {req.taskId} w) :
    Tried rt codec a req.taskId w (deliver rt codec a.delivery w).1
      (deliver rt codec a.delivery w).2 := by
  obtain ⟨envelope, hmsg⟩ := handleMessage_of_attempt rt hreq
  have hout : Coro.Returns a.answer (handleMessage rt codec a.raw) { w with now := a.now }
      fun _ => Tried rt codec a req.taskId w := by
    rw [hmsg]
    split
    · rename_i htarget
      refine returns_settle ?_
      intro o o' w' ho ho' hw'
      exact tried_of_refused hreq hw ((refused_iff hreq).mpr (.inl htarget))
        (published_settle ho ho') hw'
    split
    · rename_i hcap
      refine returns_settle ?_
      intro o o' w' ho ho' hw'
      exact tried_of_refused hreq hw ((refused_iff hreq).mpr (.inr hcap))
        (published_settle ho ho') hw'
    · rename_i htarget hcap
      have href : ¬ a.Refused rt codec := by
        rw [refused_iff hreq, not_or]
        exact ⟨htarget, hcap⟩
      refine returns_process.mono ?_
      intro _ os w' hdone
      obtain ⟨hos, hw'⟩ := hdone.published
      exact tried_of_processed hreq hw href hos hw'
  obtain ⟨_, os, w', hrun, htried⟩ := hout
  have hdeliver : deliver rt codec a.delivery w = (os, w') := by
    unfold deliver
    show (let out := (handleMessage rt codec a.raw).runSync a.answer { w with now := a.now }
      (out.1, out.2.1)) = _
    rw [hrun]
  rw [hdeliver]
  exact htried

end Attempts

/-! ### The history of a task -/

/-- A result was published if the broker took results while some request was handled that was
    refused, or that came while the task was not marked. -/
theorem published_iff {rt : AgentRuntime} {codec : Codec Raw} {t : UUID} {as : List (Attempt Raw)}
    {w : World} (has : ∀ a ∈ as, ∃ req, a.request codec = some req ∧ req.taskId = t)
    (hw : Roomy {t} w) :
    (∃ x ∈ deliverAll rt codec (as.map Attempt.delivery) w, Published t x.2) ↔
      ∃ pre b post, as = pre ++ b :: post ∧ b.takesResults = true ∧
        (b.Refused rt codec ∨ t ∉ w.tracker.keys ∧ ∀ e ∈ pre, ¬ e.Runs rt codec) := by
  induction as generalizing w with
  | nil => simp [deliverAll]
  | cons a as ih =>
    obtain ⟨⟨req, hreq, ht⟩, has⟩ := List.forall_mem_cons.mp has
    subst ht
    have htried : Tried rt codec a req.taskId w _ _ := deliver_attempt hreq hw
    simp only [List.map_cons, deliverAll, List.exists_mem_cons_iff, htried.published,
      ih has htried.roomy, htried.marked, not_or]
    constructor
    · rintro (⟨htakes, href⟩ | ⟨pre, b, post, rfl, htakes, href⟩)
      · exact ⟨[], a, as, rfl, htakes, href.imp_right fun hnew => ⟨hnew, by simp⟩⟩
      · refine ⟨a :: pre, b, post, rfl, htakes, href.imp_right ?_⟩
        rintro ⟨⟨hnew, hruns⟩, hpre⟩
        exact ⟨hnew, List.forall_mem_cons.mpr ⟨hruns, hpre⟩⟩
    · rintro ⟨pre, b, post, heq, htakes, href⟩
      cases pre with
      | nil =>
        obtain ⟨rfl, -⟩ := List.cons.inj heq
        exact .inl ⟨htakes, href.imp_right fun h => h.1⟩
      | cons e pre =>
        obtain ⟨rfl, rfl⟩ := List.cons.inj heq
        refine .inr ⟨pre, b, post, rfl, htakes, href.imp_right ?_⟩
        rintro ⟨hnew, hpre⟩
        obtain ⟨hruns, hpre⟩ := List.forall_mem_cons.mp hpre
        exact ⟨⟨hnew, hruns⟩, hpre⟩

theorem takesResults_of_publishing {a : Attempt Raw} (h : Publishing a.answer) :
    a.takesResults = true := by
  have hsent := h.result ⟨0, 0, 0, failedResult ⟨"", [], [], by simp⟩ 0 .internal "" (.inr rfl)⟩
  by_contra htakes
  simp [Attempt.answer, htakes] at hsent

/-- **When no result is lost**: exactly if each request that works and is skipped comes after one
    that was answered. -/
theorem noLostResult_iff (rt : AgentRuntime) (codec : Codec Raw) (t : UUID)
    (as : List (Attempt Raw)) (nextId : UUID)
    (has : ∀ a ∈ as, ∃ req, a.request codec = some req ∧ req.taskId = t) :
    NoLostResult rt codec t as (start nextId) ↔ AnsweredBefore rt codec as := by
  have hstart : Roomy {t} (start nextId) :=
    ⟨by simp [start, LRUCache.empty, trackerSize], by simp [start, LRUCache.empty]⟩
  have hfresh : t ∉ (start nextId).tracker.keys := by simp [start, LRUCache.empty]
  unfold NoLostResult AnsweredBefore
  refine forall_congr' fun pre => forall_congr' fun a => forall_congr' fun post =>
    forall_congr' fun heq => forall_congr' fun hworks => ?_
  have hsome : ∀ b ∈ pre ++ [a], ∃ req, b.request codec = some req ∧ req.taskId = t := by
    intro b hb
    refine has b ?_
    rw [heq]
    simp only [List.mem_append, List.mem_cons] at hb ⊢
    tauto
  rw [published_iff hsome hstart]
  constructor
  · rintro ⟨pre', b, post', hsplit, htakes, hb⟩ href ⟨e, he, hruns⟩
    have hb' : b.Refused rt codec ∨ ∀ e ∈ pre', ¬ e.Runs rt codec := hb.imp_right fun h => h.2
    rcases List.eq_nil_or_concat post' with rfl | ⟨post', l, rfl⟩
    · -- the request itself would have been answered
      obtain ⟨rfl, hlast⟩ := List.append_inj' hsplit rfl
      obtain rfl := List.singleton_inj.mp hlast
      exact (hb'.elim href fun hnone => hnone e he hruns).elim
    · have hsplit' : pre ++ [a] = (pre' ++ b :: post') ++ [l] := by simpa using hsplit
      obtain ⟨rfl, -⟩ := List.append_inj' hsplit' rfl
      exact ⟨pre', b, post', rfl, htakes, hb'⟩
  · intro hanswered
    by_cases hdone : a.Refused rt codec ∨ ∀ e ∈ pre, ¬ e.Runs rt codec
    · exact ⟨pre, a, [], rfl, takesResults_of_publishing hworks, hdone.imp_right fun h => ⟨hfresh, h⟩⟩
    · simp only [not_or, not_forall, not_not, exists_prop] at hdone
      obtain ⟨pre₁, b, pre₂, rfl, htakes, hb⟩ := hanswered hdone.1 hdone.2
      exact ⟨pre₁, b, pre₂ ++ [a], by simp, htakes, hb.imp_right fun h => ⟨hfresh, h⟩⟩

end Results

/-! ### A task whose result the broker refuses at first -/

/-- The request of task 7, for a handler that returns. -/
def sampleAttempt (eventId : String) (takesResults : Bool) : Attempt Json where
  raw := (sampleDelivery eventId).raw
  now := 0
  takesResults
  audit := fun _ _ => .ok ()
  handler := fun req => sampleAnswer (.callHandler req)
  persist := fun _ => .ok ()

def sampleHistory (takesResults : Bool) : List (Attempt Json) :=
  [sampleAttempt "00000000-0000-0000-0000-000000000002" takesResults,
    sampleAttempt "00000000-0000-0000-0000-000000000003" true]

theorem sampleHistory_requests (takesResults : Bool) : ∀ a ∈ sampleHistory takesResults,
    ∃ req, a.request sampleCodec = some req ∧ req.taskId = 7 := by
  intro a ha
  rcases List.mem_cons.mp ha with rfl | ha
  · exact ⟨sampleRequest, rfl, rfl⟩
  · rw [List.mem_singleton.mp ha]
    exact ⟨sampleRequest, rfl, rfl⟩

theorem noLostResult_iff_sample :
    (∀ a ∈ sampleHistory true, ∃ req, a.request sampleCodec = some req ∧ req.taskId = 7) ∧
      NoLostResult sampleRuntimeHandling sampleCodec 7 (sampleHistory true) (start 100) := by
  refine ⟨sampleHistory_requests true, ?_⟩
  refine (noLostResult_iff _ _ _ _ _ (sampleHistory_requests true)).mpr ?_
  rintro pre a post heq - - ⟨e, he, -⟩
  cases pre with
  | nil => exact absurd he List.not_mem_nil
  | cons b pre =>
    obtain ⟨rfl, -⟩ := List.cons.inj heq
    exact ⟨[], _, pre, rfl, rfl, .inr (by simp)⟩

/-- The result of the first attempt is refused, and the second attempt has none. -/
theorem refused_result_is_lost :
    (∀ a ∈ sampleHistory false, ∃ req, a.request sampleCodec = some req ∧ req.taskId = 7) ∧
      Publishing (sampleAttempt "00000000-0000-0000-0000-000000000003" true).answer ∧
      (deliverAll sampleRuntimeHandling sampleCodec
        ((sampleHistory false).map Attempt.delivery) (start 100)).map
          (fun x => (x.2.filterMap (auditOf 7), x.2.filterMap (resultOf 7))) =
        [([.accepted, .completed], []), ([.duplicateSkipped], [])] ∧
      ¬ NoLostResult sampleRuntimeHandling sampleCodec 7 (sampleHistory false) (start 100) := by
  have hworks : Publishing (sampleAttempt "00000000-0000-0000-0000-000000000003" true).answer :=
    ⟨fun _ => rfl, fun _ _ => rfl⟩
  have hrecords : (deliverAll sampleRuntimeHandling sampleCodec
      ((sampleHistory false).map Attempt.delivery) (start 100)).map
        (fun x => (x.2.filterMap (auditOf 7), x.2.filterMap (resultOf 7))) =
      [([.accepted, .completed], []), ([.duplicateSkipped], [])] := rfl
  refine ⟨sampleHistory_requests false, hworks, hrecords, ?_⟩
  intro hnolost
  obtain ⟨x, hx, ev, hev, ht⟩ := hnolost [_] _ [] rfl hworks
  have hresult : x.2.filterMap (resultOf 7) = [] := by
    have hmem := List.mem_map_of_mem
      (f := fun x : Delivery Json × List Obs => (x.2.filterMap (auditOf 7), x.2.filterMap (resultOf 7))) hx
    have hmem' : (x.2.filterMap (auditOf 7), x.2.filterMap (resultOf 7)) ∈
        ([([.accepted, .completed], []), ([.duplicateSkipped], [])] :
          List (List AuditOutcome × List TaskStatus)) := hrecords ▸ hmem
    simp only [List.mem_cons, Prod.mk.injEq, List.not_mem_nil, or_false] at hmem'
    rcases hmem' with ⟨-, h⟩ | ⟨-, h⟩ <;> exact h
  have hsome : ev.result.status ∈ x.2.filterMap (resultOf 7) :=
    List.mem_filterMap.mpr ⟨_, hev, by simp [resultOf, ht]⟩
  rw [hresult] at hsome
  exact absurd hsome List.not_mem_nil

end RefundOps.Runtime
