import RefundOps.Foundation.FirstAnswer
import RefundOps.Foundation.Tracker

/-!
# Calls of the handler

What a delivery does to the tracker, which handler it calls, what it marks and what it answers, depends
on what the tracker holds and on what the handler returns, and on nothing else: the broker has no say in
it (`deliver_delivered`).

What a runtime marks is what it calls the handler for. So a tracker that is rebuilt from the marks holds
what the old one held, as long as there is room for all of them, and a handler is called once for a task,
across restarts (`AtMostOnce`).
-/

set_option autoImplicit false

namespace RefundOps.Runtime

def calledFor : Obs → Option TaskRequest
  | .handlerCalled req => some req
  | _ => none

def markedFor : Obs → Option UUID
  | .markedProcessed taskId => some taskId
  | _ => none

/-! ## One delivery -/

theorem handlerError_fails :
    ErrorCategory.handlerError = .handlerError ∨ ErrorCategory.handlerError = .internal := .inl rfl

theorem internal_fails :
    ErrorCategory.internal = .handlerError ∨ ErrorCategory.internal = .internal := .inr rfl

theorem unsupportedCapability_rejects :
    ErrorCategory.unsupportedCapability = .validation ∨
      ErrorCategory.unsupportedCapability = .unsupportedCapability ∨
      ErrorCategory.unsupportedCapability = .duplicate := .inr (.inl rfl)

/-- The answer of a handler, as a result. -/
def attempted (rt : AgentRuntime) (answer : ∀ x, Reply x) (req : TaskRequest) : TaskResult :=
  match (answer (.callHandler req) : Except String A2AMessage) with
  | .ok output => completedResult rt req.taskId output
  | .error exc => failedResult rt req.taskId .handlerError (excText exc) handlerError_fails

/-- What a runtime answers to a request for it, if it answers. -/
def answerTo (rt : AgentRuntime) (answer : ∀ x, Reply x) (req : TaskRequest) : TaskResult :=
  if req.capability ∉ rt.capabilityIds then
    rejectedResult rt req.taskId .unsupportedCapability
      ("Capability " ++ Text.repr req.capability ++ " is not supported") unsupportedCapability_rejects
  else if req.capability ∉ rt.handlers then
    failedResult rt req.taskId .internal "No handler registered for this capability" internal_fails
  else attempted rt answer req

/-- What can be seen: the calls, the marks, the answers. -/
structure Shown (os : List Obs) (calls : List TaskRequest) (marks : List UUID)
    (results : List TaskResult) : Prop where
  calls : os.filterMap calledFor = calls
  marks : os.filterMap markedFor = marks
  results : os.filterMap givenResult = results

section Shown

variable {rt : AgentRuntime} {answer : ∀ x, Reply x} {w : World} {envelope : Envelope}
  {req : TaskRequest} {result : TaskResult} {outcome : AuditOutcome} {taskId : Option UUID}
  {o o' : Obs} {os os' : List Obs} {calls calls' : List TaskRequest} {marks marks' : List UUID}
  {results results' : List TaskResult}

theorem Shown.append (h : Shown os calls marks results) (h' : Shown os' calls' marks' results') :
    Shown (os ++ os') (calls ++ calls') (marks ++ marks') (results ++ results') := by
  refine ⟨?_, ?_, ?_⟩
  · rw [List.filterMap_append, h.calls, h'.calls]
  · rw [List.filterMap_append, h.marks, h'.marks]
  · rw [List.filterMap_append, h.results, h'.results]

theorem shown_audit (h : AuditSeen answer outcome taskId o) : Shown [o] [] [] [] := by
  cases h with
  | sent => exact ⟨rfl, rfl, rfl⟩
  | lost => exact ⟨rfl, rfl, rfl⟩

theorem shown_result (h : ResultSeen answer result o) : Shown [o] [] [] [result] := by
  cases h with
  | sent hev => exact ⟨rfl, rfl, congrArg (fun r => [r]) hev⟩
  | lost hev => exact ⟨rfl, rfl, congrArg (fun r => [r]) hev⟩

theorem shown_settle (h : ResultSeen answer result o) (h' : AuditSeen answer outcome taskId o') :
    Shown [o, o'] [] [] [result] := (shown_result h).append (shown_audit h')

/-- The handler is called, what it makes of the request is the answer, and the task is marked. -/
theorem dispatch_shown : Coro.Returns answer (dispatch rt envelope req) w fun _ os w' =>
    Shown os [req] [req.taskId] [attempted rt answer req] ∧
      w'.tracker = w.tracker.add req.taskId := by
  have hcall := runSync_callHandler answer req w
  have hmark : ∀ (os : List Obs) (w₁ : World) (result : TaskResult), w₁.tracker = w.tracker →
      Shown os [req] [] [result] →
      Coro.Returns answer (markProcessed req.taskId) w₁ fun _ os' w' =>
        Shown (os ++ os') [req] [req.taskId] [result] ∧ w'.tracker = w.tracker.add req.taskId := by
    intro os w₁ result hw₁ hos
    refine ⟨(), [.markedProcessed req.taskId], { w₁ with tracker := w₁.tracker.add req.taskId },
      rfl, ?_, by rw [hw₁]⟩
    have hmarked : Shown [.markedProcessed req.taskId] [] [req.taskId] [] := ⟨rfl, rfl, rfl⟩
    simpa using hos.append hmarked
  have hcalled : Shown [.handlerCalled req] [req] [] [] := ⟨rfl, rfl, rfl⟩
  unfold attempted
  apply Coro.Returns.bind
  -- neither the result nor the audit raises, so only the handler can end up in `recover`
  cases hanswer : (answer (.callHandler req) : Except String A2AMessage) with
  | ok output =>
    rw [hanswer] at hcall
    refine Coro.Returns.tryCatch ?_
    apply Coro.Returns.bind
    refine ⟨output, _, _, hcall, ?_⟩
    refine returns_settle ?_
    intro o o' w₁ ho ho' hw₁
    exact hmark _ w₁ _ hw₁ (hcalled.append (shown_settle ho ho'))
  | error exc =>
    rw [hanswer] at hcall
    have hraised : (attempt rt envelope req).runSync answer w =
        ([.handlerCalled req], w, .error exc) := by
      unfold attempt
      rw [Coro.runSync_bind, hcall]
    refine Coro.Returns.tryCatch_raised hraised ?_
    refine returns_settle ?_
    intro o o' w₁ ho ho' hw₁
    exact hmark _ w₁ _ hw₁ (hcalled.append (shown_settle ho ho'))

end Shown

/-- The four things that can become of a request for this agent. -/
inductive Delivered (rt : AgentRuntime) (answer : ∀ x, Reply x) (req : TaskRequest)
    (tracker : LRUCache UUID) : List Obs → LRUCache UUID → Prop where
  | refused {os : List Obs} (hcap : req.capability ∉ rt.capabilityIds)
      (hos : Shown os [] [] [answerTo rt answer req]) : Delivered rt answer req tracker os tracker
  | skipped {os : List Obs} (hcap : req.capability ∈ rt.capabilityIds)
      (hdup : req.taskId ∈ tracker.keys) (hos : Shown os [] [] []) :
      Delivered rt answer req tracker os (tracker.contains req.taskId).2
  | unhandled {os : List Obs} (hhandler : req.capability ∉ rt.handlers)
      (hnew : req.taskId ∉ tracker.keys) (hos : Shown os [] [] [answerTo rt answer req]) :
      Delivered rt answer req tracker os (tracker.contains req.taskId).2
  | executed {os : List Obs} (hhandler : req.capability ∈ rt.handlers)
      (hnew : req.taskId ∉ tracker.keys)
      (hos : Shown os [req] [req.taskId] [answerTo rt answer req]) :
      Delivered rt answer req tracker os ((tracker.contains req.taskId).2.add req.taskId)

section Deliveries

variable {Raw : Type} {rt : AgentRuntime} {codec : Codec Raw} {answer : ∀ x, Reply x}
  {envelope : Envelope} {req : TaskRequest} {w : World} {d : Delivery Raw}

theorem answerTo_of_handled (h : req.capability ∈ rt.handlers) :
    answerTo rt answer req = attempted rt answer req := by
  unfold answerTo
  rw [if_neg (not_not.mpr (rt.declared _ h)), if_neg (not_not.mpr h)]

theorem process_delivered (hcap : req.capability ∈ rt.capabilityIds) :
    Coro.Returns answer (process rt envelope req) w fun _ os w' =>
      Delivered rt answer req w.tracker os w'.tracker := by
  apply Coro.Returns.bind
  refine ⟨(w.tracker.contains req.taskId).1, [],
    { w with tracker := (w.tracker.contains req.taskId).2 }, rfl, ?_⟩
  rw [LRUCache.contains_fst]
  dsimp only
  by_cases hdup : req.taskId ∈ w.tracker.keys
  · rw [if_pos (decide_eq_true hdup)]
    refine returns_writeTaskAudit ?_
    intro o w' ho hw'
    rw [hw']
    exact .skipped hcap hdup (shown_audit ho)
  · rw [if_neg (by simpa using hdup)]
    apply Coro.Returns.bind
    refine returns_writeTaskAudit ?_
    intro o w₁ ho hw₁
    split
    · rename_i hhandler
      refine dispatch_shown.mono ?_
      rintro _ os w₂ ⟨hos, hw₂⟩
      rw [hw₂, hw₁]
      refine .executed hhandler hdup ?_
      rw [answerTo_of_handled hhandler]
      exact (shown_audit ho).append hos
    · rename_i hhandler
      refine returns_settle ?_
      intro o₁ o₂ w₂ ho₁ ho₂ hw₂
      rw [hw₂, hw₁]
      refine .unhandled hhandler hdup ?_
      unfold answerTo
      rw [if_neg (not_not.mpr hcap), if_pos hhandler]
      exact (shown_audit ho).append (shown_settle ho₁ ho₂)

/-- **What becomes of a request for this agent.** -/
theorem deliver_delivered (h : requestOf rt codec d.raw = some req) :
    Delivered rt d.answer req w.tracker (deliver rt codec d w).1 (deliver rt codec d w).2.tracker := by
  obtain ⟨envelope, hmsg⟩ := handleMessage_of_request h
  have hout : Coro.Returns d.answer (handleMessage rt codec d.raw) { w with now := d.now }
      fun _ os w' => Delivered rt d.answer req w.tracker os w'.tracker := by
    rw [hmsg]
    split
    · rename_i hcap
      refine returns_settle ?_
      intro o o' w' ho ho' hw'
      rw [hw']
      refine .refused hcap ?_
      unfold answerTo
      rw [if_pos hcap]
      exact shown_settle ho ho'
    · rename_i hcap
      exact process_delivered (not_not.mp hcap)
  obtain ⟨_, os, w', hrun, hdelivered⟩ := hout
  unfold deliver
  rw [hrun]
  exact hdelivered

/-- A request that is offered and handled is handled if its task was not processed, and is processed
    then. -/
theorem deliver_calls (h : requestOf rt codec d.raw = some req)
    (hhandler : req.capability ∈ rt.handlers) :
    (deliver rt codec d w).1.filterMap calledFor =
        (if req.taskId ∈ w.tracker.keys then [] else [req]) ∧
      (deliver rt codec d w).2.tracker =
        (if req.taskId ∈ w.tracker.keys then (w.tracker.contains req.taskId).2
          else (w.tracker.contains req.taskId).2.add req.taskId) := by
  have hdelivered := deliver_delivered (w := w) h
  generalize (deliver rt codec d w).1 = os at hdelivered ⊢
  generalize (deliver rt codec d w).2.tracker = tracker at hdelivered ⊢
  cases hdelivered with
  | refused hcap => exact absurd (rt.declared _ hhandler) hcap
  | skipped _ hdup hos =>
    rw [if_pos hdup, if_pos hdup]
    exact ⟨hos.calls, rfl⟩
  | unhandled hnone => exact absurd hhandler hnone
  | executed _ hnew hos =>
    rw [if_neg hnew, if_neg hnew]
    exact ⟨hos.calls, rfl⟩

end Deliveries

/-! ## A restart -/

/-- A runtime whose tracker is rebuilt from what was marked, compacted or not. -/
def Rebuilt (marks : List UUID) (w : World) : Prop :=
  ∃ topic, Compacts id marks topic ∧ w.tracker = rebuilt topic

/-- With room for all marks, none is forgotten. -/
theorem Rebuilt.roomy {F : Finset UUID} {marks : List UUID} {w : World} (h : Rebuilt marks w)
    (hF : F.card ≤ trackerSize) (hmarks : ∀ u ∈ marks, u ∈ F) :
    Roomy F w ∧ ∀ u, u ∈ w.tracker.keys ↔ u ∈ marks := by
  obtain ⟨topic, hc, htracker⟩ := h
  obtain ⟨-, hsize, hkeys⟩ := rebuilt_spec topic
  have hmem : ∀ u, u ∈ topic ↔ u ∈ marks := fun u => by simpa using hc.mem_keys_iff u
  have hroom : topic.dedup.length ≤ trackerSize := by
    rw [← List.card_toFinset]
    refine (Finset.card_le_card fun u hu => ?_).trans hF
    exact hmarks u ((hmem u).mp (List.mem_toFinset.mp hu))
  have hall : ∀ u, u ∈ w.tracker.keys ↔ u ∈ marks := by
    intro u
    rw [htracker, hkeys, recent, rtake_of_length_le hroom, List.mem_dedup, hmem]
  exact ⟨⟨by rw [htracker, hsize]; exact hF, fun u hu => hmarks u ((hall u).mp hu)⟩, hall⟩

/-! ## One call for a task -/

/-- A runtime with room for the tasks `F`: its tracker holds what was marked, and what its handlers were
    called for is marked, and was called for once. -/
structure AtMostOnce (F : Finset UUID) (w : World) (marks : List UUID) (calls : List TaskRequest) :
    Prop where
  enough : F.card ≤ trackerSize
  roomy : Roomy F w
  marked : ∀ u, u ∈ w.tracker.keys ↔ u ∈ marks
  processed : ∀ req ∈ calls, req.taskId ∈ marks
  once : ∀ u, calls.countP (·.taskId == u) ≤ 1

namespace AtMostOnce

variable {F : Finset UUID} {w w' : World} {marks : List UUID} {calls : List TaskRequest}

protected theorem start (hF : F.card ≤ trackerSize) (nextId : UUID) :
    AtMostOnce F (Runtime.start nextId) [] [] where
  enough := hF
  roomy := ⟨hF, fun _ hu => absurd hu List.not_mem_nil⟩
  marked := fun _ => Iff.rfl
  processed := by simp
  once := by simp

theorem restart (h : AtMostOnce F w marks calls) (hw : Rebuilt marks w') :
    AtMostOnce F w' marks calls := by
  obtain ⟨hroomy, hkeys⟩ := hw.roomy h.enough fun u hu => h.roomy.keys u ((h.marked u).mpr hu)
  exact ⟨h.enough, hroomy, hkeys, h.processed, h.once⟩

/-- A tracker that holds the same tasks. -/
theorem touch (h : AtMostOnce F w marks calls) (hsize : w'.tracker.maxsize = w.tracker.maxsize)
    (hkeys : ∀ u, u ∈ w'.tracker.keys ↔ u ∈ w.tracker.keys) : AtMostOnce F w' marks calls where
  enough := h.enough
  roomy := ⟨hsize ▸ h.roomy.fits, fun u hu => h.roomy.keys u ((hkeys u).mp hu)⟩
  marked := fun u => (hkeys u).trans (h.marked u)
  processed := h.processed
  once := h.once

/-- A request that is executed was not called for before. -/
theorem countP_eq_zero {req : TaskRequest} (h : AtMostOnce F w marks calls)
    (hnew : req.taskId ∉ w.tracker.keys) : calls.countP (·.taskId == req.taskId) = 0 := by
  rw [List.countP_eq_zero]
  intro r hr heq
  exact hnew ((h.marked _).mpr (beq_iff_eq.mp heq ▸ h.processed r hr))

theorem execute {req : TaskRequest} (h : AtMostOnce F w marks calls)
    (hnew : req.taskId ∉ w.tracker.keys) (hF : req.taskId ∈ F)
    (hw' : w'.tracker = (w.tracker.contains req.taskId).2.add req.taskId) :
    AtMostOnce F w' (marks ++ [req.taskId]) (calls ++ [req]) := by
  have hkeys : ∀ u, u ∈ w'.tracker.keys ↔ u = req.taskId ∨ u ∈ w.tracker.keys := fun u => by
    rw [hw']
    exact h.roomy.mem_mark hF u
  refine ⟨h.enough, ⟨by simpa [hw'] using h.roomy.fits, fun u hu => ?_⟩, fun u => ?_, ?_, fun u => ?_⟩
  · rcases (hkeys u).mp hu with rfl | hold
    · exact hF
    · exact h.roomy.keys u hold
  · rw [hkeys, h.marked, List.mem_append, List.mem_singleton, or_comm]
  · intro r hr
    rcases List.mem_append.mp hr with hold | hr
    · exact List.mem_append_left _ (h.processed r hold)
    · obtain rfl := List.mem_singleton.mp hr
      exact List.mem_append_right _ (List.mem_singleton_self _)
  · rw [List.countP_append, List.countP_singleton]
    split
    · rename_i hu
      obtain rfl := beq_iff_eq.mp hu
      rw [h.countP_eq_zero hnew]
    · simpa using h.once u

/-- **One delivery**, of whatever task of `F`. -/
theorem deliver {Raw : Type} {rt : AgentRuntime} {codec : Codec Raw} {d : Delivery Raw}
    {req : TaskRequest} (h : AtMostOnce F w marks calls)
    (hreq : requestOf rt codec d.raw = some req) (hF : req.taskId ∈ F) :
    AtMostOnce F (Runtime.deliver rt codec d w).2
      (marks ++ (Runtime.deliver rt codec d w).1.filterMap markedFor)
      (calls ++ (Runtime.deliver rt codec d w).1.filterMap calledFor) := by
  have hdelivered := deliver_delivered (w := w) hreq
  generalize (Runtime.deliver rt codec d w).1 = os at hdelivered ⊢
  generalize htracker : (Runtime.deliver rt codec d w).2.tracker = tracker at hdelivered
  generalize (Runtime.deliver rt codec d w).2 = w' at htracker ⊢
  cases hdelivered with
  | refused _ hos =>
    rw [hos.marks, hos.calls, List.append_nil, List.append_nil]
    exact h.touch (by rw [htracker]) (by simp [htracker])
  | skipped _ _ hos | unhandled _ _ hos =>
    rw [hos.marks, hos.calls, List.append_nil, List.append_nil]
    exact h.touch (by simp [htracker]) (by simp [htracker])
  | executed _ hnew hos =>
    rw [hos.marks, hos.calls]
    exact h.execute hnew hF htracker

end AtMostOnce

end RefundOps.Runtime
