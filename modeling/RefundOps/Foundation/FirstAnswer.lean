import RefundOps.Foundation.Lifecycle

/-!
# The answer to a first request

What `_handle_message` answers to a task it has not seen, whatever the broker makes of the answer:
`deliver_first` says that there is one result and what its status is (`firstStatus`). It depends on
whom the request is for, on what it asks for and on whether the handler raises, and on nothing else.
-/

set_option autoImplicit false

namespace RefundOps.Runtime

/-- The result that was to be published. -/
def givenResult : Obs → Option TaskResult
  | .resultPublished ev => some ev.result
  | .resultLost ev => some ev.result
  | _ => none

/-- Completed if it returns, failed if it raises. -/
def statusOf {α : Type} : Except String α → TaskStatus
  | .ok _ => .completed
  | .error _ => .failed

/-- The status of the answer to a request that is no duplicate. -/
def firstStatus (rt : AgentRuntime) (answer : ∀ x, Reply x) (req : TaskRequest) : TaskStatus :=
  if req.targetAgentId ≠ rt.agentId then .rejected
  else if req.capability ∉ rt.capabilityIds then .rejected
  else if req.capability ∉ rt.handlers then .failed
  else statusOf (answer (.callHandler req))

/-- One result was given, with this status. -/
def Gives (status : TaskStatus) (os : List Obs) : Prop :=
  ∃ r, os.filterMap givenResult = [r] ∧ r.status = status

section First

variable {rt : AgentRuntime} {answer : ∀ x, Reply x} {w : World} {envelope : Envelope}
  {req : TaskRequest} {result : TaskResult} {o o' : Obs} {os : List Obs} {status : TaskStatus}

theorem ResultSeen.givenResult_eq (h : ResultSeen answer result o) : givenResult o = some result := by
  cases h with
  | sent hev _ => exact congrArg some hev
  | lost hev _ => exact congrArg some hev

theorem AuditSeen.givenResult_eq {outcome : AuditOutcome} {taskId : Option UUID}
    (h : AuditSeen answer outcome taskId o) : givenResult o = none := by
  cases h with
  | sent _ _ _ => rfl
  | lost _ _ _ => rfl

theorem Gives.cons (ho : givenResult o = none) (h : Gives status os) : Gives status (o :: os) := by
  obtain ⟨r, hr, hs⟩ := h
  refine ⟨r, ?_, hs⟩
  rw [List.filterMap_cons_none ho, hr]

theorem gives_settle {outcome : AuditOutcome} {taskId : Option UUID} {rest : List Obs}
    (ho : ResultSeen answer result o) (ho' : AuditSeen answer outcome taskId o')
    (hrest : rest.filterMap givenResult = []) : Gives result.status (o :: o' :: rest) := by
  refine ⟨result, ?_, rfl⟩
  rw [List.filterMap_cons_some ho.givenResult_eq, List.filterMap_cons_none ho'.givenResult_eq, hrest]

theorem gives_iff : Gives status os ↔ (os.filterMap givenResult).map TaskResult.status = [status] := by
  unfold Gives
  rw [List.map_eq_singleton_iff]

theorem Gives.unique {status' : TaskStatus} (h : Gives status os) (h' : Gives status' os) :
    status = status' := by
  obtain ⟨r, hr, hs⟩ := h
  obtain ⟨r', hr', hs'⟩ := h'
  rw [hr] at hr'
  cases hr'
  rw [← hs, hs']

/-- The handler decides. -/
theorem dispatch_gives :
    Coro.Returns answer (dispatch rt envelope req) w fun _ os _ =>
      Gives (statusOf (answer (.callHandler req))) os := by
  refine dispatch_cases ?_ ?_
  · intro output result o o' w' hanswer _ hs ho ho' _
    have hgives : Gives result.status [o, o', .markedProcessed req.taskId] := gives_settle ho ho' rfl
    rw [hs] at hgives
    rw [hanswer]
    exact hgives.cons rfl
  · intro exc result o o' w' hanswer _ hs ho ho' _
    have hgives : Gives result.status [o, o', .markedProcessed req.taskId] := gives_settle ho ho' rfl
    rw [hs] at hgives
    rw [hanswer]
    exact hgives.cons rfl

/-- A task that was not processed before is dispatched or failed. -/
theorem process_gives (hnew : req.taskId ∉ w.tracker.keys) :
    Coro.Returns answer (process rt envelope req) w fun _ os _ =>
      Gives (if req.capability ∉ rt.handlers then .failed
        else statusOf (answer (.callHandler req))) os := by
  apply Coro.Returns.bind
  refine ⟨(w.tracker.contains req.taskId).1, [],
    { w with tracker := (w.tracker.contains req.taskId).2 }, rfl, ?_⟩
  rw [LRUCache.contains_fst]
  dsimp only
  rw [if_neg (by simpa using hnew)]
  apply Coro.Returns.bind
  refine returns_writeTaskAudit ?_
  intro o w₁ ho _
  split
  · exact dispatch_gives.mono fun _ _ _ h => h.cons ho.givenResult_eq
  · refine returns_settle ?_
    intro o₁ o₂ w₂ ho₁ ho₂ _
    exact (gives_settle ho₁ ho₂ rfl).cons ho.givenResult_eq

/-- **A task that was not processed gets one answer**, and the broker has no say in its status. -/
theorem deliver_new {Raw : Type} {codec : Codec Raw} {d : Delivery Raw}
    (henv : codec.envelope d.raw = .ok envelope)
    (hreq : codec.taskRequest envelope.payload = .ok req) (hnew : req.taskId ∉ w.tracker.keys) :
    Gives (firstStatus rt d.answer req) (deliver rt codec d w).1 := by
  have hout : Coro.Returns d.answer (handleMessage rt codec d.raw)
      { w with now := d.now } fun _ os _ => Gives (firstStatus rt d.answer req) os := by
    unfold handleMessage firstStatus
    rw [henv]
    dsimp only
    rw [hreq]
    dsimp only
    split
    · refine returns_settle ?_
      intro o o' _ ho ho' _
      exact gives_settle ho ho' rfl
    split
    · refine returns_settle ?_
      intro o o' _ ho ho' _
      exact gives_settle ho ho' rfl
    · exact process_gives hnew
  obtain ⟨_, os, w', hrun, hgives⟩ := hout
  unfold deliver
  rw [hrun]
  exact hgives

/-- A first request. -/
theorem deliver_first {Raw : Type} {codec : Codec Raw} {d : Delivery Raw} (nextId : UUID)
    (henv : codec.envelope d.raw = .ok envelope)
    (hreq : codec.taskRequest envelope.payload = .ok req) :
    Gives (firstStatus rt d.answer req) (deliver rt codec d (start nextId)).1 :=
  deliver_new henv hreq List.not_mem_nil

/-- A task that was processed gets none, if it is one of this agent's. -/
theorem deliver_processed {Raw : Type} {codec : Codec Raw} {d : Delivery Raw}
    (henv : codec.envelope d.raw = .ok envelope)
    (hreq : codec.taskRequest envelope.payload = .ok req) (htarget : req.targetAgentId = rt.agentId)
    (hcap : req.capability ∈ rt.capabilityIds) (hdup : req.taskId ∈ w.tracker.keys) :
    (deliver rt codec d w).1.filterMap givenResult = [] := by
  have hhandle : handleMessage rt codec d.raw = process rt envelope req := by
    unfold handleMessage
    rw [henv]
    dsimp only
    rw [hreq]
    dsimp only
    rw [if_neg (not_not.mpr htarget), if_neg (not_not.mpr hcap)]
  have hreturns : Coro.Returns d.answer (process rt envelope req) { w with now := d.now }
      fun _ os w' => Processed d.answer rt req w.tracker os w'.tracker := returns_process
  obtain ⟨_, os, w', hrun, hprocessed⟩ := hreturns
  unfold deliver
  rw [hhandle, hrun]
  generalize w'.tracker = tracker at hprocessed
  cases hprocessed with
  | skipped _ ho =>
    rw [List.filterMap_cons_none ho.givenResult_eq]
    rfl
  | executed hnew => exact absurd hdup hnew
  | unhandled hnew => exact absurd hdup hnew

end First

end RefundOps.Runtime
