import Mathlib.Logic.Function.Basic
import RefundOps.Foundation.Calls
import RefundOps.Foundation.TaskWire

/-!
# Clients and runtimes

`A2AClient.submit` at the one end, an `AgentRuntime` at the other, and between them the endpoint topics
of the agents and the one topic of their results. Both are logs: an entry may be handed over at any
time and any number of times. Requests and results cross as JSON, dumped here and validated there.

A client sends a request once more when the first attempt fails, a broker repeats it, and a runtime
starts again and reads back what it has marked. Still there is one answer: `Accounted` says where the
results on the topic come from, and `AtMostOnce` that a handler is called once for a task. A restart
falls between two messages: a runtime that is stopped after it published a result and before it marked
the task is left out.
-/

set_option autoImplicit false

namespace RefundOps.Exchange

open RefundOps.Runtime (AgentRuntime AtMostOnce answerTo calledFor markedFor givenResult)

/-! ## Agents and their topics -/

structure Agents (ι : Type) where
  runtime : ι → AgentRuntime
  /-- `str(exc)` of what a model's `model_validate` raises. -/
  validationError : Json → String
  idsDiffer : ∀ i j, (runtime i).agentId = (runtime j).agentId → i = j

/-- A request that is sent, in its envelope. -/
structure Submission where
  request : TaskRequest
  eventId : UUID
  correlationId : UUID
  onWire : request.OnWire

def Submission.envelope (sub : Submission) : Runtime.Envelope :=
  { eventId := sub.eventId, correlationId := sub.correlationId, payload := sub.request.modelDump }

/-- How the outside behaves while a message is handled; `arrives` is whether a result gets to the topic
    although its publication raises. -/
structure Handling where
  now : Time
  answer : ∀ x, Runtime.Reply x
  arrives : Bool
  /-- A handler returns a message that pydantic made. -/
  onWire : ∀ req output, (answer (.callHandler req) : Except String A2AMessage) = .ok output →
    output.OnWire

/-- A message that was handled: by which agent, how, and what could be seen. -/
structure Turn (ι : Type) where
  agent : ι
  entry : Runtime.Envelope
  handling : Handling
  seen : List Runtime.Obs

structure State (ι : Type) where
  worlds : ι → Runtime.World
  /-- The endpoint topics. -/
  requests : ι → List Runtime.Envelope
  results : List Runtime.ResultEvent := []

inductive Choice (ι : Type) where
  /-- A request of a client gets to the endpoint topic of its target. -/
  | submit (sub : Submission)
  /-- An agent handles an entry of its endpoint topic. -/
  | handle (i : ι) (n : Nat) (h : Handling)
  | restart (i : ι) (w : Runtime.World)

section Steps

variable {ι : Type} (A : Agents ι)

/-- Envelopes come decoded; their payload is validated. -/
def Agents.codec : Runtime.Codec Runtime.Envelope where
  envelope := .ok
  taskRequest payload :=
    match TaskRequest.modelValidate payload with
    | some req => .ok req
    | none => .error (A.validationError payload)
  uuid := Json.asUuid

def Agents.deliver (i : ι) (e : Runtime.Envelope) (h : Handling) (w : Runtime.World) :
    List Runtime.Obs × Runtime.World :=
  Runtime.deliver (A.runtime i) A.codec { raw := e, now := h.now, answer := h.answer } w

/-- What gets to the topic of results. -/
def Handling.arrived (h : Handling) : Runtime.Obs → Option Runtime.ResultEvent
  | .resultPublished ev => some ev
  | .resultLost ev => if h.arrives then some ev else none
  | _ => none

/-- The request in an entry, if it is one for the agent. -/
def Agents.requestOf (i : ι) (e : Runtime.Envelope) : Option TaskRequest :=
  Runtime.requestOf (A.runtime i) A.codec e

/-- The tasks that an agent has been asked to do. -/
def State.tasksOf (s : State ι) (i : ι) : Finset UUID :=
  ((s.requests i).filterMap fun e => (A.requestOf i e).map (·.taskId)).toFinset

variable [DecidableEq ι]

/-- What an agent is seen to do, over some turns. -/
def heardOf {β : Type} (f : Runtime.Obs → Option β) (tr : List (Turn ι)) (i : ι) : List β :=
  tr.flatMap fun turn => if turn.agent = i then turn.seen.filterMap f else []

abbrev callsOf (tr : List (Turn ι)) (i : ι) : List TaskRequest := heardOf calledFor tr i

abbrev marksOf (tr : List (Turn ι)) (i : ι) : List UUID := heardOf markedFor tr i

/-- One choice, executed; `none` when it is not possible. -/
def step (ch : Choice ι) (s : State ι) : Option (List (Turn ι) × State ι) :=
  match ch with
  | .submit sub => some ([],
      { s with
        requests := fun i =>
          if (A.runtime i).agentId = sub.request.targetAgentId then s.requests i ++ [sub.envelope]
          else s.requests i })
  | .handle i n h => (s.requests i)[n]?.map fun e =>
      let out := A.deliver i e h (s.worlds i)
      ([{ agent := i, entry := e, handling := h, seen := out.1 }],
        { s with
          worlds := Function.update s.worlds i out.2
          results := s.results ++ out.1.filterMap h.arrived })
  | .restart i w => some ([], { s with worlds := Function.update s.worlds i w })

/-- Nothing has happened yet. -/
def start : State ι where
  worlds := fun _ => Runtime.start 0
  requests := fun _ => []

/-- Who is started again, between two messages, finds its marks, compacted or not. -/
def Choice.FindsMarks (tr : List (Turn ι)) : Choice ι → Prop
  | .restart i w => Runtime.Rebuilt (marksOf tr i) w
  | _ => True

inductive Run : List (Turn ι) → State ι → Prop where
  | nil : Run [] start
  | step {tr turns : List (Turn ι)} {s s' : State ι} (h : Run tr s) (ch : Choice ι)
      (hch : ch.FindsMarks tr) (hs : step A ch s = some (turns, s')) : Run (tr ++ turns) s'

/-- A schedule, executed. -/
def exec : List (Choice ι) → State ι → Option (List (Turn ι) × State ι)
  | [], s => some ([], s)
  | ch :: chs, s => (step A ch s).bind fun out =>
      (exec chs out.2).map fun rest => (out.1 ++ rest.1, rest.2)

end Steps

/-! ## What is handed over -/

section Entries

variable {ι : Type} {A : Agents ι} {i : ι} {e : Runtime.Envelope} {req : TaskRequest}

theorem target_of_requestOf (h : A.requestOf i e = some req) :
    req.targetAgentId = (A.runtime i).agentId := by
  unfold Agents.requestOf Runtime.requestOf at h
  split at h
  · cases h
  split at h
  · cases h
  split at h
  · rename_i htarget
    exact Option.some.inj h ▸ htarget
  · cases h

/-- A request that was read has what a request can have. -/
theorem onWire_of_requestOf (h : A.requestOf i e = some req) : req.OnWire := by
  unfold Agents.requestOf Runtime.requestOf Agents.codec at h
  dsimp only at h
  cases hread : TaskRequest.modelValidate e.payload with
  | none =>
    rw [hread] at h
    cases h
  | some req' =>
    rw [hread] at h
    dsimp only at h
    split at h
    · obtain rfl := Option.some.inj h
      exact TaskRequest.onWire_of_modelValidate hread
    · cases h

theorem mem_tasksOf {s : State ι} (he : e ∈ s.requests i)
    (hreq : A.requestOf i e = some req) : req.taskId ∈ State.tasksOf A s i := by
  refine List.mem_toFinset.mpr (List.mem_filterMap.mpr ⟨e, he, ?_⟩)
  rw [hreq]
  rfl

/-- **A request is read as it was sent.** -/
theorem requestOf_envelope {sub : Submission}
    (h : (A.runtime i).agentId = sub.request.targetAgentId) :
    A.requestOf i sub.envelope = some sub.request := by
  unfold Agents.requestOf Runtime.requestOf Agents.codec Submission.envelope
  dsimp only
  rw [TaskRequest.modelValidate_modelDump sub.onWire]
  exact if_pos h.symm

end Entries

/-! ## Answers -/

section Answers

variable {rt : AgentRuntime} {answer : ∀ x, Runtime.Reply x} {req : TaskRequest}

theorem answerTo_taskId : (answerTo rt answer req).taskId = req.taskId := by
  unfold answerTo Runtime.attempted
  split
  · rfl
  split
  · rfl
  split <;> rfl

/-- Without a handler, nothing that happens has a say in the answer. -/
theorem answerTo_of_unhandled (h : req.capability ∉ rt.handlers) (answer' : ∀ x, Runtime.Reply x) :
    answerTo rt answer req = answerTo rt answer' req := by
  unfold answerTo
  rw [if_pos h, if_pos h]

theorem answerTo_onWire (hreq : req.OnWire)
    (houtput : ∀ output, (answer (.callHandler req) : Except String A2AMessage) = .ok output →
      output.OnWire) : (answerTo rt answer req).OnWire := by
  refine ⟨by rw [answerTo_taskId]; exact hreq.1, ?_⟩
  have herror : ∀ m, (none : Option A2AMessage) = some m → m.OnWire := by simp
  unfold answerTo Runtime.attempted
  split
  · exact herror
  split
  · exact herror
  split
  · rename_i output hanswer
    intro m hm
    obtain rfl := Option.some.inj hm
    exact houtput _ hanswer
  · exact herror

end Answers

/-! ## Turns -/

/-- A turn that answers a request, and that calls the handler for it if there is one. -/
structure Answers {ι : Type} (A : Agents ι) (turn : Turn ι) (req : TaskRequest)
    (result : TaskResult) : Prop where
  asked : A.requestOf turn.agent turn.entry = some req
  result_eq : result = answerTo (A.runtime turn.agent) turn.handling.answer req
  called : req.capability ∈ (A.runtime turn.agent).handlers → turn.seen.filterMap calledFor = [req]

section Turns

variable {ι : Type} {A : Agents ι} {turn : Turn ι} {req : TaskRequest} {result : TaskResult}

theorem givenResult_of_arrived {h : Handling} {o : Runtime.Obs} {ev : Runtime.ResultEvent}
    (hev : h.arrived o = some ev) : givenResult o = some ev.result := by
  cases o with
  | resultPublished ev' =>
    cases hev
    rfl
  | resultLost ev' =>
    simp only [Handling.arrived] at hev
    split at hev
    · cases hev
      rfl
    · cases hev
  | audited | auditLost | handlerCalled | markedProcessed => cases hev

/-- A result of a delivery is the answer to its request. -/
theorem answered_of_delivered {rt : AgentRuntime} {answer : ∀ x, Runtime.Reply x}
    {tracker tracker' : LRUCache UUID} {os : List Runtime.Obs}
    (h : Runtime.Delivered rt answer req tracker os tracker')
    (hresult : result ∈ os.filterMap givenResult) :
    result = answerTo rt answer req ∧
      (req.capability ∈ rt.handlers → os.filterMap calledFor = [req]) := by
  cases h with
  | refused hcap hos =>
    rw [hos.results] at hresult
    exact ⟨List.mem_singleton.mp hresult, fun hhandler => absurd (rt.declared _ hhandler) hcap⟩
  | skipped _ _ hos =>
    rw [hos.results] at hresult
    cases hresult
  | unhandled hnone _ hos =>
    rw [hos.results] at hresult
    exact ⟨List.mem_singleton.mp hresult, fun hhandler => absurd hhandler hnone⟩
  | executed _ _ hos =>
    rw [hos.results] at hresult
    exact ⟨List.mem_singleton.mp hresult, fun _ => hos.calls⟩

/-- **What arrives of a turn is its answer.** -/
theorem answers_of_arrived {i : ι} {e : Runtime.Envelope} {h : Handling} {w : Runtime.World}
    {ev : Runtime.ResultEvent} (hreq : A.requestOf i e = some req)
    (hev : ev ∈ (A.deliver i e h w).1.filterMap h.arrived) :
    Answers A { agent := i, entry := e, handling := h, seen := (A.deliver i e h w).1 } req
      ev.result := by
  obtain ⟨o, ho, hev⟩ := List.mem_filterMap.mp hev
  have hresult : ev.result ∈ (A.deliver i e h w).1.filterMap givenResult :=
    List.mem_filterMap.mpr ⟨o, ho, givenResult_of_arrived hev⟩
  have hdelivered := Runtime.deliver_delivered (d := { raw := e, now := h.now, answer := h.answer })
    (w := w) hreq
  obtain ⟨heq, hcalled⟩ := answered_of_delivered hdelivered hresult
  exact ⟨hreq, heq, hcalled⟩

theorem Answers.taskId (h : Answers A turn req result) : result.taskId = req.taskId := by
  rw [h.result_eq, answerTo_taskId]

/-- So it can be sent. -/
theorem Answers.onWire (h : Answers A turn req result) : result.OnWire := by
  rw [h.result_eq]
  exact answerTo_onWire (onWire_of_requestOf h.asked) (turn.handling.onWire req)

end Turns

/-! ## Along a run -/

section Runs

variable {ι : Type} [DecidableEq ι] {A : Agents ι} {tr turns : List (Turn ι)} {s s' : State ι}
  {ch : Choice ι} {i : ι}

theorem heardOf_append {β : Type} (f : Runtime.Obs → Option β) (tr tr' : List (Turn ι)) (i : ι) :
    heardOf f (tr ++ tr') i = heardOf f tr i ++ heardOf f tr' i := List.flatMap_append

theorem heardOf_singleton {β : Type} (f : Runtime.Obs → Option β) (turn : Turn ι) (i : ι) :
    heardOf f [turn] i = if turn.agent = i then turn.seen.filterMap f else [] := by
  simp [heardOf]

/-- **What a step does.** -/
inductive Stepped (A : Agents ι) (s : State ι) : Choice ι → List (Turn ι) → State ι → Prop where
  | submitted (sub : Submission) :
      Stepped A s (.submit sub) []
        { s with
          requests := fun i =>
            if (A.runtime i).agentId = sub.request.targetAgentId then s.requests i ++ [sub.envelope]
            else s.requests i }
  | handled {i : ι} {n : Nat} {e : Runtime.Envelope} {h : Handling} (he : e ∈ s.requests i) :
      Stepped A s (.handle i n h)
        [{ agent := i, entry := e, handling := h, seen := (A.deliver i e h (s.worlds i)).1 }]
        { s with
          worlds := Function.update s.worlds i (A.deliver i e h (s.worlds i)).2
          results := s.results ++ (A.deliver i e h (s.worlds i)).1.filterMap h.arrived }
  | restarted (i : ι) (w : Runtime.World) :
      Stepped A s (.restart i w) [] { s with worlds := Function.update s.worlds i w }

theorem stepped_of_step (hs : step A ch s = some (turns, s')) : Stepped A s ch turns s' := by
  cases ch with
  | submit sub =>
    cases hs
    exact .submitted sub
  | handle i n h =>
    obtain ⟨e, he, heq⟩ := Option.map_eq_some_iff.mp hs
    cases heq
    exact .handled (List.mem_of_getElem? he)
  | restart i w =>
    cases hs
    exact .restarted i w

theorem Stepped.requests_subset (h : Stepped A s ch turns s') (i : ι) :
    s.requests i ⊆ s'.requests i := by
  cases h with
  | submitted sub =>
    dsimp only
    split
    · exact List.subset_append_left _ _
    · exact List.Subset.refl _
  | handled | restarted => exact List.Subset.refl _

/-- Every entry is a request for its agent, every turn is about an entry, and every result is the
    answer of a turn. -/
structure Accounted (A : Agents ι) (tr : List (Turn ι)) (s : State ι) : Prop where
  asked : ∀ i, ∀ e ∈ s.requests i, ∃ req, A.requestOf i e = some req
  turns : ∀ turn ∈ tr, turn.entry ∈ s.requests turn.agent
  results : ∀ ev ∈ s.results, ∃ turn ∈ tr, ∃ req, Answers A turn req ev.result

theorem Accounted.step (h : Accounted A tr s) (hs : Stepped A s ch turns s') :
    Accounted A (tr ++ turns) s' := by
  cases hs with
  | submitted sub =>
    rw [List.append_nil]
    refine ⟨fun i e he => ?_, fun turn hturn => ?_, h.results⟩
    · dsimp only at he
      split at he
      · rename_i htarget
        rcases List.mem_append.mp he with hold | hnew
        · exact h.asked i e hold
        · obtain rfl := List.mem_singleton.mp hnew
          exact ⟨_, requestOf_envelope htarget⟩
      · exact h.asked i e he
    · exact (Stepped.submitted sub).requests_subset _ (h.turns turn hturn)
  | @handled i n e hd he =>
    refine ⟨h.asked, fun turn hturn => ?_, fun ev hev => ?_⟩
    · rcases List.mem_append.mp hturn with hold | hnew
      · exact h.turns turn hold
      · obtain rfl := List.mem_singleton.mp hnew
        exact he
    · rcases List.mem_append.mp hev with hold | hnew
      · obtain ⟨turn, hturn, hanswers⟩ := h.results ev hold
        exact ⟨turn, List.mem_append_left _ hturn, hanswers⟩
      · obtain ⟨req, hreq⟩ := h.asked i e he
        exact ⟨_, List.mem_append_right _ (List.mem_singleton_self _), req,
          answers_of_arrived hreq hnew⟩
  | restarted =>
    rw [List.append_nil]
    exact ⟨h.asked, h.turns, h.results⟩

theorem Run.accounted (h : Run A tr s) : Accounted A tr s := by
  induction h with
  | nil => exact ⟨by simp [start], by simp, by simp [start]⟩
  | step _ ch _ hs ih => exact ih.step (stepped_of_step hs)

/-- A step of an agent that has room for the tasks it is asked to do. -/
theorem atMostOnce_step {F : Finset UUID} (hacc : Accounted A tr s)
    (h : AtMostOnce F (s.worlds i) (marksOf tr i) (callsOf tr i))
    (hfits : ∀ e ∈ s.requests i, ∀ req, A.requestOf i e = some req → req.taskId ∈ F)
    (hch : ch.FindsMarks tr) (hs : Stepped A s ch turns s') :
    AtMostOnce F (s'.worlds i) (marksOf (tr ++ turns) i) (callsOf (tr ++ turns) i) := by
  cases hs with
  | submitted => rwa [List.append_nil]
  | @handled j n e hd he =>
    rw [marksOf, callsOf, heardOf_append, heardOf_append, heardOf_singleton, heardOf_singleton]
    dsimp only
    by_cases hj : j = i
    · subst hj
      obtain ⟨req, hreq⟩ := hacc.asked j e he
      rw [if_pos rfl, if_pos rfl, Function.update_self]
      exact h.deliver (d := { raw := e, now := hd.now, answer := hd.answer }) hreq
        (hfits e he req hreq)
    · rw [if_neg hj, if_neg hj, Function.update_of_ne (Ne.symm hj), List.append_nil, List.append_nil]
      exact h
  | restarted j w =>
    rw [List.append_nil]
    dsimp only
    by_cases hj : j = i
    · subst hj
      rw [Function.update_self]
      exact h.restart hch
    · rwa [Function.update_of_ne (Ne.symm hj)]

/-- **A handler is called once for a task**, whatever is sent and handed over how often. -/
theorem Run.atMostOnce {F : Finset UUID} (h : Run A tr s) (hF : F.card ≤ Runtime.trackerSize)
    (hfits : ∀ e ∈ s.requests i, ∀ req, A.requestOf i e = some req → req.taskId ∈ F) :
    AtMostOnce F (s.worlds i) (marksOf tr i) (callsOf tr i) := by
  induction h with
  | nil => exact .start hF 0
  | step h ch hch hs ih =>
    have hstepped := stepped_of_step hs
    have hfits₀ := fun e he => hfits e (hstepped.requests_subset i he)
    exact atMostOnce_step h.accounted (ih hfits₀) hfits₀ hch hstepped

/-- What every step of a schedule keeps holds at its end. -/
theorem exec_induction {P : List (Turn ι) → State ι → Prop} {chs : List (Choice ι)}
    (tr : List (Turn ι)) {tr' : List (Turn ι)}
    (hstep : ∀ ch ∈ chs, ∀ {tr turns s s'}, P tr s → step A ch s = some (turns, s') →
      P (tr ++ turns) s')
    (h : P tr s) (hexec : exec A chs s = some (tr', s')) : P (tr ++ tr') s' := by
  induction chs generalizing tr tr' s with
  | nil =>
    cases hexec
    simpa using h
  | cons ch chs ih =>
    obtain ⟨hch, hchs⟩ := List.forall_mem_cons.mp hstep
    obtain ⟨⟨turns, s₁⟩, hs, hrest⟩ := Option.bind_eq_some_iff.mp hexec
    obtain ⟨⟨tr₁, s₂⟩, hrun, heq⟩ := Option.map_eq_some_iff.mp hrest
    cases heq
    rw [← List.append_assoc]
    exact ih _ hchs (hch h hs) hrun

theorem Run.of_exec {chs : List (Choice ι)} {tr' : List (Turn ι)} (h : Run A tr s)
    (hsteady : ∀ ch ∈ chs, ∀ tr, ch.FindsMarks tr) (hexec : exec A chs s = some (tr', s')) :
    Run A (tr ++ tr') s' :=
  exec_induction tr (fun ch hch _ _ _ _ h hs => h.step ch (hsteady ch hch _) hs) h hexec

end Runs

end RefundOps.Exchange
