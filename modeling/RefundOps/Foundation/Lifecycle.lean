import Mathlib.Data.List.Forall2
import RefundOps.Foundation.Runtime

/-!
# The life of a task

What becomes of a task over any sequence of deliveries: its requests, once more and in new
envelopes, between those of other tasks and whatever else arrives on the endpoint. For one task
the runtime is a machine with two states, *processed* or not: `stepFor` says what it does with a
request in each, and `deliver_spec` that `_handle_message` does just that, as long as the tracker
has room for the tasks in use. `taskRun` is a run of the machine, and `deliverAll_follows` the
simulation.

The life is as it should be (`Lifecycle`) if the first request is executed and all later ones are
skipped, or if all are refused. A task whose first request finds no handler is never marked, so
its next request is accepted again.
-/

set_option autoImplicit false

namespace RefundOps.Runtime

/-! ## What is recorded of a task -/

def auditOf (t : UUID) : Obs → Option AuditOutcome
  | .audited a => if a.taskId = some t then some a.outcome else none
  | _ => none

def resultOf (t : UUID) : Obs → Option TaskStatus
  | .resultPublished ev => if ev.result.taskId = t then some ev.result.status else none
  | _ => none

def isCallOf (t : UUID) : Obs → Bool
  | .handlerCalled req => req.taskId == t
  | _ => false

/-- The audit outcomes, the results and the number of handler calls. -/
structure Recorded (t : UUID) (os : List Obs) (audits : List AuditOutcome)
    (results : List TaskStatus) (calls : Nat) : Prop where
  audits : os.filterMap (auditOf t) = audits
  results : os.filterMap (resultOf t) = results
  calls : os.countP (isCallOf t) = calls

/-- Accepted, then completed or failed, with one result and at most one call. -/
def Executed (t : UUID) (os : List Obs) : Prop :=
  ∃ calls ≤ 1, Recorded t os [.accepted, .completed] [.completed] calls ∨
    Recorded t os [.accepted, .failed] [.failed] calls

def Skipped (t : UUID) (os : List Obs) : Prop := Recorded t os [.duplicateSkipped] [] 0

def Refused (t : UUID) (os : List Obs) : Prop := Recorded t os [.rejected] [.rejected] 0

/-- The deliveries of a task, each with its request and its record: the first is executed and the
    others are skipped; or their capabilities are not supported and all are refused. -/
def Lifecycle (rt : AgentRuntime) (t : UUID) (ds : List (TaskRequest × List Obs)) : Prop :=
  (∃ d later, ds = d :: later ∧ Executed t d.2 ∧ ∀ l ∈ later, Skipped t l.2) ∨
    ∀ d ∈ ds, d.1.capability ∉ rt.capabilityIds ∧ Refused t d.2

/-! ## The machine of one task -/

inductive Step where
  | refuse
  | skip
  | execute
  | failUnhandled
  deriving DecidableEq, Repr

def stepFor (rt : AgentRuntime) (processed : Bool) (req : TaskRequest) : Step :=
  if req.capability ∉ rt.capabilityIds then .refuse
  else if processed then .skip
  else if req.capability ∈ rt.handlers then .execute
  else .failUnhandled

/-- The steps on the requests of one task, in turn. -/
def taskRun (rt : AgentRuntime) : Bool → List TaskRequest → List Step
  | _, [] => []
  | processed, req :: reqs =>
      stepFor rt processed req ::
        taskRun rt (processed || stepFor rt processed req == .execute) reqs

/-- What each step leaves on record. -/
def Step.Shows (t : UUID) (os : List Obs) : Step → Prop
  | .refuse => Refused t os
  | .skip => Skipped t os
  | .execute => Executed t os
  | .failUnhandled => Executed t os

section Steps

variable {rt : AgentRuntime} {t : UUID} {os : List Obs} {s : Step}

theorem skipped_iff (h : s.Shows t os) : Skipped t os ↔ s = .skip := by
  refine ⟨fun hskip => ?_, fun hs => by subst hs; exact h⟩
  cases s with
  | skip => rfl
  | refuse => exact absurd (hskip.audits.symm.trans h.audits) (by decide)
  | execute | failUnhandled =>
    obtain ⟨calls, -, h | h⟩ := h
    · exact absurd (hskip.audits.symm.trans h.audits) (by decide)
    · exact absurd (hskip.audits.symm.trans h.audits) (by decide)

theorem executed_iff (h : s.Shows t os) : Executed t os ↔ s = .execute ∨ s = .failUnhandled := by
  refine ⟨fun hexec => ?_, ?_⟩
  · obtain ⟨calls, -, hexec⟩ := hexec
    cases s with
    | execute => exact .inl rfl
    | failUnhandled => exact .inr rfl
    | refuse | skip =>
      rcases hexec with hexec | hexec
      · exact absurd (hexec.audits.symm.trans h.audits) (by decide)
      · exact absurd (hexec.audits.symm.trans h.audits) (by decide)
  · rintro (rfl | rfl) <;> exact h

theorem stepFor_eq_refuse_iff {processed : Bool} {req : TaskRequest} :
    stepFor rt processed req = .refuse ↔ req.capability ∉ rt.capabilityIds := by
  unfold stepFor
  split
  · rename_i h
    exact iff_of_true rfl h
  · rename_i h
    refine iff_of_false ?_ h
    split
    · decide
    split <;> decide

/-! ### When a run is tidy -/

/-- The first step executes and the others skip, or all refuse. -/
def Tidy (steps : List Step) : Prop :=
  (∃ s later, steps = s :: later ∧ (s = .execute ∨ s = .failUnhandled) ∧ ∀ l ∈ later, l = .skip) ∨
    ∀ s ∈ steps, s = .refuse

/-- Either no request names a supported capability; or all do, and the first finds a handler
    unless it is the only one. -/
def Settles (rt : AgentRuntime) (reqs : List TaskRequest) : Prop :=
  (∀ r ∈ reqs, r.capability ∉ rt.capabilityIds) ∨
    (∀ r ∈ reqs, r.capability ∈ rt.capabilityIds) ∧
      (reqs.length ≤ 1 ∨ ∃ r, reqs.head? = some r ∧ r.capability ∈ rt.handlers)

theorem taskRun_refuse_iff {processed : Bool} {reqs : List TaskRequest} :
    (∀ s ∈ taskRun rt processed reqs, s = .refuse) ↔
      ∀ r ∈ reqs, r.capability ∉ rt.capabilityIds := by
  induction reqs generalizing processed with
  | nil => simp [taskRun]
  | cons r rs ih => rw [taskRun, List.forall_mem_cons, List.forall_mem_cons, ih, stepFor_eq_refuse_iff]

/-- A processed task skips whatever is supported. -/
theorem taskRun_processed_iff {reqs : List TaskRequest} :
    (∀ s ∈ taskRun rt true reqs, s = .skip) ↔ ∀ r ∈ reqs, r.capability ∈ rt.capabilityIds := by
  induction reqs with
  | nil => simp [taskRun]
  | cons r rs ih =>
    have hstep : stepFor rt true r = .skip ↔ r.capability ∈ rt.capabilityIds := by
      unfold stepFor
      by_cases h : r.capability ∈ rt.capabilityIds <;> simp [h]
    rw [taskRun, List.forall_mem_cons, List.forall_mem_cons, Bool.true_or, ih, hstep]

/-- One that is not processed does not skip. -/
theorem stepFor_ne_skip (req : TaskRequest) : stepFor rt false req ≠ .skip := by
  unfold stepFor
  split
  · decide
  rw [if_neg Bool.false_ne_true]
  split <;> decide

theorem tidy_iff {reqs : List TaskRequest} : Tidy (taskRun rt false reqs) ↔ Settles rt reqs := by
  unfold Tidy Settles
  rw [taskRun_refuse_iff, or_comm]
  refine or_congr_right' fun hsome => ?_
  cases reqs with
  | nil => exact absurd (fun r hr => absurd hr List.not_mem_nil) hsome
  | cons r rs =>
    simp only [taskRun, List.cons.injEq, List.head?_cons, List.length_cons, List.forall_mem_cons,
      Bool.false_or, exists_eq_left', Option.some.injEq]
    by_cases hcap : r.capability ∈ rt.capabilityIds
    · by_cases hhandler : r.capability ∈ rt.handlers
      · -- executed and marked: the rest is skipped if it is supported
        have hstep : stepFor rt false r = .execute := by simp [stepFor, hcap, hhandler]
        simp only [hstep, beq_self_eq_true, hcap, hhandler, true_and, or_true, and_true]
        rw [← taskRun_processed_iff]
        constructor
        · rintro ⟨s, later, ⟨-, rfl⟩, -, hskip⟩
          exact hskip
        · intro hskip
          exact ⟨_, _, ⟨rfl, rfl⟩, .inl rfl, hskip⟩
      · -- failed and not marked: there must be no rest
        have hstep : stepFor rt false r = .failUnhandled := by simp [stepFor, hcap, hhandler]
        have hmark : (Step.failUnhandled == Step.execute) = false := rfl
        simp only [hstep, hmark, hcap, hhandler, true_and, or_false]
        constructor
        · rintro ⟨s, later, ⟨-, rfl⟩, -, hskip⟩
          cases rs with
          | nil => simp
          | cons r' rs' => exact absurd (hskip _ (List.mem_cons_self ..)) (stepFor_ne_skip r')
        · rintro ⟨-, hlen⟩
          obtain rfl : rs = [] := List.length_eq_zero_iff.mp (by omega)
          exact ⟨_, _, ⟨rfl, rfl⟩, .inr rfl, by simp [taskRun]⟩
    · have hstep : stepFor rt false r = .refuse := stepFor_eq_refuse_iff.mpr hcap
      simp only [hstep, hcap, false_and, iff_false]
      rintro ⟨s, later, ⟨rfl, -⟩, hs, -⟩
      exact absurd hs (by decide)

/-! ### Records and steps -/

/-- A delivery of the task `t` that went as the step says. -/
structure Follows (rt : AgentRuntime) (t : UUID) (d : TaskRequest × List Obs) (s : Step) :
    Prop where
  shows : s.Shows t d.2
  refuse : s = .refuse ↔ d.1.capability ∉ rt.capabilityIds

theorem skipped_all_iff {ds : List (TaskRequest × List Obs)} {steps : List Step}
    (h : List.Forall₂ (Follows rt t) ds steps) :
    (∀ d ∈ ds, Skipped t d.2) ↔ ∀ s ∈ steps, s = .skip := by
  induction h with
  | nil => simp
  | cons hd _ ih => rw [List.forall_mem_cons, List.forall_mem_cons, ih, skipped_iff hd.shows]

theorem refused_all_iff {ds : List (TaskRequest × List Obs)} {steps : List Step}
    (h : List.Forall₂ (Follows rt t) ds steps) :
    (∀ d ∈ ds, d.1.capability ∉ rt.capabilityIds ∧ Refused t d.2) ↔ ∀ s ∈ steps, s = .refuse := by
  induction h with
  | nil => simp
  | cons hd _ ih =>
    rw [List.forall_mem_cons, List.forall_mem_cons, ih, ← hd.refuse]
    refine and_congr_left fun _ => ⟨fun hs => hs.1, fun hs => ⟨hs, ?_⟩⟩
    subst hs
    exact hd.shows

/-- The life of a task is as it should be exactly if its steps are. -/
theorem lifecycle_iff_tidy {ds : List (TaskRequest × List Obs)} {steps : List Step}
    (h : List.Forall₂ (Follows rt t) ds steps) : Lifecycle rt t ds ↔ Tidy steps := by
  refine or_congr ?_ (refused_all_iff h)
  cases h with
  | nil => simp
  | @cons d s ds steps hd hds =>
    simp only [List.cons.injEq]
    constructor
    · rintro ⟨_, _, ⟨rfl, rfl⟩, hexec, hskip⟩
      exact ⟨_, _, ⟨rfl, rfl⟩, (executed_iff hd.shows).mp hexec, (skipped_all_iff hds).mp hskip⟩
    · rintro ⟨_, _, ⟨rfl, rfl⟩, hexec, hskip⟩
      exact ⟨_, _, ⟨rfl, rfl⟩, (executed_iff hd.shows).mpr hexec, (skipped_all_iff hds).mpr hskip⟩

end Steps

/-! ## One delivery -/

/-- Whatever the runtime publishes arrives. Handlers may raise, and the processed ids need not be
    persisted. -/
structure Publishing (answer : ∀ x, Reply x) : Prop where
  result : ∀ ev, answer (.sendResult ev) = .ok ()
  audit : ∀ id audit, answer (.sendAudit id audit) = .ok ()

/-! ### What is seen of an operation -/

/-- A result that is published, and what the broker makes of it. -/
inductive ResultSeen (answer : ∀ x, Reply x) (result : TaskResult) : Obs → Prop where
  | sent {ev : ResultEvent} (hev : ev.result = result) (h : answer (.sendResult ev) = .ok ()) :
      ResultSeen answer result (.resultPublished ev)
  | lost {ev : ResultEvent} {e : String} (hev : ev.result = result)
      (h : answer (.sendResult ev) = .error e) : ResultSeen answer result (.resultLost ev)

inductive AuditSeen (answer : ∀ x, Reply x) (outcome : AuditOutcome) (taskId : Option UUID) :
    Obs → Prop where
  | sent {id : UUID} {a : AuditPayload} (ho : a.outcome = outcome) (ht : a.taskId = taskId)
      (h : answer (.sendAudit id a) = .ok ()) : AuditSeen answer outcome taskId (.audited a)
  | lost {id : UUID} {a : AuditPayload} {e : String} (ho : a.outcome = outcome)
      (ht : a.taskId = taskId) (h : answer (.sendAudit id a) = .error e) :
      AuditSeen answer outcome taskId (.auditLost a)

/-- The handler was called, the task was settled by what came of it, and it was marked. -/
inductive Dispatched (answer : ∀ x, Reply x) (req : TaskRequest) : List Obs → Prop where
  | completed {result : TaskResult} {o o' : Obs} (ht : result.taskId = req.taskId)
      (hs : result.status = .completed) (ho : ResultSeen answer result o)
      (ho' : AuditSeen answer .completed (some req.taskId) o') :
      Dispatched answer req [.handlerCalled req, o, o', .markedProcessed req.taskId]
  | failed {result : TaskResult} {o o' : Obs} (ht : result.taskId = req.taskId)
      (hs : result.status = .failed) (ho : ResultSeen answer result o)
      (ho' : AuditSeen answer .failed (some req.taskId) o') :
      Dispatched answer req [.handlerCalled req, o, o', .markedProcessed req.taskId]

/-- The three ways through `process`, with the tracker that each leaves. -/
inductive Processed (answer : ∀ x, Reply x) (rt : AgentRuntime) (req : TaskRequest)
    (tracker : LRUCache UUID) : List Obs → LRUCache UUID → Prop where
  | skipped {o : Obs} (hdup : req.taskId ∈ tracker.keys)
      (ho : AuditSeen answer .duplicateSkipped (some req.taskId) o) :
      Processed answer rt req tracker [o] (tracker.contains req.taskId).2
  | executed {o : Obs} {os : List Obs} (hnew : req.taskId ∉ tracker.keys)
      (hhandler : req.capability ∈ rt.handlers)
      (ho : AuditSeen answer .accepted (some req.taskId) o) (hos : Dispatched answer req os) :
      Processed answer rt req tracker (o :: os) ((tracker.contains req.taskId).2.add req.taskId)
  | unhandled {o o₁ o₂ : Obs} {result : TaskResult} (hnew : req.taskId ∉ tracker.keys)
      (hhandler : req.capability ∉ rt.handlers)
      (ho : AuditSeen answer .accepted (some req.taskId) o) (ht : result.taskId = req.taskId)
      (hs : result.status = .failed) (ho₁ : ResultSeen answer result o₁)
      (ho₂ : AuditSeen answer .failed (some req.taskId) o₂) :
      Processed answer rt req tracker [o, o₁, o₂] (tracker.contains req.taskId).2

section Operations

variable {rt : AgentRuntime} {answer : ∀ x, Reply x} {w : World} {envelope : Envelope}
  {req : TaskRequest}

theorem returns_publishResult {result : TaskResult} {Q : Unit → List Obs → World → Prop}
    (h : ∀ o w', ResultSeen answer result o → w'.tracker = w.tracker → Q () [o] w') :
    Coro.Returns answer (publishResult result envelope) w Q := by
  apply Coro.Returns.bind
  refine ⟨w.nextId, [], { w with nextId := w.nextId + 1 }, rfl, ?_⟩
  apply Coro.Returns.bind
  refine ⟨answer (.sendResult _), [], _, rfl, ?_⟩
  cases hsent : answer (.sendResult _) with
  | ok _ => exact ⟨(), [_], _, rfl, h _ _ (.sent rfl hsent) rfl⟩
  | error _ => exact ⟨(), [_], _, rfl, h _ _ (.lost rfl hsent) rfl⟩

theorem returns_writeTaskAudit {outcome : AuditOutcome} {taskId : Option UUID}
    {reason : Option String} {hreason : outcome.reasonOk reason = true}
    {Q : Unit → List Obs → World → Prop}
    (h : ∀ o w', AuditSeen answer outcome taskId o → w'.tracker = w.tracker → Q () [o] w') :
    Coro.Returns answer (writeTaskAudit envelope outcome taskId reason hreason) w Q := by
  apply Coro.Returns.bind
  refine ⟨w, [], w, rfl, ?_⟩
  apply Coro.Returns.bind
  refine ⟨w.nextId, [], { w with nextId := w.nextId + 1 }, rfl, ?_⟩
  apply Coro.Returns.bind
  refine ⟨answer (.sendAudit _ _), [], _, rfl, ?_⟩
  cases hsent : answer (.sendAudit _ _) with
  | ok _ => exact ⟨(), [_], _, rfl, h _ _ (.sent rfl rfl hsent) rfl⟩
  | error _ => exact ⟨(), [_], _, rfl, h _ _ (.lost rfl rfl hsent) rfl⟩

/-- A result and then an audit record, as every exit but the skipping one ends. -/
theorem returns_settle {result : TaskResult} {outcome : AuditOutcome} {taskId : Option UUID}
    {reason : Option String} {hreason : outcome.reasonOk reason = true}
    {Q : Unit → List Obs → World → Prop}
    (h : ∀ o o' w', ResultSeen answer result o → AuditSeen answer outcome taskId o' →
      w'.tracker = w.tracker → Q () [o, o'] w') :
    Coro.Returns answer
      (do publishResult result envelope; writeTaskAudit envelope outcome taskId reason hreason)
      w Q := by
  apply Coro.Returns.bind
  refine returns_publishResult ?_
  intro o w₁ ho hw₁
  refine returns_writeTaskAudit ?_
  intro o' w₂ ho' hw₂
  exact h o o' w₂ ho ho' (hw₂.trans hw₁)

theorem runSync_callHandler (answer : ∀ x, Reply x) (req : TaskRequest) (w : World) :
    (callHandler req).runSync answer w = ([.handlerCalled req], w, answer (.callHandler req)) := by
  show ([Obs.handlerCalled req] ++ (Coro.runSync answer (Coro.ofExcept _) w).1,
    (Coro.runSync answer (Coro.ofExcept _) w).2) = _
  cases answer (.callHandler req) <;> rfl

/-- The handler is called, the task is settled by what comes of it, and it is marked. -/
theorem dispatch_cases {Q : List Obs → World → Prop}
    (hok : ∀ (output : A2AMessage) (result : TaskResult) (o o' : Obs) (w' : World),
      answer (.callHandler req) = .ok output → result.taskId = req.taskId →
      result.status = .completed → ResultSeen answer result o →
      AuditSeen answer .completed (some req.taskId) o' → w'.tracker = w.tracker.add req.taskId →
        Q [.handlerCalled req, o, o', .markedProcessed req.taskId] w')
    (herror : ∀ (exc : String) (result : TaskResult) (o o' : Obs) (w' : World),
      answer (.callHandler req) = .error exc → result.taskId = req.taskId →
      result.status = .failed → ResultSeen answer result o →
      AuditSeen answer .failed (some req.taskId) o' → w'.tracker = w.tracker.add req.taskId →
        Q [.handlerCalled req, o, o', .markedProcessed req.taskId] w') :
    Coro.Returns answer (dispatch rt envelope req) w fun _ => Q := by
  have hcall := runSync_callHandler answer req w
  apply Coro.Returns.bind
  have hmark : ∀ (o o' : Obs) (w₁ : World),
      Q [.handlerCalled req, o, o', .markedProcessed req.taskId]
        { w₁ with tracker := w₁.tracker.add req.taskId } →
      Coro.Returns answer (markProcessed req.taskId) w₁ fun _ os' w' =>
        Q ([.handlerCalled req, o, o'] ++ os') w' := by
    intro o o' w₁ hQ
    exact ⟨(), [.markedProcessed req.taskId], { w₁ with tracker := w₁.tracker.add req.taskId },
      rfl, hQ⟩
  -- neither the result nor the audit raises, so only the handler can end up in `recover`
  cases hanswer : answer (.callHandler req) with
  | ok output =>
    rw [hanswer] at hcall
    refine Coro.Returns.tryCatch ?_
    apply Coro.Returns.bind
    refine ⟨output, _, _, hcall, ?_⟩
    refine returns_settle ?_
    intro o o' w₁ ho ho' hw₁
    exact hmark o o' w₁ (hok output _ o o' _ hanswer rfl rfl ho ho' (by rw [← hw₁]))
  | error exc =>
    rw [hanswer] at hcall
    have hraised : (attempt rt envelope req).runSync answer w =
        ([.handlerCalled req], w, .error exc) := by
      unfold attempt
      rw [Coro.runSync_bind, hcall]
    refine Coro.Returns.tryCatch_raised hraised ?_
    refine returns_settle ?_
    intro o o' w₁ ho ho' hw₁
    exact hmark o o' w₁ (herror exc _ o o' _ hanswer rfl rfl ho ho' (by rw [← hw₁]))

/-- Whatever the handler does, the task is settled and marked. -/
theorem returns_dispatch :
    Coro.Returns answer (dispatch rt envelope req) w fun _ os w' =>
      Dispatched answer req os ∧ w'.tracker = w.tracker.add req.taskId := by
  refine dispatch_cases ?_ ?_
  · intro output result o o' w' _ ht hs ho ho' hw'
    exact ⟨.completed ht hs ho ho', hw'⟩
  · intro exc result o o' w' _ ht hs ho ho' hw'
    exact ⟨.failed ht hs ho ho', hw'⟩

/-- **What becomes of a request that passed the checks**, whatever the outside does. -/
theorem returns_process :
    Coro.Returns answer (process rt envelope req) w fun _ os w' =>
      Processed answer rt req w.tracker os w'.tracker := by
  apply Coro.Returns.bind
  refine ⟨(w.tracker.contains req.taskId).1, [],
    { w with tracker := (w.tracker.contains req.taskId).2 }, rfl, ?_⟩
  rw [LRUCache.contains_fst]
  dsimp only
  by_cases hdup : req.taskId ∈ w.tracker.keys
  · rw [if_pos (decide_eq_true hdup)]
    refine returns_writeTaskAudit ?_
    intro o w' ho hw'
    rw [hw']
    exact .skipped hdup ho
  · rw [if_neg (by simpa using hdup)]
    apply Coro.Returns.bind
    refine returns_writeTaskAudit ?_
    intro o w₁ ho hw₁
    split
    · rename_i hhandler
      refine returns_dispatch.mono ?_
      rintro _ os w₂ ⟨hos, hw₂⟩
      rw [hw₂, hw₁]
      exact .executed hdup hhandler ho hos
    · rename_i hhandler
      refine returns_settle ?_
      intro o₁ o₂ w₂ ho₁ ho₂ hw₂
      rw [hw₂, hw₁]
      exact .unhandled hdup hhandler ho rfl rfl ho₁ ho₂

end Operations

/-! ### The records of the exits -/

section Records

variable {answer : ∀ x, Reply x} {t : UUID}

theorem Recorded.append {os os' : List Obs} {audits audits' : List AuditOutcome}
    {results results' : List TaskStatus} {calls calls' : Nat}
    (h : Recorded t os audits results calls) (h' : Recorded t os' audits' results' calls') :
    Recorded t (os ++ os') (audits ++ audits') (results ++ results') (calls + calls') := by
  refine ⟨?_, ?_, ?_⟩
  · rw [List.filterMap_append, h.audits, h'.audits]
  · rw [List.filterMap_append, h.results, h'.results]
  · rw [List.countP_append, h.calls, h'.calls]

theorem ResultSeen.of_publishing {result : TaskResult} {o : Obs} (hp : Publishing answer)
    (h : ResultSeen answer result o) : ∃ ev, o = .resultPublished ev ∧ ev.result = result := by
  cases h with
  | sent hev _ => exact ⟨_, rfl, hev⟩
  | lost _ h => exact absurd ((hp.result _).symm.trans h) (by simp)

theorem ResultSeen.recorded {result : TaskResult} {o : Obs} (hp : Publishing answer)
    (h : ResultSeen answer result o) (ht : result.taskId = t) :
    Recorded t [o] [] [result.status] 0 := by
  obtain ⟨ev, rfl, rfl⟩ := h.of_publishing hp
  exact ⟨rfl, by simp [resultOf, ht], rfl⟩

theorem AuditSeen.recorded {outcome : AuditOutcome} {o : Obs} (hp : Publishing answer)
    (h : AuditSeen answer outcome (some t) o) : Recorded t [o] [outcome] [] 0 := by
  cases h with
  | sent ho ht _ => exact ⟨by simp [auditOf, ho, ht], rfl, rfl⟩
  | lost _ _ h => exact absurd ((hp.audit _ _).symm.trans h) (by simp)

theorem recorded_call {req : TaskRequest} (ht : req.taskId = t) :
    Recorded t [.handlerCalled req] [] [] 1 :=
  ⟨rfl, rfl, by simp [isCallOf, ht]⟩

theorem recorded_mark (u : UUID) : Recorded t [.markedProcessed u] [] [] 0 := ⟨rfl, rfl, rfl⟩

/-- The record of an exit that ends with a result and an audit record. -/
theorem recorded_settle {result : TaskResult} {outcome : AuditOutcome} {o o' : Obs}
    (hp : Publishing answer) (ht : result.taskId = t) (ho : ResultSeen answer result o)
    (ho' : AuditSeen answer outcome (some t) o') :
    Recorded t [o, o'] [outcome] [result.status] 0 :=
  (ho.recorded hp ht).append (ho'.recorded hp)

theorem Dispatched.recorded {req : TaskRequest} {os : List Obs} (hp : Publishing answer)
    (h : Dispatched answer req os) :
    Recorded req.taskId os [.completed] [.completed] 1 ∨
      Recorded req.taskId os [.failed] [.failed] 1 := by
  have hrec : ∀ {result : TaskResult} {outcome : AuditOutcome} {o o' : Obs},
      Recorded req.taskId [o, o'] [outcome] [result.status] 0 →
      Recorded req.taskId [.handlerCalled req, o, o', .markedProcessed req.taskId] [outcome]
        [result.status] 1 :=
    fun h => ((recorded_call rfl).append h).append (recorded_mark _)
  cases h with
  | completed ht hs ho ho' => exact .inl (hs ▸ hrec (recorded_settle hp ht ho ho'))
  | failed ht hs ho ho' => exact .inr (hs ▸ hrec (recorded_settle hp ht ho ho'))

end Records

/-! ### The tracker -/

/-- The program leaves the tracker alone, whatever it is answered and even if it raises. -/
def Keeps {α : Type} (p : M α) : Prop :=
  ∀ (answer : ∀ x, Reply x) (w : World), (p.runSync answer w).2.1.tracker = w.tracker

theorem keeps_bind {α β : Type} {p : M α} {f : α → M β} (hp : Keeps p) (hf : ∀ a, Keeps (f a)) :
    Keeps (p >>= f) := by
  intro answer w
  have hpw := hp answer w
  rw [Coro.runSync_bind]
  generalize p.runSync answer w = out at hpw
  obtain ⟨os, w', e | a⟩ := out
  · exact hpw
  · exact (hf a answer w').trans hpw

theorem keeps_uuid4 : Keeps uuid4 := fun _ _ => rfl

theorem keeps_publishResult {result : TaskResult} {envelope : Envelope} :
    Keeps (publishResult result envelope) := by
  refine keeps_bind keeps_uuid4 fun _ => keeps_bind (fun _ _ => rfl) ?_
  rintro (_ | _) <;> exact fun _ _ => rfl

theorem keeps_writeTaskAudit {envelope : Envelope} {outcome : AuditOutcome}
    {taskId : Option UUID} {reason : Option String} {hreason : outcome.reasonOk reason = true} :
    Keeps (writeTaskAudit envelope outcome taskId reason hreason) := by
  refine keeps_bind (fun _ _ => rfl) fun _ => keeps_bind keeps_uuid4 fun _ =>
    keeps_bind (fun _ _ => rfl) ?_
  rintro (_ | _) <;> exact fun _ _ => rfl

/-! ## The simulation -/

section Simulation

variable {Raw : Type} {rt : AgentRuntime} {codec : Codec Raw}

/-- A valid request that is addressed to this agent. -/
def requestOf (rt : AgentRuntime) (codec : Codec Raw) (raw : Raw) : Option TaskRequest :=
  match codec.envelope raw with
  | .error _ => none
  | .ok envelope =>
      match codec.taskRequest envelope.payload with
      | .error _ => none
      | .ok req => if req.targetAgentId = rt.agentId then some req else none

/-- Anything else is rejected, or makes the runtime raise. -/
theorem keeps_handleMessage {raw : Raw} (h : requestOf rt codec raw = none) :
    Keeps (handleMessage rt codec raw) := by
  unfold requestOf at h
  unfold handleMessage
  cases henv : codec.envelope raw with
  | error e => exact fun _ _ => rfl
  | ok envelope =>
    rw [henv] at h
    dsimp only at h ⊢
    cases hreq : codec.taskRequest envelope.payload with
    | error exc =>
      refine keeps_bind ?_ fun _ => keeps_bind keeps_publishResult fun _ => keeps_writeTaskAudit
      unfold taskIdForResult
      split
      · split
        · split <;> exact fun _ _ => rfl
        · exact keeps_uuid4
      · exact keeps_uuid4
    | ok req =>
      rw [hreq] at h
      dsimp only at h ⊢
      split at h
      · exact absurd h (by simp)
      · rename_i htarget
        rw [if_pos htarget]
        exact keeps_bind keeps_publishResult fun _ => keeps_writeTaskAudit

/-- What is left to do with a valid request for this agent. -/
theorem handleMessage_of_request {raw : Raw} {req : TaskRequest}
    (h : requestOf rt codec raw = some req) :
    ∃ envelope, handleMessage rt codec raw =
      if req.capability ∉ rt.capabilityIds then rejectCapability rt envelope req
      else process rt envelope req := by
  unfold requestOf at h
  split at h
  · cases h
  rename_i envelope henv
  split at h
  · cases h
  rename_i req' hreq
  split at h
  · rename_i htarget
    obtain rfl := Option.some.inj h
    refine ⟨envelope, ?_⟩
    unfold handleMessage
    rw [henv]
    dsimp only
    rw [hreq]
    dsimp only
    rw [if_neg (not_not.mpr htarget)]
  · cases h

/-- What a supported request does to its task and to the tracker. -/
theorem Processed.shows {answer : ∀ x, Reply x} {req : TaskRequest} {os : List Obs}
    {tracker tracker' : LRUCache UUID} (h : Processed answer rt req tracker os tracker')
    (hp : Publishing answer) (hcap : req.capability ∈ rt.capabilityIds) :
    let s := stepFor rt (decide (req.taskId ∈ tracker.keys)) req
    s.Shows req.taskId os ∧
      tracker' = if s = .execute then (tracker.contains req.taskId).2.add req.taskId
        else (tracker.contains req.taskId).2 := by
  cases h with
  | skipped hdup ho =>
    have hstep : stepFor rt (decide (req.taskId ∈ tracker.keys)) req = .skip := by
      simp [stepFor, hcap, hdup]
    rw [hstep]
    exact ⟨ho.recorded hp, rfl⟩
  | executed hnew hhandler ho hos =>
    have hstep : stepFor rt (decide (req.taskId ∈ tracker.keys)) req = .execute := by
      simp [stepFor, hcap, hnew, hhandler]
    rw [hstep]
    have hacc := ho.recorded hp
    exact ⟨⟨1, le_refl 1, (hos.recorded hp).imp (fun h => hacc.append h) fun h => hacc.append h⟩,
      rfl⟩
  | unhandled hnew hhandler ho ht hs ho₁ ho₂ =>
    have hstep : stepFor rt (decide (req.taskId ∈ tracker.keys)) req = .failUnhandled := by
      simp [stepFor, hcap, hnew, hhandler]
    rw [hstep]
    have hrec := (ho.recorded hp).append (recorded_settle hp ht ho₁ ho₂)
    rw [hs] at hrec
    exact ⟨⟨0, Nat.zero_le 1, .inr hrec⟩, rfl⟩

/-- The keys of the tracker come from a set of tasks that fits. -/
structure Roomy (F : Finset UUID) (w : World) : Prop where
  fits : F.card ≤ w.tracker.maxsize
  keys : ∀ u ∈ w.tracker.keys, u ∈ F

/-- A task that is looked up and marked displaces no other. -/
theorem Roomy.mem_mark {F : Finset UUID} {w : World} {t : UUID} (hw : Roomy F w) (ht : t ∈ F)
    (u : UUID) :
    u ∈ ((w.tracker.contains t).2.add t).keys ↔ u = t ∨ u ∈ w.tracker.keys := by
  rw [LRUCache.mem_add (F := F) (by simpa using hw.keys) ht (by simpa using hw.fits)]
  simp

/-- **A delivery is a step of its task**, and only the one that executes marks it. -/
theorem deliver_spec {d : Delivery Raw} {req : TaskRequest} {F : Finset UUID} {w : World}
    (hp : Publishing d.answer) (h : requestOf rt codec d.raw = some req) (hF : req.taskId ∈ F)
    (hw : Roomy F w) :
    let s := stepFor rt (decide (req.taskId ∈ w.tracker.keys)) req
    s.Shows req.taskId (deliver rt codec d w).1 ∧ Roomy F (deliver rt codec d w).2 ∧
      ∀ u, u ∈ (deliver rt codec d w).2.tracker.keys ↔
        (u = req.taskId ∧ s = .execute) ∨ u ∈ w.tracker.keys := by
  obtain ⟨envelope, hmsg⟩ := handleMessage_of_request h
  have hout : Coro.Returns d.answer (handleMessage rt codec d.raw) { w with now := d.now }
      fun _ os w' =>
        let s := stepFor rt (decide (req.taskId ∈ w.tracker.keys)) req
        s.Shows req.taskId os ∧ w'.tracker.maxsize = w.tracker.maxsize ∧
          ∀ u, u ∈ w'.tracker.keys ↔ (u = req.taskId ∧ s = .execute) ∨ u ∈ w.tracker.keys := by
    rw [hmsg]
    by_cases hcap : req.capability ∈ rt.capabilityIds
    · rw [if_neg (not_not.mpr hcap)]
      refine returns_process.mono ?_
      intro _ os w' hdone
      obtain ⟨hshows, hw'⟩ := hdone.shows hp hcap
      refine ⟨hshows, ?_⟩
      rw [hw']
      split
      · rename_i hs
        refine ⟨by simp, fun u => ?_⟩
        simpa [hs] using hw.mem_mark hF u
      · rename_i hs
        refine ⟨by simp, fun u => ?_⟩
        simp [hs]
    · rw [if_pos hcap]
      refine returns_settle ?_
      intro o o' w' ho ho' hw'
      have hs : stepFor rt (decide (req.taskId ∈ w.tracker.keys)) req = .refuse :=
        stepFor_eq_refuse_iff.mpr hcap
      rw [hs, hw']
      exact ⟨recorded_settle hp rfl ho ho', rfl, by simp⟩
  obtain ⟨_, os, w', hrun, hshows, hmax, hkeys⟩ := hout
  have hdeliver : deliver rt codec d w = (os, w') := by
    unfold deliver
    rw [hrun]
  rw [hdeliver]
  refine ⟨hshows, ⟨hmax ▸ hw.fits, ?_⟩, hkeys⟩
  intro u hu
  rcases (hkeys u).mp hu with ⟨rfl, -⟩ | hu
  · exact hF
  · exact hw.keys u hu

/-- Whatever else arrives leaves the tracker as it is. -/
theorem deliver_tracker {d : Delivery Raw} (h : requestOf rt codec d.raw = none) (w : World) :
    (deliver rt codec d w).2.tracker = w.tracker :=
  keeps_handleMessage h d.answer { w with now := d.now }

end Simulation

/-! ### Whole runs -/

section Runs

variable {Raw : Type} (rt : AgentRuntime) (codec : Codec Raw)

/-- The request, if it is one of the task. -/
def requestFor (t : UUID) (raw : Raw) : Option TaskRequest :=
  (requestOf rt codec raw).filter fun req => req.taskId == t

def requestsOf (t : UUID) (ds : List (Delivery Raw)) : List TaskRequest :=
  ds.filterMap fun d => requestFor rt codec t d.raw

/-- The deliveries of the task, each with its request and what could be observed. -/
def deliveriesOf (t : UUID) (out : List (Delivery Raw × List Obs)) :
    List (TaskRequest × List Obs) :=
  out.filterMap fun x => (requestFor rt codec t x.1.raw).map fun req => (req, x.2)

/-- The tasks that are requested at all. -/
def taskIds (ds : List (Delivery Raw)) : Finset UUID :=
  (ds.filterMap fun d => (requestOf rt codec d.raw).map (·.taskId)).toFinset

variable {rt codec}

theorem mem_taskIds {ds : List (Delivery Raw)} {d : Delivery Raw} {req : TaskRequest}
    (hd : d ∈ ds) (h : requestOf rt codec d.raw = some req) : req.taskId ∈ taskIds rt codec ds := by
  unfold taskIds
  rw [List.mem_toFinset, List.mem_filterMap]
  exact ⟨d, hd, by rw [h]; rfl⟩

/-- **Every task follows its own machine**, whatever else is delivered in between. -/
theorem deliverAll_follows {ds : List (Delivery Raw)} {F : Finset UUID} {w : World} (t : UUID)
    (hp : ∀ d ∈ ds, Publishing d.answer)
    (hF : ∀ d ∈ ds, ∀ req, requestOf rt codec d.raw = some req → req.taskId ∈ F) (hw : Roomy F w) :
    List.Forall₂ (Follows rt t) (deliveriesOf rt codec t (deliverAll rt codec ds w))
      (taskRun rt (decide (t ∈ w.tracker.keys)) (requestsOf rt codec t ds)) := by
  induction ds generalizing w with
  | nil => exact .nil
  | cons d ds ih =>
    obtain ⟨hpd, hp⟩ := List.forall_mem_cons.mp hp
    obtain ⟨hFd, hF⟩ := List.forall_mem_cons.mp hF
    have hother : requestFor rt codec t d.raw = none → Roomy F (deliver rt codec d w).2 →
        (t ∈ (deliver rt codec d w).2.tracker.keys ↔ t ∈ w.tracker.keys) →
        List.Forall₂ (Follows rt t) (deliveriesOf rt codec t (deliverAll rt codec (d :: ds) w))
          (taskRun rt (decide (t ∈ w.tracker.keys)) (requestsOf rt codec t (d :: ds))) := by
      intro hnone hroomy hkeys
      have hrest := ih hp hF hroomy
      rw [decide_eq_decide.mpr hkeys] at hrest
      simpa [deliveriesOf, requestsOf, deliverAll, hnone] using hrest
    cases hreq : requestOf rt codec d.raw with
    | none =>
      have htracker := deliver_tracker hreq w
      refine hother (by simp [requestFor, hreq]) ?_ (by rw [htracker])
      exact ⟨htracker ▸ hw.fits, htracker ▸ hw.keys⟩
    | some req =>
      obtain ⟨hshows, hroomy, hkeys⟩ := deliver_spec hpd hreq (hFd req hreq) hw
      by_cases ht : req.taskId = t
      · subst ht
        have hsome : requestFor rt codec req.taskId d.raw = some req := by
          simp [requestFor, hreq]
        have hrest := ih hp hF hroomy
        have hprocessed : decide (req.taskId ∈ (deliver rt codec d w).2.tracker.keys) =
            (decide (req.taskId ∈ w.tracker.keys) ||
              stepFor rt (decide (req.taskId ∈ w.tracker.keys)) req == .execute) := by
          rw [decide_eq_decide.mpr (hkeys req.taskId), Bool.decide_or, Bool.or_comm]
          simp [beq_eq_decide]
        rw [hprocessed] at hrest
        have hfollows : Follows rt req.taskId (req, (deliver rt codec d w).1)
            (stepFor rt (decide (req.taskId ∈ w.tracker.keys)) req) :=
          ⟨hshows, stepFor_eq_refuse_iff⟩
        simpa [deliveriesOf, requestsOf, deliverAll, hsome, taskRun] using And.intro hfollows hrest
      · refine hother (by simp [requestFor, hreq, ht]) hroomy ?_
        rw [hkeys t]
        simp [Ne.symm ht]

theorem card_taskIds_le (ds : List (Delivery Raw)) : (taskIds rt codec ds).card ≤ ds.length :=
  (List.toFinset_card_le _).trans (List.length_filterMap_le _ ds)

/-- **When the life of a task is as it should be.** From an empty tracker, while everything is
    published and the tracker has room for all tasks: exactly if no request of the task names a
    supported capability, or all do and the first finds a handler unless it is the only one. -/
theorem lifecycle_iff_settles (rt : AgentRuntime) (codec : Codec Raw) (ds : List (Delivery Raw))
    (nextId : UUID) (hp : ∀ d ∈ ds, Publishing d.answer)
    (hroom : (taskIds rt codec ds).card ≤ trackerSize) (t : UUID) :
    Lifecycle rt t (deliveriesOf rt codec t (deliverAll rt codec ds (start nextId))) ↔
      Settles rt (requestsOf rt codec t ds) := by
  have hstart : Roomy (taskIds rt codec ds) (start nextId) :=
    ⟨hroom, by simp [start, LRUCache.empty]⟩
  have hfollows := deliverAll_follows t hp (fun d hd req h => mem_taskIds hd h) hstart
  have hfresh : decide (t ∈ (start nextId).tracker.keys) = false := by simp [start, LRUCache.empty]
  rw [hfresh] at hfollows
  rw [lifecycle_iff_tidy hfollows, tidy_iff]

end Runs

/-! ## A sample

An agent that declares one capability, and a task for it that is delivered twice. The decoder
reads complete messages as pydantic does. -/

section Sample

/-- `UUID(s)` of the usual form. -/
def sampleUuid : Json → Option UUID
  | .str s =>
      let hex := s.toList.filter (· ≠ '-')
      if hex.length = 32 then
        hex.foldlM (fun n c => ("0123456789abcdef".toList.idxOf? c).map (16 * n + ·)) 0
      else none
  | _ => none

def sampleString : Json → Option String
  | .str s => some s
  | _ => none

/-- A message of one text. -/
def sampleInput : Json → Option A2AMessage
  | .obj [("role", .str "user"), ("parts", .arr [.obj [("type", .str "text"), ("text", .str s)]])] =>
      some { role := .user
             parts := [{ type := .text, text := some s, validateConditionalFields := rfl }]
             validatePartsNonempty := List.cons_ne_nil _ _ }
  | _ => none

def sampleCodec : Codec Json where
  envelope raw :=
    let envelope : Option Envelope := do
      let eventId ← (raw.get? "event_id").bind sampleUuid
      let correlationId ← (raw.get? "correlation_id").bind sampleUuid
      let payload ← raw.get? "payload"
      pure { eventId, correlationId, payload }
    envelope.elim (.error "ValidationError") .ok
  taskRequest payload :=
    let req : Option TaskRequest := do
      let taskId ← (payload.get? "task_id").bind sampleUuid
      let capability ← (payload.get? "capability").bind sampleString
      let requesterAgentId ← (payload.get? "requester_agent_id").bind sampleString
      let targetAgentId ← (payload.get? "target_agent_id").bind sampleString
      let input ← (payload.get? "input").bind sampleInput
      pure { taskId, capability, requesterAgentId, targetAgentId, input }
    req.elim (.error "ValidationError") .ok
  uuid := sampleUuid

def sampleCard : AgentCard where
  agentId := "test.runtime.agent"
  name := "Test Runtime Agent"
  description := "For state machine tests"
  version := "1.0.0"
  endpointTopic := "local.agent.test.runtime.agent.task.requested.v1"
  capabilities :=
    [{ id := "do.something", name := "Do Something", description := "Test capability" }]

/-- Declared, and nothing registered. -/
def sampleRuntime : AgentRuntime := .init "test.runtime.agent" sampleCard

/-- With the handler of `do.something`. -/
def sampleRuntimeHandling : AgentRuntime :=
  { sampleRuntime with
    handlers := ["do.something"]
    declared := by
      intro c hc
      rw [List.mem_singleton.mp hc]
      exact List.mem_singleton_self _ }

example : sampleRuntime.handler "do.something" = .ok sampleRuntimeHandling := rfl

/-- Everything is sent, and the handler returns. -/
def sampleAnswer : ∀ x, Reply x
  | .sendResult _ => .ok ()
  | .sendAudit _ _ => .ok ()
  | .callHandler _ => .ok
      { role := .agent
        parts := [{ type := .text, text := some "done", validateConditionalFields := rfl }]
        validatePartsNonempty := List.cons_ne_nil _ _ }
  | .persist _ => .ok ()

/-- The request of task 7, in an envelope of its own. -/
def sampleDelivery (eventId : String) : Delivery Json where
  raw := .obj [
    ("event_id", .str eventId),
    ("correlation_id", .str "00000000-0000-0000-0000-000000000001"),
    ("payload", .obj [
      ("task_id", .str "00000000-0000-0000-0000-000000000007"),
      ("capability", .str "do.something"),
      ("requester_agent_id", .str "requester.agent"),
      ("target_agent_id", .str "test.runtime.agent"),
      ("input", .obj [
        ("role", .str "user"),
        ("parts", .arr [.obj [("type", .str "text"), ("text", .str "go")]])])])]
  now := 0
  answer := sampleAnswer

def sampleDeliveries : List (Delivery Json) :=
  [sampleDelivery "00000000-0000-0000-0000-000000000002",
    sampleDelivery "00000000-0000-0000-0000-000000000003"]

theorem sampleAnswer_publishing : Publishing sampleAnswer := ⟨fun _ => rfl, fun _ _ => rfl⟩

theorem sampleDeliveries_publishing : ∀ d ∈ sampleDeliveries, Publishing d.answer := by
  intro d hd
  have hanswer : d.answer = sampleAnswer := by
    rcases List.mem_cons.mp hd with rfl | hd
    · rfl
    · rw [List.mem_singleton.mp hd]
      rfl
  rw [hanswer]
  exact sampleAnswer_publishing

theorem sampleDeliveries_fit (rt : AgentRuntime) :
    (taskIds rt sampleCodec sampleDeliveries).card ≤ trackerSize :=
  (card_taskIds_le sampleDeliveries).trans (by decide)

def sampleRequest : TaskRequest where
  taskId := 7
  capability := "do.something"
  requesterAgentId := "requester.agent"
  targetAgentId := "test.runtime.agent"
  input :=
    { role := .user
      parts := [{ type := .text, text := some "go", validateConditionalFields := rfl }]
      validatePartsNonempty := List.cons_ne_nil _ _ }

theorem sampleDeliveries_requests :
    requestsOf sampleRuntimeHandling sampleCodec 7 sampleDeliveries =
      [sampleRequest, sampleRequest] := rfl

/-- With a handler the task is executed once and then skipped. -/
theorem lifecycle_iff_settles_sample :
    (∀ d ∈ sampleDeliveries, Publishing d.answer) ∧
      (taskIds sampleRuntimeHandling sampleCodec sampleDeliveries).card ≤ trackerSize ∧
      Lifecycle sampleRuntimeHandling 7 (deliveriesOf sampleRuntimeHandling sampleCodec 7
        (deliverAll sampleRuntimeHandling sampleCodec sampleDeliveries (start 100))) := by
  refine ⟨sampleDeliveries_publishing, sampleDeliveries_fit _, ?_⟩
  refine (lifecycle_iff_settles _ _ _ _ sampleDeliveries_publishing (sampleDeliveries_fit _) 7).mpr ?_
  rw [sampleDeliveries_requests]
  refine .inr ⟨?_, .inr ⟨sampleRequest, rfl, by decide⟩⟩
  intro r hr
  have hcap : r = sampleRequest := by simpa using hr
  rw [hcap]
  decide

/-- Without one it is accepted and failed for each envelope, with a result each. -/
theorem unhandled_task_is_accepted_again :
    (∀ d ∈ sampleDeliveries, Publishing d.answer) ∧
      (taskIds sampleRuntime sampleCodec sampleDeliveries).card < 10000 ∧
      (deliveriesOf sampleRuntime sampleCodec 7
        (deliverAll sampleRuntime sampleCodec sampleDeliveries (start 100))).map
          (fun d => (d.2.filterMap (auditOf 7), d.2.filterMap (resultOf 7))) =
        [([.accepted, .failed], [.failed]), ([.accepted, .failed], [.failed])] ∧
      ¬ Lifecycle sampleRuntime 7 (deliveriesOf sampleRuntime sampleCodec 7
        (deliverAll sampleRuntime sampleCodec sampleDeliveries (start 100))) := by
  refine ⟨sampleDeliveries_publishing, ?_, rfl, ?_⟩
  · exact (card_taskIds_le sampleDeliveries).trans_lt (by decide)
  · rintro (⟨d, later, hds, -, hskip⟩ | hrefused)
    · obtain ⟨-, rfl⟩ := List.cons.inj hds
      exact absurd (hskip _ (List.mem_cons_self ..)).audits (by decide +kernel)
    · exact absurd (hrefused _ (List.mem_cons_self ..)).2.audits (by decide +kernel)

end Sample

end RefundOps.Runtime
