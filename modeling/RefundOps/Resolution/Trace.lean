import RefundOps.Lib.CausalOrder
import RefundOps.Lib.Dict
import RefundOps.Foundation.Consumer

/-!
# The trace of a case

`trace_case`: the envelopes of one case, each after its cause as far as the causes lead back to a
root, and after them the envelopes that no root leads to, by time. A cause is the id of an event or of
a task, and a task is replaced by the event that requested it.

The trace is a `causalOrder` of the log of the case. Only the traversal drops duplicates, so an
envelope that no root leads to has a step for each time it was delivered (`oneStepEach_iff`); and only
the traversal looks at causes, so such an envelope may come before the one that caused it, if a clock
is wrong (`parentsFirst_iff`).
-/

set_option autoImplicit false

namespace RefundOps.Resolution

/-- Moments are compared as the integers that they are. -/
local instance timeOrder : LinearOrder Time := Int.instLinearOrder

structure TraceStep where
  seq : Nat
  actor : String
  correlationId : UUID
  eventType : String
  outcome : Option String
  taskId : Option UUID
  timestamp : Time
  causedBy : Option UUID
  parentEventId : Option UUID := none

/-- What Python makes of the values of a payload. -/
structure ValueLibrary where
  /-- `UUID(str(val))`, `none` where it raises. -/
  uuid : Json → Option UUID
  str : Json → String

section Trace

variable {env : String} (lib : ValueLibrary)

/-- `_extract_outcome`. -/
def extractOutcome (envelope : EventEnvelope env) : Option String :=
  match envelope.payload.get? "outcome" with
  | none => none
  | some .null => none
  | some outcome => some (lib.str outcome)

/-- `_extract_task_id`. -/
def extractTaskId (envelope : EventEnvelope env) : Option UUID :=
  match envelope.payload.get? "task_id" with
  | none => none
  | some .null => none
  | some val => lib.uuid val

/-- `request_eid_by_task`: the first request of each task. -/
def requestEidByTask (relevant : List (EventEnvelope env)) : Dict UUID UUID :=
  relevant.foldl (fun d e =>
    if Text.contains "task_request" e.eventType then
      match extractTaskId lib e with
      | none => d
      | some tid => if (d.get? tid).isSome then d else d.set tid e.eventId
    else d) .empty

/-- `_resolve_parent`. -/
def resolveParent (relevant : List (EventEnvelope env)) (envelope : EventEnvelope env) :
    Option UUID :=
  match envelope.causationId with
  | none => none
  | some cb =>
      if cb ∈ relevant.map (·.eventId) then some cb
      -- a task, or nothing that the case knows
      else (requestEidByTask lib relevant).get? cb

/-- The envelopes of a case, each with the cause that it is resolved to. -/
def caseLog (relevant : List (EventEnvelope env)) : EventLog (EventEnvelope env) UUID Time where
  events := relevant
  key e := e.eventId
  cause := resolveParent lib relevant
  time e := e.timestamp

/-- The envelopes without a cause, by time; the earliest one if there are none. -/
def caseRoots (relevant : List (EventEnvelope env)) : List (EventEnvelope env) :=
  let roots := relevant.filter fun e => e.causationId = none
  let roots := if roots.isEmpty then ((caseLog lib relevant).earliest relevant).toList else roots
  (caseLog lib relevant).byTime roots

def relevantTo (correlationId : UUID) (envelopes : List (EventEnvelope env)) :
    List (EventEnvelope env) :=
  envelopes.filter fun e => e.correlationId = correlationId

/-- `ordered`: the breadth-first order from the roots, and the orphans by time. -/
def caseOrder (correlationId : UUID) (envelopes : List (EventEnvelope env)) :
    List (EventEnvelope env) :=
  let relevant := relevantTo correlationId envelopes
  (caseLog lib relevant).causalOrder (caseRoots lib relevant)

/-- `parent_by_eid`. -/
def parentByEid (relevant : List (EventEnvelope env)) : Dict UUID (Option UUID) :=
  Dict.ofPairs (relevant.map fun e => (e.eventId, resolveParent lib relevant e))

def traceStep (relevant : List (EventEnvelope env)) (seq : Nat) (envelope : EventEnvelope env) :
    TraceStep where
  seq
  actor := envelope.agentId
  correlationId := envelope.correlationId
  eventType := envelope.eventType
  outcome := extractOutcome lib envelope
  taskId := extractTaskId lib envelope
  timestamp := envelope.timestamp
  causedBy := envelope.causationId
  parentEventId := ((parentByEid lib relevant).get? envelope.eventId).join

/-- `trace_case`. -/
def traceCase (correlationId : UUID) (envelopes : List (EventEnvelope env)) : List TraceStep :=
  if (relevantTo correlationId envelopes).isEmpty then []
  else
    ((caseOrder lib correlationId envelopes).zipIdx 1).map fun (envelope, seq) =>
      traceStep lib (relevantTo correlationId envelopes) seq envelope

/-! ## The order of a case -/

variable {lib} {correlationId : UUID} {envelopes relevant : List (EventEnvelope env)}

theorem mem_relevantTo {e : EventEnvelope env} :
    e ∈ relevantTo correlationId envelopes ↔ e ∈ envelopes ∧ e.correlationId = correlationId := by
  unfold relevantTo
  rw [List.mem_filter, decide_eq_true_iff]

theorem mem_of_mem_caseRoots : ∀ e ∈ caseRoots lib relevant, e ∈ relevant := by
  intro e he
  unfold caseRoots at he
  dsimp only at he
  rw [EventLog.mem_byTime] at he
  split at he
  · exact EventLog.earliest_mem (Option.mem_toList.mp he)
  · exact (List.mem_filter.mp he).1

/-- The roots have no cause, or there is only one. -/
theorem caseRoots_kind :
    (∀ e ∈ caseRoots lib relevant, (caseLog lib relevant).cause e = none) ∨
      (∃ r, caseRoots lib relevant = [r]) := by
  unfold caseRoots
  dsimp only
  split
  · cases (caseLog lib relevant).earliest relevant with
    | none =>
      refine .inl ?_
      intro e he
      simp at he
    | some r => exact .inr ⟨r, rfl⟩
  · refine .inl ?_
    intro e he
    rw [EventLog.mem_byTime, List.mem_filter, decide_eq_true_iff] at he
    show resolveParent lib relevant e = none
    unfold resolveParent
    rw [he.2]

theorem mem_ids_caseOrder {id : UUID} :
    id ∈ (caseOrder lib correlationId envelopes).map (·.eventId) ↔
      ∃ e ∈ envelopes, e.correlationId = correlationId ∧ e.eventId = id := by
  have hkeys : id ∈ (caseOrder lib correlationId envelopes).map (·.eventId) ↔
      id ∈ (relevantTo correlationId envelopes).map (·.eventId) :=
    EventLog.mem_keys_causalOrder (L := caseLog lib (relevantTo correlationId envelopes))
      mem_of_mem_caseRoots
  rw [hkeys, List.mem_map]
  simp only [mem_relevantTo, and_assoc]

theorem correlationId_of_mem_caseOrder {e : EventEnvelope env}
    (h : e ∈ caseOrder lib correlationId envelopes) : e.correlationId = correlationId :=
  (mem_relevantTo.mp (EventLog.mem_causalOrder mem_of_mem_caseRoots h)).2

/-- Without envelopes there is no step in any case. -/
theorem traceCase_eq : traceCase lib correlationId envelopes =
    ((caseOrder lib correlationId envelopes).zipIdx 1).map fun (envelope, seq) =>
      traceStep lib (relevantTo correlationId envelopes) seq envelope := by
  unfold traceCase
  split
  · rename_i hempty
    have horder : caseOrder lib correlationId envelopes = [] := by
      refine List.eq_nil_iff_forall_not_mem.mpr ?_
      intro e he
      have hmem : e ∈ relevantTo correlationId envelopes :=
        EventLog.mem_causalOrder mem_of_mem_caseRoots he
      rw [List.isEmpty_iff.mp hempty] at hmem
      cases hmem
    rw [horder]
    rfl
  · rfl

theorem length_traceCase : (traceCase lib correlationId envelopes).length =
    (caseOrder lib correlationId envelopes).length := by
  rw [traceCase_eq]
  rw [List.length_map, List.length_zipIdx]

/-- Each step is that of the envelope at its place. -/
theorem getElem?_traceCase (i : Nat) : (traceCase lib correlationId envelopes)[i]? =
    ((caseOrder lib correlationId envelopes)[i]?).map
      (traceStep lib (relevantTo correlationId envelopes) (i + 1)) := by
  rw [traceCase_eq]
  rw [List.getElem?_map, List.getElem?_zipIdx, Option.map_map, Nat.add_comm]
  rfl

end Trace

/-! ## One step for each event -/

section OneStep

variable {env : String} (lib : ValueLibrary) (correlationId : UUID)
  (envelopes : List (EventEnvelope env))

/-- The trace of a case has one step for each event of it and for no others, numbered from 1. -/
structure OneStepEach : Prop where
  nodup : ((caseOrder lib correlationId envelopes).map (·.eventId)).Nodup
  mem_iff (id : UUID) : id ∈ (caseOrder lib correlationId envelopes).map (·.eventId) ↔
    ∃ e ∈ envelopes, e.correlationId = correlationId ∧ e.eventId = id
  steps (i : Nat) : (traceCase lib correlationId envelopes)[i]? =
    ((caseOrder lib correlationId envelopes)[i]?).map
      (traceStep lib (relevantTo correlationId envelopes) (i + 1))
  ofCase : ∀ step ∈ traceCase lib correlationId envelopes, step.correlationId = correlationId
  numbered : (traceCase lib correlationId envelopes).map (·.seq) =
    List.range' 1 (traceCase lib correlationId envelopes).length

/-- An event that the causes lead to from the roots of its case. -/
def FromRoot (id : UUID) : Prop :=
  (caseLog lib (relevantTo correlationId envelopes)).Reached
    (caseRoots lib (relevantTo correlationId envelopes)) id

end OneStep

/-- **When a trace has one step for each event.** No event that is not reached from the roots was
    delivered more than once. -/
theorem oneStepEach_iff {env : String} (lib : ValueLibrary) (correlationId : UUID)
    (envelopes : List (EventEnvelope env)) :
    OneStepEach lib correlationId envelopes ↔
      ∀ id, ¬ FromRoot lib correlationId envelopes id →
        ((relevantTo correlationId envelopes).map (·.eventId)).count id ≤ 1 := by
  have hnodup : ((caseOrder lib correlationId envelopes).map (·.eventId)).Nodup ↔
      ∀ id, ¬ FromRoot lib correlationId envelopes id →
        ((relevantTo correlationId envelopes).map (·.eventId)).count id ≤ 1 :=
    EventLog.nodup_causalOrder_iff (L := caseLog lib (relevantTo correlationId envelopes))
  rw [← hnodup]
  constructor
  · intro h
    exact h.nodup
  · intro h
    constructor
    · exact h
    · intro id
      exact mem_ids_caseOrder
    · exact getElem?_traceCase
    · intro step hstep
      rw [traceCase_eq] at hstep
      obtain ⟨⟨e, seq⟩, he, rfl⟩ := List.mem_map.mp hstep
      exact correlationId_of_mem_caseOrder (List.fst_mem_of_mem_zipIdx he)
    · rw [length_traceCase]
      rw [traceCase_eq]
      rw [List.map_map]
      exact List.zipIdx_map_snd 1 _

/-- For payloads that have no values to look at. -/
def sampleValueLibrary : ValueLibrary where
  uuid _ := none
  str _ := ""

/-- An event of the sample case. -/
def sampleEvent (eventId : UUID) (causationId : Option UUID) (timestamp : Time) :
    EventEnvelope "local" :=
  { Transport.sampleEnvelope eventId with
    causationId
    timestamp
    fieldsOk := (Transport.sampleEnvelope eventId).fieldsOk
    causationOk := fun h => h.2 List.mem_cons_self }

/-- **An event whose cause is not in the case has two steps if it was delivered twice.** -/
theorem redelivered_orphan_has_two_steps :
    ¬ OneStepEach sampleValueLibrary 1
      [sampleEvent 1 none 0, sampleEvent 2 (some 9) 1, sampleEvent 2 (some 9) 1] := by
  intro h
  have hids : (caseOrder sampleValueLibrary 1
      [sampleEvent 1 none 0, sampleEvent 2 (some 9) 1, sampleEvent 2 (some 9) 1]).map
      (·.eventId) = [1, 2, 2] := by
    decide +kernel
  have hnodup := h.nodup
  rw [hids] at hnodup
  revert hnodup
  decide

/-! ## Causes first -/

section Causes

variable {env : String} (lib : ValueLibrary) (correlationId : UUID)
  (envelopes : List (EventEnvelope env))

/-- A step whose parent is an event of the case comes after the step of that event. -/
def ParentsFirst : Prop :=
  ∀ (i j : Nat) (step : TraceStep) (parent : EventEnvelope env),
    (traceCase lib correlationId envelopes)[i]? = some step →
    (caseOrder lib correlationId envelopes)[j]? = some parent →
    step.parentEventId = some parent.eventId → j < i

variable {lib correlationId envelopes}

theorem get?_parentByEid {relevant : List (EventEnvelope env)} {e : EventEnvelope env}
    (hnodup : (relevant.map (·.eventId)).Nodup) (he : e ∈ relevant) :
    ((parentByEid lib relevant).get? e.eventId).join = resolveParent lib relevant e := by
  have hget : (parentByEid lib relevant).get? e.eventId = some (resolveParent lib relevant e) := by
    apply Dict.get?_ofPairs_of_mem
    · exact List.mem_map_of_mem he
    · rw [List.map_map]
      exact hnodup
  rw [hget]
  rfl

theorem parentsFirst_iff_causesFirst
    (hnodup : ((relevantTo correlationId envelopes).map (·.eventId)).Nodup) :
    ParentsFirst lib correlationId envelopes ↔
      (caseLog lib (relevantTo correlationId envelopes)).CausesFirst
        (caseOrder lib correlationId envelopes) := by
  have hparent : ∀ {i : Nat} {e : EventEnvelope env},
      (caseOrder lib correlationId envelopes)[i]? = some e →
        (traceStep lib (relevantTo correlationId envelopes) (i + 1) e).parentEventId =
          resolveParent lib (relevantTo correlationId envelopes) e := by
    intro i e he
    have hmem := List.mem_of_getElem? he
    exact get?_parentByEid hnodup (EventLog.mem_causalOrder mem_of_mem_caseRoots hmem)
  constructor
  · intro h i j e p hi hj hcause
    refine h i j _ p ?_ hj ((hparent hi).trans hcause)
    rw [getElem?_traceCase, hi]
    rfl
  · intro h i j step parent hi hj hcause
    rw [getElem?_traceCase] at hi
    obtain ⟨e, he, rfl⟩ := Option.map_eq_some_iff.mp hi
    rw [hparent he] at hcause
    exact h i j e parent he hj hcause

end Causes

/-- **When a trace has causes first**, if no two events of the case have one id. The root that is
    chosen when there is none has no parent in the case, and an event that is not reached from the
    roots is after its parent by time, or by place if the moments are the same. -/
theorem parentsFirst_iff {env : String} (lib : ValueLibrary) (correlationId : UUID)
    (envelopes : List (EventEnvelope env))
    (hnodup : ((relevantTo correlationId envelopes).map (·.eventId)).Nodup) :
    ParentsFirst lib correlationId envelopes ↔
      (∀ r ∈ caseRoots lib (relevantTo correlationId envelopes),
        ∀ p ∈ relevantTo correlationId envelopes,
          resolveParent lib (relevantTo correlationId envelopes) r ≠ some p.eventId) ∧
      ∀ e ∈ relevantTo correlationId envelopes, ∀ p ∈ relevantTo correlationId envelopes,
        ¬ FromRoot lib correlationId envelopes e.eventId →
        resolveParent lib (relevantTo correlationId envelopes) e = some p.eventId →
          (caseLog lib (relevantTo correlationId envelopes)).Earlier
            (relevantTo correlationId envelopes) p e := by
  rw [parentsFirst_iff_causesFirst hnodup]
  exact EventLog.causesFirst_causalOrder_iff hnodup mem_of_mem_caseRoots caseRoots_kind

/-- A root and an event that it caused. -/
theorem parentsFirst_chain :
    ParentsFirst sampleValueLibrary 1 [sampleEvent 1 none 0, sampleEvent 2 (some 1) 5] := by
  have hrelevant : relevantTo 1 [sampleEvent 1 none 0, sampleEvent 2 (some 1) 5] =
      [sampleEvent 1 none 0, sampleEvent 2 (some 1) 5] := rfl
  have hroots : caseRoots sampleValueLibrary [sampleEvent 1 none 0, sampleEvent 2 (some 1) 5] =
      [sampleEvent 1 none 0] := rfl
  refine (parentsFirst_iff sampleValueLibrary 1
    [sampleEvent 1 none 0, sampleEvent 2 (some 1) 5] (by decide +kernel)).mpr ⟨?_, ?_⟩
  · intro r hr p _
    rw [hrelevant, hroots, List.mem_singleton] at hr
    rw [hr]
    rintro ⟨⟩
  · intro e he p _ hreached hcause
    rw [hrelevant] at he
    rcases List.mem_cons.mp he with rfl | he
    · cases hcause
    · -- the event is reached from the root
      rw [List.mem_singleton.mp he] at hreached
      have hroot : FromRoot sampleValueLibrary 1
          [sampleEvent 1 none 0, sampleEvent 2 (some 1) 5] 1 :=
        .root (e := sampleEvent 1 none 0) List.mem_cons_self
      exact absurd (hroot.child (e := sampleEvent 2 (some 1) 5)
        (List.mem_cons_of_mem _ List.mem_cons_self) rfl) hreached

/-- **An event whose cause is in the case stands before it**, since the cause of that one is not and
    its clock is ahead. -/
theorem skewed_orphans_break_the_order :
    let envelopes := [sampleEvent 1 none 0, sampleEvent 2 (some 9) 10, sampleEvent 3 (some 2) 5]
    ((relevantTo 1 envelopes).map (·.eventId)).Nodup ∧
      (caseLog sampleValueLibrary (relevantTo 1 envelopes)).Acyclic ∧
      ¬ ParentsFirst sampleValueLibrary 1 envelopes := by
  intro envelopes
  have hlt : ∀ e ∈ relevantTo 1 envelopes, ∀ p,
      resolveParent sampleValueLibrary (relevantTo 1 envelopes) e = some p → p < e.eventId := by
    decide +kernel
  refine ⟨by decide +kernel, EventLog.acyclic_of_lt hlt, ?_⟩
  intro h
  have hids : (caseOrder sampleValueLibrary 1 envelopes).map (·.eventId) = [1, 3, 2] := by
    decide +kernel
  have hparents : (traceCase sampleValueLibrary 1 envelopes).map (·.parentEventId) =
      [none, some 2, none] := by
    decide +kernel
  have hstep : ((traceCase sampleValueLibrary 1 envelopes)[1]?).map (·.parentEventId) =
      some (some 2) := by
    rw [← List.getElem?_map, hparents]
    rfl
  have hevent : ((caseOrder sampleValueLibrary 1 envelopes)[2]?).map (·.eventId) = some 2 := by
    rw [← List.getElem?_map, hids]
    rfl
  obtain ⟨step, hstep, hparent⟩ := Option.map_eq_some_iff.mp hstep
  obtain ⟨parent, hevent, hid⟩ := Option.map_eq_some_iff.mp hevent
  have hlt := h 1 2 step parent hstep hevent (by rw [hparent, hid])
  exact absurd hlt (by decide)

end RefundOps.Resolution
