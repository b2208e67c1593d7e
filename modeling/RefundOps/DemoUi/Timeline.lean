import RefundOps.Foundation.Audit
import RefundOps.Resolution.Trace

/-!
# The timeline of the UI

`build_timeline_from_records`: the trace of a case, each step joined with the audit record of its
event. A step does not carry the id of its event, so the join goes through the four fields that it
does carry, and the last event with these fields wins (`joinsByEvent_iff`).
-/

set_option autoImplicit false

namespace RefundOps.DemoUi

open Resolution (ValueLibrary TraceStep traceCase caseOrder)

/-- An `AuditPayload`, with the whole of its envelope. -/
structure AuditRecord (env : String) extends AuditPayload where
  originalEnvelope : EventEnvelope env
  original_eq : original = ⟨originalEnvelope.eventId, originalEnvelope.correlationId⟩

def outcomeValue : AuditOutcome → String
  | .accepted => "accepted"
  | .rejected => "rejected"
  | .duplicateSkipped => "duplicate_skipped"
  | .completed => "completed"
  | .failed => "failed"

theorem outcomeValue_inj {a b : AuditOutcome} (h : outcomeValue a = outcomeValue b) : a = b := by
  revert h
  cases a <;> cases b <;> decide

structure TimelineEntry where
  seq : Nat
  actor : String
  eventType : String
  outcome : Option String := none
  reason : Option String := none
  timestamp : Time
  causedBy : Option UUID := none
  taskId : Option UUID := none
  isOrphan : Bool := false

structure TimelineView where
  correlationId : UUID
  entries : List TimelineEntry := []
  found : Bool := false

/-- `_step_key`. -/
def stepKey (eventType : String) (timestamp : Time) (actor : String) (causedBy : Option UUID) :
    String × Time × String × Option UUID :=
  (eventType, timestamp, actor, causedBy)

section Build

variable {env : String}

def envelopeKey (envelope : EventEnvelope env) : String × Time × String × Option UUID :=
  stepKey envelope.eventType envelope.timestamp envelope.agentId envelope.causationId

/-- `env_by_id`: of several records of an event, the last. -/
def envById (records : List (AuditRecord env)) : Dict UUID (EventEnvelope env) :=
  Dict.ofPairs (records.map fun rec => (rec.originalEnvelope.eventId, rec.originalEnvelope))

/-- `audit_by_id`. -/
def auditById (records : List (AuditRecord env)) : Dict UUID (AuditRecord env) :=
  Dict.ofPairs (records.map fun rec => (rec.originalEnvelope.eventId, rec))

/-- `id_by_key`: of several events with the same fields, the last. -/
def idByKey (envelopes : List (EventEnvelope env)) :
    Dict (String × Time × String × Option UUID) UUID :=
  Dict.ofPairs (envelopes.map fun e => (envelopeKey e, e.eventId))

def timelineEntry (records : List (AuditRecord env)) (step : TraceStep) : TimelineEntry :=
  let eventId := (idByKey (envById records).values).get?
    (stepKey step.eventType step.timestamp step.actor step.causedBy)
  let audit := eventId.bind (auditById records).get?
  { seq := step.seq
    actor := step.actor
    eventType := step.eventType
    outcome := match audit with
      | some audit => some (outcomeValue audit.outcome)
      | none => step.outcome
    reason := audit.bind fun audit => audit.reason
    timestamp := step.timestamp
    causedBy := step.causedBy
    taskId := step.taskId
    isOrphan := step.causedBy.isSome && step.parentEventId.isNone }

/-- `build_timeline_from_records`. -/
def buildTimelineFromRecords (lib : ValueLibrary) (correlationId : UUID)
    (records : List (AuditRecord env)) : TimelineView :=
  if records.isEmpty then { correlationId }
  else
    { correlationId
      entries := (traceCase lib correlationId (envById records).values).map (timelineEntry records)
      found := true }

/-! ## The last record of an event -/

/-- A record after which there is none of its event. -/
def IsLast (records : List (AuditRecord env)) (rec : AuditRecord env) : Prop :=
  ∃ before after, records = before ++ rec :: after ∧
    ∀ r ∈ after, r.originalEnvelope.eventId ≠ rec.originalEnvelope.eventId

variable {records : List (AuditRecord env)}

theorem IsLast.mem {rec : AuditRecord env} (h : IsLast records rec) : rec ∈ records := by
  obtain ⟨before, after, hsplit, -⟩ := h
  rw [hsplit]
  exact List.mem_append_right _ List.mem_cons_self

/-- What the records of an event are looked up for is taken from the last one. -/
theorem get?_lastOf_iff {α : Type} {f : AuditRecord env → α} {id : UUID} {v : α} :
    (Dict.ofPairs (records.map fun rec => (rec.originalEnvelope.eventId, f rec))).get? id = some v ↔
      ∃ rec, IsLast records rec ∧ rec.originalEnvelope.eventId = id ∧ f rec = v := by
  rw [Dict.get?_ofPairs_eq_some_iff]
  constructor
  · rintro ⟨before, after, hsplit, hlast⟩
    obtain ⟨before, rest, rfl, -, hrest⟩ := List.map_eq_append_iff.mp hsplit
    obtain ⟨rec, after, rfl, hrec, rfl⟩ := List.map_eq_cons_iff.mp hrest
    cases hrec
    refine ⟨rec, ⟨before, after, rfl, ?_⟩, rfl, rfl⟩
    intro r hr heq
    apply hlast
    rw [List.map_map]
    exact List.mem_map.mpr ⟨r, hr, heq⟩
  · rintro ⟨rec, ⟨before, after, rfl, hlast⟩, rfl, rfl⟩
    refine ⟨_, after.map fun rec => (rec.originalEnvelope.eventId, f rec), List.map_append, ?_⟩
    rw [List.map_map]
    intro hmem
    obtain ⟨r, hr, heq⟩ := List.mem_map.mp hmem
    exact hlast r hr heq

theorem get?_auditById_iff {id : UUID} {rec : AuditRecord env} :
    (auditById records).get? id = some rec ↔
      IsLast records rec ∧ rec.originalEnvelope.eventId = id := by
  unfold auditById
  rw [get?_lastOf_iff]
  constructor
  · rintro ⟨_, hlast, hid, rfl⟩
    exact ⟨hlast, hid⟩
  · rintro ⟨hlast, hid⟩
    exact ⟨rec, hlast, hid, rfl⟩

/-- The envelopes of a timeline are those of the last records. -/
theorem mem_envelopes_iff {e : EventEnvelope env} :
    e ∈ (envById records).values ↔ ∃ rec, IsLast records rec ∧ rec.originalEnvelope = e := by
  constructor
  · intro he
    obtain ⟨id, hid⟩ := Dict.get?_of_mem_values he
    obtain ⟨rec, hlast, -, hrec⟩ := get?_lastOf_iff.mp hid
    exact ⟨rec, hlast, hrec⟩
  · rintro ⟨rec, hlast, rfl⟩
    exact Dict.mem_values_of_get? (get?_lastOf_iff.mpr ⟨rec, hlast, rfl, rfl⟩)

/-- An event has one last record. -/
theorem IsLast.unique {r₁ r₂ : AuditRecord env} (h₁ : IsLast records r₁) (h₂ : IsLast records r₂)
    (hid : r₁.originalEnvelope.eventId = r₂.originalEnvelope.eventId) : r₁ = r₂ := by
  have hget := get?_auditById_iff.mpr ⟨h₁, hid⟩
  rw [get?_auditById_iff.mpr ⟨h₂, rfl⟩] at hget
  exact (Option.some.inj hget).symm

/-! ## The join -/

/-- What the timeline shows for a key: the last record of one of its events. -/
theorem exists_shown {e : EventEnvelope env} (he : e ∈ (envById records).values) :
    ∃ rec, IsLast records rec ∧ envelopeKey rec.originalEnvelope = envelopeKey e ∧
      ((idByKey (envById records).values).get? (envelopeKey e)).bind (auditById records).get? =
        some rec := by
  have hkey : envelopeKey e ∈ ((envById records).values.map fun e =>
      (envelopeKey e, e.eventId)).map Prod.fst := by
    rw [List.map_map]
    exact List.mem_map_of_mem he
  obtain ⟨id, hid⟩ := Dict.exists_get?_ofPairs hkey
  obtain ⟨e', he', heq⟩ := List.mem_map.mp (Dict.mem_of_get?_ofPairs hid)
  obtain ⟨rec, hlast, rfl⟩ := mem_envelopes_iff.mp he'
  obtain ⟨hsame, rfl⟩ := Prod.mk.inj heq
  refine ⟨rec, hlast, hsame, ?_⟩
  unfold idByKey
  rw [hid]
  exact get?_auditById_iff.mpr ⟨hlast, rfl⟩

/-- Each entry shows the outcome and the reason of the last record of its own event. -/
def JoinsByEvent (lib : ValueLibrary) (correlationId : UUID) (records : List (AuditRecord env)) :
    Prop :=
  ∀ (i : Nat) (entry : TimelineEntry) (e : EventEnvelope env),
    (buildTimelineFromRecords lib correlationId records).entries[i]? = some entry →
    (caseOrder lib correlationId (envById records).values)[i]? = some e →
    ∃ rec, IsLast records rec ∧ rec.originalEnvelope.eventId = e.eventId ∧
      entry.outcome = some (outcomeValue rec.outcome) ∧ entry.reason = rec.reason

variable {lib : ValueLibrary} {correlationId : UUID}

theorem entries_eq : (buildTimelineFromRecords lib correlationId records).entries =
    (traceCase lib correlationId (envById records).values).map (timelineEntry records) := by
  unfold buildTimelineFromRecords
  cases records with
  | nil => rfl
  | cons rec records => rfl

theorem mem_envelopes_of_caseOrder {e : EventEnvelope env}
    (he : e ∈ caseOrder lib correlationId (envById records).values) :
    e ∈ (envById records).values :=
  (Resolution.mem_relevantTo.mp
    (EventLog.mem_causalOrder Resolution.mem_of_mem_caseRoots he)).1

/-- The entry at a place shows what its key leads to. -/
theorem getElem?_entries {i : Nat} {e : EventEnvelope env}
    (he : (caseOrder lib correlationId (envById records).values)[i]? = some e)
    {rec : AuditRecord env}
    (hshown : ((idByKey (envById records).values).get? (envelopeKey e)).bind
      (auditById records).get? = some rec) :
    ∃ entry, (buildTimelineFromRecords lib correlationId records).entries[i]? = some entry ∧
      entry.outcome = some (outcomeValue rec.outcome) ∧ entry.reason = rec.reason := by
  rw [entries_eq, List.getElem?_map, Resolution.getElem?_traceCase, he]
  refine ⟨_, rfl, ?_, ?_⟩
  · unfold timelineEntry
    dsimp only [Resolution.traceStep]
    unfold envelopeKey at hshown
    rw [hshown]
  · unfold timelineEntry
    dsimp only [Resolution.traceStep]
    unfold envelopeKey at hshown
    rw [hshown]
    rfl

/-- The last record of an event of the case has an entry. -/
theorem IsLast.getElem?_caseOrder {rec : AuditRecord env} (h : IsLast records rec)
    (hcase : rec.originalEnvelope.correlationId = correlationId) :
    ∃ i : Nat, (caseOrder lib correlationId (envById records).values)[i]? = some rec.originalEnvelope := by
  have hmem : rec.originalEnvelope ∈ (envById records).values := mem_envelopes_iff.mpr ⟨rec, h, rfl⟩
  have hid := (@Resolution.mem_ids_caseOrder env lib correlationId (envById records).values
    rec.originalEnvelope.eventId).mpr ⟨_, hmem, hcase, rfl⟩
  obtain ⟨e, he, heq⟩ := List.mem_map.mp hid
  obtain ⟨r, hr, rfl⟩ := mem_envelopes_iff.mp (mem_envelopes_of_caseOrder he)
  rw [hr.unique h heq] at he
  exact List.mem_iff_getElem?.mp he

end Build

/-- **When the timeline joins by event.** No two events of the case have the same type, moment, actor
    and cause in their last records, and different outcomes or reasons. -/
theorem joinsByEvent_iff {env : String} (lib : ValueLibrary) (correlationId : UUID)
    (records : List (AuditRecord env))
    (hcase : ∀ rec ∈ records, rec.originalEnvelope.correlationId = correlationId) :
    JoinsByEvent lib correlationId records ↔
      ∀ r₁ r₂, IsLast records r₁ → IsLast records r₂ →
        envelopeKey r₁.originalEnvelope = envelopeKey r₂.originalEnvelope →
          r₁.outcome = r₂.outcome ∧ r₁.reason = r₂.reason := by
  constructor
  · intro h
    -- what is shown for the key of an event is its own last record
    have hown : ∀ r rec, IsLast records r →
        ((idByKey (envById records).values).get? (envelopeKey r.originalEnvelope)).bind
          (auditById records).get? = some rec →
        r.outcome = rec.outcome ∧ r.reason = rec.reason := by
      intro r rec hr hshown
      obtain ⟨i, hi⟩ :=
        @IsLast.getElem?_caseOrder env records lib correlationId r hr (hcase r hr.mem)
      obtain ⟨entry, hentry, houtcome, hreason⟩ := getElem?_entries hi hshown
      obtain ⟨own, hlast, hid, houtcome', hreason'⟩ := h i entry _ hentry hi
      obtain rfl := hlast.unique hr hid
      rw [houtcome, Option.some.injEq] at houtcome'
      exact ⟨(outcomeValue_inj houtcome').symm, hreason'.symm.trans hreason⟩
    intro r₁ r₂ h₁ h₂ hkey
    obtain ⟨rec, -, -, hshown⟩ := exists_shown (mem_envelopes_iff.mpr ⟨r₁, h₁, rfl⟩)
    obtain ⟨houtcome₁, hreason₁⟩ := hown r₁ rec h₁ hshown
    obtain ⟨houtcome₂, hreason₂⟩ := hown r₂ rec h₂ (by rw [← hkey]; exact hshown)
    exact ⟨houtcome₁.trans houtcome₂.symm, hreason₁.trans hreason₂.symm⟩
  · intro h i entry e hentry he
    obtain ⟨own, hown, rfl⟩ := mem_envelopes_iff.mp
      (mem_envelopes_of_caseOrder (List.mem_of_getElem? he))
    obtain ⟨rec, hlast, hkey, hshown⟩ := exists_shown (mem_envelopes_iff.mpr ⟨own, hown, rfl⟩)
    obtain ⟨entry', hentry', houtcome, hreason⟩ := getElem?_entries he hshown
    rw [hentry] at hentry'
    cases hentry'
    obtain ⟨hsame, hsame'⟩ := h own rec hown hlast hkey.symm
    exact ⟨own, hown, rfl, by rw [houtcome, hsame], by rw [hreason, hsame']⟩

/-- The record of an event, as the audit agent would write it. -/
def sampleRecord (eventId : UUID) (causationId : Option UUID) (outcome : AuditOutcome)
    (reason : Option String) (h : outcome.reasonOk reason = true) : AuditRecord "local" where
  originalEnvelope := Resolution.sampleEvent eventId causationId 0
  original := ⟨eventId, 1⟩
  original_eq := rfl
  outcome
  reason
  recordedAt := 0
  validateReasonRequired := h

theorem failed_reasonOk : AuditOutcome.failed.reasonOk (some "timeout") = true := rfl

/-- An event, and another that it caused and that failed; it was recorded as accepted at first. -/
def failureRecords : List (AuditRecord "local") :=
  [sampleRecord 1 none .accepted none AuditOutcome.accepted_reasonOk,
    sampleRecord 2 (some 1) .accepted none AuditOutcome.accepted_reasonOk,
    sampleRecord 2 (some 1) .failed (some "timeout") failed_reasonOk]

/-- Each is shown with what became of it in the end. -/
theorem joinsByEvent_failure :
    JoinsByEvent Resolution.sampleValueLibrary 1 failureRecords ∧
      (buildTimelineFromRecords Resolution.sampleValueLibrary 1 failureRecords).entries.map
        (fun entry => (entry.outcome, entry.reason)) =
        [(some "accepted", none), (some "failed", some "timeout")] := by
  refine ⟨(joinsByEvent_iff Resolution.sampleValueLibrary 1 failureRecords ?_).mpr ?_,
    by decide +kernel⟩
  · intro rec hrec
    simp only [failureRecords, List.mem_cons, List.not_mem_nil, or_false] at hrec
    rcases hrec with rfl | rfl | rfl <;> rfl
  · -- the keys tell the two events apart, and an event has one last record
    intro r₁ r₂ h₁ h₂ hkey
    have hid : r₁.originalEnvelope.eventId = r₂.originalEnvelope.eventId := by
      have hcause : r₁.originalEnvelope.causationId = r₂.originalEnvelope.causationId :=
        congrArg (fun key => key.2.2.2) hkey
      have hmem₁ := h₁.mem
      have hmem₂ := h₂.mem
      simp only [failureRecords, List.mem_cons, List.not_mem_nil, or_false] at hmem₁ hmem₂
      rcases hmem₁ with rfl | rfl | rfl <;> rcases hmem₂ with rfl | rfl | rfl <;>
        first | rfl | exact absurd hcause (by decide)
    rw [h₁.unique h₂ hid]
    exact ⟨rfl, rfl⟩

/-- Two events with the same fields, of which one failed. -/
def twinRecords : List (AuditRecord "local") :=
  [sampleRecord 1 none .accepted none AuditOutcome.accepted_reasonOk,
    sampleRecord 2 (some 1) .failed (some "timeout") failed_reasonOk,
    sampleRecord 3 (some 1) .accepted none AuditOutcome.accepted_reasonOk]

/-- **Two events with the same fields show the outcome of the second.** -/
theorem twin_events_share_an_outcome :
    ¬ JoinsByEvent Resolution.sampleValueLibrary 1 twinRecords := by
  intro h
  have hids : (caseOrder Resolution.sampleValueLibrary 1 (envById twinRecords).values).map
      (·.eventId) = [1, 2, 3] := by
    decide +kernel
  have houtcomes : (buildTimelineFromRecords Resolution.sampleValueLibrary 1 twinRecords).entries.map
      (·.outcome) = [some "accepted", some "accepted", some "accepted"] := by
    decide +kernel
  have hevent := congrArg (fun l : List UUID => l[1]?) hids
  have hentry := congrArg (fun l : List (Option String) => l[1]?) houtcomes
  rw [List.getElem?_map] at hevent hentry
  obtain ⟨e, he, hid⟩ := Option.map_eq_some_iff.mp hevent
  obtain ⟨entry, hentry, houtcome⟩ := Option.map_eq_some_iff.mp hentry
  obtain ⟨rec, hlast, hrec, hshown, -⟩ := h 1 entry e hentry he
  have hmem := hlast.mem
  rw [hid] at hrec
  rw [houtcome] at hshown
  simp only [twinRecords, List.mem_cons, List.not_mem_nil, or_false] at hmem
  rcases hmem with rfl | rfl | rfl
  · exact absurd hrec (by decide)
  · exact absurd hshown (by decide)
  · exact absurd hrec (by decide)

end RefundOps.DemoUi
