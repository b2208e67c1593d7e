import RefundOps.Lib.CausalWalk
import RefundOps.Resolution.Trace

/-!
# The audit timeline

`AuditTimelineBuilder`: the envelopes of a case in causal order, an entry for each, and a terminal
entry that is made up from the entries before it.

The order is that of a walk without a record of where it has been (`causalSort`), so it is a
permutation of the envelopes only if no event that caused another was delivered twice
(`causalSort_iff`). The terminal entry is to say how the case was decided. An entry has no outcome,
so it goes by the word `escalat` in the id of the agent that decided (`tellsOutcome_iff`).

Python bounds the depth of a recursion by the stack. Here any depth will do, so a sort that has no
result at any depth is one that does not end.
-/

set_option autoImplicit false

namespace RefundOps.Testing

open Resolution (ValueLibrary extractTaskId)

attribute [local instance] Resolution.timeOrder

/-! ## The order -/

section Order

variable {env : String}

/-- The cause of an envelope, if it is among the envelopes. -/
def presentCause (envelopes : List (EventEnvelope env)) (envelope : EventEnvelope env) :
    Option UUID :=
  match envelope.causationId with
  | none => none
  | some id => if id ∈ envelopes.map (·.eventId) then some id else none

def sortLog (envelopes : List (EventEnvelope env)) : EventLog (EventEnvelope env) UUID Time where
  events := envelopes
  key e := e.eventId
  cause := presentCause envelopes
  time e := e.timestamp

/-- `_causal_sort`, if the recursion gets along with the depth. -/
def causalSort (depth : Nat) (envelopes : List (EventEnvelope env)) :
    Option (List (EventEnvelope env)) :=
  (sortLog envelopes).walkOrder depth

/-- An event that the causes lead to from the envelopes without a cause. -/
def ReachedId (envelopes : List (EventEnvelope env)) (id : UUID) : Prop :=
  (sortLog envelopes).Reached ((sortLog envelopes).childrenOf none) id

/-- A causal order of envelopes. -/
structure IsCausalSort (envelopes result : List (EventEnvelope env)) : Prop where
  perm : result.Perm envelopes
  causesFirst (hnodup : (envelopes.map (·.eventId)).Nodup) (hacyclic : (sortLog envelopes).Acyclic) :
    (sortLog envelopes).CausesFirst result

theorem presentCause_mem {envelopes : List (EventEnvelope env)} {e : EventEnvelope env} {id : UUID}
    (h : presentCause envelopes e = some id) : id ∈ envelopes.map (·.eventId) := by
  unfold presentCause at h
  split at h
  · cases h
  · split at h
    · next hmem =>
      cases h
      exact hmem
    · cases h

end Order

/-- **When the sort is what it says.** Each event that is reached and caused another was delivered
    once, and an envelope whose id is reached has a cause that is reached, if it has one. -/
theorem causalSort_iff {env : String} (envelopes : List (EventEnvelope env)) :
    (∃ depth result, causalSort depth envelopes = some result ∧ IsCausalSort envelopes result) ↔
      (∀ id, ReachedId envelopes id → (∃ e ∈ envelopes, presentCause envelopes e = some id) →
        (envelopes.map (·.eventId)).count id = 1) ∧
      ∀ e ∈ envelopes, ReachedId envelopes e.eventId →
        ∀ parent, presentCause envelopes e = some parent → ReachedId envelopes parent := by
  constructor
  · rintro ⟨depth, result, hsort, h⟩
    have hw := EventLog.exists_walkOrder_perm_iff.mp ⟨depth, result, hsort, h.perm⟩
    exact ⟨fun id => hw.once, fun e => hw.visited⟩
  · rintro ⟨honce, hvisited⟩
    have hw : (sortLog envelopes).Walkable := ⟨fun {id} => honce id, fun {e} => hvisited e⟩
    obtain ⟨depth, result, hsort, hperm⟩ := EventLog.exists_walkOrder_perm_iff.mpr hw
    refine ⟨depth, result, hsort, hperm, ?_⟩
    intro hnodup hacyclic
    obtain ⟨out, hout, rfl⟩ := EventLog.walkOrder_eq_some_iff.mp hsort
    refine EventLog.causesFirst_walkOrder hacyclic ?_ hout ?_
    · intro e _ id hcause
      exact presentCause_mem hcause
    · have hall := (hperm.map (sortLog envelopes).key).nodup_iff.mpr hnodup
      rw [List.map_append, List.nodup_append] at hall
      exact hall.1

/-- **A root that was delivered twice doubles what it caused.** -/
theorem duplicated_root_breaks_the_sort :
    let envelopes := [Resolution.sampleEvent 1 none 0, Resolution.sampleEvent 1 none 0,
      Resolution.sampleEvent 2 (some 1) 5]
    ¬ ∃ depth result, causalSort depth envelopes = some result ∧
      IsCausalSort envelopes result := by
  intro envelopes
  rintro ⟨depth, result, hsort, h⟩
  have hw := EventLog.exists_walkOrder_perm_iff.mp ⟨depth, result, hsort, h.perm⟩
  have hcount := hw.once (k := 1) (.root (e := Resolution.sampleEvent 1 none 0) ?_)
    ⟨Resolution.sampleEvent 2 (some 1) 5, ?_, ?_⟩
  · revert hcount
    decide +kernel
  · exact (EventLog.mem_childrenOf _).mpr ⟨List.mem_cons_self, rfl⟩
  · exact List.mem_cons_of_mem _ (List.mem_cons_of_mem _ List.mem_cons_self)
  · rfl

/-- A root that was delivered once more, as an event that caused itself: the sort does not end. -/
theorem self_causation_diverges (depth : Nat) :
    causalSort depth [Resolution.sampleEvent 1 none 0, Resolution.sampleEvent 1 (some 1) 0] =
      none := by
  refine Option.eq_none_iff_forall_ne_some.mpr ?_
  intro result hsort
  obtain ⟨out, hout, -⟩ := EventLog.walkOrder_eq_some_iff.mp hsort
  refine EventLog.reachedAcyclic_of_walk hout 1 ?_ (.single ⟨Resolution.sampleEvent 1 (some 1) 0,
    List.mem_cons_of_mem _ List.mem_cons_self, rfl, rfl⟩)
  exact .root (e := Resolution.sampleEvent 1 none 0)
    ((EventLog.mem_childrenOf _).mpr ⟨List.mem_cons_self, rfl⟩)

/-! ## Labels -/

def topicResolutionDecided (env : String) : String :=
  resolveTopic env "customer" "resolution" "decided"

def topicIssueClassified (env : String) : String :=
  resolveTopic env "resolution" "customer-issue" "classified"

def topicRefundReviewRequested (env : String) : String :=
  resolveTopic env "resolution" "refund-review" "requested"

def topicBillingResult (env : String) : String :=
  resolveTopic env "billing" "refund-analysis" "completed"

def topicRiskResult (env : String) : String := resolveTopic env "risk" "review" "completed"

def topicResponseDrafted (env : String) : String :=
  resolveTopic env "resolution" "customer-response" "drafted"

def topicTaskResult (env : String) : String := resolveTopic env "agent" "task" "result"

def decidedLabel : String := "resolution.customer-resolution.decided"

def draftedLabel : String := "resolution.customer-response.drafted"

/-- `_LABEL_MAP`. -/
def labelMap (env : String) : List (String × String) :=
  [(topicIssueClassified env, "resolution.customer-issue.classified"),
    (topicRefundReviewRequested env, "resolution.refund-review.requested"),
    (topicBillingResult env, "billing.refund-analysis.completed"),
    (topicRiskResult env, "risk.review.completed"),
    (topicResolutionDecided env, decidedLabel),
    (topicResponseDrafted env, draftedLabel)]

/-- `s.endswith(suffix)`. -/
def endsWith (suffix s : String) : Bool := suffix.toList.isSuffixOf s.toList

def isTaskRequested (eventType : String) : Bool := endsWith ".task.requested.v1" eventType

/-- The agent between `agent` and `task` in a topic. -/
def topicTarget (eventType : String) : Option String :=
  let parts := (eventType.toList.splitOn '.').map String.ofList
  if "agent" ∈ parts then
    let between := (parts.dropWhile (· ≠ "agent")).drop 1
    if "task" ∈ between then
      let agentParts := between.takeWhile (· ≠ "task")
      if agentParts.isEmpty then none else some (Text.join "." agentParts)
    else none
  else none

section Labels

variable {env : String} (lib : ValueLibrary)

/-- `_extract_target_agent`. -/
def extractTargetAgent (envelope : EventEnvelope env) : Option String :=
  match ["target_agent_id", "agent_id", "target"].findSome? envelope.payload.get? with
  | some value => some (lib.str value)
  | none => topicTarget envelope.eventType

/-- `reconcile_label`. -/
def reconcileLabel (envelope : EventEnvelope env) : String :=
  let et := envelope.eventType
  if endsWith "support.ticket.created.v1" et then "support.ticket.created"
  else if isTaskRequested et || et == topicTaskResult env then
    match extractTargetAgent lib envelope with
    | some target => if target = "" then "audit.agent-task.requested"
        else "audit.agent-task.requested " ++ target
    | none => "audit.agent-task.requested"
  else ((labelMap env).lookup et).getD et

/-- `_make_summary`. -/
def makeSummary (envelope : EventEnvelope env) : String :=
  reconcileLabel lib envelope ++ " by " ++ envelope.agentId

end Labels

/-! ## Entries -/

structure TimelineEntry where
  seq : Nat
  eventType : String
  label : String
  actor : String
  targetAgent : Option String
  correlationId : UUID
  causationId : Option UUID
  taskId : Option UUID
  timestamp : Time
  summary : String

/-- `_find_decided_outcome`. -/
def findDecidedOutcome (entries : List TimelineEntry) : Option String :=
  if entries.any fun e => e.label == decidedLabel && Text.contains "escalat" (Text.lower e.summary)
  then some "escalated" else none

/-- `_make_terminal_entry`. -/
def makeTerminalEntry (entries : List TimelineEntry) : Option TimelineEntry :=
  match entries.getLast? with
  | none => none
  | some last =>
      let decided := entries.any fun e => e.label == decidedLabel
      let drafted := entries.any fun e => e.label == draftedLabel
      -- the loop looks at the entries once, and the event type that it takes is not used
      let escalated := match findDecidedOutcome entries with
        | some outcome => outcome == "escalated" || outcome == "escalate"
        | none => false
      let terminal := fun label summary : String =>
        { seq := last.seq + 1, eventType := "audit.synthetic.terminal.v1", label
          actor := "audit-timeline-builder", targetAgent := none
          correlationId := last.correlationId, causationId := none, taskId := none
          timestamp := last.timestamp, summary : TimelineEntry }
      if escalated then some (terminal "resolution.case.escalated" "Case escalated")
      else if decided && drafted then some (terminal "resolution.case.closed" "Case closed")
      else if decided then
        some (terminal "resolution.case.closed" "Case closed (decision recorded)")
      else none

section Build

variable {env : String} (lib : ValueLibrary)

def timelineEntry (seq : Nat) (envelope : EventEnvelope env) : TimelineEntry where
  seq
  eventType := envelope.eventType
  label := reconcileLabel lib envelope
  actor := envelope.agentId
  targetAgent := if isTaskRequested envelope.eventType then extractTargetAgent lib envelope else none
  correlationId := envelope.correlationId
  causationId := envelope.causationId
  taskId := extractTaskId lib envelope
  timestamp := envelope.timestamp
  summary := makeSummary lib envelope

def timelineEntries (ordered : List (EventEnvelope env)) : List TimelineEntry :=
  (ordered.zipIdx 1).map fun (envelope, seq) => timelineEntry lib seq envelope

/-- `build`. -/
def build (depth : Nat) (envelopes : List (EventEnvelope env)) : Option (List TimelineEntry) :=
  if envelopes.isEmpty then some []
  else do
    let ordered ← causalSort depth envelopes
    let entries := timelineEntries lib ordered
    pure (entries ++ (makeTerminalEntry entries).toList)

end Build

/-! ## The decided event -/

section Decided

variable {env : String} {lib : ValueLibrary}

/-- Two topics of one environment are the same if the rest of them is. -/
theorem append_eq_append_left_iff (env : String) {a b : String} : env ++ a = env ++ b ↔ a = b := by
  rw [← String.toList_inj, String.toList_append, String.toList_append, List.append_cancel_left_eq,
    String.toList_inj]

theorem endsWith_append {env suffix rest : String}
    (hlen : suffix.toList.length ≤ rest.toList.length) :
    endsWith suffix (env ++ rest) = endsWith suffix rest := by
  unfold endsWith
  rw [String.toList_append, Bool.eq_iff_iff, List.isSuffixOf_iff_suffix, List.isSuffixOf_iff_suffix]
  constructor
  · intro h
    exact List.suffix_of_suffix_length_le h (List.suffix_append _ _) hlen
  · intro h
    exact h.trans (List.suffix_append _ _)

theorem topicResolutionDecided_eq (env : String) :
    topicResolutionDecided env = env ++ ".customer.resolution.decided.v1" := by
  unfold topicResolutionDecided resolveTopic
  simp only [String.append_assoc]
  rfl

theorem topicTaskResult_eq (env : String) :
    topicTaskResult env = env ++ ".agent.task.result.v1" := by
  unfold topicTaskResult resolveTopic
  simp only [String.append_assoc]
  rfl

theorem labelMap_eq (env : String) : labelMap env =
    [(env ++ ".resolution.customer-issue.classified.v1", "resolution.customer-issue.classified"),
      (env ++ ".resolution.refund-review.requested.v1", "resolution.refund-review.requested"),
      (env ++ ".billing.refund-analysis.completed.v1", "billing.refund-analysis.completed"),
      (env ++ ".risk.review.completed.v1", "risk.review.completed"),
      (env ++ ".customer.resolution.decided.v1", decidedLabel),
      (env ++ ".resolution.customer-response.drafted.v1", draftedLabel)] := by
  unfold labelMap topicIssueClassified topicRefundReviewRequested topicBillingResult topicRiskResult
    topicResolutionDecided topicResponseDrafted resolveTopic
  simp only [String.append_assoc]
  rfl

/-- A label without a version is no event type. -/
theorem eventType_ne_decidedLabel (envelope : EventEnvelope env) :
    envelope.eventType ≠ decidedLabel := by
  intro h
  have haccepts := (EnvelopeFields.fieldErrors_eq_nil_iff.mp envelope.fieldsOk).2.2.1
  rw [h] at haccepts
  have hnot : IdPattern.eventType.accepts decidedLabel = false := by decide +kernel
  rw [hnot] at haccepts
  cases haccepts

/-- The one entry of the map with that label. -/
theorem eq_topic_of_lookup {eventType : String}
    (h : (labelMap env).lookup eventType = some decidedLabel) :
    eventType = topicResolutionDecided env := by
  obtain ⟨before, after, hsplit, -⟩ := List.lookup_eq_some_iff.mp h
  have hmem : (eventType, decidedLabel) ∈ labelMap env := by
    rw [hsplit]
    exact List.mem_append_right _ List.mem_cons_self
  unfold labelMap at hmem
  simp only [List.mem_cons, Prod.mk.injEq, List.not_mem_nil, or_false] at hmem
  rcases hmem with ⟨-, h⟩ | ⟨-, h⟩ | ⟨-, h⟩ | ⟨-, h⟩ | ⟨h, -⟩ | ⟨-, h⟩
  · exact absurd h (by decide)
  · exact absurd h (by decide)
  · exact absurd h (by decide)
  · exact absurd h (by decide)
  · exact h
  · exact absurd h (by decide)

theorem lookup_topic : (labelMap env).lookup (topicResolutionDecided env) = some decidedLabel := by
  rw [List.lookup_eq_some_iff, labelMap_eq, topicResolutionDecided_eq]
  refine ⟨[_, _, _, _], [_], rfl, ?_⟩
  have hne : ∀ {rest : String}, ".customer.resolution.decided.v1" ≠ rest →
      (env ++ ".customer.resolution.decided.v1" != env ++ rest) = true := by
    intro rest h
    rw [bne_iff_ne, Ne, append_eq_append_left_iff]
    exact h
  simp only [List.mem_cons, List.not_mem_nil, or_false, forall_eq_or_imp, forall_eq]
  exact ⟨hne (by decide), hne (by decide), hne (by decide), hne (by decide)⟩

/-- The labels of requests begin with another letter. -/
theorem requested_ne_decidedLabel (target : String) :
    "audit.agent-task.requested " ++ target ≠ decidedLabel := by
  intro h
  have hhead := congrArg (fun s : String => s.toList.head?) h
  rw [String.toList_append] at hhead
  cases hhead

/-- **Which envelopes have the label of a decision**: those on the topic of decisions. -/
theorem reconcileLabel_eq_decided_iff {envelope : EventEnvelope env} :
    reconcileLabel lib envelope = decidedLabel ↔
      envelope.eventType = topicResolutionDecided env := by
  unfold reconcileLabel
  dsimp only
  constructor
  · intro h
    split at h
    · exact absurd h (by decide)
    · split at h
      · split at h
        · split at h
          · exact absurd h (by decide)
          · exact absurd h (requested_ne_decidedLabel _)
        · exact absurd h (by decide)
      · cases hlookup : (labelMap env).lookup envelope.eventType with
        | none =>
          rw [hlookup] at h
          exact absurd h (eventType_ne_decidedLabel envelope)
        | some label =>
          rw [hlookup] at h
          obtain rfl : label = decidedLabel := h
          exact eq_topic_of_lookup hlookup
  · intro h
    have hticket : endsWith "support.ticket.created.v1" ".customer.resolution.decided.v1" = false := by
      decide +kernel
    have hrequested : endsWith ".task.requested.v1" ".customer.resolution.decided.v1" = false := by
      decide +kernel
    have hresult : (env ++ ".customer.resolution.decided.v1" == env ++ ".agent.task.result.v1") =
        false := by
      rw [beq_eq_false_iff_ne, Ne, append_eq_append_left_iff]
      decide
    have htopic : endsWith "support.ticket.created.v1" (topicResolutionDecided env) = false ∧
        isTaskRequested (topicResolutionDecided env) = false ∧
        (topicResolutionDecided env == topicTaskResult env) = false := by
      unfold isTaskRequested
      rw [topicResolutionDecided_eq, topicTaskResult_eq, endsWith_append (by decide +kernel),
        endsWith_append (by decide +kernel)]
      exact ⟨hticket, hrequested, hresult⟩
    rw [h, htopic.1, htopic.2.1, htopic.2.2, lookup_topic]
    rfl

/-! ## The terminal entry -/

/-- The word is in the summary of a decision if it is in the id of the agent. -/
theorem escalat_in_summary_iff {envelope : EventEnvelope env}
    (h : envelope.eventType = topicResolutionDecided env) :
    Text.contains "escalat" (Text.lower (makeSummary lib envelope)) =
      Text.contains "escalat" (Text.lower envelope.agentId) := by
  have hlabelLower : decidedLabel.toList.flatMap Text.lowerChar = decidedLabel.toList := by
    decide +kernel
  have hbyLower : " by ".toList.flatMap Text.lowerChar = ' ' :: ("by".toList ++ [' ']) := by
    decide +kernel
  have hlower : (Text.lower (makeSummary lib envelope)).toList =
      decidedLabel.toList ++ ' ' :: ("by".toList ++ ' ' ::
        envelope.agentId.toList.flatMap Text.lowerChar) := by
    unfold makeSummary Text.lower
    rw [reconcileLabel_eq_decided_iff.mpr h, String.toList_ofList, String.toList_append,
      String.toList_append, List.flatMap_append, List.flatMap_append, hlabelLower, hbyLower,
      List.append_assoc, List.cons_append, List.append_assoc, List.singleton_append]
  have hspace : ' ' ∉ "escalat".toList := by decide +kernel
  have hlabel : ¬ "escalat".toList <:+: decidedLabel.toList := by
    rw [← Text.isInfix_iff]
    decide +kernel
  have hby : ¬ "escalat".toList <:+: "by".toList := by
    rw [← Text.isInfix_iff]
    decide +kernel
  have hid : (Text.lower envelope.agentId).toList =
      envelope.agentId.toList.flatMap Text.lowerChar := by
    unfold Text.lower
    rw [String.toList_ofList]
  unfold Text.contains
  rw [Bool.eq_iff_iff, Text.isInfix_iff, Text.isInfix_iff, hlower, hid, Text.infix_separated hspace,
    Text.infix_separated hspace]
  constructor
  · intro hshown
    exact (hshown.resolve_left hlabel).resolve_left hby
  · intro hshown
    exact .inr (.inr hshown)

/-- An envelope that the sort keeps. -/
def Shown (envelopes : List (EventEnvelope env)) (envelope : EventEnvelope env) : Prop :=
  envelope ∈ envelopes ∧ (ReachedId envelopes envelope.eventId →
    ∀ parent, presentCause envelopes envelope = some parent → ReachedId envelopes parent)

/-- The outcome of a decision. -/
def Escalates (envelope : EventEnvelope env) : Prop :=
  envelope.payload.get? "outcome" = some (.str "escalate_human")

variable (lib) in
/-- The timeline ends with an entry that tells how the case was decided. -/
def TellsOutcome (envelopes : List (EventEnvelope env)) : Prop :=
  ∃ depth ordered terminal, causalSort depth envelopes = some ordered ∧
    build lib depth envelopes = some (timelineEntries lib ordered ++ [terminal]) ∧
    ∀ d ∈ envelopes, d.eventType = topicResolutionDecided env →
      (terminal.label = "resolution.case.escalated" ↔ Escalates d) ∧
      (¬ Escalates d → terminal.label = "resolution.case.closed")

/-- A decision by an agent whose id has the word in it. -/
def HintsAtEscalation (envelope : EventEnvelope env) : Prop :=
  envelope.eventType = topicResolutionDecided env ∧
    Text.contains "escalat" (Text.lower envelope.agentId) = true

/-- What is looked for in the labels and summaries of the entries. -/
theorem any_timelineEntries (p : String → String → Bool) (ordered : List (EventEnvelope env)) :
    ((timelineEntries lib ordered).any fun e => p e.label e.summary) =
      ordered.any fun e => p (reconcileLabel lib e) (makeSummary lib e) := by
  have hfst : ((ordered.zipIdx 1).map Prod.fst).any
      (fun e => p (reconcileLabel lib e) (makeSummary lib e)) =
      ordered.any fun e => p (reconcileLabel lib e) (makeSummary lib e) := by
    rw [List.zipIdx_map_fst]
  rw [← hfst]
  unfold timelineEntries
  rw [List.any_map, List.any_map]
  rfl

theorem any_decided {ordered : List (EventEnvelope env)} :
    ((timelineEntries lib ordered).any fun e => e.label == decidedLabel) = true ↔
      ∃ e ∈ ordered, e.eventType = topicResolutionDecided env := by
  rw [any_timelineEntries fun label _ => label == decidedLabel, List.any_eq_true]
  simp only [beq_iff_eq, reconcileLabel_eq_decided_iff]

theorem any_escalated {ordered : List (EventEnvelope env)} :
    ((timelineEntries lib ordered).any fun e => e.label == decidedLabel &&
        Text.contains "escalat" (Text.lower e.summary)) = true ↔
      ∃ e ∈ ordered, HintsAtEscalation e := by
  rw [any_timelineEntries fun label summary => label == decidedLabel &&
    Text.contains "escalat" (Text.lower summary), List.any_eq_true]
  unfold HintsAtEscalation
  simp only [Bool.and_eq_true, beq_iff_eq, reconcileLabel_eq_decided_iff]
  constructor
  · rintro ⟨e, he, htopic, hword⟩
    rw [escalat_in_summary_iff htopic] at hword
    exact ⟨e, he, htopic, hword⟩
  · rintro ⟨e, he, htopic, hword⟩
    rw [← @escalat_in_summary_iff env lib e htopic] at hword
    exact ⟨e, he, htopic, hword⟩

/-- **The terminal entry**: it needs a decision, and goes by the word. -/
theorem label_makeTerminalEntry (entries : List TimelineEntry) :
    (makeTerminalEntry entries).map (·.label) =
      if (entries.any fun e => e.label == decidedLabel &&
          Text.contains "escalat" (Text.lower e.summary)) = true then
        some "resolution.case.escalated"
      else if (entries.any fun e => e.label == decidedLabel) = true then
        some "resolution.case.closed"
      else none := by
  unfold makeTerminalEntry findDecidedOutcome
  cases hlast : entries.getLast? with
  | none =>
    rw [List.getLast?_eq_none_iff.mp hlast]
    rfl
  | some last =>
    dsimp only
    generalize (entries.any fun e => e.label == decidedLabel &&
      Text.contains "escalat" (Text.lower e.summary)) = hinted
    generalize (entries.any fun e => e.label == decidedLabel) = decided
    generalize (entries.any fun e => e.label == draftedLabel) = drafted
    cases hinted with
    | true => rfl
    | false =>
      cases decided with
      | false => rfl
      | true =>
        cases drafted with
        | false => rfl
        | true => rfl

theorem build_eq (depth : Nat) (envelopes : List (EventEnvelope env)) :
    build lib depth envelopes = (causalSort depth envelopes).map fun ordered =>
      timelineEntries lib ordered ++ (makeTerminalEntry (timelineEntries lib ordered)).toList := by
  unfold build
  split
  · rename_i hempty
    rw [List.isEmpty_iff.mp hempty]
    have hsort : causalSort depth ([] : List (EventEnvelope env)) = some [] :=
      EventLog.walkOrder_eq_some_iff.mpr ⟨[], EventLog.walk_nil depth, rfl⟩
    rw [hsort]
    rfl
  · cases causalSort depth envelopes with
    | none => rfl
    | some ordered => rfl

theorem mem_causalSort_iff {depth : Nat} {envelopes ordered : List (EventEnvelope env)}
    (h : causalSort depth envelopes = some ordered) {e : EventEnvelope env} :
    e ∈ ordered ↔ Shown envelopes e := EventLog.mem_walkOrder_iff h

/-- The terminal entry of a sort that ends, by the envelopes that it shows. -/
theorem label_terminal {depth : Nat} {envelopes ordered : List (EventEnvelope env)}
    (h : causalSort depth envelopes = some ordered) {terminal : TimelineEntry}
    (hterminal : makeTerminalEntry (timelineEntries lib ordered) = some terminal) :
    (∃ e, Shown envelopes e ∧ e.eventType = topicResolutionDecided env) ∧
      (terminal.label = "resolution.case.escalated" ↔
        ∃ e, Shown envelopes e ∧ HintsAtEscalation e) ∧
      (terminal.label = "resolution.case.escalated" ∨
        terminal.label = "resolution.case.closed") := by
  have hlabel := label_makeTerminalEntry (timelineEntries lib ordered)
  rw [hterminal] at hlabel
  dsimp only [Option.map_some] at hlabel
  have hhint : (∃ e ∈ ordered, HintsAtEscalation e) ↔
      ∃ e, Shown envelopes e ∧ HintsAtEscalation e := by
    simp only [mem_causalSort_iff h]
  have hdecided : (∃ e ∈ ordered, e.eventType = topicResolutionDecided env) ↔
      ∃ e, Shown envelopes e ∧ e.eventType = topicResolutionDecided env := by
    simp only [mem_causalSort_iff h]
  split at hlabel
  · rename_i hany
    obtain ⟨e, he, hword⟩ := hhint.mp (any_escalated.mp hany)
    have hescalated := Option.some.inj hlabel
    exact ⟨⟨e, he, hword.1⟩, iff_of_true hescalated ⟨e, he, hword⟩, .inl hescalated⟩
  · rename_i hnone
    split at hlabel
    · rename_i hany
      have hclosed := Option.some.inj hlabel
      refine ⟨hdecided.mp (any_decided.mp hany), iff_of_false ?_ ?_, .inr hclosed⟩
      · rw [hclosed]
        decide
      · intro hword
        exact hnone (any_escalated.mpr (hhint.mpr hword))
    · cases hlabel

/-- There is one if a decision is shown. -/
theorem exists_terminal {depth : Nat} {envelopes ordered : List (EventEnvelope env)}
    (h : causalSort depth envelopes = some ordered)
    (hdecided : ∃ e, Shown envelopes e ∧ e.eventType = topicResolutionDecided env) :
    ∃ terminal, makeTerminalEntry (timelineEntries lib ordered) = some terminal := by
  have hlabel := label_makeTerminalEntry (timelineEntries lib ordered)
  obtain ⟨e, he, htopic⟩ := hdecided
  have hany := (@any_decided env lib ordered).mpr ⟨e, (mem_causalSort_iff h).mpr he, htopic⟩
  rw [if_pos hany] at hlabel
  cases hterminal : makeTerminalEntry (timelineEntries lib ordered) with
  | some terminal => exact ⟨terminal, rfl⟩
  | none =>
    rw [hterminal] at hlabel
    split at hlabel
    · cases hlabel
    · cases hlabel

end Decided

/-- **When the terminal entry tells the outcome.** The sort ends, a decision is shown, and each
    decision is an escalation exactly if the id of an agent with a decision that is shown hints at
    one. -/
theorem tellsOutcome_iff {env : String} (lib : ValueLibrary)
    (envelopes : List (EventEnvelope env)) :
    TellsOutcome lib envelopes ↔
      (∀ id, ReachedId envelopes id → ¬ Relation.TransGen (sortLog envelopes).Causes id id) ∧
      (∃ e, Shown envelopes e ∧ e.eventType = topicResolutionDecided env) ∧
      ∀ d ∈ envelopes, d.eventType = topicResolutionDecided env →
        (Escalates d ↔ ∃ e, Shown envelopes e ∧ HintsAtEscalation e) := by
  constructor
  · rintro ⟨depth, ordered, terminal, hsort, hbuild, houtcome⟩
    obtain ⟨out, hout, -⟩ := EventLog.walkOrder_eq_some_iff.mp hsort
    rw [build_eq, hsort, Option.map_some, Option.some.injEq, List.append_cancel_left_eq] at hbuild
    have hterminal : makeTerminalEntry (timelineEntries lib ordered) = some terminal :=
      Option.toList_eq_singleton_iff.mp hbuild
    obtain ⟨hdecided, hescalated, -⟩ := label_terminal hsort hterminal
    refine ⟨EventLog.reachedAcyclic_of_walk hout, hdecided, ?_⟩
    intro d hd htopic
    rw [← hescalated]
    exact (houtcome d hd htopic).1.symm
  · rintro ⟨hacyclic, hdecided, houtcome⟩
    have hwalk : (sortLog envelopes).ReachedAcyclic := hacyclic
    obtain ⟨depth, out, hout⟩ := hwalk.exists_walk
    obtain ⟨ordered, hsort⟩ : ∃ ordered, causalSort depth envelopes = some ordered :=
      ⟨_, EventLog.walkOrder_eq_some_iff.mpr ⟨out, hout, rfl⟩⟩
    obtain ⟨terminal, hterminal⟩ := @exists_terminal env lib depth envelopes ordered hsort hdecided
    obtain ⟨-, hescalated, hlabel⟩ := label_terminal hsort hterminal
    refine ⟨depth, ordered, terminal, hsort, ?_, ?_⟩
    · rw [build_eq, hsort, Option.map_some, hterminal]
      rfl
    · intro d hd htopic
      rw [hescalated, ← houtcome d hd htopic]
      refine ⟨Iff.rfl, ?_⟩
      intro hnot
      refine hlabel.resolve_left ?_
      rw [hescalated, ← houtcome d hd htopic]
      exact hnot

theorem accepts_decided :
    IdPattern.eventType.accepts "local.customer.resolution.decided.v1" = true := by
  decide +kernel

/-- A decision to escalate, by an agent whose id does not say so. -/
def sampleDecision : EventEnvelope "local" :=
  { Resolution.sampleEvent 2 (some 1) 5 with
    eventType := "local.customer.resolution.decided.v1"
    payload := .obj [("outcome", .str "escalate_human")]
    fieldsOk :=
      have h := EnvelopeFields.fieldErrors_eq_nil_iff.mp (Resolution.sampleEvent 2 (some 1) 5).fieldsOk
      EnvelopeFields.fieldErrors_eq_nil_iff.mpr ⟨h.1, h.2.1, accepts_decided, h.2.2.2⟩
    causationOk := fun h => Option.some_ne_none 1 h.1 }

/-- **An escalation is shown as a case that was closed.** -/
theorem escalation_is_shown_as_closed :
    ¬ TellsOutcome Resolution.sampleValueLibrary [Resolution.sampleEvent 1 none 0, sampleDecision] := by
  rintro ⟨depth, ordered, terminal, hsort, hbuild, houtcome⟩
  rw [build_eq, hsort, Option.map_some, Option.some.injEq, List.append_cancel_left_eq] at hbuild
  obtain ⟨-, hescalated, -⟩ := label_terminal hsort (Option.toList_eq_singleton_iff.mp hbuild)
  have htopic : sampleDecision.eventType = topicResolutionDecided "local" := by decide
  have hlabel := (houtcome sampleDecision (List.mem_cons_of_mem _ List.mem_cons_self) htopic).1.mpr rfl
  obtain ⟨e, ⟨he, -⟩, -, hword⟩ := hescalated.mp hlabel
  have hnone : ∀ e ∈ [Resolution.sampleEvent 1 none 0, sampleDecision],
      Text.contains "escalat" (Text.lower e.agentId) = false := by
    decide +kernel
  rw [hnone e he] at hword
  cases hword

end RefundOps.Testing
