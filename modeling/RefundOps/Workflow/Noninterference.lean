import RefundOps.Lib.Lists
import RefundOps.Resolution.Properties.Narratives
import RefundOps.Workflow.Calls
import RefundOps.Workflow.Approvals

/-!
# The peers' language models have no say

A peer asks a language model to polish what it found, and sends the text along with its verdict, in
the domain result and in the task result. Two runs of the workflow that differ only in what these
models answer are the same for everyone the agent talks to: it sends the same events in the same order
and keeps the same cases. The task results that the agent is handed are part of the schedule, since the
topic they come on is everyone's; in the other run it is handed the same ones at the same times, with
other texts in their outputs.

How a peer fares in sending its task results and audit records and its processed marks may differ as
well. That is nothing the agent can see before a task result is handed over.
-/

set_option autoImplicit false

namespace RefundOps.Workflow

open Resolution (LoopId WorldAlike ObsAlike MessageAlike ResultEventAlike Likewise unpolishedBilling
  unpolishedRisk billingPeer riskPeer)

/-! ## Runs that differ in the models -/

/-- The same handling for the agent: made at the same time, its domain event with the same fate.
    Everything else may differ, what the model says included. -/
structure HandledAlike {Services : Type} (h h' : Handling Services) : Prop where
  now : h.now = h'.now
  eventId : h.eventId = h'.eventId
  arrives : h.arrives = h'.arrives

inductive ChoiceAlike : Choice → Choice → Prop where
  | same (ch : Choice) : ChoiceAlike ch ch
  | result {e e' : Inbound TaskResult} (h : ResultEventAlike e e') :
      ChoiceAlike (.deliverResult e) (.deliverResult e')
  | billing (n : Nat) {h h' : Handling Billing.Services} (hh : HandledAlike h h') :
      ChoiceAlike (.handleBilling n h) (.handleBilling n h')
  | risk (n : Nat) {h h' : Handling Risk.Services} (hh : HandledAlike h h') :
      ChoiceAlike (.handleRisk n h) (.handleRisk n h')

structure StateAlike (s s' : State) : Prop where
  agent : Twins WorldAlike ObsAlike s.agent s'.agent
  billing : s.billing.tracker = s'.billing.tracker
  risk : s.risk.tracker = s'.risk.tracker
  tickets : s.tickets = s'.tickets
  billingTasks : s.billingTasks = s'.billingTasks
  riskTasks : s.riskTasks = s'.riskTasks
  billingResults : List.Forall₂ (Likewise unpolishedBilling) s.billingResults s'.billingResults
  riskResults : List.Forall₂ (Likewise unpolishedRisk) s.riskResults s'.riskResults

/-- What the agent shows is alike. -/
def EventsAlike (tr tr' : List Event) : Prop :=
  List.Forall₂ (ShownAlike ObsAlike) (agentTrace tr) (agentTrace tr')

/-- The events the agent got to the broker, in order. -/
def published (tr : List Event) : List (LoopId × Resolution.OutEvent) :=
  (agentTrace tr).filterMap fun
    | (i, .published ev) => some (i, ev)
    | _ => none

theorem EventsAlike.published_eq {tr tr' : List Event} (h : EventsAlike tr tr') :
    published tr = published tr' := by
  unfold published
  unfold EventsAlike at h
  generalize agentTrace tr = os at h
  generalize agentTrace tr' = os' at h
  induction h with
  | nil => rfl
  | @cons o o' os os' ho _ ih =>
    obtain ⟨i, o⟩ := o
    obtain ⟨j, o'⟩ := o'
    obtain ⟨rfl, ho⟩ := ho
    rw [List.filterMap_cons, List.filterMap_cons, ih]
    cases ho with
    | same => rfl
    | received => rfl

theorem StateAlike.start (now : Time) (nextId : UUID) :
    StateAlike (start now nextId) (start now nextId) where
  agent := ⟨⟨⟨rfl, rfl, rfl⟩, rfl, rfl⟩, fun _ => .idle⟩
  billing := rfl
  risk := rfl
  tickets := rfl
  billingTasks := rfl
  riskTasks := rfl
  billingResults := .nil
  riskResults := .nil

/-! ## The peers -/

section Peers

variable {D : Deployment}

/-- One call brings verdicts that differ in the texts. -/
theorem billingEvent_alike {h h' : Handling Billing.Services} (hh : HandledAlike h h')
    (req : TaskRequest) :
    Option.Rel (Likewise unpolishedBilling) (billingEvent D h (.handlerCalled req))
      (billingEvent D h' (.handlerCalled req)) := by
  simp only [billingEvent]
  rw [hh.now]
  split
  · exact .none
  · exact .some ⟨hh.eventId, rfl, rfl⟩

theorem riskEvent_alike {h h' : Handling Risk.Services} (hh : HandledAlike h h')
    (req : TaskRequest) :
    Option.Rel (Likewise unpolishedRisk) (riskEvent D h (.handlerCalled req))
      (riskEvent D h' (.handlerCalled req)) := by
  simp only [riskEvent]
  split
  · exact .none
  · exact .some ⟨hh.eventId, rfl, rfl⟩

end Peers

/-! ## One step -/

section Step

variable {D : Deployment} {now : Time} {nextId : UUID} {tr os : List Event} {s s' t : State}
  {ch ch' : Choice}

theorem StateAlike.handleBilling (hrun : Run D now nextId tr s) (h : StateAlike s s')
    {e : Runtime.Envelope} (he : e ∈ s.billingTasks) {hd hd' : Handling Billing.Services}
    (hh : HandledAlike hd hd') :
    (handleBilling D e hd s.billing).2.tracker = (handleBilling D e hd' s'.billing).2.tracker ∧
      List.Forall₂ (Likewise unpolishedBilling)
        ((handleBilling D e hd s.billing).1.filterMap (billingEvent D hd))
        ((handleBilling D e hd' s'.billing).1.filterMap (billingEvent D hd')) := by
  obtain ⟨_, hreq⟩ := requestOf_billingAsked (hrun.faithful.billingTasks e he)
  obtain ⟨hcalls, htracker⟩ := calls_handleBilling (h := hd) (w := s.billing) hreq
  obtain ⟨hcalls', htracker'⟩ := calls_handleBilling (h := hd') (w := s'.billing) hreq
  rw [← h.billing] at hcalls' htracker'
  rw [filterMap_billingEvent, filterMap_billingEvent, hcalls, hcalls', htracker, htracker']
  exact ⟨rfl, forall₂_filterMap (billingEvent_alike hh) _⟩

theorem StateAlike.handleRisk (hrun : Run D now nextId tr s) (h : StateAlike s s')
    {e : Runtime.Envelope} (he : e ∈ s.riskTasks) {hd hd' : Handling Risk.Services}
    (hh : HandledAlike hd hd') :
    (handleRisk D e hd s.risk).2.tracker = (handleRisk D e hd' s'.risk).2.tracker ∧
      List.Forall₂ (Likewise unpolishedRisk)
        ((handleRisk D e hd s.risk).1.filterMap (riskEvent D hd))
        ((handleRisk D e hd' s'.risk).1.filterMap (riskEvent D hd')) := by
  obtain ⟨_, hreq⟩ := requestOf_riskAsked (hrun.faithful.riskTasks e he)
  obtain ⟨hcalls, htracker⟩ := calls_handleRisk (h := hd) (w := s.risk) hreq
  obtain ⟨hcalls', htracker'⟩ := calls_handleRisk (h := hd') (w := s'.risk) hreq
  rw [← h.risk] at hcalls' htracker'
  rw [filterMap_riskEvent, filterMap_riskEvent, hcalls, hcalls', htracker, htracker']
  exact ⟨rfl, forall₂_filterMap (riskEvent_alike hh) _⟩

theorem StateAlike.accept (h : StateAlike s s') (ev : Resolution.OutEvent) :
    StateAlike (s.accept ev) (s'.accept ev) := by
  unfold State.accept
  split
  · exact h
  split
  · exact { h with billingTasks := congrArg (· ++ _) h.billingTasks }
  split
  · exact { h with riskTasks := congrArg (· ++ _) h.riskTasks }
  · exact h

/-- What the agent is asked to do is alike. -/
theorem StateAlike.forAgent (h : StateAlike s s') (hch : ChoiceAlike ch ch')
    {c : RefundOps.Choice LoopId Resolution.Message Resolution.Request Resolution.Reply Nat}
    (hc : ch.forAgent s = some c) :
    ∃ c', ch'.forAgent s' = some c' ∧
      ChoiceTwin WorldAlike ObsAlike (Resolution.service D.settings) c c' := by
  have hdeliver : ∀ {m m'}, MessageAlike m m' →
      ChoiceTwin WorldAlike ObsAlike (Resolution.service D.settings) (.deliver m) (.deliver m') :=
    fun hm => .deliver (Resolution.handler_twin _ hm)
  cases hch with
  | result he =>
    cases hc
    exact ⟨_, rfl, hdeliver (.result he)⟩
  | billing | risk => cases hc
  | same =>
    cases ch with
    | deliverTicket n =>
      obtain ⟨e, he, rfl⟩ := Option.map_eq_some_iff.mp hc
      refine ⟨.deliver (.ticket e), ?_, hdeliver (.same _)⟩
      simp only [Choice.forAgent, ← h.tickets, he, Option.map_some]
    | deliverBilling n =>
      obtain ⟨e, he, rfl⟩ := Option.map_eq_some_iff.mp hc
      obtain ⟨e', he', hlike⟩ := exists_getElem?_of_forall₂ h.billingResults he
      refine ⟨.deliver (.billingResult e'), ?_, hdeliver (.billing hlike)⟩
      simp only [Choice.forAgent, he', Option.map_some]
    | deliverRisk n =>
      obtain ⟨e, he, rfl⟩ := Option.map_eq_some_iff.mp hc
      obtain ⟨e', he', hlike⟩ := exists_getElem?_of_forall₂ h.riskResults he
      refine ⟨.deliver (.riskResult e'), ?_, hdeliver (.risk hlike)⟩
      simp only [Choice.forAgent, he', Option.map_some]
    | deliverResult e =>
      cases hc
      exact ⟨_, rfl, hdeliver (.same _)⟩
    | sweep =>
      cases hc
      exact ⟨_, rfl, hdeliver (.same _)⟩
    | answer i y =>
      cases hc
      exact ⟨_, rfl, .answer i y⟩
    | pass micros =>
      cases hc
      exact ⟨_, rfl, .env micros⟩
    | «open» | arrive | handleBilling | handleRisk | restartBilling | restartRisk => cases hc

theorem eventsAlike_nil : EventsAlike [] [] := .nil

/-- A step of the agent. -/
theorem StateAlike.stepAgent (h : StateAlike s s') (hch : ChoiceAlike ch ch')
    (hs : ((ch.forAgent s).bind fun c =>
      ((Resolution.service D.settings).step c s.agent).map fun out =>
        (out.1.map fun o => Event.agent o.1 o.2, { s with agent := out.2 })) = some (os, t)) :
    ∃ os' t', ((ch'.forAgent s').bind fun c =>
        ((Resolution.service D.settings).step c s'.agent).map fun out =>
          (out.1.map fun o => Event.agent o.1 o.2, { s' with agent := out.2 })) = some (os', t') ∧
      EventsAlike os os' ∧ StateAlike t t' := by
  obtain ⟨c, hc, hs⟩ := Option.bind_eq_some_iff.mp hs
  obtain ⟨⟨os₁, a⟩, hstep, heq⟩ := Option.map_eq_some_iff.mp hs
  cases heq
  obtain ⟨c', hc', htwin⟩ := h.forAgent (D := D) hch hc
  obtain ⟨os₁', a', hstep', hshown, hagent⟩ :=
    h.agent.step (Resolution.worldAlike_env D.settings) htwin hstep
  refine ⟨os₁'.map fun o => .agent o.1 o.2, { s' with agent := a' }, ?_, ?_,
    { h with agent := hagent }⟩
  · rw [hc', Option.bind_some, hstep']
    rfl
  · unfold EventsAlike
    rw [agentTrace_map, agentTrace_map]
    exact hshown

/-- A peer handles an entry. -/
theorem stepBilling_alike (hrun : Run D now nextId tr s) (h : StateAlike s s') {n : Nat}
    {hd hd' : Handling Billing.Services} (hh : HandledAlike hd hd')
    (hs : step D (.handleBilling n hd) s = some (os, t)) :
    ∃ os' t', step D (.handleBilling n hd') s' = some (os', t') ∧ EventsAlike os os' ∧
      StateAlike t t' := by
  obtain ⟨e, he, heq⟩ := Option.map_eq_some_iff.mp hs
  cases heq
  obtain ⟨htracker, hevents⟩ := h.handleBilling hrun (List.mem_of_getElem? he) hh
  have he' : s'.billingTasks[n]? = some e := h.billingTasks ▸ he
  simp only [step]
  rw [he', Option.map_some]
  refine ⟨_, _, rfl, ?_, { h with billing := htracker, billingResults := ?_ }⟩
  · unfold EventsAlike
    rw [agentTrace_billing, agentTrace_billing]
    exact .nil
  · rw [hh.arrives]
    refine List.rel_append h.billingResults ?_
    split
    · exact hevents
    · exact .nil

theorem stepRisk_alike (hrun : Run D now nextId tr s) (h : StateAlike s s') {n : Nat}
    {hd hd' : Handling Risk.Services} (hh : HandledAlike hd hd')
    (hs : step D (.handleRisk n hd) s = some (os, t)) :
    ∃ os' t', step D (.handleRisk n hd') s' = some (os', t') ∧ EventsAlike os os' ∧
      StateAlike t t' := by
  obtain ⟨e, he, heq⟩ := Option.map_eq_some_iff.mp hs
  cases heq
  obtain ⟨htracker, hevents⟩ := h.handleRisk hrun (List.mem_of_getElem? he) hh
  have he' : s'.riskTasks[n]? = some e := h.riskTasks ▸ he
  simp only [step]
  rw [he', Option.map_some]
  refine ⟨_, _, rfl, ?_, { h with risk := htracker, riskResults := ?_ }⟩
  · unfold EventsAlike
    rw [agentTrace_risk, agentTrace_risk]
    exact .nil
  · rw [hh.arrives]
    refine List.rel_append h.riskResults ?_
    split
    · exact hevents
    · exact .nil

/-- **One step.** -/
theorem step_alike (hrun : Run D now nextId tr s) (h : StateAlike s s') (hch : ChoiceAlike ch ch')
    (hs : step D ch s = some (os, t)) :
    ∃ os' t', step D ch' s' = some (os', t') ∧ EventsAlike os os' ∧ StateAlike t t' := by
  cases hch with
  | billing n hh => exact stepBilling_alike hrun h hh hs
  | risk n hh => exact stepRisk_alike hrun h hh hs
  | result he => exact h.stepAgent (.result he) hs
  | same =>
    cases ch with
    | «open» e =>
      simp only [step] at hs ⊢
      split at hs
      · rename_i hlt
        cases hs
        refine ⟨[], _, if_pos hlt, eventsAlike_nil, { h with tickets := ?_ }⟩
        exact congrArg (· ++ [e]) h.tickets
      · cases hs
    | arrive i =>
      simp only [step] at hs ⊢
      have hwaiting : s.agent.waiting i = s'.agent.waiting i := (h.agent.loops i).waiting
      rw [← hwaiting]
      split at hs
      · rename_i ev _
        cases hs
        exact ⟨[], _, rfl, eventsAlike_nil, h.accept ev⟩
      · cases hs
    | handleBilling n hd => exact stepBilling_alike hrun h ⟨rfl, rfl, rfl⟩ hs
    | handleRisk n hd => exact stepRisk_alike hrun h ⟨rfl, rfl, rfl⟩ hs
    | restartBilling w =>
      cases hs
      exact ⟨[], _, rfl, eventsAlike_nil, { h with billing := rfl }⟩
    | restartRisk w =>
      cases hs
      exact ⟨[], _, rfl, eventsAlike_nil, { h with risk := rfl }⟩
    | deliverTicket n => exact h.stepAgent (.same (.deliverTicket n)) hs
    | deliverBilling n => exact h.stepAgent (.same (.deliverBilling n)) hs
    | deliverRisk n => exact h.stepAgent (.same (.deliverRisk n)) hs
    | deliverResult e => exact h.stepAgent (.same (.deliverResult e)) hs
    | sweep => exact h.stepAgent (.same .sweep) hs
    | answer i y => exact h.stepAgent (.same (.answer i y)) hs
    | pass micros => exact h.stepAgent (.same (.pass micros)) hs

/-- **Every schedule.** -/
theorem exec_alike (hrun : Run D now nextId tr s) (h : StateAlike s s') {chs chs' : List Choice}
    (hchs : List.Forall₂ ChoiceAlike chs chs') {os : List Event}
    (hexec : exec D chs s = some (os, t)) :
    ∃ os' t', exec D chs' s' = some (os', t') ∧ EventsAlike os os' ∧ StateAlike t t' := by
  induction hchs generalizing tr s s' os with
  | nil =>
    cases hexec
    exact ⟨[], s', rfl, eventsAlike_nil, h⟩
  | cons hch _ ih =>
    obtain ⟨⟨os₁, s₁⟩, hs, hrest⟩ := Option.bind_eq_some_iff.mp hexec
    obtain ⟨⟨os₂, s₂⟩, hrun₂, heq⟩ := Option.map_eq_some_iff.mp hrest
    cases heq
    obtain ⟨os₁', s₁', hs', hevents, halike⟩ := step_alike hrun h hch hs
    obtain ⟨os₂', t', hrun₂', hevents', halike'⟩ := ih (hrun.step _ hs) halike hrun₂
    refine ⟨os₁' ++ os₂', t', ?_, ?_, halike'⟩
    · unfold exec
      rw [hs', Option.bind_some, hrun₂']
      rfl
    · unfold EventsAlike
      rw [agentTrace_append, agentTrace_append]
      exact List.rel_append hevents hevents'

/-- **The peers' language models have no say.** Take any schedule of the three agents, and change what
    the peers' models answer, in the domain results and in the outputs of the task results that the
    agent is handed, and how the peers fare in sending task results and audit records and marking tasks
    as processed: the agent gets the same events to the broker in the same order, and has the same cases
    on record. -/
theorem peer_models_have_no_say {chs chs' : List Choice} (hchs : List.Forall₂ ChoiceAlike chs chs')
    (hexec : exec D chs (start now nextId) = some (tr, s)) :
    ∃ tr' s', exec D chs' (start now nextId) = some (tr', s') ∧
      published tr' = published tr ∧ s'.store.cases = s.store.cases := by
  obtain ⟨tr', s', hexec', hevents, halike⟩ := exec_alike .nil (.start now nextId) hchs hexec
  exact ⟨tr', s', hexec', hevents.published_eq.symm, halike.agent.world.store.cases.symm⟩

end Step

/-! ### The outputs of the peers -/

/-- A narrative adds the fields that a model wrote, and no others. -/
theorem billingFields_written (n : Option Billing.BillingNarrative) :
    ∀ field ∈ Billing.narrativeFields n, field.1 ∈ Resolution.narrativeKeys := by
  cases n <;> simp [Billing.narrativeFields, Resolution.narrativeKeys]

theorem riskFields_written (n : Option Risk.RiskNarrative) :
    ∀ field ∈ Risk.narrativeFields n, field.1 ∈ Resolution.narrativeKeys := by
  cases n <;> simp [Risk.narrativeFields, Resolution.narrativeKeys]

/-- The output of a review, with any narrative or none. -/
theorem billingOutput_alike (r : Billing.EligibilityRecommendation)
    (n n' : Option Billing.BillingNarrative) :
    Resolution.DataAlike (Billing.outputData r n) (Billing.outputData r n') :=
  Resolution.dataAlike_append (billingFields_written n) (billingFields_written n')

theorem riskOutput_alike (r : Risk.RiskAssessment) (n n' : Option Risk.RiskNarrative) :
    Resolution.DataAlike (Risk.outputData r n) (Risk.outputData r n') :=
  Resolution.dataAlike_append (riskFields_written n) (riskFields_written n')

/-! ### A refund that is polished, with task results that are lost -/

def polishedBilling : Handling Billing.Services :=
  { smoothBilling with
    services := { smoothBilling.services with
      narrative := fun _ _ _ => some
        { polishedSummary := "Deny this refund.", evidenceExplanation := "" } }
    sendResult := fun _ => .error "KafkaConnectionError" }

def polishedRisk : Handling Risk.Services :=
  { smoothRisk with
    services := { smoothRisk.services with
      narrative := fun _ _ _ => some
        { polishedSummary := "High risk.", evidenceExplanation := "" } }
    sendResult := fun _ => .error "KafkaConnectionError" }

/-- The task result of the billing review. -/
def billingOutcome (n : Option Billing.BillingNarrative) : Inbound TaskResult where
  eventId := 500
  correlationId := 1
  payload := some
    { taskId := sampleDeployment.settings.uuid5 1 Billing.analyzeCapability
      status := .completed
      performerAgentId := Billing.billingAgentId
      output := some (Billing.buildA2aOutput (Billing.missingDataRecommendation "T-1") n)
      validateStatusFields := ⟨rfl, rfl⟩ }

theorem billingOutcome_alike (n n' : Option Billing.BillingNarrative) :
    ResultEventAlike (billingOutcome n) (billingOutcome n') :=
  ⟨rfl, rfl, .some ⟨rfl, rfl, rfl, rfl, billingOutput_alike _ n n'⟩⟩

/-- The task result of the billing review comes as well. -/
def reviewedSchedule : List Choice := refundSchedule ++ [.deliverResult (billingOutcome none)]

def Choice.polish : Choice → Choice
  | .handleBilling n _ => .handleBilling n polishedBilling
  | .handleRisk n _ => .handleRisk n polishedRisk
  | .deliverResult _ => .deliverResult (billingOutcome (some
      { polishedSummary := "Deny this refund.", evidenceExplanation := "" }))
  | ch => ch

theorem reviewedSchedule_polish :
    List.Forall₂ ChoiceAlike reviewedSchedule (reviewedSchedule.map .polish) := by
  refine List.forall₂_map_right_iff.mpr (List.forall₂_same.mpr fun ch hch => ?_)
  cases ch with
  | handleBilling n h =>
    obtain ⟨rfl, rfl⟩ : n = 0 ∧ h = smoothBilling := by
      simpa [reviewedSchedule, refundSchedule] using hch
    exact .billing 0 ⟨rfl, rfl, rfl⟩
  | handleRisk n h =>
    obtain ⟨rfl, rfl⟩ : n = 0 ∧ h = smoothRisk := by
      simpa [reviewedSchedule, refundSchedule] using hch
    exact .risk 0 ⟨rfl, rfl, rfl⟩
  | deliverResult e =>
    obtain rfl : e = billingOutcome none := by simpa [reviewedSchedule, refundSchedule] using hch
    exact .result (billingOutcome_alike _ _)
  | «open» | deliverTicket | deliverBilling | deliverRisk | sweep | answer | pass | arrive |
    restartBilling | restartRisk => exact .same _

theorem peer_models_have_no_say_sample :
    ∃ tr s tr' s', exec sampleDeployment reviewedSchedule (start 0 1000) = some (tr, s) ∧
      tr.any approves = true ∧
      exec sampleDeployment (reviewedSchedule.map .polish) (start 0 1000) = some (tr', s') ∧
      published tr' = published tr := by
  have hexec : ((exec sampleDeployment reviewedSchedule (start 0 1000)).map fun out =>
      out.1.any approves) = some true := by decide +kernel
  obtain ⟨⟨tr, s⟩, hout, happroves⟩ := Option.map_eq_some_iff.mp hexec
  obtain ⟨tr', s', hout', hsame, -⟩ := peer_models_have_no_say reviewedSchedule_polish hout
  exact ⟨tr, s, tr', s', hout, happroves, hout', hsame⟩

end RefundOps.Workflow
