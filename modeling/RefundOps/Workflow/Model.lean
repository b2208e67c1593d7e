import RefundOps.Billing.Requests
import RefundOps.Foundation.TaskWire
import RefundOps.Resolution.Service
import RefundOps.Risk.Tasks

/-!
# The whole workflow

The resolution agent, the billing agent and the risk agent, with the topics between them. Each
topic is a log: what is once on it stays there, and a reader may be handed any entry at any time
and any number of times. The agent is the event loop of `Service.lean`; a peer is the runtime of
`Runtime.lean`, which handles one message after the other. A task request crosses as JSON, dumped
by the one and validated by the other.

What is nobody's doing is a choice: which entry is handed over, what the broker answers, whether
something that failed is on the topic all the same, what a language model adds, how time passes,
and that a peer starts again with whatever it has read back of its processed tasks. The topic of
task results is shared with every other agent, so any result may come on it.
-/

set_option autoImplicit false

namespace RefundOps.Workflow

open Resolution (LoopId Message)

/-- What an installation brings: the settings of the agent, the parsers, the datasets. -/
structure Deployment where
  settings : Resolution.Settings
  parsers : Parsers
  /-- `str(exc)` of what a model's `model_validate` raises. -/
  validationError : Json → String
  loadFacts : String → String → Option Billing.BillingFacts
  loadSignals : String → Option Risk.RiskSignals
  /-- `uuid5` returns UUIDs. -/
  uuid5_lt : ∀ k name, settings.uuid5 k name < 2 ^ 128

structure State where
  agent : Resolution.State
  billing : Runtime.World
  risk : Runtime.World
  tickets : List (Inbound SupportTicketCreatedPayload) := []
  /-- The endpoint topics of the peers. -/
  billingTasks : List Runtime.Envelope := []
  riskTasks : List Runtime.Envelope := []
  /-- The topics of the domain results. -/
  billingResults : List (Inbound BillingRefundAnalysisCompletedPayload) := []
  riskResults : List (Inbound RiskReviewCompletedPayload) := []

/-- What can be observed, and of the peers when. -/
inductive Event where
  | agent (i : LoopId) (o : Resolution.Obs)
  | billing (now : Time) (o : Runtime.Obs)
  | risk (now : Time) (o : Runtime.Obs)

/-- How the outside behaves while a peer handles a message; `eventId` is the id of its domain event,
    `arrives` whether that gets to the topic. -/
structure Handling (Services : Type) where
  now : Time
  services : Services
  eventId : UUID
  arrives : Bool
  sendResult : Runtime.ResultEvent → Except String Unit
  sendAudit : UUID → AuditPayload → Except String Unit
  persist : UUID → Except String Unit

def Handling.answer {Services : Type} (h : Handling Services)
    (handler : TaskRequest → Except String A2AMessage) : ∀ x, Runtime.Reply x
  | .sendResult ev => h.sendResult ev
  | .sendAudit eventId audit => h.sendAudit eventId audit
  | .callHandler req => handler req
  | .persist taskId => h.persist taskId

inductive Choice where
  /-- A customer opens a ticket. -/
  | open (e : Inbound SupportTicketCreatedPayload)
  /-- The agent is handed an entry of a topic, or a tick. -/
  | deliverTicket (n : Nat)
  | deliverBilling (n : Nat)
  | deliverRisk (n : Nat)
  | deliverResult (e : Inbound TaskResult)
  | sweep
  | answer (i : LoopId) (y : ∀ x, Resolution.Reply x)
  | pass (micros : Nat)
  /-- What a loop of the agent is waiting to have sent gets to the topic. -/
  | arrive (i : LoopId)
  /-- A peer handles an entry of its endpoint topic. -/
  | handleBilling (n : Nat) (h : Handling Billing.Services)
  | handleRisk (n : Nat) (h : Handling Risk.Services)
  | restartBilling (w : Runtime.World)
  | restartRisk (w : Runtime.World)

section Steps

variable (D : Deployment)

def Deployment.billing : Billing.Backend :=
  Billing.runningBackend D.parsers D.validationError D.loadFacts

def Deployment.risk : Risk.Backend :=
  Risk.runningBackend D.parsers D.validationError D.loadSignals

/-- Envelopes come decoded; their payload is validated. -/
def Deployment.codec : Runtime.Codec Runtime.Envelope where
  envelope := .ok
  taskRequest payload :=
    match TaskRequest.modelValidate payload with
    | some req => .ok req
    | none => .error (D.validationError payload)
  uuid := Json.asUuid

/-- What the agent is asked to do by a choice. -/
def Choice.forAgent (s : State) :
    Choice → Option (RefundOps.Choice LoopId Message Resolution.Request Resolution.Reply Nat)
  | .deliverTicket n => s.tickets[n]?.map fun e => .deliver (.ticket e)
  | .deliverBilling n => s.billingResults[n]?.map fun e => .deliver (.billingResult e)
  | .deliverRisk n => s.riskResults[n]?.map fun e => .deliver (.riskResult e)
  | .deliverResult e => some (.deliver (.taskResult e))
  | .sweep => some (.deliver .sweep)
  | .answer i y => some (.answer i y)
  | .pass micros => some (.env micros)
  | _ => none

/-- The envelope of an event of the agent, if it is a task request. -/
def taskEnvelope (ev : Resolution.OutEvent) : Option (String × Runtime.Envelope) :=
  match ev.payload with
  | .taskRequest req =>
    some (req.targetAgentId,
      { eventId := ev.eventId, correlationId := ev.correlationId, payload := req.modelDump })
  | _ => none

/-- A task request goes to the endpoint topic of its target; the other topics have readers that are
    not part of the workflow. -/
def State.accept (s : State) (ev : Resolution.OutEvent) : State :=
  match taskEnvelope ev with
  | none => s
  | some (target, e) =>
    if target = Billing.billingAgentId then { s with billingTasks := s.billingTasks ++ [e] }
    else if target = Risk.riskAgentId then { s with riskTasks := s.riskTasks ++ [e] }
    else s

/-- The domain event of a call of the billing handler. -/
def billingEvent (h : Handling Billing.Services) :
    Runtime.Obs → Option (Inbound BillingRefundAnalysisCompletedPayload)
  | .handlerCalled req =>
    match Billing.analyze D.billing h.now req.input.parts with
    | .error _ => none
    | .ok a => some
        { eventId := h.eventId
          correlationId := a.request.caseId
          payload := some (Billing.buildResultPayload a.request a.recommendation a.facts
            (h.services.narrative a.recommendation a.request req.taskId)) }
  | _ => none

/-- The domain event of a call of the risk handler. -/
def riskEvent (h : Handling Risk.Services) : Runtime.Obs → Option (Inbound RiskReviewCompletedPayload)
  | .handlerCalled req =>
    match Risk.assess D.risk req.input.parts with
    | .error _ => none
    | .ok (assessment, request) => some
        { eventId := h.eventId
          correlationId := request.caseId
          payload := some (Risk.toResultPayload assessment request
            (h.services.narrative assessment request req.taskId)) }
  | _ => none

/-- One message of the endpoint topic of the billing agent. -/
def handleBilling (e : Runtime.Envelope) (h : Handling Billing.Services) (w : Runtime.World) :
    List Runtime.Obs × Runtime.World :=
  Runtime.deliver Billing.billingRuntime D.codec
    { raw := e, now := h.now
      answer := h.answer (Billing.handleEligibility D.billing h.services h.now) } w

def handleRisk (e : Runtime.Envelope) (h : Handling Risk.Services) (w : Runtime.World) :
    List Runtime.Obs × Runtime.World :=
  Runtime.deliver Risk.riskRuntime D.codec
    { raw := e, now := h.now, answer := h.answer (Risk.handleRisk D.risk h.services) } w

/-- One choice, executed; `none` when it is not possible. -/
def step (ch : Choice) (s : State) : Option (List Event × State) :=
  match ch with
  | .open e =>
    -- the correlation id of a ticket is a UUID
    if e.correlationId < 2 ^ 128 then some ([], { s with tickets := s.tickets ++ [e] }) else none
  | .arrive i =>
    match s.agent.waiting i with
    | some (.send ev) => some ([], s.accept ev)
    | _ => none
  | .handleBilling n h => s.billingTasks[n]?.map fun e =>
      let out := handleBilling D e h s.billing
      (out.1.map (.billing h.now),
        { s with
          billing := out.2
          billingResults := s.billingResults ++
            (if h.arrives then out.1.filterMap (billingEvent D h) else []) })
  | .handleRisk n h => s.riskTasks[n]?.map fun e =>
      let out := handleRisk D e h s.risk
      (out.1.map (.risk h.now),
        { s with
          risk := out.2
          riskResults := s.riskResults ++
            (if h.arrives then out.1.filterMap (riskEvent D h) else []) })
  | .restartBilling w => some ([], { s with billing := w })
  | .restartRisk w => some ([], { s with risk := w })
  | _ =>
    (ch.forAgent s).bind fun c =>
      ((Resolution.service D.settings).step c s.agent).map fun out =>
        (out.1.map fun o => .agent o.1 o.2, { s with agent := out.2 })

/-- Nothing has happened yet. -/
def start (now : Time) (nextId : UUID) : State where
  agent := Resolution.start now nextId
  billing := Runtime.start 0
  risk := Runtime.start 0

inductive Run (now : Time) (nextId : UUID) : List Event → State → Prop where
  | nil : Run now nextId [] (start now nextId)
  | step {tr os : List Event} {s s' : State} (h : Run now nextId tr s) (ch : Choice)
      (hs : step D ch s = some (os, s')) : Run now nextId (tr ++ os) s'

/-- A schedule, executed. -/
def exec : List Choice → State → Option (List Event × State)
  | [], s => some ([], s)
  | ch :: chs, s => (step D ch s).bind fun out =>
      (exec chs out.2).map fun rest => (out.1 ++ rest.1, rest.2)

end Steps

/-! ## Runs of the workflow and runs of the agent -/

/-- What the agent shows of a run. -/
def agentTrace (tr : List Event) : Resolution.Trace :=
  tr.filterMap fun
    | .agent i o => some (i, o)
    | _ => none

theorem agentTrace_append (tr tr' : List Event) :
    agentTrace (tr ++ tr') = agentTrace tr ++ agentTrace tr' := List.filterMap_append

theorem mem_agentTrace {tr : List Event} {i : LoopId} {o : Resolution.Obs} :
    (i, o) ∈ agentTrace tr ↔ .agent i o ∈ tr := by
  unfold agentTrace
  rw [List.mem_filterMap]
  constructor
  · intro h
    obtain ⟨e, he, heq⟩ := h
    cases e with
    | agent j o' =>
      cases heq
      exact he
    | billing | risk => cases heq
  · intro h
    exact ⟨_, h, rfl⟩

theorem agentTrace_map (os : Resolution.Trace) :
    agentTrace (os.map fun o => .agent o.1 o.2) = os := by
  induction os with
  | nil => rfl
  | cons o os ih =>
    rw [List.map_cons]
    exact congrArg (o :: ·) ih

theorem agentTrace_billing (now : Time) (os : List Runtime.Obs) :
    agentTrace (os.map (.billing now)) = [] := by
  induction os with
  | nil => rfl
  | cons o os ih => exact ih

theorem agentTrace_risk (now : Time) (os : List Runtime.Obs) :
    agentTrace (os.map (.risk now)) = [] := by
  induction os with
  | nil => rfl
  | cons o os ih => exact ih

/-- **What a step does.** It is a step of the agent on a message of a topic, and the topics stay as
    they are; or the agent stays as it is. -/
inductive Stepped (D : Deployment) (s : State) : Choice → List Event → State → Prop where
  | agent {ch : Choice} {c : RefundOps.Choice LoopId Message Resolution.Request Resolution.Reply Nat}
      {os : Resolution.Trace} {a : Resolution.State}
      (hticket : ∀ e, c = .deliver (.ticket e) → e ∈ s.tickets)
      (hbilling : ∀ e, c = .deliver (.billingResult e) → e ∈ s.billingResults)
      (hrisk : ∀ e, c = .deliver (.riskResult e) → e ∈ s.riskResults)
      (hs : (Resolution.service D.settings).step c s.agent = some (os, a)) :
      Stepped D s ch (os.map fun o => .agent o.1 o.2) { s with agent := a }
  | opened {e : Inbound SupportTicketCreatedPayload} (h : e.correlationId < 2 ^ 128) :
      Stepped D s (.open e) [] { s with tickets := s.tickets ++ [e] }
  | arrived {i : LoopId} {ev : Resolution.OutEvent} (h : s.agent.waiting i = some (.send ev)) :
      Stepped D s (.arrive i) [] (s.accept ev)
  | billing {n : Nat} {e : Runtime.Envelope} {h : Handling Billing.Services}
      (he : e ∈ s.billingTasks) :
      Stepped D s (.handleBilling n h) ((handleBilling D e h s.billing).1.map (.billing h.now))
        { s with
          billing := (handleBilling D e h s.billing).2
          billingResults := s.billingResults ++
            (if h.arrives then (handleBilling D e h s.billing).1.filterMap (billingEvent D h)
              else []) }
  | risk {n : Nat} {e : Runtime.Envelope} {h : Handling Risk.Services} (he : e ∈ s.riskTasks) :
      Stepped D s (.handleRisk n h) ((handleRisk D e h s.risk).1.map (.risk h.now))
        { s with
          risk := (handleRisk D e h s.risk).2
          riskResults := s.riskResults ++
            (if h.arrives then (handleRisk D e h s.risk).1.filterMap (riskEvent D h) else []) }
  | restartBilling (w : Runtime.World) : Stepped D s (.restartBilling w) [] { s with billing := w }
  | restartRisk (w : Runtime.World) : Stepped D s (.restartRisk w) [] { s with risk := w }

theorem stepped_agent {D : Deployment} {ch : Choice} {s s' : State} {os : List Event}
    (c : RefundOps.Choice LoopId Message Resolution.Request Resolution.Reply Nat)
    (hticket : ∀ e, c = .deliver (.ticket e) → e ∈ s.tickets)
    (hbilling : ∀ e, c = .deliver (.billingResult e) → e ∈ s.billingResults)
    (hrisk : ∀ e, c = .deliver (.riskResult e) → e ∈ s.riskResults)
    (hs : ((Resolution.service D.settings).step c s.agent).map (fun out =>
      (out.1.map fun o => Event.agent o.1 o.2, { s with agent := out.2 })) = some (os, s')) :
    Stepped D s ch os s' := by
  obtain ⟨out, hout, heq⟩ := Option.map_eq_some_iff.mp hs
  cases heq
  exact .agent hticket hbilling hrisk hout

theorem stepped_of_step {D : Deployment} {ch : Choice} {s s' : State} {os : List Event}
    (hs : step D ch s = some (os, s')) : Stepped D s ch os s' := by
  cases ch with
  | «open» e =>
    simp only [step] at hs
    split at hs
    · rename_i h
      cases hs
      exact .opened h
    · cases hs
  | arrive i =>
    simp only [step] at hs
    split at hs
    · rename_i ev hev
      cases hs
      exact .arrived hev
    · cases hs
  | handleBilling n h =>
    obtain ⟨e, he, heq⟩ := Option.map_eq_some_iff.mp hs
    cases heq
    exact .billing (List.mem_of_getElem? he)
  | handleRisk n h =>
    obtain ⟨e, he, heq⟩ := Option.map_eq_some_iff.mp hs
    cases heq
    exact .risk (List.mem_of_getElem? he)
  | restartBilling w =>
    cases hs
    exact .restartBilling w
  | restartRisk w =>
    cases hs
    exact .restartRisk w
  | deliverTicket n =>
    obtain ⟨c, hc, hs⟩ := Option.bind_eq_some_iff.mp hs
    obtain ⟨e, he, rfl⟩ := Option.map_eq_some_iff.mp hc
    refine stepped_agent _ ?_ (by simp) (by simp) hs
    intro e' heq
    cases heq
    exact List.mem_of_getElem? he
  | deliverBilling n =>
    obtain ⟨c, hc, hs⟩ := Option.bind_eq_some_iff.mp hs
    obtain ⟨e, he, rfl⟩ := Option.map_eq_some_iff.mp hc
    refine stepped_agent _ (by simp) ?_ (by simp) hs
    intro e' heq
    cases heq
    exact List.mem_of_getElem? he
  | deliverRisk n =>
    obtain ⟨c, hc, hs⟩ := Option.bind_eq_some_iff.mp hs
    obtain ⟨e, he, rfl⟩ := Option.map_eq_some_iff.mp hc
    refine stepped_agent _ (by simp) (by simp) ?_ hs
    intro e' heq
    cases heq
    exact List.mem_of_getElem? he
  | deliverResult e => exact stepped_agent (.deliver (.taskResult e)) (by simp) (by simp) (by simp) hs
  | sweep => exact stepped_agent (.deliver .sweep) (by simp) (by simp) (by simp) hs
  | answer i y => exact stepped_agent (.answer i y) (by simp) (by simp) (by simp) hs
  | pass micros => exact stepped_agent (.env micros) (by simp) (by simp) (by simp) hs

/-- What is sent changes the endpoint topics only. -/
theorem accept_eq (s : State) (ev : Resolution.OutEvent) :
    s.accept ev = { s with
      billingTasks := (s.accept ev).billingTasks, riskTasks := (s.accept ev).riskTasks } := by
  unfold State.accept
  split
  · rfl
  · split
    · rfl
    · split <;> rfl

theorem accept_agent (s : State) (ev : Resolution.OutEvent) : (s.accept ev).agent = s.agent := by
  rw [accept_eq]

/-- **The agent of a run runs as it does alone.** -/
theorem Run.agentRun {D : Deployment} {now : Time} {nextId : UUID} {tr : List Event} {s : State}
    (h : Run D now nextId tr s) :
    (Resolution.service D.settings).Run EventLoop.anyStep (Resolution.start now nextId)
      (agentTrace tr) s.agent := by
  induction h with
  | nil => exact .nil
  | step _ ch hs ih =>
    rw [agentTrace_append]
    cases stepped_of_step hs with
    | agent _ _ _ hagent =>
      rw [agentTrace_map]
      exact ih.step _ hagent fun _ _ => trivial
    | opened | restartBilling | restartRisk => simpa [agentTrace] using ih
    | arrived => simpa [agentTrace, accept_agent] using ih
    | billing => simpa [agentTrace_billing] using ih
    | risk => simpa [agentTrace_risk] using ih

theorem Run.of_exec {D : Deployment} {now : Time} {nextId : UUID} {chs : List Choice}
    {tr tr' : List Event} {s s' : State} (h : Run D now nextId tr s)
    (hexec : exec D chs s = some (tr', s')) : Run D now nextId (tr ++ tr') s' := by
  induction chs generalizing tr tr' s with
  | nil =>
    cases hexec
    simpa using h
  | cons ch chs ih =>
    obtain ⟨⟨os, s₁⟩, hs, hrest⟩ := Option.bind_eq_some_iff.mp hexec
    obtain ⟨⟨tr₁, s₂⟩, hrun, heq⟩ := Option.map_eq_some_iff.mp hrest
    cases heq
    rw [← List.append_assoc]
    exact ih (h.step ch hs) hrun

end RefundOps.Workflow
