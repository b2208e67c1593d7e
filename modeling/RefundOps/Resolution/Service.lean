import RefundOps.Resolution.EventHandlers

/-!
# The running agent

`reaper.py` and the wiring of `agent.py`: five loops over one store. Each takes one message at a
time; the tick of the reaper is a message like any other. The clock moves on its own, by any
amount, between any two steps.
-/

set_option autoImplicit false

namespace RefundOps.Resolution

/-- One case of a sweep: whatever `_apply_decision` raises is logged, and the sweep goes on. -/
def escalateTimedOut (c : ResolutionCase) : M Unit := do
  let cur ← deref c
  if undecided cur.status then do
    let causationId ← uuid4
    tryCatch (applyDecision c causationId) fun _ => pure ()

/-- The body of the loop of `run_reaper`. -/
def reaperSweep : M Unit := do
  let currentTime ← datetimeNow
  let timedOut ← readStore fun st => st.listTimedOutCases currentTime
  timedOut.forM escalateTimedOut

inductive LoopId where
  | intake
  | result
  | billing
  | risk
  | reaper
  deriving DecidableEq, Repr

def Message.loop : Message → LoopId
  | .ticket _ => .intake
  | .taskResult _ => .result
  | .billingResult _ => .billing
  | .riskResult _ => .risk
  | .sweep => .reaper

def Message.handler (S : Settings) : Message → M Unit
  | .ticket envelope => intakeHandler S envelope
  | .taskResult envelope => resultHandler S envelope
  | .billingResult envelope => billingResultHandler envelope
  | .riskResult envelope => riskResultHandler envelope
  | .sweep => reaperSweep

/-- The agent; a move of the environment lets that many microseconds pass. -/
def service (S : Settings) : EventLoop LoopId Message World Obs Request Reply String Nat where
  target := Message.loop
  received := fun m => [.received m]
  handler := Message.handler S
  env := fun micros w => { w with now := w.now + micros }

abbrev State := Config LoopId World Obs Request Reply String

abbrev Trace := List (LoopId × Obs)

/-- The agent as it starts: nothing stored, every loop idle. -/
def start (now : Time) (nextId : UUID) : State where
  world := { now, nextId }
  loops := fun _ => none

/-! ## Schedules

What a concrete schedule is written with: an agent with the default deadline, a broker that
accepts everything, one ticket of each kind. -/

/-- The agent of the schedules. Its `uuid5` has the two task ids of the case `1`. -/
def sampleSettings : Settings where
  craLlmEnabled := false
  caseDeadlineSeconds := 15
  uuid5 := fun ns name =>
    if ns = 1 ∧ name = billingCapabilityId then 0x3ec82ca298bd5a5aae8c4649557dec57
    else if ns = 1 ∧ name = riskCapabilityId then 0x672d0fd571965e84a6474a4db0223b32
    else 0
  floatOfStr := fun _ => none

/-- The same with the task ids of the case `2` as well. -/
def pairSettings : Settings :=
  { sampleSettings with
    uuid5 := fun ns name =>
      if ns = 2 ∧ name = billingCapabilityId then 0x21410b3ebdca54b3a10805ec13d12791
      else if ns = 2 ∧ name = riskCapabilityId then 0xdbf246fd55075ea483fa7a9009a9d0de
      else sampleSettings.uuid5 ns name }

def peerCard (agentId capabilityId : String) : AgentCard :=
  { agentId
    name := agentId
    description := ""
    version := "1.0.0"
    endpointTopic := agentId
    capabilities := [{ id := capabilityId, name := capabilityId, description := "" }] }

/-- Whatever is sent arrives, and both peers can be discovered. -/
def grant : ∀ x, Reply x
  | .send _ => .ok ()
  | .sendAudit _ _ => .ok ()
  | .discoverAgents =>
      .ok [peerCard billingPeerAgentId billingCapabilityId,
        peerCard riskPeerAgentId riskCapabilityId]
  | .classifyWithLlm _ _ _ => .ok none

/-- The broker refuses what it is sent. -/
def refuse : ∀ x, Reply x
  | .send _ => .error "KafkaConnectionError"
  | .sendAudit _ _ => .error "KafkaConnectionError"
  | .discoverAgents => .error "KafkaConnectionError"
  | .classifyWithLlm _ _ _ => .error "LLMError"

def sampleTicket (reason : String) : SupportTicketCreatedPayload :=
  { ticketId := "T-1", customerId := "C-1", amount := 50, currency := "USD", reason
    createdAt := 0 }

/-- A ticket of the case `1`. -/
def ticketMessage (reason : String) : Message :=
  .ticket { eventId := 100, correlationId := 1, payload := some (sampleTicket reason) }

/-- A refund ticket of the case `k`. -/
def caseTicket (k : UUID) : Inbound SupportTicketCreatedPayload :=
  { eventId := 100 + k, correlationId := k, payload := some (sampleTicket "refund") }

def sampleBilling (recommendation : String) : BillingRefundAnalysisCompletedPayload :=
  { ticketId := "T-1", recommendation, confidence := ⟨1, one_inBounds⟩, evidence := []
    reasoningSummary := "", requiresHumanReview := false, caseId := 1, customerId := "C-1" }

def sampleRisk (recommendation : String) : RiskReviewCompletedPayload :=
  { ticketId := "T-1", recommendation, confidence := ⟨1, one_inBounds⟩, evidence := []
    reasoningSummary := "", requiresHumanReview := false }

/-- The results of the case `1`. -/
def billingMessage (recommendation : String) : Message :=
  .billingResult { eventId := 200, correlationId := 1, payload := some (sampleBilling recommendation) }

def riskMessage (recommendation : String) : Message :=
  .riskResult { eventId := 300, correlationId := 1, payload := some (sampleRisk recommendation) }

/-- A task of the case `1` that failed at its peer. -/
def failedResult (taskId : UUID) : TaskResult :=
  { taskId
    status := .failed
    performerAgentId := billingPeerAgentId
    error := some { category := .handlerError, message := "boom" }
    validateStatusFields := ⟨rfl, _, rfl, .inl rfl⟩ }

/-- A task of the case `1` that is completed, with data that says nothing. -/
def emptyResult (taskId : UUID) : TaskResult :=
  { taskId
    status := .completed
    performerAgentId := billingPeerAgentId
    output := some
      { role := .agent
        parts := [{ type := .data, data := some (.obj []), validateConditionalFields := rfl }]
        validatePartsNonempty := by simp }
    validateStatusFields := ⟨rfl, rfl⟩ }

def resultEnvelope (result : TaskResult) : Inbound TaskResult :=
  { eventId := 400, correlationId := 1, payload := some result }

def failedMessage (taskId : UUID) : Message := .taskResult (resultEnvelope (failedResult taskId))

abbrev Schedule := List (Choice LoopId Message Request Reply Nat)

end RefundOps.Resolution
