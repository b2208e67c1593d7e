import RefundOps.Resolution.A2AHandlers
import RefundOps.Resolution.DecisionEngine

/-!
# The event handlers

`event_handlers.py`, handler by handler, in the order of the source: the normalisation of task
results, the emission of a decision with its draft, the intake of tickets, the generic results,
the claim-then-decide path, and the two domain results.

Identity fields of a record (`case_id`, `correlation_id`, `ticket_id`, `customer_id`) are never
assigned, so they are read from the reference itself; every other field is read through `deref`.
-/

set_option autoImplicit false

namespace RefundOps.Resolution

/-! ## Normalisation -/

/-- The vocabulary of billing recommendations, lower case. -/
def eligibilityOf (rec : String) : Eligibility :=
  if rec ∈ ["approve_full_refund", "approve", "eligible", "refund"] then .eligible
  else if rec = "approve_partial_refund" then .partially
  else if rec ∈ ["deny_refund", "deny", "ineligible", "reject"] then .ineligible
  else if rec ∈ ["request_more_information", "manual_review"] then .indeterminate
  else if rec = "partial_refund" then .partially
  else .indeterminate

/-- No comparison with a NaN holds, so a NaN is low. -/
def riskLevelFromScore (score : Floating ℚ) (elevated high : ℚ) : Level :=
  if score ≥ .fin high then .high else if score ≥ .fin elevated then .elevated else .low

/-- The vocabulary of risk recommendations; a word outside it leaves the level to the score. -/
def levelOf (rec : String) : Option Level :=
  if rec ∈ ["low", "approve", "acceptable"] then some .low
  else if rec = "elevated" then some .elevated
  else if rec ∈ ["high", "deny", "block"] then some .high
  else none

def uncertaintyFromConfidence (confidence : Floating ℚ) : ℚ := confidence.oneSub.clamp

/-- Turned round twice: a threshold on the certainty is one on the confidence. -/
theorem certain_iff {confidence : Floating ℚ} {c : ℚ} (hpos : 0 < c) (hone : c ≤ 1) :
    ¬ .fin (1 - c) < Floating.fin (uncertaintyFromConfidence confidence) ↔ .fin c ≤ confidence := by
  rw [Floating.fin_lt_fin, not_lt, uncertaintyFromConfidence,
    Floating.clamp_oneSub_le_iff (sub_nonneg.mpr hone) (sub_lt_self 1 hpos), sub_sub_cancel]

/-- A JSON value as a `float`: numbers, booleans and numeric strings. The numbers of `Json` are finite;
    a float that is not stands in a dict as the string it is printed as, which is read alike. -/
def jsonFloat (S : Settings) : Json → Option (Floating ℚ)
  | .num x => some (.fin x)
  | .bool b => some (.fin (if b then 1 else 0))
  | .str s => S.floatOfStr s
  | _ => none

/-- A JSON value as a `float | None` field; the outer `none` is a validation error. -/
def jsonOptFloat (S : Settings) : Option Json → Option (Option (Floating ℚ))
  | none => some none
  | some .null => some none
  | some j => (jsonFloat S j).map some

/-- A `str` field with the empty default. -/
def jsonSummary : Option Json → Option String
  | none => some ""
  | some (.str s) => some s
  | some _ => none

/-- `bool(data.get("requires_human_review", False))`. -/
def jsonFlag (j : Option Json) : Bool := (j.map Json.truthy).getD false

/-- `normalize_billing_result`. -/
def normalizeBillingResult (S : Settings) (taskId : UUID) (performer : String) (data : Json) :
    Option BillingFinding :=
  match data.get? "recommendation" with
  | some (.str rec) => do
      let confidence ← jsonOptFloat S (data.get? "confidence")
      let summary ← jsonSummary (data.get? "reasoning_summary")
      pure
        { eligibility := eligibilityOf (Text.lower rec)
          requiresHumanReview := jsonFlag (data.get? "requires_human_review")
          confidence, summary
          performerAgentId := performer
          taskId := some taskId }
  | some _ => none
  | none =>
      let finding := fun (eligibility : Eligibility) =>
        some { eligibility, performerAgentId := performer, taskId := some taskId }
      match data.get? "eligible" with
      | some (.bool b) => finding (if b then .eligible else .ineligible)
      | some (.str s) =>
          finding (if s = "eligible" then .eligible
            else if s = "partial" then .partially
            else if s = "ineligible" then .ineligible
            else if s = "indeterminate" then .indeterminate
            else if Text.lower s = "true" then .eligible else .ineligible)
      | _ => none

/-- `normalize_risk_result`, with its default thresholds. -/
def normalizeRiskResult (S : Settings) (taskId : UUID) (performer : String) (data : Json) :
    Option RiskFinding :=
  match data.get? "recommendation" with
  | some (.str rec) => do
      let level ← match levelOf (Text.lower rec) with
        | some level => pure level
        | none => do
            let score ← match data.get? "score", data.get? "confidence" with
              | some j, _ => jsonFloat S j
              | none, some j => jsonFloat S j
              | none, none => some (.fin 0)
            pure (riskLevelFromScore score (5 / 10) (8 / 10))
      let score ← match data.get? "confidence" with
        | none => pure none
        | some .null => pure none
        | some j => (jsonFloat S j).map fun x => some (.fin (uncertaintyFromConfidence x))
      let summary ← jsonSummary (data.get? "reasoning_summary")
      pure
        { level
          requiresHumanReview := jsonFlag (data.get? "requires_human_review")
          score, summary
          performerAgentId := performer
          taskId := some taskId }
  | some _ => none
  | none =>
      match data.get? "risk" with
      | none => none
      | some risk => do
          -- `str` of anything but a string is none of the three words
          let level := match risk with
            | .str s =>
                if Text.lower s = "elevated" then Level.elevated
                else if Text.lower s = "high" then .high
                else .low
            | _ => .low
          let score ← jsonOptFloat S (data.get? "score")
          pure { level, score, performerAgentId := performer, taskId := some taskId }

/-- The data of the first data part, `{}` when there is none. -/
def resultData (output : Option A2AMessage) : Json :=
  match output with
  | none => .obj []
  | some m =>
      match m.parts.find? fun p => p.type == .data with
      | none => .obj []
      | some p => p.data.getD (.obj [])

/-! ## Emitting a decision -/

/-- `_emit_decision_and_draft`. -/
def emitDecisionAndDraft (c : ResolutionCase) (decision : CustomerResponseDecisionPayload)
    (causationId : UUID) : M OutEvent := do
  -- the decision is out before its draft is known to be valid
  let decided ← publish (.resolutionDecided decision) c.correlationId causationId
  assign c fun c => { c with decidedEventId := some decided.eventId }
  writeAudit decided.ref .completed (some ("decision: " ++ decision.outcome.value))
  let draftedAt ← datetimeNow
  let draft := draftFor decision c.correlationId decided.eventId draftedAt
  if draft.valid then do
    let drafted ← publish (.responseDrafted draft) c.correlationId decided.eventId
    assign c fun c => { c with draftedEventId := some drafted.eventId }
    pure decided
  else throw "ValidationError"

/-! ## Intake -/

/-- The triage: the LLM's where it is enabled and answers, the deterministic one otherwise. -/
def triageTicket (S : Settings) (envelope : EventRef) (ticket : SupportTicketCreatedPayload) :
    M Triage :=
  if S.craLlmEnabled then do
    let answer ←
      Coro.request (Request.classifyWithLlm ticket envelope.correlationId envelope.eventId)
    match answer with
    | .ok c => pure (triageOfAnswer ticket c)
    | .error _ => pure (classify ticket)
  else pure (classify ticket)

def directDecision (c : ResolutionCase) (ticket : SupportTicketCreatedPayload) (triage : Triage) :
    CustomerResponseDecisionPayload :=
  { caseId := c.correlationId
    ticketId := ticket.ticketId
    customerId := ticket.customerId
    outcome := .directResponse
    customerResponse := draftCustomerResponse .directResponse
    rationale := triage.rationale
    validateEscalationReason := directResponse_needs_no_reason }

/-- Not a refund: answer at once and close the case. -/
def respondDirectly (c : ResolutionCase) (ticket : SupportTicketCreatedPayload) (triage : Triage)
    (causationId : UUID) : M Unit := do
  let _ ← emitDecisionAndDraft c (directDecision c ticket triage) causationId
  assign c fun c => { c with status := .closed }
  save c

def delegationFailureDecision (c : ResolutionCase) (ticket : SupportTicketCreatedPayload)
    (exc : String) : CustomerResponseDecisionPayload :=
  escalation c.correlationId ticket.ticketId ticket.customerId "peer_failure"
    ("Delegation failed: " ++ exc) peerFailure_ne_empty none none

/-- The `except` branch of the delegation. It does not ask whether the case was decided
    meanwhile. -/
def escalateDelegationFailure (c : ResolutionCase) (ticket : SupportTicketCreatedPayload)
    (causationId : UUID) (exc : String) : M Unit := do
  let cur ← deref c
  Coro.observe (.delegationFailed c.caseId cur.status)
  let _ ← emitDecisionAndDraft c (delegationFailureDecision c ticket exc) causationId
  assign c fun c => { c with status := .escalated }
  save c

/-- A refund: set the deadline and ask both peers. -/
def delegateReviews (S : Settings) (c : ResolutionCase) (ticket : SupportTicketCreatedPayload)
    (envelope : EventRef) : M Unit := do
  let now ← datetimeNow
  assign c fun c => { c with
    status := .waitingForPeerReviews
    deadlineAt := some (now + S.caseDeadlineSeconds * microsPerSecond) }
  save c
  -- only the delegation is guarded, not the save before it
  tryCatch (do delegate S c envelope; save c)
    (escalateDelegationFailure c ticket envelope.eventId)

def intakeHandler (S : Settings) (envelope : Inbound SupportTicketCreatedPayload) : M Unit :=
  match envelope.payload with
  | none => pure ()
  | some ticket => do
      let createdAt ← datetimeNow
      let c ← withStore fun st => st.getOrCreate envelope.correlationId ticket.ticketId
        ticket.customerId envelope.correlationId ticket.amount ticket.currency ticket.reason
        createdAt
      -- a ticket that comes again is worked on again, until its case is delegated or closed
      if c.status = .received ∨ c.status = .classified then do
        let triage ← triageTicket S envelope.ref ticket
        assign c fun c => { c with triage := some triage, status := .classified }
        save c
        writeAudit envelope.ref .accepted none AuditOutcome.accepted_reasonOk
        let _ ← publish
          (.issueClassified (buildIssueClassifiedPayload ticket envelope.correlationId triage))
          envelope.correlationId envelope.eventId
        if triage.needsRefundReview then delegateReviews S c ticket envelope.ref
        else respondDirectly c ticket triage envelope.eventId
      else writeAudit envelope.ref .duplicateSkipped (some "already_processed")

/-! ## Deciding -/

/-- `await store.claim_decision(case.case_id)`. -/
def claimDecision (c : ResolutionCase) : M Bool := do
  let now ← datetimeNow
  let won ← withStore fun st => st.claimDecision c.caseId now
  if won then Coro.observe (.claimed c.caseId)
  pure won

/-- The decision on a record: what `_apply_decision` passes to `decide`. -/
def decisionOn (c : ResolutionCase) (now : Time) : CustomerResponseDecisionPayload :=
  decide
    (c.triage.getD
      { needsRefundReview := true, ambiguous := true, rationale := "No triage available" })
    c.billingResult c.riskResult (some (buildTimeoutStatus c now)) (some c.correlationId)
    c.ticketId c.customerId

/-- `_apply_decision`. The caller gives the causation id: the event it handles, or a fresh id in
    the reaper. -/
def applyDecision (c : ResolutionCase) (causationId : UUID) : M Unit := do
  let won ← claimDecision c
  if won then do
    let c ← deref c
    let now ← datetimeNow
    let decision := decisionOn c now
    Coro.observe (.decisionTaken c now decision)
    let _ ← emitDecisionAndDraft c decision causationId
    assign c fun c => { c with status := .decided }
    save c

/-! ## Generic task results -/

def markSlotFailed (c : ResolutionCase) (taskId : UUID) (isBilling : Bool) (reason : String) :
    M Unit := do
  let now ← datetimeNow
  let cur ← deref c
  Coro.observe (.slotFailed cur taskId isBilling)
  withStore fun st => ((), st.markSlotFailed c.caseId taskId isBilling reason now)

/-- `await store.apply_result(...)` with the audit of an attached result. -/
def applyResult (envelope : EventRef) (c : ResolutionCase) (taskId : UUID) (finding : Finding) :
    M Unit := do
  let now ← datetimeNow
  let outcome ← withStore fun st => st.applyResult c.caseId taskId finding now
  if outcome = .attached then do
    Coro.observe (.attached envelope c.caseId taskId finding)
    writeTaskAudit envelope .completed (some taskId) none AuditOutcome.completed_reasonOk

/-- `result.error.message if result.error else result.status`. -/
def failReason (result : TaskResult) : String :=
  match result.error with
  | some e => e.message
  | none => result.status.value

/-- The body of `result_handler` between the guards and the decision. -/
def recordResult (S : Settings) (envelope : EventRef) (c : ResolutionCase) (result : TaskResult)
    (isBilling : Bool) : M Unit :=
  if result.status = .completed then
    let data := resultData result.output
    if isBilling then
      match normalizeBillingResult S result.taskId result.performerAgentId data with
      | none => markSlotFailed c result.taskId true "unparseable_result"
      | some finding => do
          assign c fun c => { c with billingResultEventId := some envelope.eventId }
          applyResult envelope c result.taskId (.billing finding)
    else
      match normalizeRiskResult S result.taskId result.performerAgentId data with
      | none => markSlotFailed c result.taskId false "unparseable_result"
      | some finding => do
          assign c fun c => { c with riskResultEventId := some envelope.eventId }
          applyResult envelope c result.taskId (.risk finding)
  else do
    markSlotFailed c result.taskId isBilling (failReason result)
    writeTaskAudit envelope .rejected (some result.taskId) (some (failReason result))

def resultHandler (S : Settings) (envelope : Inbound TaskResult) : M Unit :=
  match envelope.payload with
  | none => pure ()
  | some result => do
      let found ← readStore fun st => st.getByTaskId result.taskId
      match found with
      | none => pure ()
      | some c =>
          if undecided c.status then
            let isBilling := c.billingTaskId == some result.taskId
            let isRisk := c.riskTaskId == some result.taskId
            -- a completed billing or risk result is left to its domain handler
            if result.status = .completed ∧ (isBilling ∨ isRisk) then
              writeTaskAudit envelope.ref .duplicateSkipped (some result.taskId) (some "dual_path")
            else do
              recordResult S envelope.ref c result isBilling
              let c ← deref c
              if c.isReadyToDecide then applyDecision c envelope.eventId
          else
            writeTaskAudit envelope.ref .duplicateSkipped (some result.taskId)
              (some "late_result")

/-! ## Domain results -/

/-- Decide when both results are there and nobody has. -/
def decideIfReady (c : ResolutionCase) (causationId : UUID) : M Unit := do
  let c ← deref c
  if c.isReadyToDecide ∧ undecided c.status then applyDecision c causationId

/-- The finding of a billing payload. A denial at heavy usage is read as a denial for usage, and
    that as a partial-credit candidate. -/
def billingFinding (payload : BillingRefundAnalysisCompletedPayload) (taskId : UUID) :
    BillingFinding :=
  let eligibility := eligibilityOf (Text.lower payload.recommendation)
  { eligibility :=
      if eligibility = .ineligible ∧ payload.usageLevel = "heavy" then .partially else eligibility
    requiresHumanReview := payload.requiresHumanReview
    confidence := some (.fin payload.confidence.val)
    summary := payload.reasoningSummary
    taskId := some taskId }

def billingResultHandler (envelope : Inbound BillingRefundAnalysisCompletedPayload) : M Unit :=
  match envelope.payload with
  | none => pure ()
  | some payload => do
      let found ← readStore fun st => st.getByCorrelationId envelope.correlationId
      match found with
      | none => withStore fun st => ((), st.parkBillingResult envelope.correlationId payload)
      | some c =>
          match c.billingTaskId with
          -- the case is there and not delegated yet: the opinion is dropped, not parked
          | none => pure ()
          | some taskId => do
              assign c fun c => { c with billingResultEventId := some envelope.eventId }
              applyResult envelope.ref c taskId (.billing (billingFinding payload taskId))
              decideIfReady c envelope.eventId

def riskFinding (payload : RiskReviewCompletedPayload) (taskId : UUID) : RiskFinding :=
  { level := (levelOf (Text.lower payload.recommendation)).getD
      (riskLevelFromScore (.fin payload.confidence.val) (5 / 10) (8 / 10))
    requiresHumanReview := payload.requiresHumanReview
    score := some (.fin (uncertaintyFromConfidence (.fin payload.confidence.val)))
    summary := payload.reasoningSummary
    taskId := some taskId }

/-- `_high_risk`. -/
def RiskFinding.highRisk (f : RiskFinding) : Bool :=
  f.level == .elevated || f.level == .high || f.requiresHumanReview

/-- `_billing_ineligible`. -/
def billingIneligible (c : ResolutionCase) : Bool :=
  match c.billingResult with
  | some f => f.eligibility == .ineligible
  | none => false

def highRiskDecision (c : ResolutionCase) (finding : RiskFinding) :
    CustomerResponseDecisionPayload :=
  escalation c.correlationId c.ticketId c.customerId "elevated_risk"
    ("Risk level " ++ finding.level.value ++ " forces escalation") (by simp) none
    (some ("level=" ++ finding.level.value))

/-- The immediate escalation on a high risk. -/
def escalateHighRisk (envelope : EventRef) (c : ResolutionCase) (finding : RiskFinding) :
    M Unit := do
  let won ← claimDecision c
  if won then do
    let c ← deref c
    assign c fun c => { c with
      riskResultEventId := some envelope.eventId
      riskResult := some finding }
    let _ ← emitDecisionAndDraft c (highRiskDecision c finding) envelope.eventId
    assign c fun c => { c with status := .escalated }
    save c

def riskResultHandler (envelope : Inbound RiskReviewCompletedPayload) : M Unit :=
  match envelope.payload with
  | none => pure ()
  | some payload => do
      let found ← readStore fun st => st.getByCorrelationId envelope.correlationId
      match found with
      | none => withStore fun st => ((), st.parkRiskResult envelope.correlationId payload)
      | some c =>
          match c.riskTaskId with
          | none => pure ()
          | some taskId =>
              let finding := riskFinding payload taskId
              -- a high risk does not wait for billing, unless billing has denied the refund already
              if finding.highRisk ∧ ¬ billingIneligible c ∧ undecided c.status then
                escalateHighRisk envelope.ref c finding
              else do
                assign c fun c => { c with riskResultEventId := some envelope.eventId }
                applyResult envelope.ref c taskId (.risk finding)
                decideIfReady c envelope.eventId

end RefundOps.Resolution
