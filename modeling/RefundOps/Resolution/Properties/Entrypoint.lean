import RefundOps.Resolution.AgentcoreApp
import RefundOps.Resolution.Properties.EndToEnd
import RefundOps.Resolution.Properties.ModelOutput

/-!
# The entrypoint and the live path

One ticket and two opinions, twice: through `_invoke`, which is given the field dicts of the
opinions, and through the running agent, which receives the ticket, then the billing result, then
the risk result. The mapping from an opinion to a finding is written down in both places. The two
differ in the heavy-usage rule, which only the billing handler has, and the engine is not asked at
all where the risk handler escalates at once.

`suppliedBilling_eq` and `suppliedRisk_eq` say what `_invoke` reads off the dicts. Both paths then
come down to `jointOutcome`, and comparing the two row by row gives `Diverges`.
-/

set_option autoImplicit false

namespace RefundOps.Resolution

/-! ## The findings in a call -/

/-- `data` has the fields of the payload that `normalize_billing_result` reads. -/
structure BillingFields (payload : BillingRefundAnalysisCompletedPayload)
    (data : List (String × Json)) : Prop where
  recommendation : data.lookup "recommendation" = some (.str payload.recommendation)
  confidence : data.lookup "confidence" = some (.num payload.confidence.val)
  reasoningSummary : data.lookup "reasoning_summary" = some (.str payload.reasoningSummary)
  requiresHumanReview :
    data.lookup "requires_human_review" = some (.bool payload.requiresHumanReview)

/-- `data` has the fields of the payload that `normalize_risk_result` reads; there is no field
    `score` in it. -/
structure RiskFields (payload : RiskReviewCompletedPayload) (data : List (String × Json)) :
    Prop where
  recommendation : data.lookup "recommendation" = some (.str payload.recommendation)
  confidence : data.lookup "confidence" = some (.num payload.confidence.val)
  reasoningSummary : data.lookup "reasoning_summary" = some (.str payload.reasoningSummary)
  requiresHumanReview :
    data.lookup "requires_human_review" = some (.bool payload.requiresHumanReview)
  score : data.lookup "score" = none

/-- The arguments of a call about the ticket and the two opinions. Who performed them may be
    named or left out. -/
structure Asks (payload : Json) (ticket : SupportTicketCreatedPayload)
    (b : BillingRefundAnalysisCompletedPayload) (r : RiskReviewCompletedPayload)
    (billingData riskData : List (String × Json)) : Prop where
  ticketId : payload.get? "ticket_id" = some (.str ticket.ticketId)
  customerId : payload.get? "customer_id" = some (.str ticket.customerId)
  amount : payload.get? "amount" = some (.num ticket.amount)
  currency : payload.get? "currency" = some (.str ticket.currency)
  reason : payload.get? "reason" = some (.str ticket.reason)
  billingResult : payload.get? "billing_result" = some (.obj billingData)
  riskResult : payload.get? "risk_result" = some (.obj riskData)
  billingPerformer :
    (performerOf payload "billing_performer_agent_id" billingPeerAgentId).isSome
  riskPerformer : (performerOf payload "risk_performer_agent_id" riskPeerAgentId).isSome
  billingFields : BillingFields b billingData
  riskFields : RiskFields r riskData

section Call

variable {S : Settings} {E : Entry} {payload : Json} {ticket : SupportTicketCreatedPayload}
  {b : BillingRefundAnalysisCompletedPayload} {r : RiskReviewCompletedPayload}
  {billingData riskData : List (String × Json)}

theorem ticketOf_eq (h : Asks payload ticket b r billingData riskData) :
    ticketOf S E payload = .ok { ticket with createdAt := E.now } := by
  simp [ticketOf, requiredStr, optionalStr, amountOf, h.ticketId, h.customerId, h.amount,
    h.currency, h.reason, jsonFloat, Floating.finiteD, bind, Except.bind, pure, Except.pure]

/-- The billing finding of a call: the word is read without the usage level. -/
theorem suppliedBilling_eq (h : Asks payload ticket b r billingData riskData) :
    ∃ performer, suppliedBilling S E payload = some
      { eligibility := eligibilityOf (Text.lower b.recommendation)
        requiresHumanReview := b.requiresHumanReview
        confidence := some (.fin b.confidence.val)
        summary := b.reasoningSummary
        performerAgentId := performer
        taskId := some (E.fresh 1) } := by
  obtain ⟨performer, hp⟩ := Option.isSome_iff_exists.mp h.billingPerformer
  refine ⟨performer, ?_⟩
  have hf := h.billingFields
  unfold suppliedBilling
  rw [h.billingResult]
  simp only [hp, Option.bind_eq_bind, Option.bind_some]
  simp [normalizeBillingResult, Json.get?, hf.recommendation, hf.confidence,
    hf.reasoningSummary, hf.requiresHumanReview, jsonOptFloat, jsonFloat, jsonSummary, jsonFlag,
    Json.truthy]

/-- The risk finding of a call is that of the handler. -/
theorem suppliedRisk_eq (h : Asks payload ticket b r billingData riskData) :
    ∃ performer, suppliedRisk S E payload =
      some { riskFinding r (E.fresh 2) with performerAgentId := performer } := by
  obtain ⟨performer, hp⟩ := Option.isSome_iff_exists.mp h.riskPerformer
  refine ⟨performer, ?_⟩
  have hf := h.riskFields
  unfold suppliedRisk
  rw [h.riskResult]
  simp only [hp, Option.bind_eq_bind, Option.bind_some]
  -- a word outside the vocabulary leaves the level to the confidence, here as there
  cases hl : levelOf (Text.lower r.recommendation) with
  | none | some level =>
    simp [normalizeRiskResult, Json.get?, hf.recommendation, hf.confidence, hf.reasoningSummary,
      hf.requiresHumanReview, hf.score, hl, riskFinding, jsonFloat, jsonSummary, jsonFlag,
      Json.truthy]

/-- **The outcome of a call.** -/
theorem invoke_outcome (h : Asks payload ticket b r billingData riskData)
    (hneeds : (classify ticket).needsRefundReview = true) :
    (invoke S E payload).outcome = some (jointOutcome (classify ticket)
      { billingFinding b (E.fresh 1) with
        eligibility := eligibilityOf (Text.lower b.recommendation) }
      (riskFinding r (E.fresh 2))) := by
  obtain ⟨p₁, hb⟩ := suppliedBilling_eq (S := S) (E := E) h
  obtain ⟨p₂, hr⟩ := suppliedRisk_eq (S := S) (E := E) h
  have hneeds' : (classify { ticket with createdAt := E.now }).needsRefundReview = true := hneeds
  cases payload with
  | null | bool _ | num _ | str _ | arr _ => exact absurd h.ticketId (by simp [Json.get?])
  | obj kvs =>
    show (invokeDict S E (.obj kvs)).outcome = _
    unfold invokeDict
    rw [ticketOf_eq h, hb, hr]
    show some (decide _ _ _ none _ _ _).outcome = _
    rw [decide_outcome_of hneeds']
    -- the performers and the time of the call are not read
    exact congrArg some (jointOutcome_congr rfl rfl rfl rfl rfl rfl)

end Call

/-! ## The two paths -/

/-- The opinions are acted on: nobody asks for a human, and everybody is confident enough. -/
def Actionable (t : Triage) (b : BillingRefundAnalysisCompletedPayload)
    (r : RiskReviewCompletedPayload) : Prop :=
  b.requiresHumanReview = false ∧ r.requiresHumanReview = false ∧
    confidenceThreshold ≤ t.confidence.val ∧ confidenceThreshold ≤ b.confidence.val ∧
    confidenceThreshold ≤ r.confidence.val

/-- The level that the word of the risk agent stands for, or its confidence. -/
def riskLevelOf (r : RiskReviewCompletedPayload) : Level :=
  (levelOf (Text.lower r.recommendation)).getD
    (riskLevelFromScore (.fin r.confidence.val) (5 / 10) (8 / 10))

/-- The opinions that the two paths decide differently: a denial at heavy usage, a partial refund
    at an elevated risk, and an inconclusive analysis at any risk that is not low. -/
def Diverges (t : Triage) (b : BillingRefundAnalysisCompletedPayload)
    (r : RiskReviewCompletedPayload) : Prop :=
  Actionable t b r ∧
    match eligibilityOf (Text.lower b.recommendation) with
    | .eligible => False
    | .partially => riskLevelOf r = .elevated
    | .ineligible => b.usageLevel = "heavy"
    | .indeterminate => riskLevelOf r ≠ .low

section Paths

variable {t : Triage} {b : BillingRefundAnalysisCompletedPayload} {r : RiskReviewCompletedPayload}
  {bt rt : UUID}

/-- A finding with the confidence of the billing opinion, whatever was read off its word. -/
theorem confident_iff_of {f : BillingFinding} (hc : f.confidence = some (.fin b.confidence.val)) :
    confidenceThreshold ≤ computeConfidence (some t) (some f) (some (riskFinding r rt)) ↔
      confidenceThreshold ≤ t.confidence.val ∧ confidenceThreshold ≤ b.confidence.val ∧
        confidenceThreshold ≤ r.confidence.val := by
  have hsame : computeConfidence (some t) (some f) (some (riskFinding r rt)) =
      computeConfidence (some t) (some (billingFinding b 0)) (some (riskFinding r rt)) :=
    computeConfidence_congr hc rfl
  rw [hsame]
  exact confident_iff

/-- Opinions that are not acted on are escalated. -/
theorem jointOutcome_of_not_actionable (h : ¬ Actionable t b r) {f : BillingFinding}
    (hf : f.requiresHumanReview = b.requiresHumanReview)
    (hc : f.confidence = some (.fin b.confidence.val)) :
    jointOutcome t f (riskFinding r rt) = .escalateHuman := by
  rw [jointOutcome_eq_escalate_iff]
  intro hres
  have hclear := hres.1
  rw [hf] at hclear
  exact h ⟨hclear, hres.2.1, (confident_iff_of hc).mp hres.2.2.1⟩

theorem jointOutcome_of_actionable (h : Actionable t b r) {f : BillingFinding}
    (hf : f.requiresHumanReview = b.requiresHumanReview)
    (hc : f.confidence = some (.fin b.confidence.val)) :
    jointOutcome t f (riskFinding r rt) = tableOutcome f.eligibility (riskLevelOf r) := by
  obtain ⟨hb, hr, hconf⟩ := h
  have hclear : ¬ (f.requiresHumanReview = true ∨ (riskFinding r rt).requiresHumanReview = true) := by
    rw [hf, hb, show (riskFinding r rt).requiresHumanReview = false from hr]
    simp
  have hlow : ¬ computeConfidence (some t) (some f) (some (riskFinding r rt)) <
      confidenceThreshold :=
    not_lt.mpr ((confident_iff_of hc).mpr hconf)
  unfold jointOutcome
  rw [if_neg hclear, if_neg hlow]
  rfl

/-- A risk that is escalated at once, of opinions that are acted on. -/
theorem highRisk_iff (h : Actionable t b r) :
    (riskFinding r rt).highRisk = true ↔ riskLevelOf r ≠ .low := by
  have hlevel : (riskFinding r rt).level = riskLevelOf r := rfl
  have hreview : (riskFinding r rt).requiresHumanReview = false := h.2.1
  unfold RiskFinding.highRisk
  rw [hlevel, hreview]
  cases riskLevelOf r <;> decide

/-- The live path escalates what is not acted on. -/
theorem live_of_not_actionable (h : ¬ Actionable t b r) (hneeds : t.needsRefundReview = true) :
    outcomeWith t true (billingFinding b bt) (riskFinding r rt) = .escalateHuman := by
  unfold outcomeWith
  rw [if_pos hneeds]
  split
  · rfl
  · exact jointOutcome_of_not_actionable h rfl rfl

/-- On opinions that are acted on it consults the table, unless the risk overtakes it. -/
theorem live_of_actionable (h : Actionable t b r) (hneeds : t.needsRefundReview = true) :
    outcomeWith t true (billingFinding b bt) (riskFinding r rt) =
      if riskLevelOf r ≠ .low ∧ (billingFinding b bt).eligibility ≠ .ineligible then .escalateHuman
      else tableOutcome (billingFinding b bt).eligibility (riskLevelOf r) := by
  have hfast : AtOnce true (billingFinding b bt) (riskFinding r rt) ↔
      riskLevelOf r ≠ .low ∧ (billingFinding b bt).eligibility ≠ .ineligible := by
    unfold AtOnce
    rw [highRisk_iff h]
    simp
  unfold outcomeWith
  rw [if_pos hneeds, jointOutcome_of_actionable h (f := billingFinding b bt) rfl rfl]
  by_cases hc : AtOnce true (billingFinding b bt) (riskFinding r rt)
  · rw [if_pos hc, if_pos (hfast.mp hc)]
  · rw [if_neg hc, if_neg fun h => hc (hfast.mpr h)]

/-- **The two outcomes are the same exactly when the opinions do not diverge.** -/
theorem outcomes_eq_iff (hneeds : t.needsRefundReview = true) (id₁ id₂ : UUID) :
    jointOutcome t { billingFinding b id₁ with
        eligibility := eligibilityOf (Text.lower b.recommendation) } (riskFinding r id₂) =
      outcomeWith t true (billingFinding b bt) (riskFinding r rt) ↔ ¬ Diverges t b r := by
  by_cases hact : Actionable t b r
  · -- the live path reads the word and the usage level together
    have hread : (billingFinding b bt).eligibility =
        if eligibilityOf (Text.lower b.recommendation) = .ineligible ∧ b.usageLevel = "heavy" then
          .partially
        else eligibilityOf (Text.lower b.recommendation) := rfl
    rw [jointOutcome_of_actionable hact rfl rfl, live_of_actionable hact hneeds, hread]
    unfold Diverges
    generalize eligibilityOf (Text.lower b.recommendation) = e
    generalize riskLevelOf r = l
    by_cases hheavy : b.usageLevel = "heavy" <;> cases e <;> cases l <;>
      simp [hact, hheavy, tableOutcome]
  · rw [jointOutcome_of_not_actionable hact rfl rfl, live_of_not_actionable hact hneeds]
    exact iff_of_true rfl fun h => hact h.1

end Paths

/-- **The entrypoint agrees with the live path exactly when the opinions do not diverge.** For
    every refund ticket of a new case in every reachable state, triaged by `classify`, and every
    pair of opinions, the billing result first. -/
theorem entrypoint_agrees_iff {S : Settings} {now : Time} {nextId : UUID} {tr : Trace} {s : State}
    (hrun : (service S).Run EventLoop.anyStep (start now nextId) tr s) {answer : ∀ x, Reply x}
    (hg : Granted answer) (hd : Discovered answer) {k : UUID}
    (hne : billingTaskOf S k ≠ riskTaskOf S k) (hnew : s.world.store.get k = none)
    {ticket : SupportTicketCreatedPayload} {y : LlmAnswer}
    (htriage : intakeTriage S ticket y = classify ticket)
    (hneeds : (classify ticket).needsRefundReview = true)
    {e : Inbound SupportTicketCreatedPayload} (he : e.payload = some ticket)
    (hk : e.correlationId = k) {eb : Inbound BillingRefundAnalysisCompletedPayload}
    {b : BillingRefundAnalysisCompletedPayload} (heb : eb.payload = some b)
    (hkb : eb.correlationId = k) {er : Inbound RiskReviewCompletedPayload}
    {r : RiskReviewCompletedPayload} (her : er.payload = some r) (hkr : er.correlationId = k)
    (t₀ t₁ t₂ : Time) {E : Entry} {payload : Json} {billingData riskData : List (String × Json)}
    (hasks : Asks payload ticket b r billingData riskData) :
    (invoke S E payload).outcome.toList =
        (shown k (handleAll S (withLlm answer y)
          [(t₀, .ticket e), (t₁, .billingResult eb), (t₂, .riskResult er)] s.world)).map
            (·.outcome) ↔
      ¬ Diverges (classify ticket) b r := by
  have hlive := handleAll_outcome (y := y) (run_viewOk hrun) hg hd hne he hk hnew heb hkb her hkr
    true t₀ t₁ t₂
  rw [htriage] at hlive
  rw [invoke_outcome hasks hneeds]
  show [_] = (shown k (handleAll S (withLlm answer y)
    ((t₀, .ticket e) :: opinions true t₁ t₂ eb er) s.world)).map (·.outcome) ↔ _
  rw [hlive, List.singleton_inj]
  exact outcomes_eq_iff hneeds (E.fresh 1) (E.fresh 2)

/-! ### A call about the case `1` -/

def sampleEntry : Entry where
  loads := fun _ => .error "Expecting value: line 1 column 1 (char 0)"
  uuid := fun _ => none
  excText := fun _ => "Input should be a valid string"
  now := 0
  fresh := fun n => 5000 + n

def billingDict (b : BillingRefundAnalysisCompletedPayload) : List (String × Json) :=
  [("ticket_id", .str b.ticketId), ("recommendation", .str b.recommendation),
    ("confidence", .num b.confidence.val), ("evidence", .arr []),
    ("reasoning_summary", .str b.reasoningSummary),
    ("requires_human_review", .bool b.requiresHumanReview), ("customer_id", .str b.customerId),
    ("usage_level", .str b.usageLevel)]

def riskDict (r : RiskReviewCompletedPayload) : List (String × Json) :=
  [("ticket_id", .str r.ticketId), ("recommendation", .str r.recommendation),
    ("confidence", .num r.confidence.val), ("evidence", .arr []),
    ("reasoning_summary", .str r.reasoningSummary),
    ("requires_human_review", .bool r.requiresHumanReview)]

/-- The ticket that mentions a refund, with two opinions. -/
def sampleCall (b : BillingRefundAnalysisCompletedPayload) (r : RiskReviewCompletedPayload) :
    Json :=
  .obj [("ticket_id", .str "T-1"), ("customer_id", .str "C-1"), ("amount", .num 50),
    ("currency", .str "USD"), ("reason", .str "refund please"),
    ("billing_result", .obj (billingDict b)), ("risk_result", .obj (riskDict r))]

theorem asks_sampleCall (b : BillingRefundAnalysisCompletedPayload)
    (r : RiskReviewCompletedPayload) :
    Asks (sampleCall b r) (sampleTicket "refund please") b r (billingDict b) (riskDict r) :=
  ⟨rfl, rfl, rfl, rfl, rfl, rfl, rfl, rfl, rfl, ⟨rfl, rfl, rfl, rfl⟩, ⟨rfl, rfl, rfl, rfl, rfl⟩⟩

theorem grant_discovered : Discovered grant := ⟨_, rfl, by decide +kernel, by decide +kernel⟩

/-- The ticket and two opinions through the agent. -/
def liveOutcomes (b : BillingRefundAnalysisCompletedPayload) (r : RiskReviewCompletedPayload) :
    List ResolutionOutcome :=
  (shown 1 (handleAll sampleSettings (withLlm grant (.ok none))
    [(0, .ticket refundEnvelope),
      (1, .billingResult { eventId := 200, correlationId := 1, payload := some b }),
      (2, .riskResult { eventId := 300, correlationId := 1, payload := some r })]
    (start 0 1000).world)).map (·.outcome)

theorem entrypoint_agrees_iff_approval :
    (invoke sampleSettings sampleEntry
        (sampleCall (sampleBilling "approve") (sampleRisk "low"))).outcome.toList =
      liveOutcomes (sampleBilling "approve") (sampleRisk "low") := by
  have hrun : (service sampleSettings).Run EventLoop.anyStep (start 0 1000) [] (start 0 1000) :=
    .nil
  have hne : billingTaskOf sampleSettings 1 ≠ riskTaskOf sampleSettings 1 := by decide +kernel
  refine (entrypoint_agrees_iff hrun grant_granted grant_discovered hne rfl
    (intakeTriage_of_disabled rfl) (by decide +kernel) (e := refundEnvelope) rfl rfl rfl rfl rfl rfl 0 1 2
    (asks_sampleCall (sampleBilling "approve") (sampleRisk "low"))).mpr ?_
  have hword : eligibilityOf (Text.lower "approve") = .eligible := by decide +kernel
  intro h
  have hrow := h.2
  rw [show (sampleBilling "approve").recommendation = "approve" from rfl, hword] at hrow
  exact hrow

/-- A denial at heavy usage, with a low risk: the call escalates it, the agent offers a partial
    credit. -/
theorem heavy_usage_denial_diverges :
    ¬ ∀ (S : Settings) (E : Entry) (now : Time) (nextId : UUID) (tr : Trace) (s : State)
      (answer : ∀ x, Reply x) (y : LlmAnswer) (ticket : SupportTicketCreatedPayload)
      (e : Inbound SupportTicketCreatedPayload)
      (eb : Inbound BillingRefundAnalysisCompletedPayload)
      (er : Inbound RiskReviewCompletedPayload) (b : BillingRefundAnalysisCompletedPayload)
      (r : RiskReviewCompletedPayload) (payload : Json)
      (billingData riskData : List (String × Json)),
      (service S).Run EventLoop.anyStep (start now nextId) tr s → Granted answer →
      Discovered answer → s.world.store.get e.correlationId = none → S.craLlmEnabled = false →
      (classify ticket).needsRefundReview = true → e.payload = some ticket →
      eb.payload = some b → eb.correlationId = e.correlationId → er.payload = some r →
      er.correlationId = e.correlationId → Asks payload ticket b r billingData riskData →
      (invoke S E payload).outcome.toList =
        (shown e.correlationId (handleAll S (withLlm answer y)
          [(0, .ticket e), (1, .billingResult eb), (2, .riskResult er)] s.world)).map
            (·.outcome) := by
  intro h
  have hrun : (service sampleSettings).Run EventLoop.anyStep (start 0 1000) [] (start 0 1000) :=
    .nil
  let b : BillingRefundAnalysisCompletedPayload :=
    { sampleBilling "deny_refund" with usageLevel := "heavy" }
  have hsame := h sampleSettings sampleEntry 0 1000 [] (start 0 1000) grant (.ok none)
    (sampleTicket "refund please") refundEnvelope
    { eventId := 200, correlationId := 1, payload := some b }
    { eventId := 300, correlationId := 1, payload := some (sampleRisk "low") } b
    (sampleRisk "low") (sampleCall b (sampleRisk "low")) (billingDict b)
    (riskDict (sampleRisk "low")) hrun grant_granted grant_discovered rfl rfl (by decide +kernel) rfl rfl
    rfl rfl rfl (asks_sampleCall b (sampleRisk "low"))
  have hcall : (invoke sampleSettings sampleEntry (sampleCall b (sampleRisk "low"))).outcome.toList
      = [.escalateHuman] := by decide +kernel
  have hlive : liveOutcomes b (sampleRisk "low") = [.offerPartialCredit] := by decide +kernel
  have hdiff : [ResolutionOutcome.escalateHuman] = [.offerPartialCredit] :=
    hcall.symm.trans (hsame.trans hlive)
  cases hdiff

end RefundOps.Resolution
