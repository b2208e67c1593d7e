import RefundOps.Billing.Service
import RefundOps.Risk.Service
import RefundOps.Resolution.Properties.ArrivalOrder

/-!
# From the facts to the decision

The two peers and the resolution agent in one piece: the facts of a purchase through the refund
rules and the signals of a customer through the fraud score, each published as a domain result,
read by its handler, and decided on.

The recommendation crosses the wire as a word. `eligibilityOf_value` and `levelOf_value` say what
the handlers make of the words the peers use; with `evaluate_ruling` and `assessSignals_assessed`
that gives the findings in terms of the facts. The approval is then safe in every run of the
agent, whatever else happens to the case: the two findings it rests on are those of the peers
(`published_soundly`).

A partial credit is not. The billing handler takes a denial at heavy usage for a denial *because
of* heavy usage, but a purchase can be out of the window, unpaid or reversed as well.
-/

set_option autoImplicit false

namespace RefundOps.Resolution

open Billing (BillingFacts RefundEligibilityRequest BillingNarrative)
open Risk (RiskSignals RiskAssessmentRequest FraudPolicy RiskNarrative)

/-! ## The words on the wire -/

theorem eligibilityOf_value (r : Billing.Recommendation) :
    eligibilityOf (Text.lower r.value) = match r with
      | .approveFullRefund => .eligible
      | .approvePartialRefund => .partially
      | .denyRefund => .ineligible
      | .requestMoreInformation => .indeterminate
      | .manualReview => .indeterminate := by
  cases r <;> decide +kernel

def levelFor : Risk.RiskLevel → Level
  | .low => .low
  | .elevated => .elevated
  | .high => .high

theorem levelOf_value (l : Risk.RiskLevel) : levelOf (Text.lower l.value) = some (levelFor l) := by
  cases l <;> decide +kernel

/-! ## The findings of the peers -/

section Findings

variable {clock : Time} {facts : BillingFacts} {request : RefundEligibilityRequest}
  {narrative : Option BillingNarrative} {signals : RiskSignals}
  {riskRequest : RiskAssessmentRequest} {policy : Option FraudPolicy}
  {riskNarrative : Option RiskNarrative} {t : UUID}

theorem billingFinding_eligible
    (h : (billingFinding (Billing.analysis clock facts request narrative) t).eligibility =
      .eligible) :
    (Billing.evaluate clock facts request).recommendation = .approveFullRefund := by
  simp only [billingFinding, Billing.analysis, Billing.buildResultPayload,
    eligibilityOf_value] at h
  cases hr : (Billing.evaluate clock facts request).recommendation with
  | approveFullRefund => rfl
  | approvePartialRefund | denyRefund | requestMoreInformation | manualReview =>
    rw [hr] at h
    dsimp only at h
    split at h <;> cases h

theorem billingFinding_partially_iff :
    (billingFinding (Billing.analysis clock facts request narrative) t).eligibility = .partially ↔
      (Billing.evaluate clock facts request).recommendation = .denyRefund ∧
        (Billing.evaluate clock facts request).usageLevel = "heavy" := by
  simp only [billingFinding, Billing.analysis, Billing.buildResultPayload, eligibilityOf_value]
  cases hr : (Billing.evaluate clock facts request).recommendation with
  | denyRefund => simp
  | approvePartialRefund => exact absurd hr Billing.evaluate_ne_partial
  | approveFullRefund | requestMoreInformation | manualReview => simp

theorem riskFinding_level :
    (riskFinding (Risk.review signals riskRequest policy riskNarrative) t).level =
      levelFor (Risk.assessSignals signals riskRequest policy).riskLevel := by
  simp [riskFinding, Risk.review, Risk.toResultPayload, levelOf_value]

/-- A finding of risk that does not alarm is one of cleared signals. -/
theorem riskFinding_highRisk_iff :
    (riskFinding (Risk.review signals riskRequest policy riskNarrative) t).highRisk = false ↔
      Risk.Cleared signals riskRequest := by
  rw [← Risk.assessSignals_low_iff signals riskRequest policy]
  have hreview : (riskFinding (Risk.review signals riskRequest policy riskNarrative) t).requiresHumanReview =
      (Risk.assessSignals signals riskRequest policy).requiresHumanReview := rfl
  rw [RiskFinding.highRisk, riskFinding_level, hreview]
  cases (Risk.assessSignals signals riskRequest policy).riskLevel <;> simp [levelFor]

end Findings

/-! ## Approvals -/

/-- What has to be true of a purchase and of its customer for the refund to be approved. -/
structure SafeApproval (clock : Time) (facts : BillingFacts) (signals : RiskSignals)
    (riskRequest : RiskAssessmentRequest) : Prop where
  purchase : ∃ i p, facts.invoice = some i ∧ facts.payment = some p ∧
    (clock - i.issuedAt) / microsPerDay ≤ 30 ∧ i.paid = true ∧ p.captured = true ∧
    (0 < p.amount → p.reversedAmount ≤ 0)
  matched : (Billing.checkEntitlement facts).mismatch = false
  undelivered : ∀ e, facts.entitlement = some e → e.delivered = false
  usage : Billing.usageRatio facts.usage ≤ 8 / 10
  unlisted : ∀ f, signals.knownFraud = some f → f.onBlocklist = false
  ordinary : ∀ a, signals.accountStanding = some a → a.segment ≠ .vip ∧ a.segment ≠ .enterprise
  coherent : Risk.isContradiction signals = false
  score : Risk.score signals riskRequest < 5 / 10

theorem safeApproval_of_verdicts {clock : Time} {facts : BillingFacts} {signals : RiskSignals}
    {riskRequest : RiskAssessmentRequest} {i : Billing.Invoice} {p : Billing.Payment}
    (ha : Billing.Approvable clock facts i p) (hc : Risk.Cleared signals riskRequest) :
    SafeApproval clock facts signals riskRequest := by
  refine
    { purchase := ⟨i, p, ha.consistent.hasInvoice, ha.consistent.hasPayment, ?_,
        ha.refundable.paid, ha.refundable.captured, ha.unreversed⟩
      matched := ha.matched, undelivered := ?_, usage := ha.light, unlisted := ?_,
      ordinary := ?_, coherent := hc.ungated.coherent, score := hc.score }
  · exact of_decide_eq_true ha.refundable.within
  · intro e he
    have hd := ha.undelivered
    unfold Billing.delivered at hd
    rwa [he] at hd
  · intro f hf
    have hb := hc.ungated.unlisted
    unfold Risk.blocklisted at hb
    rwa [hf] at hb
  · intro a has
    have ho := hc.ungated.ordinary
    unfold Risk.highValueAccount at ho
    rw [has] at ho
    dsimp only at ho
    split at ho
    · cases ho
    · rename_i hseg
      exact not_or.mp hseg

/-- The billing results of the case `k` that a run has received are the analysis of `facts`. -/
def BillingResultsFrom (clock : Time) (facts : BillingFacts) (request : RefundEligibilityRequest)
    (k : UUID) (tr : Trace) : Prop :=
  ∀ e payload, (LoopId.billing, Obs.received (.billingResult e)) ∈ tr → e.correlationId = k →
    e.payload = some payload → ∃ narrative, payload = Billing.analysis clock facts request narrative

/-- The risk results of the case `k` that a run has received are the review of `signals`. -/
def RiskResultsFrom (signals : RiskSignals) (request : RiskAssessmentRequest)
    (policy : Option FraudPolicy) (k : UUID) (tr : Trace) : Prop :=
  ∀ e payload, (LoopId.risk, Obs.received (.riskResult e)) ∈ tr → e.correlationId = k →
    e.payload = some payload → ∃ narrative, payload = Risk.review signals request policy narrative

/-- **Approval safety.** In every run of the resolution agent, with the results of a case in any
    order and any number: if the peers made them of these facts and signals and a refund is
    approved, it is safe to approve. -/
theorem approval_is_safe {S : Settings} {now : Time} {nextId : UUID} {tr : Trace} {s : State}
    (hrun : (service S).Run EventLoop.anyStep (start now nextId) tr s) {before after : Trace}
    {i : LoopId} {ev : OutEvent} {d : CustomerResponseDecisionPayload}
    (htr : tr = before ++ (i, Obs.published ev) :: after)
    (hd : ev.payload = .resolutionDecided d) (happroved : d.outcome = .approveRefund)
    {clock : Time} {facts : BillingFacts} {request : RefundEligibilityRequest}
    (hbilling : BillingResultsFrom clock facts request ev.correlationId before)
    {signals : RiskSignals} {riskRequest : RiskAssessmentRequest} {policy : Option FraudPolicy}
    (hrisk : RiskResultsFrom signals riskRequest policy ev.correlationId before) :
    SafeApproval clock facts signals riskRequest := by
  have hauto : Automatic d.outcome := by simp [Automatic, happroved]
  obtain ⟨earlier, later, c, at_, t, b, r, rfl, hsound⟩ := published_soundly hrun htr hd hauto
  obtain ⟨heligible, hlow, -, hreview, -⟩ :=
    jointOutcome_approve (hsound.outcome.symm.trans happroved)
  -- the two findings are those of results the run has received before
  obtain ⟨bt, -, -, -, eb, pb, heb, hkb, rfl, hrecb, -⟩ := hsound.billing
  obtain ⟨rt, -, -, -, er, pr, her, hkr, rfl, hrecr, -⟩ := hsound.risk
  obtain ⟨n, rfl⟩ := hbilling eb pb (List.mem_append_left _ hrecb) hkb heb
  obtain ⟨rn, rfl⟩ := hrisk er pr (List.mem_append_left _ hrecr) hkr her
  obtain ⟨i, p, happrovable⟩ := Billing.evaluate_approve (billingFinding_eligible heligible)
  have hquiet : (riskFinding (Risk.review signals riskRequest policy rn) rt).highRisk = false := by
    simp [RiskFinding.highRisk, hlow, hreview]
  exact safeApproval_of_verdicts happrovable (riskFinding_highRisk_iff.mp hquiet)

/-! ### A purchase and a customer -/

/-- An invoice of the epoch, paid and captured, with `units` of 100 used. -/
def sampleFacts (units : ℚ) : BillingFacts :=
  { subscription := some
      { subscriptionId := "SUB-1", status := .cancelled, term := .monthly, startedAt := 0 }
    invoice := some
      { invoiceId := "INV-1", purchaseReference := "P-1", amount := 100, currency := "USD"
        issuedAt := 0, paid := true }
    payment := some
      { paymentId := "PAY-1", invoiceId := "INV-1", captured := true, amount := 100
        reversedAmount := 0 }
    entitlement := some
      { entitlementId := "ENT-1", subscriptionId := "SUB-1", status := .active
        delivered := false, accessGranted := true }
    usage := some { usageUnits := units, allotmentUnits := 100 } }

def sampleEligibilityRequest : RefundEligibilityRequest :=
  { caseId := 1, ticketId := "T-1", customerId := "C-1"
    requestedRefundAmount := ⟨100, by norm_num⟩, purchaseReference := "P-1" }

def sampleSignals : RiskSignals :=
  { customerId := "C-1"
    accountStanding := some { customerId := "C-1", tenureDays := 400 }
    refundHistory := some { customerId := "C-1" }
    paymentInstrument := some { customerId := "C-1" }
    behavioral := some { customerId := "C-1" }
    knownFraud := some { customerId := "C-1" } }

theorem sampleTicketId_nonempty : "T-1" ≠ "" := by decide

theorem sampleCustomerId_nonempty : "C-1" ≠ "" := by decide

def sampleRiskRequest : RiskAssessmentRequest :=
  { caseId := 1, ticketId := "T-1", customerId := "C-1"
    ticketIdNonempty := sampleTicketId_nonempty, customerIdNonempty := sampleCustomerId_nonempty }

/-- The analysis of the purchase, `days` after the invoice. -/
def analysisEnvelope (days : Int) (units : ℚ) : Inbound BillingRefundAnalysisCompletedPayload :=
  { eventId := 200, correlationId := 1
    payload := some (Billing.analysis (days * microsPerDay) (sampleFacts units)
      sampleEligibilityRequest none) }

def reviewEnvelope : Inbound RiskReviewCompletedPayload :=
  { eventId := 300, correlationId := 1
    payload := some (Risk.review sampleSignals sampleRiskRequest none none) }

def peersSchedule : Schedule :=
  delegationSchedule ++
    [.deliver (.riskResult reviewEnvelope), .answer .risk grant,
      .deliver (.billingResult (analysisEnvelope 5 10)), .answer .billing grant,
      .answer .billing grant]

def billingReceived : LoopId × Obs → Option (Inbound BillingRefundAnalysisCompletedPayload)
  | (_, .received (.billingResult e)) => some e
  | _ => none

def riskReceived : LoopId × Obs → Option (Inbound RiskReviewCompletedPayload)
  | (_, .received (.riskResult e)) => some e
  | _ => none

theorem approval_is_safe_sample :
    ∃ tr s before i ev d, (service sampleSettings).Run EventLoop.anyStep (start 0 1000) tr s ∧
      tr = before ++ [(i, Obs.published ev)] ∧ ev.payload = .resolutionDecided d ∧
      d.outcome = .approveRefund ∧
      SafeApproval (5 * microsPerDay) (sampleFacts 10) sampleSignals sampleRiskRequest := by
  have hexec : (((service sampleSettings).exec peersSchedule (start 0 1000)).map fun out =>
      (out.1.getLast?.map (decides .approveRefund))) = some (some true) := by decide +kernel
  have hreceived : (((service sampleSettings).exec peersSchedule (start 0 1000)).map fun out =>
      (out.1.filterMap billingReceived, out.1.filterMap riskReceived)) =
      some ([analysisEnvelope 5 10], [reviewEnvelope]) := by with_unfolding_all rfl
  obtain ⟨⟨tr, s⟩, hout, heq⟩ := Option.map_eq_some_iff.mp hexec
  rw [hout] at hreceived
  simp only [Option.map_some, Option.some.injEq, Prod.mk.injEq] at hreceived
  obtain ⟨hb, hr⟩ := hreceived
  obtain ⟨o, hlast, hdecides⟩ := Option.map_eq_some_iff.mp heq
  obtain ⟨i, ev, d, rfl, hd, happroved⟩ := exists_of_decides hdecides
  obtain ⟨before, rfl⟩ := List.getLast?_eq_some_iff.mp hlast
  have hbilling : BillingResultsFrom (5 * microsPerDay) (sampleFacts 10) sampleEligibilityRequest
      ev.correlationId before := by
    intro e payload hrec _ hpayload
    have hmem : e ∈ [analysisEnvelope 5 10] :=
      hb ▸ List.mem_filterMap.mpr ⟨_, List.mem_append_left _ hrec, rfl⟩
    obtain rfl := List.mem_singleton.mp hmem
    exact ⟨none, (Option.some.inj hpayload).symm⟩
  have hrisk : RiskResultsFrom sampleSignals sampleRiskRequest none ev.correlationId before := by
    intro e payload hrec _ hpayload
    have hmem : e ∈ [reviewEnvelope] :=
      hr ▸ List.mem_filterMap.mpr ⟨_, List.mem_append_left _ hrec, rfl⟩
    obtain rfl := List.mem_singleton.mp hmem
    exact ⟨none, (Option.some.inj hpayload).symm⟩
  have hrun := EventLoop.Run.of_exec (G := EventLoop.anyStep) hout fun _ _ _ => trivial
  exact ⟨_, s, before, i, ev, d, hrun, rfl, hd, happroved,
    approval_is_safe hrun rfl hd happroved hbilling hrisk⟩

/-! ## Partial credit -/

/-- A case that waits for both opinions: whichever comes first, an outcome that is neither an
    escalation nor a denial is published exactly if the risk does not alarm and the two findings
    lead to it. -/
theorem awaited_outcomes {t : Triage} {bt rt : UUID} {pending : Finset UUID}
    {risk : Option RiskFinding} {failed : Prop} {x : ResolutionCase}
    {b : BillingRefundAnalysisCompletedPayload} {r : RiskReviewCompletedPayload}
    (h : Open t bt rt pending none risk failed x) (hsub : pending ⊆ {rt, bt}) (hne : bt ≠ rt)
    (hb : bt ∈ pending) (hr : rt ∈ pending) (now : Time) {o : ResolutionOutcome}
    (hesc : o ≠ .escalateHuman) (hdeny : o ≠ .denyRefund) :
    ∃ d₁ d₂, billingFirst x bt rt b r now = [d₁] ∧ riskFirst x bt rt b r now = [d₂] ∧
      (d₁.outcome = o ↔ ¬ failed ∧ (riskFinding r rt).highRisk = false ∧
        jointOutcome t (billingFinding b bt) (riskFinding r rt) = o) ∧
      (d₂.outcome = o ↔ ¬ failed ∧ (riskFinding r rt).highRisk = false ∧
        jointOutcome t (billingFinding b bt) (riskFinding r rt) = o) := by
  obtain ⟨d₁, hd₁, hfailed₁, -, hfast₁, hslow₁⟩ :=
    billingFirst_outcome (b := b) (r := r) h hsub hne now
  obtain ⟨d₂, hd₂, hfast₂, hfailed₂, -, hslow₂⟩ :=
    riskFirst_outcome (b := b) (r := r) h hsub hne now
  refine ⟨d₁, d₂, hd₁, hd₂, ?_, ?_⟩
  · simp only [if_pos hb, denied_some] at hfast₁ hslow₁
    by_cases hf : failed
    · rw [hfailed₁ hr hf]
      exact iff_of_false (Ne.symm hesc) fun hc => hc.1 hf
    · cases hg : (riskFinding r rt).highRisk with
      | false =>
        rw [hslow₁ hr hf (by simp [hg]), resolve]
        simp [hf]
      | true =>
        refine iff_of_false ?_ (by simp)
        by_cases hden : (billingFinding b bt).eligibility = .ineligible
        · rw [hslow₁ hr hf (by simp [hden]), resolve]
          intro ho
          -- an ineligible request is denied or escalated
          unfold jointOutcome at ho
          rw [hden] at ho
          split at ho
          · exact hesc ho.symm
          split at ho
          · exact hesc ho.symm
          cases hl : (riskFinding r rt).level <;> rw [hl] at ho
          · exact hesc ho.symm
          · exact hdeny ho.symm
          · exact hdeny ho.symm
        · rw [hfast₁ hr hf ⟨hg, hden⟩]
          exact Ne.symm hesc
  · have hopen : ¬ Denied none := by simp [Denied]
    simp only [if_pos hr] at hslow₂
    cases hg : (riskFinding r rt).highRisk with
    | true =>
      rw [hfast₂ ⟨hg, hopen⟩]
      exact iff_of_false (Ne.symm hesc) (by simp)
    | false =>
      by_cases hf : failed
      · rw [hfailed₂ (by simp [hg]) hb hf]
        exact iff_of_false (Ne.symm hesc) fun hc => hc.1 hf
      · rw [hslow₂ (by simp [hg]) hb hf, resolve]
        simp [hf]

/-- The pairs that get a partial credit. -/
theorem jointOutcome_partial_iff {t : Triage} {b : BillingFinding} {r : RiskFinding} :
    jointOutcome t b r = .offerPartialCredit ↔
      b.requiresHumanReview = false ∧ r.requiresHumanReview = false ∧
        confidenceThreshold ≤ computeConfidence (some t) (some b) (some r) ∧
        b.eligibility = .partially ∧ r.level ≠ .high := by
  unfold jointOutcome
  split
  · rename_i hreview
    refine iff_of_false (by decide) ?_
    rintro ⟨hb, hr, -⟩
    simp [hb, hr] at hreview
  rename_i hreview
  simp only [not_or, Bool.not_eq_true] at hreview
  split
  · rename_i hlow
    refine iff_of_false (by decide) ?_
    rintro ⟨-, -, hconf, -⟩
    exact absurd hconf (not_le.mpr hlow)
  · rename_i hlow
    simp only [hreview.1, hreview.2, not_lt.mp hlow, true_and]
    cases b.eligibility <;> cases r.level <;> decide

/-- The decision is confident enough if the triage and both peers are. -/
theorem confident_iff {t : Triage} {b : BillingRefundAnalysisCompletedPayload}
    {r : RiskReviewCompletedPayload} {bt rt : UUID} :
    confidenceThreshold ≤
        computeConfidence (some t) (some (billingFinding b bt)) (some (riskFinding r rt)) ↔
      confidenceThreshold ≤ t.confidence.val ∧ confidenceThreshold ≤ b.confidence.val ∧
        confidenceThreshold ≤ r.confidence.val := by
  have hbilling : (∃ x, (billingFinding b bt).confidence = some x ∧ x < .fin confidenceThreshold) ↔
      b.confidence.val < confidenceThreshold := by
    simp [billingFinding]
  have hrisk : (∃ s, (riskFinding r rt).score = some s ∧ .fin (1 - confidenceThreshold) < s) ↔
      r.confidence.val < confidenceThreshold := by
    rw [← not_le, ← Floating.fin_le_fin, ← certain_iff threshold_pos threshold_le_one, not_not]
    simp [riskFinding]
  rw [← not_lt, computeConfidence_lt threshold_pos threshold_le_one, hbilling, hrisk]
  simp only [not_or, not_lt]

/-- A partial credit is due: the billing agent recommended one, or denied the refund for its
    usage and not for the window or the payment. -/
def CreditWarranted (r : Billing.EligibilityRecommendation) : Prop :=
  (r.recommendation = .approvePartialRefund ∨
    r.recommendation = .denyRefund ∧ "RP-004" ∈ r.policyReferences) ∧
  ¬ (r.recommendation = .denyRefund ∧
    ("RP-001" ∈ r.policyReferences ∨ "RP-002" ∈ r.policyReferences))

/-- Every partial credit among the decisions is due. -/
def CreditsWarranted (r : Billing.EligibilityRecommendation)
    (ds : List CustomerResponseDecisionPayload) : Prop :=
  ∀ d ∈ ds, d.outcome = .offerPartialCredit → CreditWarranted r

/-- A hard denial that passes for one of heavy usage, with nothing else in the way of a
    credit. -/
structure MistakenForUsage (clock : Time) (facts : BillingFacts) (signals : RiskSignals)
    (riskRequest : RiskAssessmentRequest) (t : Triage) (x : ResolutionCase) : Prop where
  denied : Billing.HardDenied clock facts
  heavy : 8 / 10 < Billing.usageRatio facts.usage
  cleared : Risk.Cleared signals riskRequest
  confident : confidenceThreshold ≤ t.confidence.val
  unfailed : ¬ x.slotFailed

section Credit

variable {clock : Time} {facts : BillingFacts} {request : RefundEligibilityRequest}
  {narrative : Option BillingNarrative} {signals : RiskSignals}
  {riskRequest : RiskAssessmentRequest} {policy : Option FraudPolicy}
  {riskNarrative : Option RiskNarrative} {t : Triage} {bt rt : UUID} {x : ResolutionCase}

/-- What a partial credit says about the facts and the signals. -/
theorem creditOffered_iff :
    let f := billingFinding (Billing.analysis clock facts request narrative) bt
    let g := riskFinding (Risk.review signals riskRequest policy riskNarrative) rt
    (¬ x.slotFailed ∧ g.highRisk = false ∧ jointOutcome t f g = .offerPartialCredit) ↔
      ¬ x.slotFailed ∧ Risk.Cleared signals riskRequest ∧
        confidenceThreshold ≤ t.confidence.val ∧
        (Billing.evaluate clock facts request).recommendation = .denyRefund ∧
        (Billing.evaluate clock facts request).usageLevel = "heavy" := by
  intro f g
  rw [riskFinding_highRisk_iff, jointOutcome_partial_iff, billingFinding_partially_iff,
    confident_iff]
  constructor
  · rintro ⟨hf, hc, -, -, ⟨ht, -⟩, ⟨hdeny, hheavy⟩, -⟩
    exact ⟨hf, hc, ht, hdeny, hheavy⟩
  · rintro ⟨hf, hc, ht, hdeny, hheavy⟩
    obtain ⟨hreview, hconf⟩ := Billing.evaluate_deny hdeny
    obtain ⟨hlow, hquiet⟩ := (Risk.assessSignals_low_iff signals riskRequest policy).mpr hc
    refine ⟨hf, hc, hreview, hquiet, ⟨ht, hconf, ?_⟩, ⟨hdeny, hheavy⟩, ?_⟩
    · exact Risk.assessSignals_confidence riskRequest policy hc.ungated
    · rw [riskFinding_level, hlow]
      decide

/-- The one case in which a credit is not due. -/
theorem creditsWarranted_iff {d : CustomerResponseDecisionPayload}
    (h : d.outcome = .offerPartialCredit ↔
      ¬ x.slotFailed ∧ Risk.Cleared signals riskRequest ∧
        confidenceThreshold ≤ t.confidence.val ∧
        (Billing.evaluate clock facts request).recommendation = .denyRefund ∧
        (Billing.evaluate clock facts request).usageLevel = "heavy") :
    CreditsWarranted (Billing.evaluate clock facts request) [d] ↔
      ¬ MistakenForUsage clock facts signals riskRequest t x := by
  constructor
  · intro hcredits hm
    obtain ⟨hdeny, hlevel, hcited⟩ := Billing.evaluate_hardDenied request hm.denied
    have hheavy := hlevel.trans (Billing.usageLevel_eq_heavy_iff.mpr hm.heavy)
    have hoffered := h.mpr ⟨hm.unfailed, hm.cleared, hm.confident, hdeny, hheavy⟩
    obtain ⟨hdue, -⟩ := hcredits d (List.mem_singleton_self d) hoffered
    rcases hdue with hpart | ⟨-, hrp⟩
    · exact Billing.evaluate_ne_partial hpart
    · exact hcited hrp
  · intro hm d' hd' hoffered
    obtain rfl := List.mem_singleton.mp hd'
    obtain ⟨hf, hc, ht, hdeny, hheavy⟩ := h.mp hoffered
    have hsoft : ¬ Billing.HardDenied clock facts := by
      intro hhard
      obtain ⟨-, hlevel, -⟩ := Billing.evaluate_hardDenied request hhard
      have hratio := Billing.usageLevel_eq_heavy_iff.mp (hlevel.symm.trans hheavy)
      exact hm ⟨hhard, hratio, hc, ht, hf⟩
    obtain ⟨hrp, h₁, h₂⟩ := Billing.evaluate_deny_usage hdeny hsoft
    exact ⟨.inr ⟨hdeny, hrp⟩, fun hc => hc.2.elim h₁ h₂⟩

end Credit

/-- **Partial credit.** A case of a reachable state waits for both opinions; the peers give them
    and everything is published. Whichever comes first, a partial credit is due if and only if
    no hard denial is mistaken for one of usage. -/
theorem partial_credit_is_due_iff {S : Settings} {now : Time} {nextId : UUID} {tr : Trace}
    {s : State} (hrun : (service S).Run EventLoop.anyStep (start now nextId) tr s) {k : UUID}
    {x : ResolutionCase} {t : Triage} (hx : s.world.store.get k = some x)
    (hdelegated : x.billingTaskId.isSome) (hu : undecided x.status = true)
    (ht : x.triage = some t) (hne : billingTaskOf S k ≠ riskTaskOf S k)
    (hb : billingTaskOf S k ∈ x.pendingTasks) (hr : riskTaskOf S k ∈ x.pendingTasks)
    {clock : Time} {facts : BillingFacts} {request : RefundEligibilityRequest}
    {narrative : Option BillingNarrative} {signals : RiskSignals}
    {riskRequest : RiskAssessmentRequest} {policy : Option FraudPolicy}
    {riskNarrative : Option RiskNarrative}
    {eb : Inbound BillingRefundAnalysisCompletedPayload} {er : Inbound RiskReviewCompletedPayload}
    (heb : eb.payload = some (Billing.analysis clock facts request narrative))
    (hkb : eb.correlationId = k)
    (her : er.payload = some (Risk.review signals riskRequest policy riskNarrative))
    (hkr : er.correlationId = k) {answer : ∀ x, Reply x} (hg : Granted answer) :
    (CreditsWarranted (Billing.evaluate clock facts request)
        (shown k ((handleBillingFirst eb er).runSync answer s.world).1) ↔
      ¬ MistakenForUsage clock facts signals riskRequest t x) ∧
    (CreditsWarranted (Billing.evaluate clock facts request)
        (shown k ((handleRiskFirst eb er).runSync answer s.world).1) ↔
      ¬ MistakenForUsage clock facts signals riskRequest t x) := by
  obtain ⟨hs, hbt, hrt, -⟩ := stored_of_run hrun hx hdelegated
  obtain ⟨hopen, hsub, hnone⟩ := open_of_run hrun hx hdelegated hu ht
  rw [hnone hb] at hopen
  obtain ⟨d₁, d₂, hd₁, hd₂, hiff₁, hiff₂⟩ := awaited_outcomes
    (b := Billing.analysis clock facts request narrative)
    (r := Risk.review signals riskRequest policy riskNarrative) (o := .offerPartialCredit)
    hopen hsub hne hb hr s.world.now (by decide) (by decide)
  obtain ⟨a₁, os₁, w₁, hout₁, hshown₁⟩ := returns_billingFirst hg hs hbt hrt heb hkb her hkr
  obtain ⟨a₂, os₂, w₂, hout₂, hshown₂⟩ := returns_riskFirst hg hs hbt hrt heb hkb her hkr
  rw [hout₁, hout₂]
  refine ⟨?_, ?_⟩
  · rw [show shown k os₁ = [d₁] from hshown₁.trans hd₁]
    exact creditsWarranted_iff (hiff₁.trans creditOffered_iff)
  · rw [show shown k os₂ = [d₂] from hshown₂.trans hd₂]
    exact creditsWarranted_iff (hiff₂.trans creditOffered_iff)

theorem partial_credit_is_due_iff_sample :
    ∃ tr s x t, (service sampleSettings).Run EventLoop.anyStep (start 0 1000) tr s ∧
      s.world.store.get 1 = some x ∧ x.triage = some t ∧
      (CreditsWarranted
          (Billing.evaluate (40 * microsPerDay) (sampleFacts 90) sampleEligibilityRequest)
          (shown 1 ((handleBillingFirst (analysisEnvelope 40 90) reviewEnvelope).runSync grant
            s.world).1) ↔
        ¬ MistakenForUsage (40 * microsPerDay) (sampleFacts 90) sampleSignals sampleRiskRequest
          t x) := by
  obtain ⟨tr, s, x, hrun, hx, -⟩ := exists_delegated (fun _ => true) (by decide +kernel)
  obtain ⟨t, ht⟩ := Option.isSome_iff_exists.mp hx.triage
  exact ⟨tr, s, x, t, hrun, hx.stored, ht,
    (partial_credit_is_due_iff hrun hx.stored (Option.isSome_of_mem hx.billingTaskId)
      hx.undecided ht (by decide +kernel) hx.billingPending hx.riskPending rfl rfl rfl rfl
      grant_granted).1⟩

/-- A purchase 40 days old, denied by RP-001, gets a partial credit for its heavy usage. -/
theorem expired_purchase_gets_credit :
    ¬ ∀ (S : Settings) (now : Time) (nextId : UUID) (tr : Trace) (s : State) (k : UUID)
      (x : ResolutionCase) (clock : Time) (facts : BillingFacts)
      (request : RefundEligibilityRequest) (signals : RiskSignals)
      (riskRequest : RiskAssessmentRequest)
      (eb : Inbound BillingRefundAnalysisCompletedPayload)
      (er : Inbound RiskReviewCompletedPayload) (answer : ∀ x, Reply x),
      (service S).Run EventLoop.anyStep (start now nextId) tr s → s.Quiescent →
      s.world.store.get k = some x → undecided x.status = true →
      billingTaskOf S k ∈ x.pendingTasks → riskTaskOf S k ∈ x.pendingTasks →
      eb.payload = some (Billing.analysis clock facts request none) → eb.correlationId = k →
      er.payload = some (Risk.review signals riskRequest none none) → er.correlationId = k →
      Granted answer →
      CreditsWarranted (Billing.evaluate clock facts request)
          (shown k ((handleBillingFirst eb er).runSync answer s.world).1) ∧
        CreditsWarranted (Billing.evaluate clock facts request)
          (shown k ((handleRiskFirst eb er).runSync answer s.world).1) := by
  intro h
  obtain ⟨tr, s, x, hrun, hx, hcheck⟩ := exists_delegated
    (fun s => outcomesOf (handleBillingFirst (analysisEnvelope 40 90) reviewEnvelope) s ==
      [.offerPartialCredit]) (by decide +kernel)
  obtain ⟨hdue, -⟩ := h sampleSettings 0 1000 tr s 1 x (40 * microsPerDay) (sampleFacts 90)
    sampleEligibilityRequest sampleSignals sampleRiskRequest (analysisEnvelope 40 90)
    reviewEnvelope grant hrun hx.quiescent hx.stored hx.undecided hx.billingPending hx.riskPending
    rfl rfl rfl rfl grant_granted
  obtain ⟨d, hd, hoffered⟩ := List.mem_map.mp
    ((beq_iff_eq.mp hcheck).symm ▸ List.mem_singleton_self ResolutionOutcome.offerPartialCredit)
  obtain ⟨-, hhard⟩ := hdue d hd hoffered
  exact hhard (by decide +kernel)

end RefundOps.Resolution
