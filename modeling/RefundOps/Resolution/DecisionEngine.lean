import Mathlib.Algebra.Order.Ring.Rat
import RefundOps.Resolution.ResponseDrafter

/-!
# The decision engine

`decide` of `decision_engine.py`: a pure, total function from the triage, the two findings and
the liveness status to the decision. The rows are tried in order and the first match wins; a
missing opinion is looked at before anything it could say.

The rows are written out as the source has them, each with its own payload. What the other
modules use is `decide_outcome`: the outcome is a table over eligibility and risk level
(`tableOutcome`), reached only when both findings are there, nothing is pending, nobody asked
for a review and the confidence is high enough; everything else escalates.
-/

set_option autoImplicit false

namespace RefundOps.Resolution

/-- The least of the confidences at hand, clamped to `[0, 1]`; a risk *score* counts as
    uncertainty. -/
def computeConfidence (triage : Option Triage) (billing : Option BillingFinding)
    (risk : Option RiskFinding) : ℚ :=
  let scores : List (Floating ℚ) :=
    (triage.map fun t => .fin t.confidence.val).toList ++
    (billing.bind (·.confidence)).toList ++
    ((risk.bind (·.score)).map .oneSub).toList
  match scores with
  | [] => 0
  | s :: rest => (rest.foldl .least s).clamp

/-- `billing.summary or f"eligibility={billing.eligibility}"`. -/
def billingSummaryOf (billing : BillingFinding) : String :=
  if billing.summary ≠ "" then billing.summary
  else "eligibility=" ++ billing.eligibility.value

def riskSummaryOf (risk : RiskFinding) : String :=
  if risk.summary ≠ "" then risk.summary else "level=" ++ risk.level.value

/-- `str` of the list of missing reviews. -/
def missingReviewsStr (reviews : List ReviewKind) : String :=
  "[" ++ Text.join ", " (reviews.map fun r => "'" ++ r.value ++ "'") ++ "]"

/-- An escalation with its reason. -/
def escalation (caseId : UUID) (ticketId customerId reason rationale : String)
    (hreason : reason ≠ "") (billingSummary riskSummary : Option String) :
    CustomerResponseDecisionPayload :=
  { caseId, ticketId, customerId
    outcome := .escalateHuman
    customerResponse := draftCustomerResponse .escalateHuman
    escalationReason := some reason
    billingSummary, riskSummary, rationale
    validateEscalationReason := fun _ => ⟨reason, rfl, hreason⟩ }

theorem peerFailure_ne_empty : "peer_failure" ≠ "" := by simp

/-- Only an escalation needs a reason. -/
theorem directResponse_needs_no_reason :
    ResolutionOutcome.directResponse = .escalateHuman →
      ∃ reason, (none : Option String) = some reason ∧ reason ≠ "" := by simp

def decide (triage : Triage) (billing : Option BillingFinding) (risk : Option RiskFinding)
    (timeoutStatus : Option TimeoutStatus) (caseId : Option UUID) (ticketId customerId : String) :
    CustomerResponseDecisionPayload :=
  let cid := caseId.getD 0
  -- row 0: not a refund ticket
  if !triage.needsRefundReview then
    { caseId := cid, ticketId, customerId
      outcome := .directResponse
      customerResponse := draftCustomerResponse .directResponse
      rationale := triage.rationale
      validateEscalationReason := directResponse_needs_no_reason }
  -- row 1: an analysis is missing or timed out
  else if (timeoutStatus.map (·.anyMissing)).getD false then
    let reviews := (timeoutStatus.map (·.missingReviews)).getD []
    if (timeoutStatus.map (·.deadlineExceeded)).getD false then
      escalation cid ticketId customerId "analysis_timeout"
        ("Missing analysis: " ++ missingReviewsStr reviews) (by simp) none none
    else
      escalation cid ticketId customerId "missing_analysis"
        ("Missing analysis: " ++ missingReviewsStr reviews) (by simp) none none
  else
    match billing, risk with
    | some b, some r =>
        let billingSummary := some (billingSummaryOf b)
        let riskSummary := some (riskSummaryOf r)
        let confidence := computeConfidence (some triage) (some b) (some r)
        -- row 2: a failed slot, or a peer that asks for a human
        if b.failed || r.failed then
          escalation cid ticketId customerId "peer_failure" "Peer analysis failed"
            peerFailure_ne_empty billingSummary riskSummary
        else if b.requiresHumanReview || r.requiresHumanReview then
          escalation cid ticketId customerId "peer_requested_review" "Peer requested human review"
            (by simp) billingSummary riskSummary
        -- row 3: low confidence
        else if confidence < confidenceThreshold then
          escalation cid ticketId customerId "low_confidence"
            ("Confidence " ++ Text.fixed 2 confidence ++ " below threshold " ++
              Text.floatStr confidenceThreshold) (by simp) billingSummary riskSummary
        -- row 4: approve
        else if b.eligibility = .eligible ∧ r.level = .low then
          { caseId := cid, ticketId, customerId
            outcome := .approveRefund
            customerResponse := draftCustomerResponse .approveRefund
            billingSummary, riskSummary
            rationale := "Eligible for refund; low risk" }
        -- row 5: deny
        else if b.eligibility = .ineligible ∧ (r.level = .elevated ∨ r.level = .high) then
          { caseId := cid, ticketId, customerId
            outcome := .denyRefund
            customerResponse := draftCustomerResponse .denyRefund
            billingSummary, riskSummary
            rationale := "Ineligible for refund; elevated/high risk" }
        -- row 6: partial credit
        else if b.eligibility = .partially ∧ (r.level = .low ∨ r.level = .elevated) then
          { caseId := cid, ticketId, customerId
            outcome := .offerPartialCredit
            customerResponse := draftCustomerResponse .offerPartialCredit
            billingSummary, riskSummary
            rationale := "Partial eligibility; acceptable risk" }
        -- row 7: more information
        else if b.eligibility = .indeterminate then
          { caseId := cid, ticketId, customerId
            outcome := .requestMoreInformation
            customerResponse := draftCustomerResponse .requestMoreInformation
            billingSummary, riskSummary
            rationale := "Billing analysis inconclusive" }
        -- row 8: what is left is a conflict
        else
          escalation cid ticketId customerId "conflicting_analyses"
            ("Conflicting: billing=" ++ b.eligibility.value ++ ", risk=" ++ r.level.value)
            (by simp) billingSummary riskSummary
    | _, _ =>
        escalation cid ticketId customerId "missing_analysis"
          "Required analysis result is missing" (by simp) none none

/-! ## What the rows say -/

/-- Rows 4 to 8, the outcome only. -/
def tableOutcome : Eligibility → Level → ResolutionOutcome
  | .eligible, .low => .approveRefund
  | .ineligible, .elevated => .denyRefund
  | .ineligible, .high => .denyRefund
  | .partially, .low => .offerPartialCredit
  | .partially, .elevated => .offerPartialCredit
  | .indeterminate, _ => .requestMoreInformation
  | _, _ => .escalateHuman

/-- Rows 2 to 8 on two findings, the outcome only. -/
def jointOutcome (triage : Triage) (b : BillingFinding) (r : RiskFinding) : ResolutionOutcome :=
  if b.requiresHumanReview = true ∨ r.requiresHumanReview = true then .escalateHuman
  else if computeConfidence (some triage) (some b) (some r) < confidenceThreshold then
    .escalateHuman
  else tableOutcome b.eligibility r.level

/-- The confidence is below a threshold when one of the values at hand is. -/
theorem computeConfidence_lt {t : Triage} {b : BillingFinding} {r : RiskFinding} {c : ℚ}
    (hpos : 0 < c) (hone : c ≤ 1) :
    computeConfidence (some t) (some b) (some r) < c ↔
      t.confidence.val < c ∨ (∃ x, b.confidence = some x ∧ x < .fin c) ∨
        ∃ s, r.score = some s ∧ .fin (1 - c) < s := by
  unfold computeConfidence
  simp only [Option.map_some, Option.bind_some, Option.toList_some, List.cons_append,
    List.nil_append]
  rw [Floating.clamp_lt_iff hpos hone, Floating.foldl_least_lt_iff (by simp), Floating.fin_lt_fin]
  simp only [List.mem_append, Option.mem_toList, or_and_right, exists_or, Option.map_eq_some_iff,
    exists_exists_and_eq_and, Floating.oneSub_lt_iff]

theorem threshold_pos : 0 < confidenceThreshold := by norm_num [confidenceThreshold]

theorem threshold_le_one : confidenceThreshold ≤ 1 := by norm_num [confidenceThreshold]

theorem one_sub_threshold : 1 - confidenceThreshold = 4 / 10 := by norm_num [confidenceThreshold]

/-- The confidence of a case reads one number of each finding. -/
theorem computeConfidence_congr {triage : Option Triage} {b b' : BillingFinding} {r r' : RiskFinding}
    (hb : b.confidence = b'.confidence) (hr : r.score = r'.score) :
    computeConfidence triage (some b) (some r) = computeConfidence triage (some b') (some r') := by
  simp only [computeConfidence, Option.bind_some, hb, hr]

/-- The outcome reads three fields of each finding. -/
theorem jointOutcome_congr {triage : Triage} {b b' : BillingFinding} {r r' : RiskFinding}
    (he : b.eligibility = b'.eligibility) (hb : b.requiresHumanReview = b'.requiresHumanReview)
    (hc : b.confidence = b'.confidence) (hl : r.level = r'.level)
    (hr : r.requiresHumanReview = r'.requiresHumanReview) (hs : r.score = r'.score) :
    jointOutcome triage b r = jointOutcome triage b' r' := by
  unfold jointOutcome
  rw [he, hb, hl, hr, computeConfidence_congr hc hs]

section Rows

variable {triage : Triage} {billing : Option BillingFinding} {risk : Option RiskFinding}
  {ts : TimeoutStatus} {caseId : Option UUID} {ticketId customerId : String}

theorem decide_customerResponse :
    (decide triage billing risk (some ts) caseId ticketId customerId).customerResponse =
      draftCustomerResponse
        (decide triage billing risk (some ts) caseId ticketId customerId).outcome := by
  unfold decide
  dsimp only
  split
  · rfl
  split
  · split <;> rfl
  split
  · repeat' split
    all_goals rfl
  · rfl

/-- Without a liveness status nothing counts as missing. -/
theorem decide_outcome_of {status : Option TimeoutStatus} (hn : triage.needsRefundReview = true) :
    (decide triage billing risk status caseId ticketId customerId).outcome =
      if (status.map (·.anyMissing)).getD false = true then .escalateHuman
      else match billing, risk with
        | some b, some r => jointOutcome triage b r
        | _, _ => .escalateHuman := by
  unfold decide
  simp only [hn, Bool.not_true, Bool.false_eq_true, if_false]
  split
  · split <;> rfl
  · cases billing with
    | none => rfl
    | some b =>
      cases risk with
      | none => rfl
      | some r =>
        simp only [BillingFinding.failed, RiskFinding.failed, Bool.or_self, Bool.false_eq_true,
          if_false, Bool.or_eq_true, jointOutcome]
        split
        · rfl
        split
        · rfl
        -- the findings decide: one row for each pair
        cases b.eligibility <;> cases r.level <;> rfl

theorem decide_outcome (hn : triage.needsRefundReview = true) :
    (decide triage billing risk (some ts) caseId ticketId customerId).outcome =
      if ts.anyMissing = true then .escalateHuman
      else match billing, risk with
        | some b, some r => jointOutcome triage b r
        | _, _ => .escalateHuman :=
  decide_outcome_of hn

/-- A decision that is not an escalation was taken on two findings with nothing pending. -/
theorem decide_resolved (hn : triage.needsRefundReview = true)
    (h : (decide triage billing risk (some ts) caseId ticketId customerId).outcome ≠
      .escalateHuman) :
    ts.anyMissing = false ∧ ∃ b r, billing = some b ∧ risk = some r := by
  rw [decide_outcome hn] at h
  cases hm : ts.anyMissing with
  | true => rw [hm, if_pos rfl] at h; exact absurd rfl h
  | false =>
    rw [hm, if_neg Bool.false_ne_true] at h
    refine ⟨rfl, ?_⟩
    cases billing with
    | none => exact absurd rfl h
    | some b =>
      cases risk with
      | none => exact absurd rfl h
      | some r => exact ⟨b, r, rfl, rfl⟩

end Rows

/-- The pairs that are approved. -/
theorem jointOutcome_approve {triage : Triage} {b : BillingFinding} {r : RiskFinding}
    (h : jointOutcome triage b r = .approveRefund) :
    b.eligibility = .eligible ∧ r.level = .low ∧ b.requiresHumanReview = false ∧
      r.requiresHumanReview = false ∧
      confidenceThreshold ≤ computeConfidence (some triage) (some b) (some r) := by
  unfold jointOutcome at h
  split at h
  · exact absurd h (by decide)
  split at h
  · exact absurd h (by decide)
  rename_i hrev hconf
  simp only [not_or, Bool.not_eq_true] at hrev
  have htable : b.eligibility = .eligible ∧ r.level = .low := by
    cases hb : b.eligibility <;> cases hr : r.level <;> rw [hb, hr] at h <;>
      first | exact ⟨rfl, rfl⟩ | exact absurd h (by decide)
  exact ⟨htable.1, htable.2, hrev.1, hrev.2, not_lt.mp hconf⟩

end RefundOps.Resolution
