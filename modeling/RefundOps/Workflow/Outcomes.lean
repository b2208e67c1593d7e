import RefundOps.Billing.Properties.Reports
import RefundOps.Resolution.Properties.ModelOutput
import RefundOps.Workflow.Approvals

/-!
# What the datasets make of a ticket

The outcome of a case is looked up with two findings, and a finding is what is left of a verdict on its
way over a topic: a word, a confidence, a flag. `due_outcome` goes back to what the verdicts were about
and says the outcome in the words of the refund rules and of the fraud score, on the facts and the
signals that the two datasets have on record.
-/

set_option autoImplicit false

namespace RefundOps

/-! ## The rules -/

namespace Billing

variable {now : Time} {facts : BillingFacts} {request : RefundEligibilityRequest}

/-- The facts are complete and agree, and most of the product is used up. -/
def UsedUp (facts : BillingFacts) : Prop :=
  (∃ i p, Consistent facts i p) ∧ usageHeavyThreshold < usageRatio facts.usage

/-- A hard denial of a purchase that is not used up. -/
def DeniedUnused (now : Time) (facts : BillingFacts) : Prop :=
  HardDenied now facts ∧ usageRatio facts.usage ≤ usageHeavyThreshold

theorem evaluate_approve_iff :
    (evaluate now facts request).recommendation = .approveFullRefund ↔
      ∃ i p, Approvable now facts i p := by
  constructor
  · exact evaluate_approve
  · rintro ⟨i, p, h⟩
    rw [h.evaluate_eq request]
    rfl

/-- A denial is of consistent facts, and reports their usage. -/
theorem evaluate_deny_usageLevel
    (h : (evaluate now facts request).recommendation = .denyRefund) :
    (∃ i p, Consistent facts i p) ∧
      (evaluate now facts request).usageLevel = usageLevel (usageRatio facts.usage) := by
  have hruling := evaluate_ruling now facts request
  generalize evaluate now facts request = r at h hruling
  cases hruling with
  | expired hc | unpaid hc | uncaptured hc | reversed hc => exact ⟨⟨_, _, hc⟩, rfl⟩
  | heavyUsage hc _ hheavy =>
    refine ⟨⟨_, _, hc⟩, ?_⟩
    have hratio : usageHeavyThreshold < usageRatio facts.usage := of_decide_eq_true hheavy
    exact (usageLevel_eq_heavy_iff.mpr hratio).symm
  | missing | contradictory | approve | noRule => cases h

/-- The rules deny what is hard denied or used up. -/
theorem evaluate_deny_iff : (evaluate now facts request).recommendation = .denyRefund ↔
    HardDenied now facts ∨ UsedUp facts := by
  constructor
  · intro h
    have hruling := evaluate_ruling now facts request
    generalize evaluate now facts request = r at h hruling
    cases hruling with
    | expired hc hw => exact .inl ⟨_, _, hc, fun hr => by simp [hr.within] at hw⟩
    | unpaid hc _ hpaid => exact .inl ⟨_, _, hc, fun hr => by simp [hr.paid] at hpaid⟩
    | uncaptured hc _ _ hcap => exact .inl ⟨_, _, hc, fun hr => by simp [hr.captured] at hcap⟩
    | reversed hc _ _ _ hkept => exact .inl ⟨_, _, hc, fun hr => by simp [hr.kept] at hkept⟩
    | heavyUsage hc _ hheavy => exact .inr ⟨⟨_, _, hc⟩, of_decide_eq_true hheavy⟩
    | missing | contradictory | approve | noRule => cases h
  · rintro (hdenied | ⟨⟨i, p, hc⟩, hheavy⟩)
    · exact (evaluate_hardDenied request hdenied).1
    · by_cases hr : Refundable now i p
      · have hheavy' : isHeavyUsage facts.usage = true := decide_eq_true hheavy
        unfold evaluate
        rw [hc.hasInvoice, hc.hasPayment]
        simp [hc.agree, hr.within, hr.paid, hr.captured, hr.kept, hheavy', denyHeavyUsage, denial]
      · exact (evaluate_hardDenied request ⟨i, p, hc, hr⟩).1

/-- An approval asks for nobody, and is made with sufficient confidence. -/
theorem Approvable.confident {i : Invoice} {p : Payment} (h : Approvable now facts i p)
    (request : RefundEligibilityRequest) :
    (evaluate now facts request).requiresHumanReview = false ∧
      6 / 10 ≤ (evaluate now facts request).confidence.val := by
  rw [h.evaluate_eq request]
  refine ⟨rfl, ?_⟩
  unfold approve
  dsimp only
  split <;> norm_num

/-- What the rules cannot settle goes to a human. -/
theorem evaluate_unsettled
    (happrove : (evaluate now facts request).recommendation ≠ .approveFullRefund)
    (hdeny : (evaluate now facts request).recommendation ≠ .denyRefund) :
    (evaluate now facts request).requiresHumanReview = true := by
  have hruling := evaluate_ruling now facts request
  generalize evaluate now facts request = r at happrove hdeny hruling
  cases hruling with
  | missing | contradictory | noRule => rfl
  | approve => exact absurd rfl happrove
  | expired | unpaid | uncaptured | reversed | heavyUsage => exact absurd rfl hdeny

end Billing

/-! ## The score -/

namespace Risk

variable {signals : RiskSignals} {request : RiskAssessmentRequest}

/-- The customer is on the blocklist, or passes the gates with a score that nobody has to look at. -/
def Condemned (signals : RiskSignals) (request : RiskAssessmentRequest) : Prop :=
  blocklisted signals = true ∨
    Ungated signals ∧ elevatedThreshold ≤ score signals request ∧
      (hasChargeback signals = true → highThreshold ≤ score signals request)

theorem scoreToLevel_ne_low_iff {x : ℚ} : scoreToLevel x ≠ .low ↔ elevatedThreshold ≤ x := by
  rw [Ne, scoreToLevel_eq_low_iff, not_lt]

theorem scoreToLevel_eq_elevated_iff {x : ℚ} :
    scoreToLevel x = .elevated ↔ elevatedThreshold ≤ x ∧ x < highThreshold := by
  unfold scoreToLevel
  constructor
  · intro h
    split at h
    · cases h
    rename_i hhigh
    split at h
    · rename_i helevated
      exact ⟨helevated, not_le.mp hhigh⟩
    · cases h
  · rintro ⟨helevated, hhigh⟩
    rw [if_neg (not_le.mpr hhigh), if_pos helevated]

/-- **Raised risk without a review is given to the condemned, and to no others.** -/
theorem assessSignals_condemned_iff (policy : Option FraudPolicy) :
    ((assessSignals signals request policy).riskLevel ≠ .low ∧
      (assessSignals signals request policy).requiresHumanReview = false) ↔
      Condemned signals request := by
  have hpath := assessSignals_assessed signals request policy
  generalize assessSignals signals request policy = r at hpath
  cases hpath with
  | knownFraud h => exact iff_of_true ⟨nofun, rfl⟩ (.inl h)
  | highValue hb h =>
    refine iff_of_false (fun hrisk => absurd hrisk.2 nofun) ?_
    rintro (hlisted | ⟨hu, -⟩)
    · simp [hb] at hlisted
    · simp [hu.ordinary] at h
  | contradictory hb _ h =>
    refine iff_of_false (fun hrisk => absurd hrisk.2 nofun) ?_
    rintro (hlisted | ⟨hu, -⟩)
    · simp [hb] at hlisted
    · simp [hu.coherent] at h
  | noRiskSignal hu hf | noRuleMissingHistory hu hf =>
    refine iff_of_false (fun hrisk => hrisk.1 rfl) ?_
    rintro (hlisted | ⟨-, helevated, -⟩)
    · simp [hu.unlisted] at hlisted
    · rw [score_of_silent hf] at helevated
      norm_num [elevatedThreshold] at helevated
  | scored hu =>
    show (scoreToLevel (score signals request) ≠ .low ∧
      (hasChargeback signals && scoreToLevel (score signals request) == .elevated) = false) ↔ _
    rw [scoreToLevel_ne_low_iff]
    constructor
    · rintro ⟨helevated, hreview⟩
      refine .inr ⟨hu, helevated, fun hcharge => ?_⟩
      simp only [hcharge, Bool.true_and, beq_eq_false_iff_ne, ne_eq, scoreToLevel_eq_elevated_iff,
        not_and, not_lt] at hreview
      exact hreview helevated
    · rintro (hlisted | ⟨-, helevated, hcharge⟩)
      · simp [hu.unlisted] at hlisted
      · refine ⟨helevated, ?_⟩
        cases hc : hasChargeback signals with
        | false => rfl
        | true =>
          simp only [Bool.true_and, beq_eq_false_iff_ne, ne_eq, scoreToLevel_eq_elevated_iff,
            not_and, not_lt]
          exact fun _ => hcharge hc

theorem scoreToLevel_eq_high_iff {x : ℚ} : scoreToLevel x = .high ↔ highThreshold ≤ x := by
  unfold scoreToLevel
  constructor
  · intro h
    split at h
    · rename_i hhigh
      exact hhigh
    · split at h <;> cases h
  · exact fun h => if_pos h

/-- What is neither of high risk nor for a human has passed the gates, with a score below the high
    threshold. -/
theorem ungated_of_unreviewed (policy : Option FraudPolicy)
    (hlevel : (assessSignals signals request policy).riskLevel ≠ .high)
    (hreview : (assessSignals signals request policy).requiresHumanReview = false) :
    Ungated signals ∧ score signals request < highThreshold := by
  have hpath := assessSignals_assessed signals request policy
  generalize assessSignals signals request policy = r at hlevel hreview hpath
  cases hpath with
  | knownFraud => exact absurd rfl hlevel
  | highValue | contradictory => cases hreview
  | noRiskSignal hu hf | noRuleMissingHistory hu hf =>
    refine ⟨hu, ?_⟩
    rw [score_of_silent hf]
    norm_num [highThreshold]
  | scored hu => exact ⟨hu, not_le.mp fun hhigh => hlevel (scoreToLevel_eq_high_iff.mpr hhigh)⟩

/-- The condemned are assessed with sufficient confidence. -/
theorem Condemned.confident (h : Condemned signals request) (policy : Option FraudPolicy) :
    6 / 10 ≤ (assessSignals signals request policy).confidence.val := by
  rcases h with hlisted | ⟨hu, -⟩
  · unfold assessSignals
    dsimp only
    rw [if_pos hlisted]
    norm_num [knownFraud]
  · exact assessSignals_confidence request policy hu

end Risk

/-! ## The table -/

namespace Resolution

variable {t : Triage} {f : BillingFinding} {g : RiskFinding}

theorem tableOutcome_approve_iff {e : Eligibility} {l : Level} :
    tableOutcome e l = .approveRefund ↔ e = .eligible ∧ l = .low := by
  cases e <;> cases l <;> decide

theorem tableOutcome_credit_iff {e : Eligibility} {l : Level} :
    tableOutcome e l = .offerPartialCredit ↔ e = .partially ∧ l ≠ .high := by
  cases e <;> cases l <;> decide

theorem tableOutcome_deny_iff {e : Eligibility} {l : Level} :
    tableOutcome e l = .denyRefund ↔ e = .ineligible ∧ l ≠ .low := by
  cases e <;> cases l <;> decide

theorem tableOutcome_moreInformation_iff {e : Eligibility} {l : Level} :
    tableOutcome e l = .requestMoreInformation ↔ e = .indeterminate := by
  cases e <;> cases l <;> decide

/-- What two findings lead to without a human. -/
theorem jointOutcome_eq_iff_table {o : ResolutionOutcome} (ho : o ≠ .escalateHuman) :
    jointOutcome t f g = o ↔ f.requiresHumanReview = false ∧ g.requiresHumanReview = false ∧
      confidenceThreshold ≤ computeConfidence (some t) (some f) (some g) ∧
        tableOutcome f.eligibility g.level = o := by
  unfold jointOutcome
  split
  · rename_i hreview
    refine iff_of_false (Ne.symm ho) ?_
    rintro ⟨hf, hg, -⟩
    simp [hf, hg] at hreview
  rename_i hreview
  simp only [not_or, Bool.not_eq_true] at hreview
  split
  · rename_i hlow
    refine iff_of_false (Ne.symm ho) ?_
    rintro ⟨-, -, hconf, -⟩
    exact absurd hlow (not_lt.mpr hconf)
  · rename_i hlow
    simp only [hreview.1, hreview.2, not_lt.mp hlow, true_and]

theorem highRisk_eq_false_iff :
    g.highRisk = false ↔ g.level = .low ∧ g.requiresHumanReview = false := by
  unfold RiskFinding.highRisk
  cases g.level <;> simp

end Resolution

/-! ## The verdicts -/

namespace Workflow

open Resolution (LoopId billingFinding riskFinding jointOutcome confidenceThreshold)

variable {D : Deployment} {k : UUID} {t : SupportTicketCreatedPayload}

/-- The purchase of the ticket is on record, and this is true of it. -/
def PurchaseIs (D : Deployment) (t : SupportTicketCreatedPayload)
    (P : Billing.BillingFacts → Prop) : Prop :=
  ∃ facts, D.loadFacts t.ticketId t.customerId = some facts ∧ P facts

/-- The customer of the ticket is on record, and this is true of it. -/
def CustomerIs (D : Deployment) (t : SupportTicketCreatedPayload) (P : Risk.RiskSignals → Prop) :
    Prop :=
  ∃ signals, D.loadSignals t.customerId = some signals ∧ P signals

section Billing

variable {clock : Time} {rb : Billing.RefundEligibilityRequest} {nb : Option Billing.BillingNarrative}
  {u : UUID}

/-- A verdict is on the facts on record, or says that there are none. -/
theorem billingVerdict_cases (clock : Time) (nb : Option Billing.BillingNarrative) (u : UUID)
    (h : AboutPurchase k t rb) :
    (∃ facts, D.loadFacts t.ticketId t.customerId = some facts ∧
      billingVerdict D clock rb nb = Billing.analysis clock facts rb nb) ∨
    D.loadFacts t.ticketId t.customerId = none ∧
      (billingFinding (billingVerdict D clock rb nb) u).eligibility = .indeterminate ∧
      (billingFinding (billingVerdict D clock rb nb) u).requiresHumanReview = true := by
  rw [← h.purchaseReference, ← h.customerId]
  unfold billingVerdict
  cases hfacts : D.loadFacts rb.purchaseReference rb.customerId with
  | some facts => exact .inl ⟨facts, rfl, rfl⟩
  | none =>
    refine .inr ⟨rfl, ?_, rfl⟩
    simp only [billingFinding, Billing.buildResultPayload, Resolution.eligibilityOf_value]
    rfl

theorem purchaseIs_of_facts {P : Billing.BillingFacts → Prop} {facts : Billing.BillingFacts}
    (hfacts : D.loadFacts t.ticketId t.customerId = some facts) :
    PurchaseIs D t P ↔ P facts := by
  constructor
  · rintro ⟨facts', hfacts', h⟩
    obtain rfl := Option.some.inj (hfacts'.symm.trans hfacts)
    exact h
  · exact fun h => ⟨facts, hfacts, h⟩

theorem not_purchaseIs {P : Billing.BillingFacts → Prop}
    (hfacts : D.loadFacts t.ticketId t.customerId = none) : ¬ PurchaseIs D t P := by
  rintro ⟨facts, h, -⟩
  rw [hfacts] at h
  cases h

/-- The word of the verdict on the facts, and the flag and the confidence that go with it. -/
theorem billing_eligible_iff (h : AboutPurchase k t rb) :
    (billingFinding (billingVerdict D clock rb nb) u).eligibility = .eligible ↔
      PurchaseIs D t fun facts => ∃ i p, Billing.Approvable clock facts i p := by
  rcases billingVerdict_cases (D := D) clock nb u h with
    ⟨facts, hfacts, hverdict⟩ | ⟨hfacts, hword, -⟩
  · rw [hverdict, purchaseIs_of_facts hfacts]
    constructor
    · exact fun hword => Billing.evaluate_approve (Resolution.billingFinding_eligible hword)
    · intro happ
      simp only [billingFinding, Billing.analysis, Billing.buildResultPayload,
        Resolution.eligibilityOf_value, Billing.evaluate_approve_iff.mpr happ]
      rfl
  · rw [hword]
    exact iff_of_false (by simp) (not_purchaseIs hfacts)

theorem billing_partially_iff (h : AboutPurchase k t rb) :
    (billingFinding (billingVerdict D clock rb nb) u).eligibility = .partially ↔
      PurchaseIs D t Billing.UsedUp := by
  rcases billingVerdict_cases (D := D) clock nb u h with
    ⟨facts, hfacts, hverdict⟩ | ⟨hfacts, hword, -⟩
  · rw [hverdict, purchaseIs_of_facts hfacts, Resolution.billingFinding_partially_iff]
    constructor
    · rintro ⟨hdeny, hheavy⟩
      obtain ⟨hc, hlevel⟩ := Billing.evaluate_deny_usageLevel hdeny
      exact ⟨hc, Billing.usageLevel_eq_heavy_iff.mp (hlevel.symm.trans hheavy)⟩
    · intro hused
      have hdeny : (Billing.evaluate clock facts rb).recommendation = .denyRefund :=
        Billing.evaluate_deny_iff.mpr (.inr hused)
      refine ⟨hdeny, ?_⟩
      rw [(Billing.evaluate_deny_usageLevel hdeny).2, Billing.usageLevel_eq_heavy_iff]
      exact hused.2
  · rw [hword]
    exact iff_of_false (by simp) (not_purchaseIs hfacts)

theorem billing_ineligible_iff (h : AboutPurchase k t rb) :
    (billingFinding (billingVerdict D clock rb nb) u).eligibility = .ineligible ↔
      PurchaseIs D t (Billing.DeniedUnused clock) := by
  rcases billingVerdict_cases (D := D) clock nb u h with
    ⟨facts, hfacts, hverdict⟩ | ⟨hfacts, hword, -⟩
  · rw [hverdict, purchaseIs_of_facts hfacts]
    constructor
    · intro hword
      have hdeny : (Billing.evaluate clock facts rb).recommendation = .denyRefund := by
        simp only [billingFinding, Billing.analysis, Billing.buildResultPayload,
          Resolution.eligibilityOf_value] at hword
        cases hr : (Billing.evaluate clock facts rb).recommendation with
        | denyRefund => rfl
        | approveFullRefund | approvePartialRefund | requestMoreInformation | manualReview =>
          rw [hr] at hword
          simp at hword
      have hlight : ¬ Billing.usageHeavyThreshold < Billing.usageRatio facts.usage := by
        rw [← Billing.usageLevel_eq_heavy_iff, ← (Billing.evaluate_deny_usageLevel hdeny).2]
        intro hheavy
        have hpart : (billingFinding (Billing.analysis clock facts rb nb) u).eligibility =
            .partially := Resolution.billingFinding_partially_iff.mpr ⟨hdeny, hheavy⟩
        rw [hword] at hpart
        cases hpart
      refine ⟨?_, not_lt.mp hlight⟩
      rcases Billing.evaluate_deny_iff.mp hdeny with hhard | hused
      · exact hhard
      · exact absurd hused.2 hlight
    · rintro ⟨hhard, hlight⟩
      have hdeny := (Billing.evaluate_hardDenied rb hhard).1
      have hlevel : (Billing.evaluate clock facts rb).usageLevel ≠ "heavy" := by
        rw [(Billing.evaluate_deny_usageLevel hdeny).2, Ne, Billing.usageLevel_eq_heavy_iff]
        exact not_lt.mpr hlight
      simp only [billingFinding, Billing.analysis, Billing.buildResultPayload,
        Resolution.eligibilityOf_value, hdeny, hlevel, and_false, if_false]
  · rw [hword]
    exact iff_of_false (by simp) (not_purchaseIs hfacts)

/-- A verdict that settles the eligibility asks for nobody and is sure enough; any other asks for a
    human. -/
theorem billing_settled (h : AboutPurchase k t rb) :
    ((billingFinding (billingVerdict D clock rb nb) u).eligibility ≠ .indeterminate →
        (billingFinding (billingVerdict D clock rb nb) u).requiresHumanReview = false ∧
        confidenceThreshold ≤ (billingVerdict D clock rb nb).confidence.val) ∧
      ((billingFinding (billingVerdict D clock rb nb) u).eligibility = .indeterminate →
        (billingFinding (billingVerdict D clock rb nb) u).requiresHumanReview = true) := by
  rcases billingVerdict_cases (D := D) clock nb u h with
    ⟨facts, hfacts, hverdict⟩ | ⟨-, hword, hreview⟩
  · rw [hverdict]
    cases hr : (Billing.evaluate clock facts rb).recommendation with
    | approveFullRefund =>
      obtain ⟨i, p, happ⟩ := Billing.evaluate_approve hr
      refine ⟨fun _ => happ.confident rb, fun hword => ?_⟩
      simp only [billingFinding, Billing.analysis, Billing.buildResultPayload,
        Resolution.eligibilityOf_value, hr] at hword
      cases hword
    | denyRefund =>
      refine ⟨fun _ => Billing.evaluate_deny hr, fun hword => ?_⟩
      simp only [billingFinding, Billing.analysis, Billing.buildResultPayload,
        Resolution.eligibilityOf_value, hr] at hword
      split at hword <;> cases hword
    | approvePartialRefund => exact absurd hr Billing.evaluate_ne_partial
    | requestMoreInformation | manualReview =>
      refine ⟨fun hsettled => absurd ?_ hsettled, fun _ => ?_⟩
      · simp only [billingFinding, Billing.analysis, Billing.buildResultPayload,
          Resolution.eligibilityOf_value, hr]
        rfl
      · exact Billing.evaluate_unsettled (by simp [hr]) (by simp [hr])
  · exact ⟨fun hsettled => absurd hword hsettled, fun _ => hreview⟩

end Billing

section Risk

variable {rr : Risk.RiskAssessmentRequest} {nr : Option Risk.RiskNarrative} {u : UUID}

theorem riskVerdict_cases (nr : Option Risk.RiskNarrative) (u : UUID) (h : AboutCustomer k t rr) :
    (∃ signals, D.loadSignals t.customerId = some signals ∧
      riskVerdict D rr nr = Risk.review signals rr none nr) ∨
    D.loadSignals t.customerId = none ∧
      (riskFinding (riskVerdict D rr nr) u).requiresHumanReview = true := by
  rw [← h.customerId]
  unfold riskVerdict
  cases hsignals : D.loadSignals rr.customerId with
  | some signals => exact .inl ⟨signals, rfl, rfl⟩
  | none => exact .inr ⟨rfl, rfl⟩

theorem customerIs_of_signals {P : Risk.RiskSignals → Prop} {signals : Risk.RiskSignals}
    (hsignals : D.loadSignals t.customerId = some signals) : CustomerIs D t P ↔ P signals := by
  constructor
  · rintro ⟨signals', hsignals', h⟩
    obtain rfl := Option.some.inj (hsignals'.symm.trans hsignals)
    exact h
  · exact fun h => ⟨signals, hsignals, h⟩

theorem not_customerIs {P : Risk.RiskSignals → Prop} (hsignals : D.loadSignals t.customerId = none) :
    ¬ CustomerIs D t P := by
  rintro ⟨signals, h, -⟩
  rw [hsignals] at h
  cases h

theorem risk_calm_iff (h : AboutCustomer k t rr) :
    (riskFinding (riskVerdict D rr nr) u).highRisk = false ↔
      CustomerIs D t (Risk.Cleared · rr) := by
  rcases riskVerdict_cases (D := D) nr u h with
    ⟨signals, hsignals, hverdict⟩ | ⟨hsignals, hreview⟩
  · rw [hverdict, customerIs_of_signals hsignals, Resolution.riskFinding_highRisk_iff]
  · rw [Resolution.highRisk_eq_false_iff, hreview]
    exact iff_of_false (fun hcalm => absurd hcalm.2 nofun) (not_customerIs hsignals)

theorem risk_condemned_iff (h : AboutCustomer k t rr) :
    ((riskFinding (riskVerdict D rr nr) u).level ≠ .low ∧
      (riskFinding (riskVerdict D rr nr) u).requiresHumanReview = false) ↔
      CustomerIs D t (Risk.Condemned · rr) := by
  rcases riskVerdict_cases (D := D) nr u h with
    ⟨signals, hsignals, hverdict⟩ | ⟨hsignals, hreview⟩
  · rw [hverdict, customerIs_of_signals hsignals, ← Risk.assessSignals_condemned_iff none,
      Resolution.riskFinding_level]
    have hlevel : Resolution.levelFor (Risk.assessSignals signals rr none).riskLevel ≠ .low ↔
        (Risk.assessSignals signals rr none).riskLevel ≠ .low := by
      cases (Risk.assessSignals signals rr none).riskLevel <;> decide
    rw [hlevel]
    rfl
  · rw [hreview]
    exact iff_of_false (fun hrisk => absurd hrisk.2 nofun) (not_customerIs hsignals)

theorem risk_confident (h : AboutCustomer k t rr)
    (hrisk : CustomerIs D t fun signals => Risk.Cleared signals rr ∨ Risk.Condemned signals rr) :
    confidenceThreshold ≤ (riskVerdict D rr nr).confidence.val := by
  obtain ⟨signals, hsignals, hkind⟩ := hrisk
  rcases riskVerdict_cases (D := D) nr k h with
    ⟨signals', hsignals', hverdict⟩ | ⟨hnone, -⟩
  · obtain rfl := Option.some.inj (hsignals'.symm.trans hsignals)
    rw [hverdict]
    rcases hkind with hcleared | hcondemned
    · exact Risk.assessSignals_confidence rr none hcleared.ungated
    · exact hcondemned.confident none
  · rw [hsignals] at hnone
    cases hnone

end Risk

/-! ## The outcome -/

/-- What the two datasets make of the ticket, as of `clock`. A risk verdict that comes first is escalated
    before the purchase is looked at, so a denial takes the billing verdict first. -/
structure Due (D : Deployment) (clock : Time) (t : SupportTicketCreatedPayload)
    (rr : Risk.RiskAssessmentRequest) (confident : Prop) (billingIsFirst : Bool)
    (o : ResolutionOutcome) : Prop where
  approve : o = .approveRefund ↔ confident ∧
    PurchaseIs D t (fun facts => ∃ i p, Billing.Approvable clock facts i p) ∧
      CustomerIs D t (Risk.Cleared · rr)
  credit : o = .offerPartialCredit ↔ confident ∧ PurchaseIs D t Billing.UsedUp ∧
    CustomerIs D t (Risk.Cleared · rr)
  deny : o = .denyRefund ↔ confident ∧ PurchaseIs D t (Billing.DeniedUnused clock) ∧
    CustomerIs D t (Risk.Condemned · rr) ∧ billingIsFirst = true
  otherwise : o = .approveRefund ∨ o = .offerPartialCredit ∨ o = .denyRefund ∨ o = .escalateHuman

section Outcome

variable {clock : Time} {rb : Billing.RefundEligibilityRequest} {nb : Option Billing.BillingNarrative}
  {rr : Risk.RiskAssessmentRequest} {nr : Option Risk.RiskNarrative} {bt rt : UUID}
  {triage : Resolution.Triage}

/-- The findings of the two verdicts that the table resolves to `o`. -/
structure Resolves (triage : Resolution.Triage) (f : Resolution.BillingFinding)
    (g : Resolution.RiskFinding) (o : ResolutionOutcome) : Prop where
  billing : f.requiresHumanReview = false
  risk : g.requiresHumanReview = false
  confident : confidenceThreshold ≤ Resolution.computeConfidence (some triage) (some f) (some g)
  outcome : Resolution.tableOutcome f.eligibility g.level = o

theorem resolves_iff {f : Resolution.BillingFinding} {g : Resolution.RiskFinding}
    {o : ResolutionOutcome} (ho : o ≠ .escalateHuman) :
    jointOutcome triage f g = o ↔ Resolves triage f g o := by
  rw [Resolution.jointOutcome_eq_iff_table ho]
  exact ⟨fun ⟨hf, hg, hconf, hout⟩ => ⟨hf, hg, hconf, hout⟩,
    fun h => ⟨h.billing, h.risk, h.confident, h.outcome⟩⟩

/-- The rules never leave it to the customer: what they cannot settle goes to a human. -/
theorem jointOutcome_ne_moreInformation {g : Resolution.RiskFinding} (h : AboutPurchase k t rb) :
    jointOutcome triage (billingFinding (billingVerdict D clock rb nb) bt) g ≠
      .requestMoreInformation := by
  intro hout
  have hres := (resolves_iff (by decide)).mp hout
  have hword := Resolution.tableOutcome_moreInformation_iff.mp hres.outcome
  have hreview := hres.billing
  rw [(billing_settled h).2 hword] at hreview
  cases hreview

/-- An eligibility that is settled and a risk that needs no human resolve as the table has it, if the
    triage is sure. -/
theorem resolves_of_settled {o : ResolutionOutcome} (hb : AboutPurchase k t rb)
    (hr : AboutCustomer k t rr) (hconf : confidenceThreshold ≤ triage.confidence.val)
    (hsettled : (billingFinding (billingVerdict D clock rb nb) bt).eligibility ≠ .indeterminate)
    (hrisk : CustomerIs D t fun signals => Risk.Cleared signals rr ∨ Risk.Condemned signals rr)
    (hreview : (riskFinding (riskVerdict D rr nr) rt).requiresHumanReview = false)
    (hout : Resolution.tableOutcome
      (billingFinding (billingVerdict D clock rb nb) bt).eligibility
      (riskFinding (riskVerdict D rr nr) rt).level = o) :
    Resolves triage (billingFinding (billingVerdict D clock rb nb) bt)
      (riskFinding (riskVerdict D rr nr) rt) o where
  billing := ((billing_settled hb).1 hsettled).1
  risk := hreview
  confident := Resolution.confident_iff.mpr
    ⟨hconf, ((billing_settled hb).1 hsettled).2, risk_confident hr hrisk⟩
  outcome := hout

/-- Nothing is resolved at once. -/
theorem outcomeWith_iff {f : Resolution.BillingFinding} {g : Resolution.RiskFinding}
    {o : ResolutionOutcome} {billingIsFirst : Bool} (hreview : triage.needsRefundReview = true)
    (ho : o ≠ .escalateHuman) :
    Resolution.outcomeWith triage billingIsFirst f g = o ↔
      ¬ Resolution.AtOnce billingIsFirst f g ∧ Resolves triage f g o := by
  unfold Resolution.outcomeWith
  rw [if_pos hreview]
  split
  · rename_i hfast
    exact iff_of_false (Ne.symm ho) fun h => h.1 hfast
  · rename_i hslow
    rw [resolves_iff ho]
    exact ⟨fun hres => ⟨hslow, hres⟩, fun h => h.2⟩

/-- **The outcome in the words of the rules.** -/
theorem due_outcome (bt rt : UUID) (hb : AboutPurchase k t rb) (hr : AboutCustomer k t rr)
    (hreview : triage.needsRefundReview = true) (billingIsFirst : Bool) :
    Due D clock t rr (confidenceThreshold ≤ triage.confidence.val) billingIsFirst
      (Resolution.outcomeWith triage billingIsFirst
        (billingFinding (billingVerdict D clock rb nb) bt)
        (riskFinding (riskVerdict D rr nr) rt)) where
  approve := by
    rw [outcomeWith_iff hreview (by decide), ← billing_eligible_iff (u := bt) hb,
      ← risk_calm_iff (u := rt) hr]
    constructor
    · rintro ⟨-, hres⟩
      obtain ⟨hword, hlow⟩ := Resolution.tableOutcome_approve_iff.mp hres.outcome
      exact ⟨(Resolution.confident_iff.mp hres.confident).1, hword,
        Resolution.highRisk_eq_false_iff.mpr ⟨hlow, hres.risk⟩⟩
    · rintro ⟨hconf, hword, hcalm⟩
      obtain ⟨hlow, hquiet⟩ := Resolution.highRisk_eq_false_iff.mp hcalm
      obtain ⟨signals, hsignals, hcleared⟩ := (risk_calm_iff hr).mp hcalm
      refine ⟨fun hfast => absurd (hfast.1.symm.trans hcalm) nofun,
        resolves_of_settled hb hr hconf (by rw [hword]; decide) ⟨signals, hsignals, .inl hcleared⟩
          hquiet ?_⟩
      rw [hword, hlow]
      rfl
  credit := by
    rw [outcomeWith_iff hreview (by decide), ← billing_partially_iff (u := bt) hb,
      ← risk_calm_iff (u := rt) hr]
    constructor
    · rintro ⟨hslow, hres⟩
      obtain ⟨hword, -⟩ := Resolution.tableOutcome_credit_iff.mp hres.outcome
      refine ⟨(Resolution.confident_iff.mp hres.confident).1, hword, ?_⟩
      -- a risk that alarms would have been escalated at once
      by_contra halarm
      refine hslow ⟨Bool.not_eq_false _ ▸ halarm, fun hfirst => ?_⟩
      rw [hword] at hfirst
      cases hfirst.2
    · rintro ⟨hconf, hword, hcalm⟩
      obtain ⟨hlow, hquiet⟩ := Resolution.highRisk_eq_false_iff.mp hcalm
      obtain ⟨signals, hsignals, hcleared⟩ := (risk_calm_iff hr).mp hcalm
      refine ⟨fun hfast => absurd (hfast.1.symm.trans hcalm) nofun,
        resolves_of_settled hb hr hconf (by rw [hword]; decide) ⟨signals, hsignals, .inl hcleared⟩
          hquiet ?_⟩
      rw [hword, hlow]
      rfl
  deny := by
    rw [outcomeWith_iff hreview (by decide), ← billing_ineligible_iff (u := bt) hb,
      ← risk_condemned_iff (u := rt) hr]
    constructor
    · rintro ⟨hslow, hres⟩
      obtain ⟨hword, hraised⟩ := Resolution.tableOutcome_deny_iff.mp hres.outcome
      refine ⟨(Resolution.confident_iff.mp hres.confident).1, hword, ⟨hraised, hres.risk⟩, ?_⟩
      by_contra hsecond
      refine hslow ⟨?_, fun hfirst => hsecond hfirst.1⟩
      by_contra hcalm
      exact hraised (Resolution.highRisk_eq_false_iff.mp (Bool.not_eq_true _ ▸ hcalm)).1
    · rintro ⟨hconf, hword, hcond, hfirst⟩
      obtain ⟨signals, hsignals, hcondemned⟩ := (risk_condemned_iff hr).mp hcond
      refine ⟨fun hfast => hfast.2 ⟨hfirst, hword⟩,
        resolves_of_settled hb hr hconf (by rw [hword]; decide)
          ⟨signals, hsignals, .inr hcondemned⟩ hcond.2 ?_⟩
      exact Resolution.tableOutcome_deny_iff.mpr ⟨hword, hcond.1⟩
  otherwise := by
    unfold Resolution.outcomeWith
    rw [if_pos hreview]
    split
    · exact .inr (.inr (.inr rfl))
    · have hmore : jointOutcome triage (billingFinding (billingVerdict D clock rb nb) bt)
          (riskFinding (riskVerdict D rr nr) rt) ≠ .requestMoreInformation :=
        jointOutcome_ne_moreInformation hb
      have hdirect := Resolution.jointOutcome_ne_direct triage
        (billingFinding (billingVerdict D clock rb nb) bt) (riskFinding (riskVerdict D rr nr) rt)
      generalize jointOutcome triage _ _ = o at *
      cases o with
      | approveRefund => exact .inl rfl
      | offerPartialCredit => exact .inr (.inl rfl)
      | denyRefund => exact .inr (.inr (.inl rfl))
      | escalateHuman => exact .inr (.inr (.inr rfl))
      | directResponse => exact absurd rfl hdirect
      | requestMoreInformation => exact absurd rfl hmore

end Outcome

/-! ## Every run -/

section Runs

variable {now : Time} {nextId : UUID} {tr before after : List Event} {s : State} {clock : Time}
  {facts : Billing.BillingFacts} {signals : Risk.RiskSignals} {rb : Billing.RefundEligibilityRequest}
  {rr : Risk.RiskAssessmentRequest}

theorem OnRecord.billingVerdict_eq (h : OnRecord D before k t clock facts signals rb rr)
    (nb : Option Billing.BillingNarrative) :
    billingVerdict D clock rb nb = Billing.analysis clock facts rb nb := by
  unfold billingVerdict
  rw [h.purchase.purchaseReference, h.purchase.customerId, h.facts]

theorem OnRecord.riskVerdict_eq (h : OnRecord D before k t clock facts signals rb rr)
    (nr : Option Risk.RiskNarrative) : riskVerdict D rr nr = Risk.review signals rr none nr := by
  unfold riskVerdict
  rw [h.customer.customerId, h.signals]

/-- **Nobody is turned down without cause.** In every run of the three agents, a refund is denied only
    for a ticket whose purchase the rules deny for its window or its payment and not for its usage, and
    whose customer is on the blocklist or has a score that is raised; a partial credit is offered only
    where the product is used up and the score is not high; and the customer is never asked for more
    information. -/
theorem denials_have_cause (hrun : Run D now nextId tr s) {i : LoopId}
    {ev : Resolution.OutEvent} {d : CustomerResponseDecisionPayload}
    (htr : tr = before ++ .agent i (.published ev) :: after)
    (hd : ev.payload = .resolutionDecided d) :
    d.outcome ≠ .requestMoreInformation ∧
    (d.outcome = .denyRefund → ∃ t clock facts signals rb rr,
      OnRecord D before ev.correlationId t clock facts signals rb rr ∧
        Billing.DeniedUnused clock facts ∧ Risk.Condemned signals rr) ∧
    (d.outcome = .offerPartialCredit → ∃ t clock facts signals rb rr,
      OnRecord D before ev.correlationId t clock facts signals rb rr ∧
        Billing.UsedUp facts ∧ Risk.Ungated signals ∧ Risk.score signals rr < Risk.highThreshold) := by
  refine ⟨fun hmore => ?_, fun hdeny => ?_, fun hcredit => ?_⟩
  · obtain ⟨t, clock, facts, signals, rb, rr, hon, triage, nb, nr, bt, rt, houtcome⟩ :=
      onRecord_of_automatic hrun htr hd (by simp [Resolution.Automatic, hmore])
    rw [← hon.billingVerdict_eq] at houtcome
    exact jointOutcome_ne_moreInformation hon.purchase (houtcome.symm.trans hmore)
  · obtain ⟨t, clock, facts, signals, rb, rr, hon, triage, nb, nr, bt, rt, houtcome⟩ :=
      onRecord_of_automatic hrun htr hd (by simp [Resolution.Automatic, hdeny])
    rw [← hon.billingVerdict_eq, ← hon.riskVerdict_eq, hdeny, eq_comm,
      resolves_iff (by decide)] at houtcome
    obtain ⟨hword, hraised⟩ := Resolution.tableOutcome_deny_iff.mp houtcome.outcome
    refine ⟨t, clock, facts, signals, rb, rr, hon, ?_, ?_⟩
    · exact (purchaseIs_of_facts hon.facts).mp ((billing_ineligible_iff hon.purchase).mp hword)
    · exact (customerIs_of_signals hon.signals).mp
        ((risk_condemned_iff hon.customer).mp ⟨hraised, houtcome.risk⟩)
  · obtain ⟨t, clock, facts, signals, rb, rr, hon, triage, nb, nr, bt, rt, houtcome⟩ :=
      onRecord_of_automatic hrun htr hd (by simp [Resolution.Automatic, hcredit])
    rw [← hon.billingVerdict_eq, hcredit, eq_comm, resolves_iff (by decide)] at houtcome
    obtain ⟨hword, hlevel⟩ := Resolution.tableOutcome_credit_iff.mp houtcome.outcome
    refine ⟨t, clock, facts, signals, rb, rr, hon, ?_, ?_⟩
    · exact (purchaseIs_of_facts hon.facts).mp ((billing_partially_iff hon.purchase).mp hword)
    · refine Risk.ungated_of_unreviewed none (fun hhigh => hlevel ?_) houtcome.risk
      rw [Resolution.riskFinding_level, hhigh]
      rfl

end Runs

/-- The customer of the samples is on the blocklist. -/
def listedDeployment : Deployment :=
  { sampleDeployment with
    loadSignals := fun _ => some { Resolution.sampleSignals with
      knownFraud := some { customerId := "C-1", onBlocklist := true } } }

/-- The refund comes too late, and the billing agent is heard first. -/
def lateSchedule : List Choice :=
  refundSchedule.take 11 ++
    [.handleBilling 0 { smoothBilling with now := 40 * microsPerDay }, .handleRisk 0 smoothRisk,
      .deliverBilling 0, .answer .billing Resolution.grant,
      .deliverRisk 0, .answer .risk Resolution.grant, .answer .risk Resolution.grant]

def denies : Event → Bool
  | .agent i o => Resolution.decides .denyRefund (i, o)
  | _ => false

theorem denials_have_cause_sample :
    ∃ tr s before i ev d, Run listedDeployment 0 1000 tr s ∧
      tr = before ++ [.agent i (.published ev)] ∧ ev.payload = .resolutionDecided d ∧
      d.outcome = .denyRefund ∧
      ∃ t clock facts signals rb rr,
        OnRecord listedDeployment before ev.correlationId t clock facts signals rb rr ∧
        Billing.DeniedUnused clock facts ∧ Risk.Condemned signals rr := by
  have hexec : ((exec listedDeployment lateSchedule (start 0 1000)).map fun out =>
      out.1.getLast?.map denies) = some (some true) := by decide +kernel
  obtain ⟨⟨tr, s⟩, hout, heq⟩ := Option.map_eq_some_iff.mp hexec
  obtain ⟨x, hlast, hx⟩ := Option.map_eq_some_iff.mp heq
  obtain ⟨before, rfl⟩ := List.getLast?_eq_some_iff.mp hlast
  have hrun : Run listedDeployment 0 1000 (before ++ [x]) s := by
    simpa using Run.nil.of_exec hout
  cases x with
  | agent i o =>
    obtain ⟨j, ev, d, heq, hd, hdenied⟩ := Resolution.exists_of_decides hx
    cases heq
    exact ⟨_, s, before, i, ev, d, hrun, rfl, hd, hdenied,
      (denials_have_cause hrun rfl hd).2.1 hdenied⟩
  | billing | risk => cases hx

end Workflow

end RefundOps
