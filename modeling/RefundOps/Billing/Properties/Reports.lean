import RefundOps.Billing.RulesEngine

/-!
# What a recommendation reports

Beside its verdict a recommendation carries an amount and six statuses, and the nine return
statements of `evaluate` write them by hand. Two questions are settled here by cases on `Ruling`.

The amount is within its bounds and positive exactly for an approval, unless what is approved
rounds to nothing (`refund_amount_iff`). RP-002 tests for a full reversal only of a positive
amount, so a payment of zero is approved too, and what was reversed of it comes out negative.

The statuses are functions of the facts where the return statement computes them. Where it writes
a literal they are what that path takes for granted (`statuses_iff`).
-/

set_option autoImplicit false

namespace RefundOps.Billing

variable {now : Time} {facts : BillingFacts} {i : Invoice} {p : Payment}

/-! ## The amount -/

/-- No amount of the payment is negative. -/
structure Payment.NonNegative (p : Payment) : Prop where
  amount : 0 ≤ p.amount
  reversed : 0 ≤ p.reversedAmount

/-- The refund is between zero and the payment in cents, and positive for an approval alone. -/
structure AmountBounds (facts : BillingFacts) (r : EligibilityRecommendation) : Prop where
  nonneg : 0 ≤ r.eligibleRefundAmount
  le_payment : ∀ p, facts.payment = some p → r.eligibleRefundAmount ≤ Text.roundTo 2 p.amount
  pos_iff : 0 < r.eligibleRefundAmount ↔ r.recommendation = .approveFullRefund

theorem Approvable.evaluate_eq (h : Approvable now facts i p)
    (request : RefundEligibilityRequest) :
    evaluate now facts request = approve now facts i p := by
  have hlight : isHeavyUsage facts.usage = false := by simpa [isHeavyUsage] using h.light
  unfold evaluate
  rw [h.consistent.hasInvoice, h.consistent.hasPayment]
  simp [h.consistent.agree, h.refundable.within, h.refundable.paid, h.refundable.captured,
    h.refundable.kept, hlight, h.undelivered]

/-- Only an approval names an amount. -/
theorem AmountBounds.of_unapproved (request : RefundEligibilityRequest)
    (hnn : ∀ p, facts.payment = some p → p.NonNegative)
    (hnone : ¬ ∃ i p, Approvable now facts i p) :
    AmountBounds facts (evaluate now facts request) := by
  have hrec : (evaluate now facts request).recommendation ≠ .approveFullRefund :=
    fun h => hnone (evaluate_approve h)
  have hzero : (evaluate now facts request).eligibleRefundAmount = 0 := by
    have hruling := evaluate_ruling now facts request
    generalize evaluate now facts request = r at hrec hruling
    cases hruling with
    | approve => exact absurd rfl hrec
    | missing | contradictory | expired | unpaid | uncaptured | reversed | heavyUsage | noRule => rfl
  refine ⟨hzero.ge, ?_, ?_⟩
  · intro p hp
    rw [hzero]
    exact Text.roundTo_nonneg (hnn p hp).amount
  · rw [hzero]
    exact iff_of_false (lt_irrefl 0) hrec

/-- An approved payment of more than half a cent is refunded whole. -/
theorem Approvable.refund (h : Approvable now facts i p) (hnn : p.NonNegative)
    (hamount : 1 / 200 < p.amount) :
    (approve now facts i p).eligibleRefundAmount = Text.roundTo 2 p.amount := by
  have hpos : 0 < p.amount := lt_trans (by norm_num) hamount
  have hrev : p.reversedAmount = 0 := le_antisymm (h.unreversed hpos) hnn.reversed
  show Text.roundTo 2 (p.amount - p.reversedAmount) = _
  rw [hrev, sub_zero]

/-- Of half a cent or less nothing is left in cents. -/
theorem refund_not_pos (hnn : p.NonNegative) (hamount : p.amount ≤ 1 / 200) :
    ¬ 0 < (approve now facts i p).eligibleRefundAmount := by
  show ¬ 0 < Text.roundTo 2 (p.amount - p.reversedAmount)
  rw [Text.roundTo_pos_iff]
  have hrev := hnn.reversed
  linarith

/-- **When the amount is right.** For payments without negative amounts, exactly unless a payment
    of half a cent or less is approved. -/
theorem refund_amount_iff (now : Time) (facts : BillingFacts) (request : RefundEligibilityRequest)
    (hnn : ∀ p, facts.payment = some p → p.NonNegative) :
    AmountBounds facts (evaluate now facts request) ↔
      ¬ ∃ i p, Approvable now facts i p ∧ p.amount ≤ 1 / 200 := by
  by_cases happ : ∃ i p, Approvable now facts i p
  · obtain ⟨i, p, hok⟩ := happ
    have hpn := hnn p hok.consistent.hasPayment
    rw [hok.evaluate_eq request]
    constructor
    · rintro hb ⟨i', p', hok', hsmall⟩
      obtain ⟨rfl, rfl⟩ := hok.consistent.unique hok'.consistent
      exact refund_not_pos hpn hsmall (hb.pos_iff.mpr rfl)
    · intro hnone
      have hamount : 1 / 200 < p.amount := by
        by_contra hle
        exact hnone ⟨i, p, hok, not_lt.mp hle⟩
      have hrefund := hok.refund hpn hamount
      have hpos : 0 < Text.roundTo 2 p.amount := by
        rw [Text.roundTo_pos_iff]
        linarith
      refine ⟨?_, ?_, ?_⟩
      · rw [hrefund]
        exact hpos.le
      · intro p' hp'
        obtain rfl := Option.some.inj (hok.consistent.hasPayment.symm.trans hp')
        exact hrefund.le
      · rw [hrefund]
        exact iff_of_true hpos rfl
  · refine iff_of_true (.of_unapproved request hnn happ) ?_
    rintro ⟨i, p, hok, -⟩
    exact happ ⟨i, p, hok⟩

/-- A paid invoice of today and a payment of zero, of which five were reversed. -/
def zeroPayment : BillingFacts where
  invoice := some
    { invoiceId := "INV-1", purchaseReference := "PR-1", amount := 0, currency := "USD"
      issuedAt := 0, paid := true }
  payment := some
    { paymentId := "PAY-1", invoiceId := "INV-1", captured := true, amount := 0
      reversedAmount := 5 }

/-- The same invoice with a payment of 49 that was kept. -/
def keptPayment : BillingFacts where
  invoice := some
    { invoiceId := "INV-1", purchaseReference := "PR-1", amount := 49, currency := "USD"
      issuedAt := 0, paid := true }
  payment := some
    { paymentId := "PAY-1", invoiceId := "INV-1", captured := true, amount := 49
      reversedAmount := 0 }

def sampleEligibility : RefundEligibilityRequest where
  caseId := 1
  ticketId := "T-1"
  customerId := "C-1"
  requestedRefundAmount := ⟨49, by norm_num⟩
  purchaseReference := "PR-1"

theorem refund_amount_kept : AmountBounds keptPayment (evaluate 0 keptPayment sampleEligibility) := by
  refine (refund_amount_iff 0 keptPayment sampleEligibility ?_).mpr ?_
  · intro p hp
    cases hp
    exact ⟨by norm_num, by norm_num⟩
  · rintro ⟨i, p, hok, hsmall⟩
    cases hok.consistent.hasPayment
    norm_num at hsmall

/-- The zero payment is approved, with a refund of minus five. -/
theorem refund_amount_negative :
    (∀ p, zeroPayment.payment = some p → p.NonNegative) ∧
      (evaluate 0 zeroPayment sampleEligibility).recommendation = .approveFullRefund ∧
      (evaluate 0 zeroPayment sampleEligibility).eligibleRefundAmount = -5 ∧
      ¬ AmountBounds zeroPayment (evaluate 0 zeroPayment sampleEligibility) := by
  have hneg : (evaluate 0 zeroPayment sampleEligibility).eligibleRefundAmount = -5 := by
    decide +kernel
  refine ⟨?_, by decide +kernel, hneg, ?_⟩
  · intro p hp
    cases hp
    exact ⟨by norm_num, by norm_num⟩
  · intro hb
    have hnonneg := hb.nonneg
    rw [hneg] at hnonneg
    norm_num at hnonneg

/-! ## The statuses -/

/-- The statuses are these functions of the invoice, the payment, the usage and the time. -/
structure Reported (now : Time) (facts : BillingFacts) (i : Invoice) (p : Payment)
    (r : EligibilityRecommendation) : Prop where
  paid : r.invoiceStatus = "paid" ↔ i.paid = true
  uncaptured : r.paymentStatus = "uncaptured" ↔ p.captured = false
  reversed : r.paymentStatus = "reversed" ↔ p.captured = true ∧ fullyReversed p = true
  usage : r.usageLevel = usageLevel (usageRatio facts.usage)
  expired : r.refundWindowStatus = "expired" ↔ refundWindowDays < daysSinceInvoice now i
  borderline : r.refundWindowStatus = "within-borderline" ↔
    daysSinceInvoice now i = refundWindowDays
  review : r.requiresHumanReview = true ↔
    r.recommendation = .requestMoreInformation ∨ r.recommendation = .manualReview

/-- The facts take no path whose literals differ from them: the last day of the window is approved,
    a full reversal is neither contradicted nor too old, and an unpaid invoice has no captured
    payment. -/
structure Unsurprising (now : Time) (facts : BillingFacts) (i : Invoice) (p : Payment) : Prop where
  lastDay : daysSinceInvoice now i = refundWindowDays → Approvable now facts i p
  reversal : p.captured = true → fullyReversed p = true →
    contradictions facts i p = [] ∧ withinWindow now i = true
  unpaid : contradictions facts i p = [] → withinWindow now i = true → i.paid = false →
    p.captured = false

theorem invoiceStatus_eq_paid_iff : invoiceStatus i = "paid" ↔ i.paid = true := by
  unfold invoiceStatus
  cases i.paid <;> decide

theorem paymentStatus_eq_uncaptured_iff : paymentStatus p = "uncaptured" ↔ p.captured = false := by
  unfold paymentStatus
  cases p.captured <;> decide

theorem paymentStatus_ne_reversed : paymentStatus p ≠ "reversed" := by
  unfold paymentStatus
  cases p.captured <;> decide

theorem withinWindow_eq_true_iff :
    withinWindow now i = true ↔ ¬ refundWindowDays < daysSinceInvoice now i := by
  simp [withinWindow]

theorem withinWindow_of_lastDay (h : daysSinceInvoice now i = refundWindowDays) :
    withinWindow now i = true := by
  simp [withinWindow, h]

/-- What the invoice's and the payment's own statuses leave open. -/
theorem reported_contradictory :
    Reported now facts i p (contradictory now facts i p) ↔
      daysSinceInvoice now i ≠ refundWindowDays ∧
        ¬ (p.captured = true ∧ fullyReversed p = true) := by
  constructor
  · intro hr
    refine ⟨fun hlast => ?_, fun hrev => paymentStatus_ne_reversed (hr.reversed.mpr hrev)⟩
    have hborder : (if withinWindow now i then "within" else "expired") = "within-borderline" :=
      hr.borderline.mpr hlast
    revert hborder
    cases withinWindow now i <;> decide
  · rintro ⟨hlast, hrev⟩
    refine ⟨invoiceStatus_eq_paid_iff, paymentStatus_eq_uncaptured_iff,
      iff_of_false paymentStatus_ne_reversed hrev, rfl, ?_, iff_of_false ?_ hlast, ?_⟩
    · show (if withinWindow now i then "within" else "expired") = "expired" ↔ _
      by_cases hw : withinWindow now i = true
      · rw [if_pos hw]
        exact iff_of_false (by decide) (withinWindow_eq_true_iff.mp hw)
      · rw [if_neg hw]
        exact iff_of_true rfl (not_not.mp (mt withinWindow_eq_true_iff.mpr hw))
    · show (if withinWindow now i then "within" else "expired") ≠ "within-borderline"
      cases withinWindow now i <;> decide
    · exact iff_of_true rfl (.inr rfl)

theorem reported_denyExpired (h : withinWindow now i = false) :
    Reported now facts i p (denyExpired now facts i p) ↔
      ¬ (p.captured = true ∧ fullyReversed p = true) := by
  have hlate : refundWindowDays < daysSinceInvoice now i := by simpa [withinWindow] using h
  constructor
  · intro hr hrev
    exact paymentStatus_ne_reversed (hr.reversed.mpr hrev)
  · intro hrev
    exact ⟨invoiceStatus_eq_paid_iff, paymentStatus_eq_uncaptured_iff,
      iff_of_false paymentStatus_ne_reversed hrev, rfl, iff_of_true rfl hlate,
      iff_of_false (by simp [denyExpired, denial]) hlate.ne', by simp [denyExpired, denial]⟩

/-- The paths that write `within` are right about the rest unless this is the last day, or the
    payment's status is not the literal they write. -/
theorem reported_within {r : EligibilityRecommendation} (hw : withinWindow now i = true)
    (hwindow : r.refundWindowStatus = "within") (hpaid : r.invoiceStatus = "paid" ↔ i.paid = true)
    (husage : r.usageLevel = usageLevel (usageRatio facts.usage))
    (hreview : r.requiresHumanReview = true ↔
      r.recommendation = .requestMoreInformation ∨ r.recommendation = .manualReview) :
    Reported now facts i p r ↔
      daysSinceInvoice now i ≠ refundWindowDays ∧
        (r.paymentStatus = "uncaptured" ↔ p.captured = false) ∧
        (r.paymentStatus = "reversed" ↔ p.captured = true ∧ fullyReversed p = true) := by
  constructor
  · intro hr
    refine ⟨fun hlast => ?_, hr.uncaptured, hr.reversed⟩
    have hborder := hr.borderline.mpr hlast
    rw [hwindow] at hborder
    exact absurd hborder (by decide)
  · rintro ⟨hlast, huncaptured, hreversed⟩
    refine ⟨hpaid, huncaptured, hreversed, husage, ?_, ?_, hreview⟩
    · rw [hwindow]
      exact iff_of_false (by decide) (withinWindow_eq_true_iff.mp hw)
    · rw [hwindow]
      exact iff_of_false (by decide) hlast

theorem reported_approve (h : Approvable now facts i p) :
    Reported now facts i p (approve now facts i p) := by
  have hw := withinWindow_eq_true_iff.mp h.refundable.within
  refine ⟨iff_of_true rfl h.refundable.paid, ?_, ?_, rfl, ?_, ?_, ?_⟩
  · exact iff_of_false (by simp [approve]) (by simp [h.refundable.captured])
  · exact iff_of_false (by simp [approve]) (by simp [h.refundable.kept])
  · refine iff_of_false ?_ hw
    simp only [approve]
    split <;> decide
  · simp only [approve, borderlineWindow, decide_eq_true_eq]
    split
    · rename_i hlast
      exact iff_of_true rfl hlast
    · rename_i hlast
      exact iff_of_false (by decide) hlast
  · simp [approve]

theorem unsurprising_contradictory (h : contradictions facts i p ≠ []) :
    Unsurprising now facts i p ↔
      daysSinceInvoice now i ≠ refundWindowDays ∧
        ¬ (p.captured = true ∧ fullyReversed p = true) := by
  constructor
  · intro hu
    refine ⟨fun hlast => h (hu.lastDay hlast).consistent.agree, ?_⟩
    rintro ⟨hcap, hfull⟩
    exact h (hu.reversal hcap hfull).1
  · rintro ⟨hlast, hrev⟩
    exact ⟨fun hl => absurd hl hlast, fun hcap hfull => absurd ⟨hcap, hfull⟩ hrev,
      fun hagree => absurd hagree h⟩

theorem unsurprising_expired (h : withinWindow now i = false) :
    Unsurprising now facts i p ↔ ¬ (p.captured = true ∧ fullyReversed p = true) := by
  have hlate : withinWindow now i ≠ true := by simp [h]
  constructor
  · rintro hu ⟨hcap, hfull⟩
    exact hlate (hu.reversal hcap hfull).2
  · intro hrev
    exact ⟨fun hlast => absurd (withinWindow_of_lastDay hlast) hlate,
      fun hcap hfull => absurd ⟨hcap, hfull⟩ hrev, fun _ hw => absurd hw hlate⟩

/-- Within the window, and not approved. -/
theorem unsurprising_within (hagree : contradictions facts i p = [])
    (hw : withinWindow now i = true) (hno : ¬ Approvable now facts i p) :
    Unsurprising now facts i p ↔
      daysSinceInvoice now i ≠ refundWindowDays ∧ (i.paid = false → p.captured = false) := by
  constructor
  · intro hu
    exact ⟨fun hlast => hno (hu.lastDay hlast), hu.unpaid hagree hw⟩
  · rintro ⟨hlast, hunpaid⟩
    exact ⟨fun hl => absurd hl hlast, fun _ _ => ⟨hagree, hw⟩, fun _ _ => hunpaid⟩

theorem unsurprising_approve (h : Approvable now facts i p) : Unsurprising now facts i p where
  lastDay _ := h
  reversal _ _ := ⟨h.consistent.agree, h.refundable.within⟩
  unpaid _ _ hunpaid := by
    rw [h.refundable.paid] at hunpaid
    cases hunpaid

theorem Consistent.eq_of_facts {i' : Invoice} {p' : Payment} (h : Consistent facts i' p')
    (hi : facts.invoice = some i) (hp : facts.payment = some p) : i = i' ∧ p = p' :=
  ⟨Option.some.inj (hi.symm.trans h.hasInvoice), Option.some.inj (hp.symm.trans h.hasPayment)⟩

/-- **When the statuses are functions of the facts.** With the invoice and the payment at hand,
    exactly when the facts are unsurprising. -/
theorem statuses_iff (now : Time) (facts : BillingFacts) (request : RefundEligibilityRequest)
    {i : Invoice} {p : Payment} (hi : facts.invoice = some i) (hp : facts.payment = some p) :
    Reported now facts i p (evaluate now facts request) ↔ Unsurprising now facts i p := by
  have hruling := evaluate_ruling now facts request
  generalize evaluate now facts request = r at hruling
  cases hruling with
  | missing h =>
    rw [hi, hp] at h
    simp at h
  | contradictory hi' hp' h =>
    obtain rfl := Option.some.inj (hi.symm.trans hi')
    obtain rfl := Option.some.inj (hp.symm.trans hp')
    rw [reported_contradictory, unsurprising_contradictory h]
  | expired hc h =>
    obtain ⟨rfl, rfl⟩ := hc.eq_of_facts hi hp
    rw [reported_denyExpired h, unsurprising_expired h]
  | unpaid hc hw h =>
    obtain ⟨rfl, rfl⟩ := hc.eq_of_facts hi hp
    have hno : ¬ Approvable now facts i p := fun hok => by simp [hok.refundable.paid] at h
    rw [reported_within hw rfl (by simp [denyUnpaid, denial, h]) rfl (by simp [denyUnpaid, denial]),
      unsurprising_within hc.agree hw hno]
    simp +contextual [denyUnpaid, denial, h]
  | uncaptured hc hw hpaid h =>
    obtain ⟨rfl, rfl⟩ := hc.eq_of_facts hi hp
    have hno : ¬ Approvable now facts i p := fun hok => by simp [hok.refundable.captured] at h
    rw [reported_within hw rfl (by simp [denyUncaptured, denial, hpaid]) rfl
      (by simp [denyUncaptured, denial]), unsurprising_within hc.agree hw hno]
    simp [denyUncaptured, denial, h, hpaid]
  | reversed hc hw hpaid hcap h =>
    obtain ⟨rfl, rfl⟩ := hc.eq_of_facts hi hp
    have hno : ¬ Approvable now facts i p := fun hok => by simp [hok.refundable.kept] at h
    rw [reported_within hw rfl (by simp [denyReversed, denial, hpaid]) rfl
      (by simp [denyReversed, denial]), unsurprising_within hc.agree hw hno]
    simp [denyReversed, denial, h, hpaid, hcap]
  | heavyUsage hc hr h =>
    obtain ⟨rfl, rfl⟩ := hc.eq_of_facts hi hp
    have hheavy : usageHeavyThreshold < usageRatio facts.usage := by simpa [isHeavyUsage] using h
    have hno : ¬ Approvable now facts i p := fun hok => absurd hheavy (not_lt.mpr hok.light)
    rw [reported_within hr.within rfl (by simp [denyHeavyUsage, denial, hr.paid])
      (usageLevel_eq_heavy_iff.mpr hheavy).symm (by simp [denyHeavyUsage, denial]),
      unsurprising_within hc.agree hr.within hno]
    simp [denyHeavyUsage, denial, hr.paid, hr.captured, hr.kept]
  | approve hc hr hlight hd =>
    obtain ⟨rfl, rfl⟩ := hc.eq_of_facts hi hp
    have hok : Approvable now facts i p := ⟨hc, hr, by simpa [isHeavyUsage] using hlight, hd⟩
    exact iff_of_true (reported_approve hok) (unsurprising_approve hok)
  | noRule hc hr hlight hd =>
    obtain ⟨rfl, rfl⟩ := hc.eq_of_facts hi hp
    have hno : ¬ Approvable now facts i p := fun hok => by simp [hok.undelivered] at hd
    rw [reported_within hr.within rfl (by simp [noApplicableRule, hr.paid]) rfl
      (by simp [noApplicableRule]), unsurprising_within hc.agree hr.within hno]
    simp [noApplicableRule, hr.paid, hr.captured, hr.kept]

/-- A captured payment on an invoice that is not marked paid. -/
def unpaidInvoice : Invoice where
  invoiceId := "INV-1"
  purchaseReference := "PR-1"
  amount := 49
  currency := "USD"
  issuedAt := 0
  paid := false

def capturedPayment : Payment where
  paymentId := "PAY-1"
  invoiceId := "INV-1"
  captured := true
  amount := 49
  reversedAmount := 0

/-- The captured payment is reported as uncaptured. -/
theorem statuses_uncaptured :
    ¬ Reported 0 { invoice := some unpaidInvoice, payment := some capturedPayment } unpaidInvoice
      capturedPayment
      (evaluate 0 { invoice := some unpaidInvoice, payment := some capturedPayment }
        sampleEligibility) := by
  intro hr
  exact absurd (hr.uncaptured.mp (by decide +kernel)) (by decide)

theorem statuses_paid :
    Reported 0 { invoice := some { unpaidInvoice with paid := true }
                 payment := some capturedPayment }
      { unpaidInvoice with paid := true } capturedPayment
      (evaluate 0 { invoice := some { unpaidInvoice with paid := true }
                    payment := some capturedPayment } sampleEligibility) := by
  refine (statuses_iff 0 _ sampleEligibility rfl rfl).mpr ⟨?_, ?_, ?_⟩
  · intro hlast
    exact absurd hlast (by decide)
  · intro _ hfull
    exact absurd hfull (by decide)
  · intro _ _ hunpaid
    cases hunpaid

end RefundOps.Billing
