import Mathlib.Tactic.Linarith
import RefundOps.Risk.Scoring

/-!
# Who is cleared

A customer is cleared when the level is low and nobody has to look. `assessSignals_low_iff` says
which signals are: those that pass the gates and score below the elevated threshold. Two things
follow from it here. Clearance is monotone: better evidence is cleared wherever worse evidence is
(`clearance_monotone`). And it is given by omission: a rule says nothing about a domain that is not
there, and only a missing refund history lowers the confidence (`full_clearance_iff`).
-/

set_option autoImplicit false

namespace RefundOps.Risk

/-! ## The weights are not negative -/

section Nonneg

theorem domainWeight_nonneg {α : Type} {f : α → ℚ} (h : ∀ a, 0 ≤ f a) (x : Option α) :
    0 ≤ domainWeight f x := by
  cases x with
  | none => exact le_refl 0
  | some a => exact h a

theorem tierWeight_nonneg (high elevated x : Int) : 0 ≤ tierWeight high elevated x := by
  unfold tierWeight
  split
  · norm_num
  · split <;> norm_num

theorem instrumentWeight_nonneg (pi : PaymentInstrumentSignal) : 0 ≤ instrumentWeight pi := by
  unfold instrumentWeight
  split
  · norm_num
  · split <;> norm_num

theorem anomalyWeight_nonneg (beh : BehavioralSignal) : 0 ≤ anomalyWeight beh := by
  unfold anomalyWeight
  split <;> norm_num

theorem deviceWeight_nonneg (beh : BehavioralSignal) : 0 ≤ deviceWeight beh := by
  unfold deviceWeight
  split <;> norm_num

theorem locationWeight_nonneg (beh : BehavioralSignal) : 0 ≤ locationWeight beh := by
  unfold locationWeight
  split <;> norm_num

variable (signals : RiskSignals) (request : RiskAssessmentRequest)

theorem amountWeight_nonneg : 0 ≤ amountWeight signals request := by
  unfold amountWeight
  split <;> norm_num

/-- Each domain weighs at most the total. -/
structure Bounded (total : ℚ) : Prop where
  chargebacks : domainWeight chargebackWeight signals.refundHistory ≤ total
  velocity : domainWeight velocityWeight signals.behavioral ≤ total
  instrument : domainWeight instrumentWeight signals.paymentInstrument ≤ total
  standing : domainWeight standingContribution signals.accountStanding ≤ total
  anomaly : domainWeight anomalyWeight signals.behavioral ≤ total

theorem totalWeight_bounds : Bounded signals (totalWeight signals request) := by
  have hchargebacks := domainWeight_nonneg (f := chargebackWeight)
    (fun _ => tierWeight_nonneg _ _ _) signals.refundHistory
  have hvelocity := domainWeight_nonneg (f := velocityWeight)
    (fun _ => tierWeight_nonneg _ _ _) signals.behavioral
  have hinstrument := domainWeight_nonneg instrumentWeight_nonneg signals.paymentInstrument
  have hstanding := domainWeight_nonneg standingContribution_nonneg signals.accountStanding
  have hanomaly := domainWeight_nonneg anomalyWeight_nonneg signals.behavioral
  have hdevice := domainWeight_nonneg deviceWeight_nonneg signals.behavioral
  have hlocation := domainWeight_nonneg locationWeight_nonneg signals.behavioral
  have hamount := amountWeight_nonneg signals request
  unfold totalWeight
  constructor <;> linarith

end Nonneg

/-! ## Evidence, from better to worse -/

/-- A domain that is no worse than another. An absent one counts as its best value: it is no worse
    than any, and only a domain at its best is no worse than it. -/
def NoWorseDomain {α : Type} (le : α → α → Prop) (best : α → Prop) : Option α → Option α → Prop
  | none, _ => True
  | some a, none => best a
  | some a, some b => le a b

theorem domainWeight_mono {α : Type} {f : α → ℚ} {le : α → α → Prop} {best : α → Prop}
    (hle : ∀ a b, le a b → f a ≤ f b) (hbest : ∀ a, best a → f a ≤ 0) (hpos : ∀ a, 0 ≤ f a)
    {x y : Option α} (h : NoWorseDomain le best x y) : domainWeight f x ≤ domainWeight f y := by
  cases x with
  | none => exact domainWeight_nonneg hpos y
  | some a =>
    cases y with
    | none => exact hbest a h
    | some b => exact hle a b h

/-- Good before watch before restricted. -/
def AccountStatus.rank : AccountStatus → Nat
  | .good => 0
  | .watch => 1
  | .restricted => 2

structure AccountStanding.NoWorse (a b : AccountStanding) : Prop where
  status : a.status.rank ≤ b.status.rank
  tenure : b.tenureDays ≤ a.tenureDays

/-- An account that is not new is as good as any older one. -/
structure AccountStanding.Best (a : AccountStanding) : Prop where
  status : a.status = .good
  tenure : newAccountDays ≤ a.tenureDays

def RefundDisputeHistory.NoWorse (a b : RefundDisputeHistory) : Prop :=
  a.chargebacks ≤ b.chargebacks

def RefundDisputeHistory.Best (a : RefundDisputeHistory) : Prop := a.chargebacks ≤ 0

structure PaymentInstrumentSignal.NoWorse (a b : PaymentInstrumentSignal) : Prop where
  cardTesting : a.cardTestingPattern = true → b.cardTestingPattern = true
  billingDetails : a.billingDetailsMatch = false → b.billingDetailsMatch = false

structure PaymentInstrumentSignal.Best (a : PaymentInstrumentSignal) : Prop where
  cardTesting : a.cardTestingPattern = false
  billingDetails : a.billingDetailsMatch = true

structure BehavioralSignal.NoWorse (a b : BehavioralSignal) : Prop where
  velocity : a.refundRequestsInWindow ≤ b.refundRequestsInWindow
  anomaly : a.anomalyScore.val ≤ b.anomalyScore.val
  device : a.deviceMismatch = true → b.deviceMismatch = true
  ipLocation : a.ipLocationMismatch = true → b.ipLocationMismatch = true
  ipCountry : a.ipCountryMismatch = true → b.ipCountryMismatch = true

structure BehavioralSignal.Best (a : BehavioralSignal) : Prop where
  velocity : a.refundRequestsInWindow ≤ 0
  anomaly : a.anomalyScore.val = 0
  device : a.deviceMismatch = false
  ipLocation : a.ipLocationMismatch = false
  ipCountry : a.ipCountryMismatch = false

/-- The segment; a customer without an account standing counts as standard. -/
def RiskSignals.segment (signals : RiskSignals) : Segment :=
  (signals.accountStanding.map (·.segment)).getD .standard

/-- The first signals are pointwise no worse than the second, of the same segment and the same
    typical refund amount. -/
structure NoWorse (better worse : RiskSignals) : Prop where
  segment : better.segment = worse.segment
  typicalRefundAmount : better.behavioral.bind (·.typicalRefundAmount) =
    worse.behavioral.bind (·.typicalRefundAmount)
  blocklist : blocklisted better = true → blocklisted worse = true
  standing : NoWorseDomain AccountStanding.NoWorse AccountStanding.Best better.accountStanding
    worse.accountStanding
  history : NoWorseDomain RefundDisputeHistory.NoWorse RefundDisputeHistory.Best
    better.refundHistory worse.refundHistory
  instrument : NoWorseDomain PaymentInstrumentSignal.NoWorse PaymentInstrumentSignal.Best
    better.paymentInstrument worse.paymentInstrument
  behavior : NoWorseDomain BehavioralSignal.NoWorse BehavioralSignal.Best better.behavioral
    worse.behavioral

/-! ## The score follows the evidence -/

theorem tierWeight_mono {high elevated x y : Int} (h : x ≤ y) :
    tierWeight high elevated x ≤ tierWeight high elevated y := by
  unfold tierWeight
  by_cases hx : x ≥ high
  · rw [if_pos hx, if_pos (le_trans hx h)]
  · rw [if_neg hx]
    by_cases hx' : x ≥ elevated
    · have hy : y ≥ elevated := le_trans hx' h
      rw [if_pos hx', if_pos hy]
      split <;> norm_num
    · rw [if_neg hx']
      exact tierWeight_nonneg high elevated y

theorem tierWeight_below {high elevated x : Int} (hhigh : x < high) (helevated : x < elevated) :
    tierWeight high elevated x = 0 := by
  unfold tierWeight
  rw [if_neg (not_le.mpr hhigh), if_neg (not_le.mpr helevated)]

theorem instrumentWeight_mono {a b : PaymentInstrumentSignal} (h : a.NoWorse b) :
    instrumentWeight a ≤ instrumentWeight b := by
  obtain ⟨hcard, hmatch⟩ := h
  unfold instrumentWeight
  cases ha : a.cardTestingPattern with
  | true => simp [hcard ha]
  | false =>
    cases hm : a.billingDetailsMatch with
    | true => exact instrumentWeight_nonneg b
    | false =>
      rw [hmatch hm]
      cases b.cardTestingPattern <;> norm_num

/-- A new account on watch weighs as much as a restricted one, so the exception for restricted
    accounts does not turn the order round. -/
theorem standingContribution_mono {a b : AccountStanding} (h : a.NoWorse b) :
    standingContribution a ≤ standingContribution b := by
  obtain ⟨hstatus, htenure⟩ := h
  have hnew : a.tenureDays < newAccountDays → b.tenureDays < newAccountDays :=
    fun hlt => lt_of_le_of_lt htenure hlt
  unfold standingContribution
  cases ha : a.status <;> cases hb : b.status <;> rw [ha, hb] at hstatus <;>
    first
    | exact absurd hstatus (by decide)
    | by_cases hlt : a.tenureDays < newAccountDays
      · simp [hlt, hnew hlt]
        try norm_num
      · by_cases hlt' : b.tenureDays < newAccountDays <;> simp [hlt, hlt'] <;> norm_num

theorem anomalyWeight_mono {a b : BehavioralSignal} (h : a.anomalyScore.val ≤ b.anomalyScore.val) :
    anomalyWeight a ≤ anomalyWeight b := by
  unfold anomalyWeight
  by_cases ha : a.anomalyScore.val ≥ anomalyElevated
  · rw [if_pos ha, if_pos (le_trans ha h)]
  · rw [if_neg ha]
    exact anomalyWeight_nonneg b

theorem flagWeight_mono {p q : Bool} (h : p = true → q = true) :
    (if p then (4 / 10 : ℚ) else 0) ≤ if q then 4 / 10 else 0 := by
  cases p with
  | true => rw [h rfl]
  | false => cases q <;> norm_num

section Monotone

variable {better worse : RiskSignals} {request : RiskAssessmentRequest}

theorem velocity_mono (h : NoWorse better worse) :
    domainWeight velocityWeight better.behavioral ≤ domainWeight velocityWeight worse.behavioral := by
  refine domainWeight_mono (fun a b hab => tierWeight_mono hab.velocity) ?_
    (fun _ => tierWeight_nonneg _ _ _) h.behavior
  intro a ha
  have hv := ha.velocity
  refine le_of_eq (tierWeight_below ?_ ?_)
  · exact lt_of_le_of_lt hv (by decide)
  · exact lt_of_le_of_lt hv (by decide)

theorem chargebacks_mono (h : NoWorse better worse) :
    domainWeight chargebackWeight better.refundHistory ≤
      domainWeight chargebackWeight worse.refundHistory := by
  refine domainWeight_mono (fun a b hab => tierWeight_mono hab) ?_
    (fun _ => tierWeight_nonneg _ _ _) h.history
  intro a ha
  refine le_of_eq (tierWeight_below ?_ ?_)
  · exact lt_of_le_of_lt ha (by decide)
  · exact lt_of_le_of_lt ha (by decide)

theorem instrument_mono (h : NoWorse better worse) :
    domainWeight instrumentWeight better.paymentInstrument ≤
      domainWeight instrumentWeight worse.paymentInstrument := by
  refine domainWeight_mono (fun a b hab => instrumentWeight_mono hab) ?_ instrumentWeight_nonneg
    h.instrument
  intro a ha
  simp [instrumentWeight, ha.cardTesting, ha.billingDetails]

theorem standing_mono (h : NoWorse better worse) :
    domainWeight standingContribution better.accountStanding ≤
      domainWeight standingContribution worse.accountStanding := by
  refine domainWeight_mono (fun a b hab => standingContribution_mono hab) ?_
    standingContribution_nonneg h.standing
  intro a ha
  simp [standingContribution, ha.status, not_lt.mpr ha.tenure]

theorem anomaly_mono (h : NoWorse better worse) :
    domainWeight anomalyWeight better.behavioral ≤ domainWeight anomalyWeight worse.behavioral := by
  refine domainWeight_mono (fun a b hab => anomalyWeight_mono hab.anomaly) ?_ anomalyWeight_nonneg
    h.behavior
  intro a ha
  simp only [anomalyWeight, ha.anomaly]
  norm_num [anomalyElevated]

theorem device_mono (h : NoWorse better worse) :
    domainWeight deviceWeight better.behavioral ≤ domainWeight deviceWeight worse.behavioral := by
  refine domainWeight_mono (fun a b hab => flagWeight_mono hab.device) ?_ deviceWeight_nonneg
    h.behavior
  intro a ha
  simp [ha.device]

theorem location_mono (h : NoWorse better worse) :
    domainWeight locationWeight better.behavioral ≤ domainWeight locationWeight worse.behavioral := by
  refine domainWeight_mono (fun a b hab => flagWeight_mono ?_) ?_ locationWeight_nonneg h.behavior
  · intro hor
    rw [Bool.or_eq_true] at hor ⊢
    exact hor.imp hab.ipLocation hab.ipCountry
  · intro a ha
    simp [ha.ipLocation, ha.ipCountry]

theorem amount_eq (h : NoWorse better worse) :
    amountWeight better request = amountWeight worse request := by
  unfold amountWeight unusualAmount
  rw [h.typicalRefundAmount]

/-- **Worse evidence scores no less.** -/
theorem score_mono (h : NoWorse better worse) : score better request ≤ score worse request := by
  have hchargebacks := chargebacks_mono h
  have hvelocity := velocity_mono h
  have hinstrument := instrument_mono h
  have hstanding := standing_mono h
  have hanomaly := anomaly_mono h
  have hdevice := device_mono h
  have hlocation := location_mono h
  have hamount : amountWeight better request = amountWeight worse request := amount_eq h
  rw [score_eq, score_eq]
  refine min_le_min_right 1 ?_
  unfold totalWeight
  linarith

/-- What weighs enough alone is above the threshold. -/
theorem elevated_of_weight {x : ℚ} (hx : 5 / 10 ≤ x) (hle : x ≤ totalWeight worse request) :
    elevatedThreshold ≤ score worse request := by
  rw [score_eq]
  exact le_min (hx.trans hle) (by norm_num [elevatedThreshold])

/-- Contradictory signals are fast, and that alone is not cleared. -/
theorem fast_of_contradiction {signals : RiskSignals} (h : isContradiction signals = true) :
    domainWeight velocityWeight signals.behavioral = 8 / 10 := by
  unfold isContradiction at h
  rw [Bool.and_eq_true] at h
  obtain ⟨-, hstrong⟩ := h
  cases hb : signals.behavioral with
  | none => simp [hb] at hstrong
  | some beh =>
    cases hp : signals.paymentInstrument with
    | none => simp [hb, hp] at hstrong
    | some pi =>
      simp only [hb, hp, Bool.and_eq_true, decide_eq_true_eq] at hstrong
      simp only [domainWeight, velocityWeight, tierWeight]
      rw [if_pos hstrong.1]

theorem highValueAccount_eq_none_iff {signals : RiskSignals} :
    highValueAccount signals = none ↔ signals.segment = .standard := by
  unfold highValueAccount RiskSignals.segment
  cases signals.accountStanding with
  | none => simp
  | some a => cases hs : a.segment <;> simp [hs]

theorem Cleared.mono (h : NoWorse better worse) (hc : Cleared worse request) :
    Cleared better request where
  ungated :=
    { unlisted := by
        cases hb : blocklisted better with
        | false => rfl
        | true =>
          have hw := h.blocklist hb
          rw [hc.ungated.unlisted] at hw
          cases hw
      ordinary := by
        rw [highValueAccount_eq_none_iff, h.segment]
        exact highValueAccount_eq_none_iff.mp hc.ungated.ordinary
      coherent := by
        cases hb : isContradiction better with
        | false => rfl
        | true =>
          -- the velocity that makes the better signals contradictory keeps the worse ones out
          have hfast := fast_of_contradiction hb
          have hle := velocity_mono h
          rw [hfast] at hle
          have habove := elevated_of_weight (by norm_num) (hle.trans (totalWeight_bounds worse request).velocity)
          exact absurd hc.score (not_lt.mpr habove) }
  score := lt_of_le_of_lt (score_mono h) hc.score

end Monotone

/-- **Clearance is monotone in the evidence.** Where the worse of two customers is cleared, the
    better one is. -/
theorem clearance_monotone (request : RiskAssessmentRequest) (policy : Option FraudPolicy)
    {better worse : RiskSignals} (h : NoWorse better worse)
    (hclear : (assessSignals worse request policy).riskLevel = .low ∧
      (assessSignals worse request policy).requiresHumanReview = false) :
    (assessSignals better request policy).riskLevel = .low ∧
      (assessSignals better request policy).requiresHumanReview = false := by
  rw [assessSignals_low_iff] at hclear ⊢
  exact hclear.mono h

/-- An account on watch that has asked for two refunds lately. -/
def onWatch : RiskSignals where
  customerId := "C-1"
  accountStanding := some { customerId := "C-1", status := .watch, tenureDays := 90 }
  behavioral := some { customerId := "C-1", refundRequestsInWindow := 2 }

/-- The same account in good standing, older, and without behavioral signals. -/
def inGoodStanding : RiskSignals where
  customerId := "C-1"
  accountStanding := some { customerId := "C-1", tenureDays := 400 }

theorem clearance_monotone_standing :
    (assessSignals inGoodStanding sampleReview none).riskLevel = .low ∧
      (assessSignals inGoodStanding sampleReview none).requiresHumanReview = false := by
  have h : NoWorse inGoodStanding onWatch :=
    { segment := rfl
      typicalRefundAmount := rfl
      blocklist := id
      standing := ⟨by decide, by decide⟩
      history := trivial
      instrument := trivial
      behavior := trivial }
  exact clearance_monotone sampleReview none h (by decide +kernel)

/-! ## Clearance by omission -/

/-- Low risk, full confidence, nobody to look and the action to clear. -/
structure FullClearance (r : RiskAssessment) : Prop where
  low : r.riskLevel = .low
  confident : r.confidence.val = 9 / 10
  unreviewed : r.requiresHumanReview = false
  action : r.recommendedAction = .approveRiskClearance

/-- The four domains that the rules look at are there. -/
structure AllPresent (signals : RiskSignals) : Prop where
  accountStanding : signals.accountStanding.isSome = true
  refundHistory : signals.refundHistory.isSome = true
  paymentInstrument : signals.paymentInstrument.isSome = true
  behavioral : signals.behavioral.isSome = true

section Signs

variable (signals : RiskSignals) (request : RiskAssessmentRequest)

/-- A sign that reaches the elevated threshold alone. -/
def seriousSign : Bool :=
  hasChargeback signals ||
    (signals.behavioral.any fun beh =>
      beh.refundRequestsInWindow ≥ velocityElevated || beh.anomalyScore.val ≥ anomalyElevated) ||
    (signals.paymentInstrument.any fun pi => pi.cardTestingPattern || !pi.billingDetailsMatch) ||
    (signals.accountStanding.any fun a => a.status == .restricted)

/-- The signs that need another one: an account on watch, a new account, a device or a location
    that does not fit, an unusual amount. -/
def minorSigns : List Bool :=
  [signals.accountStanding.any fun a => a.status == .watch,
    signals.accountStanding.any fun a => a.tenureDays < newAccountDays && a.status != .restricted,
    signals.behavioral.any (·.deviceMismatch),
    signals.behavioral.any fun beh => beh.ipLocationMismatch || beh.ipCountryMismatch,
    unusualAmount signals request]

def minorWeight (signs : List Bool) : ℚ :=
  (signs.zipWith (fun sign x => if sign then x else 0) [3 / 10, 3 / 10, 4 / 10, 4 / 10, 3 / 10]).sum

/-- One serious sign, or two minor ones. -/
def Alarming : Prop := seriousSign signals = true ∨ 2 ≤ (minorSigns signals request).count true

end Signs

section Omission

variable {signals : RiskSignals} {request : RiskAssessmentRequest}

theorem elevated_of_serious (h : seriousSign signals = true) :
    elevatedThreshold ≤ score signals request := by
  have hb := totalWeight_bounds signals request
  have htier : ∀ {high elevated x : Int}, elevated ≤ x → 5 / 10 ≤ tierWeight high elevated x := by
    intro high elevated x hx
    unfold tierWeight
    rw [if_pos hx]
    split <;> norm_num
  unfold seriousSign at h
  simp only [Bool.or_eq_true] at h
  rcases h with ((h | h) | h) | h
  · unfold hasChargeback at h
    refine elevated_of_weight ?_ hb.chargebacks
    cases hr : signals.refundHistory with
    | none => simp [hr] at h
    | some rh => exact htier (by simpa [hr] using h)
  · obtain ⟨beh, hbeh, hany⟩ := (Option.any_eq_true _ _).mp h
    rw [Bool.or_eq_true, decide_eq_true_eq, decide_eq_true_eq] at hany
    rcases hany with hfast | hanomaly
    · refine elevated_of_weight ?_ hb.velocity
      rw [hbeh]
      exact htier hfast
    · refine elevated_of_weight ?_ hb.anomaly
      rw [hbeh]
      exact le_of_eq (if_pos hanomaly).symm
  · obtain ⟨pi, hpi, hany⟩ := (Option.any_eq_true _ _).mp h
    refine elevated_of_weight ?_ hb.instrument
    rw [hpi]
    simp only [domainWeight, instrumentWeight]
    split
    · norm_num
    · rename_i hcard
      rw [if_pos (by simpa [hcard] using hany)]
  · obtain ⟨a, ha, hany⟩ := (Option.any_eq_true _ _).mp h
    refine elevated_of_weight ?_ hb.standing
    have hstatus : a.status = .restricted := by simpa using hany
    rw [ha]
    simp only [domainWeight, standingContribution, hstatus]
    norm_num

/-- Without a serious sign, only the minor ones weigh. -/
theorem totalWeight_of_minor (h : seriousSign signals = false) :
    totalWeight signals request = minorWeight (minorSigns signals request) := by
  unfold seriousSign at h
  simp only [Bool.or_eq_false_iff] at h
  obtain ⟨⟨⟨hhistory, hbehavior⟩, hinstrument⟩, hstanding⟩ := h
  have hchargebacks : domainWeight chargebackWeight signals.refundHistory = 0 := by
    unfold hasChargeback at hhistory
    cases hr : signals.refundHistory with
    | none => rfl
    | some rh =>
      have hlt : rh.chargebacks < chargebackElevated := by simpa [hr] using hhistory
      exact tierWeight_below (hlt.trans (by decide)) hlt
  have hinstrument : domainWeight instrumentWeight signals.paymentInstrument = 0 := by
    cases hp : signals.paymentInstrument with
    | none => rfl
    | some pi =>
      have hclean : pi.cardTestingPattern = false ∧ pi.billingDetailsMatch = true := by
        simpa [hp] using hinstrument
      simp [domainWeight, instrumentWeight, hclean]
  have hstanding : domainWeight standingContribution signals.accountStanding =
      (if signals.accountStanding.any fun a => a.status == .watch then 3 / 10 else 0) +
        if signals.accountStanding.any fun a =>
          a.tenureDays < newAccountDays && a.status != .restricted then 3 / 10 else 0 := by
    cases ha : signals.accountStanding with
    | none => simp [domainWeight]
    | some a =>
      have hnot : a.status ≠ .restricted := by simpa [ha] using hstanding
      cases hs : a.status with
      | restricted => exact absurd hs hnot
      | watch | good => simp [domainWeight, standingContribution, hs]
  unfold totalWeight minorWeight minorSigns amountWeight
  rw [hchargebacks, hinstrument, hstanding]
  cases hbeh : signals.behavioral with
  | none => simp [domainWeight]; ring
  | some beh =>
    have hcalm : beh.refundRequestsInWindow < velocityElevated ∧
        beh.anomalyScore.val < anomalyElevated := by
      simpa [hbeh] using hbehavior
    have hvelocity : velocityWeight beh = 0 :=
      tierWeight_below (hcalm.1.trans (by decide)) hcalm.1
    have hanomaly : anomalyWeight beh = 0 := if_neg (not_le.mpr hcalm.2)
    simp [domainWeight, hvelocity, hanomaly, deviceWeight, locationWeight]
    ring

/-- One minor sign weighs at most 0.4, two weigh at least 0.6. -/
theorem minorWeight_gap (watched new device location amount : Bool) :
    let signs := [watched, new, device, location, amount]
    (2 ≤ signs.count true → 6 / 10 ≤ minorWeight signs) ∧
      (¬ 2 ≤ signs.count true → minorWeight signs ≤ 4 / 10) := by
  revert watched new device location amount
  decide +kernel

/-- **The threshold in terms of signs.** -/
theorem elevated_of_alarming (h : Alarming signals request) :
    elevatedThreshold ≤ score signals request := by
  cases hserious : seriousSign signals with
  | true => exact elevated_of_serious hserious
  | false =>
    have hminor : 2 ≤ (minorSigns signals request).count true := by
      rcases h with h | h
      · rw [hserious] at h
        cases h
      · exact h
    have hweight := (minorWeight_gap _ _ _ _ _).1 hminor
    refine elevated_of_weight (le_trans ?_ hweight) (totalWeight_of_minor hserious).ge
    norm_num

/-- Short of the threshold, one minor sign is all there can be. -/
theorem score_of_calm (h : ¬ Alarming signals request) : score signals request ≤ 4 / 10 := by
  have hserious : seriousSign signals = false := by
    cases hs : seriousSign signals with
    | false => rfl
    | true => exact absurd (.inl hs) h
  have hminor : ¬ 2 ≤ (minorSigns signals request).count true := fun hm => h (.inr hm)
  rw [score_eq, totalWeight_of_minor hserious]
  exact (min_le_left _ _).trans ((minorWeight_gap _ _ _ _ _).2 hminor)

/-- A score of at most 0.4 is on neither threshold. -/
theorem not_borderline {x : ℚ} (h : x ≤ 4 / 10) : borderline x = false := by
  have helevated : 1 / 10 ≤ |x - elevatedThreshold| := by
    rw [abs_sub_comm]
    refine le_trans ?_ (le_abs_self _)
    norm_num [elevatedThreshold]
    linarith
  have hhigh : 1 / 10 ≤ |x - highThreshold| := by
    rw [abs_sub_comm]
    refine le_trans ?_ (le_abs_self _)
    norm_num [highThreshold]
    linarith
  unfold borderline
  rw [Bool.or_eq_false_iff, decide_eq_false_iff_not, decide_eq_false_iff_not]
  exact ⟨not_lt.mpr (le_trans (by norm_num) helevated), not_lt.mpr (le_trans (by norm_num) hhigh)⟩

theorem calm_of_cleared (h : Cleared signals request) : ¬ Alarming signals request :=
  fun halarm => absurd h.score (not_lt.mpr (elevated_of_alarming halarm))

/-- Contradictory signals are alarming. -/
theorem alarming_of_contradiction (h : isContradiction signals = true) :
    Alarming signals request := by
  by_contra hcalm
  have hfast := fast_of_contradiction h
  have habove : elevatedThreshold ≤ score signals request := elevated_of_weight (by norm_num)
    (hfast.ge.trans (totalWeight_bounds signals request).velocity)
  have hbelow := score_of_calm hcalm
  norm_num [elevatedThreshold] at habove
  linarith

theorem cleared_of_calm (hb : blocklisted signals = false) (ho : highValueAccount signals = none)
    (h : ¬ Alarming signals request) : Cleared signals request where
  ungated :=
    { unlisted := hb
      ordinary := ho
      coherent := by
        cases hc : isContradiction signals with
        | false => rfl
        | true => exact absurd (alarming_of_contradiction hc) h }
  score := lt_of_le_of_lt (score_of_calm h) (by norm_num [elevatedThreshold])

/-- **Full clearance takes a refund history, or no signal at all.** -/
theorem fullClearance_iff_cleared (policy : Option FraudPolicy) :
    FullClearance (assessSignals signals request policy) ↔
      Cleared signals request ∧ missingHistory signals = false := by
  have hlow := assessSignals_low_iff signals request policy
  have hpath := assessSignals_assessed signals request policy
  generalize assessSignals signals request policy = r at hlow hpath
  constructor
  · intro hfull
    have hc := hlow.mp ⟨hfull.low, hfull.unreviewed⟩
    refine ⟨hc, ?_⟩
    have hconf := hfull.confident
    cases hpath with
    | knownFraud => norm_num [knownFraud] at hconf
    | highValue => norm_num [highValue] at hconf
    | contradictory => norm_num [contradictorySignals] at hconf
    | noRiskSignal _ _ h => exact h
    | noRuleMissingHistory => norm_num [noRuleMissingHistory] at hconf
    | scored =>
      cases hm : missingHistory signals with
      | false => rfl
      | true =>
        simp only [scored, hm, Bool.or_true, if_true] at hconf
        norm_num at hconf
  · rintro ⟨hc, hm⟩
    have hclear := hlow.mpr hc
    have hcalm := not_borderline (score_of_calm (calm_of_cleared hc))
    cases hpath with
    | knownFraud => cases hclear.1
    | highValue => cases hclear.2
    | contradictory => cases hclear.1
    | noRiskSignal => exact ⟨rfl, rfl, rfl, rfl⟩
    | noRuleMissingHistory _ _ h =>
      rw [hm] at h
      cases h
    | scored =>
      refine ⟨hclear.1, ?_, hclear.2, ?_⟩
      · simp [scored, hm, hcalm]
      · have hlevel : scoreToLevel (score signals request) = .low := hclear.1
        simp [scored, hlevel, deriveRecommendedAction]

end Omission

/-- **When nobody is cleared by omission.** A customer with a domain missing keeps from full
    clearance exactly when the missing one is the refund history and another is there, when a gate
    stops, or when what is there is alarming enough. -/
theorem full_clearance_iff (signals : RiskSignals) (request : RiskAssessmentRequest)
    (policy : Option FraudPolicy) :
    (FullClearance (assessSignals signals request policy) → AllPresent signals) ↔
      AllPresent signals ∨ missingHistory signals = true ∨ blocklisted signals = true ∨
        (highValueAccount signals).isSome = true ∨ Alarming signals request := by
  rw [fullClearance_iff_cleared]
  constructor
  · intro h
    by_contra hnone
    simp only [not_or, Bool.not_eq_true, Option.isSome_eq_false_iff, Option.isNone_iff_eq_none]
      at hnone
    obtain ⟨habsent, hm, hb, ho, hcalm⟩ := hnone
    exact habsent (h ⟨cleared_of_calm hb ho hcalm, hm⟩)
  · rintro (hall | hm | hb | ho | halarm) ⟨hc, hhistory⟩
    · exact hall
    · rw [hhistory] at hm
      cases hm
    · rw [hc.ungated.unlisted] at hb
      cases hb
    · rw [hc.ungated.ordinary] at ho
      cases ho
    · exact absurd halarm (calm_of_cleared hc)

/-- A customer of whom nothing but a clean refund history is known. -/
def historyOnly : RiskSignals where
  customerId := "C-1"
  refundHistory := some { customerId := "C-1" }

theorem full_clearance_of_omission :
    FullClearance (assessSignals historyOnly sampleReview none) ∧ ¬ AllPresent historyOnly := by
  constructor
  · constructor <;> decide +kernel
  · intro hall
    exact absurd hall.behavioral (by decide)

end RefundOps.Risk
