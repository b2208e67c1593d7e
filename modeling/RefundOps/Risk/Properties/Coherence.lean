import RefundOps.Lib.Dict
import RefundOps.Risk.Scoring

/-!
# The assessments agree with themselves

`scoring.py` says some things twice. The score is summed up once from the rules that fired and once
more by `_compute_score`; and each of the six ways through `assess_signals` writes down the level,
the action, the review flag, the evidence and the references by hand. The two scores are equal
(`computeScore_eq`), and what is written down agrees on all six ways (`assessment_coherent`).
-/

set_option autoImplicit false

namespace RefundOps.Risk

/-! ## The two scores -/

section Steps

variable (signals : RiskSignals) (request : RiskAssessmentRequest) (x : ℚ)

theorem addChargebacks_eq :
    addChargebacks signals x = x + domainWeight chargebackWeight signals.refundHistory := by
  unfold addChargebacks domainWeight
  cases signals.refundHistory with
  | none => simp
  | some rh =>
    simp only [chargebackWeight, tierWeight]
    split
    · rfl
    · split <;> simp

theorem addVelocity_eq :
    addVelocity signals x = x + domainWeight velocityWeight signals.behavioral := by
  unfold addVelocity domainWeight
  cases signals.behavioral with
  | none => simp
  | some beh =>
    simp only [velocityWeight, tierWeight]
    split
    · rfl
    · split <;> simp

theorem addInstrument_eq :
    addInstrument signals x = x + domainWeight instrumentWeight signals.paymentInstrument := by
  unfold addInstrument domainWeight
  cases signals.paymentInstrument with
  | none => simp
  | some pi =>
    simp only [instrumentWeight]
    split
    · rfl
    · split <;> simp

/-- The status first and the new account after it, where the rule adds the two up before. -/
theorem addStanding_eq :
    addStanding signals x = x + domainWeight standingContribution signals.accountStanding := by
  unfold addStanding domainWeight
  cases signals.accountStanding with
  | none => simp
  | some a =>
    simp only [standingContribution]
    cases a.status with
    | restricted => simp
    | watch | good =>
      simp only [reduceCtorEq, if_false, if_true, ne_eq, not_false_eq_true, and_true]
      split <;> ring

theorem addAnomaly_eq :
    addAnomaly signals x = x + domainWeight anomalyWeight signals.behavioral := by
  unfold addAnomaly domainWeight
  cases signals.behavioral with
  | none => simp
  | some beh =>
    simp only [anomalyWeight]
    split <;> simp

theorem addDevice_eq : addDevice signals x = x + domainWeight deviceWeight signals.behavioral := by
  unfold addDevice domainWeight
  cases signals.behavioral with
  | none => simp
  | some beh =>
    simp only [deviceWeight]
    split <;> simp

theorem addLocation_eq :
    addLocation signals x = x + domainWeight locationWeight signals.behavioral := by
  unfold addLocation domainWeight
  cases signals.behavioral with
  | none => simp
  | some beh =>
    simp only [locationWeight]
    split <;> simp

theorem addAmount_eq : addAmount signals request x = x + amountWeight signals request := by
  unfold addAmount amountWeight
  cases hb : signals.behavioral with
  | none => simp [unusualAmount, hb]
  | some beh =>
    cases ht : beh.typicalRefundAmount with
    | none => simp [unusualAmount, hb, ht]
    | some typical =>
      cases hr : request.requestedRefundAmount with
      | none => simp [unusualAmount, hb, ht, hr]
      | some requested =>
        simp only [unusualAmount, hb, ht, hr, Option.bind_some, Bool.and_eq_true,
          decide_eq_true_eq]
        split <;> simp

/-- **The two implementations of the score agree.** -/
theorem computeScore_eq : computeScore signals request = score signals request := by
  unfold computeScore
  simp only [addChargebacks_eq, addVelocity_eq, addInstrument_eq, addStanding_eq, addAnomaly_eq,
    addDevice_eq, addLocation_eq, addAmount_eq]
  rw [score_eq, totalWeight, zero_add]

end Steps

/-! ## The segment gate -/

section Segment

variable (signals : RiskSignals) (request : RiskAssessmentRequest) (policy : Option FraudPolicy)

/-- The same signals, of an account of the standard segment. -/
def RiskSignals.demoted : RiskSignals :=
  { signals with
    accountStanding := signals.accountStanding.map fun a => { a with segment := .standard } }

/-- The rules do not look at the segment. -/
theorem score_demoted : score signals.demoted request = score signals request := by
  have hstanding : domainWeight standingContribution signals.demoted.accountStanding =
      domainWeight standingContribution signals.accountStanding := by
    unfold RiskSignals.demoted
    cases signals.accountStanding with
    | none => rfl
    | some a => rfl
  rw [score_eq, score_eq, totalWeight, hstanding]
  rfl

theorem isContradiction_demoted : isContradiction signals.demoted = isContradiction signals := by
  unfold isContradiction RiskSignals.demoted
  cases signals.accountStanding with
  | none => rfl
  | some a => rfl

theorem highValueAccount_demoted : highValueAccount signals.demoted = none := by
  unfold highValueAccount RiskSignals.demoted
  cases signals.accountStanding with
  | none => rfl
  | some a => rfl

variable {signals}

/-- Past the gates the score decides, also where no rule fired. -/
theorem assessSignals_riskLevel (hu : Ungated signals) :
    (assessSignals signals request policy).riskLevel = scoreToLevel (score signals request) := by
  have hlow : scoreToLevel 0 = .low := scoreToLevel_eq_low_iff.mpr (by norm_num [elevatedThreshold])
  rcases assessed_past_gates (assessSignals_assessed signals request policy) hu with ⟨hf, hr | hr⟩ | hr
  · rw [hr, score_of_silent hf, hlow]
    rfl
  · rw [hr, score_of_silent hf, hlow]
    rfl
  · rw [hr]
    rfl

theorem assessSignals_highValue {a : AccountStanding} (hb : blocklisted signals = false)
    (ha : highValueAccount signals = some a) :
    assessSignals signals request policy = highValue signals request a := by
  unfold assessSignals
  simp only [hb, ha, Bool.false_eq_true, if_false]

end Segment

/-- **The second score is the first one.** So the level that the segment gate reports is the level
    that the same signals get from the standard path, and silent rules score nothing on either. -/
theorem scores_agree (signals : RiskSignals) (request : RiskAssessmentRequest)
    (policy : Option FraudPolicy) :
    computeScore signals request = score signals request ∧
      (∀ a, blocklisted signals = false → highValueAccount signals = some a →
        (assessSignals signals request policy).riskLevel = scoreToLevel (score signals request) ∧
        (isContradiction signals = false →
          (assessSignals signals request policy).riskLevel =
            (assessSignals signals.demoted request policy).riskLevel)) ∧
      (firedRules signals request = [] →
        computeScore signals request = 0 ∧ score signals request = 0) := by
  refine ⟨computeScore_eq signals request, ?_, ?_⟩
  · intro a hb ha
    have hlevel : (assessSignals signals request policy).riskLevel =
        scoreToLevel (score signals request) := by
      rw [assessSignals_highValue request policy hb ha, ← computeScore_eq]
      rfl
    refine ⟨hlevel, fun hc => ?_⟩
    have hu : Ungated signals.demoted :=
      ⟨hb, highValueAccount_demoted signals, (isContradiction_demoted signals).trans hc⟩
    rw [hlevel, assessSignals_riskLevel request policy hu, score_demoted]
  · intro hf
    rw [computeScore_eq, score_of_silent hf]
    exact ⟨rfl, rfl⟩

/-- A vip on watch, with a chargeback. -/
def watchedVip : RiskSignals where
  customerId := "C-1"
  accountStanding := some { customerId := "C-1", status := .watch, tenureDays := 90, segment := .vip }
  refundHistory := some { customerId := "C-1", chargebacks := 1 }

theorem scores_agree_vip :
    (assessSignals watchedVip sampleReview none).riskLevel = .high ∧
      (assessSignals watchedVip.demoted sampleReview none).riskLevel = .high := by
  obtain ⟨hlevel, hsame⟩ := (scores_agree watchedVip sampleReview none).2.1 _ rfl rfl
  have hhigh : scoreToLevel (score watchedVip sampleReview) = .high := by decide +kernel
  exact ⟨hlevel.trans hhigh, (hsame rfl).symm.trans (hlevel.trans hhigh)⟩

/-! ## One assessment -/

/-- The segment gate is reached and stops. -/
def segmentGate (signals : RiskSignals) : Bool :=
  !blocklisted signals && (highValueAccount signals).isSome

/-- What the fields of an assessment say about one another. -/
structure Coherent (signals : RiskSignals) (r : RiskAssessment) : Prop where
  review : r.requiresHumanReview = true ↔ r.recommendedAction = .manualReview
  denial : r.recommendedAction = .denyOrEscalate ↔
    r.riskLevel = .high ∧ segmentGate signals = false
  clearance : r.recommendedAction = .approveRiskClearance ↔
    r.riskLevel = .low ∧ r.requiresHumanReview = false
  evidence : r.evidence ≠ []
  distinct : r.policyReferences.Nodup
  cited : ∀ id ∈ r.policyReferences, ∃ item ∈ r.evidence, item.value.get? "rule" = some (.str id)

section Assessment

variable {signals : RiskSignals} {request : RiskAssessmentRequest} {policy : FraudPolicy}

theorem segmentGate_of_ungated (hu : Ungated signals) : segmentGate signals = false := by
  unfold segmentGate
  rw [hu.ordinary]
  exact Bool.and_false _

/-- Each rule that fired is cited by the evidence it left. -/
theorem cited_of_fired {id : String}
    (h : id ∈ ((firedRules signals request).map (·.rule.id)).eraseDups) :
    ∃ item ∈ scoreEvidence signals request policy, item.value.get? "rule" = some (.str id) := by
  rw [List.mem_eraseDups, List.mem_map] at h
  obtain ⟨fired, hfired, rfl⟩ := h
  refine ⟨_, List.mem_append_left _ (List.mem_flatMap.mpr ⟨fired, hfired, List.mem_cons_self⟩), ?_⟩
  rfl

/-- A single rule is cited by the item that names it. -/
theorem cited_of_item {id : String} {evidence : List EvidenceItem} {item : EvidenceItem}
    (hitem : item ∈ evidence) (hrule : item.value.get? "rule" = some (.str id)) :
    ∀ id' ∈ [id], ∃ item ∈ evidence, item.value.get? "rule" = some (.str id') := by
  intro id' hid
  obtain rfl := List.mem_singleton.mp hid
  exact ⟨item, hitem, hrule⟩

/-! What each way makes. -/

theorem knownFraud_coherent (h : blocklisted signals = true) :
    Coherent signals (knownFraud signals policy) := by
  have hgate : segmentGate signals = false := by simp [segmentGate, h]
  constructor
  · simp [knownFraud]
  · simp [knownFraud, hgate]
  · simp [knownFraud]
  · simp [knownFraud]
  · simp [knownFraud]
  · exact cited_of_item (List.mem_cons_of_mem _ List.mem_cons_self) rfl

theorem highValue_coherent {a : AccountStanding} (hb : blocklisted signals = false)
    (h : highValueAccount signals = some a) : Coherent signals (highValue signals request a) := by
  have hgate : segmentGate signals = true := by simp [segmentGate, hb, h]
  constructor
  · simp [highValue]
  · simp [highValue, hgate]
  · simp [highValue]
  · simp [highValue]
  · simp [highValue]
  · exact cited_of_item (List.mem_cons_of_mem _ List.mem_cons_self) rfl

theorem contradictory_coherent : Coherent signals (contradictorySignals signals) := by
  constructor
  · simp [contradictorySignals]
  · simp [contradictorySignals]
  · simp [contradictorySignals]
  · simp [contradictorySignals]
  · simp [contradictorySignals]
  · -- the last of the five items names the gate
    exact cited_of_item
      (List.getLast_mem (l := (contradictorySignals signals).evidence)
        (by simp [contradictorySignals])) rfl

/-- Where no rule fired the risk is low, and nobody looks at it. -/
theorem coherent_of_low {r : RiskAssessment} {more : List EvidenceItem}
    (hlevel : r.riskLevel = .low) (haction : r.recommendedAction = .approveRiskClearance)
    (hreview : r.requiresHumanReview = false)
    (hevidence : r.evidence = scoreEvidence signals request policy ++ more) (hmore : more ≠ [])
    (hcited : r.policyReferences = ((firedRules signals request).map (·.rule.id)).eraseDups) :
    Coherent signals r := by
  constructor
  · simp [haction, hreview]
  · simp [haction, hlevel]
  · simp [haction, hlevel, hreview]
  · simp [hevidence, hmore]
  · rw [hcited]
    exact nodup_eraseDups _
  · intro id hid
    rw [hcited] at hid
    obtain ⟨item, hitem, hrule⟩ := cited_of_fired hid
    exact ⟨item, hevidence ▸ List.mem_append_left _ hitem, hrule⟩

/-- On the standard path the action follows the level, and the review an elevated level with a
    chargeback. -/
theorem scored_coherent (hu : Ungated signals) (hf : firedRules signals request ≠ []) :
    Coherent signals (scored signals request policy) where
  review := by
    simp only [scored]
    cases scoreToLevel (score signals request) <;> cases hasChargeback signals <;> decide
  denial := by
    simp only [scored, segmentGate_of_ungated hu]
    cases scoreToLevel (score signals request) <;> cases hasChargeback signals <;> decide
  clearance := by
    simp only [scored]
    cases scoreToLevel (score signals request) <;> cases hasChargeback signals <;> decide
  evidence := by
    intro hnil
    have hfired := (List.append_eq_nil_iff.mp hnil).1
    rw [List.flatMap_eq_nil_iff] at hfired
    obtain ⟨fired, hmem⟩ := List.exists_mem_of_ne_nil _ hf
    exact absurd (hfired fired hmem) (by simp [ruleEvidence])
  distinct := nodup_eraseDups _
  cited := fun _ h => cited_of_fired h

end Assessment

/-- **Every assessment agrees with itself**, whichever way it was made. -/
theorem assessment_coherent (signals : RiskSignals) (request : RiskAssessmentRequest)
    (policy : Option FraudPolicy) : Coherent signals (assessSignals signals request policy) := by
  have hpath := assessSignals_assessed signals request policy
  generalize assessSignals signals request policy = r at hpath
  cases hpath with
  | knownFraud h => exact knownFraud_coherent h
  | highValue hb h => exact highValue_coherent hb h
  | contradictory => exact contradictory_coherent
  | noRiskSignal => exact coherent_of_low rfl rfl rfl rfl (List.cons_ne_nil _ _) rfl
  | noRuleMissingHistory => exact coherent_of_low rfl rfl rfl rfl (List.cons_ne_nil _ _) rfl
  | scored hu hf => exact scored_coherent hu hf

end RefundOps.Risk
