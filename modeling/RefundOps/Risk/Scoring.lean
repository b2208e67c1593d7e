import Mathlib.Algebra.Order.Field.Rat
import RefundOps.Risk.Models

/-!
# The fraud score

`scoring.py`. Three gates come before the score: the blocklist, the high-value segments, and a
clean baseline that coexists with strong fraud signals. What passes them is scored by the rules
FP-002 to FP-009, each of which adds its contribution; the sum, capped at one, gives the level.

`Assessed` lists the ways through `assess_signals` with their guards, as `Ruling` does for the
refund rules.
-/

set_option autoImplicit false

namespace RefundOps.Risk

/-! ## The rules -/

inductive FraudRule where
  | fp002
  | fp003
  | fp004
  | fp005
  | fp006
  | fp007
  | fp008
  | fp009
  deriving DecidableEq, Repr

def FraudRule.id : FraudRule → String
  | .fp002 => "FP-002"
  | .fp003 => "FP-003"
  | .fp004 => "FP-004"
  | .fp005 => "FP-005"
  | .fp006 => "FP-006"
  | .fp007 => "FP-007"
  | .fp008 => "FP-008"
  | .fp009 => "FP-009"

structure FiredRule where
  rule : FraudRule
  domain : String
  contribution : ℚ

section Rules

variable (signals : RiskSignals) (request : RiskAssessmentRequest)

/-- FP-002: chargeback history. -/
def chargebackRule : List FiredRule :=
  match signals.refundHistory with
  | some rh =>
      if rh.chargebacks ≥ chargebackHigh then [⟨.fp002, "refund_history", 8 / 10⟩]
      else if rh.chargebacks ≥ chargebackElevated then [⟨.fp002, "refund_history", 5 / 10⟩]
      else []
  | none => []

/-- FP-003: refund velocity. -/
def velocityRule : List FiredRule :=
  match signals.behavioral with
  | some beh =>
      if beh.refundRequestsInWindow ≥ velocityHigh then [⟨.fp003, "behavioral", 8 / 10⟩]
      else if beh.refundRequestsInWindow ≥ velocityElevated then
        [⟨.fp003, "behavioral", 5 / 10⟩]
      else []
  | none => []

/-- FP-004: instrument mismatch or card testing. -/
def instrumentRule : List FiredRule :=
  match signals.paymentInstrument with
  | some pi =>
      if pi.cardTestingPattern then [⟨.fp004, "payment_instrument", 6 / 10⟩]
      else if !pi.billingDetailsMatch then [⟨.fp004, "payment_instrument", 5 / 10⟩]
      else []
  | none => []

/-- A new account, unless it is restricted, adds to what the status contributes. -/
def standingContribution (a : AccountStanding) : ℚ :=
  (match a.status with
    | .restricted => 6 / 10
    | .watch => 3 / 10
    | .good => 0) +
  (if a.tenureDays < newAccountDays ∧ a.status ≠ .restricted then 3 / 10 else 0)

/-- FP-005: account standing. -/
def standingRule : List FiredRule :=
  match signals.accountStanding with
  | some a =>
      if standingContribution a > 0 then [⟨.fp005, "account_standing", standingContribution a⟩]
      else []
  | none => []

/-- FP-006: behavioral anomaly. -/
def anomalyRule : List FiredRule :=
  match signals.behavioral with
  | some beh =>
      if beh.anomalyScore.val ≥ anomalyElevated then [⟨.fp006, "behavioral", 5 / 10⟩] else []
  | none => []

/-- FP-007: device mismatch. -/
def deviceRule : List FiredRule :=
  match signals.behavioral with
  | some beh => if beh.deviceMismatch then [⟨.fp007, "behavioral", 4 / 10⟩] else []
  | none => []

/-- FP-008: IP or location mismatch. -/
def locationRule : List FiredRule :=
  match signals.behavioral with
  | some beh =>
      if beh.ipLocationMismatch || beh.ipCountryMismatch then [⟨.fp008, "behavioral", 4 / 10⟩]
      else []
  | none => []

/-- The request is for a multiple of what the customer usually asks back. -/
def unusualAmount : Bool :=
  match signals.behavioral.bind (·.typicalRefundAmount), request.requestedRefundAmount with
  | some typical, some requested =>
      typical.val > 0 && requested.val ≥ typical.val * unusualAmountRatio
  | _, _ => false

/-- FP-009: unusual refund amount. -/
def amountRule : List FiredRule :=
  if unusualAmount signals request then [⟨.fp009, "behavioral", 3 / 10⟩] else []

def firedRules : List FiredRule :=
  chargebackRule signals ++ velocityRule signals ++ instrumentRule signals ++
    standingRule signals ++ anomalyRule signals ++ deviceRule signals ++ locationRule signals ++
    amountRule signals request

/-- The contributions summed up, capped at one. -/
def score : ℚ := min ((firedRules signals request).map (·.contribution)).sum 1

/-- `_score_to_level`. -/
def scoreToLevel (score : ℚ) : RiskLevel :=
  if score ≥ highThreshold then .high
  else if score ≥ elevatedThreshold then .elevated
  else .low

/-! `_compute_score` sums the score up once more, without the evidence, for the segment gate. It is
    a second implementation with conditions of its own; here are its statements, one after the
    other. -/

def addChargebacks (score : ℚ) : ℚ :=
  match signals.refundHistory with
  | some rh =>
      if rh.chargebacks ≥ chargebackHigh then score + 8 / 10
      else if rh.chargebacks ≥ chargebackElevated then score + 5 / 10
      else score
  | none => score

def addVelocity (score : ℚ) : ℚ :=
  match signals.behavioral with
  | some beh =>
      if beh.refundRequestsInWindow ≥ velocityHigh then score + 8 / 10
      else if beh.refundRequestsInWindow ≥ velocityElevated then score + 5 / 10
      else score
  | none => score

def addInstrument (score : ℚ) : ℚ :=
  match signals.paymentInstrument with
  | some pi =>
      if pi.cardTestingPattern then score + 6 / 10
      else if !pi.billingDetailsMatch then score + 5 / 10
      else score
  | none => score

def addStanding (score : ℚ) : ℚ :=
  match signals.accountStanding with
  | some a =>
      let score :=
        if a.status = .restricted then score + 6 / 10
        else if a.status = .watch then score + 3 / 10
        else score
      if a.tenureDays < newAccountDays ∧ a.status ≠ .restricted then score + 3 / 10 else score
  | none => score

def addAnomaly (score : ℚ) : ℚ :=
  match signals.behavioral with
  | some beh => if beh.anomalyScore.val ≥ anomalyElevated then score + 5 / 10 else score
  | none => score

def addDevice (score : ℚ) : ℚ :=
  match signals.behavioral with
  | some beh => if beh.deviceMismatch then score + 4 / 10 else score
  | none => score

def addLocation (score : ℚ) : ℚ :=
  match signals.behavioral with
  | some beh => if beh.ipLocationMismatch || beh.ipCountryMismatch then score + 4 / 10 else score
  | none => score

def addAmount (score : ℚ) : ℚ :=
  match signals.behavioral with
  | some beh =>
      match beh.typicalRefundAmount, request.requestedRefundAmount with
      | some typical, some requested =>
          if typical.val > 0 ∧ requested.val ≥ typical.val * unusualAmountRatio then score + 3 / 10
          else score
      | _, _ => score
  | none => score

/-- `_compute_score`. -/
def computeScore : ℚ :=
  let score := addChargebacks signals 0
  let score := addVelocity signals score
  let score := addInstrument signals score
  let score := addStanding signals score
  let score := addAnomaly signals score
  let score := addDevice signals score
  let score := addLocation signals score
  let score := addAmount signals request score
  min score 1

end Rules

/-! ## What the rules weigh -/

/-- The contributions of rules, summed up. -/
def weight (fired : List FiredRule) : ℚ := (fired.map (·.contribution)).sum

@[simp] theorem weight_nil : weight [] = 0 := rfl

@[simp] theorem weight_singleton (fired : FiredRule) : weight [fired] = fired.contribution := by
  simp [weight]

theorem weight_append (fired fired' : List FiredRule) :
    weight (fired ++ fired') = weight fired + weight fired' := by
  simp [weight]

/-- What a domain weighs; an absent one weighs nothing. -/
def domainWeight {α : Type} (f : α → ℚ) : Option α → ℚ
  | none => 0
  | some a => f a

/-- Two tiers, for counts. -/
def tierWeight (high elevated x : Int) : ℚ :=
  if x ≥ high then 8 / 10 else if x ≥ elevated then 5 / 10 else 0

def chargebackWeight (rh : RefundDisputeHistory) : ℚ :=
  tierWeight chargebackHigh chargebackElevated rh.chargebacks

def velocityWeight (beh : BehavioralSignal) : ℚ :=
  tierWeight velocityHigh velocityElevated beh.refundRequestsInWindow

def instrumentWeight (pi : PaymentInstrumentSignal) : ℚ :=
  if pi.cardTestingPattern then 6 / 10 else if !pi.billingDetailsMatch then 5 / 10 else 0

def anomalyWeight (beh : BehavioralSignal) : ℚ :=
  if beh.anomalyScore.val ≥ anomalyElevated then 5 / 10 else 0

def deviceWeight (beh : BehavioralSignal) : ℚ := if beh.deviceMismatch then 4 / 10 else 0

def locationWeight (beh : BehavioralSignal) : ℚ :=
  if beh.ipLocationMismatch || beh.ipCountryMismatch then 4 / 10 else 0

section Weights

variable (signals : RiskSignals) (request : RiskAssessmentRequest)

def amountWeight : ℚ := if unusualAmount signals request then 3 / 10 else 0

/-- The rules as one sum over the domains. -/
def totalWeight : ℚ :=
  domainWeight chargebackWeight signals.refundHistory +
    domainWeight velocityWeight signals.behavioral +
    domainWeight instrumentWeight signals.paymentInstrument +
    domainWeight standingContribution signals.accountStanding +
    domainWeight anomalyWeight signals.behavioral + domainWeight deviceWeight signals.behavioral +
    domainWeight locationWeight signals.behavioral + amountWeight signals request

theorem standingContribution_nonneg (a : AccountStanding) : 0 ≤ standingContribution a := by
  unfold standingContribution
  cases a.status <;> dsimp only <;> split <;> norm_num

theorem weight_chargebackRule :
    weight (chargebackRule signals) = domainWeight chargebackWeight signals.refundHistory := by
  unfold chargebackRule
  cases signals.refundHistory with
  | none => rfl
  | some rh =>
    simp only [domainWeight, chargebackWeight, tierWeight]
    split
    · simp
    · split <;> simp

theorem weight_velocityRule :
    weight (velocityRule signals) = domainWeight velocityWeight signals.behavioral := by
  unfold velocityRule
  cases signals.behavioral with
  | none => rfl
  | some beh =>
    simp only [domainWeight, velocityWeight, tierWeight]
    split
    · simp
    · split <;> simp

theorem weight_instrumentRule :
    weight (instrumentRule signals) = domainWeight instrumentWeight signals.paymentInstrument := by
  unfold instrumentRule
  cases signals.paymentInstrument with
  | none => rfl
  | some pi =>
    simp only [domainWeight, instrumentWeight]
    split
    · simp
    · split <;> simp

theorem weight_standingRule :
    weight (standingRule signals) = domainWeight standingContribution signals.accountStanding := by
  unfold standingRule
  cases signals.accountStanding with
  | none => rfl
  | some a =>
    simp only [domainWeight]
    split
    · simp
    · rename_i h
      -- a rule that did not fire had nothing to contribute
      rw [weight_nil]
      exact le_antisymm (standingContribution_nonneg a) (not_lt.mp h)

theorem weight_anomalyRule :
    weight (anomalyRule signals) = domainWeight anomalyWeight signals.behavioral := by
  unfold anomalyRule
  cases signals.behavioral with
  | none => rfl
  | some beh =>
    simp only [domainWeight, anomalyWeight]
    split <;> simp

theorem weight_deviceRule :
    weight (deviceRule signals) = domainWeight deviceWeight signals.behavioral := by
  unfold deviceRule
  cases signals.behavioral with
  | none => rfl
  | some beh =>
    simp only [domainWeight, deviceWeight]
    split <;> simp

theorem weight_locationRule :
    weight (locationRule signals) = domainWeight locationWeight signals.behavioral := by
  unfold locationRule
  cases signals.behavioral with
  | none => rfl
  | some beh =>
    simp only [domainWeight, locationWeight]
    split <;> simp

theorem weight_amountRule : weight (amountRule signals request) = amountWeight signals request := by
  unfold amountRule amountWeight
  split <;> simp

theorem weight_firedRules : weight (firedRules signals request) = totalWeight signals request := by
  unfold firedRules totalWeight
  simp only [weight_append, weight_chargebackRule, weight_velocityRule, weight_instrumentRule,
    weight_standingRule, weight_anomalyRule, weight_deviceRule, weight_locationRule,
    weight_amountRule]

/-- **The score is the total weight, capped.** -/
theorem score_eq : score signals request = min (totalWeight signals request) 1 := by
  rw [← weight_firedRules]
  rfl

end Weights

/-! ## The gates -/

def blocklisted (signals : RiskSignals) : Bool :=
  match signals.knownFraud with
  | some k => k.onBlocklist
  | none => false

/-- The standing of a vip or enterprise account. -/
def highValueAccount (signals : RiskSignals) : Option AccountStanding :=
  match signals.accountStanding with
  | some a => if a.segment = .vip ∨ a.segment = .enterprise then some a else none
  | none => none

/-- `_is_contradiction`. -/
def isContradiction (signals : RiskSignals) : Bool :=
  let cleanLow := match signals.accountStanding with
    | some a =>
        a.status == .good && a.tenureDays ≥ newAccountDays &&
          (match signals.refundHistory with
            | none => true
            | some rh => rh.chargebacks == 0)
    | none => false
  let strongHigh := match signals.behavioral, signals.paymentInstrument with
    | some beh, some pi => beh.refundRequestsInWindow ≥ velocityHigh && !pi.billingDetailsMatch
    | _, _ => false
  cleanLow && strongHigh

/-- The refund history is absent while another domain is there. -/
def missingHistory (signals : RiskSignals) : Bool :=
  signals.refundHistory.isNone &&
    (signals.accountStanding.isSome || signals.paymentInstrument.isSome ||
      signals.behavioral.isSome)

def hasChargeback (signals : RiskSignals) : Bool :=
  match signals.refundHistory with
  | some rh => rh.chargebacks ≥ chargebackElevated
  | none => false

/-- A score on a threshold. -/
def borderline (score : ℚ) : Bool :=
  |score - elevatedThreshold| < 1 / 10 ^ 9 || |score - highThreshold| < 1 / 10 ^ 9

/-- `_derive_recommended_action`. -/
def deriveRecommendedAction (level : RiskLevel) (hasChargeback : Bool) : RecommendedAction :=
  match level with
  | .high => .denyOrEscalate
  | .elevated => if hasChargeback then .manualReview else .allowWithCaution
  | .low => .approveRiskClearance

/-! ## Evidence -/

/-- `_rule_description`. -/
def ruleDescription (rule : FraudRule) (signals : RiskSignals) : String :=
  match rule with
  | .fp002 =>
      "Chargeback history: " ++
        toString ((signals.refundHistory.map (·.chargebacks)).getD 0) ++ " prior chargebacks"
  | .fp003 =>
      "Refund velocity: " ++
        toString ((signals.behavioral.map (·.refundRequestsInWindow)).getD 0) ++
        " requests in window"
  | .fp004 =>
      if (signals.paymentInstrument.map (·.cardTestingPattern)).getD false then
        "Card testing pattern detected"
      else "Billing details mismatch"
  | .fp005 =>
      let parts := match signals.accountStanding with
        | some a =>
            (if a.status ≠ .good then ["status=" ++ a.status.value] else []) ++
            (if a.tenureDays < newAccountDays then ["tenure_days=" ++ toString a.tenureDays]
              else [])
        | none => []
      if parts.isEmpty then "Account standing"
      else "Account standing: " ++ Text.join ", " parts
  | .fp006 =>
      "Behavioral anomaly: score=" ++
        Text.fixed 2 ((signals.behavioral.map (·.anomalyScore.val)).getD 0)
  | .fp007 => "Device mismatch detected"
  | .fp008 => "IP/location mismatch detected"
  | .fp009 => "Unusual refund amount relative to typical history"

/-- The two items each fired rule leaves: the signal, and the rule that it fired. -/
def ruleEvidence (policy : FraudPolicy) (signals : RiskSignals) (fired : FiredRule) :
    List EvidenceItem :=
  [{ source := fired.domain
     description := fired.rule.id ++ ": " ++ ruleDescription fired.rule signals
     value := .obj [("rule", .str fired.rule.id), ("contribution", .num fired.contribution)] },
   { source := "fraud_policy"
     description := fired.rule.id ++ ": policy rule fired"
     value := .obj
       [("rule", .str fired.rule.id), ("contribution", .num fired.contribution),
         ("policy", .str policy.policyName)] }]

def missingHistoryEvidence (signals : RiskSignals) : List EvidenceItem :=
  if missingHistory signals then
    [{ source := "refund_history"
       description := "Missing refund history: confidence lowered"
       value := .obj [("refund_history", .null), ("note", .str "partial signal set")] }]
  else []

def scoreEvidence (signals : RiskSignals) (request : RiskAssessmentRequest)
    (policy : FraudPolicy) : List EvidenceItem :=
  (firedRules signals request).flatMap (ruleEvidence policy signals) ++
    missingHistoryEvidence signals

/-! ## The assessment of each gate -/

/-- FP-001: the blocklist is a hard floor. -/
def knownFraud (signals : RiskSignals) (policy : FraudPolicy) : RiskAssessment :=
  { riskLevel := .high
    recommendedAction := .denyOrEscalate
    confidence := ⟨95 / 100, by norm_num⟩
    evidence :=
      [{ source := "known_fraud"
         description := "Customer is on the known-fraud blocklist"
         value := .obj [("on_blocklist", .bool true), ("customer_id", .str signals.customerId)] },
       { source := "fraud_policy"
         description := "FP-001: known-fraud-indicator — hard floor → high"
         value := .obj [("rule", .str "FP-001"), ("policy", .str policy.policyName)] }]
    policyReferences := ["FP-001"]
    reasoningSummary :=
      "Customer is on the known-fraud blocklist (FP-001 hard floor — high risk)."
    requiresHumanReview := false }

/-- A high-value account is always reviewed; its level is for context. -/
def highValue (signals : RiskSignals) (request : RiskAssessmentRequest) (a : AccountStanding) :
    RiskAssessment :=
  { riskLevel := scoreToLevel (computeScore signals request)
    recommendedAction := .manualReview
    confidence := ⟨7 / 10, by norm_num⟩
    evidence :=
      [{ source := "account_standing"
         description := "High-value account segment: " ++ a.segment.value
         value := .obj
           [("segment", .str a.segment.value), ("customer_id", .str signals.customerId)] },
       { source := "fraud_policy"
         description := "FP-005: VIP/enterprise account standing — manual review required"
         value := .obj [("rule", .str "FP-005"), ("segment", .str a.segment.value)] }]
    policyReferences := ["FP-005"]
    reasoningSummary :=
      "Account segment is '" ++ a.segment.value ++ "'; all assessments for VIP/enterprise " ++
        "accounts require manual review (FP-005 standing tier)."
    requiresHumanReview := true }

/-- The contradiction gate. -/
def contradictorySignals (signals : RiskSignals) : RiskAssessment :=
  let as_ := signals.accountStanding
  let velocity := (signals.behavioral.map (·.refundRequestsInWindow)).getD 0
  { riskLevel := .elevated
    recommendedAction := .manualReview
    confidence := ⟨3 / 10, threeTenths_inBounds⟩
    evidence :=
      [{ source := "account_standing"
         description := "Account has long tenure and good standing (low-risk baseline)"
         value := .obj
           [("tenure_days", (as_.map fun a => Json.num a.tenureDays).getD .null),
             ("status", (as_.map fun a => Json.str a.status.value).getD .null)] },
       { source := "refund_history"
         description := "Zero prior chargebacks (low-risk signal)"
         value := .obj
           [("chargebacks", .num ((signals.refundHistory.map (·.chargebacks)).getD 0 : Int))] },
       { source := "behavioral"
         description := "Refund velocity " ++ toString velocity ++ " >= VELOCITY_HIGH=" ++
           toString velocityHigh ++ " in window (high-risk signal)"
         value := .obj [("refund_requests_in_window", .num velocity)] },
       { source := "payment_instrument"
         description := "Billing details mismatch (high-risk signal)"
         value := .obj
           [("billing_details_match",
             .bool ((signals.paymentInstrument.map (·.billingDetailsMatch)).getD true))] },
       { source := "fraud_policy"
         description := "Contradiction gate: clean baseline + strong fraud signals"
         value := .obj
           [("rule", .str "contradiction-gate"),
             ("clean_signals", .str "long-tenure+good+0-chargebacks"),
             ("fraud_signals", .str "velocity>=VELOCITY_HIGH+mismatch")] }]
    policyReferences := ["contradiction-gate"]
    reasoningSummary :=
      "Contradictory signals detected: long tenure + good standing + zero chargebacks " ++
        "(clean baseline) coexist with high refund velocity on a mismatched instrument " ++
        "(strong fraud indicators). Human review required."
    requiresHumanReview := true }

/-- No rule fired and no history is missing. -/
def noRiskSignal (signals : RiskSignals) (request : RiskAssessmentRequest)
    (policy : FraudPolicy) : RiskAssessment :=
  { riskLevel := .low
    recommendedAction := .approveRiskClearance
    confidence := ⟨9 / 10, nineTenths_inBounds⟩
    evidence := scoreEvidence signals request policy ++
      [{ source := "fraud_policy"
         description := "All fraud rules (FP-001..FP-006) silent: no risk signal fired. " ++
           "Customer is assessed as low risk."
         value := .obj
           [("rule", .str "no-rule-fired"), ("score", .num 0),
             ("policy", .str policy.policyName)] }]
    policyReferences := ((firedRules signals request).map (·.rule.id)).eraseDups
    reasoningSummary :=
      "All fraud policy rules evaluated; no risk signal fired. Low risk." ++
        if (signals.accountStanding.map (·.knownGoodCustomer)).getD false then
          " Known-good customer with clean long-tenure baseline (FP-005: 0.0 offset)."
        else ""
    requiresHumanReview := false }

/-- No rule fired, and the history is missing. -/
def noRuleMissingHistory (signals : RiskSignals) (request : RiskAssessmentRequest)
    (policy : FraudPolicy) : RiskAssessment :=
  { riskLevel := .low
    recommendedAction := .approveRiskClearance
    confidence := ⟨6 / 10, sixTenths_inBounds⟩
    evidence := scoreEvidence signals request policy ++
      [{ source := "fraud_policy"
         description := "No fraud rules fired; missing history reduces confidence."
         value := .obj [("rule", .str "no-rule-fired"), ("note", .str "missing-history")] }]
    policyReferences := ((firedRules signals request).map (·.rule.id)).eraseDups
    reasoningSummary := "No fraud rules fired; missing refund history lowers confidence to 0.6."
    requiresHumanReview := false }

/-- The score decides. -/
def scored (signals : RiskSignals) (request : RiskAssessmentRequest) (policy : FraudPolicy) :
    RiskAssessment :=
  let score := score signals request
  let level := scoreToLevel score
  let review := hasChargeback signals && level == .elevated
  let ruleIds := ((firedRules signals request).map (·.rule.id)).eraseDups
  let parts :=
    [if ruleIds.isEmpty then ""
      else "Score: " ++ Text.fixed 2 score ++ ". Rules fired: " ++ Text.join ", " ruleIds ++ "."] ++
    (if borderline score then
      ["Score " ++ Text.fixed 1 score ++
        " exactly on threshold → upper band (borderline rule, conf 0.6)."] else []) ++
    (if missingHistory signals then ["Refund history absent; confidence lowered."] else []) ++
    (if hasChargeback signals && (level == .elevated || level == .high) then
      ["Prior chargeback(s) present → manual review recommended."] else [])
  { riskLevel := level
    recommendedAction :=
      if review then .manualReview else deriveRecommendedAction level (hasChargeback signals)
    confidence :=
      if borderline score || missingHistory signals then ⟨6 / 10, sixTenths_inBounds⟩
      else ⟨9 / 10, nineTenths_inBounds⟩
    evidence := scoreEvidence signals request policy
    policyReferences := ruleIds
    reasoningSummary := Text.join " " (parts.filter (· ≠ ""))
    requiresHumanReview := review }

/-! ## The chain -/

/-- `assess_signals`. -/
def assessSignals (signals : RiskSignals) (request : RiskAssessmentRequest)
    (policy : Option FraudPolicy) : RiskAssessment :=
  let policy := policy.getD fraudPolicy
  if blocklisted signals then knownFraud signals policy
  else match highValueAccount signals with
    | some a => highValue signals request a
    | none =>
        let fired := firedRules signals request
        if isContradiction signals then contradictorySignals signals
        else if fired.isEmpty && !missingHistory signals then noRiskSignal signals request policy
        else if score signals request = 0 && fired.isEmpty && missingHistory signals then
          noRuleMissingHistory signals request policy
        else scored signals request policy

/-! ## The ways through the chain -/

/-- None of the three gates stops. -/
structure Ungated (signals : RiskSignals) : Prop where
  unlisted : blocklisted signals = false
  ordinary : highValueAccount signals = none
  coherent : isContradiction signals = false

inductive Assessed (signals : RiskSignals) (request : RiskAssessmentRequest)
    (policy : FraudPolicy) : RiskAssessment → Prop where
  | knownFraud (h : blocklisted signals = true) :
      Assessed signals request policy (knownFraud signals policy)
  | highValue {a : AccountStanding} (hb : blocklisted signals = false)
      (h : highValueAccount signals = some a) :
      Assessed signals request policy (highValue signals request a)
  | contradictory (hb : blocklisted signals = false) (ho : highValueAccount signals = none)
      (h : isContradiction signals = true) :
      Assessed signals request policy (contradictorySignals signals)
  | noRiskSignal (hu : Ungated signals) (hf : firedRules signals request = [])
      (h : missingHistory signals = false) :
      Assessed signals request policy (noRiskSignal signals request policy)
  | noRuleMissingHistory (hu : Ungated signals) (hf : firedRules signals request = [])
      (h : missingHistory signals = true) :
      Assessed signals request policy (noRuleMissingHistory signals request policy)
  | scored (hu : Ungated signals) (hf : firedRules signals request ≠ []) :
      Assessed signals request policy (scored signals request policy)

/-- Past the gates three ways are left. -/
theorem assessed_past_gates {signals : RiskSignals} {request : RiskAssessmentRequest}
    {policy : FraudPolicy} {r : RiskAssessment} (h : Assessed signals request policy r)
    (hu : Ungated signals) :
    (firedRules signals request = [] ∧
      (r = noRiskSignal signals request policy ∨ r = noRuleMissingHistory signals request policy)) ∨
    r = scored signals request policy := by
  cases h with
  | knownFraud h =>
    rw [hu.unlisted] at h
    cases h
  | highValue _ h =>
    rw [hu.ordinary] at h
    cases h
  | contradictory _ _ h =>
    rw [hu.coherent] at h
    cases h
  | noRiskSignal _ hf => exact .inl ⟨hf, .inl rfl⟩
  | noRuleMissingHistory _ hf => exact .inl ⟨hf, .inr rfl⟩
  | scored => exact .inr rfl

theorem score_of_silent {signals : RiskSignals} {request : RiskAssessmentRequest}
    (h : firedRules signals request = []) : score signals request = 0 := by
  unfold score
  rw [h]
  norm_num

/-- **Every assessment takes one of these ways.** -/
theorem assessSignals_assessed (signals : RiskSignals) (request : RiskAssessmentRequest)
    (policy : Option FraudPolicy) :
    Assessed signals request (policy.getD fraudPolicy) (assessSignals signals request policy) := by
  unfold assessSignals
  dsimp only
  split
  · rename_i h
    exact .knownFraud h
  rename_i hb
  have hb : blocklisted signals = false := by simpa using hb
  split
  · rename_i a ha
    exact .highValue hb ha
  rename_i ho
  split
  · rename_i h
    exact .contradictory hb ho h
  rename_i hcoherent
  have hu : Ungated signals := ⟨hb, ho, by simpa using hcoherent⟩
  split
  · rename_i h
    simp only [Bool.and_eq_true, List.isEmpty_iff, Bool.not_eq_true'] at h
    exact .noRiskSignal hu h.1 h.2
  rename_i hclean
  split
  · rename_i h
    simp only [Bool.and_eq_true, List.isEmpty_iff, decide_eq_true_eq] at h
    exact .noRuleMissingHistory hu h.1.2 h.2
  rename_i hmissing
  refine .scored hu ?_
  -- with no rule fired one of the two paths before was taken
  intro hf
  cases hm : missingHistory signals with
  | false => exact hclean (by simp [hf, hm])
  | true => exact hmissing (by simp [hf, hm, score_of_silent hf])

/-! ## Clearance -/

section Clearance

variable (signals : RiskSignals) (request : RiskAssessmentRequest) (policy : Option FraudPolicy)

/-- The signals pass every gate and score below the elevated threshold. -/
structure Cleared (signals : RiskSignals) (request : RiskAssessmentRequest) : Prop where
  ungated : Ungated signals
  score : score signals request < elevatedThreshold

theorem scoreToLevel_eq_low_iff {x : ℚ} : scoreToLevel x = .low ↔ x < elevatedThreshold := by
  unfold scoreToLevel
  constructor
  · intro h
    split at h
    · cases h
    split at h
    · cases h
    · rename_i hx
      exact not_le.mp hx
  · intro h
    have hhigh : x < highThreshold := h.trans (by norm_num [elevatedThreshold, highThreshold])
    rw [if_neg (not_le.mpr hhigh), if_neg (not_le.mpr h)]

/-- **Low risk without a review is given to the cleared signals, and to no others.** -/
theorem assessSignals_low_iff :
    ((assessSignals signals request policy).riskLevel = .low ∧
      (assessSignals signals request policy).requiresHumanReview = false) ↔
      Cleared signals request := by
  have hpath := assessSignals_assessed signals request policy
  generalize assessSignals signals request policy = r at hpath
  cases hpath with
  | knownFraud h =>
    refine ⟨fun hlow => absurd hlow.1 nofun, fun hc => ?_⟩
    rw [hc.ungated.unlisted] at h
    cases h
  | highValue _ h =>
    refine ⟨fun hlow => absurd hlow.2 nofun, fun hc => ?_⟩
    rw [hc.ungated.ordinary] at h
    cases h
  | contradictory _ _ h =>
    refine ⟨fun hlow => absurd hlow.1 nofun, fun hc => ?_⟩
    rw [hc.ungated.coherent] at h
    cases h
  | noRiskSignal hu hf | noRuleMissingHistory hu hf =>
    refine ⟨fun _ => ⟨hu, ?_⟩, fun _ => ⟨rfl, rfl⟩⟩
    rw [score_of_silent hf]
    norm_num [elevatedThreshold]
  | scored hu =>
    constructor
    · intro hlow
      exact ⟨hu, scoreToLevel_eq_low_iff.mp hlow.1⟩
    · intro hc
      have hlevel := scoreToLevel_eq_low_iff.mpr hc.score
      refine ⟨hlevel, ?_⟩
      show (hasChargeback signals && scoreToLevel (score signals request) == .elevated) = false
      rw [hlevel]
      exact Bool.and_false _

/-- What passes the gates is assessed with sufficient confidence. -/
theorem assessSignals_confidence {signals : RiskSignals} (hu : Ungated signals) :
    6 / 10 ≤ (assessSignals signals request policy).confidence.val := by
  rcases assessed_past_gates (assessSignals_assessed signals request policy) hu with ⟨-, hr | hr⟩ | hr
  · rw [hr]
    norm_num [noRiskSignal]
  · rw [hr]
    norm_num [noRuleMissingHistory]
  · rw [hr]
    unfold scored
    dsimp only
    split <;> norm_num

end Clearance

end RefundOps.Risk
