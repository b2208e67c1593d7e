import RefundOps.Contracts.Payloads

/-!
# The signals of the Risk and Fraud Agent

`models.py` of `risk_fraud`: what the agent owns about a customer, one record per domain, each of
which may be absent, with the request and the assessment. The thresholds of `policy.py` are here
as well. Of the policy itself only the name is read, by the evidence.
-/

set_option autoImplicit false

namespace RefundOps.Risk

def elevatedThreshold : ℚ := 5 / 10
def highThreshold : ℚ := 8 / 10
def chargebackElevated : Int := 1
def chargebackHigh : Int := 2
def velocityElevated : Int := 3
def velocityHigh : Int := 5
def anomalyElevated : ℚ := 7 / 10
def newAccountDays : Int := 30
def unusualAmountRatio : ℚ := 3

structure FraudPolicy where
  policyName : String
  policyVersion : String

def fraudPolicy : FraudPolicy := { policyName := "poc-fraud-policy", policyVersion := "1.0.0" }

inductive RiskLevel where
  | low
  | elevated
  | high
  deriving DecidableEq, Repr

/-- `str(level)`. -/
def RiskLevel.value : RiskLevel → String
  | .low => "low"
  | .elevated => "elevated"
  | .high => "high"

inductive RecommendedAction where
  | approveRiskClearance
  | allowWithCaution
  | denyOrEscalate
  | requestMoreInformation
  | manualReview
  deriving DecidableEq, Repr

inductive AccountStatus where
  | good
  | watch
  | restricted
  deriving DecidableEq, Repr

def AccountStatus.value : AccountStatus → String
  | .good => "good"
  | .watch => "watch"
  | .restricted => "restricted"

inductive Segment where
  | standard
  | vip
  | enterprise
  deriving DecidableEq, Repr

def Segment.value : Segment → String
  | .standard => "standard"
  | .vip => "vip"
  | .enterprise => "enterprise"

structure AccountStanding where
  customerId : String
  status : AccountStatus := .good
  tenureDays : Int := 0
  supportAbuseFlags : Nat := 0
  knownGoodCustomer : Bool := false
  segment : Segment := .standard

theorem noRefund_nonneg : 0 ≤ (0 : ℚ) := le_refl 0

structure RefundDisputeHistory where
  customerId : String
  priorRefunds : Int := 0
  priorRefundTotalAmount : { x : ℚ // 0 ≤ x } := ⟨0, noRefund_nonneg⟩
  chargebacks : Int := 0
  velocityWindowDays : Int := 30

structure PaymentInstrumentSignal where
  customerId : String
  billingDetailsMatch : Bool := true
  cardTestingPattern : Bool := false
  recentFailedPayments : Nat := 0

structure BehavioralSignal where
  customerId : String
  refundRequestsInWindow : Int := 0
  anomalyScore : Confidence := ⟨0, zero_inBounds⟩
  deviceMismatch : Bool := false
  ipLocationMismatch : Bool := false
  ipCountryMismatch : Bool := false
  deviceChangeCount : Nat := 0
  typicalRefundAmount : Option { x : ℚ // 0 ≤ x } := none

structure KnownFraudIndicator where
  customerId : String
  onBlocklist : Bool := false

structure RiskSignals where
  customerId : String
  accountStanding : Option AccountStanding := none
  refundHistory : Option RefundDisputeHistory := none
  paymentInstrument : Option PaymentInstrumentSignal := none
  behavioral : Option BehavioralSignal := none
  knownFraud : Option KnownFraudIndicator := none

structure RiskAssessment where
  riskLevel : RiskLevel
  recommendedAction : RecommendedAction
  confidence : Confidence
  evidence : List EvidenceItem
  policyReferences : List String
  reasoningSummary : String
  requiresHumanReview : Bool

structure RiskAssessmentRequest where
  caseId : UUID
  ticketId : String
  customerId : String
  requestedRefundAmount : Option { x : ℚ // 0 ≤ x } := none
  customerMessageSummary : Option String := none
  accountAgeDays : Option Nat := none
  metadata : Option Json := none
  ticketIdNonempty : ticketId ≠ ""
  customerIdNonempty : customerId ≠ ""

/-- A review of the customer `C-1`, for the examples. -/
def sampleReview : RiskAssessmentRequest where
  caseId := 1
  ticketId := "T-1"
  customerId := "C-1"
  ticketIdNonempty := by decide
  customerIdNonempty := by decide

end RefundOps.Risk
