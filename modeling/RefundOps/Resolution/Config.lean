import RefundOps.Contracts.Payloads
import RefundOps.Lib.Floating

/-!
# Configuration of the Customer Resolution Agent

The constants of `config.py`, and as `Settings` what is read from the environment or comes from
outside the repository: the LLM switch, the case deadline, `uuid.uuid5` and the conversion of a
string to a float.
-/

set_option autoImplicit false

namespace RefundOps.Resolution

structure Settings where
  craLlmEnabled : Bool
  caseDeadlineSeconds : Int
  /-- `uuid.uuid5(namespace, name)`. -/
  uuid5 : UUID → String → UUID
  /-- `float(s)` on a string, `none` where it raises; `"nan"` and `"-inf"` do not. -/
  floatOfStr : String → Option (Floating ℚ)

def agentId : String := "customer-resolution-agent"

def billingCapabilityId : String := "analyze_refund_eligibility"
def billingPeerAgentId : String := "billing-entitlement-agent"
def riskCapabilityId : String := "assess_fraud_risk"
def riskPeerAgentId : String := "risk-fraud-agent"

def confidenceThreshold : ℚ := 6 / 10

def delegationTimeoutSeconds : Nat := 30

def humanApprovalOutcomes : List ResolutionOutcome := [.escalateHuman, .approveRefund]

def internalOnlyDraftFields : List String :=
  ["rationale", "escalation_reason", "billing_summary", "risk_summary"]

def fraudScoringFields : List String :=
  ["score", "confidence", "risk_level", "evidence", "reasoning_summary"]

/-- The refund vocabulary, in source order. The program keeps it in a `frozenset`, whose order
    is fixed for the life of a process; only the order of `matchedSignals` depends on it. -/
def refundIntentSignals : List String :=
  ["refund", "refunded", "charged", "charge", "overcharge", "overcharged", "double charged",
    "double-charged", "charged twice", "dispute", "disputed", "chargeback", "money back",
    "reimburse", "reimbursement", "billing error", "wrong amount", "cancel and refund"]

end RefundOps.Resolution
