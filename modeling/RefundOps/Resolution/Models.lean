import Mathlib.Data.Finset.Basic
import RefundOps.Resolution.Config

/-!
# The case and its states

`models.py`: the nine statuses with their declared transitions, the triage, the two findings,
the case record and the two pure functions the decision is gated by, `is_ready_to_decide` and
`build_timeout_status`.
-/

set_option autoImplicit false

namespace RefundOps.Resolution

inductive CaseStatus where
  | received
  | classified
  | waitingForPeerReviews
  | readyForDecision
  | decided
  | responseDrafted
  | closed
  | escalated
  | failed
  deriving DecidableEq, Repr

/-- `_ALLOWED_TRANSITIONS`. -/
def allowedTransitions : CaseStatus → List CaseStatus
  | .received => [.classified, .readyForDecision, .escalated, .failed]
  | .classified => [.waitingForPeerReviews, .decided, .escalated, .failed]
  | .waitingForPeerReviews => [.readyForDecision, .escalated, .failed]
  | .readyForDecision => [.decided, .escalated, .failed]
  | .decided => [.responseDrafted, .escalated, .failed]
  | .responseDrafted => [.closed, .escalated]
  | .closed => []
  | .escalated => []
  | .failed => []

def canTransition (fromStatus toStatus : CaseStatus) : Bool :=
  toStatus ∈ allowedTransitions fromStatus

def isTerminal (status : CaseStatus) : Bool :=
  status ∈ [CaseStatus.closed, .escalated, .failed]

/-- The guard that the result handlers, the reaper and `claim_decision` all make: a decision
    can still be taken. -/
def undecided (status : CaseStatus) : Bool := !(isTerminal status || status == .decided)

theorem undecided_eq (s : CaseStatus) : (isTerminal s || s == .decided) = !undecided s := by
  simp [undecided]

structure Triage where
  needsRefundReview : Bool
  ambiguous : Bool
  matchedSignals : List String := []
  rationale : String
  issueType : String := "unknown"
  confidence : Confidence := ⟨1, one_inBounds⟩

inductive Eligibility where
  | eligible
  | partially
  | ineligible
  | indeterminate
  deriving DecidableEq, Repr

def Eligibility.value : Eligibility → String
  | .eligible => "eligible"
  | .partially => "partial"
  | .ineligible => "ineligible"
  | .indeterminate => "indeterminate"

structure BillingFinding where
  eligibility : Eligibility := .eligible
  requiresHumanReview : Bool := false
  confidence : Option (Floating ℚ) := none
  summary : String := ""
  performerAgentId : String := ""
  taskId : Option UUID := none

/-- The property `failed` of a finding: a finding never reports failure. -/
def BillingFinding.failed (_ : BillingFinding) : Bool := false

inductive Level where
  | low
  | elevated
  | high
  deriving DecidableEq, Repr

def Level.value : Level → String
  | .low => "low"
  | .elevated => "elevated"
  | .high => "high"

structure RiskFinding where
  level : Level := .low
  requiresHumanReview : Bool := false
  score : Option (Floating ℚ) := none
  summary : String := ""
  performerAgentId : String := ""
  taskId : Option UUID := none

def RiskFinding.failed (_ : RiskFinding) : Bool := false

structure TimeoutStatus where
  anyMissing : Bool
  missingReviews : List ReviewKind := []
  deadlineExceeded : Bool := false

structure ResolutionCase where
  caseId : UUID
  ticketId : String
  customerId : String
  correlationId : UUID
  ticketAmount : ℚ := 0
  ticketCurrency : String := ""
  ticketReason : String := ""
  triage : Option Triage := none
  billingTaskId : Option UUID := none
  riskTaskId : Option UUID := none
  pendingTasks : Finset UUID := ∅
  billingResult : Option BillingFinding := none
  riskResult : Option RiskFinding := none
  billingSlotFailed : Bool := false
  riskSlotFailed : Bool := false
  billingFailureReason : Option String := none
  riskFailureReason : Option String := none
  billingResultEventId : Option UUID := none
  riskResultEventId : Option UUID := none
  status : CaseStatus := .received
  decidedEventId : Option UUID := none
  draftedEventId : Option UUID := none
  createdAt : Time
  updatedAt : Time
  deadlineAt : Option Time := none
  version : Nat := 0

/-- A failed slot makes the case decidable even while the other one is pending. -/
def ResolutionCase.isReadyToDecide (c : ResolutionCase) : Bool :=
  if c.billingSlotFailed || c.riskSlotFailed then true else c.pendingTasks = ∅

def taskPending (pending : Finset UUID) : Option UUID → Bool
  | none => false
  | some t => t ∈ pending

def buildTimeoutStatus (c : ResolutionCase) (now : Time) : TimeoutStatus :=
  let missing :=
    (if taskPending c.pendingTasks c.billingTaskId then [ReviewKind.billing] else []) ++
    (if taskPending c.pendingTasks c.riskTaskId then [ReviewKind.risk] else [])
  let exceeded := match c.deadlineAt with
    | none => false
    | some deadline => now > deadline
  { anyMissing := missing.length > 0
    missingReviews := missing
    deadlineExceeded := exceeded }

end RefundOps.Resolution
