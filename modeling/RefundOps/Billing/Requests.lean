import RefundOps.Billing.Tasks
import RefundOps.Foundation.Fields

/-!
# The request of the billing agent

`RefundEligibilityRequest.model_validate`, field by field, and the backend of the running agent: that
reader, with the seeded dataset behind it.
-/

set_option autoImplicit false

namespace RefundOps.Billing

/-- `RefundEligibilityRequest.model_validate`; other keys are ignored. -/
def RefundEligibilityRequest.modelValidate (P : Parsers) (j : Json) :
    Option RefundEligibilityRequest := do
  let caseId ← j.required "case_id" Json.asUuid
  let ticketId ← j.required "ticket_id" Json.asStr
  let customerId ← j.required "customer_id" Json.asStr
  let requestedRefundAmount ← j.required "requested_refund_amount" (Json.nonNegative (Json.asFloat P))
  let purchaseReference ← j.required "purchase_reference" Json.asStr
  let customerMessageSummary ← j.optional "customer_message_summary" Json.asStr
  let policyContext ← j.optional "policy_context" Json.asStr
  pure { caseId, ticketId, customerId, requestedRefundAmount, purchaseReference
         customerMessageSummary, policyContext }

/-- The texts of pydantic's errors are its own. -/
def runningBackend (P : Parsers) (validationError : Json → String)
    (loadFacts : String → String → Option BillingFacts) : Backend where
  eligibilityRequest j :=
    match RefundEligibilityRequest.modelValidate P j with
    | some request => .ok request
    | none => .error (validationError j)
  loadFacts := loadFacts

theorem validateInput_eq_firstData (B : Backend) (parts : List A2APart) :
    validateInput B parts = firstData B.eligibilityRequest parts := by
  induction parts with
  | nil => rfl
  | cons part parts ih =>
    unfold validateInput firstData
    exact ih ▸ rfl

end RefundOps.Billing
