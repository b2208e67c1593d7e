import RefundOps.Foundation.Task

/-!
# Audit records

What `write_audit` and `write_task_audit` put on the audit topic. The model validator, that a
rejection or a failure has a reason, is a field of the record, so a call that would not validate
cannot be written down.
-/

set_option autoImplicit false

namespace RefundOps

inductive AuditOutcome where
  | accepted
  | rejected
  | duplicateSkipped
  | completed
  | failed
  deriving DecidableEq, Repr

/-- `validate_reason_required`. -/
def AuditOutcome.reasonOk (outcome : AuditOutcome) (reason : Option String) : Bool :=
  !(outcome == .rejected || outcome == .failed) || reason.isSome

/-! No other outcome needs a reason. -/

theorem AuditOutcome.accepted_reasonOk : AuditOutcome.accepted.reasonOk none = true := rfl

theorem AuditOutcome.completed_reasonOk : AuditOutcome.completed.reasonOk none = true := rfl

theorem AuditOutcome.duplicateSkipped_reasonOk :
    AuditOutcome.duplicateSkipped.reasonOk none = true := rfl

/-- The envelope a record is about, as far as anything looks at it. -/
structure EventRef where
  eventId : UUID
  correlationId : UUID

def Inbound.ref {α : Type} (e : Inbound α) : EventRef := ⟨e.eventId, e.correlationId⟩

structure AuditPayload where
  original : EventRef
  outcome : AuditOutcome
  reason : Option String
  recordedAt : Time
  taskId : Option UUID := none
  validateReasonRequired : outcome.reasonOk reason = true

end RefundOps
