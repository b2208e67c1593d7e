import RefundOps.Contracts.Base

/-!
# Tasks between agents

The A2A message, the task request and the task result of `agent_foundation`, with their model
validators carried as fields: a `TaskResult` whose status and contents disagree, or a message
without parts, cannot be built.
-/

set_option autoImplicit false

namespace RefundOps

inductive PartType where
  | text
  | data
  | file
  deriving DecidableEq, Repr

structure A2APart where
  type : PartType
  text : Option String := none
  data : Option Json := none
  fileUri : Option String := none
  validateConditionalFields :
    match type with
    | .text => text.isSome
    | .data => data.isSome
    | .file => fileUri.isSome

inductive Role where
  | user
  | agent
  deriving DecidableEq, Repr

structure A2AMessage where
  role : Role
  parts : List A2APart
  taskId : Option UUID := none
  validatePartsNonempty : parts ≠ []

inductive TaskStatus where
  | completed
  | failed
  | rejected
  deriving DecidableEq, Repr

/-- The wire value of a status. -/
def TaskStatus.value : TaskStatus → String
  | .completed => "completed"
  | .failed => "failed"
  | .rejected => "rejected"

inductive ErrorCategory where
  | validation
  | unsupportedCapability
  | handlerError
  | duplicate
  | internal
  deriving DecidableEq, Repr

structure TaskError where
  category : ErrorCategory
  message : String

structure TaskRequest where
  taskId : UUID
  capability : String
  requesterAgentId : String
  targetAgentId : String
  input : A2AMessage

/-- `validate_status_fields`. -/
def TaskResult.fieldsOk (status : TaskStatus) (output : Option A2AMessage)
    (error : Option TaskError) : Prop :=
  match status with
  | .completed => output.isSome ∧ error = none
  | .failed => output = none ∧
      ∃ e, error = some e ∧ (e.category = .handlerError ∨ e.category = .internal)
  | .rejected => output = none ∧
      ∃ e, error = some e ∧ (e.category = .validation ∨ e.category = .unsupportedCapability ∨
        e.category = .duplicate)

structure TaskResult where
  taskId : UUID
  status : TaskStatus
  performerAgentId : String
  output : Option A2AMessage := none
  error : Option TaskError := none
  validateStatusFields : TaskResult.fieldsOk status output error

/-- What a handler sees of an envelope: its identity, and the payload if it validates as the
    model the handler expects. -/
structure Inbound (α : Type) where
  eventId : UUID
  correlationId : UUID
  payload : Option α

end RefundOps
