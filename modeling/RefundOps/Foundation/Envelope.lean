import RefundOps.Contracts.Base
import RefundOps.Lib.Pattern

/-!
# Envelopes

`EventEnvelope`, what every message on the bus is wrapped in, with its validators. What pydantic does
to get from bytes or keyword arguments to typed fields is outside (`EnvelopeFields` is the result);
what the repository's own validators then check is here. An `EventEnvelope` has passed them: the
checks are fields of the structure, so an envelope that is not valid cannot be built, and `validate`
is the only way from fields that come from elsewhere.

The environment that the process runs in decides which event types may do without a cause, so the
type of envelopes depends on it.
-/

set_option autoImplicit false

namespace RefundOps

/-! ## The patterns -/

/-- A compiled pattern, with the text that error messages quote. -/
structure IdPattern where
  text : String
  expr : RegularExpression Pattern.Letter

namespace IdPattern

open Pattern (az word decimal many upTo)
open RegularExpression (char star)

def agentId : IdPattern where
  text := "^[a-z][a-z0-9_.-]\x7b1,62\x7d$"
  expr := az * ((word + char .dot) * upTo (word + char .dot) 61)

def tenantId : IdPattern where
  text := "^[a-z][a-z0-9_-]\x7b1,62\x7d$"
  expr := az * (word * upTo word 61)

/-- Segments that are joined by dots, the last one a version. -/
def eventType : IdPattern where
  text := "^[a-z][a-z0-9_-]*(\\.[a-z][a-z0-9_-]*)+\\.v\\d+$"
  expr := az * star word * many (char .dot * az * star word) * char .dot * char .v * many decimal

def semver : IdPattern where
  text := "^\\d+\\.\\d+\\.\\d+$"
  expr := many decimal * char .dot * many decimal * char .dot * many decimal

def accepts (p : IdPattern) (s : String) : Bool := Pattern.isMatch p.expr s

end IdPattern

/-- A lone identifier is no event type, nor is a path without a version. -/
example : IdPattern.eventType.accepts "agent.task_request.v1" = true ∧
    IdPattern.eventType.accepts "agent.v1" = false ∧
    IdPattern.eventType.accepts "agent.task_request" = false := by decide +kernel

/-! ## The fields -/

structure EnvelopeFields where
  eventId : UUID
  correlationId : UUID
  causationId : Option UUID
  agentId : String
  tenantId : String
  timestamp : Time
  eventType : String
  schemaVersion : String
  traceContext : Option (List (String × String)) := none
  payload : Json

/-- One error of a `ValidationError`: the field, and what its validator said. -/
structure FieldError where
  loc : String
  msg : String
  deriving DecidableEq, Repr

/-- The validator of a field that has to match a pattern. -/
def checkPattern (loc : String) (p : IdPattern) (must v : String) : List FieldError :=
  if p.accepts v then [] else [{ loc, msg := loc ++ " must " ++ must ++ ", got " ++ Text.repr v }]

def validateAgentId (v : String) : List FieldError :=
  checkPattern "agent_id" .agentId ("match " ++ Text.repr IdPattern.agentId.text) v

def validateTenantId (v : String) : List FieldError :=
  checkPattern "tenant_id" .tenantId ("match " ++ Text.repr IdPattern.tenantId.text) v

def validateEventType (v : String) : List FieldError :=
  checkPattern "event_type" .eventType ("match " ++ Text.repr IdPattern.eventType.text) v

def validateSchemaVersion (v : String) : List FieldError :=
  checkPattern "schema_version" .semver "be MAJOR.MINOR.PATCH semver" v

theorem checkPattern_eq_nil_iff {loc must v : String} {p : IdPattern} :
    checkPattern loc p must v = [] ↔ p.accepts v = true := by
  unfold checkPattern
  split
  · rename_i h
    exact iff_of_true rfl h
  · rename_i h
    exact iff_of_false (List.cons_ne_nil _ _) h

def EnvelopeFields.fieldErrors (f : EnvelopeFields) : List FieldError :=
  validateAgentId f.agentId ++ validateTenantId f.tenantId ++ validateEventType f.eventType ++
    validateSchemaVersion f.schemaVersion

theorem EnvelopeFields.fieldErrors_eq_nil_iff {f : EnvelopeFields} :
    f.fieldErrors = [] ↔ IdPattern.agentId.accepts f.agentId = true ∧
      IdPattern.tenantId.accepts f.tenantId = true ∧
      IdPattern.eventType.accepts f.eventType = true ∧
      IdPattern.semver.accepts f.schemaVersion = true := by
  unfold EnvelopeFields.fieldErrors validateAgentId validateTenantId validateEventType
    validateSchemaVersion
  rw [List.append_eq_nil_iff, List.append_eq_nil_iff, List.append_eq_nil_iff,
    checkPattern_eq_nil_iff, checkPattern_eq_nil_iff, checkPattern_eq_nil_iff,
    checkPattern_eq_nil_iff, and_assoc, and_assoc]

/-! ## The envelope -/

/-- `ROOT_EVENT_TYPES`, in the environment `env`. -/
def rootEventTypes (env : String) : List String :=
  ["agent.sample.v1", "agent.workflow_start.v1", "agent.agent_card.v1", "system.agent.heartbeat.v1",
   env ++ ".support.ticket.created.v1"]

/-- What `validate_causation_id` refuses: an event that has no cause and is no root. -/
def EnvelopeFields.MissingCausation (env : String) (f : EnvelopeFields) : Prop :=
  f.causationId = none ∧ f.eventType ∉ rootEventTypes env

instance {env : String} {f : EnvelopeFields} : Decidable (f.MissingCausation env) :=
  inferInstanceAs (Decidable (_ ∧ _))

structure EventEnvelope (env : String) extends EnvelopeFields where
  fieldsOk : toEnvelopeFields.fieldErrors = []
  causationOk : ¬ toEnvelopeFields.MissingCausation env

def missingCausation (env : String) (f : EnvelopeFields) : FieldError where
  loc := ""
  msg := "causation_id is required for non-root event type " ++ Text.repr f.eventType ++
    "; root event types: [" ++ Text.join ", " (((rootEventTypes env).eraseDups.mergeSort
      fun a b => decide (a ≤ b)).map Text.repr) ++ "]"

/-- `EventEnvelope(…)`. The model validator runs only if no field has an error. -/
def EventEnvelope.validate (env : String) (f : EnvelopeFields) :
    Except (List FieldError) (EventEnvelope env) :=
  if h : f.fieldErrors = [] then
    if hc : f.MissingCausation env then .error [missingCausation env f]
    else .ok { f with fieldsOk := h, causationOk := hc }
  else .error f.fieldErrors

/-- **What is accepted**: fields without an error, and a cause where one is needed. -/
theorem EventEnvelope.validate_eq_ok_iff {env : String} {f : EnvelopeFields}
    {e : EventEnvelope env} :
    EventEnvelope.validate env f = .ok e ↔ e.toEnvelopeFields = f := by
  unfold EventEnvelope.validate
  constructor
  · intro h
    split at h
    · split at h
      · cases h
      · cases h
        rfl
    · cases h
  · rintro rfl
    rw [dif_pos e.fieldsOk, dif_neg e.causationOk]

/-! ## Identities and topics -/

structure AgentIdentity where
  agentId : String
  displayName : String
  tenantId : String
  agentIdOk : IdPattern.agentId.accepts agentId = true
  displayNameOk : 1 ≤ displayName.length ∧ displayName.length ≤ 80
  tenantIdOk : IdPattern.tenantId.accepts tenantId = true

def resolveTopic (environment domain entity action : String) (version : String := "1") : String :=
  environment ++ "." ++ domain ++ "." ++ entity ++ "." ++ action ++ ".v" ++ version

/-- The event type and the schema version of an audit record. -/
theorem accepts_audit : IdPattern.eventType.accepts "agent.audit.v1" = true := by decide +kernel

theorem accepts_schemaVersion : IdPattern.semver.accepts "1.0.0" = true := by decide +kernel

def topicAudit (env : String) : String := resolveTopic env "audit" "envelope" "recorded"

end RefundOps
