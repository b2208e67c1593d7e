import RefundOps.Resolution.EventHandlers

/-!
# The AgentCore entrypoint

`_invoke` of `agentcore_app.py`: a ticket and, if the caller has them, the findings of the two
peers, through `classify` and `decide` in one call. It publishes nothing and asks nobody. The
findings come in as the field dicts of the peers' results and are read by the two `normalize_*`
functions, not by the handlers of the domain events.
-/

set_option autoImplicit false

namespace RefundOps.Resolution

/-- What a call takes from outside: the parsers of the standard library, the texts of their
    exceptions, the clock and fresh ids. -/
structure Entry where
  /-- `json.loads(text)`. -/
  loads : String → Except String Json
  /-- `UUID(str(x))`, `none` where it raises. -/
  uuid : Json → Option UUID
  /-- `str(exc)` of a value that is no ticket field. -/
  excText : Json → String
  now : Time
  /-- The results of `uuid4()`, in order. -/
  fresh : Nat → UUID

inductive InvokeResponse where
  | failed (error : String) (reason : Option String)
  | completed (decision : CustomerResponseDecisionPayload)

/-- The outcome in the response, if there is one. -/
def InvokeResponse.outcome : InvokeResponse → Option ResolutionOutcome
  | .failed _ _ => none
  | .completed decision => some decision.outcome

/-- `payload[key]` for a `str` field. -/
def requiredStr (E : Entry) (payload : Json) (key : String) : Except String String :=
  match payload.get? key with
  | none => .error (Text.repr key)
  | some (.str s) => .ok s
  | some j => .error (E.excText j)

/-- `payload.get(key, default)` for a `str` field. -/
def optionalStr (E : Entry) (payload : Json) (key default : String) : Except String String :=
  match payload.get? key with
  | none => .ok default
  | some (.str s) => .ok s
  | some j => .error (E.excText j)

/-- `float(payload.get("amount", 0.0))`. Nobody reads the amount of this ticket, and one that is no
    number stands here as zero. -/
def amountOf (S : Settings) (E : Entry) (payload : Json) : Except String ℚ :=
  match payload.get? "amount" with
  | none => .ok 0
  | some j =>
      match jsonFloat S j with
      | some x => .ok (x.finiteD 0)
      | none => .error (E.excText j)

/-- The ticket, created now. -/
def ticketOf (S : Settings) (E : Entry) (payload : Json) :
    Except String SupportTicketCreatedPayload := do
  let ticketId ← requiredStr E payload "ticket_id"
  let customerId ← requiredStr E payload "customer_id"
  let amount ← amountOf S E payload
  let currency ← optionalStr E payload "currency" "USD"
  let reason ← optionalStr E payload "reason" ""
  pure { ticketId, customerId, amount, currency, reason, createdAt := E.now }

/-- A supplied UUID, or a fresh one. -/
def caseIdOf (E : Entry) (payload : Json) : UUID :=
  match payload.get? "case_id" with
  | none => E.fresh 0
  -- an id that does not parse is replaced without a word
  | some raw => if raw.truthy then (E.uuid raw).getD (E.fresh 0) else E.fresh 0

/-- The performer of a finding; one that is no string fails the validation of the finding. -/
def performerOf (payload : Json) (key default : String) : Option String :=
  match payload.get? key with
  | none => some default
  | some (.str s) => some s
  | some _ => none

def suppliedBilling (S : Settings) (E : Entry) (payload : Json) : Option BillingFinding :=
  match payload.get? "billing_result" with
  | some (.obj kvs) => do
      let performer ← performerOf payload "billing_performer_agent_id" billingPeerAgentId
      normalizeBillingResult S (E.fresh 1) performer (.obj kvs)
  -- what is no dict is a missing opinion, not an error
  | _ => none

def suppliedRisk (S : Settings) (E : Entry) (payload : Json) : Option RiskFinding :=
  match payload.get? "risk_result" with
  | some (.obj kvs) => do
      let performer ← performerOf payload "risk_performer_agent_id" riskPeerAgentId
      normalizeRiskResult S (E.fresh 2) performer (.obj kvs)
  | _ => none

/-- `_invoke`, past the parsing. -/
def invokeDict (S : Settings) (E : Entry) (payload : Json) : InvokeResponse :=
  match ticketOf S E payload with
  | .error exc => .failed exc (some "Input validation failed (FR-011). No decision fabricated.")
  | .ok ticket =>
      -- there is no liveness status, so a missing opinion gets past row 1 of the engine
      .completed (decide (classify ticket) (suppliedBilling S E payload)
        (suppliedRisk S E payload) none (some (caseIdOf E payload)) ticket.ticketId
        ticket.customerId)

/-- What is no JSON object is refused. -/
def invokeParsed (S : Settings) (E : Entry) : Json → InvokeResponse
  | .obj kvs => invokeDict S E (.obj kvs)
  | _ => .failed "Payload must be a JSON object." none

/-- `_invoke`, on a dict or on its JSON text. -/
def invoke (S : Settings) (E : Entry) : Json → InvokeResponse
  | .str text =>
      match E.loads text with
      | .error exc => .failed ("Invalid JSON payload: " ++ exc) none
      | .ok payload => invokeParsed S E payload
  | payload => invokeParsed S E payload

end RefundOps.Resolution
