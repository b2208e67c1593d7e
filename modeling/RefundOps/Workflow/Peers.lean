import RefundOps.Lib.Growth
import RefundOps.Resolution.Properties.Requests
import RefundOps.Workflow.Model

/-!
# What a peer makes of a review request

A peer calls its handler for the task request it has read and for no other, and of the request that
the agent dumped it reads the request that the agent made. What it then puts on its topic is the
verdict of its rules on the dataset's record of that ticket, as of the time at which it looked.
-/

set_option autoImplicit false

namespace RefundOps

/-! ## Which requests a handler is called for -/

namespace Runtime

/-- Handlers are called for the requests `P` only. -/
def calls (P : TaskRequest → Prop) : Growth World Obs Request where
  Inv := fun _ => True
  Le := fun _ _ => True
  Ask := fun _ _ => True
  Show := fun _ o => ∀ req, o = .handlerCalled req → P req
  refl := fun _ => trivial
  trans := fun _ _ => trivial
  ask_le := fun _ _ => trivial
  show_le := fun h _ => h

section Calls

variable {Raw α β : Type} {P : TaskRequest → Prop} {rt : AgentRuntime} {codec : Codec Raw}
  {envelope : Envelope}

def Calls (P : TaskRequest → Prop) (p : M α) : Prop :=
  Coro.Keeps (calls P) (fun _ => True) (fun _ _ => True) p

theorem Calls.bind {p : M α} {f : α → M β} (hp : Calls P p) (hf : ∀ a, Calls P (f a)) :
    Calls P (p >>= f) :=
  Coro.Keeps.bind (fun _ _ => trivial) hp fun a => (hf a).weaken (fun _ _ => trivial) fun _ _ h => h

theorem calls_pure (a : α) : Calls P (pure a) := Coro.keeps_pure fun _ _ => trivial

theorem calls_request (x : Request) : Calls P (Coro.request x) :=
  Coro.keeps_request (fun _ _ => trivial) (fun _ _ _ => trivial) fun _ _ _ => trivial

theorem calls_observe {o : Obs} (h : ∀ req, o = .handlerCalled req → P req) :
    Calls P (Coro.observe o) :=
  Coro.keeps_observe (fun _ _ => trivial) fun _ _ _ => h

theorem calls_uuid4 : Calls P uuid4 := fun _ _ _ => ⟨trivial, trivial, by simp, trivial⟩

theorem calls_isDuplicate (taskId : UUID) : Calls P (isDuplicate taskId) :=
  fun _ _ _ => ⟨trivial, trivial, by simp, trivial⟩

theorem calls_publishResult (result : TaskResult) : Calls P (publishResult result envelope) := by
  refine calls_uuid4.bind fun _ => (calls_request _).bind fun sent => ?_
  cases sent with
  | ok u => exact calls_observe (by simp)
  | error e => exact calls_observe (by simp)

theorem calls_writeTaskAudit (outcome : AuditOutcome) (taskId : Option UUID)
    (reason : Option String) (h : outcome.reasonOk reason = true) :
    Calls P (writeTaskAudit envelope outcome taskId reason h) := by
  intro w _ _
  refine Coro.grows_bind.mpr ?_
  refine Calls.bind calls_uuid4 (fun _ => (calls_request _).bind fun sent => ?_) w trivial trivial
  cases sent with
  | ok u => exact calls_observe (by simp)
  | error e => exact calls_observe (by simp)

/-- The exits that answer and audit. -/
theorem calls_settle (result : TaskResult) (outcome : AuditOutcome) (taskId : Option UUID)
    (reason : Option String) (h : outcome.reasonOk reason = true) :
    Calls P (publishResult result envelope >>= fun _ =>
      writeTaskAudit envelope outcome taskId reason h) :=
  (calls_publishResult result).bind fun _ => calls_writeTaskAudit _ _ _ _

theorem calls_rejectPayload (exc : String) : Calls P (rejectPayload rt codec envelope exc) := by
  refine Calls.bind ?_ fun taskId => calls_settle _ _ _ _ _
  unfold taskIdForResult
  split
  · split
    · split
      · exact calls_pure _
      · exact Coro.keeps_throw
    · exact calls_uuid4
  · exact calls_uuid4

theorem calls_markProcessed (taskId : UUID) : Calls P (markProcessed taskId) := by
  intro w _ _
  refine Coro.grows_bind.mpr ⟨trivial, trivial, by simp, ?_⟩
  have hrest : Calls P (Coro.observe (.markedProcessed taskId) >>= fun _ =>
      Coro.request (Request.persist taskId) >>= fun _ => pure ()) :=
    (calls_observe (by simp)).bind fun _ => (calls_request _).bind fun _ => calls_pure _
  exact hrest _ trivial trivial

theorem calls_dispatch {req : TaskRequest} (hreq : P req) : Calls P (dispatch rt envelope req) := by
  refine Calls.bind ?_ fun _ => calls_markProcessed _
  refine Coro.Keeps.tryCatch (fun _ _ => trivial) ?_ fun exc => calls_settle _ _ _ _ _
  refine Calls.bind ?_ fun output => calls_settle _ _ _ _ _
  refine Calls.bind (calls_observe ?_) fun _ => (calls_request _).bind fun output =>
    Coro.keeps_ofExcept fun _ _ _ => trivial
  intro req' heq
  cases heq
  exact hreq

theorem calls_process {req : TaskRequest} (hreq : P req) : Calls P (process rt envelope req) := by
  refine (calls_isDuplicate _).bind fun duplicate => ?_
  split
  · exact calls_writeTaskAudit _ _ _ _
  · refine (calls_writeTaskAudit _ _ _ _).bind fun _ => ?_
    split
    · exact calls_dispatch hreq
    · exact calls_settle _ _ _ _ _

theorem calls_handleMessage {raw : Raw}
    (h : ∀ e req, codec.envelope raw = .ok e → codec.taskRequest e.payload = .ok req → P req) :
    Calls P (handleMessage rt codec raw) := by
  unfold handleMessage
  cases he : codec.envelope raw with
  | error exc => exact calls_pure _
  | ok e =>
    dsimp only
    cases hreq : codec.taskRequest e.payload with
    | error exc => exact calls_rejectPayload exc
    | ok req =>
      dsimp only
      split
      · exact calls_settle _ _ _ _ _
      split
      · exact calls_settle _ _ _ _ _
      · exact calls_process (h e req he hreq)

/-- **A handler is called for what was read.** -/
theorem read_of_handlerCalled {d : Delivery Raw} {w : World} {req : TaskRequest}
    (h : .handlerCalled req ∈ (deliver rt codec d w).1) :
    ∃ e, codec.envelope d.raw = .ok e ∧ codec.taskRequest e.payload = .ok req := by
  have hcalls : Calls (fun req => ∃ e, codec.envelope d.raw = .ok e ∧
      codec.taskRequest e.payload = .ok req) (handleMessage rt codec d.raw) :=
    calls_handleMessage fun e req he hreq => ⟨e, he, hreq⟩
  have hgrows := hcalls { w with now := d.now } trivial trivial
  exact (hgrows.runSync d.answer trivial).2.2 _ h req rfl

end Calls

end Runtime

/-! ## The requests on the wire -/

namespace Workflow

open Resolution (Peer IsPeer billingPeer riskPeer reviewRequest openedCase taskOf)

/-- The case of the ticket, as the billing agent is asked about it. -/
structure AboutPurchase (k : UUID) (t : SupportTicketCreatedPayload)
    (r : Billing.RefundEligibilityRequest) : Prop where
  caseId : r.caseId = k
  ticketId : r.ticketId = t.ticketId
  customerId : r.customerId = t.customerId
  amount : r.requestedRefundAmount.val = t.amount
  /-- The agent knows no other reference. -/
  purchaseReference : r.purchaseReference = t.ticketId

/-- The case of the ticket, as the risk agent is asked about it. -/
structure AboutCustomer (k : UUID) (t : SupportTicketCreatedPayload)
    (r : Risk.RiskAssessmentRequest) : Prop where
  caseId : r.caseId = k
  ticketId : r.ticketId = t.ticketId
  customerId : r.customerId = t.customerId
  amount : r.requestedRefundAmount.map (·.val) = some t.amount
  metadata : r.metadata = none

section Reading

variable {D : Deployment} {k : UUID} {t : SupportTicketCreatedPayload}

theorem reviewRequest_onWire {peer : Peer} (hpeer : IsPeer peer) :
    (reviewRequest D.settings peer k t).OnWire := by
  have hdict : ∃ fields, peer.input (openedCase k t) = .obj fields := by
    rcases hpeer with rfl | rfl
    · exact ⟨_, rfl⟩
    · exact ⟨_, rfl⟩
  obtain ⟨fields, hfields⟩ := hdict
  refine ⟨D.uuid5_lt _ _, ?_, fun u hu => by cases hu⟩
  intro p hp d hd
  obtain rfl := List.mem_singleton.mp hp
  obtain rfl := Option.some.inj hd
  simp only [hfields, Json.asDict]

/-- A peer reads the request that the agent made. -/
theorem taskRequest_reviewRequest {peer : Peer} (hpeer : IsPeer peer) :
    D.codec.taskRequest (reviewRequest D.settings peer k t).modelDump =
      .ok (reviewRequest D.settings peer k t) := by
  simp only [Deployment.codec, TaskRequest.modelValidate_modelDump (reviewRequest_onWire hpeer)]

/-- The input has one data part. -/
theorem firstData_reviewRequest {α : Type} {peer : Peer} (hpeer : IsPeer peer)
    (read : Json → Except String α) :
    firstData read (reviewRequest D.settings peer k t).input.parts =
      read (peer.input (openedCase k t)) := by
  rcases hpeer with rfl | rfl
  · rfl
  · rfl

theorem required_caseId {d : Json} (hget : d.get? "case_id" = some (.str (uuidStr k)))
    (hk : k < 2 ^ 128) : d.required "case_id" Json.asUuid = some k := by
  rw [Json.required_of_get? hget, Json.asUuid_str, parseUuid_uuidStr hk]

/-- What the billing agent accepts of the agent's input is about the purchase. -/
theorem aboutPurchase_of_modelValidate (hk : k < 2 ^ 128) {r : Billing.RefundEligibilityRequest}
    (h : Billing.RefundEligibilityRequest.modelValidate D.parsers
      (billingPeer.input (openedCase k t)) = some r) : AboutPurchase k t r := by
  have hcase : (billingPeer.input (openedCase k t)).required "case_id" Json.asUuid = some k :=
    required_caseId rfl hk
  have hticket : (billingPeer.input (openedCase k t)).required "ticket_id" Json.asStr =
      some t.ticketId := rfl
  have hcustomer : (billingPeer.input (openedCase k t)).required "customer_id" Json.asStr =
      some t.customerId := rfl
  have hreference : (billingPeer.input (openedCase k t)).required "purchase_reference" Json.asStr =
      some t.ticketId := rfl
  have hamount : (billingPeer.input (openedCase k t)).required "requested_refund_amount"
      (Json.nonNegative (Json.asFloat D.parsers)) =
      if h : 0 ≤ t.amount then some ⟨t.amount, h⟩ else none := rfl
  unfold Billing.RefundEligibilityRequest.modelValidate at h
  rw [hcase, hticket, hcustomer, hreference, hamount] at h
  simp only [Option.bind_eq_bind, Option.bind_some, Option.bind_eq_some_iff] at h
  obtain ⟨amount, ha, _, -, _, -, hr⟩ := h
  obtain rfl := Option.some.inj hr
  obtain ⟨_, hv⟩ := Option.dite_none_right_eq_some.mp ha
  obtain rfl := Option.some.inj hv
  exact ⟨rfl, rfl, rfl, rfl, rfl⟩

/-- What the risk agent accepts of the agent's input is about the customer. -/
theorem aboutCustomer_of_modelValidate (hk : k < 2 ^ 128) {r : Risk.RiskAssessmentRequest}
    (h : Risk.RiskAssessmentRequest.modelValidate D.parsers
      (riskPeer.input (openedCase k t)) = some r) : AboutCustomer k t r := by
  have hcase : (riskPeer.input (openedCase k t)).required "case_id" Json.asUuid = some k :=
    required_caseId rfl hk
  have hticket : (riskPeer.input (openedCase k t)).required "ticket_id" Json.nonEmpty =
      if h : t.ticketId ≠ "" then some ⟨t.ticketId, h⟩ else none := rfl
  have hcustomer : (riskPeer.input (openedCase k t)).required "customer_id" Json.nonEmpty =
      if h : t.customerId ≠ "" then some ⟨t.customerId, h⟩ else none := rfl
  have hamount : (riskPeer.input (openedCase k t)).optional "requested_refund_amount"
      (Json.nonNegative (Json.asDecimal D.parsers)) =
      (if h : 0 ≤ t.amount then some ⟨t.amount, h⟩ else none : Option { x : ℚ // 0 ≤ x }).map
        some := rfl
  have hmetadata : (riskPeer.input (openedCase k t)).optional "metadata" Json.asDict =
      some none := rfl
  unfold Risk.RiskAssessmentRequest.modelValidate at h
  rw [hcase, hticket, hcustomer, hamount, hmetadata] at h
  simp only [Option.bind_eq_bind, Option.bind_some, Option.bind_eq_some_iff] at h
  obtain ⟨ticketId, hticketId, customerId, hcustomerId, amount, ha, _, -, _, -, hr⟩ := h
  obtain rfl := Option.some.inj hr
  obtain ⟨amount, ha', rfl⟩ := Option.map_eq_some_iff.mp ha
  obtain ⟨_, hv⟩ := Option.dite_none_right_eq_some.mp ha'
  obtain ⟨_, ht⟩ := Option.dite_none_right_eq_some.mp hticketId
  obtain ⟨_, hc⟩ := Option.dite_none_right_eq_some.mp hcustomerId
  obtain rfl := Option.some.inj hv
  obtain rfl := Option.some.inj ht
  obtain rfl := Option.some.inj hc
  exact ⟨rfl, rfl, rfl, rfl, rfl⟩

/-! ## The verdicts -/

/-- What the billing agent says as of `clock`: its rules on the facts on record, or that there are
    none. -/
def billingVerdict (D : Deployment) (clock : Time) (r : Billing.RefundEligibilityRequest)
    (narrative : Option Billing.BillingNarrative) : BillingRefundAnalysisCompletedPayload :=
  match D.loadFacts r.purchaseReference r.customerId with
  | none => Billing.buildResultPayload r (Billing.missingDataRecommendation r.purchaseReference) none
      narrative
  | some facts => Billing.analysis clock facts r narrative

def riskVerdict (D : Deployment) (r : Risk.RiskAssessmentRequest)
    (narrative : Option Risk.RiskNarrative) : RiskReviewCompletedPayload :=
  match D.loadSignals r.customerId with
  | none => Risk.toResultPayload (Risk.missingDataAssessment r.customerId) r narrative
  | some signals => Risk.review signals r none narrative

theorem analyze_reviewRequest {now : Time} {a : Billing.Analysis} (hk : k < 2 ^ 128)
    (h : Billing.analyze D.billing now (reviewRequest D.settings billingPeer k t).input.parts =
      .ok a) :
    AboutPurchase k t a.request ∧ ∀ narrative,
      Billing.buildResultPayload a.request a.recommendation a.facts narrative =
        billingVerdict D now a.request narrative := by
  unfold Billing.analyze at h
  rw [Billing.validateInput_eq_firstData, firstData_reviewRequest (.inl rfl)] at h
  simp only [Deployment.billing, Billing.runningBackend] at h
  cases hr : Billing.RefundEligibilityRequest.modelValidate D.parsers
      (billingPeer.input (openedCase k t)) with
  | none =>
    rw [hr] at h
    cases h
  | some r =>
    have habout := aboutPurchase_of_modelValidate hk hr
    rw [hr] at h
    simp only [billingVerdict]
    change (match D.loadFacts r.purchaseReference r.customerId with
      | none => _
      | some facts => _) = Except.ok a at h
    cases hf : D.loadFacts r.purchaseReference r.customerId with
    | none =>
      rw [hf] at h
      cases h
      refine ⟨habout, fun narrative => ?_⟩
      dsimp only
      rw [hf]
    | some facts =>
      rw [hf] at h
      cases h
      refine ⟨habout, fun narrative => ?_⟩
      dsimp only
      rw [hf]
      rfl

theorem assess_reviewRequest {a : Risk.RiskAssessment} {r : Risk.RiskAssessmentRequest}
    (hk : k < 2 ^ 128)
    (h : Risk.assess D.risk (reviewRequest D.settings riskPeer k t).input.parts = .ok (a, r)) :
    AboutCustomer k t r ∧ ∀ narrative, Risk.toResultPayload a r narrative =
      riskVerdict D r narrative := by
  unfold Risk.assess Risk.validateInput at h
  rw [firstData_reviewRequest (.inr rfl)] at h
  simp only [Deployment.risk, Risk.runningBackend] at h
  cases hr : Risk.RiskAssessmentRequest.modelValidate D.parsers
      (riskPeer.input (openedCase k t)) with
  | none =>
    rw [hr] at h
    cases h
  | some request =>
    rw [hr] at h
    cases h
    refine ⟨aboutCustomer_of_modelValidate hk hr, fun narrative => ?_⟩
    unfold Risk.assessment riskVerdict
    dsimp only
    cases D.loadSignals r.customerId with
    | none => rfl
    | some signals => rfl

/-- **What comes of a review request** on the topic of the billing agent. -/
theorem billingEvent_reviewRequest {h : Handling Billing.Services} (hk : k < 2 ^ 128)
    {e : Inbound BillingRefundAnalysisCompletedPayload}
    (he : billingEvent D h (.handlerCalled (reviewRequest D.settings billingPeer k t)) = some e) :
    e.correlationId = k ∧ ∃ r narrative, AboutPurchase k t r ∧
      e.payload = some (billingVerdict D h.now r narrative) := by
  simp only [billingEvent] at he
  split at he
  · cases he
  · rename_i a ha
    obtain rfl := Option.some.inj he
    obtain ⟨habout, hverdict⟩ := analyze_reviewRequest hk ha
    exact ⟨habout.caseId, a.request, _, habout, congrArg some (hverdict _)⟩

theorem riskEvent_reviewRequest {h : Handling Risk.Services} (hk : k < 2 ^ 128)
    {e : Inbound RiskReviewCompletedPayload}
    (he : riskEvent D h (.handlerCalled (reviewRequest D.settings riskPeer k t)) = some e) :
    e.correlationId = k ∧ ∃ r narrative, AboutCustomer k t r ∧
      e.payload = some (riskVerdict D r narrative) := by
  simp only [riskEvent] at he
  split at he
  · cases he
  · rename_i a r ha
    obtain rfl := Option.some.inj he
    obtain ⟨habout, hverdict⟩ := assess_reviewRequest hk ha
    exact ⟨habout.caseId, r, _, habout, congrArg some (hverdict _)⟩

end Reading

end Workflow

end RefundOps
