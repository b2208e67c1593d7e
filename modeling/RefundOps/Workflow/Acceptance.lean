import RefundOps.Foundation.FirstAnswer
import RefundOps.Workflow.Approvals

/-!
# Which reviews are completed

Both peers accept every request that the agent sends: it is well formed, addressed to them and asks
for what they offer, so it is never rejected. Whether the review is completed is another question. A
ticket may have any amount and any ids; the models of the peers want an amount that is not negative,
and the risk agent wants ids that are not empty. Such a ticket fails its review, every time.
-/

set_option autoImplicit false

namespace RefundOps.Workflow

open Resolution (billingPeer riskPeer openedCase reviewRequest taskOf)
open RefundOps.Runtime (Gives givenResult statusOf)

/-! ## What the models accept -/

/-- What the billing agent asks of a ticket. -/
def BillingReadable (t : SupportTicketCreatedPayload) : Prop := 0 ≤ t.amount

/-- What the risk agent asks of a ticket. -/
def RiskReadable (t : SupportTicketCreatedPayload) : Prop :=
  0 ≤ t.amount ∧ t.ticketId ≠ "" ∧ t.customerId ≠ ""

instance (t : SupportTicketCreatedPayload) : Decidable (BillingReadable t) :=
  inferInstanceAs (Decidable (0 ≤ t.amount))

instance (t : SupportTicketCreatedPayload) : Decidable (RiskReadable t) :=
  inferInstanceAs (Decidable (_ ∧ _))

section Readable

variable {D : Deployment} {k : UUID} {t : SupportTicketCreatedPayload}

theorem billingRequest_isSome_iff (hk : k < 2 ^ 128) :
    (Billing.RefundEligibilityRequest.modelValidate D.parsers
      (billingPeer.input (openedCase k t))).isSome ↔ BillingReadable t := by
  have hcase : (billingPeer.input (openedCase k t)).required "case_id" Json.asUuid = some k :=
    required_caseId rfl hk
  have hticket : (billingPeer.input (openedCase k t)).required "ticket_id" Json.asStr =
      some t.ticketId := rfl
  have hcustomer : (billingPeer.input (openedCase k t)).required "customer_id" Json.asStr =
      some t.customerId := rfl
  have hamount : (billingPeer.input (openedCase k t)).required "requested_refund_amount"
      (Json.nonNegative (Json.asFloat D.parsers)) =
      if h : 0 ≤ t.amount then some ⟨t.amount, h⟩ else none := rfl
  have hreference : (billingPeer.input (openedCase k t)).required "purchase_reference" Json.asStr =
      some t.ticketId := rfl
  have hsummary : (billingPeer.input (openedCase k t)).optional "customer_message_summary"
      Json.asStr = some (some t.reason) := Json.optional_str rfl
  have hpolicy : (billingPeer.input (openedCase k t)).optional "policy_context" Json.asStr =
      some (some "standard") := Json.optional_str rfl
  unfold Billing.RefundEligibilityRequest.modelValidate BillingReadable
  rw [hcase, hticket, hcustomer, hamount, hreference, hsummary, hpolicy]
  by_cases h : 0 ≤ t.amount <;> simp [h]

theorem riskRequest_isSome_iff (hk : k < 2 ^ 128) :
    (Risk.RiskAssessmentRequest.modelValidate D.parsers
      (riskPeer.input (openedCase k t))).isSome ↔ RiskReadable t := by
  have hcase : (riskPeer.input (openedCase k t)).required "case_id" Json.asUuid = some k :=
    required_caseId rfl hk
  have hticket : (riskPeer.input (openedCase k t)).required "ticket_id" Json.nonEmpty =
      if h : t.ticketId ≠ "" then some ⟨t.ticketId, h⟩ else none := rfl
  have hcustomer : (riskPeer.input (openedCase k t)).required "customer_id" Json.nonEmpty =
      if h : t.customerId ≠ "" then some ⟨t.customerId, h⟩ else none := rfl
  have hamount : (riskPeer.input (openedCase k t)).optional "requested_refund_amount"
      (Json.nonNegative (Json.asDecimal D.parsers)) =
      (if h : 0 ≤ t.amount then some ⟨t.amount, h⟩ else none : Option { x : ℚ // 0 ≤ x }).map
        some := rfl
  have hsummary : (riskPeer.input (openedCase k t)).optional "customer_message_summary" Json.asStr =
      some (some t.reason) := Json.optional_str rfl
  have hage : (riskPeer.input (openedCase k t)).optional "account_age_days"
      (Json.asNat D.parsers) = some none := Json.optional_of_absent rfl
  have hmetadata : (riskPeer.input (openedCase k t)).optional "metadata" Json.asDict =
      some none := Json.optional_of_absent rfl
  unfold Risk.RiskAssessmentRequest.modelValidate RiskReadable
  rw [hcase, hticket, hcustomer, hamount, hsummary, hage, hmetadata]
  by_cases ha : 0 ≤ t.amount <;> by_cases ht : t.ticketId = "" <;>
    by_cases hc : t.customerId = "" <;> simp [ha, ht, hc]

/-! ## The handlers -/

/-- The handler completes the review of a ticket that the model accepts. -/
theorem statusOf_handleEligibility {services : Billing.Services} {now : Time} (hk : k < 2 ^ 128)
    (hpublish : ∀ p c u, services.publish p c u = .ok ()) :
    statusOf (Billing.handleEligibility D.billing services now
      (reviewRequest D.settings billingPeer k t)) =
      if BillingReadable t then .completed else .failed := by
  have hok : (∃ m, Billing.handleEligibility D.billing services now
      (reviewRequest D.settings billingPeer k t) = .ok m) ↔ BillingReadable t := by
    rw [Billing.handleEligibility_isOk_iff, ← billingRequest_isSome_iff (D := D) hk]
    have hpublished : ∀ a u, Billing.publishAnalysis services u a = .ok () :=
      fun a u => hpublish _ _ _
    simp only [hpublished, and_true]
    rw [Billing.analyze_isOk_iff, Billing.validateInput_eq_firstData,
      firstData_reviewRequest (.inl rfl)]
    simp only [Deployment.billing, Billing.runningBackend]
    cases Billing.RefundEligibilityRequest.modelValidate D.parsers
        (billingPeer.input (openedCase k t)) with
    | none => simp
    | some r => simp
  cases hout : Billing.handleEligibility D.billing services now
      (reviewRequest D.settings billingPeer k t) with
  | ok m => rw [if_pos (hok.mp ⟨m, hout⟩)]; rfl
  | error exc =>
    have hnot : ¬ BillingReadable t := fun h => by
      obtain ⟨m, hm⟩ := hok.mpr h
      rw [hout] at hm
      cases hm
    rw [if_neg hnot]
    rfl

theorem statusOf_handleRisk {services : Risk.Services} (hk : k < 2 ^ 128)
    (hpublish : ∀ p c u, services.publish p c u = .ok ()) :
    statusOf (Risk.handleRisk D.risk services (reviewRequest D.settings riskPeer k t)) =
      if RiskReadable t then .completed else .failed := by
  have hread := riskRequest_isSome_iff (D := D) (t := t) hk
  unfold Risk.handleRisk Risk.assess Risk.validateInput
  rw [firstData_reviewRequest (.inr rfl)]
  simp only [Deployment.risk, Risk.runningBackend]
  cases hr : Risk.RiskAssessmentRequest.modelValidate D.parsers
      (riskPeer.input (openedCase k t)) with
  | none =>
    rw [hr] at hread
    rw [if_neg (by simpa using hread)]
    rfl
  | some r =>
    rw [hr] at hread
    rw [if_pos (by simpa using hread)]
    simp only [bind, Except.bind, pure, Except.pure, hpublish]
    rfl

end Readable

/-! ## Whatever is on an endpoint topic -/

section Endpoints

variable {D : Deployment} {now : Time} {nextId : UUID} {tr : List Event} {s : State}

/-- No answer to a task that was processed, and one answer with this status to another. -/
def Answers (processed : Prop) [Decidable processed] (status : TaskStatus)
    (os : List Runtime.Obs) : Prop :=
  if processed then os.filterMap givenResult = [] else Gives status os

/-- A request for a capability that is offered and handled. -/
theorem answers_of_request {Raw : Type} (rt : Runtime.AgentRuntime) (codec : Runtime.Codec Raw)
    (d : Runtime.Delivery Raw) (w : Runtime.World) {envelope : Runtime.Envelope} {req : TaskRequest}
    (henv : codec.envelope d.raw = .ok envelope)
    (hreq : codec.taskRequest envelope.payload = .ok req) (htarget : req.targetAgentId = rt.agentId)
    (hcap : req.capability ∈ rt.capabilityIds) (hhandler : req.capability ∈ rt.handlers) :
    Answers (req.taskId ∈ w.tracker.keys) (statusOf (d.answer (.callHandler req)))
      (Runtime.deliver rt codec d w).1 := by
  unfold Answers
  split
  · rename_i hdup
    exact Runtime.deliver_processed henv hreq htarget hcap hdup
  · rename_i hnew
    have hstatus : Runtime.firstStatus rt d.answer req = statusOf (d.answer (.callHandler req)) := by
      unfold Runtime.firstStatus
      rw [if_neg (not_not.mpr htarget), if_neg (not_not.mpr hcap), if_neg (not_not.mpr hhandler)]
    rw [← hstatus]
    exact Runtime.deliver_new henv hreq hnew

/-- **Reviews are never rejected.** In every run, whatever entry of an endpoint topic a peer is handed,
    at any time and in any state of its tracker, and whatever becomes of what it sends: an entry of a
    task it has processed gets no answer, and any other gets one, `completed` if the peer can read the
    ticket and `failed` if it cannot. -/
theorem reviews_are_never_rejected (hrun : Run D now nextId tr s) :
    (∀ e ∈ s.billingTasks, ∃ t, Resolution.TicketReceived (agentTrace tr) e.correlationId t ∧
      ∀ (h : Handling Billing.Services) (w : Runtime.World),
        (∀ p c u, h.services.publish p c u = .ok ()) →
          Answers (taskOf D.settings e.correlationId billingPeer ∈ w.tracker.keys)
            (if BillingReadable t then .completed else .failed) (handleBilling D e h w).1) ∧
    ∀ e ∈ s.riskTasks, ∃ t, Resolution.TicketReceived (agentTrace tr) e.correlationId t ∧
      ∀ (h : Handling Risk.Services) (w : Runtime.World),
        (∀ p c u, h.services.publish p c u = .ok ()) →
          Answers (taskOf D.settings e.correlationId riskPeer ∈ w.tracker.keys)
            (if RiskReadable t then .completed else .failed) (handleRisk D e h w).1 := by
  refine ⟨fun e he => ?_, fun e he => ?_⟩
  · obtain ⟨t, hopened, hpayload⟩ := hrun.faithful.billingTasks e he
    refine ⟨t, hopened.received, fun h w hpublish => ?_⟩
    have hread : D.codec.taskRequest e.payload =
        .ok (reviewRequest D.settings billingPeer e.correlationId t) :=
      hpayload ▸ taskRequest_reviewRequest (.inl rfl)
    rw [← statusOf_handleEligibility hopened.id_lt hpublish]
    exact answers_of_request Billing.billingRuntime D.codec
      { raw := e, now := h.now
        answer := h.answer (Billing.handleEligibility D.billing h.services h.now) }
      w rfl hread rfl (List.mem_singleton_self _) (List.mem_singleton_self _)
  · obtain ⟨t, hopened, hpayload⟩ := hrun.faithful.riskTasks e he
    refine ⟨t, hopened.received, fun h w hpublish => ?_⟩
    have hread : D.codec.taskRequest e.payload =
        .ok (reviewRequest D.settings riskPeer e.correlationId t) :=
      hpayload ▸ taskRequest_reviewRequest (.inr rfl)
    rw [← statusOf_handleRisk hopened.id_lt hpublish]
    exact answers_of_request Risk.riskRuntime D.codec
      { raw := e, now := h.now, answer := h.answer (Risk.handleRisk D.risk h.services) }
      w rfl hread rfl (List.mem_singleton_self _) (List.mem_singleton_self _)

/-- The two requests of the sample ticket, to peers that have processed nothing. -/
theorem reviews_are_never_rejected_sample :
    ∃ tr s e t e' t', Run sampleDeployment 0 1000 tr s ∧ e ∈ s.billingTasks ∧ e' ∈ s.riskTasks ∧
      Resolution.TicketReceived (agentTrace tr) e.correlationId t ∧
      Resolution.TicketReceived (agentTrace tr) e'.correlationId t' ∧
      Answers False (if BillingReadable t then .completed else .failed)
        (handleBilling sampleDeployment e smoothBilling (Runtime.start 0)).1 ∧
      Answers False (if RiskReadable t' then .completed else .failed)
        (handleRisk sampleDeployment e' smoothRisk (Runtime.start 0)).1 := by
  have hexec : ((exec sampleDeployment (refundSchedule.take 11) (start 0 1000)).map fun out =>
      (out.2.billingTasks.length, out.2.riskTasks.length)) = some (1, 1) := by decide +kernel
  obtain ⟨⟨tr, s⟩, hout, heq⟩ := Option.map_eq_some_iff.mp hexec
  simp only [Prod.mk.injEq] at heq
  obtain ⟨hlen, hlen'⟩ := heq
  have hrun : Run sampleDeployment 0 1000 tr s := by simpa using Run.nil.of_exec hout
  obtain ⟨e, he⟩ := List.exists_mem_of_length_pos (hlen ▸ Nat.one_pos)
  obtain ⟨e', he'⟩ := List.exists_mem_of_length_pos (hlen' ▸ Nat.one_pos)
  obtain ⟨hbilling, hrisk⟩ := reviews_are_never_rejected hrun
  obtain ⟨t, hreceived, hanswers⟩ := hbilling e he
  obtain ⟨t', hreceived', hanswers'⟩ := hrisk e' he'
  have hfresh := hanswers smoothBilling (Runtime.start 0) fun _ _ _ => rfl
  have hfresh' := hanswers' smoothRisk (Runtime.start 0) fun _ _ _ => rfl
  refine ⟨tr, s, e, t, e', t', hrun, he, he', hreceived, hreceived', ?_, ?_⟩
  · simpa [Answers, Runtime.start, LRUCache.empty] using hfresh
  · simpa [Answers, Runtime.start, LRUCache.empty] using hfresh'

end Endpoints

end RefundOps.Workflow
