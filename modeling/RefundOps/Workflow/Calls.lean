import RefundOps.Foundation.Calls
import RefundOps.Workflow.Invariant

/-!
# Calls of the peers

An entry of an endpoint topic is a review request to its peer. What the peer does with it is settled by
what its tracker holds: it is called for the review or it is not, and only a call brings a verdict.
-/

set_option autoImplicit false

namespace RefundOps.Workflow

open Resolution (billingPeer riskPeer reviewRequest taskOf Peer)

variable {D : Deployment} {tr : List Event} {st : Resolution.InMemoryCaseStateStore}
  {e : Runtime.Envelope} {w : Runtime.World} {req : TaskRequest}

theorem requestOf_reviewRequest (rt : Runtime.AgentRuntime) {peer : Peer} {k : UUID}
    {t : SupportTicketCreatedPayload} (hpeer : Resolution.IsPeer peer) (hrt : peer.agentId = rt.agentId)
    (hpayload : e.payload = (reviewRequest D.settings peer k t).modelDump) :
    Runtime.requestOf rt D.codec e = some (reviewRequest D.settings peer k t) := by
  have hread : D.codec.taskRequest e.payload = .ok (reviewRequest D.settings peer k t) :=
    hpayload ▸ taskRequest_reviewRequest hpeer
  unfold Runtime.requestOf
  rw [show D.codec.envelope e = .ok e from rfl]
  dsimp only
  rw [hread]
  exact if_pos hrt

theorem requestOf_reviewAsked (rt : Runtime.AgentRuntime) {peer : Peer}
    (hpeer : Resolution.IsPeer peer) (hrt : peer.agentId = rt.agentId)
    (he : ReviewAsked D peer tr st e) :
    ∃ t, Runtime.requestOf rt D.codec e =
      some (reviewRequest D.settings peer e.correlationId t) := by
  obtain ⟨t, -, hpayload⟩ := he
  exact ⟨t, requestOf_reviewRequest rt hpeer hrt hpayload⟩

theorem requestOf_billingAsked (he : ReviewAsked D billingPeer tr st e) :
    ∃ t, Runtime.requestOf Billing.billingRuntime D.codec e =
      some (reviewRequest D.settings billingPeer e.correlationId t) :=
  requestOf_reviewAsked _ (.inl rfl) rfl he

theorem requestOf_riskAsked (he : ReviewAsked D riskPeer tr st e) :
    ∃ t, Runtime.requestOf Risk.riskRuntime D.codec e =
      some (reviewRequest D.settings riskPeer e.correlationId t) :=
  requestOf_reviewAsked _ (.inr rfl) rfl he

theorem calls_handleBilling {h : Handling Billing.Services} {k : UUID}
    {t : SupportTicketCreatedPayload}
    (hreq : Runtime.requestOf Billing.billingRuntime D.codec e =
      some (reviewRequest D.settings billingPeer k t)) :
    (handleBilling D e h w).1.filterMap Runtime.calledFor =
        (if taskOf D.settings k billingPeer ∈ w.tracker.keys then []
          else [reviewRequest D.settings billingPeer k t]) ∧
      (handleBilling D e h w).2.tracker =
        (if taskOf D.settings k billingPeer ∈ w.tracker.keys then
            (w.tracker.contains (taskOf D.settings k billingPeer)).2
          else (w.tracker.contains (taskOf D.settings k billingPeer)).2.add
            (taskOf D.settings k billingPeer)) :=
  Runtime.deliver_calls (d := { raw := e, now := h.now, answer := _ }) hreq
    (List.mem_singleton_self _)

theorem calls_handleRisk {h : Handling Risk.Services} {k : UUID} {t : SupportTicketCreatedPayload}
    (hreq : Runtime.requestOf Risk.riskRuntime D.codec e =
      some (reviewRequest D.settings riskPeer k t)) :
    (handleRisk D e h w).1.filterMap Runtime.calledFor =
        (if taskOf D.settings k riskPeer ∈ w.tracker.keys then []
          else [reviewRequest D.settings riskPeer k t]) ∧
      (handleRisk D e h w).2.tracker =
        (if taskOf D.settings k riskPeer ∈ w.tracker.keys then
            (w.tracker.contains (taskOf D.settings k riskPeer)).2
          else (w.tracker.contains (taskOf D.settings k riskPeer)).2.add
            (taskOf D.settings k riskPeer)) :=
  Runtime.deliver_calls (d := { raw := e, now := h.now, answer := _ }) hreq
    (List.mem_singleton_self _)

/-- What comes of observations comes of the calls among them. -/
theorem filterMap_of_calls {β : Type} {f : Runtime.Obs → Option β}
    (hf : ∀ o, Runtime.calledFor o = none → f o = none) (os : List Runtime.Obs) :
    os.filterMap f = (os.filterMap Runtime.calledFor).filterMap fun req => f (.handlerCalled req) := by
  rw [List.filterMap_filterMap]
  refine List.filterMap_congr fun o _ => ?_
  cases o with
  | handlerCalled req => rfl
  | resultPublished | resultLost | audited | auditLost | markedProcessed => exact hf _ rfl

theorem filterMap_billingEvent (h : Handling Billing.Services) (os : List Runtime.Obs) :
    os.filterMap (billingEvent D h) =
      (os.filterMap Runtime.calledFor).filterMap fun req => billingEvent D h (.handlerCalled req) := by
  refine filterMap_of_calls (fun o ho => ?_) os
  cases o with
  | handlerCalled req => cases ho
  | resultPublished | resultLost | audited | auditLost | markedProcessed => rfl

theorem filterMap_riskEvent (h : Handling Risk.Services) (os : List Runtime.Obs) :
    os.filterMap (riskEvent D h) =
      (os.filterMap Runtime.calledFor).filterMap fun req => riskEvent D h (.handlerCalled req) := by
  refine filterMap_of_calls (fun o ho => ?_) os
  cases o with
  | handlerCalled req => cases ho
  | resultPublished | resultLost | audited | auditLost | markedProcessed => rfl

end RefundOps.Workflow
