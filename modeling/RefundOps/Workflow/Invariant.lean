import RefundOps.Workflow.Peers

/-!
# Nothing on the topics is made up

The invariant of the workflow. Every ticket the agent is given was opened; every entry of an
endpoint topic is the review request of a case that has been opened by one; every domain result is
the verdict of its peer on just that ticket, given when the peer was called for it. All of it is kept
because the topics are logs and a record keeps what it has of its ticket.

`Run.received_before` carries the invariant to where it is used: what the agent has received was on
its topic in a state before.
-/

set_option autoImplicit false

namespace RefundOps.Workflow

open Resolution (LoopId Message InMemoryCaseStateStore OpeningsKept openingOf reviewRequest IsPeer
  Peer billingPeer riskPeer)

/-! ## What was received -/

/-- The message is an entry of its topic. Task results come from anywhere, and ticks from
    nowhere. -/
def OnTopic (s : State) : Message → Prop
  | .ticket e => e ∈ s.tickets
  | .billingResult e => e ∈ s.billingResults
  | .riskResult e => e ∈ s.riskResults
  | .taskResult _ => True
  | .sweep => True

abbrev State.store (s : State) : InMemoryCaseStateStore := s.agent.world.store

section Received

variable {D : Deployment} {now : Time} {nextId : UUID} {tr os : List Event} {s s' : State}
  {ch : Choice}

theorem Stepped.openingsKept (hrun : Run D now nextId tr s) (h : Stepped D s ch os s') :
    OpeningsKept s.store s'.store := by
  cases h with
  | agent _ _ _ hs => exact (Resolution.step_requests hrun.agentRun hs).1
  | arrived =>
    unfold State.store
    rw [accept_agent]
    exact .refl _
  | opened | billing | risk | restartBilling | restartRisk => exact .refl _

/-- What a step shows to have received is an entry of its topic, or was received before. -/
theorem Stepped.received (hrun : Run D now nextId tr s) (h : Stepped D s ch os s') {i : LoopId}
    {m : Message} (hm : .agent i (.received m) ∈ os) :
    OnTopic s m ∨ .agent m.loop (.received m) ∈ tr := by
  cases h with
  | agent hticket hbilling hrisk hs =>
    obtain ⟨⟨j, o⟩, ho, heq⟩ := List.mem_map.mp hm
    cases heq
    rcases (Resolution.step_requests hrun.agentRun hs).2 _ _ ho with hold | hnew
    · exact .inr (mem_agentTrace.mp hold)
    · refine .inl ?_
      cases m with
      | ticket e => exact hticket e hnew
      | billingResult e => exact hbilling e hnew
      | riskResult e => exact hrisk e hnew
      | taskResult | sweep => trivial
  | billing | risk =>
    obtain ⟨o, -, heq⟩ := List.mem_map.mp hm
    cases heq
  | opened | arrived | restartBilling | restartRisk => cases hm

/-- **Whatever was received was on its topic before**, and the records of then are still there. -/
theorem Run.received_before (hrun : Run D now nextId tr s) {before after : List Event} {i : LoopId}
    {m : Message} (htr : tr = before ++ .agent i (.received m) :: after) :
    ∃ tr₀ s₀, Run D now nextId tr₀ s₀ ∧ tr₀ <+: before ∧ OnTopic s₀ m ∧
      OpeningsKept s₀.store s.store := by
  induction hrun generalizing before after i with
  | nil => simp at htr
  | @step tr os s s' h ch hs ih =>
    have hstepped := stepped_of_step hs
    have hkept := hstepped.openingsKept h
    -- the step shows it after `tr`, or it was shown within `tr`
    have hlater : ∀ l, before = tr ++ l → .agent i (.received m) ∈ os →
        ∃ tr₀ s₀, Run D now nextId tr₀ s₀ ∧ tr₀ <+: before ∧ OnTopic s₀ m ∧
          OpeningsKept s₀.store s'.store := by
      intro l hbefore hm
      subst hbefore
      rcases hstepped.received h hm with hon | hold
      · exact ⟨tr, s, h, List.prefix_append tr l, hon, hkept⟩
      · obtain ⟨b, a, heq⟩ := List.append_of_mem hold
        obtain ⟨tr₀, s₀, hrun₀, hprefix, hon, hkept₀⟩ := ih heq
        refine ⟨tr₀, s₀, hrun₀, ?_, hon, hkept₀.trans hkept⟩
        exact hprefix.trans (heq ▸ (List.prefix_append b _).trans (List.prefix_append _ l))
    rcases List.append_eq_append_iff.mp htr with ⟨l, hbefore, hos⟩ | ⟨l, hold, hrest⟩
    · exact hlater l hbefore (hos ▸ List.mem_append_right _ List.mem_cons_self)
    · cases l with
      | nil =>
        rw [List.append_nil] at hold
        rw [List.nil_append] at hrest
        exact hlater [] (by simpa using hold.symm) (hrest ▸ List.mem_cons_self)
      | cons x l =>
        rw [List.cons_append, List.cons.injEq] at hrest
        obtain ⟨rfl, -⟩ := hrest
        obtain ⟨tr₀, s₀, hrun₀, hprefix, hon, hkept₀⟩ := ih hold
        exact ⟨tr₀, s₀, hrun₀, hprefix, hon, hkept₀.trans hkept⟩

theorem Run.tickets_lt (hrun : Run D now nextId tr s) :
    ∀ e ∈ s.tickets, e.correlationId < 2 ^ 128 := by
  induction hrun with
  | nil => simp [start]
  | @step tr os s s' h ch hs ih =>
    cases stepped_of_step hs with
    | opened hlt =>
      intro e he
      rcases List.mem_append.mp he with he | he
      · exact ih e he
      · obtain rfl := List.mem_singleton.mp he
        exact hlt
    | @arrived i ev =>
      rw [accept_eq]
      exact ih
    | agent | billing | risk | restartBilling | restartRisk => exact ih

end Received

/-! ## The invariant -/

/-- The case `k` was opened by the ticket `t`. -/
structure CaseOpened (tr : List Event) (st : InMemoryCaseStateStore) (k : UUID)
    (t : SupportTicketCreatedPayload) : Prop where
  id_lt : k < 2 ^ 128
  received : Resolution.TicketReceived (agentTrace tr) k t
  stored : ∃ c, st.get k = some c ∧ c.opening = openingOf k t

/-- An entry of the endpoint topic of a peer: the review request of an opened case. -/
def ReviewAsked (D : Deployment) (peer : Peer) (tr : List Event)
    (st : InMemoryCaseStateStore) (e : Runtime.Envelope) : Prop :=
  ∃ t, CaseOpened tr st e.correlationId t ∧
    e.payload = (reviewRequest D.settings peer e.correlationId t).modelDump

/-- The billing agent was called for the review of an opened case, and this is its verdict of then. -/
def BillingReviewed (D : Deployment) (tr : List Event) (st : InMemoryCaseStateStore)
    (e : Inbound BillingRefundAnalysisCompletedPayload) : Prop :=
  ∃ t clock r narrative, CaseOpened tr st e.correlationId t ∧
    .billing clock (.handlerCalled (reviewRequest D.settings billingPeer e.correlationId t)) ∈ tr ∧
    AboutPurchase e.correlationId t r ∧ e.payload = some (billingVerdict D clock r narrative)

def RiskReviewed (D : Deployment) (tr : List Event) (st : InMemoryCaseStateStore)
    (e : Inbound RiskReviewCompletedPayload) : Prop :=
  ∃ t clock r narrative, CaseOpened tr st e.correlationId t ∧
    .risk clock (.handlerCalled (reviewRequest D.settings riskPeer e.correlationId t)) ∈ tr ∧
    AboutCustomer e.correlationId t r ∧ e.payload = some (riskVerdict D r narrative)

structure Faithful (D : Deployment) (tr : List Event) (s : State) : Prop where
  billingTasks : ∀ e ∈ s.billingTasks, ReviewAsked D billingPeer tr s.store e
  riskTasks : ∀ e ∈ s.riskTasks, ReviewAsked D riskPeer tr s.store e
  billingResults : ∀ e ∈ s.billingResults, BillingReviewed D tr s.store e
  riskResults : ∀ e ∈ s.riskResults, RiskReviewed D tr s.store e

section Faithful

variable {D : Deployment} {now : Time} {nextId : UUID} {tr : List Event} {s s' : State}
  {st st' : InMemoryCaseStateStore} {k : UUID} {t : SupportTicketCreatedPayload}

theorem CaseOpened.mono (h : CaseOpened tr st k t) (os : List Event) (hk : OpeningsKept st st') :
    CaseOpened (tr ++ os) st' k t := by
  obtain ⟨e, hrec, hid, hpayload⟩ := h.received
  obtain ⟨c, hc, hop⟩ := h.stored
  obtain ⟨c', hc', hop'⟩ := hk k c hc
  refine ⟨h.id_lt, ⟨e, ?_, hid, hpayload⟩, c', hc', hop'.trans hop⟩
  unfold Resolution.ReceivedIn
  rw [agentTrace_append]
  exact List.mem_append_left _ hrec

theorem ReviewAsked.mono {peer : Peer} {e : Runtime.Envelope} (h : ReviewAsked D peer tr st e)
    (os : List Event) (hk : OpeningsKept st st') : ReviewAsked D peer (tr ++ os) st' e := by
  obtain ⟨t, hopened, hpayload⟩ := h
  exact ⟨t, hopened.mono os hk, hpayload⟩

theorem BillingReviewed.mono {e : Inbound BillingRefundAnalysisCompletedPayload}
    (h : BillingReviewed D tr st e) (os : List Event) (hk : OpeningsKept st st') :
    BillingReviewed D (tr ++ os) st' e := by
  obtain ⟨t, clock, r, narrative, hopened, hcalled, habout, hpayload⟩ := h
  exact ⟨t, clock, r, narrative, hopened.mono os hk, List.mem_append_left _ hcalled, habout,
    hpayload⟩

theorem RiskReviewed.mono {e : Inbound RiskReviewCompletedPayload} (h : RiskReviewed D tr st e)
    (os : List Event) (hk : OpeningsKept st st') : RiskReviewed D (tr ++ os) st' e := by
  obtain ⟨t, clock, r, narrative, hopened, hcalled, habout, hpayload⟩ := h
  exact ⟨t, clock, r, narrative, hopened.mono os hk, List.mem_append_left _ hcalled, habout,
    hpayload⟩

/-- What is on the topics stays faithful. -/
theorem Faithful.mono (h : Faithful D tr s) (os : List Event) {a : Resolution.State}
    (hk : OpeningsKept s.store a.world.store) : Faithful D (tr ++ os) { s with agent := a } where
  billingTasks := fun e he => (h.billingTasks e he).mono os hk
  riskTasks := fun e he => (h.riskTasks e he).mono os hk
  billingResults := fun e he => (h.billingResults e he).mono os hk
  riskResults := fun e he => (h.riskResults e he).mono os hk

/-- A record of a reachable state was opened by a ticket that the agent was given. -/
theorem caseOpened_of_stored (hrun : Run D now nextId tr s) {c : Resolution.ResolutionCase}
    (hc : s.store.get k = some c) : ∃ t, CaseOpened tr s.store k t ∧ c.opening = openingOf k t := by
  obtain ⟨⟨t, hreceived, hop⟩, -⟩ := (Resolution.run_requests hrun.agentRun).inv.case k c hc
  refine ⟨t, ⟨?_, hreceived, c, hc, hop⟩, hop⟩
  obtain ⟨e, hrec, rfl, -⟩ := hreceived
  obtain ⟨before, after, htr⟩ := List.append_of_mem (mem_agentTrace.mp hrec)
  obtain ⟨tr₀, s₀, hrun₀, -, hon, -⟩ := hrun.received_before htr
  exact hrun₀.tickets_lt e hon

/-- What the agent sends to a peer is a review request of an opened case. -/
theorem asked_of_sent (hrun : Run D now nextId tr s) {ev : Resolution.OutEvent}
    (h : Resolution.Sent (agentTrace tr) s.agent ev) {req : TaskRequest}
    (hreq : ev.payload = .taskRequest req) :
    ∃ peer t, IsPeer peer ∧ CaseOpened tr s.store ev.correlationId t ∧
      req = reviewRequest D.settings peer ev.correlationId t := by
  obtain ⟨peer, c, hpeer, hc, heq⟩ := (Resolution.sent_pertinent hrun.agentRun h).1 req hreq
  obtain ⟨t, hopened, hop⟩ := caseOpened_of_stored hrun hc
  exact ⟨peer, t, hpeer, hopened, heq.trans (Resolution.taskRequestFor_opening hpeer hop _)⟩

theorem Faithful.accept (hrun : Run D now nextId tr s) (h : Faithful D tr s) {i : LoopId}
    {ev : Resolution.OutEvent} (hev : s.agent.waiting i = some (.send ev)) :
    Faithful D tr (s.accept ev) := by
  unfold State.accept
  split
  · exact h
  rename_i target e he
  -- the entry is a review request of its target
  have hasked : ∀ peer, target = peer.agentId → IsPeer peer →
      ReviewAsked D peer tr s.store e := by
    intro peer htarget hpeer
    unfold taskEnvelope at he
    split at he
    · rename_i req hreq
      obtain ⟨peer', t, hpeer', hopened, rfl⟩ := asked_of_sent hrun (.inr ⟨i, hev⟩) hreq
      obtain ⟨rfl, rfl⟩ := Prod.mk.inj (Option.some.inj he)
      obtain rfl := Resolution.peer_eq_of_agentId hpeer' hpeer htarget
      exact ⟨t, hopened, rfl⟩
    · cases he
  split
  · rename_i htarget
    refine ⟨?_, h.riskTasks, h.billingResults, h.riskResults⟩
    intro e' he'
    rcases List.mem_append.mp he' with he' | he'
    · exact h.billingTasks e' he'
    · obtain rfl := List.mem_singleton.mp he'
      exact hasked billingPeer htarget (.inl rfl)
  split
  · rename_i htarget
    refine ⟨h.billingTasks, ?_, h.billingResults, h.riskResults⟩
    intro e' he'
    rcases List.mem_append.mp he' with he' | he'
    · exact h.riskTasks e' he'
    · obtain rfl := List.mem_singleton.mp he'
      exact hasked riskPeer htarget (.inr rfl)
  · exact h

/-- What the billing agent puts on its topic while it handles an entry of its endpoint. -/
theorem billingReviewed_of_handled {e : Runtime.Envelope} {h : Handling Billing.Services}
    {w : Runtime.World} (he : ReviewAsked D billingPeer tr st e)
    {r : Inbound BillingRefundAnalysisCompletedPayload}
    (hr : r ∈ (handleBilling D e h w).1.filterMap (billingEvent D h)) :
    r.correlationId = e.correlationId ∧
      BillingReviewed D (tr ++ (handleBilling D e h w).1.map (.billing h.now)) st r := by
  obtain ⟨t, hopened, hpayload⟩ := he
  obtain ⟨o, ho, hevent⟩ := List.mem_filterMap.mp hr
  cases o with
  | handlerCalled req =>
    obtain ⟨e', henv, hread⟩ := Runtime.read_of_handlerCalled ho
    obtain rfl := Except.ok.inj henv
    rw [hpayload, taskRequest_reviewRequest (.inl rfl)] at hread
    obtain rfl := Except.ok.inj hread
    obtain ⟨hid, r', narrative, habout, hverdict⟩ := billingEvent_reviewRequest hopened.id_lt hevent
    rw [← hid] at hopened habout ho
    refine ⟨hid, t, h.now, r', narrative, hopened.mono _ (.refl _), ?_, habout, hverdict⟩
    exact List.mem_append_right _ (List.mem_map_of_mem ho)
  | resultPublished | resultLost | audited | auditLost | markedProcessed => cases hevent

theorem riskReviewed_of_handled {e : Runtime.Envelope} {h : Handling Risk.Services}
    {w : Runtime.World} (he : ReviewAsked D riskPeer tr st e)
    {r : Inbound RiskReviewCompletedPayload}
    (hr : r ∈ (handleRisk D e h w).1.filterMap (riskEvent D h)) :
    r.correlationId = e.correlationId ∧
      RiskReviewed D (tr ++ (handleRisk D e h w).1.map (.risk h.now)) st r := by
  obtain ⟨t, hopened, hpayload⟩ := he
  obtain ⟨o, ho, hevent⟩ := List.mem_filterMap.mp hr
  cases o with
  | handlerCalled req =>
    obtain ⟨e', henv, hread⟩ := Runtime.read_of_handlerCalled ho
    obtain rfl := Except.ok.inj henv
    rw [hpayload, taskRequest_reviewRequest (.inr rfl)] at hread
    obtain rfl := Except.ok.inj hread
    obtain ⟨hid, r', narrative, habout, hverdict⟩ := riskEvent_reviewRequest hopened.id_lt hevent
    rw [← hid] at hopened habout ho
    refine ⟨hid, t, h.now, r', narrative, hopened.mono _ (.refl _), ?_, habout, hverdict⟩
    exact List.mem_append_right _ (List.mem_map_of_mem ho)
  | resultPublished | resultLost | audited | auditLost | markedProcessed => cases hevent

/-- **One step.** -/
theorem Faithful.step (hrun : Run D now nextId tr s) (h : Faithful D tr s) {ch : Choice}
    {os : List Event} (hs : Stepped D s ch os s') : Faithful D (tr ++ os) s' := by
  have hkept := hs.openingsKept hrun
  cases hs with
  | agent => exact h.mono _ hkept
  | opened | restartBilling | restartRisk =>
    have hsame := h.mono [] hkept
    exact ⟨hsame.billingTasks, hsame.riskTasks, hsame.billingResults, hsame.riskResults⟩
  | arrived hev =>
    rw [List.append_nil]
    exact h.accept hrun hev
  | @billing n e hd he =>
    have hsame := h.mono ((handleBilling D e hd s.billing).1.map (.billing hd.now)) (.refl s.store)
    refine ⟨hsame.billingTasks, hsame.riskTasks, fun r hr => ?_, hsame.riskResults⟩
    rcases List.mem_append.mp hr with hr | hr
    · exact hsame.billingResults r hr
    · split at hr
      · exact (billingReviewed_of_handled (h.billingTasks e he) hr).2
      · cases hr
  | @risk n e hd he =>
    have hsame := h.mono ((handleRisk D e hd s.risk).1.map (.risk hd.now)) (.refl s.store)
    refine ⟨hsame.billingTasks, hsame.riskTasks, hsame.billingResults, fun r hr => ?_⟩
    rcases List.mem_append.mp hr with hr | hr
    · exact hsame.riskResults r hr
    · split at hr
      · exact (riskReviewed_of_handled (h.riskTasks e he) hr).2
      · cases hr

/-- **Every run.** -/
theorem Run.faithful (hrun : Run D now nextId tr s) : Faithful D tr s := by
  induction hrun with
  | nil => exact ⟨by simp [start], by simp [start], by simp [start], by simp [start]⟩
  | step h ch hs ih => exact ih.step h (stepped_of_step hs)

end Faithful

end RefundOps.Workflow
