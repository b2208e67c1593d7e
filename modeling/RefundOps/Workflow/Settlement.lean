import RefundOps.Resolution.Properties.Delegations
import RefundOps.Workflow.Acceptance
import RefundOps.Workflow.Alone
import RefundOps.Workflow.Outcomes

/-!
# A refund can be settled

Whatever has happened before, a new ticket that asks for a refund can still get the decision that its
two reviews call for. Here is the schedule that leads there: the ticket is opened and handled, both
requests arrive, each peer handles its own, and the two verdicts are handed to the agent (`handOver`),
in either order and after any time.
-/

set_option autoImplicit false

namespace RefundOps.Workflow

open Resolution (LoopId Message Peer IsPeer billingPeer riskPeer openedCase reviewRequest taskOf
  billingTaskOf riskTaskOf)

variable {D : Deployment} {s : State} {k : UUID} {t : SupportTicketCreatedPayload}

/-! ## A peer gives its verdict -/

theorem exists_analysis (hk : k < 2 ^ 128) (hread : BillingReadable t) (clock : Time) :
    ∃ a, Billing.analyze D.billing clock (reviewRequest D.settings billingPeer k t).input.parts =
      .ok a := by
  rw [Billing.analyze_isOk_iff, Billing.validateInput_eq_firstData, firstData_reviewRequest (.inl rfl)]
  simp only [Deployment.billing, Billing.runningBackend]
  obtain ⟨r, hr⟩ := Option.isSome_iff_exists.mp
    ((billingRequest_isSome_iff (D := D) hk).mpr hread)
  rw [hr]
  exact ⟨r, rfl⟩

theorem exists_assessment (hk : k < 2 ^ 128) (hread : RiskReadable t) :
    ∃ a, Risk.assess D.risk (reviewRequest D.settings riskPeer k t).input.parts = .ok a := by
  unfold Risk.assess Risk.validateInput
  rw [firstData_reviewRequest (.inr rfl)]
  simp only [Deployment.risk, Risk.runningBackend]
  obtain ⟨r, hr⟩ := Option.isSome_iff_exists.mp ((riskRequest_isSome_iff (D := D) hk).mpr hread)
  rw [hr]
  exact ⟨_, rfl⟩

/-- The billing agent handles a review request that it has not processed. -/
theorem step_handleBilling {e : Runtime.Envelope} (hk : k < 2 ^ 128) (hread : BillingReadable t)
    (he : e ∈ s.billingTasks)
    (hpayload : e.payload = (reviewRequest D.settings billingPeer k t).modelDump)
    (hnew : taskOf D.settings k billingPeer ∉ s.billing.tracker.keys)
    (h : Handling Billing.Services) (harrives : h.arrives = true) :
    ∃ i tr w eb r n, step D (.handleBilling i h) s =
        some (tr, { s with billing := w, billingResults := s.billingResults ++ [eb] }) ∧
      agentTrace tr = [] ∧ eb.correlationId = k ∧ AboutPurchase k t r ∧
      eb.payload = some (billingVerdict D h.now r n) := by
  obtain ⟨i, hi⟩ := List.mem_iff_getElem?.mp he
  obtain ⟨a, ha⟩ := exists_analysis (D := D) hk hread h.now
  have hcalls := (calls_handleBilling (D := D) (h := h) (w := s.billing)
    (requestOf_reviewRequest _ (.inl rfl) rfl hpayload)).1
  rw [if_neg hnew] at hcalls
  obtain ⟨eb, heb⟩ : ∃ eb, billingEvent D h
      (.handlerCalled (reviewRequest D.settings billingPeer k t)) = some eb := by
    simp only [billingEvent, ha]
    exact ⟨_, rfl⟩
  have hevents : (handleBilling D e h s.billing).1.filterMap (billingEvent D h) = [eb] := by
    rw [filterMap_billingEvent, hcalls]
    simp only [List.filterMap_cons, List.filterMap_nil, heb]
  obtain ⟨hcorr, r, n, habout, hverdict⟩ := billingEvent_reviewRequest hk heb
  have hstep : step D (.handleBilling i h) s = some ((handleBilling D e h s.billing).1.map (.billing h.now),
      { s with
        billing := (handleBilling D e h s.billing).2, billingResults := s.billingResults ++ [eb] }) := by
    simp only [step, hi, Option.map_some, harrives, if_true, hevents]
  exact ⟨i, _, _, eb, r, n, hstep, agentTrace_billing h.now _, hcorr, habout, hverdict⟩

/-- The risk agent likewise. -/
theorem step_handleRisk {e : Runtime.Envelope} (hk : k < 2 ^ 128) (hread : RiskReadable t)
    (he : e ∈ s.riskTasks)
    (hpayload : e.payload = (reviewRequest D.settings riskPeer k t).modelDump)
    (hnew : taskOf D.settings k riskPeer ∉ s.risk.tracker.keys)
    (h : Handling Risk.Services) (harrives : h.arrives = true) :
    ∃ i tr w er r n, step D (.handleRisk i h) s =
        some (tr, { s with risk := w, riskResults := s.riskResults ++ [er] }) ∧
      agentTrace tr = [] ∧ er.correlationId = k ∧ AboutCustomer k t r ∧
      er.payload = some (riskVerdict D r n) := by
  obtain ⟨i, hi⟩ := List.mem_iff_getElem?.mp he
  obtain ⟨⟨a, request⟩, ha⟩ := exists_assessment (D := D) hk hread
  have hcalls := (calls_handleRisk (D := D) (h := h) (w := s.risk)
    (requestOf_reviewRequest _ (.inr rfl) rfl hpayload)).1
  rw [if_neg hnew] at hcalls
  obtain ⟨er, her⟩ : ∃ er, riskEvent D h
      (.handlerCalled (reviewRequest D.settings riskPeer k t)) = some er := by
    simp only [riskEvent, ha]
    exact ⟨_, rfl⟩
  have hevents : (handleRisk D e h s.risk).1.filterMap (riskEvent D h) = [er] := by
    rw [filterMap_riskEvent, hcalls]
    simp only [List.filterMap_cons, List.filterMap_nil, her]
  obtain ⟨hcorr, r, n, habout, hverdict⟩ := riskEvent_reviewRequest hk her
  have hstep : step D (.handleRisk i h) s = some ((handleRisk D e h s.risk).1.map (.risk h.now),
      { s with
        risk := (handleRisk D e h s.risk).2, riskResults := s.riskResults ++ [er] }) := by
    simp only [step, hi, Option.map_some, harrives, if_true, hevents]
  exact ⟨i, _, _, er, r, n, hstep, agentTrace_risk h.now _, hcorr, habout, hverdict⟩

/-! ## The ticket is handled -/

/-- Both peers have been asked about the case, and nothing has been said about it. -/
structure Delegated (D : Deployment) (k : UUID) (t : SupportTicketCreatedPayload) (triage : Resolution.Triage)
    (s s' : State) (x : Resolution.ResolutionCase) : Prop where
  stored : Resolution.Stored s'.agent.world k x
  waiting : Resolution.Open triage (billingTaskOf D.settings k) (riskTaskOf D.settings k)
    {riskTaskOf D.settings k, billingTaskOf D.settings k} none none False x
  loops : s'.agent.loops = s.agent.loops
  billing : s'.billing = s.billing
  risk : s'.risk = s.risk
  billingAsked : ∃ e ∈ s'.billingTasks,
    e.payload = (reviewRequest D.settings billingPeer k t).modelDump
  riskAsked : ∃ e ∈ s'.riskTasks, e.payload = (reviewRequest D.settings riskPeer k t).modelDump
  billingResults : s'.billingResults = s.billingResults
  riskResults : s'.riskResults = s.riskResults

theorem taskEnvelope_reviewRequest {ev : Resolution.OutEvent} {peer : Peer}
    (hev : ev.payload = .taskRequest (reviewRequest D.settings peer k t)) :
    ∃ e, taskEnvelope ev = some (peer.agentId, e) ∧
      e.payload = (reviewRequest D.settings peer k t).modelDump := by
  unfold taskEnvelope
  rw [hev]
  exact ⟨_, rfl, rfl⟩

/-- A new ticket that needs a review is opened and handled. -/
theorem exec_ticket {now : Time} {nextId : UUID} {before : List Event}
    (hrun : Run D now nextId before s) {e : Inbound SupportTicketCreatedPayload}
    (hk : e.correlationId < 2 ^ 128) (he : e.payload = some t)
    (hnew : s.agent.world.store.get e.correlationId = none) (hidle : s.agent.loops .intake = none)
    {answer : ∀ x, Resolution.Reply x} (hg : Resolution.Granted answer)
    (hd : Resolution.Discovered answer) {y : Resolution.LlmAnswer}
    (hreview : (Resolution.intakeTriage D.settings t y).needsRefundReview = true) :
    ∃ asking tr s' x, Serves .intake (Resolution.withLlm answer y) asking ∧
      exec D (.open e :: .deliverTicket s.tickets.length :: asking) s = some (tr, s') ∧
      Resolution.decidedFor e.correlationId (agentTrace tr) = [] ∧
      Delegated D e.correlationId t (Resolution.intakeTriage D.settings t y) s s' x := by
  have hopen : step D (.open e) s = some ([], { s with tickets := s.tickets ++ [e] }) := by
    simp only [step, hk, if_true]
  have hch : Choice.forAgent { s with tickets := s.tickets ++ [e] } (.deliverTicket s.tickets.length) =
      some (.deliver (.ticket e)) := by
    simp only [Choice.forAgent, List.getElem?_concat_length, Option.map_some]
  have hview := Resolution.run_viewOk hrun.agentRun
  obtain ⟨x, hcase, hsync⟩ := Resolution.returns_intakeHandler (y := y) hview hg hd he hnew
  rw [if_pos hreview] at hsync
  obtain ⟨asking, tr, hserves, hexec, hdecided, hstored⟩ := exec_handled (D := D) (m := .ticket e)
    (s := { s with tickets := s.tickets ++ [e] }) _ hch hidle hsync
  have hsame := handled_same D (Resolution.withLlm answer y) (.ticket e)
    { s with tickets := s.tickets ++ [e] }
  -- what it sent on the way is on the endpoint topics
  have hasks : ∀ {peer : Peer}, IsPeer peer → ∃ ev en,
      Resolution.Request.send ev ∈ ((Message.ticket e).handler D.settings).asked
        (Resolution.withLlm answer y) s.agent.world ∧
      taskEnvelope ev = some (peer.agentId, en) ∧
      en.payload = (reviewRequest D.settings peer e.correlationId t).modelDump := by
    intro peer hpeer
    obtain ⟨ev, hev, -, hpayload⟩ := Resolution.posts_intakeHandler (y := y) hpeer hview
      (Resolution.run_requests hrun.agentRun).inv hg hd he hnew hreview
    obtain ⟨en, hen, hdump⟩ := taskEnvelope_reviewRequest hpayload
    exact ⟨ev, en, hev, hen, hdump⟩
  refine ⟨asking, tr, _, _, hserves, exec_cons hopen hexec, hdecided,
    ⟨hstored, Resolution.open_waitingCase hcase hreview, rfl, ?_, ?_, ?_, ?_, ?_, ?_⟩⟩
  · rw [hsame]
  · rw [hsame]
  · obtain ⟨ev, en, hev, hen, hdump⟩ := hasks (.inl rfl)
    exact ⟨en, (taskEnvelope_served hev hen _).1 rfl, hdump⟩
  · obtain ⟨ev, en, hev, hen, hdump⟩ := hasks (.inr rfl)
    exact ⟨en, (taskEnvelope_served hev hen _).2 rfl, hdump⟩
  · rw [hsame]
  · rw [hsame]

/-! ## The verdicts are handed over -/

/-- Hand the agent the two verdicts at these places of their topics, the one after `micros` and the other
    `micros'` later. Its loops are served with `first` and with `second` meanwhile. -/
def handOver (billingIsFirst : Bool) (nb nr micros micros' : Nat) (first second : List Choice) :
    List Choice :=
  if billingIsFirst then
    .pass micros :: .deliverBilling nb :: first ++ .pass micros' :: .deliverRisk nr :: second
  else
    .pass micros :: .deliverRisk nr :: first ++ .pass micros' :: .deliverBilling nb :: second

/-- The loop that a verdict is for. -/
def verdictLoop (isBilling : Bool) : LoopId := if isBilling then .billing else .risk

section Verdicts

variable {answer : ∀ x, Resolution.Reply x} {x : Resolution.ResolutionCase} {bt rt : UUID} {nb nr : Nat}
  {eb : Inbound BillingRefundAnalysisCompletedPayload} {er : Inbound RiskReviewCompletedPayload}
  {b : BillingRefundAnalysisCompletedPayload} {r : RiskReviewCompletedPayload}

/-- Some time later, the agent is handed the verdict of the billing agent. -/
theorem exec_billingResult (hg : Resolution.Granted answer) (hn : s.billingResults[nb]? = some eb)
    (hk : eb.correlationId = k) (hb : eb.payload = some b)
    (hs : Resolution.Stored s.agent.world k x) (hbt : x.billingTaskId = some bt)
    (hidle : s.agent.loops .billing = none) (micros : Nat) :
    ∃ chs tr s' now, Serves .billing answer chs ∧
      exec D (.pass micros :: .deliverBilling nb :: chs) s = some (tr, s') ∧
      Resolution.decidedFor k (agentTrace tr) = (Resolution.onBilling x bt b now).1 ∧
      Resolution.Stored s'.agent.world k (Resolution.onBilling x bt b now).2 ∧
      s'.agent.loops = s.agent.loops ∧ s'.riskResults = s.riskResults := by
  obtain ⟨chs, tr, hserves, hexec, hdecided, hstored⟩ := exec_handled (D := D) (m := .billingResult eb)
    (s := { s with agent := { s.agent with
      world := { s.agent.world with now := s.agent.world.now + micros } } })
    (.deliverBilling nb) (by simp only [Choice.forAgent, hn, Option.map_some]) hidle
    (Resolution.returns_billingResultHandler hg (hs.of_view rfl) hbt hb hk)
  refine ⟨chs, _, _, _, hserves, exec_pass micros hexec, hdecided, hstored, rfl, ?_⟩
  rw [handled_same]

theorem exec_riskResult (hg : Resolution.Granted answer) (hn : s.riskResults[nr]? = some er)
    (hk : er.correlationId = k) (hr : er.payload = some r)
    (hs : Resolution.Stored s.agent.world k x) (hrt : x.riskTaskId = some rt)
    (hidle : s.agent.loops .risk = none) (micros : Nat) :
    ∃ chs tr s' now, Serves .risk answer chs ∧
      exec D (.pass micros :: .deliverRisk nr :: chs) s = some (tr, s') ∧
      Resolution.decidedFor k (agentTrace tr) = (Resolution.onRisk x rt r now).1 ∧
      Resolution.Stored s'.agent.world k (Resolution.onRisk x rt r now).2 ∧
      s'.agent.loops = s.agent.loops ∧ s'.billingResults = s.billingResults := by
  obtain ⟨chs, tr, hserves, hexec, hdecided, hstored⟩ := exec_handled (D := D) (m := .riskResult er)
    (s := { s with agent := { s.agent with
      world := { s.agent.world with now := s.agent.world.now + micros } } })
    (.deliverRisk nr) (by simp only [Choice.forAgent, hn, Option.map_some]) hidle
    (Resolution.returns_riskResultHandler hg (hs.of_view rfl) hrt hr hk)
  refine ⟨chs, _, _, _, hserves, exec_pass micros hexec, hdecided, hstored, rfl, ?_⟩
  rw [handled_same]

/-- The case that waits for both verdicts gets its decision with the second, or with the first if that
    one escalates it at once. -/
theorem exec_handOver {triage : Resolution.Triage} (hg : Resolution.Granted answer)
    (hbilling : s.billingResults[nb]? = some eb) (hrisk : s.riskResults[nr]? = some er)
    (hkb : eb.correlationId = k) (hkr : er.correlationId = k) (hb : eb.payload = some b)
    (hr : er.payload = some r) (hs : Resolution.Stored s.agent.world k x)
    (hwaiting : Resolution.Open triage bt rt {rt, bt} none none False x)
    (hidleb : s.agent.loops .billing = none) (hidler : s.agent.loops .risk = none)
    (billingIsFirst : Bool) (micros micros' : Nat) :
    ∃ first second tr s' d, Serves (verdictLoop billingIsFirst) answer first ∧
      Serves (verdictLoop !billingIsFirst) answer second ∧
      exec D (handOver billingIsFirst nb nr micros micros' first second) s = some (tr, s') ∧
      s'.agent.loops = s.agent.loops ∧ Resolution.decidedFor k (agentTrace tr) = [d] ∧
      d.outcome = if bt = rt ∨ Resolution.AtOnce billingIsFirst (Resolution.billingFinding b bt)
          (Resolution.riskFinding r rt) then .escalateHuman
        else Resolution.jointOutcome triage (Resolution.billingFinding b bt)
          (Resolution.riskFinding r rt) := by
  cases billingIsFirst with
  | true =>
    obtain ⟨first, tr₁, s₁, now₁, hserves₁, hexec₁, hdecided₁, hstored₁, hloops₁, hsame⟩ :=
      exec_billingResult (D := D) hg hbilling hkb hb hs hwaiting.billingTaskId hidleb micros
    have hrt : (Resolution.onBilling x bt b now₁).2.riskTaskId = some rt :=
      (Resolution.settleCase_tasks _ _).2.trans
        ((Resolution.attachIf_tasks _ _ _).2.trans hwaiting.riskTaskId)
    obtain ⟨second, tr₂, s₂, now₂, hserves₂, hexec₂, hdecided₂, -, hloops₂, -⟩ :=
      exec_riskResult (D := D) hg (hsame ▸ hrisk) hkr hr hstored₁ hrt (hloops₁ ▸ hidler) micros'
    obtain ⟨d, hd, houtcome⟩ :=
      Resolution.billing_then_risk_settles (b := b) (r := r) hwaiting now₁ now₂
    refine ⟨first, second, _, s₂, d, hserves₁, hserves₂, exec_append hexec₁ hexec₂,
      hloops₂.trans hloops₁, ?_, houtcome⟩
    rw [agentTrace_append, Resolution.decidedFor_append, hdecided₁, hdecided₂, hd]
  | false =>
    obtain ⟨first, tr₁, s₁, now₁, hserves₁, hexec₁, hdecided₁, hstored₁, hloops₁, hsame⟩ :=
      exec_riskResult (D := D) hg hrisk hkr hr hs hwaiting.riskTaskId hidler micros
    have hbt : (Resolution.onRisk x rt r now₁).2.billingTaskId = some bt :=
      Resolution.onRisk_billingTaskId hwaiting.billingTaskId
    obtain ⟨second, tr₂, s₂, now₂, hserves₂, hexec₂, hdecided₂, -, hloops₂, -⟩ :=
      exec_billingResult (D := D) hg (hsame ▸ hbilling) hkb hb hstored₁ hbt (hloops₁ ▸ hidleb) micros'
    obtain ⟨d, hd, houtcome⟩ :=
      Resolution.risk_then_billing_settles (b := b) (r := r) hwaiting now₁ now₂
    refine ⟨first, second, _, s₂, d, hserves₁, hserves₂, exec_append hexec₁ hexec₂,
      hloops₂.trans hloops₁, ?_, houtcome⟩
    rw [agentTrace_append, Resolution.decidedFor_append, hdecided₁, hdecided₂, hd]

end Verdicts

/-! ## From the ticket to the decision -/

/-- The case is new to the agent and to both peers, and the loops that it takes are free. -/
structure Fresh (D : Deployment) (k : UUID) (s : State) : Prop where
  notStored : s.agent.world.store.get k = none
  billing : taskOf D.settings k billingPeer ∉ s.billing.tracker.keys
  risk : taskOf D.settings k riskPeer ∉ s.risk.tracker.keys
  intakeIdle : s.agent.loops .intake = none
  billingIdle : s.agent.loops .billing = none
  riskIdle : s.agent.loops .risk = none

/-- **A refund can be settled.** From every reachable state, whatever else is stored, under way or on the
    topics, take a ticket of a case that is new, that both peers can read and that is found to need a
    review. Open and handle it, let each peer handle its request, wait, hand the agent one verdict, wait
    again, and hand it the other, the two in either order and the waits of any length. The case gets
    exactly one decision, the one that is due on what the datasets have on record (should `uuid5` give
    both reviews one task id, it is escalated), and the loops are where they were. -/
theorem refunds_can_be_settled {now : Time} {nextId : UUID} {before : List Event}
    (hrun : Run D now nextId before s) {e : Inbound SupportTicketCreatedPayload}
    (hk : e.correlationId < 2 ^ 128) (he : e.payload = some t) (hfresh : Fresh D e.correlationId s)
    {answer : ∀ x, Resolution.Reply x} (hg : Resolution.Granted answer)
    (hd : Resolution.Discovered answer) {y : Resolution.LlmAnswer}
    (hreview : (Resolution.intakeTriage D.settings t y).needsRefundReview = true)
    (hread : RiskReadable t) (hb : Handling Billing.Services) (harrivesb : hb.arrives = true)
    (hr : Handling Risk.Services) (harrivesr : hr.arrives = true) (billingIsFirst : Bool)
    (micros micros' : Nat) :
    ∃ i j asking first second tr s' d rr, Serves .intake (Resolution.withLlm answer y) asking ∧
      Serves (verdictLoop billingIsFirst) answer first ∧
      Serves (verdictLoop !billingIsFirst) answer second ∧
      exec D (.open e :: .deliverTicket s.tickets.length :: asking ++
        .handleBilling i hb :: .handleRisk j hr ::
        handOver billingIsFirst s.billingResults.length s.riskResults.length micros micros' first
          second) s = some (tr, s') ∧
      s'.agent.loops = s.agent.loops ∧
      Resolution.decidedFor e.correlationId (agentTrace tr) = [d] ∧
      AboutCustomer e.correlationId t rr ∧
      if billingTaskOf D.settings e.correlationId = riskTaskOf D.settings e.correlationId then
        d.outcome = .escalateHuman
      else Due D hb.now t rr
        (Resolution.confidenceThreshold ≤ (Resolution.intakeTriage D.settings t y).confidence.val)
        billingIsFirst d.outcome := by
  obtain ⟨asking, tr₁, s₁, x, hserves₁, hexec₁, hquiet₁, hdelegated⟩ := exec_ticket hrun hk he
    hfresh.notStored hfresh.intakeIdle hg hd hreview
  -- each peer handles its request
  obtain ⟨en, hen, hpayload⟩ := hdelegated.billingAsked
  obtain ⟨i, tr₂, w₂, eb, rb, nb, hstep₂, hquiet₂, hkb, haboutb, hverdictb⟩ := step_handleBilling hk
    hread.1 hen hpayload (hdelegated.billing ▸ hfresh.billing) hb harrivesb
  obtain ⟨en', hen', hpayload'⟩ := hdelegated.riskAsked
  obtain ⟨j, tr₃, w₃, er, rr, nr, hstep₃, hquiet₃, hkr, haboutr, hverdictr⟩ := step_handleRisk
    (s := { s₁ with billing := w₂, billingResults := s₁.billingResults ++ [eb] }) hk hread hen'
    hpayload' (show _ ∉ s₁.risk.tracker.keys from hdelegated.risk ▸ hfresh.risk) hr harrivesr
  -- and the agent is handed the verdicts
  have hbilling : (s₁.billingResults ++ [eb])[s.billingResults.length]? = some eb := by
    rw [hdelegated.billingResults]
    exact List.getElem?_concat_length
  have hrisk : (s₁.riskResults ++ [er])[s.riskResults.length]? = some er := by
    rw [hdelegated.riskResults]
    exact List.getElem?_concat_length
  obtain ⟨first, second, tr₄, s₄, d, hserves₂, hserves₃, hexec₄, hloops, hdecided, houtcome⟩ :=
    exec_handOver (D := D)
      (s := { s₁ with
        billing := w₂, billingResults := s₁.billingResults ++ [eb]
        risk := w₃, riskResults := s₁.riskResults ++ [er] })
      hg hbilling hrisk hkb hkr hverdictb hverdictr hdelegated.stored hdelegated.waiting
      (hdelegated.loops ▸ hfresh.billingIdle) (hdelegated.loops ▸ hfresh.riskIdle) billingIsFirst
      micros micros'
  refine ⟨i, j, asking, first, second, _, s₄, d, rr, hserves₁, hserves₂, hserves₃,
    exec_append hexec₁ (exec_cons hstep₂ (exec_cons hstep₃ hexec₄)), hloops.trans hdelegated.loops, ?_,
    haboutr, ?_⟩
  · simp only [agentTrace_append, Resolution.decidedFor_append, hquiet₁, hquiet₂, hquiet₃, hdecided]
    rfl
  split
  · rename_i hsame
    rw [houtcome, if_pos (.inl hsame)]
  · rename_i hne
    have hlooked : d.outcome = Resolution.outcomeWith (Resolution.intakeTriage D.settings t y)
        billingIsFirst
        (Resolution.billingFinding (billingVerdict D hb.now rb nb)
          (billingTaskOf D.settings e.correlationId))
        (Resolution.riskFinding (riskVerdict D rr nr) (riskTaskOf D.settings e.correlationId)) := by
      rw [houtcome, Resolution.outcomeWith, if_pos hreview]
      simp only [hne, false_or]
    rw [hlooked]
    exact due_outcome _ _ haboutb haboutr hreview billingIsFirst

theorem pairUuid5_lt (k : UUID) (name : String) : Resolution.pairSettings.uuid5 k name < 2 ^ 128 := by
  simp only [Resolution.pairSettings]
  split
  · norm_num
  split
  · norm_num
  · exact sampleUuid5_lt k name

/-- The sample installation, with two cases. -/
def pairDeployment : Deployment :=
  { sampleDeployment with settings := Resolution.pairSettings, uuid5_lt := pairUuid5_lt }

/-- The case `1` is waiting for its peers. The risk verdict on the case `2` is handed over an hour after
    it was given, and the other one a day later. -/
theorem refunds_can_be_settled_sample :
    ∃ before s i j asking first second tr s' d rr, Run pairDeployment 0 1000 before s ∧
      (s.agent.world.store.get 1).map (·.status) = some .waitingForPeerReviews ∧
      exec pairDeployment (.open (Resolution.caseTicket 2) :: .deliverTicket s.tickets.length :: asking ++
        .handleBilling i smoothBilling :: .handleRisk j smoothRisk ::
        handOver false s.billingResults.length s.riskResults.length 3600000000 86400000000 first
          second) s = some (tr, s') ∧
      Resolution.decidedFor 2 (agentTrace tr) = [d] ∧
      Due pairDeployment smoothBilling.now (Resolution.sampleTicket "refund") rr
        (Resolution.confidenceThreshold ≤ (Resolution.intakeTriage pairDeployment.settings
          (Resolution.sampleTicket "refund") (.ok none)).confidence.val) false d.outcome := by
  have hexec : ((exec pairDeployment (refundSchedule.take 11) (start 0 1000)).map fun out =>
      ((out.2.agent.world.store.get 1).map (·.status), (out.2.agent.world.store.get 2).isNone,
        decide (taskOf pairDeployment.settings 2 billingPeer ∉ out.2.billing.tracker.keys),
        decide (taskOf pairDeployment.settings 2 riskPeer ∉ out.2.risk.tracker.keys),
        Resolution.allIdle out.2.agent)) =
      some (some .waitingForPeerReviews, true, true, true, true) := by decide +kernel
  obtain ⟨⟨before, s⟩, hout, heq⟩ := Option.map_eq_some_iff.mp hexec
  simp only [Prod.mk.injEq] at heq
  obtain ⟨hstatus, hnone, hbilling, hrisk, hidle⟩ := heq
  have hrun : Run pairDeployment 0 1000 before s := by simpa using Run.nil.of_exec hout
  have hq := Resolution.quiescent_of_allIdle hidle
  have hfresh : Fresh pairDeployment 2 s :=
    ⟨Option.isNone_iff_eq_none.mp hnone, of_decide_eq_true hbilling, of_decide_eq_true hrisk,
      hq .intake, hq .billing, hq .risk⟩
  have hcards : Resolution.Discovered Resolution.grant := ⟨_, rfl, by decide +kernel, by decide +kernel⟩
  obtain ⟨i, j, asking, first, second, tr, s', d, rr, -, -, -, hexec, -, hdecided, -, hdue⟩ :=
    refunds_can_be_settled (D := pairDeployment) (e := Resolution.caseTicket 2) (y := .ok none) hrun
      (by decide) rfl hfresh Resolution.grant_granted hcards (by decide +kernel) (by decide)
      smoothBilling rfl smoothRisk rfl false 3600000000 86400000000
  rw [if_neg (by decide +kernel)] at hdue
  exact ⟨before, s, i, j, asking, first, second, tr, s', d, rr, hrun, hstatus, hexec, hdecided, hdue⟩

end RefundOps.Workflow
