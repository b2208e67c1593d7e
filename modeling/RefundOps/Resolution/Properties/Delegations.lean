import RefundOps.Lib.Asked
import RefundOps.Resolution.Properties.ModelOutput
import RefundOps.Resolution.Properties.Requests

/-!
# A new case asks both peers

`returns_intakeHandler` says what a refund ticket of a new case leaves behind when its handler runs
alone. Here is what it sends on the way: to each peer the review request of that ticket.
-/

set_option autoImplicit false

namespace RefundOps.Resolution

/-- Run alone, the program sends this task request for the case `k`. -/
def Posts {α : Type} (answer : ∀ x, Reply x) (m : M α) (w : World) (k : UUID) (req : TaskRequest) :
    Prop :=
  ∃ ev, Request.send ev ∈ m.asked answer w ∧ ev.correlationId = k ∧ ev.payload = .taskRequest req

section Parts

variable {α β : Type} {answer : ∀ x, Reply x} {m : M α} {f : α → M β} {w : World} {k : UUID}
  {req : TaskRequest}

theorem Posts.first (h : Posts answer m w k req) : Posts answer (m >>= f) w k req := by
  obtain ⟨ev, hev, hk, hreq⟩ := h
  exact ⟨ev, Coro.mem_asked_first hev, hk, hreq⟩

theorem Posts.later (h : Coro.Returns answer m w fun a _ w' => Posts answer (f a) w' k req) :
    Posts answer (m >>= f) w k req := by
  obtain ⟨a, os, w', hrun, ev, hev, hk, hreq⟩ := h
  exact ⟨ev, Coro.mem_asked_later ⟨a, os, w', hrun, hev⟩, hk, hreq⟩

theorem Posts.tryCatch {h : String → M α} (hm : Posts answer m w k req) :
    Posts answer (MonadExcept.tryCatch m h) w k req := by
  obtain ⟨ev, hev, hk, hreq⟩ := hm
  exact ⟨ev, Coro.mem_asked_tryCatch hev, hk, hreq⟩

end Parts

section Requests

variable {S : Settings} {answer : ∀ x, Reply x} {w : World} {k : UUID} {c x : ResolutionCase}
  {peer : Peer} {envelope : EventRef} {t : SupportTicketCreatedPayload}

/-- The request to a peer whose task is minted is that of the ticket that opened the case. -/
theorem posts_requestAnalysis {cards : List AgentCard} (hpeer : IsPeer peer)
    (hcards : answer .discoverAgents = .ok cards) (hcard : (cardOf peer cards).isSome)
    (hs : Stored w k x) (hc : c.caseId = k) (hcorr : c.correlationId = k)
    (htask : ∀ r, r.core = x → peer.taskId r = some (taskOf S k peer))
    (hopening : x.opening = openingOf k t) :
    Posts answer (requestAnalysis S peer c envelope) w k (reviewRequest S peer k t) := by
  unfold requestAnalysis
  refine .later (returns_validateCapability hcards hcard fun card => ?_)
  refine .later (returns_mintTaskId_old hs hc htask ?_)
  refine .later (returns_deref hs hc ?_)
  intro r hr hget
  refine .first ?_
  have hop : r.opening = (openedCase k t).opening := (congrArg ResolutionCase.opening hr).trans hopening
  rw [taskRequestFor_opening hpeer hop, hcorr]
  exact ⟨_, List.mem_cons_self, rfl, rfl⟩

theorem posts_delegate (hpeer : IsPeer peer) (hg : Granted answer) (hd : Discovered answer)
    (hs : Stored w k x) (hc : c.caseId = k) (hcorr : c.correlationId = k)
    (hb : x.billingTaskId = none) (hr : x.riskTaskId = none) (hopening : x.opening = openingOf k t) :
    Posts answer (delegate S c envelope) w k (reviewRequest S peer k t) := by
  obtain ⟨cards, hcards, hbc, hrc⟩ := hd
  unfold delegate
  refine .later (returns_mintTaskId_new
    (y := { x with billingTaskId := some (billingTaskOf S k) }) hs hc hcorr ?_ ?_ rfl rfl ?_)
  · intro r hr'
    exact (congrArg ResolutionCase.billingTaskId hr').trans hb
  · intro r hr'
    exact congrArg (fun y : ResolutionCase => { y with billingTaskId := some (billingTaskOf S k) }) hr'
  intro w₁ hs₁ hn₁
  refine .later (returns_mintTaskId_new (y := { x with
    billingTaskId := some (billingTaskOf S k), riskTaskId := some (riskTaskOf S k) }) hs₁ hc
    hcorr ?_ ?_ rfl rfl ?_)
  · intro r hr'
    exact (congrArg ResolutionCase.riskTaskId hr').trans hr
  · intro r hr'
    exact congrArg (fun y : ResolutionCase => { y with riskTaskId := some (riskTaskOf S k) }) hr'
  intro w₂ hs₂ hn₂
  refine .later (returns_addPendingTask hs₂ hc ?_)
  intro w₃ hs₃ hn₃
  refine .later (returns_addPendingTask hs₃ hc ?_)
  intro w₄ hs₄ hn₄
  have hs₄ : Stored w₄ k (askedCase S k x) := hs₄
  have hbilling : ∀ r : ResolutionCase, r.core = askedCase S k x →
      billingPeer.taskId r = some (taskOf S k billingPeer) :=
    fun r hr' => congrArg ResolutionCase.billingTaskId hr'
  have hrisk : ∀ r : ResolutionCase, r.core = askedCase S k x →
      riskPeer.taskId r = some (taskOf S k riskPeer) :=
    fun r hr' => congrArg ResolutionCase.riskTaskId hr'
  rcases hpeer with rfl | rfl
  · exact .first (posts_requestAnalysis (.inl rfl) hcards hbc hs₄ hc hcorr hbilling hopening)
  · refine .later (returns_requestAnalysis hg hcards hbc hs₄ hc hbilling ?_)
    intro os₅ w₅ _ hs₅ hn₅
    exact .first (posts_requestAnalysis (.inr rfl) hcards hrc hs₅ hc hcorr hrisk hopening)

theorem posts_delegateReviews {ticket : SupportTicketCreatedPayload} (hpeer : IsPeer peer)
    (hg : Granted answer) (hd : Discovered answer) (hs : Stored w k x) (hc : c.caseId = k)
    (hcorr : c.correlationId = k) (hb : x.billingTaskId = none) (hr : x.riskTaskId = none)
    (hopening : x.opening = openingOf k t) :
    Posts answer (delegateReviews S c ticket envelope) w k (reviewRequest S peer k t) := by
  unfold delegateReviews
  refine .later (returns_datetimeNow ?_)
  refine .later (returns_assign hs hc (y := { x with
      status := .waitingForPeerReviews
      deadlineAt := some (w.now + S.caseDeadlineSeconds * microsPerSecond) }) ?_ rfl rfl ?_)
  · intro r hr'
    exact congrArg (fun y : ResolutionCase => { y with
      status := CaseStatus.waitingForPeerReviews
      deadlineAt := some (w.now + S.caseDeadlineSeconds * microsPerSecond) }) hr'
  intro w₁ hs₁ hn₁
  refine .later (returns_save hs₁ hc ?_)
  intro w₂ hs₂ hn₂
  exact .tryCatch (.first (posts_delegate hpeer hg hd hs₂ hc hcorr hb hr hopening))

/-- **A refund ticket of a new case, handled alone, asks both peers for its review.** -/
theorem posts_intakeHandler {y : LlmAnswer} {e : Inbound SupportTicketCreatedPayload}
    {T : UUID → SupportTicketCreatedPayload → Prop} (hpeer : IsPeer peer) (hok : ViewOk S w.view)
    (hopened : StoreOpened S T w.store) (hg : Granted answer) (hd : Discovered answer)
    (he : e.payload = some t) (hnew : w.store.get e.correlationId = none)
    (hreview : (intakeTriage S t y).needsRefundReview = true) :
    Posts (withLlm answer y) (intakeHandler S e) w e.correlationId
      (reviewRequest S peer e.correlationId t) := by
  have hg' := granted_withLlm hg y
  have hd' := discovered_withLlm hd y
  obtain ⟨r, hr, -⟩ | ⟨-, r, st', hget, hcase, hid, hview⟩ :=
    InMemoryCaseStateStore.getOrCreate_cases (k := e.correlationId) hok t.ticketId t.customerId
      t.amount t.currency t.reason w.now
  · exact absurd (hr.symm.trans hnew) (by simp)
  have hopening : r.core.opening = openingOf e.correlationId t := by
    have hout : w.store.getOrCreate e.correlationId t.ticketId t.customerId e.correlationId t.amount
        t.currency t.reason w.now = _ := getOrCreate_eq hopened
    rw [hget, hnew] at hout
    exact congrArg (fun out => out.1.opening) hout
  have hcorr : r.correlationId = e.correlationId := hcase.correlationId
  have hs : Stored { w with store := st' } e.correlationId r.core := by
    refine ⟨?_, ?_, hcase.caseId, hcase.correlationId⟩
    · show st'.view.cases _ = _
      rw [hview]
      exact View.put_cases_self _ _ _
    · show st'.view.byCorrelation _ = _
      rw [hview]
      exact Function.update_self ..
  have hstatus : r.status = .received := hcase.status
  generalize hk : e.correlationId = k at *
  unfold intakeHandler
  rw [he]
  refine .later (returns_datetimeNow ?_)
  refine .later (returns_withStore ?_)
  rw [hk, hget]
  dsimp only
  rw [if_pos (.inl hstatus)]
  refine .later (returns_triageTicket ?_)
  generalize intakeTriage S t y = triage at *
  refine .later (returns_assign hs hid (y := classifiedCase r.core triage) ?_ rfl rfl ?_)
  · intro r' hr'
    exact congrArg (classifiedCase · triage) hr'
  intro w₂ hs₂ hn₂
  refine .later (returns_save hs₂ hid ?_)
  intro w₃ hs₃ hn₃
  refine .later (returns_writeTaskAudit ?_)
  intro w₄ hv₄ hn₄
  refine .later (returns_publish_other hg' (hs₃.of_view hv₄) nofun ?_)
  intro ev w₅ hquiet hs₅ hn₅
  rw [if_pos hreview]
  exact posts_delegateReviews hpeer hg' hd' hs₅ hid hcorr hcase.billingTaskId hcase.riskTaskId
    hopening

end Requests

end RefundOps.Resolution
