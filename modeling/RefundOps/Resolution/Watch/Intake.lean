import RefundOps.Resolution.Watch.Results

/-!
# The errands of the intake loop and of the reaper

The intake handler works for the case of its ticket from the first write to the last. The reaper
takes up the cases of its sweep one after the other: each of them is, when its turn comes, as the
stretch found it, because all that happened in the stretch so far was about another case.

`service_watches` puts the five loops together.
-/

set_option autoImplicit false

namespace RefundOps.Resolution

variable {S : Settings} {g : Watching}

/-! ## The direct response -/

theorem obeys_respondDirectly {c x : ResolutionCase} {ticket : SupportTicketCreatedPayload}
    {triage : Triage} {causationId : UUID} (hfree : g.phase.stage = .free)
    (hok : ViewOk S g.cur.view) (hid : c.caseId = g.phase.case)
    (hcorr : c.correlationId = g.phase.case) (hx : g.cur.view.cases g.phase.case = some x)
    (hs : x.status = .classified) (hcause : Caused S .intake g.phase causationId) :
    Obeys S .intake (fun _ g' => g'.phase.stage = .free) (fun _ g' => g'.phase.stage = .free)
      (respondDirectly c ticket triage causationId) g := by
  unfold respondDirectly
  apply obeys_then
  refine obeys_emitDecisionAndDraft hfree hok hid hcorr hx rfl hcause ?_ (fun _ _ h => h.free)
  intro _ ev g₁ h₁ hev hpay
  -- nobody else touches a record that is still in triage
  have hx₁ := fresh_rely h₁.rely hx (.inr hs)
  rw [← h₁.case] at hx₁ hid
  refine Coro.obeys_mono (fun _ _ h => h.free) (fun _ _ h => h)
    (obeys_finish (s := .closed) (j := .intake) h₁.free h₁.viewOk hid hx₁
      (.close (d := directDecision c ticket triage) hx₁ hs) ?_)
  rw [hs]
  exact .inr (.closed hev hpay rfl)

/-! ## Delegation -/

theorem obeys_requestAnalysis {peer : Peer} {c : ResolutionCase} {envelope : EventRef}
    {Q : Unit → Watching → Prop} {E : String → Watching → Prop}
    (hpeer : peer = billingPeer ∨ peer = riskPeer) (hfree : g.phase.stage = .free)
    (hid : c.caseId = g.phase.case) (hcorr : c.correlationId = g.phase.case)
    (hx : HasTasks g.cur.view g.phase.case) (hcause : Caused S .intake g.phase envelope.eventId)
    (hQ : ∀ g', Onward S .intake g g' → Q () g') (hE : ∀ e g', Onward S .intake g g' → E e g') :
    Obeys S .intake Q E (requestAnalysis S peer c envelope) g := by
  unfold requestAnalysis
  apply obeys_then
  unfold validateCapability
  apply obeys_then
  refine obeys_request hfree (.inl trivial) ?_
  intro w₁ y h₁
  apply obeys_then
  cases y with
  | error e => exact hE e _ h₁.toOnward
  | ok cards =>
    apply obeys_ofExcept_ok
    split
    swap
    · exact hE _ _ h₁.toOnward
    · -- the task ids are there since both tasks were registered
      obtain ⟨x₁, hx₁, hb₁, hr₁⟩ := hx.grows (grows_rely h₁.rely)
      have hx₁' : w₁.view.cases c.caseId = some x₁ := hid ▸ hx₁
      apply obeys_pure
      apply obeys_then
      unfold mintTaskId
      apply obeys_then
      refine obeys_deref hx₁' ?_
      intro r hr
      have htask : (peer.taskId r).isSome := by
        rcases hpeer with rfl | rfl
        · exact (congrArg (fun z => (ResolutionCase.billingTaskId z).isSome) hr).trans hb₁
        · exact (congrArg (fun z => (ResolutionCase.riskTaskId z).isSome) hr).trans hr₁
      obtain ⟨t, ht⟩ := Option.isSome_iff_exists.mp htask
      rw [ht]
      apply obeys_pure
      apply obeys_then
      refine obeys_deref hx₁' ?_
      intro r' _
      apply obeys_then
      refine obeys_publish hfree h₁.viewOk hcorr hcause ?_ ?_
      · intro ev g₂ h₂ _ _ _
        exact hQ _ (h₁.toOnward.trans h₂.toOnward)
      · intro e g₂ h₂
        exact hE e _ (h₁.toOnward.trans h₂.toOnward)

theorem obeys_announceReviews {c : ResolutionCase} {envelope : EventRef}
    {Q : Unit → Watching → Prop} {E : String → Watching → Prop}
    (hfree : g.phase.stage = .free) (hok : ViewOk S g.cur.view)
    (hid : c.caseId = g.phase.case) (hcorr : c.correlationId = g.phase.case)
    (hx : HasTasks g.cur.view g.phase.case) (hcause : Caused S .intake g.phase envelope.eventId)
    (hQ : ∀ g', Onward S .intake g g' → Q () g') (hE : ∀ e g', Onward S .intake g g' → E e g') :
    Obeys S .intake Q E (announceReviews c envelope) g := by
  obtain ⟨x, hx, -⟩ := hx
  unfold announceReviews
  apply obeys_then
  refine obeys_deref (hid ▸ hx) ?_
  intro r _
  split
  · apply obeys_then
    apply obeys_datetimeNow
    apply obeys_then
    refine obeys_publish hfree hok hcorr hcause ?_ ?_
    · intro ev g₂ h₂ _ _ _
      exact hQ _ h₂.toOnward
    · intro e g₂ h₂
      exact hE e _ h₂.toOnward
  · exact hQ _ (.silent hfree hok rfl)

theorem obeys_mintTaskId_new {peer : Peer} {c x y : ResolutionCase} {Q : UUID → Watching → Prop}
    {E : String → Watching → Prop} (hfree : g.phase.stage = .free)
    (hid : c.caseId = g.phase.case) (hx : g.cur.view.cases g.phase.case = some x)
    (hnone : ∀ r, r.core = x → peer.taskId r = none)
    (hset : ∀ r, r.core = x →
      (peer.setTaskId (S.uuid5 c.correlationId peer.capabilityId) r).core = y)
    (hstatus : x.status = y.status)
    (h : ∀ w', w'.view = g.cur.view.put g.phase.case y →
      Q (S.uuid5 c.correlationId peer.capabilityId) { g with cur := w' }) :
    Obeys S .intake Q E (mintTaskId S peer c) g := by
  unfold mintTaskId
  apply obeys_then
  refine obeys_deref (hid ▸ hx) ?_
  intro r hr
  rw [hnone r hr]
  apply obeys_then
  refine obeys_assign hfree hid hx hset (.inl hstatus) ?_
  intro w' hw'
  exact h w' hw'

theorem obeys_addPendingTask {x : ResolutionCase} {t : UUID} {Q : Unit → Watching → Prop}
    {E : String → Watching → Prop} (hfree : g.phase.stage = .free)
    (hx : g.cur.view.cases g.phase.case = some x)
    (h : ∀ w', w'.view = { g.cur.view.put g.phase.case
        { x with pendingTasks := insert t x.pendingTasks } with
        byTaskId := Function.update g.cur.view.byTaskId t (some g.phase.case) } →
      Q () { g with cur := w' }) :
    Obeys S .intake Q E (updateStore "KeyError" fun st => st.addPendingTask g.phase.case t) g := by
  obtain ⟨r, hr, rfl⟩ := InMemoryCaseStateStore.view_cases_iff.mp hx
  obtain ⟨st', hst, hview⟩ := InMemoryCaseStateStore.view_addPendingTask (t := t) hr
  refine obeys_updateStore hst ?_ ?_
  · intro w' hw'
    refine .put (y := { r.core with pendingTasks := insert t r.pendingTasks }) hfree ?_ hx ?_
      (.inl rfl) hw'
    · intro j hj
      have hfate := InMemoryCaseStateStore.run_get (.addPendingTask g.phase.case t) g.cur.store j
      have hrun : (Operation.addPendingTask g.phase.case t).run g.cur.store = (.returned, st') := by
        simp only [Operation.run, hst, Operation.attempt]
      rw [hrun] at hfate
      exact hfate.unchanged fun hk => hj (Option.some.inj hk).symm
    · rw [hview]
      exact View.put_cases_self _ _ _
  · intro w' hw'
    exact h w' (hw'.trans hview)

/-- From the classified record to the suspension of the delegation: nothing of it shows in
    between. -/
theorem obeys_delegate {c x : ResolutionCase} {envelope : EventRef} {triage : Triage}
    {deadline : Time} {w : World} {Q : Unit → Watching → Prop} {E : String → Watching → Prop}
    (hfree : g.phase.stage = .free) (hok : ViewOk S g.cur.view)
    (hid : c.caseId = g.phase.case) (hcorr : c.correlationId = g.phase.case)
    (hx : g.cur.view.cases g.phase.case = some x) (hs : x.status = .classified)
    (ht : x.triage = some triage) (hn : triage.needsRefundReview = true)
    (hcause : Caused S .intake g.phase envelope.eventId)
    (hw : w.view = g.cur.view.put g.phase.case
      { x with status := .waitingForPeerReviews, deadlineAt := some deadline })
    (hQ : ∀ w' g', HasTasks w'.view g.phase.case →
      Onward S .intake { g with cur := w' } g' → Q () g')
    (hE : ∀ e w' g', HasTasks w'.view g.phase.case →
      Onward S .intake { g with cur := w' } g' → E e g') :
    Obeys S .intake Q E (delegate S c envelope) { g with cur := w } := by
  have hf := (hok.case _ _ hx).fresh_of_status (.inr hs)
  have hx₀ : w.view.cases g.phase.case = some
      { x with status := .waitingForPeerReviews, deadlineAt := some deadline } := by
    rw [hw]
    exact View.put_cases_self _ _ _
  unfold delegate
  apply obeys_then
  refine obeys_mintTaskId_new (y := { x with
    status := .waitingForPeerReviews
    deadlineAt := some deadline
    billingTaskId := some (billingTaskOf S c.correlationId) }) hfree hid hx₀ ?_ ?_ rfl ?_
  · intro r hr
    exact (congrArg ResolutionCase.billingTaskId hr).trans hf.billingTaskId
  · intro r hr
    exact congrArg (fun z => { z with billingTaskId := some (billingTaskOf S c.correlationId) }) hr
  intro w₁ hw₁
  have hx₁ := (congrArg (fun V => View.cases V g.phase.case) hw₁).trans (View.put_cases_self _ _ _)
  apply obeys_then
  refine obeys_mintTaskId_new (y := mintedCase S c.correlationId deadline x) hfree hid hx₁ ?_ ?_ rfl
    ?_
  · intro r hr
    exact (congrArg ResolutionCase.riskTaskId hr).trans hf.riskTaskId
  · intro r hr
    exact congrArg (fun z => { z with riskTaskId := some (riskTaskOf S c.correlationId) }) hr
  intro w₂ hw₂
  have hx₂ := (congrArg (fun V => View.cases V g.phase.case) hw₂).trans (View.put_cases_self _ _ _)
  rw [hid]
  apply obeys_then
  refine obeys_addPendingTask hfree hx₂ ?_
  intro w₃ hw₃
  have hx₃ := (congrArg (fun V => View.cases V g.phase.case) hw₃).trans (View.put_cases_self _ _ _)
  apply obeys_then
  refine obeys_addPendingTask hfree hx₃ ?_
  intro w₄ hw₄
  obtain ⟨-, htasks⟩ := delegate_act hok hx hs ht hn hcorr hw hw₁ hw₂ hw₃ hw₄
  have htasksAt : ∀ g', Onward S .intake { g with cur := w₄ } g' →
      HasTasks g'.cur.view g'.phase.case := fun g' h' => by
    rw [h'.case]
    exact htasks.grows (grows_rely h'.rely)
  apply obeys_then
  refine obeys_requestAnalysis (.inl rfl) hfree hid hcorr htasks hcause ?_
    (fun e g' => hE e w₄ g' htasks)
  intro g₅ h₅
  apply obeys_then
  refine obeys_requestAnalysis (.inr rfl) h₅.free (hid.trans h₅.case.symm)
    (hcorr.trans h₅.case.symm) (htasksAt g₅ h₅) (hcause.mono h₅.case h₅.shown) ?_
    (fun e g' h' => hE e w₄ g' htasks (h₅.trans h'))
  intro g₆ h₆
  have h₆' := h₅.trans h₆
  refine obeys_announceReviews h₆.free h₆.viewOk (hid.trans h₆'.case.symm)
    (hcorr.trans h₆'.case.symm) (htasksAt g₆ h₆') (hcause.mono h₆'.case h₆'.shown) ?_ ?_
  · intro g' h'
    exact hQ w₄ g' htasks (h₆'.trans h')
  · intro e g' h'
    exact hE e w₄ g' htasks (h₆'.trans h')

theorem obeys_escalateDelegationFailure {c : ResolutionCase} {ticket : SupportTicketCreatedPayload}
    {causationId : UUID} {exc : String} (hfree : g.phase.stage = .free)
    (hok : ViewOk S g.cur.view) (hid : c.caseId = g.phase.case)
    (hcorr : c.correlationId = g.phase.case) (htasks : HasTasks g.cur.view g.phase.case)
    (hcause : Caused S .intake g.phase causationId) :
    Obeys S .intake (fun _ g' => g'.phase.stage = .free) (fun _ g' => g'.phase.stage = .free)
      (escalateDelegationFailure c ticket causationId exc) g := by
  obtain ⟨x, hx, hb, hr⟩ := htasks
  unfold escalateDelegationFailure
  apply obeys_then
  refine obeys_deref (hid ▸ hx) ?_
  intro r _
  apply obeys_then
  refine obeys_note (.inl hfree) rfl ?_
  apply obeys_then
  refine obeys_emitDecisionAndDraft rfl hok hid hcorr hx rfl
    (hcause.mono rfl (Errand.shown_tell _ _)) ?_ (fun _ _ h => h.free)
  intro _ ev g₁ h₁ _ _
  have hcase₁ : g₁.phase.case = g.phase.case := h₁.case
  obtain ⟨x₁, hx₁, hb₁, -⟩ := HasTasks.grows ⟨x, hx, hb, hr⟩ (grows_rely h₁.rely)
  have hdel₁ := (h₁.viewOk.case _ _ hx₁).delegated_of_task (.inl hb₁)
  rw [← hcase₁] at hx₁
  exact Coro.obeys_mono (fun _ _ h => h.free) (fun _ _ h => h)
    (obeys_finish (s := .escalated) (j := .intake) h₁.free h₁.viewOk (hid.trans hcase₁.symm) hx₁
      (.finish (d := delegationFailureDecision c ticket exc) (m := .fallback) (by decide) hx₁ hb₁)
      hdel₁.escalates)

theorem obeys_delegateReviews {c x : ResolutionCase} {ticket : SupportTicketCreatedPayload}
    {triage : Triage} {envelope : EventRef} (hfree : g.phase.stage = .free)
    (hok : ViewOk S g.cur.view) (hid : c.caseId = g.phase.case)
    (hcorr : c.correlationId = g.phase.case) (hx : g.cur.view.cases g.phase.case = some x)
    (hs : x.status = .classified) (ht : x.triage = some triage)
    (hn : triage.needsRefundReview = true) (hcause : Caused S .intake g.phase envelope.eventId) :
    Obeys S .intake (fun _ g' => g'.phase.stage = .free) (fun _ g' => g'.phase.stage = .free)
      (delegateReviews S c ticket envelope) g := by
  have hcase := hok.case _ _ hx
  unfold delegateReviews
  apply obeys_then
  apply obeys_datetimeNow
  apply obeys_then
  refine obeys_assign (y := { x with
    status := .waitingForPeerReviews
    deadlineAt := some (g.cur.now + S.caseDeadlineSeconds * microsPerSecond) }) hfree hid hx ?_ ?_
    ?_
  · intro r hr
    exact congrArg (fun z => ({ z with
      status := .waitingForPeerReviews
      deadlineAt := some (g.cur.now + S.caseDeadlineSeconds * microsPerSecond) } :
        ResolutionCase)) hr
  · rw [hs]
    exact .inr (.declared rfl)
  intro w₁ hw₁
  have hx₁ := (congrArg (fun V => View.cases V g.phase.case) hw₁).trans (View.put_cases_self _ _ _)
  apply obeys_then
  refine obeys_save hfree hid hx₁ hcase.caseId hcase.correlationId ?_ ?_
  · show w₁.view.byCorrelation g.phase.case = _
    rw [hw₁]
    exact hok.indexed _ x hx
  intro w₂ hw₂
  rw [Obeys, Coro.obeys_tryCatch]
  apply obeys_then
  refine obeys_delegate (g := g) hfree hok hid hcorr hx hs ht hn hcause (Eq.trans hw₂ hw₁) ?_ ?_
  · intro w₃ g₄ htasks h₄
    have hcase₄ : g₄.phase.case = g.phase.case := h₄.case
    obtain ⟨x₄, hx₄, -⟩ := htasks.grows (grows_rely h₄.rely)
    have hok₄ := h₄.viewOk.case _ _ hx₄
    rw [← hcase₄] at hx₄ hok₄
    refine obeys_save h₄.free (hid.trans hcase₄.symm) hx₄ hok₄.caseId hok₄.correlationId
      (h₄.viewOk.indexed _ _ hx₄) ?_
    intro w₅ _
    exact h₄.free
  · intro e w₃ g₄ htasks h₄
    have hcase₄ : g₄.phase.case = g.phase.case := h₄.case
    refine obeys_escalateDelegationFailure h₄.free h₄.viewOk (hid.trans hcase₄.symm)
      (hcorr.trans hcase₄.symm) ?_ (hcause.mono h₄.case h₄.shown)
    rw [hcase₄]
    exact htasks.grows (grows_rely h₄.rely)

/-! ## The handler -/

theorem obeys_triageTicket {envelope : EventRef} {ticket : SupportTicketCreatedPayload}
    {Q : Triage → Watching → Prop} {E : String → Watching → Prop}
    (hfree : g.phase.stage = .free) (hok : ViewOk S g.cur.view)
    (henv : envelope.correlationId = g.phase.case)
    (h : ∀ t g', Onward S .intake g g' → Q t g') :
    Obeys S .intake Q E (triageTicket S envelope ticket) g := by
  unfold triageTicket
  split
  · apply obeys_then
    refine obeys_request hfree (.inl henv) ?_
    intro w' y hres
    cases y with
    | ok a => exact h _ _ hres.toOnward
    | error e => exact h _ _ hres.toOnward
  · exact h _ g (.silent hfree hok rfl)

/-- From the record on: triage it and go one of the two ways. -/
theorem obeys_intake_open {envelope : Inbound SupportTicketCreatedPayload}
    {ticket : SupportTicketCreatedPayload} {c x : ResolutionCase}
    (hfree : g.phase.stage = .free) (hok : ViewOk S g.cur.view)
    (hid : c.caseId = g.phase.case) (hcorr : c.correlationId = g.phase.case)
    (henv : envelope.correlationId = g.phase.case)
    (hcause : Caused S .intake g.phase envelope.eventId)
    (hx : g.cur.view.cases g.phase.case = some x)
    (hs : x.status = .received ∨ x.status = .classified) :
    Obeys S .intake (fun _ g' => g'.phase.stage = .free) (fun _ g' => g'.phase.stage = .free)
      (do
        let triage ← triageTicket S envelope.ref ticket
        assign c fun c => { c with triage := some triage, status := .classified }
        save c
        writeAudit envelope.ref .accepted none
        let _ ← publish
          (.issueClassified (buildIssueClassifiedPayload ticket envelope.correlationId triage))
          envelope.correlationId envelope.eventId
        if triage.needsRefundReview then delegateReviews S c ticket envelope.ref
        else respondDirectly c ticket triage envelope.eventId) g := by
  apply obeys_then
  refine obeys_triageTicket hfree hok henv ?_
  intro triage g₁ h₁
  have hx₁ := fresh_rely h₁.rely hx hs
  rw [← h₁.case] at hx₁ hid hcorr henv
  have hcase := h₁.viewOk.case _ _ hx₁
  apply obeys_then
  refine obeys_assign (y := { x with triage := some triage, status := .classified }) h₁.free hid
    hx₁ ?_ ?_ ?_
  · intro r hr
    exact congrArg
      (fun z => ({ z with triage := some triage, status := .classified } : ResolutionCase)) hr
  · rcases hs with hs | hs
    · rw [hs]
      exact .inr (.declared rfl)
    · exact .inl hs
  intro w₂ hw₂
  have hact₂ : Act S .intake (.triaging g₁.phase.case) g₁.cur.view [] (.triaging g₁.phase.case)
      w₂.view := by
    rw [hw₂]
    exact .classify hx₁ hs
  have hok₂ : ViewOk S w₂.view := viewOk_act h₁.viewOk hact₂
  have hx₂ := (congrArg (fun V => View.cases V g₁.phase.case) hw₂).trans
    (View.put_cases_self _ _ _)
  apply obeys_then
  refine obeys_save h₁.free hid hx₂ hcase.caseId hcase.correlationId (hok₂.indexed _ _ hx₂) ?_
  intro w₃ hw₃
  have hview₃ : w₃.view = w₂.view := hw₃
  apply obeys_then
  refine obeys_writeTaskAudit h₁.free (hview₃ ▸ hok₂) (.inl henv) ?_
  intro g₄ h₄
  have hcause₄ : Caused S .intake g₄.phase envelope.eventId :=
    (hcause.mono h₁.case h₁.shown).mono h₄.case h₄.shown
  have hx₄ := fresh_rely h₄.rely (hview₃ ▸ hx₂) (.inr rfl)
  have hcase₄ : g₄.phase.case = g₁.phase.case := h₄.case
  apply obeys_then
  refine obeys_publish h₄.free h₄.viewOk (henv.trans hcase₄.symm) hcause₄ ?_
    (fun _ _ h => h.free)
  intro ev g₅ h₅ _ _ _
  have hx₅ := fresh_rely h₅.rely hx₄ (.inr rfl)
  have hcase₅ : g₅.phase.case = g₁.phase.case := h₅.case.trans hcase₄
  have hcause₅ := hcause₄.mono h₅.case h₅.shown
  rw [← hcase₅] at hx₅ hid hcorr
  split
  · rename_i hn
    exact obeys_delegateReviews h₅.free h₅.viewOk hid hcorr hx₅ rfl rfl hn hcause₅
  · exact obeys_respondDirectly h₅.free h₅.viewOk hid hcorr hx₅ rfl hcause₅

theorem intakeHandler_errand (envelope : Inbound SupportTicketCreatedPayload) :
    RunsErrand S .intake (.ticket envelope) (intakeHandler S envelope) := by
  intro w hok
  have hcause : Caused S .intake (errandOf (.ticket envelope) w) envelope.eventId :=
    .inl ⟨.received (.ticket envelope), by simp [errandOf], rfl, rfl⟩
  unfold intakeHandler
  cases hpay : envelope.payload with
  | none => exact obeys_pure rfl
  | some ticket =>
    apply obeys_then
    apply obeys_datetimeNow
    apply obeys_then
    rcases InMemoryCaseStateStore.getOrCreate_cases (k := envelope.correlationId) hok
        ticket.ticketId ticket.customerId ticket.amount ticket.currency ticket.reason w.now with
      ⟨r, hr, hres⟩ | ⟨hnone, r, st', hres, hnew, hrid, hview⟩
    · -- the record was there
      refine obeys_withStore (p := errandOf (.ticket envelope) w) ?_ ?_
      · intro w' hw'
        exact .silent rfl (hw'.trans (congrArg Prod.snd hres))
      intro w₁ hw₁
      have hview₁ : w₁.view = w.view :=
        hw₁.trans (congrArg (fun out => InMemoryCaseStateStore.view out.2) hres)
      rw [hres]
      have hx : w.view.cases envelope.correlationId = some r.core :=
        InMemoryCaseStateStore.view_cases_of_get hr
      have hcase := ViewOk.case hok _ _ hx
      split
      · rename_i hstatus
        have hx₁ : w₁.view.cases envelope.correlationId = some r.core := hview₁ ▸ hx
        exact obeys_intake_open rfl (hview₁ ▸ hok) hcase.caseId hcase.correlationId rfl hcause hx₁
          hstatus
      · exact obeys_writeTaskAudit rfl (hview₁ ▸ hok) (.inl rfl) fun g' h => h.free
    · refine obeys_withStore (p := errandOf (.ticket envelope) w) ?_ ?_
      · intro w' hw'
        refine .edit rfl ?_ ?_
        · intro j hj
          rw [hw']
          exact (InMemoryCaseStateStore.run_get (.getOrCreate envelope.correlationId
            ticket.ticketId ticket.customerId envelope.correlationId ticket.amount ticket.currency
            ticket.reason w.now) w.store j).unchanged fun hk => hj (Option.some.inj hk).symm
        · intro s s' hstat _
          -- there was no record, so there was no status
          have hget : w.store.get envelope.correlationId = none :=
            InMemoryCaseStateStore.view_cases_none.mp hnone
          unfold World.status at hstat
          rw [show (errandOf (.ticket envelope) w).case = envelope.correlationId from rfl,
            show (⟨errandOf (.ticket envelope) w, w, [.received (.ticket envelope)], w⟩ :
              Watching).cur = w from rfl, hget] at hstat
          exact absurd hstat (by simp)
      intro w₁ hw₁
      have hview₁ : w₁.view = st'.view :=
        hw₁.trans (congrArg (fun out => InMemoryCaseStateStore.view out.2) hres)
      rw [hres]
      have hact : Act S .intake .quiet w.view [] (.triaging envelope.correlationId) w₁.view := by
        rw [hview₁, hview]
        exact .create hnone hnew
      have hx₁ : w₁.view.cases envelope.correlationId = some r.core := by
        rw [hview₁, hview]
        exact View.put_cases_self _ _ _
      have hs : r.status = .received := hnew.status
      rw [if_pos (.inl hs)]
      exact obeys_intake_open rfl (viewOk_act hok hact) hrid hnew.correlationId rfl hcause hx₁
        (.inl hs)

/-! ## The reaper -/

theorem obeys_escalateTimedOut {c : ResolutionCase} (hfree : g.phase.stage = .free)
    (hok : ViewOk S g.cur.view) (htask : HasBillingTask g.cur.view c.caseId)
    (hcalm : Calm g c.caseId) :
    Obeys S .reaper
      (fun _ g' => g'.phase.stage = .free ∧ ViewOk S g'.cur.view ∧
        Grows g.cur.view g'.cur.view ∧ ∀ k, k ≠ c.caseId → Calm g k → Calm g' k)
      (fun _ g' => g'.phase.stage = .free) (escalateTimedOut c) g := by
  obtain ⟨x, hx, hb⟩ := htask
  have hdel := (hok.case _ _ hx).delegated_of_task (.inl hb)
  unfold escalateTimedOut
  apply obeys_then
  refine obeys_deref hx ?_
  intro r hr
  split
  swap
  · exact ⟨hfree, hok, .refl _, fun _ _ h => h⟩
  rename_i hur
  have hu : undecided x.status = true :=
    (congrArg (fun z => undecided (ResolutionCase.status z)) hr).symm.trans hur
  apply obeys_then
  -- the fresh id is the first thing done for this case
  refine obeys_uuid4_turn c.caseId rfl hfree hcalm.obs ?_
  intro w₁ hw₁
  have hcalm₁ : ∀ k, Calm g k → Calm ⟨⟨c.caseId, [], .opened⟩, g.base, g.obs, w₁⟩ k := by
    intro k hk
    exact ⟨hk.base.trans (by show _ = w₁.view.cases k; rw [hw₁]), hk.obs⟩
  have hdone : Obeys S .reaper (fun _ => Parted S ⟨⟨c.caseId, [], .opened⟩, g.base, g.obs, w₁⟩)
      (fun _ => Parted S ⟨⟨c.caseId, [], .opened⟩, g.base, g.obs, w₁⟩)
      (applyDecision c g.cur.nextId) ⟨⟨c.caseId, [], .opened⟩, g.base, g.obs, w₁⟩ :=
    obeys_applyDecision (by decide) (.inr ⟨rfl, hu⟩) (hw₁ ▸ hok) rfl (hw₁ ▸ hx) hdel
      (hcalm₁ _ hcalm) (.inr ⟨rfl, Errand.mem_tell _ _⟩)
  have hparted : ∀ g', Parted S ⟨⟨c.caseId, [], .opened⟩, g.base, g.obs, w₁⟩ g' →
      g'.phase.stage = .free ∧ ViewOk S g'.cur.view ∧
        Grows g.cur.view g'.cur.view ∧ ∀ k, k ≠ c.caseId → Calm g k → Calm g' k := by
    intro g' h'
    have hgrows : Grows w₁.view g'.cur.view := h'.grows
    exact ⟨h'.free, h'.viewOk, hw₁ ▸ hgrows, fun k hk hc => h'.calm k hk (hcalm₁ k hc)⟩
  rw [Obeys, Coro.obeys_tryCatch]
  exact Coro.obeys_mono (fun _ g' h => hparted g' h) (fun _ g' h => hparted g' h) hdone

theorem obeys_sweep {cs : List ResolutionCase} (hfree : g.phase.stage = .free)
    (hok : ViewOk S g.cur.view) (hcs : ∀ c ∈ cs, HasBillingTask g.cur.view c.caseId)
    (hnodup : (cs.map (·.caseId)).Nodup) (hcalm : ∀ c ∈ cs, Calm g c.caseId) :
    Obeys S .reaper (fun _ g' => g'.phase.stage = .free) (fun _ g' => g'.phase.stage = .free)
      (cs.forM escalateTimedOut) g := by
  induction cs generalizing g with
  | nil => exact hfree
  | cons c cs ih =>
    obtain ⟨hc, hrest⟩ := List.nodup_cons.mp hnodup
    show Obeys S .reaper _ _ (escalateTimedOut c >>= fun _ => cs.forM escalateTimedOut) g
    apply obeys_then
    refine Coro.obeys_mono ?_ (fun _ _ h => h)
      (obeys_escalateTimedOut hfree hok (hcs c List.mem_cons_self) (hcalm c List.mem_cons_self))
    intro _ g' hleft
    obtain ⟨hfree', hok', hgrows, hcalm'⟩ := hleft
    refine ih hfree' hok' ?_ hrest ?_
    · intro c' hc'
      exact (hcs c' (List.mem_cons_of_mem c hc')).grows hgrows
    · intro c' hc'
      refine hcalm' c'.caseId ?_ (hcalm c' (List.mem_cons_of_mem c hc'))
      intro heq
      exact hc (List.mem_map.mpr ⟨c', hc', heq⟩)

/-- The records of a store have different ids. -/
theorem listTimedOutCases_nodup {w : World} (hok : ViewOk S w.view) (now : Time) :
    ((w.store.listTimedOutCases now).map (·.caseId)).Nodup := by
  have hids : w.store.cases.values.map (·.caseId) = w.store.cases.entries.map Prod.fst := by
    unfold Dict.values
    rw [List.map_map]
    refine List.map_congr_left ?_
    intro e he
    have hx : w.view.cases e.1 = some e.2.core :=
      InMemoryCaseStateStore.view_cases_of_get (Dict.get?_of_mem he)
    exact (hok.case _ _ hx).caseId
  refine List.Nodup.sublist (List.Sublist.map _ List.filter_sublist) ?_
  rw [hids]
  exact w.store.cases.nodup

theorem reaperSweep_errand : RunsErrand S .reaper .sweep reaperSweep := by
  intro w hok
  unfold reaperSweep
  apply obeys_then
  apply obeys_datetimeNow
  apply obeys_then
  apply obeys_readStore
  refine obeys_sweep rfl hok (fun c hc => listTimedOutCases_delegated hok hc)
    (listTimedOutCases_nodup hok _) ?_
  intro c _
  exact ⟨rfl, List.forall_mem_singleton.mpr rfl⟩

/-! ## The five loops -/

/-- **Every handler keeps to its errand.** -/
theorem service_watches (S : Settings) : Watches (protocol S) (errands S) (service S) errandOf := by
  intro m
  cases m with
  | ticket envelope => exact intakeHandler_errand envelope
  | taskResult envelope => exact resultHandler_errand envelope
  | billingResult envelope => exact billingResultHandler_errand envelope
  | riskResult envelope => exact riskResultHandler_errand envelope
  | sweep => exact reaperSweep_errand

end RefundOps.Resolution
