import RefundOps.Resolution.Protocol.Conformance

/-!
# The intake handler keeps the protocol

The handler goes through three phases. While it is *triaging*, the record is fresh and nobody
else touches it, so what the handler wrote before a suspension is there after it (`fresh_rely`).
Then it either emits a direct response, or registers both tasks and is *delegating*: from there on
the other loops act on the case too, and all the handler can rely on is that the tasks stay.
-/

set_option autoImplicit false

namespace RefundOps.Resolution

variable {S : Settings} {g : Stretch} {k : UUID}

theorem wp_triageTicket {envelope : EventRef} {ticket : SupportTicketCreatedPayload}
    {Q : Triage → Stretch → Prop} {E : String → Stretch → Prop}
    (hacc : Acc S .intake g (.triaging k)) (hok : ViewOk S g.cur.view)
    (h : ∀ t g', Acc S .intake g' (.triaging k) → ViewOk S g'.cur.view →
      (protocol S).Rely .intake g.cur g'.cur → Q t g') :
    Wp S .intake Q E (triageTicket S envelope ticket) g := by
  unfold triageTicket
  split
  · apply wp_then
    refine wp_request hacc trivial ?_
    intro w' hr hok' y
    cases y with
    | ok a => exact h _ _ (.resume _ _) hok' hr
    | error e => exact h _ _ (.resume _ _) hok' hr
  · exact h _ g hacc hok .refl

/-! ## The direct response -/

theorem wp_respondDirectly {c x : ResolutionCase} {ticket : SupportTicketCreatedPayload}
    {triage : Triage} {causationId : UUID} (hacc : Acc S .intake g (.triaging k))
    (hok : ViewOk S g.cur.view) (hid : c.caseId = k) (hcorr : c.correlationId = k)
    (hx : g.cur.view.cases k = some x) (hs : x.status = .classified) :
    Wp S .intake (fun _ => Left S .intake g.cur.view) (fun _ => Left S .intake g.cur.view)
      (respondDirectly c ticket triage causationId) g := by
  unfold respondDirectly
  apply wp_then
  refine wp_emitDecisionAndDraft (m := .direct) (hacc.quietly (.direct hx hs rfl rfl)) hok hid
    hcorr hx rfl ?_ (fun _ _ h => h)
  intro ev w₁ w₂ os hr₁ hok₁ hw₂ hos
  have hx₁ := fresh_rely hr₁ hx (.inr hs)
  refine Coro.wp_mono ?_ (fun _ _ h => h)
    (wp_finish (s := .closed) hok₁ hw₂ hos hid hx₁ (.close hx₁ hs))
  intro _ g' hleft
  exact ⟨hleft.settled, hleft.viewOk, (grows_rely hr₁).trans hleft.grows⟩

/-! ## Delegation -/

/-- A record that has been handed to the peers. -/
def HasTasks (V : View) (k : UUID) : Prop :=
  ∃ x, V.cases k = some x ∧ x.billingTaskId.isSome ∧ x.riskTaskId.isSome

theorem HasTasks.grows {V V' : View} (h : HasTasks V k) (hg : Grows V V') : HasTasks V' k := by
  obtain ⟨x, hx, hb, hr⟩ := h
  obtain ⟨x', hx', hb', hr'⟩ := hg k x hx
  obtain ⟨b, hb⟩ := Option.isSome_iff_exists.mp hb
  obtain ⟨r, hr⟩ := Option.isSome_iff_exists.mp hr
  exact ⟨x', hx', Option.isSome_of_mem (hb' b hb), Option.isSome_of_mem (hr' r hr)⟩

/-- Where a program of the delegation stops, with a result or an exception. -/
structure Delegating (S : Settings) (k : UUID) (w : World) (g : Stretch) : Prop where
  acc : Acc S .intake g (.delegating k)
  viewOk : ViewOk S g.cur.view
  rely : (protocol S).Rely .intake w g.cur

theorem Delegating.trans {w : World} {g' : Stretch} (h : Delegating S k w g)
    (h' : Delegating S k g.cur g') : Delegating S k w g' :=
  ⟨h'.acc, h'.viewOk, h.rely.trans h'.rely⟩

theorem Delegating.silent {w w' : World} (h : Delegating S k w g) (hw : w'.view = g.cur.view) :
    Delegating S k w { g with cur := w' } :=
  ⟨h.acc.silent hw, by show ViewOk S w'.view; rw [hw]; exact h.viewOk,
    h.rely.trans (rely_of_view h.viewOk hw)⟩

theorem wp_requestAnalysis {peer : Peer} {c : ResolutionCase} {envelope : EventRef}
    {Q : Unit → Stretch → Prop} {E : String → Stretch → Prop}
    (hpeer : peer = billingPeer ∨ peer = riskPeer) (hacc : Acc S .intake g (.delegating k))
    (hid : c.caseId = k) (hx : HasTasks g.cur.view k)
    (hQ : ∀ g', Delegating S k g.cur g' → Q () g')
    (hE : ∀ e g', Delegating S k g.cur g' → E e g') :
    Wp S .intake Q E (requestAnalysis S peer c envelope) g := by
  subst hid
  unfold requestAnalysis
  apply wp_then
  unfold validateCapability
  apply wp_then
  refine wp_request hacc trivial ?_
  intro w₁ hr₁ hok₁ y
  apply wp_then
  cases y with
  | error e => exact hE e _ ⟨.resume _ _, hok₁, hr₁⟩
  | ok cards =>
    rw [Wp, Coro.wp_ofExcept_ok]
    split
    swap
    · exact hE _ _ ⟨.resume _ _, hok₁, hr₁⟩
    · -- the task ids are there since both tasks were registered
      obtain ⟨x₁, hx₁, hb₁, hr₁'⟩ := hx.grows (grows_rely hr₁)
      apply wp_then
      unfold mintTaskId
      apply wp_then
      refine wp_deref hx₁ ?_
      intro r hr
      have htask : (peer.taskId r).isSome := by
        rcases hpeer with rfl | rfl
        · exact (congrArg (fun z => (ResolutionCase.billingTaskId z).isSome) hr).trans hb₁
        · exact (congrArg (fun z => (ResolutionCase.riskTaskId z).isSome) hr).trans hr₁'
      obtain ⟨t, ht⟩ := Option.isSome_iff_exists.mp htask
      rw [ht]
      apply wp_then
      refine wp_deref hx₁ ?_
      intro r' _
      apply wp_then
      refine wp_publish (.resume _ _) hok₁ (fun _ _ _ => trivial) ?_ ?_
      · intro w₂ ev hr₂ hok₂ hp _
        exact hQ _ ⟨.start _ _ (published_minor hp (by simp)), hok₂, hr₁.trans hr₂⟩
      · intro w₂ ev e hr₂ hok₂ hp _
        exact hE e _ ⟨.start _ _ (List.forall_mem_singleton.mpr (.inl ⟨_, hp⟩)), hok₂,
          hr₁.trans hr₂⟩

theorem wp_announceReviews {c : ResolutionCase} {envelope : EventRef}
    {Q : Unit → Stretch → Prop} {E : String → Stretch → Prop}
    (hacc : Acc S .intake g (.delegating k)) (hok : ViewOk S g.cur.view) (hid : c.caseId = k)
    (hx : HasTasks g.cur.view k) (hQ : ∀ g', Delegating S k g.cur g' → Q () g')
    (hE : ∀ e g', Delegating S k g.cur g' → E e g') :
    Wp S .intake Q E (announceReviews c envelope) g := by
  subst hid
  obtain ⟨x, hx, -⟩ := hx
  unfold announceReviews
  apply wp_then
  refine wp_deref hx ?_
  intro r _
  split
  · apply wp_then
    apply wp_datetimeNow
    apply wp_then
    refine wp_publish hacc hok (fun _ _ _ => trivial) ?_ ?_
    · intro w₂ ev hr₂ hok₂ hp _
      exact hQ _ ⟨.start _ _ (published_minor hp (by simp)), hok₂, hr₂⟩
    · intro w₂ ev e hr₂ hok₂ hp _
      exact hE e _ ⟨.start _ _ (List.forall_mem_singleton.mpr (.inr ⟨_, hp⟩)), hok₂, hr₂⟩
  · exact hQ _ ⟨hacc, hok, .refl⟩

theorem wp_mintTaskId_new {peer : Peer} {c x y : ResolutionCase} {Q : UUID → Stretch → Prop}
    {E : String → Stretch → Prop} (hx : g.cur.view.cases c.caseId = some x)
    (hnone : ∀ r, r.core = x → peer.taskId r = none)
    (hset : ∀ r, r.core = x →
      (peer.setTaskId (S.uuid5 c.correlationId peer.capabilityId) r).core = y)
    (h : ∀ w', w'.view = g.cur.view.put c.caseId y →
      Q (S.uuid5 c.correlationId peer.capabilityId) { g with cur := w' }) :
    Wp S .intake Q E (mintTaskId S peer c) g := by
  unfold mintTaskId
  apply wp_then
  refine wp_deref hx ?_
  intro r hr
  rw [hnone r hr]
  apply wp_then
  refine wp_assign hx hset ?_
  intro w' hw'
  exact h w' hw'

theorem wp_addPendingTask {x : ResolutionCase} {t : UUID} {Q : Unit → Stretch → Prop}
    {E : String → Stretch → Prop} (hx : g.cur.view.cases k = some x)
    (h : ∀ w', w'.view = { g.cur.view.put k { x with pendingTasks := insert t x.pendingTasks } with
        byTaskId := Function.update g.cur.view.byTaskId t (some k) } → Q () { g with cur := w' }) :
    Wp S .intake Q E (updateStore "KeyError" fun st => st.addPendingTask k t) g := by
  obtain ⟨r, hr, rfl⟩ := InMemoryCaseStateStore.view_cases_iff.mp hx
  obtain ⟨st', hst, hview⟩ := InMemoryCaseStateStore.view_addPendingTask (t := t) hr
  refine wp_updateStore hst ?_
  intro w' hw'
  exact h w' (hw'.trans hview)

/-- The record between the first two statements of the delegation and the last two: it has its
    task ids, and they are not pending yet. -/
def mintedCase (S : Settings) (k : UUID) (deadline : Time) (c : ResolutionCase) : ResolutionCase :=
  { c with
    status := .waitingForPeerReviews
    deadlineAt := some deadline
    billingTaskId := some (billingTaskOf S k)
    riskTaskId := some (riskTaskOf S k) }

/-- **Registering both tasks is one action**, whatever the five views on the way. -/
theorem delegate_act {V V₀ V₁ V₂ V₃ V₄ : View} {k j : UUID} {x : ResolutionCase} {triage : Triage}
    {deadline : Time} (hok : ViewOk S V) (hx : V.cases k = some x) (hs : x.status = .classified)
    (ht : x.triage = some triage) (hn : triage.needsRefundReview = true) (hj : j = k)
    (h₀ : V₀ = V.put k
      { x with status := .waitingForPeerReviews, deadlineAt := some deadline })
    (h₁ : V₁ = V₀.put k { x with
      status := .waitingForPeerReviews
      deadlineAt := some deadline
      billingTaskId := some (billingTaskOf S j) })
    (h₂ : V₂ = V₁.put k (mintedCase S j deadline x))
    (h₃ : V₃ = { V₂.put k { mintedCase S j deadline x with
        pendingTasks := insert (billingTaskOf S j) x.pendingTasks } with
      byTaskId := Function.update V₂.byTaskId (billingTaskOf S j) (some k) })
    (h₄ : V₄ = { V₃.put k { mintedCase S j deadline x with
        pendingTasks := insert (riskTaskOf S j)
          (insert (billingTaskOf S j) x.pendingTasks) } with
      byTaskId := Function.update V₃.byTaskId (riskTaskOf S j) (some k) }) :
    Act S .intake (.triaging k) V [] (.delegating k) V₄ ∧ HasTasks V₄ k := by
  subst hj
  have hf := (hok.case _ _ hx).fresh_of_status (.inr hs)
  have hview : V₄ = { V.put j (delegatedCase S j deadline x) with
      byTaskId := Function.update (Function.update V.byTaskId (billingTaskOf S j) (some j))
        (riskTaskOf S j) (some j) } := by
    subst h₄ h₃ h₂ h₁ h₀
    simp only [View.put, mintedCase, delegatedCase, Function.update_idem, hf.pendingTasks,
      insert_empty_eq]
  rw [hview]
  exact ⟨.delegate hx hs ht hn, _, View.put_cases_self _ _ _, rfl, rfl⟩

theorem wp_delegate {c x : ResolutionCase} {envelope : EventRef} {triage : Triage}
    {deadline : Time} {w : World} {Q : Unit → Stretch → Prop} {E : String → Stretch → Prop}
    (hacc : Acc S .intake g (.triaging k)) (hok : ViewOk S g.cur.view) (hid : c.caseId = k)
    (hcorr : c.correlationId = k) (hx : g.cur.view.cases k = some x)
    (hs : x.status = .classified) (ht : x.triage = some triage)
    (hn : triage.needsRefundReview = true)
    (hw : w.view = g.cur.view.put k
      { x with status := .waitingForPeerReviews, deadlineAt := some deadline })
    (hQ : ∀ w' g', HasTasks w'.view k → Grows g.cur.view w'.view → Delegating S k w' g' → Q () g')
    (hE : ∀ e w' g', HasTasks w'.view k → Grows g.cur.view w'.view → Delegating S k w' g' →
      E e g') :
    Wp S .intake Q E (delegate S c envelope) { g with cur := w } := by
  subst hid
  have hf := (hok.case _ _ hx).fresh_of_status (.inr hs)
  have hx₀ : w.view.cases c.caseId = some
      { x with status := .waitingForPeerReviews, deadlineAt := some deadline } := by
    rw [hw]
    exact View.put_cases_self _ _ _
  unfold delegate
  apply wp_then
  refine wp_mintTaskId_new (y := { x with
    status := .waitingForPeerReviews
    deadlineAt := some deadline
    billingTaskId := some (billingTaskOf S c.correlationId) }) hx₀ ?_ ?_ ?_
  · intro r hr
    exact (congrArg ResolutionCase.billingTaskId hr).trans hf.billingTaskId
  · intro r hr
    exact congrArg (fun z => { z with billingTaskId := some (billingTaskOf S c.correlationId) }) hr
  intro w₁ hw₁
  have hx₁ := (congrArg (fun V => View.cases V c.caseId) hw₁).trans (View.put_cases_self _ _ _)
  apply wp_then
  refine wp_mintTaskId_new (y := mintedCase S c.correlationId deadline x) hx₁ ?_ ?_ ?_
  · intro r hr
    exact (congrArg ResolutionCase.riskTaskId hr).trans hf.riskTaskId
  · intro r hr
    exact congrArg (fun z => { z with riskTaskId := some (riskTaskOf S c.correlationId) }) hr
  intro w₂ hw₂
  have hx₂ := (congrArg (fun V => View.cases V c.caseId) hw₂).trans (View.put_cases_self _ _ _)
  apply wp_then
  refine wp_addPendingTask hx₂ ?_
  intro w₃ hw₃
  have hx₃ := (congrArg (fun V => View.cases V c.caseId) hw₃).trans (View.put_cases_self _ _ _)
  apply wp_then
  refine wp_addPendingTask hx₃ ?_
  intro w₄ hw₄
  obtain ⟨hact, htasks⟩ := delegate_act hok hx hs ht hn hcorr hw hw₁ hw₂ hw₃ hw₄
  have hok₄ : ViewOk S w₄.view := viewOk_act hok hact
  have hgrow : Grows g.cur.view w₄.view := grows_act hok hact
  have hacc₄ : Acc S .intake { g with cur := w₄ } (.delegating c.caseId) := hacc.quietly hact
  apply wp_then
  refine wp_requestAnalysis (.inl rfl) hacc₄ rfl htasks ?_ (fun e g' => hE e w₄ g' htasks hgrow)
  intro g₅ h₅
  apply wp_then
  refine wp_requestAnalysis (.inr rfl) h₅.acc rfl (htasks.grows (grows_rely h₅.rely)) ?_
    (fun e g' h' => hE e w₄ g' htasks hgrow (h₅.trans h'))
  intro g₆ h₆
  refine wp_announceReviews h₆.acc h₆.viewOk rfl
    (htasks.grows (grows_rely (h₅.trans h₆).rely)) ?_ ?_
  · intro g' h'
    exact hQ w₄ g' htasks hgrow ((h₅.trans h₆).trans h')
  · intro e g' h'
    exact hE e w₄ g' htasks hgrow ((h₅.trans h₆).trans h')

theorem wp_escalateDelegationFailure {c : ResolutionCase} {ticket : SupportTicketCreatedPayload}
    {causationId : UUID} {exc : String} (hacc : Acc S .intake g (.delegating k))
    (hok : ViewOk S g.cur.view) (hid : c.caseId = k) (hcorr : c.correlationId = k)
    (hx : HasTasks g.cur.view k) :
    Wp S .intake (fun _ => Left S .intake g.cur.view) (fun _ => Left S .intake g.cur.view)
      (escalateDelegationFailure c ticket causationId exc) g := by
  subst hid
  have htasks := hx
  obtain ⟨x, hx, hb, -⟩ := hx
  unfold escalateDelegationFailure
  apply wp_then
  refine wp_deref hx ?_
  intro r hr
  apply wp_then
  rw [Wp, Coro.wp_observe]
  apply wp_then
  refine wp_emitDecisionAndDraft (m := .fallback) ?_ hok rfl hcorr hx rfl ?_ (fun _ _ h => h)
  · have hstatus : r.status = x.status := (congrArg ResolutionCase.status hr).trans rfl
    rw [hstatus]
    exact hacc.step (.delegationFailed hx hb rfl rfl)
  · intro ev w₁ w₂ os hr₁ hok₁ hw₂ hos
    obtain ⟨x₁, hx₁, hb₁, -⟩ := htasks.grows (grows_rely hr₁)
    refine Coro.wp_mono ?_ (fun _ _ h => h)
      (wp_finish (s := .escalated) hok₁ hw₂ hos rfl hx₁ (.finish (m := .fallback) (by decide) hx₁ hb₁))
    intro _ g' hleft
    exact ⟨hleft.settled, hleft.viewOk, (grows_rely hr₁).trans hleft.grows⟩

theorem wp_delegateReviews {c x : ResolutionCase} {ticket : SupportTicketCreatedPayload}
    {triage : Triage} {envelope : EventRef} (hacc : Acc S .intake g (.triaging k))
    (hok : ViewOk S g.cur.view) (hid : c.caseId = k) (hcorr : c.correlationId = k)
    (hx : g.cur.view.cases k = some x) (hs : x.status = .classified)
    (ht : x.triage = some triage) (hn : triage.needsRefundReview = true) :
    Wp S .intake (fun _ => Coro.Settled (protocol S) .intake)
      (fun _ => Coro.Settled (protocol S) .intake) (delegateReviews S c ticket envelope) g := by
  subst hid
  have hcase := hok.case _ _ hx
  unfold delegateReviews
  apply wp_then
  apply wp_datetimeNow
  apply wp_then
  refine wp_assign (y := { x with
    status := .waitingForPeerReviews
    deadlineAt := some (g.cur.now + S.caseDeadlineSeconds * microsPerSecond) }) hx ?_ ?_
  · intro r hr
    exact congrArg (fun z => ({ z with
      status := .waitingForPeerReviews
      deadlineAt := some (g.cur.now + S.caseDeadlineSeconds * microsPerSecond) } :
        ResolutionCase)) hr
  intro w₁ hw₁
  have hx₁ := (congrArg (fun V => View.cases V c.caseId) hw₁).trans (View.put_cases_self _ _ _)
  apply wp_then
  refine wp_save hx₁ hcase.caseId ?_ ?_
  · show w₁.view.byCorrelation x.correlationId = some x.caseId
    rw [hw₁, hcase.correlationId, hcase.caseId]
    exact hok.indexed _ x hx
  intro w₂ hw₂
  rw [Wp, Coro.wp_tryCatch]
  apply wp_then
  refine wp_delegate (g := g) hacc hok rfl hcorr hx hs ht hn (hw₂.trans hw₁) ?_ ?_
  · intro w₃ g₄ htasks _ h₄
    obtain ⟨x₄, hx₄, -⟩ := htasks.grows (grows_rely h₄.rely)
    have hcase₄ := h₄.viewOk.case _ _ hx₄
    refine wp_save hx₄ hcase₄.caseId ?_ ?_
    · rw [hcase₄.correlationId, hcase₄.caseId]
      exact h₄.viewOk.indexed _ _ hx₄
    · intro w₅ hw₅
      exact (h₄.acc.silent hw₅).quietly .delegated
  · intro e w₃ g₄ htasks _ h₄
    exact Coro.wp_mono (fun _ _ h => h.settled) (fun _ _ h => h.settled)
      (wp_escalateDelegationFailure h₄.acc h₄.viewOk rfl hcorr
        (htasks.grows (grows_rely h₄.rely)))

/-! ## The handler -/

/-- From the record on: triage it and go one of the two ways. -/
theorem wp_intake_open {envelope : Inbound SupportTicketCreatedPayload}
    {ticket : SupportTicketCreatedPayload} {c x : ResolutionCase}
    (hacc : Acc S .intake g (.triaging k)) (hok : ViewOk S g.cur.view) (hid : c.caseId = k)
    (hcorr : c.correlationId = k) (hk : envelope.correlationId = k)
    (hx : g.cur.view.cases k = some x) (hs : x.status = .received ∨ x.status = .classified) :
    Wp S .intake (fun _ => Coro.Settled (protocol S) .intake)
      (fun _ => Coro.Settled (protocol S) .intake)
      (do
        let triage ← triageTicket S envelope.ref ticket
        assign c fun c => { c with triage := some triage, status := .classified }
        save c
        writeAudit envelope.ref .accepted none
        let _ ← publish
          (.issueClassified (buildIssueClassifiedPayload ticket envelope.correlationId triage))
          envelope.correlationId envelope.eventId
        if triage.needsRefundReview then delegateReviews S c ticket envelope.ref
        else respondDirectly c ticket triage envelope.eventId) g := by
  subst hid
  apply wp_then
  refine wp_triageTicket hacc hok ?_
  intro triage g₁ hacc₁ hok₁ hr₁
  have hx₁ := fresh_rely hr₁ hx hs
  have hcase := hok₁.case _ _ hx₁
  apply wp_then
  refine wp_assign (y := { x with triage := some triage, status := .classified }) hx₁
    (fun r hr => congrArg
      (fun z => ({ z with triage := some triage, status := .classified } : ResolutionCase)) hr) ?_
  intro w₂ hw₂
  have hact₂ : Act S .intake (.triaging c.caseId) g₁.cur.view [] (.triaging c.caseId) w₂.view := by
    rw [hw₂]
    exact .classify hx₁ hs
  have hok₂ : ViewOk S w₂.view := viewOk_act hok₁ hact₂
  have hx₂ := (congrArg (fun V => View.cases V c.caseId) hw₂).trans (View.put_cases_self _ _ _)
  apply wp_then
  refine wp_save hx₂ hcase.caseId ?_ ?_
  · show w₂.view.byCorrelation x.correlationId = some x.caseId
    rw [hcase.correlationId, hcase.caseId]
    exact hok₂.indexed _ _ hx₂
  intro w₃ hw₃
  have hx₃ : w₃.view.cases c.caseId =
      some { x with triage := some triage, status := .classified } := hw₃ ▸ hx₂
  have hok₃ : ViewOk S w₃.view := hw₃ ▸ hok₂
  apply wp_then
  refine wp_writeTaskAudit ((hacc₁.quietly hact₂).silent hw₃) hok₃ (fun _ _ _ _ => trivial) ?_
  intro w₄ hr₄ hok₄
  have hx₄ := fresh_rely hr₄ hx₃ (.inr rfl)
  apply wp_then
  refine wp_publish (.resume _ _) hok₄ (fun _ _ _ => trivial) ?_ ?_
  · intro w₅ ev hr₅ hok₅ hp _
    have hx₅ := fresh_rely hr₅ hx₄ (.inr rfl)
    have hacc₅ : Acc S .intake ⟨.triaging c.caseId, w₅, [.published ev], w₅⟩
        (.triaging c.caseId) := .start _ _ (published_minor hp (by simp))
    split
    · rename_i hn
      exact wp_delegateReviews hacc₅ hok₅ rfl hcorr hx₅ rfl rfl hn
    · exact Coro.wp_mono (fun _ _ h => h.settled) (fun _ _ h => h.settled)
        (wp_respondDirectly hacc₅ hok₅ rfl hcorr hx₅ rfl)
  · intro w₅ ev e hr₅ hok₅ hp hk'
    exact Protocol.Acts.single (Act.abandon hp (hk'.trans hk))

theorem intakeHandler_conforms (envelope : Inbound SupportTicketCreatedPayload) :
    (intakeHandler S envelope).Conforms (protocol S) .intake [.received (.ticket envelope)] := by
  intro w hok
  have hquiet : Acc S .intake ⟨.quiet, w, [.received (.ticket envelope)], w⟩ .quiet :=
    .start .quiet w (received_minor _)
  unfold intakeHandler
  cases hpay : envelope.payload with
  | none => exact settled_of_view (received_minor _) rfl
  | some ticket =>
    apply wp_then
    apply wp_datetimeNow
    apply wp_then
    apply wp_withStore
    intro w₁ hw₁
    rcases InMemoryCaseStateStore.getOrCreate_cases (k := envelope.correlationId) hok
        ticket.ticketId ticket.customerId ticket.amount ticket.currency ticket.reason w.now with
      ⟨r, hr, hres⟩ | ⟨hnone, r, st', hres, hnew, hrid, hview⟩
    · -- the record was there
      rw [hres] at hw₁ ⊢
      have hview₁ : w₁.view = w.view := hw₁
      have hx : w.view.cases envelope.correlationId = some r.core :=
        InMemoryCaseStateStore.view_cases_of_get hr
      have hcase := ViewOk.case hok _ _ hx
      split
      · rename_i hstatus
        have hs : r.core.status = .received ∨ r.core.status = .classified := hstatus
        refine wp_intake_open (k := envelope.correlationId) ?_ (hview₁ ▸ hok) hcase.caseId
          hcase.correlationId rfl (hview₁ ▸ hx) hs
        exact (hquiet.quietly (.reopen hx hs)).silent hview₁
      · refine wp_writeTaskAudit (hquiet.silent hview₁) (hview₁ ▸ hok) (fun _ _ _ _ => trivial) ?_
        intro w' _ _
        exact Acc.resume .quiet w'
    · rw [hres] at hw₁ ⊢
      have hact : Act S .intake .quiet w.view [] (.triaging envelope.correlationId) w₁.view := by
        rw [show w₁.view = st'.view from hw₁, hview]
        exact .create hnone hnew
      have hx₁ : w₁.view.cases envelope.correlationId = some r.core := by
        rw [show w₁.view = st'.view from hw₁, hview]
        exact View.put_cases_self _ _ _
      have hs : r.status = .received := hnew.status
      rw [if_pos (.inl hs)]
      exact wp_intake_open (hquiet.quietly hact) (viewOk_act hok hact) hrid
        hnew.correlationId rfl hx₁ (.inl hs)

end RefundOps.Resolution
