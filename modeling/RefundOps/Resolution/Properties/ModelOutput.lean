import RefundOps.Resolution.Properties.ArrivalOrder

/-!
# What the model can change

Two runs of one agent that differ in the answer of the LLM and in nothing else: the same ticket,
the same two opinions in the same order at the same times. The answer becomes the triage, and the
triage is looked at twice. Its `needs_refund_review` sends the ticket to the peers or answers it
at once, and its confidence is one of the three that `compute_confidence` takes the least of.

`returns_intakeHandler` is the intake run alone; with the two orders of `ArrivalOrder` it gives
the outcome of a run as a function of the triage and of the opinions (`outcomeWith`). Comparing
that function at two triages gives the exact condition.
-/

set_option autoImplicit false

namespace RefundOps.Resolution

/-! ## The answers -/

/-- What comes back from the LLM runtime: a classification, nothing usable, or an exception. -/
abbrev LlmAnswer := Except String (Option TicketClassification)

/-- The triage that `intake_handler` takes from an answer. -/
def llmTriage (ticket : SupportTicketCreatedPayload) : LlmAnswer → Triage
  | .ok c => triageOfAnswer ticket c
  | .error _ => classify ticket

/-- The triage that is stored: that of the answer, or the deterministic one if nobody asks. -/
def intakeTriage (S : Settings) (ticket : SupportTicketCreatedPayload) (y : LlmAnswer) : Triage :=
  if S.craLlmEnabled then llmTriage ticket y else classify ticket

theorem intakeTriage_of_disabled {S : Settings} {ticket : SupportTicketCreatedPayload} {y : LlmAnswer}
    (h : S.craLlmEnabled = false) : intakeTriage S ticket y = classify ticket := by
  unfold intakeTriage
  rw [h, if_neg Bool.false_ne_true]

/-- The same environment with another model. -/
def withLlm (answer : ∀ x, Reply x) (y : LlmAnswer) : ∀ x, Reply x
  | .classifyWithLlm _ _ _ => y
  | .send ev => answer (.send ev)
  | .sendAudit eventId audit => answer (.sendAudit eventId audit)
  | .discoverAgents => answer .discoverAgents

/-- The card of a peer among those discovered. -/
def cardOf (peer : Peer) (cards : List AgentCard) : Option AgentCard :=
  (findCapable peer.capabilityId cards).find? fun card => card.agentId == peer.agentId

/-- Both peers can be discovered. -/
def Discovered (answer : ∀ x, Reply x) : Prop :=
  ∃ cards, answer .discoverAgents = .ok cards ∧ (cardOf billingPeer cards).isSome ∧
    (cardOf riskPeer cards).isSome

theorem granted_withLlm {answer : ∀ x, Reply x} (h : Granted answer) (y : LlmAnswer) :
    Granted (withLlm answer y) :=
  h

theorem discovered_withLlm {answer : ∀ x, Reply x} (h : Discovered answer) (y : LlmAnswer) :
    Discovered (withLlm answer y) :=
  h

/-! ## The intake, run alone -/

theorem shown_other {k : UUID} {ev : OutEvent} (h : ∀ d, ev.payload ≠ .resolutionDecided d)
    (os : List Obs) : shown k (.published ev :: os) = shown k os := by
  cases hp : ev.payload with
  | resolutionDecided d => exact absurd hp (h d)
  | issueClassified | taskRequest | refundReviewRequested | responseDrafted =>
    simp [shown, Obs.decision, hp]

section Delegation

variable {S : Settings} {answer : ∀ x, Reply x} {w : World} {k t : UUID} {c x : ResolutionCase}
  {peer : Peer} {envelope : EventRef}

/-- An event is published that is no decision. -/
theorem returns_publish_other {payload : OutPayload} {correlationId causationId : UUID}
    {Q : OutEvent → List Obs → World → Prop} (hg : Granted answer) (hs : Stored w k x)
    (hother : ∀ d, payload ≠ .resolutionDecided d)
    (h : ∀ ev w', (∀ os, shown k (.published ev :: os) = shown k os) → Stored w' k x →
      w'.now = w.now → Q ev [.published ev] w') :
    Coro.Returns answer (publish payload correlationId causationId) w Q := by
  refine returns_publish hg ?_
  intro ev w' hv hn hp _
  exact h ev w' (shown_other fun d hd => hother d (hp.symm.trans hd)) (hs.of_view hv) hn

/-- A task id that is minted now. -/
theorem returns_mintTaskId_new {y : ResolutionCase} {Q : UUID → List Obs → World → Prop}
    (hs : Stored w k x) (hc : c.caseId = k) (hcorr : c.correlationId = k)
    (hnone : ∀ r, r.core = x → peer.taskId r = none)
    (hset : ∀ r, r.core = x → (peer.setTaskId (S.uuid5 k peer.capabilityId) r).core = y)
    (hid : y.caseId = x.caseId) (hcorr' : y.correlationId = x.correlationId)
    (h : ∀ w', Stored w' k y → w'.now = w.now → Q (S.uuid5 k peer.capabilityId) [] w') :
    Coro.Returns answer (mintTaskId S peer c) w Q := by
  unfold mintTaskId
  apply Coro.Returns.bind
  refine returns_deref hs hc ?_
  intro r hr hget
  rw [hnone r hr]
  dsimp only
  rw [hcorr]
  apply Coro.Returns.bind
  refine returns_assign hs hc hset hid hcorr' ?_
  intro w' hs' hn'
  exact .pure (h w' hs' hn')

/-- A task id that is there. -/
theorem returns_mintTaskId_old {Q : UUID → List Obs → World → Prop} (hs : Stored w k x)
    (hc : c.caseId = k) (hsome : ∀ r, r.core = x → peer.taskId r = some t)
    (h : Q t [] w) : Coro.Returns answer (mintTaskId S peer c) w Q := by
  unfold mintTaskId
  apply Coro.Returns.bind
  refine returns_deref hs hc ?_
  intro r hr hget
  rw [hsome r hr]
  exact .pure h

theorem returns_addPendingTask {Q : Unit → List Obs → World → Prop} (hs : Stored w k x)
    (hc : c.caseId = k)
    (h : ∀ w', Stored w' k { x with pendingTasks := insert t x.pendingTasks } →
      w'.now = w.now → Q () [] w') :
    Coro.Returns answer
      (updateStore "KeyError" fun st => st.addPendingTask c.caseId t) w Q := by
  obtain ⟨r, hr, hx⟩ := hs.get
  obtain ⟨st', hst, hview⟩ := InMemoryCaseStateStore.view_addPendingTask (t := t) hr
  rw [hx] at hview
  refine ⟨(), [], { w with store := st' }, ?_, h _ ⟨?_, ?_, hs.caseId, hs.correlationId⟩ rfl⟩
  · rw [hc]
    exact runSync_updateStore hst
  · show st'.view.cases k = _
    rw [hview, ← hx]
    exact View.put_cases_self _ _ _
  · show st'.view.byCorrelation k = _
    rw [hview]
    exact hs.index

theorem returns_validateCapability {cards : List AgentCard}
    {Q : AgentCard → List Obs → World → Prop} (hcards : answer .discoverAgents = .ok cards)
    (hcard : (cardOf peer cards).isSome) (h : ∀ card, Q card [] w) :
    Coro.Returns answer (validateCapability peer) w Q := by
  obtain ⟨card, hcard⟩ := Option.isSome_iff_exists.mp hcard
  unfold validateCapability
  apply Coro.Returns.bind
  apply returns_request
  rw [hcards]
  apply Coro.Returns.bind
  refine ⟨cards, [], w, rfl, ?_⟩
  have hfind : (findCapable peer.capabilityId cards).find?
      (fun card => card.agentId == peer.agentId) = some card := hcard
  dsimp only
  rw [hfind]
  exact .pure (h card)

/-- A request to a peer whose task is minted. -/
theorem returns_requestAnalysis {cards : List AgentCard} {Q : Unit → List Obs → World → Prop}
    (hg : Granted answer) (hcards : answer .discoverAgents = .ok cards)
    (hcard : (cardOf peer cards).isSome) (hs : Stored w k x) (hc : c.caseId = k)
    (hsome : ∀ r, r.core = x → peer.taskId r = some t)
    (h : ∀ os w', shown k os = [] → Stored w' k x → w'.now = w.now → Q () os w') :
    Coro.Returns answer (requestAnalysis S peer c envelope) w Q := by
  unfold requestAnalysis
  apply Coro.Returns.bind
  refine returns_validateCapability hcards hcard ?_
  intro card
  apply Coro.Returns.bind
  refine returns_mintTaskId_old hs hc hsome ?_
  apply Coro.Returns.bind
  refine returns_deref hs hc ?_
  intro r hr hget
  apply Coro.Returns.bind
  refine returns_publish_other hg hs nofun ?_
  intro ev w' hquiet hs' hn
  apply Coro.Returns.pure
  refine h _ w' ?_ hs' hn
  simpa using hquiet []

theorem returns_announceReviews {Q : Unit → List Obs → World → Prop} (hg : Granted answer)
    (hs : Stored w k x) (hc : c.caseId = k)
    (h : ∀ os w', shown k os = [] → Stored w' k x → w'.now = w.now → Q () os w') :
    Coro.Returns answer (announceReviews c envelope) w Q := by
  unfold announceReviews
  apply Coro.Returns.bind
  refine returns_deref hs hc ?_
  intro r hr hget
  split
  · apply Coro.Returns.bind
    apply returns_datetimeNow
    apply Coro.Returns.bind
    refine returns_publish_other hg hs nofun ?_
    intro ev w' hquiet hs' hn
    apply Coro.Returns.pure
    refine h _ w' ?_ hs' hn
    simpa using hquiet []
  · exact .pure (h [] w rfl hs rfl)

/-- The record that is handed to the peers. -/
def askedCase (S : Settings) (k : UUID) (x : ResolutionCase) : ResolutionCase :=
  { x with
    billingTaskId := some (billingTaskOf S k)
    riskTaskId := some (riskTaskOf S k)
    pendingTasks := insert (riskTaskOf S k) (insert (billingTaskOf S k) x.pendingTasks) }

theorem returns_delegate {Q : Unit → List Obs → World → Prop} (hg : Granted answer)
    (hd : Discovered answer) (hs : Stored w k x) (hc : c.caseId = k) (hcorr : c.correlationId = k)
    (hb : x.billingTaskId = none) (hr : x.riskTaskId = none)
    (h : ∀ os w', shown k os = [] → Stored w' k (askedCase S k x) → w'.now = w.now → Q () os w') :
    Coro.Returns answer (delegate S c envelope) w Q := by
  obtain ⟨cards, hcards, hbc, hrc⟩ := hd
  unfold delegate
  apply Coro.Returns.bind
  refine returns_mintTaskId_new (y := { x with billingTaskId := some (billingTaskOf S k) }) hs hc
    hcorr ?_ ?_ rfl rfl ?_
  · rintro r rfl
    exact hb
  · rintro r rfl
    rfl
  intro w₁ hs₁ hn₁
  apply Coro.Returns.bind
  refine returns_mintTaskId_new (y := { x with
    billingTaskId := some (billingTaskOf S k), riskTaskId := some (riskTaskOf S k) }) hs₁ hc
    hcorr ?_ ?_ rfl rfl ?_
  · intro r hr'
    exact (congrArg ResolutionCase.riskTaskId hr').trans hr
  · intro r hr'
    exact congrArg (fun y : ResolutionCase => { y with riskTaskId := some (riskTaskOf S k) }) hr'
  intro w₂ hs₂ hn₂
  apply Coro.Returns.bind
  refine returns_addPendingTask hs₂ hc ?_
  intro w₃ hs₃ hn₃
  apply Coro.Returns.bind
  refine returns_addPendingTask hs₃ hc ?_
  intro w₄ hs₄ hn₄
  have hs₄ : Stored w₄ k (askedCase S k x) := hs₄
  apply Coro.Returns.bind
  refine returns_requestAnalysis (t := billingTaskOf S k) hg hcards hbc hs₄ hc ?_ ?_
  · intro r hr'
    exact congrArg ResolutionCase.billingTaskId hr'
  intro os₅ w₅ hshown₅ hs₅ hn₅
  apply Coro.Returns.bind
  refine returns_requestAnalysis (t := riskTaskOf S k) hg hcards hrc hs₅ hc ?_ ?_
  · intro r hr'
    exact congrArg ResolutionCase.riskTaskId hr'
  intro os₆ w₆ hshown₆ hs₆ hn₆
  refine returns_announceReviews hg hs₆ hc ?_
  intro os₇ w₇ hshown₇ hs₇ hn₇
  refine h _ w₇ ?_ hs₇ ?_
  · simp [hshown₅, hshown₆, hshown₇]
  · rw [hn₇, hn₆, hn₅, hn₄, hn₃, hn₂, hn₁]

end Delegation

section Intake

variable {S : Settings} {answer : ∀ x, Reply x} {w : World} {k : UUID} {c x : ResolutionCase}
  {ticket : SupportTicketCreatedPayload}

theorem returns_respondDirectly {triage : Triage} {causationId : UUID} (hg : Granted answer)
    (hs : Stored w k x) (hc : c.caseId = k) (hcorr : c.correlationId = k) :
    Coro.Returns answer (respondDirectly c ticket triage causationId) w fun _ =>
      Handled w k ([directDecision c ticket triage], { x with status := .closed }) := by
  unfold respondDirectly
  apply Coro.Returns.bind
  refine returns_emitDecisionAndDraft hg hs hc hcorr rfl ?_
  intro ev os w₁ hshown hs₁ hn₁
  apply Coro.Returns.bind
  refine returns_assign hs₁ hc (y := { x with status := .closed }) ?_ rfl rfl ?_
  · intro r hr
    exact congrArg (fun y : ResolutionCase => { y with status := CaseStatus.closed }) hr
  intro w₂ hs₂ hn₂
  refine returns_save hs₂ hc ?_
  intro w₃ hs₃ hn₃
  refine ⟨?_, hs₃, ?_⟩
  · simp [hshown]
  · rw [hn₃, hn₂, hn₁]

/-- The record after both peers were asked. -/
def waitingCase (S : Settings) (k : UUID) (now : Time) (x : ResolutionCase) : ResolutionCase :=
  askedCase S k
    { x with
      status := .waitingForPeerReviews
      deadlineAt := some (now + S.caseDeadlineSeconds * microsPerSecond) }

theorem returns_delegateReviews {envelope : EventRef} (hg : Granted answer)
    (hd : Discovered answer) (hs : Stored w k x) (hc : c.caseId = k) (hcorr : c.correlationId = k)
    (hb : x.billingTaskId = none) (hr : x.riskTaskId = none) :
    Coro.Returns answer (delegateReviews S c ticket envelope) w fun _ =>
      Handled w k ([], waitingCase S k w.now x) := by
  unfold delegateReviews
  apply Coro.Returns.bind
  apply returns_datetimeNow
  apply Coro.Returns.bind
  refine returns_assign hs hc (y := { x with
      status := .waitingForPeerReviews
      deadlineAt := some (w.now + S.caseDeadlineSeconds * microsPerSecond) }) ?_ rfl rfl ?_
  · rintro r rfl
    rfl
  intro w₁ hs₁ hn₁
  apply Coro.Returns.bind
  refine returns_save hs₁ hc ?_
  intro w₂ hs₂ hn₂
  apply Coro.Returns.tryCatch
  apply Coro.Returns.bind
  refine returns_delegate hg hd hs₂ hc hcorr hb hr ?_
  intro os w₃ hshown hs₃ hn₃
  refine returns_save hs₃ hc ?_
  intro w₄ hs₄ hn₄
  refine ⟨?_, hs₄, ?_⟩
  · simp [hshown]
  · rw [hn₄, hn₃, hn₂, hn₁]

theorem returns_triageTicket {y : LlmAnswer} {envelope : EventRef}
    {Q : Triage → List Obs → World → Prop} (h : Q (intakeTriage S ticket y) [] w) :
    Coro.Returns (withLlm answer y) (triageTicket S envelope ticket) w Q := by
  unfold intakeTriage at h
  unfold triageTicket
  by_cases hllm : S.craLlmEnabled = true
  · rw [if_pos hllm] at h ⊢
    apply Coro.Returns.bind
    apply returns_request
    cases y with
    | ok c => exact .pure h
    | error exc => exact .pure h
  · rw [if_neg hllm] at h ⊢
    exact .pure h

/-- A new record with its triage. -/
def classifiedCase (x : ResolutionCase) (triage : Triage) : ResolutionCase :=
  { x with triage := some triage, status := .classified }

/-- **A ticket of a new case, handled alone.** -/
theorem returns_intakeHandler {y : LlmAnswer} {e : Inbound SupportTicketCreatedPayload}
    (hok : ViewOk S w.view) (hg : Granted answer) (hd : Discovered answer)
    (he : e.payload = some ticket) (hnew : w.store.get e.correlationId = none) :
    ∃ x, NewCase e.correlationId x ∧
      Coro.Returns (withLlm answer y) (intakeHandler S e) w fun _ =>
        Handled w e.correlationId
          (if (intakeTriage S ticket y).needsRefundReview then
            ([], waitingCase S e.correlationId w.now (classifiedCase x (intakeTriage S ticket y)))
          else
            ([directDecision x ticket (intakeTriage S ticket y)],
              { classifiedCase x (intakeTriage S ticket y) with status := .closed })) := by
  have hg' := granted_withLlm hg y
  have hd' := discovered_withLlm hd y
  obtain ⟨r, hr, -⟩ | ⟨hnone, r, st', hget, hcase, hid, hview⟩ :=
    InMemoryCaseStateStore.getOrCreate_cases (k := e.correlationId) hok ticket.ticketId
      ticket.customerId ticket.amount ticket.currency ticket.reason w.now
  · exact absurd (hr.symm.trans hnew) (by simp)
  refine ⟨r.core, hcase, ?_⟩
  have hcorr : r.correlationId = e.correlationId := hcase.correlationId
  have hs : Stored { w with store := st' } e.correlationId r.core := by
    refine ⟨?_, ?_, hcase.caseId, hcase.correlationId⟩
    · show st'.view.cases _ = _
      rw [hview]
      exact View.put_cases_self _ _ _
    · show st'.view.byCorrelation _ = _
      rw [hview]
      exact Function.update_self ..
  have hstatus : r.status = .received := hcase.status
  generalize hk : e.correlationId = k at *
  unfold intakeHandler
  rw [he]
  apply Coro.Returns.bind
  apply returns_datetimeNow
  apply Coro.Returns.bind
  apply returns_withStore
  dsimp only
  rw [hk, hget]
  dsimp only
  rw [if_pos (.inl hstatus)]
  apply Coro.Returns.bind
  refine returns_triageTicket ?_
  generalize intakeTriage S ticket y = triage
  apply Coro.Returns.bind
  refine returns_assign hs hid (y := classifiedCase r.core triage) ?_ rfl rfl ?_
  · intro r' hr'
    exact congrArg (classifiedCase · triage) hr'
  intro w₂ hs₂ hn₂
  apply Coro.Returns.bind
  refine returns_save hs₂ hid ?_
  intro w₃ hs₃ hn₃
  apply Coro.Returns.bind
  refine returns_writeTaskAudit ?_
  intro w₄ hv₄ hn₄
  apply Coro.Returns.bind
  refine returns_publish_other hg' (hs₃.of_view hv₄) nofun ?_
  intro ev w₅ hquiet hs₅ hn₅
  have hnow : w₅.now = w.now := by rw [hn₅, hn₄, hn₃, hn₂]
  by_cases hneeds : triage.needsRefundReview = true
  · rw [if_pos hneeds, if_pos hneeds]
    refine (returns_delegateReviews hg' hd' hs₅ hid hcorr hcase.billingTaskId
      hcase.riskTaskId).mono ?_
    intro _ os w₆ hdone
    rw [hnow] at hdone
    refine ⟨?_, hdone.stored, hdone.now.trans hnow⟩
    simp only [List.nil_append, List.cons_append, hquiet]
    exact hdone.decisions
  · rw [if_neg hneeds, if_neg hneeds]
    refine (returns_respondDirectly hg' hs₅ hid hcorr).mono ?_
    intro _ os w₆ hdone
    refine ⟨?_, hdone.stored, hdone.now.trans hnow⟩
    simp only [List.nil_append, List.cons_append, hquiet]
    exact hdone.decisions

end Intake

/-! ## The opinions after the intake -/

/-- Messages handled one after the other, each at its time. -/
def handleAll (S : Settings) (answer : ∀ x, Reply x) : List (Time × Message) → World → List Obs
  | [], _ => []
  | (now, m) :: ms, w =>
      let out := (m.handler S).runSync answer { w with now }
      out.1 ++ handleAll S answer ms out.2.1

/-- The two opinions, in the order they arrive in. -/
def opinions (billingIsFirst : Bool) (t₁ t₂ : Time)
    (eb : Inbound BillingRefundAnalysisCompletedPayload)
    (er : Inbound RiskReviewCompletedPayload) : List (Time × Message) :=
  if billingIsFirst then [(t₁, .billingResult eb), (t₂, .riskResult er)]
  else [(t₁, .riskResult er), (t₂, .billingResult eb)]

/-- The risk finding is escalated at once, in a case that waits for both opinions. -/
def AtOnce (billingIsFirst : Bool) (f : BillingFinding) (g : RiskFinding) : Prop :=
  g.highRisk = true ∧ ¬ (billingIsFirst = true ∧ f.eligibility = .ineligible)

instance (billingIsFirst : Bool) (f : BillingFinding) (g : RiskFinding) :
    Decidable (AtOnce billingIsFirst f g) :=
  inferInstanceAs (Decidable (_ ∧ _))

/-- The outcome, as a function of the triage and of the findings. -/
def outcomeWith (t : Triage) (billingIsFirst : Bool) (f : BillingFinding) (g : RiskFinding) :
    ResolutionOutcome :=
  if t.needsRefundReview = true then
    if AtOnce billingIsFirst f g then .escalateHuman else jointOutcome t f g
  else .directResponse

section Opinions

variable {S : Settings} {answer : ∀ x, Reply x} {w : World} {k bt rt : UUID} {t : Triage}
  {x : ResolutionCase} {eb : Inbound BillingRefundAnalysisCompletedPayload}
  {er : Inbound RiskReviewCompletedPayload} {b : BillingRefundAnalysisCompletedPayload}
  {r : RiskReviewCompletedPayload}

theorem handleAll_nil : shown k (handleAll S answer [] w) = [] := rfl

theorem handleAll_cons (answer : ∀ x, Reply x) {now : Time} {m : Message}
    (ms : List (Time × Message))
    {out : List CustomerResponseDecisionPayload × ResolutionCase}
    (h : Coro.Returns answer (m.handler S) { w with now } fun _ =>
      Handled { w with now } k out) :
    ∃ w', Stored w' k out.2 ∧ shown k (handleAll S answer ((now, m) :: ms) w) =
      out.1 ++ shown k (handleAll S answer ms w') := by
  obtain ⟨a, os, w', hrun, hdone⟩ := h
  refine ⟨w', hdone.stored, ?_⟩
  show shown k ((Coro.runSync answer (m.handler S) { w with now }).1 ++
    handleAll S answer ms (Coro.runSync answer (m.handler S) { w with now }).2.1) = _
  rw [hrun, shown_append, hdone.decisions]

/-- A case that was never given to the peers ignores what they say. -/
theorem returns_billingResultHandler_unasked (hs : Stored w k x) (ht : x.billingTaskId = none)
    (he : eb.payload = some b) (hk : eb.correlationId = k) :
    Coro.Returns answer (billingResultHandler eb) w fun _ => Handled w k ([], x) := by
  unfold billingResultHandler
  rw [he]
  apply Coro.Returns.bind
  apply returns_readStore
  obtain ⟨c, hc, hx⟩ := hs.getByCorrelationId
  rw [hk, hc]
  dsimp only
  rw [show c.billingTaskId = none from (congrArg ResolutionCase.billingTaskId hx).trans ht]
  exact .pure ⟨rfl, hs, rfl⟩

theorem returns_riskResultHandler_unasked (hs : Stored w k x) (ht : x.riskTaskId = none)
    (he : er.payload = some r) (hk : er.correlationId = k) :
    Coro.Returns answer (riskResultHandler er) w fun _ => Handled w k ([], x) := by
  unfold riskResultHandler
  rw [he]
  apply Coro.Returns.bind
  apply returns_readStore
  obtain ⟨c, hc, hx⟩ := hs.getByCorrelationId
  rw [hk, hc]
  dsimp only
  rw [show c.riskTaskId = none from (congrArg ResolutionCase.riskTaskId hx).trans ht]
  exact .pure ⟨rfl, hs, rfl⟩

theorem opinions_unasked (hs : Stored w k x) (hb : x.billingTaskId = none)
    (hr : x.riskTaskId = none) (heb : eb.payload = some b) (hkb : eb.correlationId = k)
    (her : er.payload = some r) (hkr : er.correlationId = k) (billingIsFirst : Bool)
    (t₁ t₂ : Time) :
    shown k (handleAll S answer (opinions billingIsFirst t₁ t₂ eb er) w) = [] := by
  have hs₁ : Stored { w with now := t₁ } k x := hs.of_view rfl
  cases billingIsFirst with
  | true =>
    obtain ⟨w₁, hs₁, hshown₁⟩ := handleAll_cons (S := S) answer [(t₂, .riskResult er)]
      (m := .billingResult eb)
      (returns_billingResultHandler_unasked hs₁ hb heb hkb)
    have hs₂ : Stored { w₁ with now := t₂ } k x := hs₁.of_view rfl
    obtain ⟨w₂, -, hshown₂⟩ := handleAll_cons (S := S) answer [] (m := .riskResult er)
      (returns_riskResultHandler_unasked hs₂ hr her hkr)
    exact hshown₁.trans hshown₂
  | false =>
    obtain ⟨w₁, hs₁, hshown₁⟩ := handleAll_cons (S := S) answer [(t₂, .billingResult eb)]
      (m := .riskResult er)
      (returns_riskResultHandler_unasked hs₁ hr her hkr)
    have hs₂ : Stored { w₁ with now := t₂ } k x := hs₁.of_view rfl
    obtain ⟨w₂, -, hshown₂⟩ := handleAll_cons (S := S) answer [] (m := .billingResult eb)
      (returns_billingResultHandler_unasked hs₂ hb heb hkb)
    exact hshown₁.trans hshown₂

/-- Billing first, in a case that waits for both. -/
theorem billing_then_risk_outcome (h : Open t bt rt {rt, bt} none none False x) (hne : bt ≠ rt)
    (t₁ t₂ : Time) :
    ∃ d, (onBilling x bt b t₁).1 ++ (onRisk (onBilling x bt b t₁).2 rt r t₂).1 = [d] ∧
      d.outcome = if AtOnce true (billingFinding b bt) (riskFinding r rt) then .escalateHuman
        else jointOutcome t (billingFinding b bt) (riskFinding r rt) := by
  have hsub : ({rt, bt} : Finset UUID) ⊆ {rt, bt} := Finset.Subset.refl _
  have hrt : rt ∈ ({rt, bt} : Finset UUID).erase bt := by simp [Ne.symm hne]
  have h₁ := h.attachBilling (billingFinding b bt)
  rw [if_pos (by simp)] at h₁
  unfold onBilling
  generalize billingFinding b bt = f at *
  generalize attachIf x bt (.billing f) = x₁ at *
  rw [h₁.wait id (Finset.ne_empty_of_mem hrt) t₁]
  unfold onRisk
  dsimp only
  generalize riskFinding r rt = g
  have hfast := h₁.escalatesAtOnce_iff g
  rw [denied_some] at hfast
  by_cases hg : AtOnce true f g
  · rw [if_pos hg, if_pos (hfast.mpr ⟨hg.1, fun hi => hg.2 ⟨rfl, hi⟩⟩)]
    exact ⟨highRiskDecision x₁ g, rfl, rfl⟩
  · rw [if_neg hg, if_neg fun hc => hg ⟨(hfast.mp hc).1, fun hi => (hfast.mp hc).2 hi.2⟩]
    have h₂ := h₁.attachRisk g
    rw [if_pos hrt, erase_both hsub hne] at h₂
    generalize attachIf x₁ rt (.risk g) = x₂ at h₂
    rw [h₂.settle (.inr rfl) t₂]
    refine ⟨decisionOn x₂ t₂, rfl, ?_⟩
    rw [h₂.decisionOn_outcome t₂]
    simp [resolve]

/-- Risk first, in a case that waits for both. -/
theorem risk_then_billing_outcome (h : Open t bt rt {rt, bt} none none False x) (hne : bt ≠ rt)
    (t₁ t₂ : Time) :
    ∃ d, (onRisk x rt r t₁).1 ++ (onBilling (onRisk x rt r t₁).2 bt b t₂).1 = [d] ∧
      d.outcome = if AtOnce false (billingFinding b bt) (riskFinding r rt) then .escalateHuman
        else jointOutcome t (billingFinding b bt) (riskFinding r rt) := by
  have hsub : ({rt, bt} : Finset UUID) ⊆ {bt, rt} := (Finset.pair_comm rt bt).subset
  have hbt : bt ∈ ({rt, bt} : Finset UUID).erase rt := by simp [hne]
  unfold onRisk
  dsimp only
  generalize riskFinding r rt = g
  have hfast := h.escalatesAtOnce_iff g
  by_cases hg : g.highRisk = true
  · have hopen : ¬ Denied none := by simp [Denied]
    rw [if_pos (hfast.mpr ⟨hg, hopen⟩), if_pos ⟨hg, by simp⟩]
    dsimp only
    rw [onBilling_of_final rfl]
    exact ⟨highRiskDecision x g, rfl, rfl⟩
  · rw [if_neg fun hc => hg (hfast.mp hc).1, if_neg fun hc => hg hc.1]
    have h₁ := h.attachRisk g
    rw [if_pos (by simp)] at h₁
    generalize attachIf x rt (.risk g) = x₁ at h₁
    rw [h₁.wait id (Finset.ne_empty_of_mem hbt) t₁]
    unfold onBilling
    dsimp only
    generalize billingFinding b bt = f
    have h₂ := h₁.attachBilling f
    rw [if_pos hbt, erase_both hsub (Ne.symm hne)] at h₂
    generalize attachIf x₁ bt (.billing f) = x₂ at h₂
    rw [h₂.settle (.inr rfl) t₂]
    refine ⟨decisionOn x₂ t₂, rfl, ?_⟩
    rw [h₂.decisionOn_outcome t₂]
    simp [resolve]

/-- Should one task id stand for both reviews, the finding that comes first closes the case, and there is
    no other to go with it. -/
theorem billing_then_risk_same_task (h : Open t bt bt {bt, bt} none none False x) (t₁ t₂ : Time) :
    ∃ d, (onBilling x bt b t₁).1 ++ (onRisk (onBilling x bt b t₁).2 bt r t₂).1 = [d] ∧
      d.outcome = .escalateHuman := by
  have h₁ := h.attachBilling (billingFinding b bt)
  rw [if_pos (by simp), Finset.pair_eq_singleton, Finset.erase_singleton] at h₁
  unfold onBilling
  generalize attachIf x bt (.billing (billingFinding b bt)) = x₁ at *
  rw [h₁.settle (.inr rfl) t₁]
  dsimp only
  rw [onRisk_of_final rfl]
  refine ⟨decisionOn x₁ t₁, rfl, ?_⟩
  rw [h₁.decisionOn_outcome t₁]
  simp [resolve]

theorem risk_then_billing_same_task (h : Open t bt bt {bt, bt} none none False x) (t₁ t₂ : Time) :
    ∃ d, (onRisk x bt r t₁).1 ++ (onBilling (onRisk x bt r t₁).2 bt b t₂).1 = [d] ∧
      d.outcome = .escalateHuman := by
  unfold onRisk
  dsimp only
  split
  · dsimp only
    rw [onBilling_of_final rfl]
    exact ⟨highRiskDecision x (riskFinding r bt), rfl, rfl⟩
  · have h₁ := h.attachRisk (riskFinding r bt)
    rw [if_pos (by simp), Finset.pair_eq_singleton, Finset.erase_singleton] at h₁
    generalize attachIf x bt (.risk (riskFinding r bt)) = x₁ at *
    rw [h₁.settle (.inr rfl) t₁]
    dsimp only
    rw [onBilling_of_final rfl]
    refine ⟨decisionOn x₁ t₁, rfl, ?_⟩
    rw [h₁.decisionOn_outcome t₁]
    simp [resolve]

/-- What the two verdicts lead to, whatever the ids of their tasks. -/
theorem billing_then_risk_settles (h : Open t bt rt {rt, bt} none none False x) (t₁ t₂ : Time) :
    ∃ d, (onBilling x bt b t₁).1 ++ (onRisk (onBilling x bt b t₁).2 rt r t₂).1 = [d] ∧
      d.outcome = if bt = rt ∨ AtOnce true (billingFinding b bt) (riskFinding r rt) then .escalateHuman
        else jointOutcome t (billingFinding b bt) (riskFinding r rt) := by
  by_cases hsame : bt = rt
  · subst hsame
    obtain ⟨d, hd, houtcome⟩ := billing_then_risk_same_task (b := b) (r := r) h t₁ t₂
    exact ⟨d, hd, by rw [houtcome, if_pos (.inl rfl)]⟩
  · obtain ⟨d, hd, houtcome⟩ := billing_then_risk_outcome (b := b) (r := r) h hsame t₁ t₂
    exact ⟨d, hd, by simpa only [hsame, false_or] using houtcome⟩

theorem risk_then_billing_settles (h : Open t bt rt {rt, bt} none none False x) (t₁ t₂ : Time) :
    ∃ d, (onRisk x rt r t₁).1 ++ (onBilling (onRisk x rt r t₁).2 bt b t₂).1 = [d] ∧
      d.outcome = if bt = rt ∨ AtOnce false (billingFinding b bt) (riskFinding r rt) then .escalateHuman
        else jointOutcome t (billingFinding b bt) (riskFinding r rt) := by
  by_cases hsame : bt = rt
  · subst hsame
    obtain ⟨d, hd, houtcome⟩ := risk_then_billing_same_task (b := b) (r := r) h t₁ t₂
    exact ⟨d, hd, by rw [houtcome, if_pos (.inl rfl)]⟩
  · obtain ⟨d, hd, houtcome⟩ := risk_then_billing_outcome (b := b) (r := r) h hsame t₁ t₂
    exact ⟨d, hd, by simpa only [hsame, false_or] using houtcome⟩

/-- **Both opinions, in either order, on a case that waits for them.** -/
theorem opinions_outcome (hg : Granted answer) (hs : Stored w k x)
    (h : Open t bt rt {rt, bt} none none False x) (hne : bt ≠ rt) (heb : eb.payload = some b)
    (hkb : eb.correlationId = k) (her : er.payload = some r) (hkr : er.correlationId = k)
    (billingIsFirst : Bool) (t₁ t₂ : Time) :
    (shown k (handleAll S answer (opinions billingIsFirst t₁ t₂ eb er) w)).map (·.outcome) =
      [if AtOnce billingIsFirst (billingFinding b bt) (riskFinding r rt) then .escalateHuman
        else jointOutcome t (billingFinding b bt) (riskFinding r rt)] := by
  have hs₁ : Stored { w with now := t₁ } k x := hs.of_view rfl
  cases billingIsFirst with
  | true =>
    obtain ⟨w₁, hs₁, hshown₁⟩ := handleAll_cons (S := S) answer [(t₂, .riskResult er)]
      (m := .billingResult eb) (returns_billingResultHandler hg hs₁ h.billingTaskId heb hkb)
    have hs₂ : Stored { w₁ with now := t₂ } k _ := hs₁.of_view rfl
    have hrt : (onBilling x bt b t₁).2.riskTaskId = some rt :=
      (settleCase_tasks _ _).2.trans ((attachIf_tasks _ _ _).2.trans h.riskTaskId)
    obtain ⟨w₂, -, hshown₂⟩ := handleAll_cons (S := S) answer [] (m := .riskResult er)
      (returns_riskResultHandler hg hs₂ hrt her hkr)
    obtain ⟨d, hd, houtcome⟩ := billing_then_risk_outcome (b := b) (r := r) h hne t₁ t₂
    rw [handleAll_nil, List.append_nil] at hshown₂
    show (shown k (handleAll S answer ((t₁, .billingResult eb) :: [(t₂, .riskResult er)]) w)).map
      _ = _
    rw [hshown₁, hshown₂, hd]
    exact congrArg ([·]) houtcome
  | false =>
    obtain ⟨w₁, hs₁, hshown₁⟩ := handleAll_cons (S := S) answer [(t₂, .billingResult eb)]
      (m := .riskResult er) (returns_riskResultHandler hg hs₁ h.riskTaskId her hkr)
    have hs₂ : Stored { w₁ with now := t₂ } k _ := hs₁.of_view rfl
    have hbt : (onRisk x rt r t₁).2.billingTaskId = some bt := onRisk_billingTaskId h.billingTaskId
    obtain ⟨w₂, -, hshown₂⟩ := handleAll_cons (S := S) answer [] (m := .billingResult eb)
      (returns_billingResultHandler hg hs₂ hbt heb hkb)
    obtain ⟨d, hd, houtcome⟩ := risk_then_billing_outcome (b := b) (r := r) h hne t₁ t₂
    rw [handleAll_nil, List.append_nil] at hshown₂
    show (shown k (handleAll S answer ((t₁, .riskResult er) :: [(t₂, .billingResult eb)]) w)).map
      _ = _
    rw [hshown₁, hshown₂, hd]
    exact congrArg ([·]) houtcome

end Opinions

/-- The record of a new case that was given to the peers. -/
theorem open_waitingCase {S : Settings} {k : UUID} {now : Time} {x : ResolutionCase} {t : Triage}
    (hnew : NewCase k x) (hneeds : t.needsRefundReview = true) :
    Open t (billingTaskOf S k) (riskTaskOf S k) {riskTaskOf S k, billingTaskOf S k} none none False
      (waitingCase S k now (classifiedCase x t)) where
  undecided := rfl
  triage := rfl
  review := hneeds
  billingTaskId := rfl
  riskTaskId := rfl
  pendingTasks := by
    show insert _ (insert _ x.pendingTasks) = _
    rw [hnew.pendingTasks]
    rfl
  billingResult := hnew.billingResult
  riskResult := hnew.riskResult
  slotFailed := by
    show x.billingSlotFailed = true ∨ x.riskSlotFailed = true ↔ False
    rw [hnew.billingSlotFailed, hnew.riskSlotFailed]
    simp

/-- **The outcome of a run**, from the ticket of a new case to the second opinion. -/
theorem handleAll_outcome {S : Settings} {answer : ∀ x, Reply x} {w : World}
    {ticket : SupportTicketCreatedPayload} {e : Inbound SupportTicketCreatedPayload}
    {eb : Inbound BillingRefundAnalysisCompletedPayload}
    {er : Inbound RiskReviewCompletedPayload} {b : BillingRefundAnalysisCompletedPayload}
    {r : RiskReviewCompletedPayload} {k : UUID} (hok : ViewOk S w.view) (hg : Granted answer)
    (hd : Discovered answer) (hne : billingTaskOf S k ≠ riskTaskOf S k)
    (he : e.payload = some ticket) (hk : e.correlationId = k) (hnew : w.store.get k = none)
    (heb : eb.payload = some b)
    (hkb : eb.correlationId = k) (her : er.payload = some r) (hkr : er.correlationId = k)
    (billingIsFirst : Bool) (t₀ t₁ t₂ : Time) (y : LlmAnswer) :
    (shown k (handleAll S (withLlm answer y)
        ((t₀, .ticket e) :: opinions billingIsFirst t₁ t₂ eb er) w)).map (·.outcome) =
      [outcomeWith (intakeTriage S ticket y) billingIsFirst (billingFinding b (billingTaskOf S k))
        (riskFinding r (riskTaskOf S k))] := by
  subst hk
  obtain ⟨x, hcase, hrun⟩ := returns_intakeHandler (w := { w with now := t₀ }) (y := y) hok hg hd
    he hnew
  obtain ⟨w', hs, hshown⟩ := handleAll_cons _ (opinions billingIsFirst t₁ t₂ eb er)
    (m := .ticket e) hrun
  rw [hshown]
  unfold outcomeWith
  by_cases hneeds : (intakeTriage S ticket y).needsRefundReview = true
  · rw [if_pos hneeds] at hs ⊢
    rw [if_pos hneeds]
    exact opinions_outcome (granted_withLlm hg y) hs (open_waitingCase hcase hneeds) hne heb hkb
      her hkr billingIsFirst t₁ t₂
  · rw [if_neg hneeds] at hs ⊢
    rw [if_neg hneeds, opinions_unasked hs hcase.billingTaskId hcase.riskTaskId heb hkb her hkr]
    rfl

/-! ## Two models -/

/-- A refund-intent signal is in the reason of the ticket. -/
def MentionsRefund (ticket : SupportTicketCreatedPayload) : Prop :=
  ∃ signal ∈ refundIntentSignals, Text.contains signal (Text.lower ticket.reason) = true

/-- What was published for `k` in two runs: the same outcome, and no direct response to a ticket
    that mentions a refund. -/
structure Unswayed (k : UUID) (ticket : SupportTicketCreatedPayload) (os₁ os₂ : List Obs) :
    Prop where
  outcome : (shown k os₁).map (·.outcome) = (shown k os₂).map (·.outcome)
  reviewed : MentionsRefund ticket → ∀ os ∈ [os₁, os₂],
    .directResponse ∉ (shown k os).map (·.outcome)

/-- The decision on the findings depends on the confidence of the triage: nothing else escalates
    the case. -/
def ConfidenceDecides (billingIsFirst : Bool) (f : BillingFinding) (g : RiskFinding) : Prop :=
  ¬ AtOnce billingIsFirst f g ∧ f.requiresHumanReview = false ∧ g.requiresHumanReview = false ∧
    confidenceThreshold ≤ computeConfidence none (some f) (some g) ∧
    tableOutcome f.eligibility g.level ≠ .escalateHuman

/-- The triages agree on the review, and on the side of the threshold where that decides; and a
    ticket that mentions a refund is reviewed. -/
structure Agree (ticket : SupportTicketCreatedPayload) (t₁ t₂ : Triage) (billingIsFirst : Bool)
    (f : BillingFinding) (g : RiskFinding) : Prop where
  review : t₁.needsRefundReview = t₂.needsRefundReview
  confidence : t₁.needsRefundReview = true → ConfidenceDecides billingIsFirst f g →
    (t₁.confidence.val < confidenceThreshold ↔ t₂.confidence.val < confidenceThreshold)
  signal : MentionsRefund ticket → t₁.needsRefundReview = true

/-- The least confidence is below the threshold when that of the triage or that of the findings
    is. -/
theorem computeConfidence_lt_iff {t : Triage} {f : BillingFinding} {g : RiskFinding} {cf sg : ℚ}
    (hf : f.confidence = some (.fin cf)) (hg : g.score = some (.fin sg)) :
    computeConfidence (some t) (some f) (some g) < confidenceThreshold ↔
      t.confidence.val < confidenceThreshold ∨
        computeConfidence none (some f) (some g) < confidenceThreshold := by
  have htwo : computeConfidence none (some f) (some g) < confidenceThreshold ↔
      cf < confidenceThreshold ∨ 1 - confidenceThreshold < sg := by
    simp only [computeConfidence, hf, hg, Option.map_none, Option.bind_some, Option.map_some,
      Option.toList_none, Option.toList_some, List.nil_append, List.cons_append, List.foldl_cons,
      List.foldl_nil]
    rw [Floating.clamp_lt_iff threshold_pos threshold_le_one,
      Floating.least_lt_iff (by simp), Floating.oneSub_lt_iff, Floating.fin_lt_fin,
      Floating.fin_lt_fin]
  rw [computeConfidence_lt threshold_pos threshold_le_one, htwo, hf, hg]
  simp

theorem jointOutcome_ne_direct (t : Triage) (f : BillingFinding) (g : RiskFinding) :
    jointOutcome t f g ≠ .directResponse := by
  unfold jointOutcome
  split
  · exact ResolutionOutcome.noConfusion
  split
  · exact ResolutionOutcome.noConfusion
  · cases f.eligibility <;> cases g.level <;> exact ResolutionOutcome.noConfusion

section TwoModels

variable {t₁ t₂ : Triage} {billingIsFirst : Bool} {f : BillingFinding} {g : RiskFinding}
  {cf sg : ℚ}

theorem outcomeWith_eq_direct_iff :
    outcomeWith t₁ billingIsFirst f g = .directResponse ↔ ¬ t₁.needsRefundReview = true := by
  unfold outcomeWith
  split
  · rename_i hneeds
    refine iff_of_false ?_ (not_not.mpr hneeds)
    split
    · exact ResolutionOutcome.noConfusion
    · exact jointOutcome_ne_direct t₁ f g
  · rename_i hneeds
    exact iff_of_true rfl hneeds

/-- Two triages of a case that is reviewed. -/
theorem jointOutcome_eq_iff (hf : f.confidence = some (.fin cf)) (hg : g.score = some (.fin sg))
    (hslow : ¬ AtOnce billingIsFirst f g) :
    jointOutcome t₁ f g = jointOutcome t₂ f g ↔ (ConfidenceDecides billingIsFirst f g →
      (t₁.confidence.val < confidenceThreshold ↔ t₂.confidence.val < confidenceThreshold)) := by
  unfold jointOutcome
  by_cases hreview : f.requiresHumanReview = true ∨ g.requiresHumanReview = true
  · rw [if_pos hreview, if_pos hreview]
    refine iff_of_true rfl ?_
    rintro ⟨-, hfr, hgr, -⟩
    rw [hfr, hgr] at hreview
    exact absurd hreview (by simp)
  rw [if_neg hreview, if_neg hreview]
  simp only [computeConfidence_lt_iff hf hg]
  simp only [not_or, Bool.not_eq_true] at hreview
  by_cases hlow : computeConfidence none (some f) (some g) < confidenceThreshold
  · rw [if_pos (.inr hlow), if_pos (.inr hlow)]
    refine iff_of_true rfl ?_
    rintro ⟨-, -, -, hconf, -⟩
    exact absurd hconf (not_le.mpr hlow)
  by_cases htable : tableOutcome f.eligibility g.level = .escalateHuman
  · rw [htable, ite_self, ite_self]
    exact iff_of_true rfl fun h => absurd htable h.2.2.2.2
  -- the findings would resolve the case: what is left is the side of the threshold
  have hdecides : ConfidenceDecides billingIsFirst f g :=
    ⟨hslow, hreview.1, hreview.2, not_lt.mp hlow, htable⟩
  simp only [hlow, or_false, hdecides, true_implies]
  by_cases h₁ : t₁.confidence.val < confidenceThreshold <;>
    by_cases h₂ : t₂.confidence.val < confidenceThreshold <;> simp [h₁, h₂, htable, Ne.symm htable]

theorem outcomeWith_eq_iff (t₁ t₂ : Triage) (billingIsFirst : Bool) (hf : f.confidence = some (.fin cf)) (hg : g.score = some (.fin sg)) :
    outcomeWith t₁ billingIsFirst f g = outcomeWith t₂ billingIsFirst f g ↔
      t₁.needsRefundReview = t₂.needsRefundReview ∧
        (t₁.needsRefundReview = true → ConfidenceDecides billingIsFirst f g →
          (t₁.confidence.val < confidenceThreshold ↔
            t₂.confidence.val < confidenceThreshold)) := by
  by_cases h₁ : t₁.needsRefundReview = true
  · by_cases h₂ : t₂.needsRefundReview = true
    · unfold outcomeWith
      rw [if_pos h₁, if_pos h₂]
      simp only [h₁, h₂, true_and, true_implies]
      by_cases hfast : AtOnce billingIsFirst f g
      · rw [if_pos hfast, if_pos hfast]
        exact iff_of_true rfl fun h => absurd hfast h.1
      · rw [if_neg hfast, if_neg hfast]
        exact jointOutcome_eq_iff hf hg hfast
    · rw [outcomeWith_eq_direct_iff.mpr h₂, outcomeWith_eq_direct_iff]
      exact iff_of_false (not_not.mpr h₁) fun h => h₂ (h.1 ▸ h₁)
  · rw [outcomeWith_eq_direct_iff.mpr h₁, eq_comm, outcomeWith_eq_direct_iff]
    rw [Bool.not_eq_true] at h₁ ⊢
    rw [h₁]
    exact ⟨fun h₂ => ⟨h₂.symm, fun h => absurd h Bool.false_ne_true⟩, fun h => h.1.symm⟩

end TwoModels

/-- **The model does not sway the decision exactly when the two triages agree.** For every ticket
    of a new case in every reachable state, every pair of answers and every pair of opinions. -/
theorem unswayed_iff {S : Settings} {now : Time} {nextId : UUID} {tr : Trace} {s : State}
    (hrun : (service S).Run EventLoop.anyStep (start now nextId) tr s)
    (hllm : S.craLlmEnabled = true) {answer : ∀ x, Reply x} (hg : Granted answer)
    (hd : Discovered answer) {k : UUID} (hne : billingTaskOf S k ≠ riskTaskOf S k)
    (hnew : s.world.store.get k = none) (e : Inbound SupportTicketCreatedPayload)
    {ticket : SupportTicketCreatedPayload} (he : e.payload = some ticket)
    (hk : e.correlationId = k) (eb : Inbound BillingRefundAnalysisCompletedPayload)
    {b : BillingRefundAnalysisCompletedPayload} (heb : eb.payload = some b)
    (hkb : eb.correlationId = k) (er : Inbound RiskReviewCompletedPayload)
    {r : RiskReviewCompletedPayload} (her : er.payload = some r) (hkr : er.correlationId = k)
    (billingIsFirst : Bool) (t₀ t₁ t₂ : Time) (y₁ y₂ : LlmAnswer) :
    Unswayed k ticket
        (handleAll S (withLlm answer y₁)
          ((t₀, .ticket e) :: opinions billingIsFirst t₁ t₂ eb er) s.world)
        (handleAll S (withLlm answer y₂)
          ((t₀, .ticket e) :: opinions billingIsFirst t₁ t₂ eb er) s.world) ↔
      Agree ticket (llmTriage ticket y₁) (llmTriage ticket y₂) billingIsFirst
        (billingFinding b (billingTaskOf S k)) (riskFinding r (riskTaskOf S k)) := by
  have houtcome := handleAll_outcome (run_viewOk hrun) hg hd hne he hk hnew heb hkb her hkr
    billingIsFirst t₀ t₁ t₂
  simp only [intakeTriage, hllm, if_true] at houtcome
  have hsame := outcomeWith_eq_iff (llmTriage ticket y₁) (llmTriage ticket y₂) billingIsFirst
    (f := billingFinding b (billingTaskOf S k)) (g := riskFinding r (riskTaskOf S k)) rfl rfl
  constructor
  · intro h
    have heq := h.outcome
    rw [houtcome y₁, houtcome y₂] at heq
    obtain ⟨hreview, hconf⟩ := hsame.mp (List.cons.inj heq).1
    refine ⟨hreview, hconf, ?_⟩
    intro hsignal
    have hnot := h.reviewed hsignal _ (List.mem_cons_self ..)
    rw [houtcome y₁, List.mem_singleton, eq_comm, outcomeWith_eq_direct_iff] at hnot
    exact not_not.mp hnot
  · intro h
    refine ⟨?_, ?_⟩
    · rw [houtcome y₁, houtcome y₂, hsame.mpr ⟨h.review, h.confidence⟩]
    · intro hsignal os hos
      have h₁ := h.signal hsignal
      have h₂ := h.review ▸ h₁
      rcases List.mem_cons.mp hos with rfl | hos
      · rw [houtcome y₁, List.mem_singleton, eq_comm, outcomeWith_eq_direct_iff]
        exact not_not.mpr h₁
      · rw [List.mem_singleton.mp hos, houtcome y₂, List.mem_singleton, eq_comm,
          outcomeWith_eq_direct_iff]
        exact not_not.mpr h₂

/-! ### A ticket of the case `1` that mentions a refund -/

/-- The agent of the schedules, with the LLM. -/
def llmSettings : Settings := { sampleSettings with craLlmEnabled := true }

def refundEnvelope : Inbound SupportTicketCreatedPayload :=
  { eventId := 100, correlationId := 1, payload := some (sampleTicket "refund please") }

/-- The ticket, an approval and a low risk, with the model's answer `y`. -/
def approvedRun (y : LlmAnswer) : List Obs :=
  handleAll llmSettings (withLlm grant y)
    ((0, .ticket refundEnvelope) ::
      opinions true 1 2 (billingEnvelope "approve") (riskEnvelope "low")) (start 0 1000).world

theorem unswayed_iff_fallback : Unswayed 1 (sampleTicket "refund please")
    (approvedRun (.ok none)) (approvedRun (.error "LLMError")) := by
  have hrun : (service llmSettings).Run EventLoop.anyStep (start 0 1000) [] (start 0 1000) := .nil
  have hne : billingTaskOf llmSettings 1 ≠ riskTaskOf llmSettings 1 := by decide +kernel
  have hcards : Discovered grant := ⟨_, rfl, by decide +kernel, by decide +kernel⟩
  refine (unswayed_iff hrun rfl grant_granted hcards hne rfl refundEnvelope rfl rfl
    (billingEnvelope "approve") rfl rfl (riskEnvelope "low") rfl rfl true 0 1 2
    (.ok none) (.error "LLMError")).mpr ?_
  exact ⟨rfl, fun _ _ => Iff.rfl, fun _ => by decide +kernel⟩

/-- The model says that no review is needed. -/
def dismissal : TicketClassification :=
  { issueType := "general_inquiry", needsRefundReview := false, confidence := ⟨1, one_inBounds⟩
    rationale := "A question" }

/-- The same ticket with the same opinions is approved, or answered as no refund at all. -/
theorem model_dismisses_refund :
    MentionsRefund (sampleTicket "refund please") ∧
      (shown 1 (approvedRun (.ok none))).map (·.outcome) = [.approveRefund] ∧
      (shown 1 (approvedRun (.ok (some dismissal)))).map (·.outcome) = [.directResponse] ∧
      ¬ Unswayed 1 (sampleTicket "refund please") (approvedRun (.ok none))
        (approvedRun (.ok (some dismissal))) := by
  have happroved : (shown 1 (approvedRun (.ok none))).map (·.outcome) = [.approveRefund] := by
    decide +kernel
  have hdirect : (shown 1 (approvedRun (.ok (some dismissal)))).map (·.outcome) =
      [.directResponse] := by
    decide +kernel
  refine ⟨⟨"refund", by decide +kernel, by decide +kernel⟩, happroved, hdirect, ?_⟩
  intro h
  have hsame := h.outcome
  rw [happroved, hdirect] at hsame
  cases hsame

end RefundOps.Resolution
