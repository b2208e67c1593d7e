import RefundOps.Resolution.Watch.Errands

/-!
# The errands of the result handlers

One lemma for each program the result handlers are made of, along the lines of `Conformance`: what
is new here is that every single assignment is accounted for. A program that is done with its case
leaves `Parted` behind; for the reaper, which goes on to the next case in the same stretch, it says
that the other cases are still as the stretch found them.
-/

set_option autoImplicit false

namespace RefundOps.Resolution

variable {S : Settings} {i : LoopId} {g : Watching}

/-- Where a program is when it is done with its case. -/
structure Parted (S : Settings) (g g' : Watching) : Prop where
  free : g'.phase.stage = .free
  viewOk : ViewOk S g'.cur.view
  grows : Grows g.cur.view g'.cur.view
  calm : ∀ k, k ≠ g.phase.case → Calm g k → Calm g' k

/-! ## Emission -/

theorem obeys_emitDecisionAndDraft {c x : ResolutionCase} {d : CustomerResponseDecisionPayload}
    {causationId : UUID} {Q : OutEvent → Watching → Prop} {E : String → Watching → Prop}
    (hfree : g.phase.stage = .free) (hok : ViewOk S g.cur.view)
    (hid : c.caseId = g.phase.case) (hcorr : c.correlationId = g.phase.case)
    (hx : g.cur.view.cases g.phase.case = some x)
    (hd : d.customerResponse = draftCustomerResponse d.outcome)
    (hcause : Caused S i g.phase causationId)
    (hQ : ∀ ev ev' g', Resumed S i g g' → .published ev' ∈ g'.phase.shown →
      ev'.payload = .resolutionDecided d → Q ev g')
    (hE : ∀ e g', Resumed S i g g' → E e g') :
    Obeys S i Q E (emitDecisionAndDraft c d causationId) g := by
  unfold emitDecisionAndDraft
  apply obeys_then
  refine obeys_publish hfree hok hcorr hcause ?_ hE
  intro ev g₁ h₁ hev hpay hevcorr
  obtain ⟨x₁, hx₁, -⟩ := grows_rely h₁.rely _ x hx
  rw [← h₁.case] at hx₁ hid hcorr
  apply obeys_then
  refine obeys_assign_minor h₁.free hid hx₁ (fun _ => rfl) ?_
  intro w₂ hw₂
  have h₂ := h₁.silent hw₂
  apply obeys_then
  refine obeys_writeTaskAudit h₂.free h₂.viewOk (.inl (hevcorr.trans hcorr)) ?_
  intro g₃ h₃
  have h₃' := Resumed.after h₂.toOnward h₃
  apply obeys_then
  apply obeys_datetimeNow
  dsimp only
  rw [if_pos (draftFor_valid hd _ _ _)]
  apply obeys_then
  -- the draft names the decision that has just been published
  have hcause₃ : Caused S i g₃.phase ev.eventId :=
    .inl ⟨.published ev, h₃.shown hev, rfl, by rw [h₃.case]; exact hevcorr.trans hcorr⟩
  refine obeys_publish h₃.free h₃.viewOk (by rw [h₃.case]; exact hcorr) hcause₃ ?_ ?_
  · intro ev' g₄ h₄ _ _ _
    have h₄' := Resumed.after h₃'.toOnward h₄
    obtain ⟨x₄, hx₄, -⟩ := grows_rely h₄'.rely _ x hx
    have hcase₄ : g₄.phase.case = g.phase.case := h₄'.case
    rw [← hcase₄] at hx₄
    apply obeys_then
    refine obeys_assign_minor h₄.free (by rw [hid, hcase₄, h₁.case]) hx₄ (fun _ => rfl) ?_
    intro w₅ hw₅
    exact hQ ev ev _ (h₄'.silent hw₅) (h₄.shown (h₃.shown hev)) hpay
  · intro e g₄ h₄
    exact hE e _ (.after h₃'.toOnward h₄)

/-- The last two statements of every emission: the final status, saved. -/
theorem obeys_finish {c x : ResolutionCase} {s : CaseStatus} {j : LoopId} {p : Phase}
    {E : String → Watching → Prop} (hfree : g.phase.stage = .free) (hok : ViewOk S g.cur.view)
    (hid : c.caseId = g.phase.case) (hx : g.cur.view.cases g.phase.case = some x)
    (hact : Act S j p g.cur.view [] .quiet (g.cur.view.put g.phase.case { x with status := s }))
    (hshift : x.status = s ∨ Shift g x.status s) :
    Obeys S i (fun _ => Parted S g) E
      (do assign c (fun c => { c with status := s }); save c) g := by
  have hcase := hok.case _ x hx
  apply obeys_then
  refine obeys_assign (y := { x with status := s }) hfree hid hx (fun r hr => by rw [← hr]; rfl)
    hshift ?_
  intro w₁ hw₁
  have hok₁ : ViewOk S w₁.view := hw₁ ▸ viewOk_act hok hact
  have hx₁ : w₁.view.cases g.phase.case = some { x with status := s } := by
    rw [hw₁]
    exact View.put_cases_self _ _ _
  refine obeys_save hfree hid hx₁ hcase.caseId hcase.correlationId (hok₁.indexed _ _ hx₁) ?_
  intro w₂ hw₂
  have hview : w₂.view = g.cur.view.put g.phase.case { x with status := s } :=
    Eq.trans hw₂ hw₁
  refine ⟨hfree, ?_, ?_, ?_⟩
  · show ViewOk S w₂.view
    rw [hview]
    exact viewOk_act hok hact
  · show Grows g.cur.view w₂.view
    rw [hview]
    exact grows_act hok hact
  · intro k hk hcalm
    refine ⟨hcalm.base.trans ?_, hcalm.obs⟩
    show g.cur.view.cases k = w₂.view.cases k
    rw [hview, View.put_cases_ne _ _ hk]

/-! ## Claiming and deciding -/

/-- The status of a delegated record that is decided. -/
theorem Delegated.status_final {x : ResolutionCase} (h : Delegated S x)
    (hu : undecided x.status = false) : x.status = .decided ∨ x.status = .escalated := by
  rcases h.status with hs | hs | hs | hs
  · rw [hs] at hu
    exact absurd hu (by decide)
  · rw [hs] at hu
    exact absurd hu (by decide)
  · exact .inl hs
  · exact .inr hs

/-- Every status of a delegated record may be escalated. -/
theorem Delegated.escalates {x : ResolutionCase} (h : Delegated S x) :
    x.status = .escalated ∨ Shift g x.status .escalated := by
  rcases h.status with hs | hs | hs | hs
  · rw [hs]
    exact .inr (.declared rfl)
  · rw [hs]
    exact .inr (.declared rfl)
  · rw [hs]
    exact .inr (.declared rfl)
  · exact .inl hs

theorem obeys_claimDecision {c x : ResolutionCase} {Q : Bool → Watching → Prop}
    {E : String → Watching → Prop}
    (hstage : g.phase.stage = .free ∨ g.phase.stage = .opened ∧ undecided x.status = true)
    (hid : c.caseId = g.phase.case) (hx : g.cur.view.cases g.phase.case = some x)
    (hdel : Delegated S x) (hcalm : Calm g g.phase.case)
    (hlost : g.phase.stage = .free → ∀ w', w'.view = g.cur.view → Q false { g with cur := w' })
    (hwon : undecided x.status = true → ∀ w',
      w'.view = g.cur.view.put g.phase.case { x with status := .decided } →
      Q true ⟨g.phase.tell (.claimed g.phase.case), g.base, g.obs ++ [.claimed g.phase.case], w'⟩) :
    Obeys S i Q E (claimDecision c) g := by
  obtain ⟨r, hr, rfl⟩ := InMemoryCaseStateStore.view_cases_iff.mp hx
  have hframe : ∀ j, j ≠ g.phase.case →
      (g.cur.store.claimDecision g.phase.case g.cur.now).2.get j = g.cur.store.get j := by
    intro j hj
    exact (InMemoryCaseStateStore.run_get (.claimDecision g.phase.case g.cur.now) g.cur.store
      j).unchanged fun h => hj (Option.some.inj h).symm
  unfold claimDecision
  rw [hid]
  apply obeys_then
  apply obeys_datetimeNow
  apply obeys_then
  cases hu : undecided r.status with
  | false =>
    have hlost' := InMemoryCaseStateStore.claimDecision_lost g.cur.now hr hu
    have hfree : g.phase.stage = .free := by
      rcases hstage with h | ⟨-, h⟩
      · exact h
      · exact absurd (h.symm.trans hu) (by simp)
    refine obeys_withStore (p := g.phase) ?_ ?_
    · intro w' hw'
      rw [hlost'] at hw'
      exact .silent hfree hw'
    · intro w' hw'
      rw [hlost'] at hw' ⊢
      exact hlost hfree w' hw'
  | true =>
    obtain ⟨hres, hview⟩ := InMemoryCaseStateStore.claimDecision_won g.cur.now hr hu
    refine obeys_withStore (p := { g.phase with stage := .claiming }) ?_ ?_
    · intro w' hw'
      refine .claim (by rcases hstage with h | ⟨h, -⟩ <;> simp [h]) (fun j hj => by rw [hw']; exact hframe j hj)
        (World.status_of_view hx) (hdel.status_open hu) ?_ hcalm
      refine (World.status_of_view (x := { r.core with status := .decided }) ?_).trans rfl
      unfold World.view
      rw [hw', hview]
      exact View.put_cases_self _ _ _
    · intro w' hw'
      rw [hview] at hw'
      rw [hres]
      apply obeys_then
      refine obeys_note (.inr ⟨rfl, rfl⟩) rfl ?_
      exact hwon hu w' hw'

theorem obeys_applyDecision {causationId : UUID} {c x : ResolutionCase} (hi : i ≠ .intake)
    (hstage : g.phase.stage = .free ∨ g.phase.stage = .opened ∧ undecided x.status = true)
    (hok : ViewOk S g.cur.view)
    (hid : c.caseId = g.phase.case) (hx : g.cur.view.cases g.phase.case = some x)
    (hdel : Delegated S x) (hcalm : Calm g g.phase.case)
    (hcause : Caused S i (g.phase.tell (.claimed g.phase.case)) causationId) :
    Obeys S i (fun _ => Parted S g) (fun _ => Parted S g) (applyDecision c causationId) g := by
  have hb : x.billingTaskId.isSome := Option.isSome_of_mem hdel.billingTaskId
  unfold applyDecision
  apply obeys_then
  refine obeys_claimDecision hstage hid hx hdel hcalm ?_ ?_
  · intro hfree w' hw'
    refine ⟨hfree, hw' ▸ hok, by show Grows _ w'.view; rw [hw']; exact .refl _, ?_⟩
    intro k _ hk
    exact ⟨hk.base.trans (by show _ = w'.view.cases k; rw [hw']), hk.obs⟩
  · intro hu w₁ hw₁
    have hx₁ : w₁.view.cases g.phase.case = some { x with status := .decided } := by
      rw [hw₁]
      exact View.put_cases_self _ _ _
    have hclaim : ∀ snapshot : ResolutionCase, snapshot.core = { x with status := .decided } →
        Act S i .quiet g.cur.view
          [.claimed g.phase.case, .decisionTaken snapshot 0 (decisionOn snapshot 0)]
          (.emitting g.phase.case (decisionOn snapshot 0) .claimed) w₁.view := by
      intro snapshot hsnap
      rw [hw₁]
      exact .claim hi (.inl rfl) hx hb hu hsnap
    rw [if_pos rfl]
    apply obeys_then
    refine obeys_deref (hid ▸ hx₁) ?_
    intro r hr
    have hok₁ : ViewOk S w₁.view := viewOk_act hok (hclaim r hr)
    have hgrow₁ : Grows g.cur.view w₁.view := grows_act hok (hclaim r hr)
    have hcase := hok₁.case _ _ hx₁
    have hrid : r.caseId = g.phase.case := (congrArg ResolutionCase.caseId hr).trans hcase.caseId
    have hrcorr : r.correlationId = g.phase.case :=
      (congrArg ResolutionCase.correlationId hr).trans hcase.correlationId
    apply obeys_then
    apply obeys_datetimeNow
    dsimp only
    apply obeys_then
    refine obeys_note (.inl rfl) rfl ?_
    apply obeys_then
    refine obeys_emitDecisionAndDraft rfl hok₁ hrid hrcorr hx₁ decide_customerResponse
      (hcause.mono rfl (Errand.shown_tell _ _)) ?_ ?_
    · intro _ ev g₂ h₂ _ _
      have hcase₂ : g₂.phase.case = g.phase.case := h₂.case
      obtain ⟨x₂, hx₂, hu₂⟩ : Final g₂.cur.view g.phase.case :=
        Final.rely ⟨_, hx₁, rfl⟩ h₂.rely
      obtain ⟨x₂', hx₂', hb₂, -⟩ := grows_rely h₂.rely _ _ hx₁
      obtain rfl : x₂ = x₂' := Option.some.inj (hx₂.symm.trans hx₂')
      have hb₂' : x₂.billingTaskId.isSome :=
        Option.isSome_of_mem (hb₂ _ hdel.billingTaskId)
      have hdel₂ := (h₂.viewOk.case _ _ hx₂).delegated_of_task (.inl hb₂')
      rw [← hcase₂] at hx₂
      have hshift : x₂.status = .decided ∨ Shift g₂ x₂.status .decided := by
        rcases hdel₂.status_final hu₂ with hs | hs
        · exact .inl hs
        · -- a delegation that failed has escalated the case in the meantime
          right
          rw [hs]
          exact .reverted (h₂.shown (Errand.mem_tell _ _)) (by rw [hcase₂]; exact hrid) (h₂.calm _)
      refine Coro.obeys_mono ?_ (fun _ _ h => h)
        (obeys_finish (s := .decided) (j := i) h₂.free h₂.viewOk (hrid.trans hcase₂.symm) hx₂
          (.finish (d := decisionOn r 0) (m := .claimed) (by decide) hx₂ hb₂') hshift)
      intro _ g₃ h₃
      refine ⟨h₃.free, h₃.viewOk, hgrow₁.trans ((grows_rely h₂.rely).trans h₃.grows), ?_⟩
      intro k hk _
      exact h₃.calm k (by rw [hcase₂]; exact hk) (h₂.calm k)
    · intro e g₂ h₂
      exact ⟨h₂.free, h₂.viewOk, hgrow₁.trans (grows_rely h₂.rely), fun k _ _ => h₂.calm k⟩

theorem obeys_decideIfReady {causationId : UUID} {c x : ResolutionCase} (hi : i ≠ .intake)
    (hfree : g.phase.stage = .free) (hok : ViewOk S g.cur.view)
    (hid : c.caseId = g.phase.case) (hx : g.cur.view.cases g.phase.case = some x)
    (hdel : Delegated S x) (hcalm : Calm g g.phase.case)
    (hcause : Caused S i g.phase causationId) :
    Obeys S i (fun _ => Parted S g) (fun _ => Parted S g) (decideIfReady c causationId) g := by
  unfold decideIfReady
  apply obeys_then
  refine obeys_deref (hid ▸ hx) ?_
  intro r hr
  have hrid : r.caseId = g.phase.case :=
    (congrArg ResolutionCase.caseId hr).trans (hok.case _ x hx).caseId
  split
  · exact obeys_applyDecision hi (.inl hfree) hok hrid hx hdel hcalm
      (hcause.mono rfl (Errand.shown_tell _ _))
  · exact ⟨hfree, hok, .refl _, fun _ _ h => h⟩

/-! ## Domain results -/

/-- Attaching a result declares at most one transition. -/
theorem attachedCase_shift {x : ResolutionCase} {t : UUID} {f : Finding} (hdel : Delegated S x)
    (hu : undecided x.status = true) :
    x.status = (attachedCase x t f).status ∨ Shift g x.status (attachedCase x t f).status := by
  by_cases h : x.pendingTasks.erase t = ∅ ∧ canTransitionToReady x.status = true
  · rw [attachedCase_ready h]
    rcases hdel.status_open hu with hs | hs
    · rw [hs]
      exact .inr (.declared rfl)
    · exact .inl hs
  · rw [attachedCase_waiting h]
    exact .inl rfl

theorem obeys_applyResult {c x : ResolutionCase} {t : UUID} {f : Finding} {envelope : EventRef}
    {Q : Unit → Watching → Prop} {E : String → Watching → Prop}
    (hfree : g.phase.stage = .free) (hid : c.caseId = g.phase.case)
    (hx : g.cur.view.cases g.phase.case = some x) (hdel : Delegated S x)
    (henv : envelope.correlationId = g.phase.case)
    (hdup : ∀ w', w'.view = g.cur.view → Q () { g with cur := w' })
    (hatt : undecided x.status = true → t ∈ x.pendingTasks → ∀ w',
      w'.view = g.cur.view.put g.phase.case (attachedCase x t f) → ViewOk S w'.view ∧
        ∀ g', Resumed S i ⟨g.phase.tell (.attached envelope g.phase.case t f), g.base,
          g.obs ++ [.attached envelope g.phase.case t f], w'⟩ g' → Q () g') :
    Obeys S i Q E (applyResult envelope c t f) g := by
  obtain ⟨r, hr, rfl⟩ := InMemoryCaseStateStore.view_cases_iff.mp hx
  unfold applyResult
  rw [hid]
  apply obeys_then
  apply obeys_datetimeNow
  apply obeys_then
  by_cases hatt' : undecided r.status = true ∧ t ∈ r.pendingTasks
  · obtain ⟨hres, hview⟩ := InMemoryCaseStateStore.applyResult_attached f g.cur.now
      hr hatt'.1 hatt'.2
    refine obeys_withStore (p := g.phase) ?_ ?_
    · intro w' hw'
      refine .put (y := attachedCase r.core t f) hfree ?_ hx ?_
        (attachedCase_shift hdel hatt'.1) hw'
      · intro j hj
        exact (InMemoryCaseStateStore.run_get (.applyResult g.phase.case t f g.cur.now)
          g.cur.store j).unchanged fun h => hj (Option.some.inj h).symm
      · rw [hview]
        exact View.put_cases_self _ _ _
    · intro w' hw'
      rw [hview] at hw'
      rw [hres, if_pos rfl]
      obtain ⟨hok', hgo⟩ := hatt hatt'.1 hatt'.2 w' hw'
      apply obeys_then
      refine obeys_note (.inl hfree) rfl ?_
      exact obeys_writeTaskAudit rfl hok' (.inl henv) hgo
  · have hres := InMemoryCaseStateStore.applyResult_duplicate f g.cur.now hr hatt'
    refine obeys_withStore (p := g.phase) ?_ ?_
    · intro w' hw'
      rw [hres] at hw'
      exact .silent hfree hw'
    · intro w' hw'
      rw [hres] at hw' ⊢
      rw [if_neg (by simp)]
      exact hdup w' hw'

/-- The common end of the two domain handlers. -/
theorem obeys_attachAndDecide {c x : ResolutionCase} {t : UUID} {f : Finding} {envelope : EventRef}
    {m : Message} {w : World} {h : ResolutionCase → ResolutionCase}
    (hi : i ≠ .intake) (hok : ViewOk S w.view) (hcase : (errandOf m w).case = c.caseId)
    (hx : w.view.cases c.caseId = some x) (hdel : Delegated S x)
    (hminor : ∀ r, (h r).core = r.core) (henv : envelope.correlationId = c.caseId)
    (hnames : (Obs.received m).Names S c.caseId envelope.eventId)
    (hact : undecided x.status = true → t ∈ x.pendingTasks →
      Act S i .quiet w.view [.received m, .attached envelope c.caseId t f] (.owing c.caseId)
        (w.view.put c.caseId (attachedCase x t f))) :
    Obeys S i (fun _ g' => g'.phase.stage = .free) (fun _ g' => g'.phase.stage = .free)
      (do assign c h; applyResult envelope c t f; decideIfReady c envelope.eventId)
      ⟨errandOf m w, w, [.received m], w⟩ := by
  have hcause : Caused S i (errandOf m w) envelope.eventId :=
    .inl ⟨.received m, by simp [errandOf], hcase ▸ hnames⟩
  apply obeys_then
  refine obeys_assign_minor rfl hcase.symm (hcase ▸ hx) hminor ?_
  intro w₁ hw₁
  have hw₁' : w₁.view = w.view := hw₁
  apply obeys_then
  refine obeys_applyResult rfl hcase.symm (by rw [hcase]; exact hw₁' ▸ hx) hdel
    (henv.trans hcase.symm) ?_ ?_
  · intro w₂ hw₂
    have hview : w₂.view = w.view := Eq.trans hw₂ hw₁
    exact Coro.obeys_mono (fun _ _ hp => hp.free) (fun _ _ hp => hp.free)
      (obeys_decideIfReady hi rfl (hview ▸ hok) hcase.symm (by rw [hcase]; exact hview ▸ hx) hdel
        ⟨by rw [hview], List.forall_mem_singleton.mpr rfl⟩ hcause)
  · intro hu hp w₂ hw₂
    have hview : w₂.view = w.view.put c.caseId (attachedCase x t f) := by
      rw [hw₂, ← hcase]
      exact congrArg (fun V => View.put V (errandOf m w).case (attachedCase x t f)) hw₁'
    have hok₂ : ViewOk S w₂.view := hview ▸ viewOk_act hok (hact hu hp)
    have hgrow₂ : Grows w.view w₂.view := hview ▸ grows_act hok (hact hu hp)
    refine ⟨hok₂, ?_⟩
    intro g₃ h₃
    obtain ⟨x₃, hx₃, hb₃, -⟩ := (hgrow₂.trans (grows_rely h₃.rely)) c.caseId x hx
    have hdel₃ := (h₃.viewOk.case _ _ hx₃).delegated_of_task
      (.inl (Option.isSome_of_mem (hb₃ _ hdel.billingTaskId)))
    have hcase₃ : g₃.phase.case = c.caseId := h₃.case.trans hcase
    refine Coro.obeys_mono (fun _ _ hp => hp.free) (fun _ _ hp => hp.free)
      (obeys_decideIfReady hi h₃.free h₃.viewOk hcase₃.symm (by rw [hcase₃]; exact hx₃) hdel₃
        (h₃.calm _) ?_)
    exact hcause.mono h₃.case fun o ho => h₃.shown (Errand.shown_tell _ _ ho)

/-- A handler of loop `i` keeps to the errand of its message. -/
def RunsErrand (S : Settings) (i : LoopId) (m : Message) (p : M Unit) : Prop :=
  ∀ w, ViewOk S w.view → Obeys S i (fun _ g => g.phase.stage = .free)
    (fun _ g => g.phase.stage = .free) p ⟨errandOf m w, w, [.received m], w⟩

/-- A store operation that changes no record. -/
theorem obeys_park {f : InMemoryCaseStateStore → InMemoryCaseStateStore}
    {Q : Unit → Watching → Prop} {E : String → Watching → Prop}
    (hfree : g.phase.stage = .free) (hf : ∀ st, (f st).cases = st.cases)
    (h : ∀ w', Q () { g with cur := w' }) : Obeys S i Q E (withStore fun st => ((), f st)) g := by
  refine obeys_withStore (p := g.phase) ?_ (fun w' _ => h w')
  intro w' hw'
  have hget : ∀ j, w'.store.get j = g.cur.store.get j := by
    intro j
    rw [hw']
    unfold InMemoryCaseStateStore.get
    rw [hf]
  refine .edit hfree (fun j _ => hget j) ?_
  intro s s' hs hs'
  left
  unfold World.status at hs hs'
  rw [hget, hs] at hs'
  exact Option.some.inj hs'

theorem billingResultHandler_errand (envelope : Inbound BillingRefundAnalysisCompletedPayload) :
    RunsErrand S .billing (.billingResult envelope) (billingResultHandler envelope) := by
  intro w hok
  unfold billingResultHandler
  cases hpay : envelope.payload with
  | none => exact obeys_pure rfl
  | some payload =>
    apply obeys_then
    apply obeys_readStore
    cases hfound : w.store.getByCorrelationId envelope.correlationId with
    | none =>
      refine obeys_park rfl ?_ ?_
      · intro st
        simp only [InMemoryCaseStateStore.parkBillingResult]
      · intro w'
        rfl
    | some c =>
      obtain ⟨hx, hid, -⟩ := found_by_correlation hok hfound
      dsimp only
      cases ht : c.billingTaskId with
      | none => exact obeys_pure rfl
      | some t =>
        have hdel := (hok.case _ _ hx).delegated_of_task (.inl (Option.isSome_of_mem ht))
        refine obeys_attachAndDecide (by decide) hok hid.symm (hid ▸ hx) hdel (fun _ => rfl)
          hid.symm ⟨rfl, hid.symm⟩ ?_
        intro hu hp
        rw [hid]
        exact .attachBilling hx hu ht hp hpay rfl

theorem obeys_escalateHighRisk {envelope : Inbound RiskReviewCompletedPayload}
    {payload : RiskReviewCompletedPayload} {c : ResolutionCase} {t : UUID} {w : World}
    (hpay : envelope.payload = some payload) (hok : ViewOk S w.view)
    (hx : w.view.cases envelope.correlationId = some c.core)
    (hid : c.caseId = envelope.correlationId) (ht : c.riskTaskId = some t) :
    Obeys S .risk (fun _ g => g.phase.stage = .free) (fun _ g => g.phase.stage = .free)
      (escalateHighRisk envelope.ref c (riskFinding payload t))
      ⟨errandOf (.riskResult envelope) w, w, [.received (.riskResult envelope)], w⟩ := by
  have hdel := (hok.case _ _ hx).delegated_of_task (.inr (Option.isSome_of_mem ht))
  unfold escalateHighRisk
  apply obeys_then
  refine obeys_claimDecision (x := c.core) (.inl rfl) hid hx hdel
    ⟨rfl, List.forall_mem_singleton.mpr rfl⟩ ?_ ?_
  · intro _ w' _
    exact obeys_pure rfl
  · intro hu w₁ hw₁
    have hx₁ : w₁.view.cases envelope.correlationId = some { c.core with status := .decided } := by
      rw [hw₁]
      exact View.put_cases_self _ _ _
    rw [if_pos rfl]
    apply obeys_then
    refine obeys_deref (hid ▸ hx₁) ?_
    intro r hr
    have hrid : r.caseId = envelope.correlationId :=
      (congrArg ResolutionCase.caseId hr).trans hid
    have hrcorr : r.correlationId = envelope.correlationId :=
      (congrArg ResolutionCase.correlationId hr).trans (hok.case _ _ hx).correlationId
    apply obeys_then
    refine obeys_assign (y := { c.core with
      status := .decided, riskResult := some (riskFinding payload t) }) rfl hrid hx₁
      (fun _ hr' => congrArg (fun z => { z with riskResult := some (riskFinding payload t) }) hr')
      (.inl rfl) ?_
    intro w₂ hw₂
    have hview : w₂.view = w.view.put envelope.correlationId { c.core with
        status := .decided, riskResult := some (riskFinding payload t) } := by
      rw [hw₂]
      show w₁.view.put _ _ = _
      rw [hw₁]
      exact View.put_put _ _ _ _
    have hclaim : Act S .risk .quiet w.view
        [.received (.riskResult envelope), .claimed envelope.correlationId]
        (.emitting envelope.correlationId (highRiskDecision r (riskFinding payload t)) .highRisk)
        w₂.view := by
      rw [hview]
      exact .claimHighRisk hx hu ht hpay rfl
    have hok₂ : ViewOk S w₂.view := viewOk_act hok hclaim
    obtain ⟨x₂, hx₂, hb₂, -⟩ := grows_act hok hclaim _ _ hx
    apply obeys_then
    refine obeys_emitDecisionAndDraft rfl hok₂ hrid hrcorr hx₂ rfl ?_ ?_
      (fun _ _ h => h.free)
    · exact .inl ⟨.received (.riskResult envelope), by simp [errandOf, Errand.tell], rfl, rfl⟩
    · intro _ ev g₃ h₃ _ _
      have hcase₃ : g₃.phase.case = envelope.correlationId := h₃.case
      obtain ⟨x₃, hx₃, hb₃, -⟩ := grows_rely h₃.rely _ _ hx₂
      have hb₃' : x₃.billingTaskId.isSome :=
        Option.isSome_of_mem (hb₃ _ (hb₂ _ hdel.billingTaskId))
      have hdel₃ := (h₃.viewOk.case _ _ hx₃).delegated_of_task (.inl hb₃')
      rw [← hcase₃] at hx₃
      exact Coro.obeys_mono (fun _ _ h => h.free) (fun _ _ h => h)
        (obeys_finish (s := .escalated) (j := .risk) h₃.free h₃.viewOk (hrid.trans hcase₃.symm)
          hx₃ (.finish (d := highRiskDecision r (riskFinding payload t)) (m := .highRisk)
            (by decide) hx₃ hb₃') hdel₃.escalates)

theorem riskResultHandler_errand (envelope : Inbound RiskReviewCompletedPayload) :
    RunsErrand S .risk (.riskResult envelope) (riskResultHandler envelope) := by
  intro w hok
  unfold riskResultHandler
  cases hpay : envelope.payload with
  | none => exact obeys_pure rfl
  | some payload =>
    apply obeys_then
    apply obeys_readStore
    cases hfound : w.store.getByCorrelationId envelope.correlationId with
    | none =>
      refine obeys_park rfl ?_ ?_
      · intro st
        simp only [InMemoryCaseStateStore.parkRiskResult]
      · intro w'
        rfl
    | some c =>
      obtain ⟨hx, hid, -⟩ := found_by_correlation hok hfound
      dsimp only
      cases ht : c.riskTaskId with
      | none => exact obeys_pure rfl
      | some t =>
        have hdel := (hok.case _ _ hx).delegated_of_task (.inr (Option.isSome_of_mem ht))
        dsimp only
        split
        · exact obeys_escalateHighRisk hpay hok hx hid ht
        · refine obeys_attachAndDecide (by decide) hok hid.symm (hid ▸ hx) hdel (fun _ => rfl)
            hid.symm ⟨rfl, hid.symm⟩ ?_
          intro hu hp
          rw [hid]
          exact .attachRisk hx hu ht hp hpay rfl

/-! ## Generic task results -/

theorem slotFailedCase_shift {x : ResolutionCase} {t : UUID} {b : Bool} (hdel : Delegated S x)
    (hu : undecided x.status = true) :
    x.status = (slotFailedCase x t b).status ∨ Shift g x.status (slotFailedCase x t b).status := by
  have hready : (slotFailedCase x t b).status = .readyForDecision := by
    simp [slotFailedCase, canTransitionToReady_of_undecided hdel hu]
  rw [hready]
  rcases hdel.status_open hu with hs | hs
  · rw [hs]
    exact .inr (.declared rfl)
  · exact .inl hs

theorem obeys_markSlotFailed {c x : ResolutionCase} {t : UUID} {b : Bool} {reason : String}
    {Q : Unit → Watching → Prop} {E : String → Watching → Prop} (hfree : g.phase.stage = .free)
    (hid : c.caseId = g.phase.case) (hx : g.cur.view.cases g.phase.case = some x)
    (hdel : Delegated S x) (hu : undecided x.status = true)
    (h : ∀ r w', r.core = x →
      w'.view = g.cur.view.put g.phase.case (slotFailedCase x t b) →
      Q () ⟨g.phase.tell (.slotFailed r t b), g.base, g.obs ++ [.slotFailed r t b], w'⟩) :
    Obeys S i Q E (markSlotFailed c t b reason) g := by
  unfold markSlotFailed
  apply obeys_then
  apply obeys_datetimeNow
  apply obeys_then
  refine obeys_deref (hid ▸ hx) ?_
  intro r hr
  apply obeys_then
  refine obeys_note (.inl hfree) rfl ?_
  obtain ⟨stored, hstored, hcore⟩ := InMemoryCaseStateStore.view_cases_iff.mp hx
  have hu' : undecided stored.status = true :=
    (congrArg (fun z => undecided (ResolutionCase.status z)) hcore).trans hu
  have hview := InMemoryCaseStateStore.view_markSlotFailed (t := t) b reason g.cur.now hstored hu'
  rw [hcore] at hview
  rw [hid]
  refine obeys_withStore (p := g.phase.tell (.slotFailed r t b)) ?_ ?_
  · intro w' hw'
    refine .put (y := slotFailedCase x t b) rfl ?_ hx ?_ (slotFailedCase_shift hdel hu) hw'
    · intro j hj
      exact (InMemoryCaseStateStore.run_get (.markSlotFailed g.phase.case t b reason g.cur.now)
        g.cur.store j).unchanged fun hk => hj (Option.some.inj hk).symm
    · show (g.cur.store.markSlotFailed g.phase.case t b reason g.cur.now).view.cases _ = _
      rw [hview]
      exact View.put_cases_self _ _ _
  · intro w' hw'
    exact h r w' hr (hw'.trans hview)

/-- The case a task id leads to, and the errand of a result with that task. -/
theorem errandOf_taskResult {w : World} (hok : ViewOk S w.view) {envelope : Inbound TaskResult}
    {result : TaskResult} {c : ResolutionCase} (hpay : envelope.payload = some result)
    (hfound : w.store.getByTaskId result.taskId = some c) :
    (errandOf (.taskResult envelope) w).case = c.caseId := by
  unfold InMemoryCaseStateStore.getByTaskId at hfound
  cases hj : w.store.byTaskId.get? result.taskId with
  | none => rw [hj] at hfound; exact absurd hfound (by simp)
  | some j =>
    rw [hj] at hfound
    have hx := InMemoryCaseStateStore.view_cases_of_get hfound
    have hid : c.caseId = j := (hok.case j _ hx).caseId
    unfold errandOf
    simp only [hpay, hj, Option.getD_some, hid]

theorem resultHandler_errand (envelope : Inbound TaskResult) :
    RunsErrand S .result (.taskResult envelope) (resultHandler S envelope) := by
  intro w hok
  have haudit : ∃ e, Obs.received (.taskResult e) ∈ (errandOf (.taskResult envelope) w).shown ∧
      envelope.ref = e.ref := ⟨envelope, by simp [errandOf], rfl⟩
  unfold resultHandler
  cases hpay : envelope.payload with
  | none => exact obeys_pure rfl
  | some result =>
    apply obeys_then
    apply obeys_readStore
    cases hfound : w.store.getByTaskId result.taskId with
    | none => exact obeys_pure rfl
    | some c =>
      obtain ⟨hx, hids⟩ := found_by_task hok hfound
      have hcase := errandOf_taskResult hok hpay hfound
      have hdel := (hok.case _ _ hx).delegated_of_task
        (hids.imp (fun h => Option.isSome_of_mem h) (fun h => Option.isSome_of_mem h))
      dsimp only
      split
      swap
      · exact obeys_writeTaskAudit rfl hok (.inr haudit) fun g' h => h.free
      rename_i hu
      split
      · exact obeys_writeTaskAudit rfl hok (.inr haudit) fun g' h => h.free
      · rename_i hdual
        have hstatus := not_completed hids hdual
        apply obeys_then
        unfold recordResult
        rw [if_neg hstatus]
        apply obeys_then
        refine obeys_markSlotFailed rfl hcase.symm (hcase ▸ hx) hdel hu ?_
        intro r w₁ hr hw₁
        have hact := slotFailed_act (S := S) hx hr hu hids hpay hstatus
        rw [← hcase] at hact
        rw [← show w₁.view = _ from hw₁] at hact
        have hok₁ : ViewOk S w₁.view := viewOk_act hok hact
        obtain ⟨x₁, hx₁, hb₁, -⟩ := grows_act hok hact _ _ hx
        refine obeys_writeTaskAudit rfl hok₁ (.inr ?_) ?_
        · obtain ⟨e, he, href⟩ := haudit
          exact ⟨e, Errand.shown_tell _ _ he, href⟩
        intro g₂ h₂
        have hcase₂ : g₂.phase.case = c.caseId := h₂.case.trans hcase
        obtain ⟨x₂, hx₂, hb₂, -⟩ := grows_rely h₂.rely _ _ hx₁
        have hdel₂ := (h₂.viewOk.case _ _ hx₂).delegated_of_task
          (.inl (Option.isSome_of_mem (hb₂ _ (hb₁ _ hdel.billingTaskId))))
        apply obeys_then
        refine obeys_deref hx₂ ?_
        intro r₂ hr₂
        have hid₂ : r₂.caseId = c.caseId :=
          (congrArg ResolutionCase.caseId hr₂).trans (h₂.viewOk.case _ _ hx₂).caseId
        split
        · refine Coro.obeys_mono (fun _ _ h => h.free) (fun _ _ h => h.free)
            (obeys_applyDecision (by decide) (.inl h₂.free) h₂.viewOk (hid₂.trans hcase₂.symm)
              (by rw [hcase₂]; exact hx₂) hdel₂ (h₂.calm _) ?_)
          refine .inl ⟨.received (.taskResult envelope), ?_, rfl, result, hpay, ?_⟩
          · refine Errand.shown_tell _ _ (h₂.shown (Errand.shown_tell _ _ ?_))
            simp [errandOf]
          · show result.taskId = billingTaskOf S g₂.phase.case ∨
              result.taskId = riskTaskOf S g₂.phase.case
            have hk : c.core.correlationId = g₂.phase.case :=
              (hok.case _ _ hx).correlationId.trans hcase₂.symm
            rw [← hk]
            rcases hids with h | h
            · exact .inl (Option.some.inj (h.symm.trans hdel.billingTaskId))
            · exact .inr (Option.some.inj (h.symm.trans hdel.riskTaskId))
        · exact obeys_pure h₂.free

end RefundOps.Resolution
