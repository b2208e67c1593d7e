import RefundOps.Resolution.Protocol.Operations

/-!
# The result handlers keep the protocol

One lemma for each program the result handlers are made of. A program that may be called in the
middle of a handler is given the phase it is called in (`Acc`) and leaves `Left` behind: the
stretch is accounted for, the loop owes nothing, and no record was lost on the way. The intake
loop is `IntakeConformance`; `ServiceConformance` puts the five loops together.
-/

set_option autoImplicit false

namespace RefundOps.Resolution

variable {S : Settings} {i : LoopId} {g : Stretch} {k : UUID}

theorem wp_then {α β : Type} {m : M α} {f : α → M β} {Q : β → Stretch → Prop}
    {E : String → Stretch → Prop} (h : Wp S i (fun a g' => Wp S i Q E (f a) g') E m g) :
    Wp S i Q E (m >>= f) g :=
  Coro.wp_bind.mpr h

/-- What a program leaves when it is done with its case. -/
structure Left (S : Settings) (i : LoopId) (V : View) (g : Stretch) : Prop where
  settled : Coro.Settled (protocol S) i g
  viewOk : ViewOk S g.cur.view
  grows : Grows V g.cur.view

theorem Left.of_acc (hacc : Acc S i g .quiet) (hok : ViewOk S g.cur.view) {V : View}
    (hg : Grows V g.cur.view) : Left S i V g :=
  ⟨hacc, hok, hg⟩

/-! ## What means nothing to a case -/

theorem received_minor (m : Message) : ∀ o ∈ [Obs.received m], o.Minor :=
  List.forall_mem_singleton.mpr trivial

/-- An event on the broker, unless it is a decision. -/
theorem published_minor {ev : OutEvent} {payload : OutPayload} (hp : ev.payload = payload)
    (hd : ∀ d, payload ≠ .resolutionDecided d) : ∀ o ∈ [Obs.published ev], o.Minor := by
  rw [List.forall_mem_singleton]
  intro d hev
  exact hd d (hp.symm.trans hev)

/-! ## Emission -/

theorem wp_emitDecisionAndDraft {c : ResolutionCase} {d : CustomerResponseDecisionPayload}
    {m : Emission} {causationId : UUID} {Q : OutEvent → Stretch → Prop}
    {E : String → Stretch → Prop} (hacc : Acc S i g (.emitting k d m))
    (hok : ViewOk S g.cur.view) (hid : c.caseId = k) (hcorr : c.correlationId = k)
    {x : ResolutionCase} (hx : g.cur.view.cases k = some x)
    (hd : d.customerResponse = draftCustomerResponse d.outcome)
    (hQ : ∀ ev w' w'' os, (protocol S).Rely i g.cur w' → ViewOk S w'.view → w''.view = w'.view →
      (∀ o ∈ os, o.Minor) → Q ev ⟨.emitted k d m, w', os, w''⟩)
    (hE : ∀ e g', Left S i g.cur.view g' → E e g') :
    Wp S i Q E (emitDecisionAndDraft c d causationId) g := by
  unfold emitDecisionAndDraft
  apply wp_then
  refine wp_publish hacc hok ?_ ?_ ?_
  · intro ev hp hk
    exact ⟨hk.trans hcorr, .inl ⟨d, hp⟩⟩
  · intro w₁ ev hr₁ hi₁ hp hk
    obtain ⟨x₁, hx₁, -⟩ := grows_rely hr₁ k x hx
    apply wp_then
    refine wp_assign_minor (hid ▸ hx₁) (fun _ => rfl) ?_
    intro w₂ hw₂
    have hpub : Acc S i ⟨.emitting k d m, w₁, [.published ev], w₂⟩ (.emitted k d m) := by
      apply Protocol.Acts.single
      show Act S i _ w₁.view _ _ w₂.view
      rw [hw₂]
      exact .published hp (hk.trans hcorr)
    have hi₂ : ViewOk S w₂.view := hw₂ ▸ hi₁
    apply wp_then
    refine wp_writeTaskAudit hpub hi₂ ?_ ?_
    · intro id a ho hout
      exact ⟨by rw [ho]; exact hk.trans hcorr, hout⟩
    · intro w₃ hr₃ hi₃
      have hrely₃ : (protocol S).Rely i g.cur w₃ :=
        hr₁.trans ((rely_of_view hi₁ hw₂).trans hr₃)
      apply wp_then
      apply wp_datetimeNow
      dsimp only
      rw [if_pos (draftFor_valid hd _ _ _)]
      apply wp_then
      refine wp_publish (Acc.start (.emitted k d m) w₃ (by simp)) hi₃ ?_ ?_ ?_
      · intro ev' hp' hk'
        exact ⟨hk'.trans hcorr, .inr ⟨_, hp'⟩⟩
      · intro w₄ ev' hr₄ hi₄ hp' hk'
        obtain ⟨x₄, hx₄, -⟩ := grows_rely (hrely₃.trans hr₄) k x hx
        apply wp_then
        refine wp_assign_minor (hid ▸ hx₄) (fun _ => rfl) ?_
        intro w₅ hw₅
        exact hQ ev w₄ w₅ _ (hrely₃.trans hr₄) hi₄ hw₅ (published_minor hp' (by simp))
      · intro w₄ ev' e hr₄ hi₄ hp' hk'
        refine hE e _ ⟨?_, hi₄, grows_rely (hrely₃.trans hr₄)⟩
        exact Protocol.Acts.single (Act.draftFailed hp' (hk'.trans hcorr))
  · intro w₁ ev e hr₁ hi₁ hp hk
    refine hE e _ ⟨?_, hi₁, grows_rely hr₁⟩
    exact Protocol.Acts.single (Act.publishFailed hp (hk.trans hcorr))

/-- The last two statements of every emission: the final status, saved. -/
theorem wp_finish {c x : ResolutionCase} {w w' : World} {p : Phase} {os : List Obs}
    {s : CaseStatus} {E : String → Stretch → Prop} (hok : ViewOk S w.view)
    (hw : w'.view = w.view) (hos : ∀ o ∈ os, o.Minor) (hid : c.caseId = k)
    (hx : w.view.cases k = some x)
    (hact : Act S i p w.view [] .quiet (w.view.put k { x with status := s })) :
    Wp S i (fun _ => Left S i w.view) E
      (do assign c (fun c => { c with status := s }); save c) ⟨p, w, os, w'⟩ := by
  have hx' : w'.view.cases k = some x := hw ▸ hx
  have hcase := hok.case k x hx
  apply wp_then
  refine wp_assign (y := { x with status := s }) (hid ▸ hx') (fun r hr => by rw [← hr]; rfl) ?_
  intro w₁ hw₁
  rw [hid, show (⟨p, w, os, w'⟩ : Stretch).cur = w' from rfl, hw] at hw₁
  have hacc₁ : Acc S i ⟨p, w, os, w₁⟩ .quiet := by
    refine (Acc.start p w hos).quietly ?_
    show Act S i p w.view [] .quiet w₁.view
    rw [hw₁]
    exact hact
  have hx₁ : w₁.view.cases k = some { x with status := s } := by
    rw [hw₁]
    exact View.put_cases_self _ _ _
  subst hid
  refine wp_save hx₁ hcase.caseId ?_ ?_
  · show w₁.view.byCorrelation x.correlationId = some x.caseId
    rw [hw₁, hcase.correlationId, hcase.caseId]
    exact hok.indexed _ x hx
  · intro w₂ hw₂
    have hok₁ : ViewOk S w₁.view := hw₁ ▸ viewOk_act hok hact
    refine .of_acc (hacc₁.silent hw₂) (hw₂ ▸ hok₁) ?_
    show Grows w.view w₂.view
    rw [hw₂]
    show Grows w.view w₁.view
    rw [hw₁]
    exact grows_act hok hact

/-! ## Claiming and deciding -/

theorem wp_claimDecision {c x : ResolutionCase} {Q : Bool → Stretch → Prop}
    {E : String → Stretch → Prop} (hx : g.cur.view.cases c.caseId = some x)
    (hlost : undecided x.status = false → ∀ w', w'.view = g.cur.view →
      Q false { g with cur := w' })
    (hwon : undecided x.status = true → ∀ w',
      w'.view = g.cur.view.put c.caseId { x with status := .decided } →
      Q true { g with obs := g.obs ++ [.claimed c.caseId], cur := w' }) :
    Wp S i Q E (claimDecision c) g := by
  obtain ⟨r, hr, rfl⟩ := InMemoryCaseStateStore.view_cases_iff.mp hx
  unfold claimDecision
  apply wp_then
  apply wp_datetimeNow
  apply wp_then
  apply wp_withStore
  intro w' hw'
  cases hu : undecided r.status with
  | false =>
    have hlost' := InMemoryCaseStateStore.claimDecision_lost g.cur.now hr hu
    rw [hlost'] at hw' ⊢
    exact hlost hu w' hw'
  | true =>
    obtain ⟨hres, hview⟩ := InMemoryCaseStateStore.claimDecision_won g.cur.now hr hu
    rw [hres]
    rw [hview] at hw'
    exact hwon hu w' hw'

theorem wp_applyDecision (causationId : UUID) {c x : ResolutionCase} {p : Phase}
    (hi : i ≠ .intake) (hacc : Acc S i g p) (hp : p = .quiet ∨ p = .owing k) (hok : ViewOk S g.cur.view)
    (hid : c.caseId = k) (hx : g.cur.view.cases k = some x) (hb : x.billingTaskId.isSome) :
    Wp S i (fun _ => Left S i g.cur.view) (fun _ => Left S i g.cur.view)
      (applyDecision c causationId) g := by
  unfold applyDecision
  apply wp_then
  refine wp_claimDecision (hid ▸ hx) ?_ ?_
  · -- somebody else decides: whatever was owed is released
    intro hu w' hw'
    refine .of_acc ?_ (hw' ▸ hok) (by show Grows _ w'.view; rw [hw']; exact .refl _)
    have hacc' := hacc.silent hw'
    rcases hp with rfl | rfl
    · exact hacc'
    · refine hacc'.quietly ?_
      exact .release (by show w'.view.cases k = _; rw [hw']; exact hx) (.inl hu)
  · intro hu w₁ hw₁
    rw [hid] at hw₁
    have hx₁ : w₁.view.cases k = some { x with status := .decided } := by
      rw [hw₁]
      exact View.put_cases_self _ _ _
    rw [if_pos rfl]
    apply wp_then
    refine wp_deref (hid ▸ hx₁) ?_
    intro r hr
    apply wp_then
    apply wp_datetimeNow
    have hclaim : ∀ now, Act S i p g.cur.view
        [.claimed k, .decisionTaken r now (decisionOn r now)]
        (.emitting k (decisionOn r now) .claimed) w₁.view := by
      intro now
      rw [hw₁]
      exact .claim hi hp hx hb hu hr
    have hok₁ : ViewOk S w₁.view := viewOk_act hok (hclaim 0)
    have hgrow₁ : Grows g.cur.view w₁.view := grows_act hok (hclaim 0)
    have hcase := hok₁.case k _ hx₁
    have hrid : r.caseId = k := (congrArg ResolutionCase.caseId hr).trans hcase.caseId
    have hrcorr : r.correlationId = k :=
      (congrArg ResolutionCase.correlationId hr).trans hcase.correlationId
    dsimp only
    apply wp_then
    rw [Wp, Coro.wp_observe]
    apply wp_then
    refine wp_emitDecisionAndDraft (k := k) (m := .claimed) ?_ hok₁ hrid hrcorr hx₁
      decide_customerResponse ?_ ?_
    · have hstep := hacc.step (hclaim w₁.now)
      simpa [Acc, hid] using hstep
    · intro ev w₂ w₃ os hr₂ hok₂ hw₃ hos
      obtain ⟨x₂, hx₂, hb₂, -⟩ := grows_rely hr₂ k _ hx₁
      have hb₂' : x₂.billingTaskId.isSome := by
        obtain ⟨t, ht⟩ := Option.isSome_iff_exists.mp hb
        exact Option.isSome_iff_exists.mpr ⟨t, hb₂ t ht⟩
      refine Coro.wp_mono ?_ (fun _ _ h => h)
        (wp_finish (s := .decided) hok₂ hw₃ hos hrid hx₂ (.finish (by decide) hx₂ hb₂'))
      intro _ g' hleft
      exact ⟨hleft.settled, hleft.viewOk, hgrow₁.trans ((grows_rely hr₂).trans hleft.grows)⟩
    · intro e g' hleft
      exact ⟨hleft.settled, hleft.viewOk, hgrow₁.trans hleft.grows⟩

/-- Leaving a case undecided is allowed where it is not ready or somebody else decides. -/
theorem Acc.release {p : Phase} {x : ResolutionCase} (hacc : Acc S i g p)
    (hp : p = .quiet ∨ p = .owing k) (hx : g.cur.view.cases k = some x)
    (h : undecided x.status = false ∨ x.isReadyToDecide = false) : Acc S i g .quiet := by
  rcases hp with rfl | rfl
  · exact hacc
  · exact hacc.quietly (.release hx h)

theorem wp_decideIfReady (causationId : UUID) {c x : ResolutionCase} {p : Phase}
    (hi : i ≠ .intake) (hacc : Acc S i g p) (hp : p = .quiet ∨ p = .owing k) (hok : ViewOk S g.cur.view)
    (hid : c.caseId = k) (hx : g.cur.view.cases k = some x) (hb : x.billingTaskId.isSome) :
    Wp S i (fun _ => Left S i g.cur.view) (fun _ => Left S i g.cur.view)
      (decideIfReady c causationId) g := by
  unfold decideIfReady
  apply wp_then
  refine wp_deref (hid ▸ hx) ?_
  intro r hr
  have hrid : r.caseId = k :=
    (congrArg ResolutionCase.caseId hr).trans (hok.case k x hx).caseId
  by_cases hready : r.isReadyToDecide = true ∧ undecided r.status = true
  · rw [if_pos hready]
    exact wp_applyDecision causationId hi hacc hp hok hrid hx hb
  · rw [if_neg hready]
    refine .of_acc (hacc.release hp hx ?_) hok (.refl _)
    rw [← hr]
    by_cases hu : undecided r.status = true
    · exact .inr (Bool.eq_false_iff.mpr fun h => hready ⟨h, hu⟩)
    · exact .inl (Bool.eq_false_iff.mpr hu)

/-! ## Domain results -/

theorem wp_applyResult {c x : ResolutionCase} {t : UUID} {f : Finding} {envelope : EventRef}
    {Q : Unit → Stretch → Prop} {E : String → Stretch → Prop}
    (hx : g.cur.view.cases c.caseId = some x)
    (hdup : ∀ w', w'.view = g.cur.view → Q () { g with cur := w' })
    (hatt : undecided x.status = true → t ∈ x.pendingTasks → ∀ w',
      w'.view = g.cur.view.put c.caseId (attachedCase x t f) →
      Wp S i Q E (writeTaskAudit envelope .completed (some t) none)
        { g with obs := g.obs ++ [.attached envelope c.caseId t f], cur := w' }) :
    Wp S i Q E (applyResult envelope c t f) g := by
  obtain ⟨r, hr, rfl⟩ := InMemoryCaseStateStore.view_cases_iff.mp hx
  unfold applyResult
  apply wp_then
  apply wp_datetimeNow
  apply wp_then
  apply wp_withStore
  intro w' hw'
  by_cases hatt' : undecided r.status = true ∧ t ∈ r.pendingTasks
  · obtain ⟨hres, hview⟩ := InMemoryCaseStateStore.applyResult_attached f g.cur.now
      hr hatt'.1 hatt'.2
    rw [hres, if_pos rfl]
    rw [hview] at hw'
    apply wp_then
    rw [Wp, Coro.wp_observe]
    exact hatt hatt'.1 hatt'.2 w' hw'
  · have hres := InMemoryCaseStateStore.applyResult_duplicate f g.cur.now hr hatt'
    rw [hres] at hw' ⊢
    rw [if_neg (by simp)]
    exact hdup w' hw'

/-- The common end of the two domain handlers: attach the finding and decide if that was the
    last one. -/
theorem wp_attachAndDecide {c x : ResolutionCase} {t : UUID} {f : Finding} {envelope : EventRef}
    {m : Message} {w : World} {h : ResolutionCase → ResolutionCase} {causationId : UUID}
    (hi : i ≠ .intake) (hok : ViewOk S w.view) (hid : c.caseId = k)
    (hx : w.view.cases k = some x) (hb : x.billingTaskId.isSome) (hminor : ∀ r, (h r).core = r.core)
    (hact : undecided x.status = true → t ∈ x.pendingTasks →
      Act S i .quiet w.view [.received m, .attached envelope k t f] (.owing k)
        (w.view.put k (attachedCase x t f))) :
    Wp S i (fun _ => Left S i w.view) (fun _ => Left S i w.view)
      (do assign c h; applyResult envelope c t f; decideIfReady c causationId)
      ⟨.quiet, w, [.received m], w⟩ := by
  subst hid
  apply wp_then
  refine wp_assign_minor hx hminor ?_
  intro w₁ hw₁
  have hx₁ : w₁.view.cases c.caseId = some x := hw₁ ▸ hx
  have hok₁ : ViewOk S w₁.view := hw₁ ▸ hok
  apply wp_then
  refine wp_applyResult hx₁ ?_ ?_
  · intro w₂ hw₂
    have hview : w₂.view = w.view := hw₂.trans hw₁
    have hstart : Acc S i ⟨.quiet, w, [.received m], w⟩ .quiet :=
      .start .quiet w (by simp [Obs.Minor])
    have hdone := wp_decideIfReady causationId (c := c) (k := c.caseId) hi
      (hstart.silent hview) (.inl rfl) (hview ▸ hok) rfl (hview ▸ hx) hb
    simpa only [hview] using hdone
  · intro hu hp w₂ hw₂
    have hview : w₂.view = w.view.put c.caseId (attachedCase x t f) := by
      rw [hw₂]
      exact congrArg (fun V => View.put V c.caseId (attachedCase x t f)) hw₁
    have hacc : Acc S i ⟨.quiet, w, [.received m, .attached envelope c.caseId t f], w₂⟩
        (.owing c.caseId) := by
      apply Protocol.Acts.single
      show Act S i _ w.view _ _ w₂.view
      rw [hview]
      exact hact hu hp
    have hok₂ : ViewOk S w₂.view := hview ▸ viewOk_act hok (hact hu hp)
    have hgrow₂ : Grows w.view w₂.view := hview ▸ grows_act hok (hact hu hp)
    refine wp_writeTaskAudit hacc hok₂ (fun _ _ _ _ => trivial) ?_
    intro w₃ hr₃ hok₃
    obtain ⟨x₃, hx₃, hb₃, -⟩ := (hgrow₂.trans (grows_rely hr₃)) c.caseId x hx
    have hb₃' : x₃.billingTaskId.isSome := by
      obtain ⟨b, hb'⟩ := Option.isSome_iff_exists.mp hb
      exact Option.isSome_iff_exists.mpr ⟨b, hb₃ b hb'⟩
    have hdone := wp_decideIfReady causationId (c := c) (k := c.caseId) hi
      (Acc.resume (S := S) (i := i) (.owing c.caseId) w₃) (.inr rfl) hok₃ rfl hx₃ hb₃'
    refine Coro.wp_mono ?_ ?_ hdone
    · intro _ g' hleft
      exact ⟨hleft.settled, hleft.viewOk, hgrow₂.trans ((grows_rely hr₃).trans hleft.grows)⟩
    · intro _ g' hleft
      exact ⟨hleft.settled, hleft.viewOk, hgrow₂.trans ((grows_rely hr₃).trans hleft.grows)⟩

/-- The record a correlation id leads to. -/
theorem found_by_correlation {w : World} (hok : ViewOk S w.view) {c : ResolutionCase}
    (h : w.store.getByCorrelationId k = some c) :
    w.view.cases k = some c.core ∧ c.caseId = k ∧ c.correlationId = k := by
  unfold InMemoryCaseStateStore.getByCorrelationId at h
  cases hj : w.store.byCorrelation.get? k with
  | none => rw [hj] at h; exact absurd h (by simp)
  | some j =>
    rw [hj] at h
    obtain rfl := hok.correlation k j hj
    have hx := InMemoryCaseStateStore.view_cases_of_get h
    exact ⟨hx, (hok.case j _ hx).caseId, (hok.case j _ hx).correlationId⟩

/-- A handler that leaves its message alone. -/
theorem settled_of_view {w w' : World} {os : List Obs} (hos : ∀ o ∈ os, o.Minor)
    (hw : w'.view = w.view) : Coro.Settled (protocol S) i ⟨.quiet, w, os, w'⟩ :=
  (Acc.start .quiet w hos).silent hw

theorem billingResultHandler_conforms
    (envelope : Inbound BillingRefundAnalysisCompletedPayload) :
    (billingResultHandler envelope).Conforms (protocol S) .billing
      [.received (.billingResult envelope)] := by
  intro w hok
  unfold billingResultHandler
  cases hpay : envelope.payload with
  | none => exact settled_of_view (received_minor _) rfl
  | some payload =>
    apply wp_then
    apply wp_readStore
    cases hfound : w.store.getByCorrelationId envelope.correlationId with
    | none =>
      apply wp_withStore
      intro w' hw'
      exact settled_of_view (received_minor _)
        (hw'.trans (InMemoryCaseStateStore.view_parkBillingResult _ _ _))
    | some c =>
      obtain ⟨hx, hid, -⟩ := found_by_correlation hok hfound
      dsimp only
      cases ht : c.billingTaskId with
      | none => exact settled_of_view (received_minor _) rfl
      | some t =>
        have hb : c.core.billingTaskId.isSome := Option.isSome_of_mem ht
        refine Coro.wp_mono (fun _ _ h => h.settled) (fun _ _ h => h.settled)
          (wp_attachAndDecide (by decide) hok hid hx hb (fun _ => rfl) ?_)
        intro hu hp
        exact .attachBilling hx hu ht hp hpay rfl

theorem wp_escalateHighRisk {envelope : Inbound RiskReviewCompletedPayload}
    {payload : RiskReviewCompletedPayload} {c : ResolutionCase} {t : UUID} {w : World}
    (hpay : envelope.payload = some payload) (hok : ViewOk S w.view)
    (hx : w.view.cases envelope.correlationId = some c.core)
    (hid : c.caseId = envelope.correlationId) (hu : undecided c.status = true)
    (ht : c.riskTaskId = some t) :
    Wp S .risk (fun _ => Coro.Settled (protocol S) .risk) (fun _ => Coro.Settled (protocol S) .risk)
      (escalateHighRisk envelope.ref c (riskFinding payload t))
      ⟨.quiet, w, [.received (.riskResult envelope)], w⟩ := by
  have hdel := (hok.case _ _ hx).delegated_of_task (.inr (Option.isSome_of_mem ht))
  unfold escalateHighRisk
  apply wp_then
  refine wp_claimDecision (x := c.core) (hid ▸ hx) ?_ ?_
  · intro hno
    exact absurd (hu.symm.trans hno) (by simp)
  · intro _ w₁ hw₁
    rw [if_pos rfl]
    have hx₁ : w₁.view.cases c.caseId = some { c.core with status := .decided } := by
      rw [hw₁]
      exact View.put_cases_self _ _ _
    apply wp_then
    refine wp_deref hx₁ ?_
    intro r hr
    have hrid : r.caseId = c.caseId := (congrArg ResolutionCase.caseId hr).trans rfl
    have hrcorr : r.correlationId = envelope.correlationId :=
      (congrArg ResolutionCase.correlationId hr).trans (hok.case _ _ hx).correlationId
    apply wp_then
    refine wp_assign (y := { c.core with
      status := .decided, riskResult := some (riskFinding payload t) })
      (hrid ▸ hx₁)
      (fun _ hr' => congrArg (fun z => { z with riskResult := some (riskFinding payload t) }) hr') ?_
    intro w₂ hw₂
    have hclaim : Act S .risk .quiet w.view
        [.received (.riskResult envelope), .claimed envelope.correlationId]
        (.emitting envelope.correlationId (highRiskDecision r (riskFinding payload t)) .highRisk)
        w₂.view := by
      have hview : w₂.view = w.view.put envelope.correlationId { c.core with
          status := .decided, riskResult := some (riskFinding payload t) } := by
        rw [hw₂, hrid, hid]
        show w₁.view.put _ _ = _
        rw [hw₁, hid, View.put_put]
      rw [hview]
      exact .claimHighRisk hx hu ht hpay rfl
    have hok₂ : ViewOk S w₂.view := viewOk_act hok hclaim
    obtain ⟨x₂, hx₂, hb₂, -⟩ := grows_act hok hclaim _ _ hx
    apply wp_then
    refine wp_emitDecisionAndDraft (k := envelope.correlationId) (m := .highRisk) ?_ hok₂
      (hrid.trans hid) hrcorr hx₂ rfl ?_ ?_
    · have hacc : Acc S .risk ⟨.quiet, w,
          [.received (.riskResult envelope), .claimed envelope.correlationId], w₂⟩ _ :=
        Protocol.Acts.single hclaim
      simpa [Acc, hid] using hacc
    · intro ev w₃ w₄ os hr₃ hok₃ hw₄ hos
      obtain ⟨x₃, hx₃, hb₃, -⟩ := grows_rely hr₃ _ _ hx₂
      have hb₃' : x₃.billingTaskId.isSome :=
        Option.isSome_of_mem (hb₃ _ (hb₂ _ hdel.billingTaskId))
      refine Coro.wp_mono (fun _ _ h => h.settled) (fun _ _ h => h)
        (wp_finish (s := .escalated) hok₃ hw₄ hos (hrid.trans hid) hx₃ ?_)
      exact .finish (m := .highRisk) (by decide) hx₃ hb₃'
    · intro e g' hleft
      exact hleft.settled

theorem riskResultHandler_conforms (envelope : Inbound RiskReviewCompletedPayload) :
    (riskResultHandler envelope).Conforms (protocol S) .risk
      [.received (.riskResult envelope)] := by
  intro w hok
  unfold riskResultHandler
  cases hpay : envelope.payload with
  | none => exact settled_of_view (received_minor _) rfl
  | some payload =>
    apply wp_then
    apply wp_readStore
    cases hfound : w.store.getByCorrelationId envelope.correlationId with
    | none =>
      apply wp_withStore
      intro w' hw'
      exact settled_of_view (received_minor _)
        (hw'.trans (InMemoryCaseStateStore.view_parkRiskResult _ _ _))
    | some c =>
      obtain ⟨hx, hid, -⟩ := found_by_correlation hok hfound
      dsimp only
      cases ht : c.riskTaskId with
      | none => exact settled_of_view (received_minor _) rfl
      | some t =>
        dsimp only
        have hdel := (hok.case _ _ hx).delegated_of_task (.inr (Option.isSome_of_mem ht))
        split
        · rename_i hhigh
          exact wp_escalateHighRisk hpay hok hx hid hhigh.2.2 ht
        · refine Coro.wp_mono (fun _ _ h => h.settled) (fun _ _ h => h.settled)
            (wp_attachAndDecide (by decide) hok hid hx (Option.isSome_of_mem hdel.billingTaskId)
              (fun _ => rfl) ?_)
          intro hu hp
          exact .attachRisk hx hu ht hp hpay rfl

/-! ## Generic task results -/

theorem found_by_task {w : World} (hok : ViewOk S w.view) {t : UUID} {c : ResolutionCase}
    (h : w.store.getByTaskId t = some c) :
    w.view.cases c.caseId = some c.core ∧
      (c.billingTaskId = some t ∨ c.riskTaskId = some t) := by
  unfold InMemoryCaseStateStore.getByTaskId at h
  cases hj : w.store.byTaskId.get? t with
  | none => rw [hj] at h; exact absurd h (by simp)
  | some j =>
    rw [hj] at h
    have hx := InMemoryCaseStateStore.view_cases_of_get h
    obtain ⟨x, hx', hids⟩ := hok.task t j hj
    obtain rfl : c.core = x := Option.some.inj (hx.symm.trans hx')
    have hid : c.caseId = j := (hok.case j _ hx).caseId
    exact ⟨hid ▸ hx, hids⟩

/-- A result that is not left to a domain handler is a failure: its task is the case's own. -/
theorem not_completed {c : ResolutionCase} {result : TaskResult}
    (hids : c.billingTaskId = some result.taskId ∨ c.riskTaskId = some result.taskId)
    (h : ¬ (result.status = .completed ∧
      (c.billingTaskId == some result.taskId ∨ c.riskTaskId == some result.taskId))) :
    result.status ≠ .completed := by
  intro hs
  refine h ⟨hs, ?_⟩
  rcases hids with hid | hid
  · exact .inl (by simp [hid])
  · exact .inr (by simp [hid])

/-- The failure of a task that its case still waits for. -/
theorem slotFailed_act {V : View} {c r : ResolutionCase} {envelope : Inbound TaskResult}
    {result : TaskResult} (hx : V.cases c.caseId = some c.core) (hr : r.core = c.core)
    (hu : undecided c.status = true)
    (hids : c.billingTaskId = some result.taskId ∨ c.riskTaskId = some result.taskId)
    (hpay : envelope.payload = some result) (hstatus : result.status ≠ .completed) :
    Act S .result .quiet V
      [.received (.taskResult envelope),
        .slotFailed r result.taskId (c.billingTaskId == some result.taskId)] (.owing c.caseId)
      (V.put c.caseId
        (slotFailedCase c.core result.taskId (c.billingTaskId == some result.taskId))) := by
  have hrb : r.billingTaskId = c.billingTaskId :=
    (congrArg ResolutionCase.billingTaskId hr).trans rfl
  have hrr : r.riskTaskId = c.riskTaskId := (congrArg ResolutionCase.riskTaskId hr).trans rfl
  have hru : undecided r.status = true :=
    (congrArg (fun z => undecided (ResolutionCase.status z)) hr).trans hu
  rw [← hr, ← hrb]
  exact .slotFailed (hr ▸ hx) hru (by rw [hrb, hrr]; exact hids) hpay hstatus

theorem wp_markSlotFailed {c x : ResolutionCase} {t : UUID} {b : Bool} {reason : String}
    {Q : Unit → Stretch → Prop} {E : String → Stretch → Prop}
    (hx : g.cur.view.cases c.caseId = some x) (hu : undecided x.status = true)
    (h : ∀ r w', r.core = x → w'.view = g.cur.view.put c.caseId (slotFailedCase x t b) →
      Q () { g with obs := g.obs ++ [.slotFailed r t b], cur := w' }) :
    Wp S i Q E (markSlotFailed c t b reason) g := by
  unfold markSlotFailed
  apply wp_then
  apply wp_datetimeNow
  apply wp_then
  refine wp_deref hx ?_
  intro r hr
  apply wp_then
  rw [Wp, Coro.wp_observe]
  apply wp_withStore
  intro w' hw'
  obtain ⟨stored, hstored, hcore⟩ := InMemoryCaseStateStore.view_cases_iff.mp hx
  have hu' : undecided stored.status = true :=
    (congrArg (fun z => undecided (ResolutionCase.status z)) hcore).trans hu
  have hview := InMemoryCaseStateStore.view_markSlotFailed (t := t) b reason g.cur.now hstored hu'
  rw [hcore] at hview
  exact h r w' hr (Eq.trans hw' hview)

/-- What follows the failure: the case is decided if that made it ready. -/
theorem wp_decideOwed {c x : ResolutionCase} {causationId : UUID} (hi : i ≠ .intake)
    (hacc : Acc S i g (.owing c.caseId)) (hok : ViewOk S g.cur.view)
    (hx : g.cur.view.cases c.caseId = some x) (hb : x.billingTaskId.isSome) :
    Wp S i (fun _ => Coro.Settled (protocol S) i) (fun _ => Coro.Settled (protocol S) i)
      (do
        let c ← deref c
        if c.isReadyToDecide then applyDecision c causationId) g := by
  apply wp_then
  refine wp_deref hx ?_
  intro r hr
  have hid : r.caseId = c.caseId :=
    (congrArg ResolutionCase.caseId hr).trans (hok.case _ _ hx).caseId
  split
  · exact Coro.wp_mono (fun _ _ h => h.settled) (fun _ _ h => h.settled)
      (wp_applyDecision _ hi hacc (.inr rfl) hok hid hx hb)
  · rename_i hready
    refine hacc.release (.inr rfl) hx (.inr ?_)
    rw [← hr]
    exact Bool.eq_false_iff.mpr hready

theorem resultHandler_conforms (envelope : Inbound TaskResult) :
    (resultHandler S envelope).Conforms (protocol S) .result
      [.received (.taskResult envelope)] := by
  intro w hok
  have hquiet : Acc S .result ⟨.quiet, w, [.received (.taskResult envelope)], w⟩ .quiet :=
    .start .quiet w (received_minor _)
  unfold resultHandler
  cases hpay : envelope.payload with
  | none => exact settled_of_view (received_minor _) rfl
  | some result =>
    apply wp_then
    apply wp_readStore
    cases hfound : w.store.getByTaskId result.taskId with
    | none => exact settled_of_view (received_minor _) rfl
    | some c =>
      obtain ⟨hx, hids⟩ := found_by_task hok hfound
      dsimp only
      split
      swap
      · refine wp_writeTaskAudit hquiet hok (fun _ _ _ _ => trivial) ?_
        intro w' _ _
        exact Acc.resume .quiet w'
      rename_i hu
      split
      · refine wp_writeTaskAudit hquiet hok (fun _ _ _ _ => trivial) ?_
        intro w' _ _
        exact Acc.resume .quiet w'
      · rename_i hdual
        have hstatus := not_completed hids hdual
        apply wp_then
        unfold recordResult
        rw [if_neg hstatus]
        apply wp_then
        refine wp_markSlotFailed hx hu ?_
        intro r w₁ hr hw₁
        have hact := slotFailed_act (S := S) hx hr hu hids hpay hstatus
        rw [← hw₁] at hact
        have hok₁ : ViewOk S w₁.view := viewOk_act hok hact
        obtain ⟨x₁, hx₁, hb₁, -⟩ := grows_act hok hact _ _ hx
        have hdel := (hok.case _ _ hx).delegated_of_task
          (hids.imp (fun h => Option.isSome_of_mem h) (fun h => Option.isSome_of_mem h))
        have hacc : Acc S .result ⟨.quiet, w, [.received (.taskResult envelope),
            .slotFailed r result.taskId (c.billingTaskId == some result.taskId)], w₁⟩
            (.owing c.caseId) := Protocol.Acts.single hact
        refine wp_writeTaskAudit hacc hok₁ (fun _ _ _ _ => trivial) ?_
        intro w₂ hr₂ hok₂
        obtain ⟨x₂, hx₂, hb₂, -⟩ := grows_rely hr₂ _ _ hx₁
        exact wp_decideOwed (by decide) (.resume _ _) hok₂ hx₂
          (Option.isSome_of_mem (hb₂ _ (hb₁ _ hdel.billingTaskId)))

end RefundOps.Resolution
