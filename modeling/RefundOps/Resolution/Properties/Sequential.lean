import RefundOps.Resolution.Properties.Decisions
import RefundOps.Resolution.Protocol.Views

/-!
# A result handler alone

What the three result handlers do to a case when nothing else runs meanwhile and the broker takes
every publication: a function of the record. `attachIf` is what becomes of it when a finding
arrives, `settleCase` decides it if it is ready, and each handler is these two in a row; the risk
handler has the immediate escalation before them. The decisions that are published are exactly
the ones these functions return.
-/

set_option autoImplicit false

namespace RefundOps.Resolution

/-! ## The functions of a record -/

/-- The record after a finding for the task `t` arrived. -/
def attachIf (x : ResolutionCase) (t : UUID) (f : Finding) : ResolutionCase :=
  if undecided x.status = true ∧ t ∈ x.pendingTasks then attachedCase x t f else x

/-- The decision on a record that is ready, and the record after it. -/
def settleCase (x : ResolutionCase) (now : Time) :
    List CustomerResponseDecisionPayload × ResolutionCase :=
  if x.isReadyToDecide = true ∧ undecided x.status = true then
    ([decisionOn x now], { x with status := .decided })
  else ([], x)

/-- A billing payload for the task `t`. -/
def onBilling (x : ResolutionCase) (t : UUID) (payload : BillingRefundAnalysisCompletedPayload)
    (now : Time) : List CustomerResponseDecisionPayload × ResolutionCase :=
  settleCase (attachIf x t (.billing (billingFinding payload t))) now

/-- The finding `f` is escalated at once. -/
def EscalatesAtOnce (x : ResolutionCase) (f : RiskFinding) : Prop :=
  f.highRisk = true ∧ ¬ billingIneligible x = true ∧ undecided x.status = true

instance (x : ResolutionCase) (f : RiskFinding) : Decidable (EscalatesAtOnce x f) :=
  inferInstanceAs (Decidable (_ ∧ _ ∧ _))

/-- A risk payload for the task `t`. -/
def onRisk (x : ResolutionCase) (t : UUID) (payload : RiskReviewCompletedPayload) (now : Time) :
    List CustomerResponseDecisionPayload × ResolutionCase :=
  let f := riskFinding payload t
  if EscalatesAtOnce x f then
    ([highRiskDecision x f], { x with status := .escalated, riskResult := some f })
  else settleCase (attachIf x t (.risk f)) now

/-- A failed or rejected task `t` of an undecided record. -/
def onFailure (x : ResolutionCase) (t : UUID) (now : Time) :
    List CustomerResponseDecisionPayload × ResolutionCase :=
  settleCase (slotFailedCase x t (x.billingTaskId == some t)) now

/-! ## The operations, run alone -/

/-- Whatever is published arrives; an audit may still be lost. -/
def Granted (answer : ∀ x, Reply x) : Prop := ∀ ev, answer (.send ev) = .ok ()

/-- The decisions for `k` among what a handler showed. -/
def shown (k : UUID) (os : List Obs) : List CustomerResponseDecisionPayload :=
  os.filterMap (Obs.decision k)

@[simp] theorem shown_nil (k : UUID) : shown k [] = [] := rfl

@[simp] theorem shown_claimed (k j : UUID) (os : List Obs) :
    shown k (.claimed j :: os) = shown k os := rfl

@[simp] theorem shown_decisionTaken (k : UUID) (c : ResolutionCase) (now : Time)
    (d : CustomerResponseDecisionPayload) (os : List Obs) :
    shown k (.decisionTaken c now d :: os) = shown k os := rfl

@[simp] theorem shown_attached (k j t : UUID) (e : EventRef) (f : Finding) (os : List Obs) :
    shown k (.attached e j t f :: os) = shown k os := rfl

@[simp] theorem shown_slotFailed (k t : UUID) (c : ResolutionCase) (b : Bool) (os : List Obs) :
    shown k (.slotFailed c t b :: os) = shown k os := rfl

theorem shown_decided {k : UUID} {ev : OutEvent} {d : CustomerResponseDecisionPayload}
    (hp : ev.payload = .resolutionDecided d) (hk : ev.correlationId = k) (os : List Obs) :
    shown k (.published ev :: os) = d :: shown k os := by
  simp [shown, Obs.decision, hp, hk]

theorem shown_drafted {k : UUID} {ev : OutEvent} {p : CustomerResponseDraftedPayload}
    (hp : ev.payload = .responseDrafted p) (os : List Obs) :
    shown k (.published ev :: os) = shown k os := by
  simp [shown, Obs.decision, hp]

@[simp] theorem shown_append (k : UUID) (os os' : List Obs) :
    shown k (os ++ os') = shown k os ++ shown k os' :=
  List.filterMap_append

/-- The record of the case `k`, found under its correlation id. -/
structure Stored (w : World) (k : UUID) (x : ResolutionCase) : Prop where
  case : w.view.cases k = some x
  index : w.view.byCorrelation k = some k
  caseId : x.caseId = k
  correlationId : x.correlationId = k

section Operations

variable {α : Type} {answer : ∀ x, Reply x} {w : World} {k : UUID} {c x : ResolutionCase}

theorem Stored.of_view {w' : World} (hs : Stored w k x) (hw : w'.view = w.view) :
    Stored w' k x := by
  refine ⟨?_, ?_, hs.caseId, hs.correlationId⟩
  · rw [hw]; exact hs.case
  · rw [hw]; exact hs.index

theorem Stored.of_put {w' : World} {y : ResolutionCase} (hs : Stored w k x)
    (hw : w'.view = w.view.put k y) (hid : y.caseId = x.caseId)
    (hcorr : y.correlationId = x.correlationId) : Stored w' k y := by
  refine ⟨?_, ?_, hid.trans hs.caseId, hcorr.trans hs.correlationId⟩
  · rw [hw]; exact View.put_cases_self _ _ _
  · rw [hw]; exact hs.index

/-- The record behind the view. -/
theorem Stored.get (hs : Stored w k x) : ∃ r, w.store.get k = some r ∧ r.core = x :=
  InMemoryCaseStateStore.view_cases_iff.mp hs.case

theorem Stored.getByCorrelationId (hs : Stored w k x) :
    ∃ r, w.store.getByCorrelationId k = some r ∧ r.core = x := by
  obtain ⟨r, hr, hx⟩ := hs.get
  refine ⟨r, ?_, hx⟩
  unfold InMemoryCaseStateStore.getByCorrelationId
  rw [show w.store.byCorrelation.get? k = some k from hs.index]
  exact hr

/-- What a lookup by task finds is stored, and the task is one of its two. -/
theorem stored_of_getByTaskId {S : Settings} {t : UUID} (hok : ViewOk S w.view)
    (hc : w.store.getByTaskId t = some c) :
    Stored w c.caseId c.core ∧ w.view.byTaskId t = some c.caseId ∧
      (c.billingTaskId = some t ∨ c.riskTaskId = some t) := by
  unfold InMemoryCaseStateStore.getByTaskId at hc
  cases hi : w.store.byTaskId.get? t with
  | none =>
    rw [hi] at hc
    exact absurd hc (by simp)
  | some k =>
    rw [hi] at hc
    have hview : w.view.cases k = some c.core := InMemoryCaseStateStore.view_cases_of_get hc
    have hcase := hok.case k _ hview
    have hid : c.caseId = k := hcase.caseId
    rw [hid]
    refine ⟨⟨hview, hok.indexed k _ hview, hcase.caseId, hcase.correlationId⟩, hi, ?_⟩
    obtain ⟨x, hx, hids⟩ := hok.task t k hi
    obtain rfl : c.core = x := Option.some.inj (hview.symm.trans hx)
    exact hids

theorem Stored.getByTaskId {t : UUID} (hs : Stored w k x) (ht : w.view.byTaskId t = some k) :
    ∃ r, w.store.getByTaskId t = some r ∧ r.core = x := by
  obtain ⟨r, hr, hx⟩ := hs.get
  refine ⟨r, ?_, hx⟩
  unfold InMemoryCaseStateStore.getByTaskId
  rw [show w.store.byTaskId.get? t = some k from ht]
  exact hr

theorem returns_datetimeNow {Q : Time → List Obs → World → Prop} (h : Q w.now [] w) :
    Coro.Returns answer datetimeNow w Q :=
  ⟨w.now, [], w, rfl, h⟩

theorem returns_readStore {f : InMemoryCaseStateStore → α} {Q : α → List Obs → World → Prop}
    (h : Q (f w.store) [] w) : Coro.Returns answer (readStore f) w Q :=
  ⟨f w.store, [], w, rfl, h⟩

theorem returns_withStore {f : InMemoryCaseStateStore → α × InMemoryCaseStateStore}
    {Q : α → List Obs → World → Prop}
    (h : Q (f w.store).1 [] { w with store := (f w.store).2 }) :
    Coro.Returns answer (withStore f) w Q :=
  ⟨(f w.store).1, [], { w with store := (f w.store).2 }, rfl, h⟩

theorem returns_observe {o : Obs} {Q : Unit → List Obs → World → Prop} (h : Q () [o] w) :
    Coro.Returns answer (Coro.observe o : M Unit) w Q :=
  ⟨(), [o], w, rfl, h⟩

theorem returns_request {x : Request} {Q : Reply x → List Obs → World → Prop}
    (h : Q (answer x) [] w) : Coro.Returns answer (Coro.request x : M (Reply x)) w Q :=
  ⟨answer x, [], w, rfl, h⟩

theorem returns_deref {Q : ResolutionCase → List Obs → World → Prop} (hs : Stored w k x)
    (hc : c.caseId = k) (h : ∀ r, r.core = x → w.store.get k = some r → Q r [] w) :
    Coro.Returns answer (deref c) w Q := by
  obtain ⟨r, hr, hx⟩ := hs.get
  apply returns_readStore
  rw [hc, hr]
  exact h r hx hr

theorem returns_assign {y : ResolutionCase} {f : ResolutionCase → ResolutionCase}
    {Q : Unit → List Obs → World → Prop} (hs : Stored w k x) (hc : c.caseId = k)
    (hf : ∀ r, r.core = x → (f r).core = y) (hid : y.caseId = x.caseId)
    (hcorr : y.correlationId = x.correlationId)
    (h : ∀ w', Stored w' k y → w'.now = w.now → Q () [] w') :
    Coro.Returns answer (assign c f) w Q := by
  obtain ⟨r, hr, hx⟩ := hs.get
  apply returns_withStore
  refine h _ (hs.of_put ?_ hid hcorr) rfl
  have hview := InMemoryCaseStateStore.view_modify hr f
  rw [hf r hx] at hview
  rw [hc]
  exact hview

theorem runSync_updateStore {err : String}
    {f : InMemoryCaseStateStore → Option InMemoryCaseStateStore} {st' : InMemoryCaseStateStore}
    (hst : f w.store = some st') :
    Coro.runSync answer (updateStore err f) w = ([], { w with store := st' }, .ok ()) := by
  rw [updateStore_eq, Coro.runSync_bind]
  show Coro.runSync answer ((f w.store).elim (throw err) fun st =>
    Coro.write { w with store := st }) w = _
  rw [hst]
  rfl

theorem returns_save {Q : Unit → List Obs → World → Prop} (hs : Stored w k x) (hc : c.caseId = k)
    (h : ∀ w', Stored w' k x → w'.now = w.now → Q () [] w') :
    Coro.Returns answer (save c) w Q := by
  apply Coro.Returns.bind
  refine returns_deref hs hc ?_
  intro r hr _
  subst hr
  apply Coro.Returns.bind
  apply returns_datetimeNow
  have hcorr : w.store.byCorrelation.get? r.correlationId = some r.caseId := by
    rw [show r.correlationId = k from hs.correlationId, show r.caseId = k from hs.caseId]
    exact hs.index
  obtain ⟨st', hst, hview⟩ :
      ∃ st', w.store.save r none w.now = some st' ∧ st'.view = w.store.view.put r.caseId r.core :=
    InMemoryCaseStateStore.view_save hcorr
  refine ⟨(), [], { w with store := st' }, ?_, ?_⟩
  · exact runSync_updateStore hst
  · refine h _ (hs.of_put ?_ rfl rfl) rfl
    have hid : r.caseId = k := hs.caseId
    rw [hid] at hview
    exact hview

theorem returns_publish {payload : OutPayload} {correlationId causationId : UUID}
    {Q : OutEvent → List Obs → World → Prop} (hg : Granted answer)
    (h : ∀ ev w', w'.view = w.view → w'.now = w.now → ev.payload = payload →
      ev.correlationId = correlationId → Q ev [.published ev] w') :
    Coro.Returns answer (publish payload correlationId causationId) w Q := by
  apply Coro.Returns.bind
  refine ⟨w.nextId, [], { w with nextId := w.nextId + 1 }, rfl, ?_⟩
  apply Coro.Returns.bind
  apply returns_request
  rw [hg]
  apply Coro.Returns.bind
  apply returns_observe
  apply Coro.Returns.pure
  exact h _ _ rfl rfl rfl rfl

theorem returns_writeTaskAudit {envelope : EventRef} {outcome : AuditOutcome}
    {taskId : Option UUID} {reason : Option String} {hreason : outcome.reasonOk reason = true}
    {Q : Unit → List Obs → World → Prop}
    (h : ∀ w', w'.view = w.view → w'.now = w.now → Q () [] w') :
    Coro.Returns answer (writeTaskAudit envelope outcome taskId reason hreason) w Q :=
  ⟨(), [], { w with nextId := w.nextId + 1 }, rfl, h _ rfl rfl⟩

end Operations

/-! ## The handlers, run alone -/

/-- The handler showed the decisions `out.1` for `k` and left the record `out.2`. -/
structure Handled (w : World) (k : UUID)
    (out : List CustomerResponseDecisionPayload × ResolutionCase) (os : List Obs) (w' : World) :
    Prop where
  decisions : shown k os = out.1
  stored : Stored w' k out.2
  now : w'.now = w.now

section Handlers

variable {answer : ∀ x, Reply x} {w : World} {k t : UUID} {c x : ResolutionCase}

theorem returns_emitDecisionAndDraft {d : CustomerResponseDecisionPayload} {causationId : UUID}
    {Q : OutEvent → List Obs → World → Prop} (hg : Granted answer) (hs : Stored w k x)
    (hc : c.caseId = k) (hcorr : c.correlationId = k)
    (hd : d.customerResponse = draftCustomerResponse d.outcome)
    (h : ∀ ev os w', shown k os = [d] → Stored w' k x → w'.now = w.now → Q ev os w') :
    Coro.Returns answer (emitDecisionAndDraft c d causationId) w Q := by
  unfold emitDecisionAndDraft
  apply Coro.Returns.bind
  refine returns_publish hg ?_
  intro ev w₁ hv₁ hn₁ hp hk
  apply Coro.Returns.bind
  refine returns_assign (hs.of_view hv₁) hc (y := x) (fun _ hr => hr) rfl rfl ?_
  intro w₂ hs₂ hn₂
  apply Coro.Returns.bind
  refine returns_writeTaskAudit ?_
  intro w₃ hv₃ hn₃
  apply Coro.Returns.bind
  apply returns_datetimeNow
  dsimp only
  rw [if_pos (draftFor_valid hd _ _ _)]
  apply Coro.Returns.bind
  refine returns_publish hg ?_
  intro ev' w₄ hv₄ hn₄ hp' hk'
  apply Coro.Returns.bind
  refine returns_assign ((hs₂.of_view hv₃).of_view hv₄) hc (y := x) (fun _ hr => hr) rfl rfl ?_
  intro w₅ hs₅ hn₅
  apply Coro.Returns.pure
  refine h ev _ w₅ ?_ hs₅ ?_
  · simp [shown_decided hp (hk.trans hcorr), shown_drafted hp']
  · rw [hn₅, hn₄, hn₃, hn₂, hn₁]

/-- A claim of an undecided record. -/
theorem returns_claimDecision {Q : Bool → List Obs → World → Prop} (hs : Stored w k x)
    (hc : c.caseId = k) (hu : undecided x.status = true)
    (h : ∀ w', Stored w' k { x with status := .decided } → w'.now = w.now →
      Q true [.claimed k] w') : Coro.Returns answer (claimDecision c) w Q := by
  unfold claimDecision
  apply Coro.Returns.bind
  apply returns_datetimeNow
  apply Coro.Returns.bind
  apply returns_withStore
  obtain ⟨r, hr, hx⟩ := hs.get
  have hur : undecided r.status = true := by
    rw [← hu, ← hx]
    rfl
  obtain ⟨hwon, hview⟩ := InMemoryCaseStateStore.claimDecision_won w.now hr hur
  rw [hc, hwon]
  apply Coro.Returns.bind
  apply returns_observe
  apply Coro.Returns.pure
  rw [hx] at hview
  exact h _ (hs.of_put hview rfl rfl) rfl

theorem returns_applyDecision {causationId : UUID} (hg : Granted answer) (hs : Stored w k x)
    (hc : c.caseId = k) (hu : undecided x.status = true) :
    Coro.Returns answer (applyDecision c causationId) w fun _ =>
      Handled w k ([decisionOn x w.now], { x with status := .decided }) := by
  unfold applyDecision
  apply Coro.Returns.bind
  refine returns_claimDecision hs hc hu ?_
  intro w₁ hs₁ hn₁
  rw [if_pos rfl]
  apply Coro.Returns.bind
  refine returns_deref hs₁ hc ?_
  intro r hr hget
  apply Coro.Returns.bind
  apply returns_datetimeNow
  have hdec : decisionOn r w₁.now = decisionOn x w.now := by
    show decisionOn r.core w₁.now = decisionOn { x with status := .decided } w.now
    rw [hr, hn₁]
  have hid : r.caseId = k := (congrArg ResolutionCase.caseId hr).trans hs.caseId
  have hcorr : r.correlationId = k := (congrArg ResolutionCase.correlationId hr).trans hs.correlationId
  dsimp only
  rw [hdec]
  apply Coro.Returns.bind
  apply returns_observe
  apply Coro.Returns.bind
  refine returns_emitDecisionAndDraft hg hs₁ hid hcorr decide_customerResponse ?_
  intro ev os w₂ hshown hs₂ hn₂
  apply Coro.Returns.bind
  refine returns_assign hs₂ hid (y := { x with status := .decided }) ?_ rfl rfl ?_
  · intro r' hr'
    exact congrArg (fun y : ResolutionCase => { y with status := CaseStatus.decided }) hr'
  intro w₃ hs₃ hn₃
  refine returns_save hs₃ hid ?_
  intro w₄ hs₄ hn₄
  refine ⟨?_, hs₄, ?_⟩
  · simp [hshown]
  · rw [hn₄, hn₃, hn₂, hn₁]

theorem returns_decideIfReady {causationId : UUID} (hg : Granted answer) (hs : Stored w k x)
    (hc : c.caseId = k) :
    Coro.Returns answer (decideIfReady c causationId) w fun _ =>
      Handled w k (settleCase x w.now) := by
  unfold decideIfReady
  apply Coro.Returns.bind
  refine returns_deref hs hc ?_
  intro r hr hget
  subst hr
  unfold settleCase
  by_cases hready : r.core.isReadyToDecide = true ∧ undecided r.core.status = true
  · have hready' : r.isReadyToDecide = true ∧ undecided r.status = true := hready
    rw [if_pos hready, if_pos hready']
    exact returns_applyDecision hg hs hs.caseId hready.2
  · have hready' : ¬ (r.isReadyToDecide = true ∧ undecided r.status = true) := hready
    rw [if_neg hready, if_neg hready']
    exact .pure ⟨rfl, hs, rfl⟩

theorem returns_applyResult {envelope : EventRef} {f : Finding}
    {Q : Unit → List Obs → World → Prop} (hs : Stored w k x) (hc : c.caseId = k)
    (h : ∀ os w', shown k os = [] → Stored w' k (attachIf x t f) → w'.now = w.now →
      Q () os w') : Coro.Returns answer (applyResult envelope c t f) w Q := by
  unfold applyResult
  apply Coro.Returns.bind
  apply returns_datetimeNow
  apply Coro.Returns.bind
  apply returns_withStore
  obtain ⟨r, hr, hx⟩ := hs.get
  subst hx
  rw [hc]
  by_cases hatt : undecided r.status = true ∧ t ∈ r.pendingTasks
  · obtain ⟨hout, hview⟩ :=
      InMemoryCaseStateStore.applyResult_attached f w.now hr hatt.1 hatt.2
    have hif : attachIf r.core t f = attachedCase r.core t f := if_pos hatt
    have hs' : Stored { w with store := (w.store.applyResult k t f w.now).2 } k
        (attachedCase r.core t f) := by
      refine hs.of_put hview ?_ ?_
      · cases f <;> rfl
      · cases f <;> rfl
    rw [hout, if_pos rfl]
    apply Coro.Returns.bind
    apply returns_observe
    refine returns_writeTaskAudit ?_
    intro w' hv hn
    refine h _ w' (by simp) ?_ hn
    rw [hif]
    exact hs'.of_view hv
  · have hdup := InMemoryCaseStateStore.applyResult_duplicate f w.now hr hatt
    have hif : attachIf r.core t f = r.core := if_neg hatt
    rw [hdup, if_neg (by simp)]
    apply Coro.Returns.pure
    refine h _ _ rfl ?_ rfl
    rw [hif]
    exact hs.of_view rfl

/-- A finding is attached, and if it was the last the case is settled. -/
theorem returns_attachAndDecide {envelope : EventRef} {f : Finding}
    {h : ResolutionCase → ResolutionCase} {causationId : UUID} (hg : Granted answer)
    (hs : Stored w k x) (hc : c.caseId = k) (hminor : ∀ r, (h r).core = r.core) :
    Coro.Returns answer
      (do assign c h; applyResult envelope c t f; decideIfReady c causationId) w fun _ =>
      Handled w k (settleCase (attachIf x t f) w.now) := by
  apply Coro.Returns.bind
  refine returns_assign hs hc (y := x) (fun r hr => (hminor r).trans hr) rfl rfl ?_
  intro w₁ hs₁ hn₁
  apply Coro.Returns.bind
  refine returns_applyResult hs₁ hc ?_
  intro os w₂ hshown hs₂ hn₂
  refine (returns_decideIfReady hg hs₂ hc).mono ?_
  intro _ os' w₃ hdone
  have hnow : w₂.now = w.now := hn₂.trans hn₁
  rw [hnow] at hdone
  exact ⟨by simp [hshown, hdone.decisions], hdone.stored, hdone.now.trans hnow⟩

/-- **A billing result, handled alone.** -/
theorem returns_billingResultHandler {e : Inbound BillingRefundAnalysisCompletedPayload}
    {payload : BillingRefundAnalysisCompletedPayload} (hg : Granted answer) (hs : Stored w k x)
    (ht : x.billingTaskId = some t) (he : e.payload = some payload) (hk : e.correlationId = k) :
    Coro.Returns answer (billingResultHandler e) w fun _ =>
      Handled w k (onBilling x t payload w.now) := by
  unfold billingResultHandler
  rw [he]
  apply Coro.Returns.bind
  apply returns_readStore
  obtain ⟨r, hr, hx⟩ := hs.getByCorrelationId
  rw [hk, hr]
  have hid : r.caseId = k := (congrArg ResolutionCase.caseId hx).trans hs.caseId
  have ht' : r.billingTaskId = some t := (congrArg ResolutionCase.billingTaskId hx).trans ht
  dsimp only
  rw [ht']
  exact returns_attachAndDecide hg hs hid fun _ => rfl

theorem returns_escalateHighRisk {envelope : EventRef} {f : RiskFinding} (hg : Granted answer)
    (hs : Stored w k x) (hc : c.caseId = k) (hu : undecided x.status = true) :
    Coro.Returns answer (escalateHighRisk envelope c f) w fun _ =>
      Handled w k ([highRiskDecision x f],
        { x with status := .escalated, riskResult := some f }) := by
  unfold escalateHighRisk
  apply Coro.Returns.bind
  refine returns_claimDecision hs hc hu ?_
  intro w₁ hs₁ hn₁
  rw [if_pos rfl]
  apply Coro.Returns.bind
  refine returns_deref hs₁ hc ?_
  intro r hr hget
  have hid : r.caseId = k := (congrArg ResolutionCase.caseId hr).trans hs.caseId
  have hcorr : r.correlationId = k := (congrArg ResolutionCase.correlationId hr).trans hs.correlationId
  have hdec : highRiskDecision r f = highRiskDecision x f := by
    show highRiskDecision r.core f = highRiskDecision { x with status := .decided } f
    rw [hr]
  rw [hdec]
  apply Coro.Returns.bind
  refine returns_assign hs₁ hid
    (y := { x with status := .decided, riskResult := some f }) ?_ rfl rfl ?_
  · intro r' hr'
    exact congrArg (fun y : ResolutionCase => { y with riskResult := some f }) hr'
  intro w₂ hs₂ hn₂
  apply Coro.Returns.bind
  refine returns_emitDecisionAndDraft hg hs₂ hid hcorr rfl ?_
  intro ev os w₃ hshown hs₃ hn₃
  apply Coro.Returns.bind
  refine returns_assign hs₃ hid
    (y := { x with status := .escalated, riskResult := some f }) ?_ rfl rfl ?_
  · intro r' hr'
    exact congrArg (fun y : ResolutionCase => { y with status := CaseStatus.escalated }) hr'
  intro w₄ hs₄ hn₄
  refine returns_save hs₄ hid ?_
  intro w₅ hs₅ hn₅
  refine ⟨?_, hs₅, ?_⟩
  · simp [hshown]
  · rw [hn₅, hn₄, hn₃, hn₂, hn₁]

/-- **A risk result, handled alone.** -/
theorem returns_riskResultHandler {e : Inbound RiskReviewCompletedPayload}
    {payload : RiskReviewCompletedPayload} (hg : Granted answer) (hs : Stored w k x)
    (ht : x.riskTaskId = some t) (he : e.payload = some payload) (hk : e.correlationId = k) :
    Coro.Returns answer (riskResultHandler e) w fun _ =>
      Handled w k (onRisk x t payload w.now) := by
  unfold riskResultHandler
  rw [he]
  apply Coro.Returns.bind
  apply returns_readStore
  obtain ⟨r, hr, hx⟩ := hs.getByCorrelationId
  rw [hk, hr]
  subst hx
  have hid : r.caseId = k := hs.caseId
  have ht' : r.riskTaskId = some t := ht
  dsimp only
  rw [ht']
  dsimp only
  unfold onRisk
  dsimp only
  by_cases hfast : (riskFinding payload t).highRisk = true ∧ ¬ billingIneligible r = true ∧
      undecided r.status = true
  · rw [if_pos hfast, if_pos (show EscalatesAtOnce r.core _ from hfast)]
    exact returns_escalateHighRisk hg hs hid hfast.2.2
  · rw [if_neg hfast, if_neg (show ¬ EscalatesAtOnce r.core _ from hfast)]
    exact returns_attachAndDecide hg hs hid fun _ => rfl

/-- **A failed or rejected task, handled alone.** -/
theorem returns_resultHandler_failed {S : Settings} {e : Inbound TaskResult} {result : TaskResult}
    (hg : Granted answer) (hs : Stored w k x) (hindex : w.view.byTaskId result.taskId = some k)
    (hu : undecided x.status = true) (he : e.payload = some result)
    (hfailed : result.status ≠ .completed) :
    Coro.Returns answer (resultHandler S e) w fun _ =>
      Handled w k (onFailure x result.taskId w.now) := by
  unfold resultHandler
  rw [he]
  apply Coro.Returns.bind
  apply returns_readStore
  obtain ⟨r, hr, hx⟩ := hs.getByTaskId hindex
  rw [hr]
  subst hx
  have hid : r.caseId = k := hs.caseId
  have hur : undecided r.status = true := hu
  dsimp only
  rw [if_pos hur, if_neg fun h => hfailed h.1]
  unfold recordResult
  rw [if_neg hfailed]
  apply Coro.Returns.bind
  apply Coro.Returns.bind
  unfold markSlotFailed
  apply Coro.Returns.bind
  apply returns_datetimeNow
  apply Coro.Returns.bind
  refine returns_deref hs hid ?_
  intro r' hr' hget
  apply Coro.Returns.bind
  apply returns_observe
  apply returns_withStore
  have hur' : undecided r'.status = true := by
    show undecided r'.core.status = true
    rw [hr']
    exact hu
  have hview := InMemoryCaseStateStore.view_markSlotFailed (t := result.taskId)
    (r.billingTaskId == some result.taskId) (failReason result) w.now hget hur'
  rw [hr'] at hview
  have hs₁ : Stored { w with store := (w.store.markSlotFailed k result.taskId
      (r.billingTaskId == some result.taskId) (failReason result) w.now) } k
      (slotFailedCase r.core result.taskId (r.core.billingTaskId == some result.taskId)) :=
    hs.of_put hview rfl rfl
  rw [hid]
  refine returns_writeTaskAudit ?_
  intro w₂ hv₂ hn₂
  have hs₂ := hs₁.of_view hv₂
  have hu₂ : undecided (slotFailedCase r.core result.taskId
      (r.core.billingTaskId == some result.taskId)).status = true := undecided_slotFailedCase hu
  have hready₂ := slotFailedCase_ready r.core result.taskId
    (r.core.billingTaskId == some result.taskId)
  apply Coro.Returns.bind
  refine returns_deref hs₂ hid ?_
  intro r₃ hr₃ hget₃
  have hready₃ : r₃.isReadyToDecide = true := by
    show r₃.core.isReadyToDecide = true
    rw [hr₃]
    exact hready₂
  have hid₃ : r₃.caseId = k := (congrArg ResolutionCase.caseId hr₃).trans hs.caseId
  rw [if_pos hready₃]
  refine (returns_applyDecision hg hs₂ hid₃ hu₂).mono ?_
  intro _ os w₃ hdone
  have hnow : w₂.now = w.now := hn₂
  unfold onFailure settleCase
  rw [if_pos ⟨hready₂, hu₂⟩]
  rw [hnow] at hdone
  exact ⟨by simpa using hdone.decisions, hdone.stored, hdone.now.trans hnow⟩

/-- A completed task of a case is left to its domain handler: nothing is shown and the store
    stays as it is. -/
theorem returns_resultHandler_completed {S : Settings} {e : Inbound TaskResult}
    {result : TaskResult} (hc : w.store.getByTaskId result.taskId = some c)
    (ht : c.billingTaskId = some result.taskId ∨ c.riskTaskId = some result.taskId)
    (he : e.payload = some result) (hcompleted : result.status = .completed) :
    Coro.Returns answer (resultHandler S e) w fun _ os w' => os = [] ∧ w'.store = w.store := by
  unfold resultHandler
  rw [he]
  apply Coro.Returns.bind
  apply returns_readStore
  rw [hc]
  dsimp only
  split
  · have hmine : (c.billingTaskId == some result.taskId) = true ∨
        (c.riskTaskId == some result.taskId) = true :=
      ht.imp beq_iff_eq.mpr beq_iff_eq.mpr
    rw [if_pos ⟨hcompleted, hmine⟩]
    exact ⟨(), [], { w with nextId := w.nextId + 1 }, rfl, rfl, rfl⟩
  · exact ⟨(), [], { w with nextId := w.nextId + 1 }, rfl, rfl, rfl⟩

end Handlers

/-! ## Alone is one way to run -/

/-- **What a handler does alone, the agent can do**: from every state in which the loop of the
    message is idle, delivering it and answering its loop alone shows the same decisions and ends in
    the same world. -/
theorem alone_is_a_schedule (S : Settings) (answer : ∀ x, Reply x) (m : Message) {s : State}
    (hidle : s.loops m.loop = none) :
    ∃ n tr, (service S).exec ((service S).alone answer m n) s =
        some (tr, { s with world := ((m.handler S).runSync answer s.world).2.1 }) ∧
      ∀ k, decidedFor k tr = shown k ((m.handler S).runSync answer s.world).1 := by
  obtain ⟨n, hexec⟩ := EventLoop.exec_alone (L := service S) answer m hidle
  refine ⟨n, _, hexec, ?_⟩
  intro k
  show ((Obs.received m :: _).map (m.loop, ·)).filterMap _ = _
  rw [List.filterMap_map]
  rfl

end RefundOps.Resolution
