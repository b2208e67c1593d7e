import RefundOps.Resolution.Properties.ArrivalOrder

/-!
# An opinion that comes too early

A domain result is looked up by its correlation id. If there is no case yet it is parked, and
nothing ever takes a parked result out again; if the case has no task ids yet the result is
dropped. So what becomes of an opinion is settled when it is handled: it gets into its slot if and
only if its task is pending then (`held_iff_awaited`).

`slot_act` says how a slot can change at all. The two cases of the proof are a step that cannot
change it, by the actions of the protocol, and a step that has to, by running the handler to its
first suspension.
-/

set_option autoImplicit false

namespace RefundOps.Resolution

/-! ## Opinions and slots -/

/-- A billing or a risk domain result. -/
inductive Opinion where
  | billing (envelope : Inbound BillingRefundAnalysisCompletedPayload)
  | risk (envelope : Inbound RiskReviewCompletedPayload)

namespace Opinion

def message : Opinion → Message
  | .billing e => .billingResult e
  | .risk e => .riskResult e

def caseId : Opinion → UUID
  | .billing e => e.correlationId
  | .risk e => e.correlationId

/-- The task of a record that the opinion is for. -/
def taskId : Opinion → ResolutionCase → Option UUID
  | .billing _, c => c.billingTaskId
  | .risk _, c => c.riskTaskId

/-- The slot of a record that the opinion is for. -/
def slot : Opinion → ResolutionCase → Option Finding
  | .billing _, c => c.billingResult.map .billing
  | .risk _, c => c.riskResult.map .risk

/-- What the opinion says about the task `t`; nothing if its payload is not valid. -/
def finding : Opinion → UUID → Option Finding
  | .billing e, t => e.payload.map fun payload => .billing (billingFinding payload t)
  | .risk e, t => e.payload.map fun payload => .risk (riskFinding payload t)

def Valid (o : Opinion) : Prop := ∀ t, (o.finding t).isSome

/-- The opinion is in its slot. -/
def HeldBy (o : Opinion) (c : ResolutionCase) : Prop :=
  ∃ t f, o.taskId c = some t ∧ o.finding t = some f ∧ o.slot c = some f

/-- The case is there, and its task for the opinion is pending. -/
def AwaitedBy (o : Opinion) (c : ResolutionCase) : Prop :=
  ∃ t, o.taskId c = some t ∧ t ∈ c.pendingTasks

def Awaited (o : Opinion) (s : State) : Prop :=
  ∃ c, s.world.store.get o.caseId = some c ∧ o.AwaitedBy c

/-- A valid result of the same kind for the same case. -/
def SameSlot : Opinion → Message → Prop
  | .billing e, .billingResult e' => e'.correlationId = e.correlationId ∧ e'.payload.isSome
  | .risk e, .riskResult e' => e'.correlationId = e.correlationId ∧ e'.payload.isSome
  | _, _ => False

/-- No such result is received in the trace. -/
def Unrivalled (o : Opinion) (tr : Trace) : Prop :=
  ∀ i m, (i, Obs.received m) ∈ tr → ¬ o.SameSlot m

theorem unrivalled_append {o : Opinion} {tr tr' : Trace} :
    o.Unrivalled (tr ++ tr') ↔ o.Unrivalled tr ∧ o.Unrivalled tr' := by
  constructor
  · intro h
    exact ⟨fun i m hm => h i m (List.mem_append_left _ hm),
      fun i m hm => h i m (List.mem_append_right _ hm)⟩
  · rintro ⟨h, h'⟩ i m hm
    exact (List.mem_append.mp hm).elim (h i m) (h' i m)

/-- The slot in the view. -/
def slotIn (o : Opinion) (V : View) : Option Finding := (V.cases o.caseId).bind o.slot

/-- The task is pending in the view. -/
def AwaitedIn (o : Opinion) (V : View) : Prop := ∃ c, V.cases o.caseId = some c ∧ o.AwaitedBy c

theorem slotIn_put_ne {o : Opinion} {V : View} {k : UUID} {c : ResolutionCase}
    (hk : o.caseId ≠ k) : o.slotIn (V.put k c) = o.slotIn V := by
  unfold slotIn
  rw [View.put_cases_ne V c hk]

/-- A record is replaced by one with the same slot. -/
theorem slotIn_put {o : Opinion} {V : View} {k : UUID} {c c' : ResolutionCase}
    (hc : V.cases k = some c) (h : o.slot c' = o.slot c) : o.slotIn (V.put k c') = o.slotIn V := by
  by_cases hk : o.caseId = k
  · unfold slotIn
    rw [hk, View.put_cases_self, hc]
    exact h
  · exact slotIn_put_ne hk

/-- A record is replaced by one with the same tasks, of which no more are pending. -/
theorem awaitedIn_of_put {o : Opinion} {V : View} {k : UUID} {c c' : ResolutionCase}
    (hc : V.cases k = some c) (htask : o.taskId c' = o.taskId c)
    (hsub : c'.pendingTasks ⊆ c.pendingTasks) (h : o.AwaitedIn (V.put k c')) : o.AwaitedIn V := by
  obtain ⟨x, hx, t, ht, hp⟩ := h
  by_cases hk : o.caseId = k
  · rw [hk, View.put_cases_self, Option.some.injEq] at hx
    subst hx
    exact ⟨c, (congrArg V.cases hk).trans hc, t, htask.symm.trans ht, hsub hp⟩
  · rw [View.put_cases_ne V c' hk] at hx
    exact ⟨x, hx, t, ht, hp⟩

end Opinion

/-! ## How a slot changes -/

section Steps

variable {S : Settings} {i : LoopId} {p p' : Phase} {V V' : View} {os : List Obs} {o : Opinion}

/-- **A slot is filled by a valid result for it**, and then its task was pending or the case is
    decided at once. -/
theorem slot_act (ha : Act S i p V os p' V') :
    o.slotIn V' = o.slotIn V ∨
      (∃ m, Obs.received m ∈ os ∧ o.SameSlot m) ∧ (o.AwaitedIn V ∨ Final V' o.caseId) := by
  cases ha with
  | minor | reopen | abandon | direct | delegated | delegationFailed | release | published
  | publishFailed | draftFailed => exact .inl rfl
  | @create _ k c hnone hnew =>
    left
    by_cases hk : o.caseId = k
    · show ((V.put k c).cases o.caseId).bind o.slot = (V.cases o.caseId).bind o.slot
      rw [hk, View.put_cases_self, hnone]
      cases o with
      | billing e => exact congrArg (Option.map _) hnew.billingResult
      | risk e => exact congrArg (Option.map _) hnew.riskResult
    · exact Opinion.slotIn_put_ne (V := V) hk
  | classify hc | delegate hc | slotFailed hc | claim _ _ hc | close hc | finish _ hc =>
    refine .inl (Opinion.slotIn_put hc ?_)
    cases o <;> rfl
  | @attachBilling _ k t c e payload hc hu ht hp he hk =>
    cases o with
    | risk e' => exact .inl (Opinion.slotIn_put hc rfl)
    | billing e' =>
      by_cases hj : e'.correlationId = k
      · right
        refine ⟨⟨_, List.mem_cons_self, hk.trans hj.symm, Option.isSome_of_mem he⟩, .inl ?_⟩
        exact ⟨c, (congrArg V.cases hj).trans hc, t, ht, hp⟩
      · exact .inl (Opinion.slotIn_put_ne hj)
  | @attachRisk _ k t c e payload hc hu ht hp he hk =>
    cases o with
    | billing e' => exact .inl (Opinion.slotIn_put hc rfl)
    | risk e' =>
      by_cases hj : e'.correlationId = k
      · right
        refine ⟨⟨_, List.mem_cons_self, hk.trans hj.symm, Option.isSome_of_mem he⟩, .inl ?_⟩
        exact ⟨c, (congrArg V.cases hj).trans hc, t, ht, hp⟩
      · exact .inl (Opinion.slotIn_put_ne hj)
  | @claimHighRisk _ k t c snapshot e payload hc hu ht he hk =>
    cases o with
    | billing e' => exact .inl (Opinion.slotIn_put hc rfl)
    | risk e' =>
      by_cases hj : e'.correlationId = k
      · right
        refine ⟨⟨_, List.mem_cons_self, hk.trans hj.symm, Option.isSome_of_mem he⟩, .inr ?_⟩
        show Final _ e'.correlationId
        rw [hj]
        exact final_put rfl
      · exact .inl (Opinion.slotIn_put_ne hj)

/-- Only the intake loop adds a task. -/
theorem awaited_act (hi : i ≠ .intake) (ha : Act S i p V os p' V') (h : o.AwaitedIn V') :
    o.AwaitedIn V := by
  cases ha with
  | create | classify | delegate | close => exact absurd rfl hi
  | minor | reopen | abandon | direct | delegated | delegationFailed | release | published
  | publishFailed | draftFailed => exact h
  | attachBilling hc | attachRisk hc | slotFailed hc =>
    refine Opinion.awaitedIn_of_put hc ?_ (Finset.erase_subset _ _) h
    cases o <;> rfl
  | claim _ _ hc | claimHighRisk hc | finish _ hc =>
    refine Opinion.awaitedIn_of_put hc ?_ ?_ h
    · cases o <;> rfl
    · exact Finset.Subset.refl _

/-- A stretch of another loop than the intake, while nobody awaits the opinion. -/
theorem slot_acts {w w' : World} (hi : i ≠ .intake) (h : (protocol S).Acts i p w os p' w')
    (hno : ¬ o.AwaitedIn w.view) :
    ¬ o.AwaitedIn w'.view ∧ (o.slotIn w'.view = o.slotIn w.view ∨ Final w'.view o.caseId) := by
  induction h with
  | refl => exact ⟨hno, .inl rfl⟩
  | tail _ ha ih =>
    obtain ⟨hno', hslot⟩ := ih
    refine ⟨fun h => hno' (awaited_act hi ha h), ?_⟩
    rcases hslot with hslot | hfinal
    · rcases slot_act (o := o) ha with hsame | ⟨-, hawaited | hfinal⟩
      · exact .inl (hsame.trans hslot)
      · exact absurd hawaited hno'
      · exact .inr hfinal
    · exact .inr (hfinal.act ha)

end Steps

/-! ## Runs -/

section Runs

variable {S : Settings} {tr : Trace} {s s' : State} {ph : LoopId → Phase} {o : Opinion}

/-- A run without a valid result for the slot leaves it as it is. -/
theorem slot_run (hph : Phases S s ph) (hrun : (service S).Run EventLoop.anyStep s tr s')
    (hnone : o.Unrivalled tr) : o.slotIn s'.world.view = o.slotIn s.world.view := by
  have hJ : Inductive S EventLoop.anyStep fun tr V _ =>
      o.Unrivalled tr → o.slotIn V = o.slotIn s.world.view := by
    intro tr V ph i os p' V' waiting h hok ha hw hg hall
    obtain ⟨hold, hnew⟩ := Opinion.unrivalled_append.mp hall
    rcases slot_act (o := o) ha with hsame | ⟨⟨m, hm, hrival⟩, -⟩
    · exact hsame.trans (h hold)
    · exact absurd hrival (hnew i m (List.mem_map_of_mem hm))
  obtain ⟨-, -, h⟩ := Phases.run hJ [] hph (fun _ => rfl) hrun
  exact h (by simpa using hnone)

theorem final_run {k : UUID} (hph : Phases S s ph)
    (hrun : (service S).Run EventLoop.anyStep s tr s') (h : Final s.world.view k) :
    Final s'.world.view k := by
  have hJ : Inductive S EventLoop.anyStep fun _ V _ => Final V k :=
    fun _ _ _ _ _ _ _ _ h _ ha _ _ => h.act ha
  obtain ⟨-, -, h'⟩ := Phases.run hJ [] hph h hrun
  exact h'

/-- The delivery of a message is a stretch of its loop. -/
theorem deliver_acts {m : Message} {os : Trace} (hph : Phases S s ph)
    (hstep : (service S).step (.deliver m) s = some (os, s')) :
    ∃ os' p' ph', (protocol S).Acts m.loop (ph m.loop) s.world os' p' s'.world ∧
      Phases S s' ph' := by
  rcases hph.step (service_implements S) hstep with ⟨i, os', p', hi, -, hacts, hph'⟩ | ⟨hi, -⟩
  · obtain rfl : m.loop = i := Option.some.inj hi
    exact ⟨os', p', _, hacts, hph'⟩
  · exact absurd hi (by simp [EventLoop.mover])

end Runs

/-! ## The first stretch of a handler -/

section Stretch

variable {α : Type} {w : World} {k t : UUID} {c x : ResolutionCase} {R : World → Prop}

theorem pauses_datetimeNow {Q : Time → World → Prop} (h : Q w.now w) :
    datetimeNow.Pauses R Q w := h

theorem pauses_readStore {f : InMemoryCaseStateStore → α} {Q : α → World → Prop}
    (h : Q (f w.store) w) : (readStore f).Pauses R Q w := h

theorem pauses_withStore {f : InMemoryCaseStateStore → α × InMemoryCaseStateStore}
    {Q : α → World → Prop} (h : Q (f w.store).1 { w with store := (f w.store).2 }) :
    (withStore f).Pauses R Q w := h

theorem pauses_observe {o : Obs} {Q : Unit → World → Prop} (h : Q () w) :
    (Coro.observe o : M Unit).Pauses R Q w := h

theorem pauses_deref {Q : ResolutionCase → World → Prop} (hs : Stored w k x) (hc : c.caseId = k)
    (h : ∀ r, r.core = x → Q r w) : (deref c).Pauses R Q w := by
  obtain ⟨r, hr, hx⟩ := hs.get
  apply pauses_readStore
  rw [hc, hr]
  exact h r hx

theorem pauses_assign {Q : Unit → World → Prop} {y : ResolutionCase}
    {f : ResolutionCase → ResolutionCase} (hs : Stored w k x) (hc : c.caseId = k)
    (hf : ∀ r, r.core = x → (f r).core = y) (hid : y.caseId = x.caseId)
    (hcorr : y.correlationId = x.correlationId) (h : ∀ w', Stored w' k y → Q () w') :
    (assign c f).Pauses R Q w := by
  obtain ⟨r, hr, hx⟩ := hs.get
  apply pauses_withStore
  refine h _ (hs.of_put ?_ hid hcorr)
  have hview := InMemoryCaseStateStore.view_modify hr f
  rw [hf r hx] at hview
  rw [hc]
  exact hview

/-- A result whose task is pending is attached, and the handler suspends on its audit. -/
theorem pauses_applyResult {envelope : EventRef} {f : Finding} {Q : Unit → World → Prop}
    (hs : Stored w k x) (hc : c.caseId = k) (hu : undecided x.status = true)
    (ht : t ∈ x.pendingTasks) (h : ∀ w', w'.view.cases k = some (attachedCase x t f) → R w') :
    (applyResult envelope c t f).Pauses R Q w := by
  obtain ⟨r, hr, rfl⟩ := hs.get
  obtain ⟨hout, hview⟩ := InMemoryCaseStateStore.applyResult_attached f w.now hr hu ht
  unfold applyResult
  apply Coro.Pauses.bind
  apply pauses_datetimeNow
  apply Coro.Pauses.bind
  apply pauses_withStore
  rw [hc, if_pos hout]
  apply Coro.Pauses.bind
  apply pauses_observe
  refine h _ ?_
  show (w.store.applyResult k t f w.now).2.view.cases k = _
  rw [hview]
  exact View.put_cases_self _ _ _

/-- An immediate escalation claims the case, and suspends on the publication. -/
theorem pauses_escalateHighRisk {envelope : EventRef} {f : RiskFinding} {Q : Unit → World → Prop}
    (hs : Stored w k x) (hc : c.caseId = k) (hu : undecided x.status = true)
    (h : ∀ w', Final w'.view k → R w') : (escalateHighRisk envelope c f).Pauses R Q w := by
  obtain ⟨r, hr, rfl⟩ := hs.get
  obtain ⟨hwon, hview⟩ := InMemoryCaseStateStore.claimDecision_won w.now hr hu
  unfold escalateHighRisk claimDecision
  apply Coro.Pauses.bind
  apply Coro.Pauses.bind
  apply pauses_datetimeNow
  apply Coro.Pauses.bind
  apply pauses_withStore
  rw [hc, hwon]
  apply Coro.Pauses.bind
  apply pauses_observe
  apply Coro.Pauses.pure
  rw [if_pos rfl]
  have hs' : Stored { w with store := (w.store.claimDecision k w.now).2 } k
      { r.core with status := .decided } := hs.of_put hview rfl rfl
  apply Coro.Pauses.bind
  refine pauses_deref hs' hc ?_
  intro r' hr'
  have hid : r'.caseId = k := (congrArg ResolutionCase.caseId hr').trans hs.caseId
  apply Coro.Pauses.bind
  refine pauses_assign hs' hid
    (y := { r.core with status := .decided, riskResult := some f }) ?_ rfl rfl ?_
  · intro r'' hr''
    exact congrArg (fun y : ResolutionCase => { y with riskResult := some f }) hr''
  intro w₁ hs₁
  exact h _ ⟨_, hs₁.case, rfl⟩

/-- **A billing result whose task is pending gets into its slot before anything else runs.** -/
theorem pauses_billingResultHandler {e : Inbound BillingRefundAnalysisCompletedPayload}
    {payload : BillingRefundAnalysisCompletedPayload} {Q : Unit → World → Prop}
    (hs : Stored w k x) (hu : undecided x.status = true) (ht : x.billingTaskId = some t)
    (hp : t ∈ x.pendingTasks) (he : e.payload = some payload) (hk : e.correlationId = k)
    (h : ∀ w', w'.view.cases k = some (attachedCase x t (.billing (billingFinding payload t))) →
      R w') : (billingResultHandler e).Pauses R Q w := by
  unfold billingResultHandler
  rw [he]
  apply Coro.Pauses.bind
  apply pauses_readStore
  obtain ⟨r, hr, hx⟩ := hs.getByCorrelationId
  rw [hk, hr]
  have hid : r.caseId = k := (congrArg ResolutionCase.caseId hx).trans hs.caseId
  have ht' : r.billingTaskId = some t := (congrArg ResolutionCase.billingTaskId hx).trans ht
  dsimp only
  rw [ht']
  apply Coro.Pauses.bind
  refine pauses_assign hs hid (y := x) (fun _ hr => hr) rfl rfl ?_
  intro w₁ hs₁
  apply Coro.Pauses.bind
  exact pauses_applyResult hs₁ hid hu hp h

/-- **A risk result whose task is pending gets into its slot, or decides the case**, before
    anything else runs. -/
theorem pauses_riskResultHandler {e : Inbound RiskReviewCompletedPayload}
    {payload : RiskReviewCompletedPayload} {Q : Unit → World → Prop}
    (hs : Stored w k x) (hu : undecided x.status = true) (ht : x.riskTaskId = some t)
    (hp : t ∈ x.pendingTasks) (he : e.payload = some payload) (hk : e.correlationId = k)
    (hattached : ∀ w', w'.view.cases k = some (attachedCase x t (.risk (riskFinding payload t))) →
      R w') (hfinal : ∀ w', Final w'.view k → R w') : (riskResultHandler e).Pauses R Q w := by
  unfold riskResultHandler
  rw [he]
  apply Coro.Pauses.bind
  apply pauses_readStore
  obtain ⟨r, hr, hx⟩ := hs.getByCorrelationId
  rw [hk, hr]
  have hid : r.caseId = k := (congrArg ResolutionCase.caseId hx).trans hs.caseId
  have ht' : r.riskTaskId = some t := (congrArg ResolutionCase.riskTaskId hx).trans ht
  dsimp only
  rw [ht']
  dsimp only
  split
  · exact pauses_escalateHighRisk hs hid hu hfinal
  · apply Coro.Pauses.bind
    refine pauses_assign hs hid (y := x) (fun _ hr => hr) rfl rfl ?_
    intro w₁ hs₁
    apply Coro.Pauses.bind
    exact pauses_applyResult hs₁ hid hu hp hattached

end Stretch

/-! ## The fate of an opinion -/

/-- The id of the task that the opinion is for. -/
def Opinion.taskOf (S : Settings) : Opinion → UUID
  | .billing e => billingTaskOf S e.correlationId
  | .risk e => riskTaskOf S e.correlationId

section Fate

variable {S : Settings} {o : Opinion} {V : View} {c : ResolutionCase} {t : UUID}

theorem Opinion.taskId_delegated (hok : ViewOk S V) (hc : V.cases o.caseId = some c)
    (hb : c.billingTaskId.isSome ∨ c.riskTaskId.isSome) : o.taskId c = some (o.taskOf S) := by
  obtain ⟨hbt, hrt, -⟩ := hok.delegated hc hb
  cases o with
  | billing e => exact hbt
  | risk e => exact hrt

theorem Opinion.taskId_eq (hok : ViewOk S V) (hc : V.cases o.caseId = some c)
    (ht : o.taskId c = some t) : t = o.taskOf S := by
  have hb : c.billingTaskId.isSome ∨ c.riskTaskId.isSome := by
    cases o with
    | billing e => exact .inl (Option.isSome_of_mem ht)
    | risk e => exact .inr (Option.isSome_of_mem ht)
  exact Option.some.inj (ht.symm.trans (o.taskId_delegated hok hc hb))

theorem Opinion.awaited_iff {s : State} : o.Awaited s ↔ o.AwaitedIn s.world.view := by
  constructor
  · rintro ⟨c, hc, t, ht, hp⟩
    refine ⟨c.core, InMemoryCaseStateStore.view_cases_of_get hc, t, ?_, hp⟩
    cases o <;> exact ht
  · rintro ⟨x, hx, t, ht, hp⟩
    obtain ⟨c, hc, rfl⟩ := InMemoryCaseStateStore.view_cases_iff.mp hx
    refine ⟨c, hc, t, ?_, hp⟩
    cases o <;> exact ht

/-- The delivery of a valid opinion that an open case awaits fills the slot, or decides the
    case. -/
theorem deliver_awaited {s s' : State} {os : Trace} (hok : ViewOk S s.world.view)
    (hvalid : o.Valid) (hstep : (service S).step (.deliver o.message) s = some (os, s'))
    (hawaited : o.AwaitedIn s.world.view) (hopen : ¬ Final s.world.view o.caseId) :
    o.slotIn s'.world.view = o.finding (o.taskOf S) ∨ Final s'.world.view o.caseId := by
  obtain ⟨x, hx, t, ht, hp⟩ := hawaited
  obtain rfl := o.taskId_eq hok hx ht
  have hcase := hok.case _ x hx
  have hs : Stored s.world o.caseId x :=
    ⟨hx, hok.indexed _ x hx, hcase.caseId, hcase.correlationId⟩
  have hu : undecided x.status = true := by
    cases hu : undecided x.status with
    | false => exact absurd ⟨x, hx, hu⟩ hopen
    | true => rfl
  have hworld : s'.world = ((o.message.handler S).segment s.world).2.1 := by
    simp only [EventLoop.step] at hstep
    split at hstep
    · exact absurd hstep (by simp)
    · obtain ⟨-, rfl⟩ := Prod.mk.inj (Option.some.inj hstep)
      rfl
  rw [hworld]
  refine Coro.Pauses.segment
    (R := fun w : World => o.slotIn w.view = o.finding (o.taskOf S) ∨ Final w.view o.caseId) ?_
  obtain ⟨f, hf⟩ := Option.isSome_iff_exists.mp (hvalid (o.taskOf S))
  cases o with
  | billing e =>
    obtain ⟨payload, he, rfl⟩ := Option.map_eq_some_iff.mp hf
    refine pauses_billingResultHandler hs hu ht hp he rfl ?_
    intro w' hw'
    left
    rw [hf]
    exact congrArg (Option.bind · (Opinion.billing e).slot) hw'
  | risk e =>
    obtain ⟨payload, he, rfl⟩ := Option.map_eq_some_iff.mp hf
    refine pauses_riskResultHandler hs hu ht hp he rfl ?_ fun w' => .inr
    intro w' hw'
    left
    rw [hf]
    exact congrArg (Option.bind · (Opinion.risk e).slot) hw'

end Fate

/-- **An opinion gets into its slot exactly if its task is pending when it is handled.** For every
    run, every valid result delivered in it, and every later state in which its case has been
    delegated and is still undecided; no other valid result competes for the slot. -/
theorem held_iff_awaited {S : Settings} {now : Time} {nextId : UUID} {tr₁ tr₂ os : Trace}
    {s₁ s₁' s₂ : State} (hrun₁ : (service S).Run EventLoop.anyStep (start now nextId) tr₁ s₁)
    (o : Opinion) (hvalid : o.Valid)
    (hstep : (service S).step (.deliver o.message) s₁ = some (os, s₁'))
    (hrun₂ : (service S).Run EventLoop.anyStep s₁' tr₂ s₂) (hone : o.Unrivalled (tr₁ ++ tr₂))
    {x : ResolutionCase} (hx : s₂.world.store.get o.caseId = some x)
    (hdelegated : x.billingTaskId.isSome) (hu : undecided x.status = true) :
    o.HeldBy x ↔ o.Awaited s₁ := by
  obtain ⟨hone₁, hone₂⟩ := Opinion.unrivalled_append.mp hone
  have hstart : Phases S (start now nextId) fun _ => .quiet :=
    Coupled.init (fun _ => rfl) (start_viewOk now nextId)
  obtain ⟨ph₁, hph₁, -⟩ := Phases.run (J := fun _ _ _ => True)
    (fun _ _ _ _ _ _ _ _ _ _ _ _ _ => trivial) [] hstart trivial hrun₁
  obtain ⟨os', p', ph₁', hacts, hph₁'⟩ := deliver_acts hph₁ hstep
  have hok₂ : ViewOk S s₂.world.view :=
    run_viewOk ((hrun₁.step _ hstep fun _ _ => trivial).trans hrun₂)
  have hview : s₂.world.view.cases o.caseId = some x.core :=
    InMemoryCaseStateStore.view_cases_of_get hx
  have htask : o.taskId x = some (o.taskOf S) := by
    have := o.taskId_delegated hok₂ hview (.inl hdelegated)
    cases o <;> exact this
  have hslot : o.slot x = o.slotIn s₁'.world.view := by
    rw [← slot_run hph₁' hrun₂ hone₂]
    unfold Opinion.slotIn
    rw [hview]
    cases o <;> rfl
  have hopen : ¬ Final s₁'.world.view o.caseId :=
    fun h => not_final_of_undecided hview hu (final_run hph₁' hrun₂ h)
  rw [Opinion.awaited_iff]
  constructor
  · rintro ⟨t, f, ht, hf, hheld⟩
    by_contra hno
    -- nothing was in the slot before the delivery, and the delivery puts nothing into it
    have hempty : o.slotIn s₁.world.view = none := slot_run hstart hrun₁ hone₁
    have hloop : o.message.loop ≠ .intake := by cases o <;> exact LoopId.noConfusion
    rcases (slot_acts hloop hacts hno).2 with hsame | hfinal
    · rw [hslot, hsame, hempty] at hheld
      exact absurd hheld (by simp)
    · exact hopen hfinal
  · intro hawaited
    have hopen₁ : ¬ Final s₁.world.view o.caseId := by
      intro h
      refine hopen (final_run hph₁ (.step .nil _ hstep fun _ _ => trivial) h)
    rcases deliver_awaited hph₁.inv hvalid hstep hawaited hopen₁ with hfilled | hfinal
    · obtain ⟨f, hf⟩ := Option.isSome_iff_exists.mp (hvalid (o.taskOf S))
      exact ⟨o.taskOf S, f, htask, hf, (hslot.trans hfilled).trans hf⟩
    · exact absurd hfinal hopen

/-! ### The case `1` and its billing opinion -/

def approval : Opinion := .billing (billingEnvelope "approve")

def noBillingResult : LoopId × Obs → Bool
  | (_, .received (.billingResult _)) => false
  | _ => true

theorem unrivalled_of_noBillingResult {tr : Trace} (h : tr.all noBillingResult = true) :
    approval.Unrivalled tr := by
  intro i m hm hsame
  have hno := List.all_eq_true.mp h _ hm
  cases m with
  | billingResult e => exact Bool.false_ne_true hno
  | ticket | taskResult | riskResult | sweep => exact hsame

/-- A record that has been delegated and is undecided, with and without the billing finding. -/
def openWith (billing : Bool) (c : ResolutionCase) : Bool :=
  c.billingTaskId.isSome && undecided c.status && c.billingResult.isSome == billing

theorem held_iff_awaited_delegated :
    ∃ tr s os s' x, (service sampleSettings).Run EventLoop.anyStep (start 0 1000) tr s ∧
      (service sampleSettings).step (.deliver approval.message) s = some (os, s') ∧
      s'.world.store.get 1 = some x ∧ x.billingResult.isSome ∧
      (approval.HeldBy x ↔ approval.Awaited s) := by
  have hexec : (((service sampleSettings).exec delegationSchedule (start 0 1000)).map fun out =>
      (out.1.all noBillingResult,
        ((service sampleSettings).step (.deliver approval.message) out.2).map fun out' =>
          (out'.2.world.store.get 1).map (openWith true))) =
      some (true, some (some true)) := by decide +kernel
  obtain ⟨⟨tr, s⟩, hout, heq⟩ := Option.map_eq_some_iff.mp hexec
  simp only [Prod.mk.injEq] at heq
  obtain ⟨hnone, heq⟩ := heq
  obtain ⟨⟨os, s'⟩, hstep, heq⟩ := Option.map_eq_some_iff.mp heq
  obtain ⟨x, hx, heq⟩ := Option.map_eq_some_iff.mp heq
  simp only [openWith, Bool.and_eq_true, beq_iff_eq] at heq
  obtain ⟨⟨hb, hu⟩, hheld⟩ := heq
  have hrun := EventLoop.Run.of_exec (G := EventLoop.anyStep) hout fun _ _ _ => trivial
  refine ⟨tr, s, os, s', x, hrun, hstep, hx, hheld, ?_⟩
  refine held_iff_awaited hrun approval (fun _ => rfl) hstep .nil ?_ hx hb hu
  rw [List.append_nil]
  exact unrivalled_of_noBillingResult hnone

/-- The result comes before the ticket; the ticket is delegated, and the slot stays empty. -/
theorem early_opinion_is_lost :
    ∃ os s' tr s x,
      (service sampleSettings).step (.deliver approval.message) (start 0 1000) = some (os, s') ∧
      (service sampleSettings).Run EventLoop.anyStep s' tr s ∧ s.Quiescent ∧
      s.world.store.get 1 = some x ∧ x.billingTaskId.isSome ∧ undecided x.status = true ∧
      approval.Valid ∧ ¬ approval.HeldBy x := by
  have hexec : (((service sampleSettings).step (.deliver approval.message) (start 0 1000)).bind
      fun out => ((service sampleSettings).exec delegationSchedule out.2).map fun out' =>
        (allIdle out'.2, (out'.2.world.store.get 1).map (openWith false))) =
      some (true, some true) := by decide +kernel
  obtain ⟨⟨os, s'⟩, hstep, heq⟩ := Option.bind_eq_some_iff.mp hexec
  obtain ⟨⟨tr, s⟩, hout, heq⟩ := Option.map_eq_some_iff.mp heq
  simp only [Prod.mk.injEq] at heq
  obtain ⟨hidle, heq⟩ := heq
  obtain ⟨x, hx, heq⟩ := Option.map_eq_some_iff.mp heq
  simp only [openWith, Bool.and_eq_true, beq_iff_eq] at heq
  obtain ⟨⟨hb, hu⟩, hempty⟩ := heq
  refine ⟨os, s', tr, s, x, hstep, .of_exec hout fun _ _ _ => trivial,
    quiescent_of_allIdle hidle, hx, hb, hu, fun _ => rfl, ?_⟩
  rintro ⟨t, f, -, -, hheld⟩
  obtain ⟨g, hg, -⟩ := Option.map_eq_some_iff.mp hheld
  rw [hg] at hempty
  exact absurd hempty (by simp)

end RefundOps.Resolution
