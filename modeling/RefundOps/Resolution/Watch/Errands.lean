import RefundOps.Lib.Writes
import RefundOps.Resolution.Properties.Decisions
import RefundOps.Resolution.Store.Operations

/-!
# What a loop is at

The case protocol says what becomes of a case between two suspensions. Here is what is true of
each single assignment of a handler: whose record it touches, which status it overwrites, and
which case and which earlier event a published event names. A loop's ghost is its *errand*: the
case it works for and what it has shown since it took that case up. The reaper takes up one case
after the other (`Writes.turn`); every other handler has one errand from its message to its end.

A status change is a `Shift`: one that `_ALLOWED_TRANSITIONS` declares, or one of three that it
does not, with what led to it. A claim is apart, because it is only noted after it is made.
-/

set_option autoImplicit false

namespace RefundOps.Resolution

/-- How far a loop is with a claim: the reaper has taken a case up and is about to claim it, or a
    loop has claimed its case and not yet said so. -/
inductive Stage where
  | free
  | opened
  | claiming
  deriving DecidableEq, Repr

/-- The case a loop works for and what it has shown since it took it up. -/
structure Errand where
  case : UUID
  shown : List Obs
  stage : Stage

/-- The errand after it has shown `o`. -/
def Errand.tell (p : Errand) (o : Obs) : Errand :=
  { p with shown := p.shown ++ [o], stage := .free }

theorem Errand.mem_tell (p : Errand) (o : Obs) : o ∈ (p.tell o).shown := by
  simp [Errand.tell]

theorem Errand.shown_tell (p : Errand) (o : Obs) : p.shown ⊆ (p.tell o).shown :=
  List.subset_append_left _ _

abbrev Watching := Seg World Obs Errand

def World.status (w : World) (k : UUID) : Option CaseStatus :=
  (w.store.get k).map (·.status)

theorem World.status_eq_view (w : World) (k : UUID) :
    w.status k = (w.view.cases k).map (·.status) := by
  unfold World.status World.view InMemoryCaseStateStore.view
  rw [Option.map_map]
  rfl

theorem World.status_of_view {w : World} {k : UUID} {x : ResolutionCase}
    (h : w.view.cases k = some x) : w.status k = some x.status := by
  rw [World.status_eq_view, h]
  rfl

/-- Every record is as it was, except that of the case `k`. -/
def Framed (k : UUID) (w w' : World) : Prop :=
  ∀ j, j ≠ k → w'.store.get j = w.store.get j

/-- The notes that come with a case becoming ready, being claimed or being decided on. -/
def Obs.weighty : Obs → Bool
  | .attached .. => true
  | .slotFailed .. => true
  | .claimed _ => true
  | .decisionTaken .. => true
  | _ => false

/-- The notes a handler makes on its way: neither a message nor an event on the broker. -/
def Obs.noted : Obs → Bool
  | .received _ => false
  | .published _ => false
  | _ => true

/-- The record of `k` is the one the stretch began with, and nothing was attached, failed, claimed
    or decided on since. -/
structure Calm (g : Watching) (k : UUID) : Prop where
  base : g.base.view.cases k = g.cur.view.cases k
  obs : ∀ o ∈ g.obs, o.weighty = false

theorem Calm.status {g : Watching} {k : UUID} (h : Calm g k) :
    g.base.status k = g.cur.status k := by
  rw [World.status_eq_view, World.status_eq_view, h.base]

/-- A change of the status of the case of `g`. -/
inductive Shift (g : Watching) : CaseStatus → CaseStatus → Prop where
  | declared {s s' : CaseStatus} (h : canTransition s s' = true) : Shift g s s'
  | closed {ev : OutEvent} {d : CustomerResponseDecisionPayload}
      (hev : .published ev ∈ g.phase.shown) (hp : ev.payload = .resolutionDecided d)
      (hd : d.outcome = .directResponse) : Shift g .classified .closed
  | reverted {c : ResolutionCase} {now : Time} {d : CustomerResponseDecisionPayload}
      (htaken : .decisionTaken c now d ∈ g.phase.shown) (hc : c.caseId = g.phase.case)
      (hcalm : Calm g g.phase.case) : Shift g .escalated .decided

/-- The event `id` is one that this note shows, and it is of the case `k`: a published event, or a
    message that was received. A task result belongs to the case of its task. -/
def Obs.Names (S : Settings) (k id : UUID) : Obs → Prop
  | .published ev => ev.eventId = id ∧ ev.correlationId = k
  | .received (.ticket e) => e.eventId = id ∧ e.correlationId = k
  | .received (.billingResult e) => e.eventId = id ∧ e.correlationId = k
  | .received (.riskResult e) => e.eventId = id ∧ e.correlationId = k
  | .received (.taskResult e) => e.eventId = id ∧
      ∃ result, e.payload = some result ∧
        (result.taskId = billingTaskOf S k ∨ result.taskId = riskTaskOf S k)
  | _ => False

/-- The errand has an event to name as the cause, or it is the reaper's and has none. -/
def Caused (S : Settings) (i : LoopId) (p : Errand) (id : UUID) : Prop :=
  (∃ o ∈ p.shown, o.Names S p.case id) ∨ (i = .reaper ∧ .claimed p.case ∈ p.shown)

theorem Caused.mono {S : Settings} {i : LoopId} {p p' : Errand} {id : UUID}
    (h : Caused S i p id) (hcase : p'.case = p.case) (hsub : p.shown ⊆ p'.shown) :
    Caused S i p' id := by
  unfold Caused
  rw [hcase]
  rcases h with ⟨o, ho, hn⟩ | ⟨hi, hc⟩
  · exact .inl ⟨o, hsub ho, hn⟩
  · exact .inr ⟨hi, hsub hc⟩

/-- The request is about the case `k`. -/
def Request.About (k : UUID) : Request → Prop
  | .send ev => ev.correlationId = k
  | .sendAudit _ a => a.original.correlationId = k
  | .discoverAgents => True
  | .classifyWithLlm _ correlationId _ => correlationId = k

/-- What one assignment of loop `i` may do. -/
inductive Writes (S : Settings) (i : LoopId) (g : Watching) : List Obs → World → Errand → Prop where
  | edit {w' : World} (hfree : g.phase.stage = .free) (hframe : Framed g.phase.case g.cur w')
      (hstatus : ∀ s s', g.cur.status g.phase.case = some s → w'.status g.phase.case = some s' →
        s = s' ∨ Shift g s s') :
      Writes S i g [] w' g.phase
  | claim {w' : World} {s : CaseStatus} (hstage : g.phase.stage ≠ .claiming)
      (hframe : Framed g.phase.case g.cur w') (hs : g.cur.status g.phase.case = some s)
      (hopen : s = .waitingForPeerReviews ∨ s = .readyForDecision)
      (hdecided : w'.status g.phase.case = some .decided) (hcalm : Calm g g.phase.case) :
      Writes S i g [] w' { g.phase with stage := .claiming }
  | note {o : Obs}
      (hstage : g.phase.stage = .free ∨ g.phase.stage = .claiming ∧ o = .claimed g.phase.case)
      (ho : o.noted = true) :
      Writes S i g [o] g.cur (g.phase.tell o)
  | publish {ev : OutEvent} (hfree : g.phase.stage = .free)
      (hcase : ev.correlationId = g.phase.case) (hcause : Caused S i g.phase ev.causationId) :
      Writes S i g [.published ev] g.cur (g.phase.tell (.published ev))
  | turn {w' : World} (hi : i = .reaper) (hfree : g.phase.stage = .free)
      (hobs : ∀ o ∈ g.obs, o.weighty = false) (hstore : w'.store = g.cur.store) (k : UUID) :
      Writes S i g [] w' ⟨k, [], .opened⟩

/-- What a loop may suspend on: something about its case. The audit of a task result carries the
    correlation id that came with it. -/
def Errand.Asks (p : Errand) (x : Request) : Prop :=
  p.stage = .free ∧
    (x.About p.case ∨ ∃ e id a, .received (.taskResult e) ∈ p.shown ∧ x = .sendAudit id a ∧
      a.original = e.ref)

/-- The watch over the errands. -/
def errands (S : Settings) : Watch LoopId World Obs Request Errand where
  Write := Writes S
  Ask := Errand.Asks
  Ends := fun p => p.stage = .free

/-- The errand a message starts. A task result is for the case its task is registered under. -/
def errandOf (m : Message) (w : World) : Errand where
  case := match m with
    | .ticket e => e.correlationId
    | .billingResult e => e.correlationId
    | .riskResult e => e.correlationId
    | .taskResult e =>
        match e.payload with
        | none => e.correlationId
        | some result => (w.store.byTaskId.get? result.taskId).getD e.correlationId
    | .sweep => 0
  shown := [.received m]
  stage := .free

abbrev Obeys {α : Type} (S : Settings) (i : LoopId) (Q : α → Watching → Prop)
    (E : String → Watching → Prop) (m : M α) (g : Watching) : Prop :=
  Coro.obeys (protocol S) (errands S) i Q E m g

/-! ## Operations -/

variable {S : Settings} {i : LoopId} {g : Watching}

section Ops

variable {α β : Type} {Q : α → Watching → Prop} {E : String → Watching → Prop}

theorem obeys_then {m : M α} {f : α → M β} {Q : β → Watching → Prop}
    (h : Obeys S i (fun a g' => Obeys S i Q E (f a) g') E m g) : Obeys S i Q E (m >>= f) g :=
  Coro.obeys_bind.mpr h

theorem obeys_pure {a : α} (h : Q a g) : Obeys S i Q E (pure a) g := h

theorem obeys_ofExcept_ok {a : α} (h : Q a g) : Obeys S i Q E (Coro.ofExcept (.ok a)) g := h

theorem obeys_datetimeNow {Q : Time → Watching → Prop} (h : Q g.cur.now g) :
    Obeys S i Q E datetimeNow g := h

theorem obeys_readStore {f : InMemoryCaseStateStore → α} (h : Q (f g.cur.store) g) :
    Obeys S i Q E (readStore f) g := h

/-- A write that was checked, and what follows it. -/
theorem obeys_write {w' : World} {p : Errand} {Q : Unit → Watching → Prop}
    (hw : Writes S i g [] w' p) (h : Q () { g with phase := p, cur := w' }) :
    Obeys S i Q E (Coro.write w') g := by
  refine ⟨p, hw, ?_⟩
  rw [List.append_nil]
  exact h

/-- A write that leaves the store alone. -/
theorem Writes.silent {w' : World} (hfree : g.phase.stage = .free)
    (hstore : w'.store = g.cur.store) : Writes S i g [] w' g.phase := by
  refine .edit hfree (fun j _ => by rw [hstore]) ?_
  intro s s' hs hs'
  left
  unfold World.status at hs hs'
  rw [hstore, hs] at hs'
  exact Option.some.inj hs'

theorem obeys_uuid4 {Q : UUID → Watching → Prop} (hfree : g.phase.stage = .free)
    (h : ∀ w', w'.view = g.cur.view → Q g.cur.nextId { g with cur := w' }) :
    Obeys S i Q E uuid4 g := by
  apply obeys_then
  show Obeys S i _ E (Coro.write _ >>= _) g
  apply obeys_then
  exact obeys_write (.silent hfree rfl) (h _ rfl)

/-- The reaper takes up the case `k`. -/
theorem obeys_uuid4_turn {Q : UUID → Watching → Prop} (k : UUID) (hi : i = .reaper)
    (hfree : g.phase.stage = .free) (hobs : ∀ o ∈ g.obs, o.weighty = false)
    (h : ∀ w', w'.view = g.cur.view →
      Q g.cur.nextId { g with phase := ⟨k, [], .opened⟩, cur := w' }) :
    Obeys S i Q E uuid4 g := by
  apply obeys_then
  show Obeys S i _ E (Coro.write _ >>= _) g
  apply obeys_then
  exact obeys_write (.turn hi hfree hobs (by rfl) k) (h _ rfl)

theorem obeys_withStore {f : InMemoryCaseStateStore → α × InMemoryCaseStateStore} {p : Errand}
    (hw : ∀ w', w'.store = (f g.cur.store).2 → Writes S i g [] w' p)
    (h : ∀ w', w'.view = (f g.cur.store).2.view →
      Q (f g.cur.store).1 { g with phase := p, cur := w' }) : Obeys S i Q E (withStore f) g := by
  apply obeys_then
  show Obeys S i _ E (Coro.write _ >>= _) g
  apply obeys_then
  exact obeys_write (hw _ rfl) (h _ rfl)

theorem obeys_updateStore {err : String} {Q : Unit → Watching → Prop}
    {f : InMemoryCaseStateStore → Option InMemoryCaseStateStore} {st' : InMemoryCaseStateStore}
    (hf : f g.cur.store = some st')
    (hw : ∀ w', w'.store = st' → Writes S i g [] w' g.phase)
    (h : ∀ w', w'.view = st'.view → Q () { g with cur := w' }) :
    Obeys S i Q E (updateStore err f) g := by
  rw [updateStore_eq]
  apply obeys_then
  show Obeys S i Q E ((f g.cur.store).elim (throw err) fun st =>
    Coro.write { g.cur with store := st }) g
  rw [hf]
  exact obeys_write (hw _ rfl) (h _ rfl)

theorem obeys_deref {c x : ResolutionCase} {Q : ResolutionCase → Watching → Prop}
    (hc : g.cur.view.cases c.caseId = some x) (h : ∀ r, r.core = x → Q r g) :
    Obeys S i Q E (deref c) g := by
  obtain ⟨r, hr, hx⟩ := InMemoryCaseStateStore.view_cases_iff.mp hc
  apply obeys_readStore
  rw [hr]
  exact h r hx

theorem obeys_note {o : Obs} {Q : Unit → Watching → Prop}
    (hstage : g.phase.stage = .free ∨ g.phase.stage = .claiming ∧ o = .claimed g.phase.case)
    (ho : o.noted = true)
    (h : Q () ⟨g.phase.tell o, g.base, g.obs ++ [o], g.cur⟩) :
    Obeys S i Q E (Coro.observe o) g :=
  ⟨_, .note hstage ho, h⟩

end Ops

/-! ## Assignments -/

section Assignments

variable {E : String → Watching → Prop} {Q : Unit → Watching → Prop}

/-- The record of the errand's case is replaced. -/
theorem Writes.put {st' : InMemoryCaseStateStore} {w' : World} {x y : ResolutionCase}
    (hfree : g.phase.stage = .free)
    (hframe : ∀ j, j ≠ g.phase.case → st'.get j = g.cur.store.get j)
    (hx : g.cur.view.cases g.phase.case = some x) (hy : st'.view.cases g.phase.case = some y)
    (hstatus : x.status = y.status ∨ Shift g x.status y.status) (hw : w'.store = st') :
    Writes S i g [] w' g.phase := by
  refine .edit hfree (fun j hj => by rw [hw]; exact hframe j hj) ?_
  intro s s' hs hs'
  have hs₁ : x.status = s := Option.some.inj ((World.status_of_view hx).symm.trans hs)
  have hy' : w'.view.cases g.phase.case = some y := by
    unfold World.view
    rw [hw]
    exact hy
  have hs₂ : y.status = s' := Option.some.inj ((World.status_of_view hy').symm.trans hs')
  rw [← hs₁, ← hs₂]
  exact hstatus

theorem obeys_assign {c x y : ResolutionCase} {f : ResolutionCase → ResolutionCase}
    (hfree : g.phase.stage = .free) (hid : c.caseId = g.phase.case)
    (hx : g.cur.view.cases g.phase.case = some x) (hf : ∀ r, r.core = x → (f r).core = y)
    (hstatus : x.status = y.status ∨ Shift g x.status y.status)
    (h : ∀ w', w'.view = g.cur.view.put g.phase.case y → Q () { g with cur := w' }) :
    Obeys S i Q E (assign c f) g := by
  obtain ⟨r, hr, hrx⟩ := InMemoryCaseStateStore.view_cases_iff.mp hx
  have hview := InMemoryCaseStateStore.view_modify hr f
  rw [hf r hrx] at hview
  unfold assign
  rw [hid]
  refine obeys_withStore (p := g.phase) ?_ ?_
  · intro w' hw'
    refine .put hfree (fun j hj => InMemoryCaseStateStore.get_modify_ne _ f hj) hx ?_ hstatus hw'
    rw [hview]
    exact View.put_cases_self _ _ _
  · intro w' hw'
    exact h w' (hw'.trans hview)

/-- An assignment to fields that no decision reads. -/
theorem obeys_assign_minor {c x : ResolutionCase} {f : ResolutionCase → ResolutionCase}
    (hfree : g.phase.stage = .free) (hid : c.caseId = g.phase.case)
    (hx : g.cur.view.cases g.phase.case = some x) (hf : ∀ r, (f r).core = r.core)
    (h : ∀ w', w'.view = g.cur.view → Q () { g with cur := w' }) :
    Obeys S i Q E (assign c f) g := by
  refine obeys_assign hfree hid hx (fun r hr => (hf r).trans hr) (.inl rfl) ?_
  intro w' hw'
  exact h w' (hw'.trans (View.put_self hx))

theorem obeys_save {c x : ResolutionCase} (hfree : g.phase.stage = .free)
    (hid : c.caseId = g.phase.case) (hx : g.cur.view.cases g.phase.case = some x)
    (hxid : x.caseId = g.phase.case) (hxcorr : x.correlationId = g.phase.case)
    (hindex : g.cur.view.byCorrelation g.phase.case = some g.phase.case)
    (h : ∀ w', w'.view = g.cur.view → Q () { g with cur := w' }) :
    Obeys S i Q E (save c) g := by
  unfold save
  apply obeys_then
  refine obeys_deref (hid ▸ hx) ?_
  intro r hr
  apply obeys_then
  apply obeys_datetimeNow
  have hrid : r.caseId = g.phase.case := (congrArg ResolutionCase.caseId hr).trans hxid
  have hrcorr : r.correlationId = g.phase.case :=
    (congrArg ResolutionCase.correlationId hr).trans hxcorr
  have hcorr : g.cur.store.byCorrelation.get? r.correlationId = some r.caseId := by
    rw [hrcorr, hrid]
    exact hindex
  obtain ⟨st', hst, hview⟩ : ∃ st', g.cur.store.save r none g.cur.now = some st' ∧
      st'.view = g.cur.store.view.put r.caseId r.core :=
    InMemoryCaseStateStore.view_save hcorr
  rw [hrid, hr] at hview
  refine obeys_updateStore hst ?_ ?_
  · intro w' hw'
    refine .put (y := x) hfree ?_ hx ?_ (.inl rfl) hw'
    · intro j hj
      have hfate := InMemoryCaseStateStore.run_get (.save r none g.cur.now) g.cur.store j
      have hrun : (Operation.save r none g.cur.now).run g.cur.store = (.returned, st') := by
        simp only [Operation.run, hst, Operation.attempt]
      rw [hrun] at hfate
      exact hfate.unchanged fun hk => hj ((Option.some.inj hk).symm.trans hrid)
    · rw [hview]
      exact View.put_cases_self _ _ _
  · intro w' hw'
    exact h w' ((hw'.trans hview).trans (View.put_self hx))

end Assignments

/-! ## Suspensions -/

/-- Where a program of the errand is later. -/
structure Onward (S : Settings) (i : LoopId) (g g' : Watching) : Prop where
  case : g'.phase.case = g.phase.case
  shown : g.phase.shown ⊆ g'.phase.shown
  free : g'.phase.stage = .free
  rely : (protocol S).Rely i g.cur g'.cur
  viewOk : ViewOk S g'.cur.view

theorem Onward.trans {g' g'' : Watching} (h : Onward S i g g') (h' : Onward S i g' g'') :
    Onward S i g g'' :=
  ⟨h'.case.trans h.case, fun _ ho => h'.shown (h.shown ho), h'.free, h.rely.trans h'.rely, h'.viewOk⟩

/-- After a step that the view does not show. -/
theorem Onward.silent {w' : World} (hfree : g.phase.stage = .free) (hok : ViewOk S g.cur.view)
    (hw : w'.view = g.cur.view) : Onward S i g { g with cur := w' } :=
  ⟨rfl, fun _ ho => ho, hfree, rely_of_view hok hw, hw ▸ hok⟩

/-- Later, and suspended at least once since. -/
structure Resumed (S : Settings) (i : LoopId) (g g' : Watching) : Prop extends
    Onward S i g g' where
  calm : ∀ k, Calm g' k

theorem Resumed.after {g' g'' : Watching} (h : Onward S i g g') (h' : Resumed S i g' g'') :
    Resumed S i g g'' :=
  ⟨h.trans h'.toOnward, h'.calm⟩

theorem Resumed.silent {g' : Watching} {w' : World} (h : Resumed S i g g')
    (hw : w'.view = g'.cur.view) : Resumed S i g { g' with cur := w' } :=
  ⟨h.toOnward.trans (.silent h.free h.viewOk hw), fun k =>
    ⟨(h.calm k).base.trans (by show _ = w'.view.cases k; rw [hw]), (h.calm k).obs⟩⟩

theorem resumed_start {w : World} {p : Errand} {os : List Obs} (hcase : p.case = g.phase.case)
    (hshown : g.phase.shown ⊆ p.shown) (hfree : p.stage = .free)
    (hrely : (protocol S).Rely i g.cur w) (hok : ViewOk S w.view)
    (hos : ∀ o ∈ os, o.weighty = false) : Resumed S i g ⟨p, w, os, w⟩ :=
  ⟨⟨hcase, hshown, hfree, hrely, hok⟩, fun _ => ⟨rfl, hos⟩⟩

theorem obeys_request {x : Request} {Q : Reply x → Watching → Prop} {E : String → Watching → Prop}
    (hfree : g.phase.stage = .free)
    (hask : x.About g.phase.case ∨ ∃ e id a, .received (.taskResult e) ∈ g.phase.shown ∧
      x = .sendAudit id a ∧ a.original = e.ref)
    (h : ∀ w' y, Resumed S i g ⟨g.phase, w', [], w'⟩ → Q y ⟨g.phase, w', [], w'⟩) :
    Obeys S i Q E (Coro.request x) g := by
  refine ⟨⟨hfree, hask⟩, ?_⟩
  intro w' hr hok y
  exact h w' y (resumed_start rfl (fun _ ho => ho) hfree hr hok (by simp))

theorem obeys_publish {payload : OutPayload} {correlationId causationId : UUID}
    {Q : OutEvent → Watching → Prop} {E : String → Watching → Prop}
    (hfree : g.phase.stage = .free) (hok : ViewOk S g.cur.view)
    (hcase : correlationId = g.phase.case) (hcause : Caused S i g.phase causationId)
    (hsent : ∀ ev g', Resumed S i g g' → .published ev ∈ g'.phase.shown → ev.payload = payload →
      ev.correlationId = correlationId → Q ev g')
    (hfail : ∀ e g', Resumed S i g g' → E e g') :
    Obeys S i Q E (publish payload correlationId causationId) g := by
  unfold publish
  apply obeys_then
  refine obeys_uuid4 hfree ?_
  intro w hw
  have hsilent : Onward S i g { g with cur := w } := .silent hfree hok hw
  unfold sendAndWait
  apply obeys_then
  refine obeys_request hfree (.inl hcase) ?_
  intro w' y hres
  have hres := Resumed.after hsilent hres
  cases y with
  | ok a =>
    apply obeys_then
    refine ⟨_, .publish hfree hcase hcause, ?_⟩
    exact hsent _ _ (resumed_start rfl (Errand.shown_tell _ _) rfl hres.rely hres.viewOk
      (List.forall_mem_singleton.mpr rfl)) (Errand.mem_tell _ _) rfl rfl
  | error e =>
    apply obeys_then
    refine obeys_note (.inl hfree) rfl ?_
    exact hfail e _ (resumed_start rfl (Errand.shown_tell _ _) rfl hres.rely hres.viewOk
      (List.forall_mem_singleton.mpr rfl))

theorem obeys_writeTaskAudit {envelope : EventRef} {outcome : AuditOutcome} {taskId : Option UUID}
    {reason : Option String} {hreason : outcome.reasonOk reason = true}
    {Q : Unit → Watching → Prop} {E : String → Watching → Prop}
    (hfree : g.phase.stage = .free) (hok : ViewOk S g.cur.view)
    (hask : envelope.correlationId = g.phase.case ∨
      ∃ e, .received (.taskResult e) ∈ g.phase.shown ∧ envelope = e.ref)
    (h : ∀ g', Resumed S i g g' → Q () g') :
    Obeys S i Q E (writeTaskAudit envelope outcome taskId reason hreason) g := by
  unfold writeTaskAudit
  apply obeys_then
  apply obeys_datetimeNow
  apply obeys_then
  refine obeys_uuid4 hfree ?_
  intro w hw
  apply obeys_then
  refine obeys_request hfree ?_ ?_
  · rcases hask with hcase | ⟨e, he, href⟩
    · exact .inl hcase
    · exact .inr ⟨e, _, _, he, rfl, href⟩
  · intro w' _ hres
    exact h _ (.after (.silent hfree hok hw) hres)

end RefundOps.Resolution
