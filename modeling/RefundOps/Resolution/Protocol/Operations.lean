import RefundOps.Resolution.Protocol.Views
import RefundOps.Resolution.Protocol.Stability

/-!
# The operations of a handler, under the protocol

One rule for each operation of the handlers' monad. The state a rule leaves is given by its view
only: a proof about a handler knows that *some* world with that view is there, which is all the
actions look at. `Acc` says how far the stretch under way has been accounted for.
-/

set_option autoImplicit false

namespace RefundOps.Resolution

abbrev Stretch := Seg World Obs Phase

/-- The weakest precondition of a handler of loop `i` under the case protocol. -/
abbrev Wp {α : Type} (S : Settings) (i : LoopId) (Q : α → Stretch → Prop)
    (E : String → Stretch → Prop) (m : M α) (g : Stretch) : Prop :=
  Coro.wp (protocol S) i Q E m g

/-- The stretch so far is a sequence of actions that ends in phase `p`. -/
def Acc (S : Settings) (i : LoopId) (g : Stretch) (p : Phase) : Prop :=
  (protocol S).Acts i g.phase g.base g.obs p g.cur

variable {S : Settings} {i : LoopId} {g : Stretch}

namespace Acc

/-- The start of a stretch, with what it showed so far. -/
theorem start (p : Phase) (w : World) {os : List Obs} (h : ∀ o ∈ os, o.Minor) :
    Acc S i ⟨p, w, os, w⟩ p :=
  Protocol.Acts.single (Act.minor h)

/-- The start of a stretch that has shown nothing yet. -/
theorem resume (p : Phase) (w : World) : Acc S i ⟨p, w, [], w⟩ p := .start p w (by simp)

theorem step {p p' : Phase} {os : List Obs} {w' : World} (h : Acc S i g p)
    (ha : Act S i p g.cur.view os p' w'.view) :
    Acc S i { g with obs := g.obs ++ os, cur := w' } p' :=
  Protocol.Acts.tail h ha

theorem silent {p : Phase} {w' : World} (h : Acc S i g p) (hv : w'.view = g.cur.view) :
    Acc S i { g with cur := w' } p := by
  have hminor : Act S i p g.cur.view [] p w'.view := by
    rw [hv]
    exact .minor (by simp)
  simpa using h.step hminor

theorem quietly {p p' : Phase} {w' : World} (h : Acc S i g p)
    (ha : Act S i p g.cur.view [] p' w'.view) : Acc S i { g with cur := w' } p' := by
  have := h.step ha
  simpa using this

theorem viewOk {p : Phase} (h : Acc S i g p) (hbase : ViewOk S g.base.view) :
    ViewOk S g.cur.view :=
  Protocol.Acts.inv h hbase

end Acc

/-! ## Clock, ids, store -/

section Ops

variable {α : Type} {Q : α → Stretch → Prop} {E : String → Stretch → Prop}

theorem wp_datetimeNow {Q : Time → Stretch → Prop} (h : Q g.cur.now g) :
    Wp S i Q E datetimeNow g := h

theorem wp_uuid4 {Q : UUID → Stretch → Prop}
    (h : ∀ w', w'.view = g.cur.view → Q g.cur.nextId { g with cur := w' }) :
    Wp S i Q E uuid4 g := by
  unfold uuid4
  rw [Wp, Coro.wp_bind, Coro.wp_read, Coro.wp_bind, Coro.wp_write, Coro.wp_pure]
  exact h _ rfl

theorem wp_readStore {f : InMemoryCaseStateStore → α} (h : Q (f g.cur.store) g) :
    Wp S i Q E (readStore f) g := h

theorem wp_withStore {f : InMemoryCaseStateStore → α × InMemoryCaseStateStore}
    (h : ∀ w', w'.view = (f g.cur.store).2.view →
      Q (f g.cur.store).1 { g with cur := w' }) : Wp S i Q E (withStore f) g := by
  unfold withStore
  rw [Wp, Coro.wp_bind, Coro.wp_read, Coro.wp_bind, Coro.wp_write, Coro.wp_pure]
  exact h _ rfl

theorem wp_updateStore {err : String} {Q : Unit → Stretch → Prop}
    {f : InMemoryCaseStateStore → Option InMemoryCaseStateStore} {st' : InMemoryCaseStateStore}
    (hf : f g.cur.store = some st')
    (h : ∀ w', w'.view = st'.view → Q () { g with cur := w' }) :
    Wp S i Q E (updateStore err f) g := by
  unfold updateStore
  rw [Wp, Coro.wp_bind, Coro.wp_read, hf]
  simp only [Coro.wp_write]
  exact h _ rfl

theorem wp_deref {c x : ResolutionCase} {Q : ResolutionCase → Stretch → Prop}
    (hc : g.cur.view.cases c.caseId = some x) (h : ∀ r, r.core = x → Q r g) :
    Wp S i Q E (deref c) g := by
  obtain ⟨r, hr, hx⟩ := InMemoryCaseStateStore.view_cases_iff.mp hc
  apply wp_readStore
  rw [hr]
  exact h r hx

theorem wp_assign {c x y : ResolutionCase} {f : ResolutionCase → ResolutionCase}
    {Q : Unit → Stretch → Prop} (hc : g.cur.view.cases c.caseId = some x)
    (hf : ∀ r, r.core = x → (f r).core = y)
    (h : ∀ w', w'.view = g.cur.view.put c.caseId y → Q () { g with cur := w' }) :
    Wp S i Q E (assign c f) g := by
  obtain ⟨r, hr, hx⟩ := InMemoryCaseStateStore.view_cases_iff.mp hc
  apply wp_withStore
  intro w' hw
  apply h
  rw [hw, InMemoryCaseStateStore.view_modify hr, hf r hx]
  rfl

/-- An assignment to fields that no decision reads. -/
theorem wp_assign_minor {c x : ResolutionCase} {f : ResolutionCase → ResolutionCase}
    {Q : Unit → Stretch → Prop} (hc : g.cur.view.cases c.caseId = some x)
    (hf : ∀ r, (f r).core = r.core)
    (h : ∀ w', w'.view = g.cur.view → Q () { g with cur := w' }) :
    Wp S i Q E (assign c f) g := by
  refine wp_assign hc (fun r hr => (hf r).trans hr) ?_
  intro w' hw
  exact h w' (hw.trans (View.put_self hc))

theorem wp_save {c x : ResolutionCase} {Q : Unit → Stretch → Prop}
    (hc : g.cur.view.cases c.caseId = some x) (hid : x.caseId = c.caseId)
    (hcorr : g.cur.view.byCorrelation x.correlationId = some x.caseId)
    (h : ∀ w', w'.view = g.cur.view → Q () { g with cur := w' }) :
    Wp S i Q E (save c) g := by
  unfold save
  rw [Wp, Coro.wp_bind]
  refine wp_deref hc ?_
  intro r hr
  rw [Coro.wp_bind]
  apply wp_datetimeNow
  subst hr
  have hcorr' : g.cur.store.byCorrelation.get? r.correlationId = some r.caseId := hcorr
  obtain ⟨st', hst, hview⟩ := InMemoryCaseStateStore.view_save hcorr'
  refine wp_updateStore hst ?_
  intro w' hw
  apply h
  rw [hw, hview]
  exact View.put_self (hid ▸ hc)

end Ops

/-! ## The broker -/

/-- What a handler finds when it is resumed. -/
theorem wp_request {x : Request} {Q : Reply x → Stretch → Prop} {E : String → Stretch → Prop}
    {p : Phase} (hacc : Acc S i g p) (hw : p.Waits x)
    (h : ∀ w', (protocol S).Rely i g.cur w' → ViewOk S w'.view → ∀ y, Q y ⟨p, w', [], w'⟩) :
    Wp S i Q E (Coro.request x) g :=
  Coro.wp_request.mpr ⟨p, hacc, hw, h⟩

theorem wp_publish {payload : OutPayload} {correlationId causationId : UUID} {p : Phase}
    {Q : OutEvent → Stretch → Prop} {E : String → Stretch → Prop} (hacc : Acc S i g p)
    (hok : ViewOk S g.cur.view)
    (hw : ∀ ev : OutEvent, ev.payload = payload → ev.correlationId = correlationId →
      p.Waits (.send ev))
    (hsent : ∀ w' ev, (protocol S).Rely i g.cur w' → ViewOk S w'.view → ev.payload = payload →
      ev.correlationId = correlationId → Q ev ⟨p, w', [.published ev], w'⟩)
    (hfail : ∀ w' ev e, (protocol S).Rely i g.cur w' → ViewOk S w'.view → ev.payload = payload →
      ev.correlationId = correlationId → E e ⟨p, w', [.publishFailed ev], w'⟩) :
    Wp S i Q E (publish payload correlationId causationId) g := by
  unfold publish
  rw [Wp, Coro.wp_bind]
  apply wp_uuid4
  intro w hwv
  unfold sendAndWait
  rw [Coro.wp_bind]
  refine wp_request (hacc.silent hwv) (hw _ rfl rfl) ?_
  intro w' hr hi y
  have hrely : (protocol S).Rely i g.cur w' := (rely_of_view hok hwv).trans hr
  cases y with
  | ok a => exact hsent w' _ hrely hi rfl rfl
  | error e => exact hfail w' _ e hrely hi rfl rfl

theorem wp_writeTaskAudit {envelope : EventRef} {outcome : AuditOutcome} {taskId : Option UUID}
    {reason : Option String} {hreason : outcome.reasonOk reason = true} {p : Phase}
    {Q : Unit → Stretch → Prop} {E : String → Stretch → Prop} (hacc : Acc S i g p)
    (hok : ViewOk S g.cur.view)
    (hw : ∀ id a, a.original = envelope → a.outcome = outcome → p.Waits (.sendAudit id a))
    (h : ∀ w', (protocol S).Rely i g.cur w' → ViewOk S w'.view → Q () ⟨p, w', [], w'⟩) :
    Wp S i Q E (writeTaskAudit envelope outcome taskId reason hreason) g := by
  unfold writeTaskAudit
  rw [Wp, Coro.wp_bind]
  apply wp_datetimeNow
  rw [Coro.wp_bind]
  apply wp_uuid4
  intro w hwv
  rw [Coro.wp_bind]
  refine wp_request (hacc.silent hwv) (hw _ _ rfl rfl) ?_
  intro w' hr hi _
  exact h w' ((rely_of_view hok hwv).trans hr) hi

end RefundOps.Resolution
