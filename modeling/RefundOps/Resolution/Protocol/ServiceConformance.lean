import RefundOps.Resolution.Protocol.IntakeConformance

/-!
# Every run of the agent is a run of the case protocol

The reaper, the five loops together (`service_implements`), and the form in which the rest of the
development uses it: `run_invariant` proves a property of every run from what each action does to
the trace, the view and the phases.
-/

set_option autoImplicit false

namespace RefundOps.Resolution

variable {S : Settings} {i : LoopId} {g : Stretch} {k : UUID}

/-! ## The reaper -/

/-- A record that a sweep may escalate: it has been delegated. -/
def HasBillingTask (V : View) (k : UUID) : Prop :=
  ∃ x, V.cases k = some x ∧ x.billingTaskId.isSome

theorem HasBillingTask.grows {V V' : View} (h : HasBillingTask V k) (hg : Grows V V') :
    HasBillingTask V' k := by
  obtain ⟨x, hx, hb⟩ := h
  obtain ⟨x', hx', hb', -⟩ := hg k x hx
  obtain ⟨b, hb⟩ := Option.isSome_iff_exists.mp hb
  exact ⟨x', hx', Option.isSome_of_mem (hb' b hb)⟩

theorem wp_escalateTimedOut {c : ResolutionCase} (hi : i ≠ .intake) (hacc : Acc S i g .quiet)
    (hok : ViewOk S g.cur.view) (hx : HasBillingTask g.cur.view c.caseId) :
    Wp S i (fun _ => Left S i g.cur.view) (fun _ => Left S i g.cur.view)
      (escalateTimedOut c) g := by
  obtain ⟨x, hx, hb⟩ := hx
  unfold escalateTimedOut
  apply wp_then
  refine wp_deref hx ?_
  intro r _
  split
  · apply wp_then
    apply wp_uuid4
    intro w₁ hw₁
    have hdone := wp_applyDecision (k := c.caseId) g.cur.nextId hi (hacc.silent hw₁) (.inl rfl)
      (hw₁ ▸ hok) rfl (hw₁ ▸ hx) hb
    have hview : ({ g with cur := w₁ } : Stretch).cur.view = g.cur.view := hw₁
    rw [hview] at hdone
    rw [Wp, Coro.wp_tryCatch]
    exact hdone
  · exact .of_acc hacc hok (.refl _)

theorem wp_sweep {cs : List ResolutionCase} (hi : i ≠ .intake) (hacc : Acc S i g .quiet)
    (hok : ViewOk S g.cur.view)
    (hcs : ∀ c ∈ cs, HasBillingTask g.cur.view c.caseId) :
    Wp S i (fun _ => Coro.Settled (protocol S) i) (fun _ => Coro.Settled (protocol S) i)
      (cs.forM escalateTimedOut) g := by
  induction cs generalizing g with
  | nil => exact hacc
  | cons c cs ih =>
    show Wp S i _ _ (escalateTimedOut c >>= fun _ => cs.forM escalateTimedOut) g
    apply wp_then
    refine Coro.wp_mono ?_ (fun _ _ h => h.settled)
      (wp_escalateTimedOut hi hacc hok (hcs c List.mem_cons_self))
    intro _ g' hleft
    refine ih hleft.settled hleft.viewOk ?_
    intro c' hc'
    exact (hcs c' (List.mem_cons_of_mem c hc')).grows hleft.grows

/-- What a sweep finds is stored, and its tasks are pending, so it has been delegated. -/
theorem listTimedOutCases_delegated {w : World} (hok : ViewOk S w.view) {now : Time}
    {c : ResolutionCase} (hc : c ∈ w.store.listTimedOutCases now) :
    HasBillingTask w.view c.caseId := by
  obtain ⟨hmem, hout⟩ := List.mem_filter.mp hc
  obtain ⟨j, hj⟩ := Dict.get?_of_mem_values hmem
  have hx : w.view.cases j = some c.core := InMemoryCaseStateStore.view_cases_of_get hj
  have hcase := hok.case j _ hx
  have hid : c.caseId = j := hcase.caseId
  rw [hid]
  refine ⟨c.core, hx, ?_⟩
  rcases hcase.shape with hf | hd
  · have hpend : c.pendingTasks = ∅ := hf.pendingTasks
    simp [InMemoryCaseStateStore.timedOut, hpend] at hout
  · exact Option.isSome_of_mem hd.billingTaskId

theorem reaperSweep_conforms :
    (reaperSweep).Conforms (protocol S) .reaper [.received .sweep] := by
  intro w hok
  unfold reaperSweep
  apply wp_then
  apply wp_datetimeNow
  apply wp_then
  apply wp_readStore
  exact wp_sweep (by decide) (.start .quiet w (received_minor _)) hok
    fun c hc => listTimedOutCases_delegated hok hc

/-! ## The five loops -/

/-- **The agent keeps the case protocol.** -/
theorem service_implements (S : Settings) : Implements (service S) (protocol S) where
  handler := by
    intro m
    cases m with
    | ticket envelope => exact intakeHandler_conforms envelope
    | taskResult envelope => exact resultHandler_conforms envelope
    | billingResult envelope => exact billingResultHandler_conforms envelope
    | riskResult envelope => exact riskResultHandler_conforms envelope
    | sweep => exact reaperSweep_conforms
  env := fun _ _ => rfl

theorem start_viewOk (now : Time) (nextId : UUID) : ViewOk S (start now nextId).world.view where
  case := fun _ _ h => absurd h (by simp [start, World.view, InMemoryCaseStateStore.view,
    InMemoryCaseStateStore.get])
  correlation := fun _ _ h => absurd h (by simp [start, World.view, InMemoryCaseStateStore.view])
  indexed := fun _ _ h => absurd h (by simp [start, World.view, InMemoryCaseStateStore.view,
    InMemoryCaseStateStore.get])
  task := fun _ _ h => absurd h (by simp [start, World.view, InMemoryCaseStateStore.view])

/-- The view of an agent that has seen nothing. -/
def emptyView : View where
  cases := fun _ => none
  byCorrelation := fun _ => none
  byTaskId := fun _ => none

/-- What an action may be told of the other loops: each is quiet, or waits for what its phase
    allows. -/
def Others (i : LoopId) (ph : LoopId → Phase) (waiting : LoopId → Option Request) : Prop :=
  ∀ j, j ≠ i → (waiting j = none ∧ ph j = .quiet) ∨
    ∃ x, waiting j = some x ∧ (ph j).Waits x

/-- A property of trace, view and phases that every action keeps, as far as its guard lets the
    action through. -/
def Inductive (S : Settings) (G : (LoopId → Option Request) → LoopId × Obs → Prop)
    (J : Trace → View → (LoopId → Phase) → Prop) : Prop :=
  ∀ tr V ph i os p' V' waiting, J tr V ph → ViewOk S V → Act S i (ph i) V os p' V' →
    Others i ph waiting → (∀ o ∈ os, G waiting (i, o)) →
    J (tr ++ os.map (i, ·)) V' (Function.update ph i p')

/-- The phases of the loops of a state. -/
abbrev Phases (S : Settings) (c : State) (ph : LoopId → Phase) : Prop :=
  Coupled (protocol S) c ph

/-- What every action keeps holds along a run from any state whose phases are known. -/
theorem Phases.run {G : (LoopId → Option Request) → LoopId × Obs → Prop}
    {J : Trace → View → (LoopId → Phase) → Prop} (hJ : Inductive S G J) (tr : Trace) {tr' : Trace}
    {c c' : State} {ph : LoopId → Phase} (hph : Phases S c ph) (hinit : J tr c.world.view ph)
    (hrun : (service S).Run G c tr' c') :
    ∃ ph', Phases S c' ph' ∧ J (tr ++ tr') c'.world.view ph' :=
  Coupled.invariant (service_implements S) (J := fun tr w ph => J tr w.view ph)
    (fun tr w ph i os p' w' waiting hj hok hact hw hg =>
      hJ tr w.view ph i os p' w'.view waiting hj hok hact hw hg)
    (fun tr w w' ph hj henv => by
      have henv' : w'.view = w.view := henv
      rw [henv']
      exact hj)
    hph hinit hrun

/-- **What every action keeps holds along every run of the agent.** -/
theorem run_invariant {G : (LoopId → Option Request) → LoopId × Obs → Prop}
    {J : Trace → View → (LoopId → Phase) → Prop} (hJ : Inductive S G J)
    (hinit : J [] emptyView fun _ => .quiet) {now : Time} {nextId : UUID} {tr : Trace} {c : State}
    (hrun : (service S).Run G (start now nextId) tr c) :
    ∃ ph, Phases S c ph ∧ J tr c.world.view ph := by
  have hstart : Phases S (start now nextId) fun _ => .quiet :=
    Coupled.init (fun _ => rfl) (start_viewOk now nextId)
  simpa using Phases.run hJ [] hstart hinit hrun

/-- The shapes of the records hold in every reachable state. -/
theorem run_viewOk {G : (LoopId → Option Request) → LoopId × Obs → Prop} {now : Time}
    {nextId : UUID} {tr : Trace} {c : State} (hrun : (service S).Run G (start now nextId) tr c) :
    ViewOk S c.world.view := by
  obtain ⟨_, hph, -⟩ := run_invariant (J := fun _ _ _ => True) (fun _ _ _ _ _ _ _ _ _ _ _ _ _ => trivial)
    trivial hrun
  exact hph.inv

end RefundOps.Resolution
