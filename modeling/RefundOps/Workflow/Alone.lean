import RefundOps.Lib.Asked
import RefundOps.Resolution.Properties.Sequential
import RefundOps.Workflow.Calls

/-!
# One message after the other

A schedule may let a handler of the agent run alone, have everything it sends arrive, and only then go
on. `exec_handler` is that stretch of a schedule, a message and what its loop is served with (`Serves`):
it leaves the agent where `runSync` does, and on the endpoint topics what the handler asked to have sent
(`asked`).
-/

set_option autoImplicit false

namespace RefundOps.Workflow

open Resolution (LoopId Message)

variable {D : Deployment} {s s₁ s₂ : State} {tr tr' : List Event} {chs chs' : List Choice}

theorem exec_cons {ch : Choice} (hs : step D ch s = some (tr, s₁))
    (h : exec D chs s₁ = some (tr', s₂)) : exec D (ch :: chs) s = some (tr ++ tr', s₂) := by
  simp only [exec, hs, Option.bind_some, h, Option.map_some]

theorem exec_pass (micros : Nat) (h : exec D chs { s with agent := { s.agent with
      world := { s.agent.world with now := s.agent.world.now + micros } } } = some (tr, s₁)) :
    exec D (.pass micros :: chs) s = some (tr, s₁) := by
  have hs : step D (.pass micros) s = some ([], { s with agent := { s.agent with
      world := { s.agent.world with now := s.agent.world.now + micros } } }) := rfl
  exact exec_cons hs h

/-- One schedule after the other. -/
theorem exec_append (h : exec D chs s = some (tr, s₁)) (h' : exec D chs' s₁ = some (tr', s₂)) :
    exec D (chs ++ chs') s = some (tr ++ tr', s₂) := by
  induction chs generalizing s tr with
  | nil =>
    cases h
    exact h'
  | cons ch chs ih =>
    obtain ⟨⟨os, s₀⟩, hs, hrest⟩ := Option.bind_eq_some_iff.mp h
    obtain ⟨⟨tr₁, s₁'⟩, hexec, heq⟩ := Option.map_eq_some_iff.mp hrest
    cases heq
    rw [List.append_assoc]
    exact exec_cons hs (ih hexec)

/-- Only the loop `i` is served: what it waits for arrives, and it is answered. -/
def Serves (i : LoopId) (answer : ∀ x, Resolution.Reply x) (chs : List Choice) : Prop :=
  ∀ ch ∈ chs, ch = .arrive i ∨ ch = .answer i answer

/-! ## What is sent arrives -/

/-- What a handler is waiting to have sent is on its topic. -/
def State.serve (s : State) : Resolution.Request → State
  | .send ev => s.accept ev
  | _ => s

/-- A state that differs in the endpoint topics, and has at least as much on them. -/
structure Served (s s' : State) : Prop where
  same : s' = { s with billingTasks := s'.billingTasks, riskTasks := s'.riskTasks }
  billingTasks : s.billingTasks ⊆ s'.billingTasks
  riskTasks : s.riskTasks ⊆ s'.riskTasks

theorem Served.refl (s : State) : Served s s :=
  ⟨rfl, List.Subset.refl _, List.Subset.refl _⟩

theorem Served.trans (h : Served s s₁) (h' : Served s₁ s₂) : Served s s₂ where
  same := by
    rw [h'.same, h.same]
  billingTasks := List.Subset.trans h.billingTasks h'.billingTasks
  riskTasks := List.Subset.trans h.riskTasks h'.riskTasks

theorem served_accept (s : State) (ev : Resolution.OutEvent) : Served s (s.accept ev) where
  same := accept_eq s ev
  billingTasks := by
    unfold State.accept
    split
    · exact List.Subset.refl _
    split
    · exact List.subset_append_left _ _
    split <;> exact List.Subset.refl _
  riskTasks := by
    unfold State.accept
    split
    · exact List.Subset.refl _
    split
    · exact List.Subset.refl _
    split
    · exact List.subset_append_left _ _
    · exact List.Subset.refl _

theorem served_serve (s : State) (x : Resolution.Request) : Served s (s.serve x) := by
  cases x with
  | send ev => exact served_accept s ev
  | sendAudit | discoverAgents | classifyWithLlm => exact .refl s

theorem served_serveAll (s : State) (xs : List Resolution.Request) :
    Served s (xs.foldl State.serve s) := by
  induction xs generalizing s with
  | nil => exact .refl s
  | cons x xs ih => exact (served_serve s x).trans (ih (s.serve x))

/-- The rest of the state is no matter. -/
theorem serve_agent (s : State) (x : Resolution.Request) (a : Resolution.State) :
    ({ s with agent := a } : State).serve x = { s.serve x with agent := a } := by
  cases x with
  | send ev =>
    simp only [State.serve, State.accept]
    split
    · rfl
    split
    · rfl
    split <;> rfl
  | sendAudit | discoverAgents | classifyWithLlm => rfl

theorem serveAll_agent (s : State) (xs : List Resolution.Request) (a : Resolution.State) :
    xs.foldl State.serve { s with agent := a } = { xs.foldl State.serve s with agent := a } := by
  induction xs generalizing s with
  | nil => rfl
  | cons x xs ih =>
    rw [List.foldl_cons, List.foldl_cons, serve_agent, ih]

/-- What was asked to be sent is on its topic. -/
theorem taskEnvelope_served {xs : List Resolution.Request} {ev : Resolution.OutEvent}
    (hev : .send ev ∈ xs) {target : String} {e : Runtime.Envelope}
    (he : taskEnvelope ev = some (target, e)) (s : State) :
    (target = Billing.billingAgentId → e ∈ (xs.foldl State.serve s).billingTasks) ∧
      (target = Risk.riskAgentId → e ∈ (xs.foldl State.serve s).riskTasks) := by
  induction xs generalizing s with
  | nil => cases hev
  | cons x xs ih =>
    rw [List.foldl_cons]
    rcases List.mem_cons.mp hev with rfl | hev
    · have hrest := served_serveAll (s.accept ev) xs
      refine ⟨fun htarget => hrest.billingTasks ?_, fun htarget => hrest.riskTasks ?_⟩
      · simp only [State.accept, he, htarget, if_true]
        exact List.mem_append_right _ List.mem_cons_self
      · have hne : Risk.riskAgentId ≠ Billing.billingAgentId := by decide
        simp only [State.accept, he, htarget, if_neg hne, if_true]
        exact List.mem_append_right _ List.mem_cons_self
    · exact ih hev (s.serve x)

/-! ## A handler alone -/

/-- What a loop waits for arrives. -/
theorem exec_serve (answer : ∀ x, Resolution.Reply x) {i : LoopId} {x : Resolution.Request}
    (hwaiting : s.agent.waiting i = some x) :
    ∃ chs, Serves i answer chs ∧ exec D chs s = some ([], s.serve x) := by
  cases x with
  | send ev =>
    refine ⟨[.arrive i], fun ch hch => .inl (List.mem_singleton.mp hch), ?_⟩
    simp only [exec, step, hwaiting]
    rfl
  | sendAudit | discoverAgents | classifyWithLlm =>
    exact ⟨[], fun ch hch => absurd hch List.not_mem_nil, rfl⟩

/-- The stretches of a handler of loop `i`, one after the other, each answered when what it waits for has
    arrived. -/
theorem exec_segment (answer : ∀ x, Resolution.Reply x) (i : LoopId) (p : Resolution.M Unit)
    (os : List Resolution.Obs) (w : Resolution.World) (c : Resolution.State)
    (hs : s.agent = (c.settle i (os ++ (p.segment w).1, (p.segment w).2)).2) :
    ∃ chs tr, Serves i answer chs ∧
      exec D chs s = some (tr, { (p.asked answer w).foldl State.serve s with
        agent := { world := (p.runSync answer w).2.1, loops := Function.update c.loops i none } }) ∧
      (c.settle i (os ++ (p.segment w).1, (p.segment w).2)).1 ++ agentTrace tr =
        (os ++ (p.runSync answer w).1).map (i, ·) := by
  induction p generalizing os w c s with
  | pure a =>
    refine ⟨[], [], fun ch hch => absurd hch List.not_mem_nil, ?_,
      by simp [Config.settle, Coro.segment, Coro.runSync, agentTrace]⟩
    cases s
    cases hs
    rfl
  | raise e =>
    refine ⟨[], [], fun ch hch => absurd hch List.not_mem_nil, ?_,
      by simp [Config.settle, Coro.segment, Coro.runSync, agentTrace]⟩
    cases s
    cases hs
    rfl
  | get k ih => exact ih w os w c hs
  | commit w' os' k ih =>
    obtain ⟨chs, tr, hserves, hexec, htr⟩ := ih (os ++ os') w' c (by rw [hs, List.append_assoc]; rfl)
    simp only [List.append_assoc] at htr
    exact ⟨chs, tr, hserves, hexec, htr⟩
  | await x k ih =>
    have hparked : s.agent.loops i = some ⟨x, k⟩ := by
      rw [hs]
      exact Function.update_self ..
    have hworld : s.agent.world = w := by
      rw [hs]
      rfl
    have hwaiting : s.agent.waiting i = some x := by
      unfold Config.waiting
      rw [hparked]
      rfl
    -- what it waits for arrives
    obtain ⟨chs₁, hserves₁, harrives⟩ := exec_serve (D := D) answer hwaiting
    have hagent : (s.serve x).agent = s.agent := by rw [(served_serve s x).same]
    -- and it is answered
    have hanswered : step D (.answer i answer) (s.serve x) =
        some ((s.agent.settle i ((k (answer x)).segment w)).1.map fun o => .agent o.1 o.2,
          { s.serve x with agent := (s.agent.settle i ((k (answer x)).segment w)).2 }) := by
      simp only [step, Choice.forAgent, Option.bind_some, hagent, EventLoop.step, hparked,
        Option.map_some, hworld]
    obtain ⟨chs₂, tr, hserves₂, hexec, htr⟩ := ih (answer x) (s := { s.serve x with
      agent := (s.agent.settle i ((k (answer x)).segment w)).2 }) [] w s.agent rfl
    rw [serveAll_agent] at hexec
    have hloops : Function.update s.agent.loops i none = Function.update c.loops i none := by
      rw [hs]
      simp [Config.settle]
    rw [hloops] at hexec
    refine ⟨chs₁ ++ .answer i answer :: chs₂, _, ?_, exec_append harrives (exec_cons hanswered hexec), ?_⟩
    · intro ch hch
      rcases List.mem_append.mp hch with hch | hch
      · exact hserves₁ ch hch
      rcases List.mem_cons.mp hch with rfl | hch
      · exact .inr rfl
      · exact hserves₂ ch hch
    · rw [List.nil_append, agentTrace_append, agentTrace_map]
      simp only [Config.settle, List.nil_append] at htr
      simp only [Config.settle, Coro.segment, Coro.runSync, List.append_nil, List.map_append, htr]

theorem step_forAgent {ch : Choice}
    {c : RefundOps.Choice LoopId Message Resolution.Request Resolution.Reply Nat}
    (h : ch.forAgent s = some c) :
    step D ch s = ((Resolution.service D.settings).step c s.agent).map fun out =>
      (out.1.map fun o => Event.agent o.1 o.2, { s with agent := out.2 }) := by
  cases ch with
  | «open» | arrive | handleBilling | handleRisk | restartBilling | restartRisk => cases h
  | deliverTicket | deliverBilling | deliverRisk | deliverResult | sweep | answer | pass =>
    simp only [step]
    rw [h]
    rfl

/-- The state after a message was handled alone. -/
def State.handled (D : Deployment) (answer : ∀ x, Resolution.Reply x) (m : Message) (s : State) :
    State :=
  { ((m.handler D.settings).asked answer s.agent.world).foldl State.serve s with
    agent := { s.agent with world := ((m.handler D.settings).runSync answer s.agent.world).2.1 } }

theorem handled_same (D : Deployment) (answer : ∀ x, Resolution.Reply x) (m : Message) (s : State) :
    s.handled D answer m = { s with
      agent := (s.handled D answer m).agent
      billingTasks := (s.handled D answer m).billingTasks
      riskTasks := (s.handled D answer m).riskTasks } := by
  unfold State.handled
  rw [(served_serveAll s ((m.handler D.settings).asked answer s.agent.world)).same]

/-- **A message handled alone**: the handler runs as it does by itself, and what it asked to have sent is
    on the endpoint topics. -/
theorem exec_handler (answer : ∀ x, Resolution.Reply x) {m : Message} (ch : Choice)
    (hch : ch.forAgent s = some (.deliver m)) (hidle : s.agent.loops m.loop = none) :
    ∃ chs tr, Serves m.loop answer chs ∧
      exec D (ch :: chs) s = some (tr, s.handled D answer m) ∧
      ∀ k, Resolution.decidedFor k (agentTrace tr) =
        Resolution.shown k ((m.handler D.settings).runSync answer s.agent.world).1 := by
  unfold State.handled
  generalize hp : m.handler D.settings = p
  have hdelivered : step D ch s = some
      ((s.agent.settle m.loop ([.received m] ++ (p.segment s.agent.world).1,
          (p.segment s.agent.world).2)).1.map fun o => Event.agent o.1 o.2,
        { s with agent := (s.agent.settle m.loop ([.received m] ++ (p.segment s.agent.world).1,
          (p.segment s.agent.world).2)).2 }) := by
    rw [step_forAgent hch]
    subst hp
    have hidle' : s.agent.loops ((Resolution.service D.settings).target m) = none := hidle
    simp only [EventLoop.step, hidle', Option.map_some]
    rfl
  obtain ⟨chs, tr, hserves, hexec, htr⟩ := exec_segment (D := D) answer m.loop p [.received m]
    s.agent.world s.agent
    (s := { s with agent := (s.agent.settle m.loop ([.received m] ++ (p.segment s.agent.world).1,
      (p.segment s.agent.world).2)).2 }) rfl
  rw [serveAll_agent] at hexec
  have hloops : Function.update s.agent.loops m.loop none = s.agent.loops := by
    rw [← hidle, Function.update_eq_self]
  rw [hloops] at hexec
  refine ⟨chs, _, hserves, exec_cons hdelivered hexec, fun k => ?_⟩
  rw [agentTrace_append, agentTrace_map, htr]
  show ((Resolution.Obs.received m :: (p.runSync answer s.agent.world).1).map (m.loop, ·)).filterMap _ = _
  rw [List.filterMap_map]
  rfl

/-- What the handler leaves of a case. -/
theorem exec_handled {answer : ∀ x, Resolution.Reply x} {m : Message} (ch : Choice) {k : UUID}
    {out : List CustomerResponseDecisionPayload × Resolution.ResolutionCase}
    (hch : ch.forAgent s = some (.deliver m)) (hidle : s.agent.loops m.loop = none)
    (hrun : Coro.Returns answer (m.handler D.settings) s.agent.world fun _ =>
      Resolution.Handled s.agent.world k out) :
    ∃ chs tr, Serves m.loop answer chs ∧
      exec D (ch :: chs) s = some (tr, s.handled D answer m) ∧
      Resolution.decidedFor k (agentTrace tr) = out.1 ∧
      Resolution.Stored (s.handled D answer m).agent.world k out.2 := by
  obtain ⟨chs, tr, hserves, hexec, hshown⟩ := exec_handler (D := D) answer ch hch hidle
  obtain ⟨a, os, w', hsync, hdone⟩ := hrun
  refine ⟨chs, tr, hserves, hexec, ?_, ?_⟩
  · rw [hshown, hsync]
    exact hdone.decisions
  · show Resolution.Stored ((m.handler D.settings).runSync answer s.agent.world).2.1 k out.2
    rw [hsync]
    exact hdone.stored

end RefundOps.Workflow
