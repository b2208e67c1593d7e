import RefundOps.Resolution.Properties.Coverage

/-!
# A decision is final

Handlers hold references to a record across their suspensions and assign to its fields when they
are resumed. None of these late assignments reaches a decided case: what a run does to the case
after the claim is to move its status between `DECIDED` and `ESCALATED`, and the triage and the
two findings stay what they were when the step that claimed it ended.
-/

set_option autoImplicit false

namespace RefundOps.Resolution

/-! ## What a claim leaves behind -/

/-- Every case that has been claimed is final. -/
def ClaimsFinal (tr : Trace) (V : View) (_ : LoopId → Phase) : Prop :=
  ∀ i k, (i, Obs.claimed k) ∈ tr → Final V k

/-- An action that shows a claim leaves the case decided. -/
theorem act_claimed {S : Settings} {i : LoopId} {p p' : Phase} {V V' : View} {os : List Obs}
    {k : UUID} (ha : Act S i p V os p' V') (hk : Obs.claimed k ∈ os) : Final V' k := by
  cases ha with
  | minor h => exact absurd (h _ hk) (by simp [Obs.Minor])
  | claim hi hp hc hb hu hs =>
    simp only [List.mem_cons, Obs.claimed.injEq, reduceCtorEq, List.not_mem_nil, or_false] at hk
    subst hk
    exact final_put rfl
  | claimHighRisk hc hu ht he hcorr =>
    simp only [List.mem_cons, Obs.claimed.injEq, reduceCtorEq, List.not_mem_nil, or_false,
      false_or] at hk
    subst hk
    exact final_put rfl
  | create | reopen | classify | direct | delegate | delegated | release | close | finish
  | abandon | delegationFailed | attachBilling | attachRisk | slotFailed | published
  | publishFailed | draftFailed => exact absurd hk (by simp)

theorem claimsFinal_inductive (S : Settings) : Inductive S EventLoop.anyStep ClaimsFinal := by
  intro tr V ph i os p' V' waiting h hok ha hw hg j k hk
  rcases List.mem_append.mp hk with hold | hnew
  · exact (h j k hold).act ha
  · obtain ⟨o, ho, heq⟩ := List.mem_map.mp hnew
    cases heq
    exact act_claimed ha ho

/-! ## What happens to a final case -/

/-- The case `k` is decided with these findings. -/
def FinalWith (k : UUID) (f : Option Triage × Option BillingFinding × Option RiskFinding)
    (_ : Trace) (V : View) (_ : LoopId → Phase) : Prop :=
  ∃ c, V.cases k = some c ∧ undecided c.status = false ∧ c.findings = f

/-- No action takes the findings or the decision away. -/
theorem finalWith_inductive (S : Settings) (k : UUID)
    (f : Option Triage × Option BillingFinding × Option RiskFinding) :
    Inductive S EventLoop.anyStep (FinalWith k f) := by
  intro tr V ph i os p' V' waiting h hok ha hw hg
  obtain ⟨c, hc, hu, hf⟩ := h
  rcases act_case ha hc with hsame | ⟨c', hc', hm⟩
  · exact ⟨c, hsame, hu, hf⟩
  · obtain ⟨hu', hf'⟩ := hm.final hu
    exact ⟨c', hc', hu', hf'.trans hf⟩

/-- A record of the view, as the store has it. -/
theorem exists_get_of_view {w : World} {k : UUID} {x : ResolutionCase}
    (h : w.view.cases k = some x) : ∃ c, w.store.get k = some c ∧ c.core = x :=
  Option.map_eq_some_iff.mp h

/-- **Finality.** Once a case has been claimed, or its status is terminal, every later state has
    the same triage and findings for it, and a status that is not one of an open case. -/
theorem decided_case_is_final {S : Settings} {now : Time} {nextId : UUID} {tr₁ tr₂ : Trace}
    {s₁ s₂ : State} (hrun₁ : (service S).Run EventLoop.anyStep (start now nextId) tr₁ s₁)
    (hrun₂ : (service S).Run EventLoop.anyStep s₁ tr₂ s₂) {k : UUID} {c₁ : ResolutionCase}
    (hc₁ : s₁.world.store.get k = some c₁)
    (hfinal : (∃ i, (i, Obs.claimed k) ∈ tr₁) ∨
      c₁.status ∈ [CaseStatus.closed, .escalated, .failed]) :
    ∃ c₂, s₂.world.store.get k = some c₂ ∧ c₂.triage = c₁.triage ∧
      c₂.billingResult = c₁.billingResult ∧ c₂.riskResult = c₁.riskResult ∧
      c₂.status ∉ [CaseStatus.received, .classified, .waitingForPeerReviews,
        .readyForDecision] := by
  have hinit : ClaimsFinal [] emptyView fun _ => .quiet := fun _ _ h => absurd h (by simp)
  obtain ⟨ph, hph, hclaims⟩ := run_invariant (claimsFinal_inductive S) hinit hrun₁
  have hview := InMemoryCaseStateStore.view_cases_of_get hc₁
  have hu : undecided c₁.status = false := by
    rcases hfinal with ⟨i, hi⟩ | hterm
    · obtain ⟨x, hx, hu⟩ := hclaims i k hi
      obtain rfl : c₁.core = x := Option.some.inj (hview.symm.trans hx)
      exact hu
    · cases hs : c₁.status <;> rw [hs] at hterm <;> first | rfl | exact absurd hterm (by decide)
  obtain ⟨-, -, x, hx, hux, hfx⟩ := Phases.run (finalWith_inductive S k c₁.findings) tr₁ hph
    ⟨c₁.core, hview, hu, rfl⟩ hrun₂
  obtain ⟨c₂, hc₂, rfl⟩ := exists_get_of_view hx
  have hf : c₂.findings = c₁.findings := hfx
  simp only [ResolutionCase.findings, Prod.mk.injEq] at hf
  refine ⟨c₂, hc₂, hf.1, hf.2.1, hf.2.2, ?_⟩
  have hu₂ : undecided c₂.status = false := hux
  cases hs : c₂.status <;> rw [hs] at hu₂ <;> first | decide | exact absurd hu₂ (by decide)

/-- A high risk claims the case; the handler is suspended on the publication of its decision. -/
def claimSchedule : Schedule := delegationSchedule ++ [.deliver (riskMessage "high")]

def claimsCase (k : UUID) : LoopId × Obs → Bool
  | (_, .claimed j) => j == k
  | _ => false

theorem decided_case_is_final_high_risk :
    ∃ tr₁ tr₂ s₁ s₂ c₁, (service sampleSettings).Run EventLoop.anyStep (start 0 1000) tr₁ s₁ ∧
      (service sampleSettings).Run EventLoop.anyStep s₁ tr₂ s₂ ∧ tr₂ ≠ [] ∧
      s₁.world.store.get 1 = some c₁ ∧ (∃ i, (i, Obs.claimed 1) ∈ tr₁) ∧
      ∃ c₂, s₂.world.store.get 1 = some c₂ ∧ c₂.triage = c₁.triage ∧
        c₂.billingResult = c₁.billingResult ∧ c₂.riskResult = c₁.riskResult ∧
        c₂.status ∉ [CaseStatus.received, .classified, .waitingForPeerReviews,
          .readyForDecision] := by
  have hexec : (((service sampleSettings).exec claimSchedule (start 0 1000)).map fun out =>
      ((out.2.world.store.get 1).isSome, out.1.any (claimsCase 1),
        ((service sampleSettings).exec [.deliver (billingMessage "deny")] out.2).map
          (·.1.isEmpty))) = some (true, true, some false) := by decide +kernel
  obtain ⟨⟨tr₁, s₁⟩, hout₁, heq⟩ := Option.map_eq_some_iff.mp hexec
  simp only [Prod.mk.injEq] at heq
  obtain ⟨hsome, hclaimed, hlater⟩ := heq
  obtain ⟨c₁, hc₁⟩ := Option.isSome_iff_exists.mp hsome
  obtain ⟨⟨tr₂, s₂⟩, hout₂, hne⟩ := Option.map_eq_some_iff.mp hlater
  have hclaim : ∃ i, (i, Obs.claimed 1) ∈ tr₁ := by
    obtain ⟨⟨i, o⟩, ho, hk⟩ := List.any_eq_true.mp hclaimed
    cases o with
    | claimed j =>
      obtain rfl : j = 1 := beq_iff_eq.mp hk
      exact ⟨i, ho⟩
    | received | published | publishFailed | attached | slotFailed | decisionTaken
    | delegationFailed => exact absurd hk (by simp [claimsCase])
  have hrun₁ := EventLoop.Run.of_exec (G := EventLoop.anyStep) hout₁ fun _ _ _ => trivial
  have hrun₂ := EventLoop.Run.of_exec (G := EventLoop.anyStep) hout₂ fun _ _ _ => trivial
  exact ⟨tr₁, tr₂, s₁, s₂, c₁, hrun₁, hrun₂, fun h => absurd hne (by simp [h]), hc₁, hclaim,
    decided_case_is_final hrun₁ hrun₂ hc₁ (.inl hclaim)⟩

end RefundOps.Resolution
