import RefundOps.Resolution.Properties.EscalationReason

/-!
# Does it matter which opinion arrives first?

Two results for one open case, handled one after the other in either order. The decision engine
does not see the order; the immediate escalation of the risk handler does, since it reads the
billing finding that is attached *so far*. `billingFirst_outcome` and `riskFirst_outcome` give
the outcome of each order as a function of the slots of the record and of the two findings;
comparing the two gives the exact condition, `OrderMatters`, under which they differ.

For a case that is waiting for both opinions that is one situation: billing denies, risk is
elevated or high, nobody asks for a review and the confidence is sufficient. Billing first is a
denial, risk first an escalation.
-/

set_option autoImplicit false

namespace RefundOps.Resolution

/-! ## An open case -/

/-- The outcome on the findings at hand. -/
def resolve (t : Triage) : Option BillingFinding → Option RiskFinding → ResolutionOutcome
  | some b, some r => jointOutcome t b r
  | _, _ => .escalateHuman

/-- A billing finding that says ineligible is there. -/
def Denied (billing : Option BillingFinding) : Prop :=
  ∃ b, billing = some b ∧ b.eligibility = .ineligible

/-- An undecided record, by what a decision depends on: its tasks, which of them are pending, and
    its findings. -/
structure Open (t : Triage) (bt rt : UUID) (pending : Finset UUID)
    (billing : Option BillingFinding) (risk : Option RiskFinding) (failed : Prop)
    (x : ResolutionCase) : Prop where
  undecided : undecided x.status = true
  triage : x.triage = some t
  review : t.needsRefundReview = true
  billingTaskId : x.billingTaskId = some bt
  riskTaskId : x.riskTaskId = some rt
  pendingTasks : x.pendingTasks = pending
  billingResult : x.billingResult = billing
  riskResult : x.riskResult = risk
  slotFailed : x.slotFailed ↔ failed

namespace Open

variable {t : Triage} {bt rt : UUID} {pending : Finset UUID} {billing : Option BillingFinding}
  {risk : Option RiskFinding} {failed : Prop} {x : ResolutionCase}

/-- A billing finding fills its slot if its task is pending. -/
theorem attachBilling (h : Open t bt rt pending billing risk failed x) (f : BillingFinding) :
    Open t bt rt (pending.erase bt) (if bt ∈ pending then some f else billing) risk failed
      (attachIf x bt (.billing f)) := by
  unfold attachIf
  rw [h.pendingTasks]
  by_cases hp : bt ∈ pending
  · rw [if_pos hp, if_pos ⟨h.undecided, hp⟩]
    exact { h with
      undecided := undecided_attachedCase h.undecided
      pendingTasks := congrArg (·.erase bt) h.pendingTasks
      billingResult := rfl }
  · rw [if_neg hp, if_neg fun hc => hp hc.2, Finset.erase_eq_of_notMem hp]
    exact h

theorem attachRisk (h : Open t bt rt pending billing risk failed x) (f : RiskFinding) :
    Open t bt rt (pending.erase rt) billing (if rt ∈ pending then some f else risk) failed
      (attachIf x rt (.risk f)) := by
  unfold attachIf
  rw [h.pendingTasks]
  by_cases hp : rt ∈ pending
  · rw [if_pos hp, if_pos ⟨h.undecided, hp⟩]
    exact { h with
      undecided := undecided_attachedCase h.undecided
      pendingTasks := congrArg (·.erase rt) h.pendingTasks
      riskResult := rfl }
  · rw [if_neg hp, if_neg fun hc => hp hc.2, Finset.erase_eq_of_notMem hp]
    exact h

/-- A record whose slots are settled, or one of which failed, is decided at once. -/
theorem settle (h : Open t bt rt pending billing risk failed x) (hready : failed ∨ pending = ∅)
    (now : Time) :
    settleCase x now = ([decisionOn x now], { x with status := .decided }) := by
  have hr : x.isReadyToDecide = true := by
    unfold ResolutionCase.isReadyToDecide
    split
    · rfl
    · rename_i hno
      rcases hready with hf | he
      · rcases h.slotFailed.mpr hf with hf' | hf' <;> simp [hf'] at hno
      · simp [h.pendingTasks, he]
  unfold settleCase
  rw [if_pos ⟨hr, h.undecided⟩]

theorem wait (h : Open t bt rt pending billing risk failed x) (hf : ¬ failed)
    (hp : pending ≠ ∅) (now : Time) : settleCase x now = ([], x) := by
  have hr : ¬ x.isReadyToDecide = true := by
    unfold ResolutionCase.isReadyToDecide
    have hno : ¬ x.slotFailed := fun hs => hf (h.slotFailed.mp hs)
    unfold ResolutionCase.slotFailed at hno
    rw [if_neg (by simpa using hno), h.pendingTasks]
    simpa using hp
  unfold settleCase
  rw [if_neg fun hc => hr hc.1]

theorem decisionOn_outcome (h : Open t bt rt pending billing risk failed x) (now : Time) :
    (decisionOn x now).outcome =
      if bt ∈ pending ∨ rt ∈ pending then .escalateHuman else resolve t billing risk := by
  have hmissing : (buildTimeoutStatus x now).anyMissing = true ↔ bt ∈ pending ∨ rt ∈ pending := by
    by_cases hb : bt ∈ pending <;> by_cases hr : rt ∈ pending <;>
      simp [buildTimeoutStatus, taskPending, h.billingTaskId, h.riskTaskId, h.pendingTasks, hb, hr]
  have htriage : x.triage.getD
      { needsRefundReview := true, ambiguous := true, rationale := "No triage available" } = t := by
    rw [h.triage]
    rfl
  unfold decisionOn
  rw [htriage, decide_outcome h.review, h.billingResult, h.riskResult]
  by_cases hm : bt ∈ pending ∨ rt ∈ pending
  · rw [if_pos hm, if_pos (hmissing.mpr hm)]
  · rw [if_neg hm, if_neg fun h => hm (hmissing.mp h)]
    cases billing <;> cases risk <;> rfl

/-- Whether a risk finding is escalated at once depends on the billing finding alone. -/
theorem escalatesAtOnce_iff (h : Open t bt rt pending billing risk failed x) (f : RiskFinding) :
    EscalatesAtOnce x f ↔ f.highRisk = true ∧ ¬ Denied billing := by
  have hinel : billingIneligible x = true ↔ Denied billing := by
    unfold billingIneligible Denied
    rw [h.billingResult]
    cases billing with
    | none => simp
    | some b => simp
  unfold EscalatesAtOnce
  rw [hinel]
  exact ⟨fun hc => ⟨hc.1, hc.2.1⟩, fun hc => ⟨hc.1, hc.2, h.undecided⟩⟩

end Open

/-! ## The two orders -/

/-- The billing result and then the risk result. -/
def billingFirst (x : ResolutionCase) (bt rt : UUID) (b : BillingRefundAnalysisCompletedPayload)
    (r : RiskReviewCompletedPayload) (now : Time) : List CustomerResponseDecisionPayload :=
  let first := onBilling x bt b now
  first.1 ++ (onRisk first.2 rt r now).1

/-- The risk result and then the billing result. -/
def riskFirst (x : ResolutionCase) (bt rt : UUID) (b : BillingRefundAnalysisCompletedPayload)
    (r : RiskReviewCompletedPayload) (now : Time) : List CustomerResponseDecisionPayload :=
  let first := onRisk x rt r now
  first.1 ++ (onBilling first.2 bt b now).1

section Orders

variable {t : Triage} {bt rt : UUID} {pending : Finset UUID} {billing : Option BillingFinding}
  {risk : Option RiskFinding} {failed : Prop} {x : ResolutionCase}
  {b : BillingRefundAnalysisCompletedPayload} {r : RiskReviewCompletedPayload}

/-- A decided record is decided by nothing else. -/
theorem settleCase_of_final {x : ResolutionCase} (hu : undecided x.status = false) (u : UUID)
    (f : Finding) (now : Time) : (settleCase (attachIf x u f) now).1 = [] := by
  have hkeep : attachIf x u f = x := by
    unfold attachIf
    rw [if_neg]
    rintro ⟨hu', -⟩
    rw [hu] at hu'
    exact absurd hu' (by simp)
  rw [hkeep]
  unfold settleCase
  rw [if_neg]
  rintro ⟨-, hu'⟩
  rw [hu] at hu'
  exact absurd hu' (by simp)

theorem onBilling_of_final {x : ResolutionCase} (hu : undecided x.status = false) (now : Time) :
    (onBilling x bt b now).1 = [] :=
  settleCase_of_final hu bt _ now

theorem onRisk_of_final {x : ResolutionCase} (hu : undecided x.status = false) (now : Time) :
    (onRisk x rt r now).1 = [] := by
  unfold onRisk
  dsimp only
  rw [if_neg]
  · exact settleCase_of_final hu rt _ now
  · rintro ⟨-, -, hu'⟩
    rw [hu] at hu'
    exact absurd hu' (by simp)

/-- Two slots that are all that can be pending. -/
theorem erase_eq_empty_iff {u v : UUID} (hsub : pending ⊆ {v, u}) (hne : u ≠ v) :
    pending.erase u = ∅ ↔ v ∉ pending := by
  constructor
  · intro he hv
    have : v ∈ pending.erase u := Finset.mem_erase.mpr ⟨Ne.symm hne, hv⟩
    rw [he] at this
    exact absurd this (Finset.notMem_empty v)
  · intro hv
    refine Finset.eq_empty_of_forall_notMem ?_
    intro w hw
    obtain ⟨hwu, hwp⟩ := Finset.mem_erase.mp hw
    rcases Finset.mem_insert.mp (hsub hwp) with rfl | hmem
    · exact hv hwp
    · exact hwu (Finset.mem_singleton.mp hmem)

theorem erase_both {u v : UUID} (hsub : pending ⊆ {v, u}) (hne : u ≠ v) :
    (pending.erase u).erase v = ∅ := by
  rw [Finset.erase_right_comm]
  refine (erase_eq_empty_iff ((Finset.erase_subset v pending).trans hsub) hne).mpr ?_
  exact Finset.notMem_erase v pending

/-- **Billing first.** While the risk task is pending its finding may be escalated at once,
    judged by the billing finding that is there by then. -/
theorem billingFirst_outcome (h : Open t bt rt pending billing risk failed x)
    (hsub : pending ⊆ {rt, bt}) (hne : bt ≠ rt) (now : Time) :
    let billing' := if bt ∈ pending then some (billingFinding b bt) else billing
    let f := riskFinding r rt
    ∃ d, billingFirst x bt rt b r now = [d] ∧
      (rt ∈ pending → failed → d.outcome = .escalateHuman) ∧
      (rt ∉ pending → d.outcome = resolve t billing' risk) ∧
      (rt ∈ pending → ¬ failed → f.highRisk = true ∧ ¬ Denied billing' →
        d.outcome = .escalateHuman) ∧
      (rt ∈ pending → ¬ failed → ¬ (f.highRisk = true ∧ ¬ Denied billing') →
        d.outcome = resolve t billing' (some f)) := by
  intro billing' f
  have h₁ : Open t bt rt (pending.erase bt) billing' risk failed _ :=
    h.attachBilling (billingFinding b bt)
  generalize hx₁ : attachIf x bt (.billing (billingFinding b bt)) = x₁ at h₁
  have hempty := erase_eq_empty_iff hsub hne
  have hrt : rt ∈ pending.erase bt ↔ rt ∈ pending := by simp [Ne.symm hne]
  unfold billingFirst onBilling
  rw [hx₁]
  by_cases hready : failed ∨ rt ∉ pending
  · -- decided on the billing result; the risk result comes too late
    rw [h₁.settle (hready.imp id hempty.mpr) now]
    dsimp only
    rw [onRisk_of_final rfl]
    refine ⟨decisionOn x₁ now, rfl, ?_, ?_, ?_, ?_⟩
    · intro hp _
      rw [h₁.decisionOn_outcome now, if_pos (.inr (hrt.mpr hp))]
    · intro hp
      rw [h₁.decisionOn_outcome now, if_neg]
      simp [hp]
    · intro hp hf
      exact absurd hready (by simp [hp, hf])
    · intro hp hf
      exact absurd hready (by simp [hp, hf])
  · -- the record waits for the risk result
    obtain ⟨hf, hp⟩ : ¬ failed ∧ rt ∈ pending := by simpa using hready
    rw [h₁.wait hf (fun he => hempty.mp he hp) now]
    unfold onRisk
    dsimp only
    by_cases hfast : f.highRisk = true ∧ ¬ Denied billing'
    · rw [if_pos ((h₁.escalatesAtOnce_iff f).mpr hfast)]
      exact ⟨highRiskDecision x₁ f, rfl, fun _ hf' => absurd hf' hf, fun hp' => absurd hp hp',
        fun _ _ _ => rfl, fun _ _ hslow => absurd hfast hslow⟩
    · rw [if_neg fun hc => hfast ((h₁.escalatesAtOnce_iff f).mp hc)]
      have h₂ := h₁.attachRisk f
      rw [if_pos (hrt.mpr hp), erase_both hsub hne] at h₂
      generalize attachIf x₁ rt (.risk f) = x₂ at h₂
      rw [h₂.settle (.inr rfl) now]
      refine ⟨decisionOn x₂ now, rfl, fun _ hf' => absurd hf' hf, fun hp' => absurd hp hp',
        fun _ _ hfast' => absurd hfast' hfast, ?_⟩
      intro _ _ _
      rw [h₂.decisionOn_outcome now]
      simp

/-- **Risk first.** The immediate escalation is judged by the billing finding that was there
    before. -/
theorem riskFirst_outcome (h : Open t bt rt pending billing risk failed x)
    (hsub : pending ⊆ {rt, bt}) (hne : bt ≠ rt) (now : Time) :
    let f := riskFinding r rt
    let risk' := if rt ∈ pending then some f else risk
    ∃ d, riskFirst x bt rt b r now = [d] ∧
      (f.highRisk = true ∧ ¬ Denied billing → d.outcome = .escalateHuman) ∧
      (¬ (f.highRisk = true ∧ ¬ Denied billing) → bt ∈ pending → failed →
        d.outcome = .escalateHuman) ∧
      (¬ (f.highRisk = true ∧ ¬ Denied billing) → bt ∉ pending →
        d.outcome = resolve t billing risk') ∧
      (¬ (f.highRisk = true ∧ ¬ Denied billing) → bt ∈ pending → ¬ failed →
        d.outcome = resolve t (some (billingFinding b bt)) risk') := by
  intro f risk'
  have hsub' : pending ⊆ {bt, rt} := by rwa [Finset.pair_comm]
  have hempty := erase_eq_empty_iff hsub' (Ne.symm hne)
  have hbt : bt ∈ pending.erase rt ↔ bt ∈ pending := by simp [hne]
  unfold riskFirst onRisk
  dsimp only
  by_cases hfast : f.highRisk = true ∧ ¬ Denied billing
  · rw [if_pos ((h.escalatesAtOnce_iff f).mpr hfast)]
    dsimp only
    rw [onBilling_of_final rfl]
    exact ⟨highRiskDecision x f, rfl, fun _ => rfl, fun hslow => absurd hfast hslow,
      fun hslow => absurd hfast hslow, fun hslow => absurd hfast hslow⟩
  · rw [if_neg fun hc => hfast ((h.escalatesAtOnce_iff f).mp hc)]
    have h₁ : Open t bt rt (pending.erase rt) billing risk' failed _ := h.attachRisk f
    generalize attachIf x rt (.risk f) = x₁ at h₁
    by_cases hready : failed ∨ bt ∉ pending
    · rw [h₁.settle (hready.imp id hempty.mpr) now]
      dsimp only
      rw [onBilling_of_final rfl]
      refine ⟨decisionOn x₁ now, rfl, fun hfast' => absurd hfast' hfast, ?_, ?_, ?_⟩
      · intro _ hp _
        rw [h₁.decisionOn_outcome now, if_pos (.inl (hbt.mpr hp))]
      · intro _ hp
        rw [h₁.decisionOn_outcome now, if_neg]
        simp [hp]
      · intro _ hp hf
        exact absurd hready (by simp [hp, hf])
    · obtain ⟨hf, hp⟩ : ¬ failed ∧ bt ∈ pending := by simpa using hready
      rw [h₁.wait hf (fun he => hempty.mp he hp) now]
      unfold onBilling
      have h₂ := h₁.attachBilling (billingFinding b bt)
      rw [if_pos (hbt.mpr hp), erase_both hsub' (Ne.symm hne)] at h₂
      generalize attachIf x₁ bt (.billing (billingFinding b bt)) = x₂ at h₂
      rw [h₂.settle (.inr rfl) now]
      refine ⟨decisionOn x₂ now, rfl, fun hfast' => absurd hfast' hfast,
        fun _ _ hf' => absurd hf' hf, fun _ hp' => absurd hp hp', ?_⟩
      intro _ _ _
      rw [h₂.decisionOn_outcome now]
      simp

end Orders

/-! ## When they differ -/

/-- The pair of findings is resolved without a human. -/
def Resolvable (t : Triage) (b : BillingFinding) (r : RiskFinding) : Prop :=
  b.requiresHumanReview = false ∧ r.requiresHumanReview = false ∧
    confidenceThreshold ≤ computeConfidence (some t) (some b) (some r) ∧
    tableOutcome b.eligibility r.level ≠ .escalateHuman

theorem jointOutcome_eq_escalate_iff {t : Triage} {b : BillingFinding} {r : RiskFinding} :
    jointOutcome t b r = .escalateHuman ↔ ¬ Resolvable t b r := by
  unfold jointOutcome Resolvable
  split
  · rename_i hreview
    refine ⟨fun _ h => ?_, fun _ => rfl⟩
    rcases hreview with hb | hr
    · rw [h.1] at hb
      exact absurd hb (by simp)
    · rw [h.2.1] at hr
      exact absurd hr (by simp)
  split
  · rename_i hlow
    exact ⟨fun _ h => absurd h.2.2.1 (not_le.mpr hlow), fun _ => rfl⟩
  · rename_i hreview hlow
    simp only [not_or, Bool.not_eq_true] at hreview
    refine ⟨fun heq h => h.2.2.2 heq, fun h => ?_⟩
    by_contra hne
    exact h ⟨hreview.1, hreview.2, not_lt.mp hlow, hne⟩

theorem resolve_eq_escalate_iff {t : Triage} {billing : Option BillingFinding}
    {risk : Option RiskFinding} :
    resolve t billing risk = .escalateHuman ↔
      ¬ ∃ b r, billing = some b ∧ risk = some r ∧ Resolvable t b r := by
  cases billing with
  | none => simp [resolve]
  | some b =>
    cases risk with
    | none => simp [resolve]
    | some r =>
      rw [resolve, jointOutcome_eq_escalate_iff]
      simp

/-- The findings `f` of billing and `g` of risk lead to another outcome in the other order. If
    both tasks of the record are pending, the finding of billing is a denial that risk, had it
    come first, would have overtaken. If one slot is settled already, the late finding is
    dropped, unless the settled slot is one that failed and the finding completes the other. -/
def OrderMatters (t : Triage) (x : ResolutionCase) (bt rt : UUID) (f : BillingFinding)
    (g : RiskFinding) : Prop :=
  if bt ∈ x.pendingTasks then
    if rt ∈ x.pendingTasks then
      ¬ x.slotFailed ∧ g.highRisk = true ∧ f.eligibility = .ineligible ∧ Resolvable t f g
    else
      (g.highRisk = true ∨ x.slotFailed) ∧ ∃ r, x.riskResult = some r ∧ Resolvable t f r
  else
    ∃ b, x.billingResult = some b ∧
      if rt ∈ x.pendingTasks then
        x.slotFailed ∧ ¬ (g.highRisk = true ∧ b.eligibility ≠ .ineligible) ∧ Resolvable t b g
      else
        g.highRisk = true ∧ b.eligibility ≠ .ineligible ∧
          ∃ r, x.riskResult = some r ∧ Resolvable t b r

theorem denied_some {b : BillingFinding} : Denied (some b) ↔ b.eligibility = .ineligible := by
  simp [Denied]

/-- **The two orders have the same outcome exactly when the order does not matter.** -/
theorem order_outcomes {t : Triage} {bt rt : UUID} {x : ResolutionCase}
    {b : BillingRefundAnalysisCompletedPayload} {r : RiskReviewCompletedPayload}
    (h : Open t bt rt x.pendingTasks x.billingResult x.riskResult x.slotFailed x)
    (hsub : x.pendingTasks ⊆ {rt, bt}) (hne : bt ≠ rt)
    (hopen : bt ∈ x.pendingTasks → x.billingResult = none) (now : Time) :
    ∃ d₁ d₂, billingFirst x bt rt b r now = [d₁] ∧ riskFirst x bt rt b r now = [d₂] ∧
      (d₁.outcome = d₂.outcome ↔
        ¬ OrderMatters t x bt rt (billingFinding b bt) (riskFinding r rt)) := by
  obtain ⟨d₁, hd₁, hfailed₁, hlate₁, hfast₁, hslow₁⟩ :=
    billingFirst_outcome (b := b) (r := r) h hsub hne now
  obtain ⟨d₂, hd₂, hfast₂, hfailed₂, hlate₂, hslow₂⟩ :=
    riskFirst_outcome (b := b) (r := r) h hsub hne now
  refine ⟨d₁, d₂, hd₁, hd₂, ?_⟩
  generalize billingFinding b bt = f at *
  generalize riskFinding r rt = g at *
  unfold OrderMatters
  by_cases hb : bt ∈ x.pendingTasks
  · rw [hopen hb] at hfast₂ hfailed₂ hslow₂
    have hopen₂ : ¬ Denied none := by simp [Denied]
    simp only [if_pos hb] at hlate₁ hfast₁ hslow₁ ⊢
    by_cases hr : rt ∈ x.pendingTasks
    · -- both are pending
      simp only [if_pos hr] at hslow₂ ⊢
      by_cases hf : x.slotFailed
      · have hesc₂ : d₂.outcome = .escalateHuman := by
          by_cases hg : g.highRisk = true
          · exact hfast₂ ⟨hg, hopen₂⟩
          · exact hfailed₂ (fun hc => hg hc.1) hb hf
        simp [hfailed₁ hr hf, hesc₂, hf]
      · by_cases hg : g.highRisk = true
        · rw [hfast₂ ⟨hg, hopen₂⟩]
          by_cases hden : f.eligibility = .ineligible
          · rw [hslow₁ hr hf (fun hc => hc.2 (denied_some.mpr hden)), resolve_eq_escalate_iff]
            simp [hf, hg, hden]
          · simp [hfast₁ hr hf ⟨hg, fun hc => hden (denied_some.mp hc)⟩, hden]
        · rw [hslow₁ hr hf (fun hc => hg hc.1), hslow₂ (fun hc => hg hc.1) hb hf]
          simp [hg]
    · -- the risk slot is settled
      simp only [if_neg hr] at hslow₂ ⊢
      rw [hlate₁ hr]
      by_cases hg : g.highRisk = true ∨ x.slotFailed
      · have hesc₂ : d₂.outcome = .escalateHuman := by
          by_cases hg' : g.highRisk = true
          · exact hfast₂ ⟨hg', hopen₂⟩
          · exact hfailed₂ (fun hc => hg' hc.1) hb (hg.resolve_left hg')
        rw [hesc₂, resolve_eq_escalate_iff]
        simp [hg]
      · rw [hslow₂ (fun hc => hg (.inl hc.1)) hb (fun hf => hg (.inr hf))]
        simp [hg]
  · simp only [if_neg hb] at hlate₁ hfast₁ hslow₁ ⊢
    by_cases hr : rt ∈ x.pendingTasks
    · -- the billing slot is settled
      simp only [if_pos hr] at hlate₂ ⊢
      by_cases hg : g.highRisk = true ∧ ¬ Denied x.billingResult
      · have hsame : d₁.outcome = d₂.outcome := by
          rw [hfast₂ hg]
          by_cases hf : x.slotFailed
          · exact hfailed₁ hr hf
          · exact hfast₁ hr hf hg
        refine iff_of_true hsame ?_
        rintro ⟨b', hb', -, hslow, -⟩
        rw [hb', denied_some] at hg
        exact hslow hg
      · rw [hlate₂ hg hb]
        by_cases hf : x.slotFailed
        · rw [hfailed₁ hr hf, eq_comm, resolve_eq_escalate_iff]
          refine not_congr ⟨?_, ?_⟩
          · rintro ⟨b', r', hb', hr', hres⟩
            cases hr'
            rw [hb', denied_some] at hg
            exact ⟨b', hb', hf, hg, hres⟩
          · rintro ⟨b', hb', -, -, hres⟩
            exact ⟨b', g, hb', rfl, hres⟩
        · rw [hslow₁ hr hf hg]
          simp [hf]
    · -- both are settled
      simp only [if_neg hr] at hlate₂ ⊢
      rw [hlate₁ hr]
      by_cases hg : g.highRisk = true ∧ ¬ Denied x.billingResult
      · rw [hfast₂ hg, resolve_eq_escalate_iff]
        refine not_congr ⟨?_, ?_⟩
        · rintro ⟨b', r', hb', hr', hres⟩
          rw [hb', denied_some] at hg
          exact ⟨b', hb', hg.1, hg.2, r', hr', hres⟩
        · rintro ⟨b', hb', -, -, r', hr', hres⟩
          exact ⟨b', r', hb', hr', hres⟩
      · rw [hlate₂ hg hb]
        refine iff_of_true rfl ?_
        rintro ⟨b', hb', hg', hden, -⟩
        rw [hb', denied_some] at hg
        exact hg ⟨hg', hden⟩

/-! ## The handlers -/

def handleBillingFirst (eb : Inbound BillingRefundAnalysisCompletedPayload)
    (er : Inbound RiskReviewCompletedPayload) : M Unit := do
  billingResultHandler eb
  riskResultHandler er

def handleRiskFirst (eb : Inbound BillingRefundAnalysisCompletedPayload)
    (er : Inbound RiskReviewCompletedPayload) : M Unit := do
  riskResultHandler er
  billingResultHandler eb

theorem settleCase_tasks (x : ResolutionCase) (now : Time) :
    (settleCase x now).2.billingTaskId = x.billingTaskId ∧
      (settleCase x now).2.riskTaskId = x.riskTaskId := by
  unfold settleCase
  split <;> exact ⟨rfl, rfl⟩

theorem attachIf_tasks (x : ResolutionCase) (u : UUID) (f : Finding) :
    (attachIf x u f).billingTaskId = x.billingTaskId ∧
      (attachIf x u f).riskTaskId = x.riskTaskId := by
  unfold attachIf
  split
  · cases f <;> exact ⟨rfl, rfl⟩
  · exact ⟨rfl, rfl⟩

theorem onRisk_billingTaskId {x : ResolutionCase} {bt rt : UUID} {r : RiskReviewCompletedPayload}
    {now : Time} (h : x.billingTaskId = some bt) :
    (onRisk x rt r now).2.billingTaskId = some bt := by
  unfold onRisk
  dsimp only
  split
  · exact h
  · exact (settleCase_tasks _ _).1.trans ((attachIf_tasks _ _ _).1.trans h)

section Programs

variable {answer : ∀ x, Reply x} {w : World} {k bt rt : UUID} {x : ResolutionCase}
  {eb : Inbound BillingRefundAnalysisCompletedPayload} {er : Inbound RiskReviewCompletedPayload}
  {b : BillingRefundAnalysisCompletedPayload} {r : RiskReviewCompletedPayload}

theorem returns_billingFirst (hg : Granted answer) (hs : Stored w k x)
    (hbt : x.billingTaskId = some bt) (hrt : x.riskTaskId = some rt) (heb : eb.payload = some b)
    (hkb : eb.correlationId = k) (her : er.payload = some r) (hkr : er.correlationId = k) :
    Coro.Returns answer (handleBillingFirst eb er) w fun _ os _ =>
      shown k os = billingFirst x bt rt b r w.now := by
  apply Coro.Returns.bind
  refine (returns_billingResultHandler hg hs hbt heb hkb).mono ?_
  intro _ os w₁ h₁
  have hrt₁ : (onBilling x bt b w.now).2.riskTaskId = some rt :=
    (settleCase_tasks _ _).2.trans ((attachIf_tasks _ _ _).2.trans hrt)
  refine (returns_riskResultHandler hg h₁.stored hrt₁ her hkr).mono ?_
  intro _ os' w₂ h₂
  rw [shown_append, h₁.decisions, h₂.decisions, h₁.now]
  rfl

theorem returns_riskFirst (hg : Granted answer) (hs : Stored w k x)
    (hbt : x.billingTaskId = some bt) (hrt : x.riskTaskId = some rt) (heb : eb.payload = some b)
    (hkb : eb.correlationId = k) (her : er.payload = some r) (hkr : er.correlationId = k) :
    Coro.Returns answer (handleRiskFirst eb er) w fun _ os _ =>
      shown k os = riskFirst x bt rt b r w.now := by
  apply Coro.Returns.bind
  refine (returns_riskResultHandler hg hs hrt her hkr).mono ?_
  intro _ os w₁ h₁
  have hbt₁ : (onRisk x rt r w.now).2.billingTaskId = some bt := onRisk_billingTaskId hbt
  refine (returns_billingResultHandler hg h₁.stored hbt₁ heb hkb).mono ?_
  intro _ os' w₂ h₂
  rw [shown_append, h₁.decisions, h₂.decisions, h₁.now]
  rfl

end Programs

/-- A stored case of a reachable state, as the sequential lemmas want it. -/
theorem stored_of_run {S : Settings} {now : Time} {nextId : UUID} {tr : Trace} {s : State}
    (hrun : (service S).Run EventLoop.anyStep (start now nextId) tr s) {k : UUID}
    {x : ResolutionCase} (hx : s.world.store.get k = some x)
    (hdelegated : x.billingTaskId.isSome) :
    Stored s.world k x.core ∧ x.billingTaskId = some (billingTaskOf S k) ∧
      x.riskTaskId = some (riskTaskOf S k) ∧ Delegated S x.core := by
  have hok := run_viewOk hrun
  have hview := InMemoryCaseStateStore.view_cases_of_get hx
  have hcase := hok.case k _ hview
  obtain ⟨hbt, hrt, hd⟩ := hok.delegated hview (.inl hdelegated)
  exact ⟨⟨hview, hok.indexed k _ hview, hcase.caseId, hcase.correlationId⟩, hbt, hrt, hd⟩

/-- A delegated case of a reachable state that is still undecided is open. -/
theorem open_of_run {S : Settings} {now : Time} {nextId : UUID} {tr : Trace} {s : State}
    (hrun : (service S).Run EventLoop.anyStep (start now nextId) tr s) {k : UUID}
    {x : ResolutionCase} {t : Triage} (hx : s.world.store.get k = some x)
    (hdelegated : x.billingTaskId.isSome) (hu : undecided x.status = true)
    (ht : x.triage = some t) :
    Open t (billingTaskOf S k) (riskTaskOf S k) x.core.pendingTasks x.core.billingResult
        x.core.riskResult x.core.slotFailed x.core ∧
      x.core.pendingTasks ⊆ {riskTaskOf S k, billingTaskOf S k} ∧
      (billingTaskOf S k ∈ x.core.pendingTasks → x.core.billingResult = none) := by
  obtain ⟨hs, hbt, hrt, hd⟩ := stored_of_run hrun hx hdelegated
  have hcorr : x.correlationId = k := hs.correlationId
  obtain ⟨t', ht', hn⟩ := hd.triage
  obtain rfl : t = t' := Option.some.inj (ht.symm.trans ht')
  exact ⟨⟨hu, ht, hn, hbt, hrt, rfl, rfl, rfl, Iff.rfl⟩, hcorr ▸ hd.pendingTasks,
    fun hp => hd.billingOpen (hcorr.symm ▸ hp)⟩

/-- **Arrival order.** For every delegated, undecided case of a reachable state and every pair of
    results for it, each order has exactly one decision published, and the two outcomes are the
    same if and only if the order does not matter. -/
theorem arrival_order_outcomes {S : Settings} {now : Time} {nextId : UUID} {tr : Trace}
    {s : State} (hrun : (service S).Run EventLoop.anyStep (start now nextId) tr s) {k : UUID}
    {x : ResolutionCase} {t : Triage} (hx : s.world.store.get k = some x)
    (hdelegated : x.billingTaskId.isSome) (hu : undecided x.status = true)
    (ht : x.triage = some t) (hne : billingTaskOf S k ≠ riskTaskOf S k)
    {eb : Inbound BillingRefundAnalysisCompletedPayload}
    {er : Inbound RiskReviewCompletedPayload} {b : BillingRefundAnalysisCompletedPayload}
    {r : RiskReviewCompletedPayload} (heb : eb.payload = some b) (hkb : eb.correlationId = k)
    (her : er.payload = some r) (hkr : er.correlationId = k) {answer : ∀ x, Reply x}
    (hg : Granted answer) :
    ∃ d₁ d₂, shown k ((handleBillingFirst eb er).runSync answer s.world).1 = [d₁] ∧
      shown k ((handleRiskFirst eb er).runSync answer s.world).1 = [d₂] ∧
      (d₁.outcome = d₂.outcome ↔
        ¬ OrderMatters t x (billingTaskOf S k) (riskTaskOf S k)
          (billingFinding b (billingTaskOf S k)) (riskFinding r (riskTaskOf S k))) := by
  obtain ⟨hs, hbt, hrt, -⟩ := stored_of_run hrun hx hdelegated
  obtain ⟨hopen, hsub, hnone⟩ := open_of_run hrun hx hdelegated hu ht
  obtain ⟨d₁, d₂, hd₁, hd₂, hiff⟩ :=
    order_outcomes (b := b) (r := r) hopen hsub hne hnone s.world.now
  obtain ⟨a₁, os₁, w₁, hout₁, hshown₁⟩ := returns_billingFirst hg hs hbt hrt heb hkb her hkr
  obtain ⟨a₂, os₂, w₂, hout₂, hshown₂⟩ := returns_riskFirst hg hs hbt hrt heb hkb her hkr
  refine ⟨d₁, d₂, ?_, ?_, hiff⟩
  · rw [hout₁]
    exact hshown₁.trans hd₁
  · rw [hout₂]
    exact hshown₂.trans hd₂

/-! ### Two results for the case `1` -/

def billingEnvelope (recommendation : String) : Inbound BillingRefundAnalysisCompletedPayload :=
  { eventId := 200, correlationId := 1, payload := some (sampleBilling recommendation) }

def riskEnvelope (recommendation : String) : Inbound RiskReviewCompletedPayload :=
  { eventId := 300, correlationId := 1, payload := some (sampleRisk recommendation) }

/-- The outcomes published for the case `1` when `m` runs alone. -/
def outcomesOf (m : M Unit) (s : State) : List ResolutionOutcome :=
  (shown 1 (m.runSync grant s.world).1).map (·.outcome)

theorem arrival_order_outcomes_delegated :
    ∃ tr s x t, (service sampleSettings).Run EventLoop.anyStep (start 0 1000) tr s ∧
      s.world.store.get 1 = some x ∧ x.triage = some t ∧
      ∃ d₁ d₂,
        shown 1 ((handleBillingFirst (billingEnvelope "approve")
          (riskEnvelope "low")).runSync grant s.world).1 = [d₁] ∧
        shown 1 ((handleRiskFirst (billingEnvelope "approve")
          (riskEnvelope "low")).runSync grant s.world).1 = [d₂] ∧
        (d₁.outcome = d₂.outcome ↔
          ¬ OrderMatters t x (billingTaskOf sampleSettings 1) (riskTaskOf sampleSettings 1)
            (billingFinding (sampleBilling "approve") (billingTaskOf sampleSettings 1))
            (riskFinding (sampleRisk "low") (riskTaskOf sampleSettings 1))) := by
  obtain ⟨tr, s, x, hrun, hx, -⟩ := exists_delegated (fun _ => true) (by decide +kernel)
  obtain ⟨t, ht⟩ := Option.isSome_iff_exists.mp hx.triage
  exact ⟨tr, s, x, t, hrun, hx.stored, ht,
    arrival_order_outcomes hrun hx.stored (Option.isSome_of_mem hx.billingTaskId) hx.undecided ht
      (by decide +kernel) rfl rfl rfl rfl grant_granted⟩

/-- A denial of billing and a high risk have different outcomes in the two orders. -/
theorem denied_high_risk_order_matters :
    ¬ ∀ (S : Settings) (now : Time) (nextId : UUID) (tr : Trace) (s : State) (k : UUID)
      (x : ResolutionCase) (eb : Inbound BillingRefundAnalysisCompletedPayload)
      (er : Inbound RiskReviewCompletedPayload) (answer : ∀ x, Reply x),
      (service S).Run EventLoop.anyStep (start now nextId) tr s → s.Quiescent →
      s.world.store.get k = some x → x.billingTaskId.isSome → undecided x.status = true →
      (∃ deadline, x.deadlineAt = some deadline ∧ s.world.now ≤ deadline) →
      eb.payload.isSome → eb.correlationId = k → er.payload.isSome → er.correlationId = k →
      Granted answer →
      (shown k ((handleBillingFirst eb er).runSync answer s.world).1).map (·.outcome) =
        (shown k ((handleRiskFirst eb er).runSync answer s.world).1).map (·.outcome) := by
  intro h
  obtain ⟨tr, s, x, hrun, hx, hcheck⟩ := exists_delegated
    (fun s => outcomesOf (handleBillingFirst (billingEnvelope "deny") (riskEnvelope "high")) s ==
        [.denyRefund] &&
      outcomesOf (handleRiskFirst (billingEnvelope "deny") (riskEnvelope "high")) s ==
        [.escalateHuman]) (by decide +kernel)
  obtain ⟨hdeny, hescalate⟩ := Bool.and_eq_true_iff.mp hcheck
  have hsame := h sampleSettings 0 1000 tr s 1 x (billingEnvelope "deny") (riskEnvelope "high")
    grant hrun hx.quiescent hx.stored (Option.isSome_of_mem hx.billingTaskId) hx.undecided
    hx.deadline rfl rfl rfl rfl grant_granted
  have hdiff : [ResolutionOutcome.denyRefund] = [.escalateHuman] :=
    (beq_iff_eq.mp hdeny).symm.trans (hsame.trans (beq_iff_eq.mp hescalate))
  exact absurd hdiff (by decide)

end RefundOps.Resolution
