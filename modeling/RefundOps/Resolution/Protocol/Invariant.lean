import RefundOps.Resolution.Protocol.Actions

/-!
# What is true of every stored case

A record is in one of two shapes. Until it is delegated it is *fresh*: no task, no result, no
deadline that matters, and only the intake loop can touch it. From then on it is *delegated*: its
two task ids are the ones minted from its correlation id, what is pending is among them, a
pending task has no result yet, and its status never goes back to one the intake loop would work
on. `viewOk_act` is the one place where this is checked against the actions; `protocol` packages
it.
-/

set_option autoImplicit false

namespace RefundOps.Resolution

structure Fresh (c : ResolutionCase) : Prop where
  billingTaskId : c.billingTaskId = none
  riskTaskId : c.riskTaskId = none
  pendingTasks : c.pendingTasks = ∅
  billingResult : c.billingResult = none
  riskResult : c.riskResult = none
  billingSlotFailed : c.billingSlotFailed = false
  riskSlotFailed : c.riskSlotFailed = false
  status : c.status = .received ∨ c.status = .classified ∨ c.status = .closed

structure Delegated (S : Settings) (c : ResolutionCase) : Prop where
  billingTaskId : c.billingTaskId = some (billingTaskOf S c.correlationId)
  riskTaskId : c.riskTaskId = some (riskTaskOf S c.correlationId)
  pendingTasks : c.pendingTasks ⊆ {riskTaskOf S c.correlationId, billingTaskOf S c.correlationId}
  triage : ∃ t, c.triage = some t ∧ t.needsRefundReview = true
  deadline : c.deadlineAt.isSome
  status : c.status = .waitingForPeerReviews ∨ c.status = .readyForDecision ∨
    c.status = .decided ∨ c.status = .escalated
  billingOpen : billingTaskOf S c.correlationId ∈ c.pendingTasks → c.billingResult = none
  riskOpen : undecided c.status = true → riskTaskOf S c.correlationId ∈ c.pendingTasks →
    c.riskResult = none

structure CaseOk (S : Settings) (k : UUID) (c : ResolutionCase) : Prop where
  caseId : c.caseId = k
  correlationId : c.correlationId = k
  shape : Fresh c ∨ Delegated S c

theorem CaseOk.fresh_of_status {S : Settings} {k : UUID} {c : ResolutionCase} (h : CaseOk S k c)
    (hs : c.status = .received ∨ c.status = .classified) : Fresh c := by
  rcases h.shape with hf | hd
  · exact hf
  · rcases hs with hs | hs <;> rcases hd.status with h' | h' | h' | h' <;>
      rw [hs] at h' <;> exact absurd h' (by decide)

theorem CaseOk.delegated_of_task {S : Settings} {k : UUID} {c : ResolutionCase}
    (h : CaseOk S k c) (hb : c.billingTaskId.isSome ∨ c.riskTaskId.isSome) : Delegated S c := by
  rcases h.shape with hf | hd
  · rw [hf.billingTaskId, hf.riskTaskId] at hb
    simp at hb
  · exact hd

/-- The store as the protocol sees it. -/
structure ViewOk (S : Settings) (V : View) : Prop where
  case : ∀ k c, V.cases k = some c → CaseOk S k c
  correlation : ∀ k j, V.byCorrelation k = some j → j = k
  indexed : ∀ k c, V.cases k = some c → V.byCorrelation k = some k
  task : ∀ t k, V.byTaskId t = some k →
    ∃ c, V.cases k = some c ∧ (c.billingTaskId = some t ∨ c.riskTaskId = some t)

/-- Replacing a record by one with the same tasks keeps the indexes right. -/
theorem ViewOk.put {S : Settings} {V : View} (h : ViewOk S V) {k : UUID} {c c' : ResolutionCase}
    (hc : V.cases k = some c) (hok : CaseOk S k c')
    (hb : ∀ t, c.billingTaskId = some t → c'.billingTaskId = some t)
    (hr : ∀ t, c.riskTaskId = some t → c'.riskTaskId = some t) : ViewOk S (V.put k c') where
  case := by
    intro j x hx
    by_cases hj : j = k
    · subst hj
      rw [View.put_cases_self, Option.some.injEq] at hx
      exact hx ▸ hok
    · rw [View.put_cases_ne V c' hj] at hx
      exact h.case j x hx
  correlation := h.correlation
  indexed := by
    intro j x hx
    by_cases hj : j = k
    · subst hj
      exact h.indexed j c hc
    · rw [View.put_cases_ne V c' hj] at hx
      exact h.indexed j x hx
  task := by
    intro t j ht
    obtain ⟨x, hx, hids⟩ := h.task t j ht
    by_cases hj : j = k
    · subst hj
      have hxc : x = c := Option.some.inj (hx.symm.trans hc)
      subst hxc
      exact ⟨c', View.put_cases_self V j c', hids.imp (hb t) (hr t)⟩
    · exact ⟨x, by rw [View.put_cases_ne V c' hj]; exact hx, hids⟩

/-! ## The shapes along the actions -/

section Shapes

variable {S : Settings} {k : UUID} {c : ResolutionCase}

theorem NewCase.ok (h : NewCase k c) : CaseOk S k c :=
  ⟨h.caseId, h.correlationId, .inl
    ⟨h.billingTaskId, h.riskTaskId, h.pendingTasks, h.billingResult, h.riskResult,
      h.billingSlotFailed, h.riskSlotFailed, .inl h.status⟩⟩

/-- A fresh record stays fresh while only its triage and its early status change. -/
theorem Fresh.restatus (h : Fresh c) (t : Option Triage) {s : CaseStatus}
    (hs : s = .received ∨ s = .classified ∨ s = .closed) :
    Fresh { c with triage := t, status := s } :=
  { h with status := hs }

theorem Fresh.delegated (h : Fresh c) (hk : c.correlationId = k) {t : Triage}
    (ht : c.triage = some t) (hn : t.needsRefundReview = true) (deadline : Time) :
    Delegated S (delegatedCase S k deadline c) where
  billingTaskId := by simp [delegatedCase, hk]
  riskTaskId := by simp [delegatedCase, hk]
  pendingTasks := by simp [delegatedCase, hk]
  triage := ⟨t, ht, hn⟩
  deadline := rfl
  status := .inl rfl
  billingOpen := fun _ => h.billingResult
  riskOpen := fun _ _ => h.riskResult

/-- A delegated record moved to `DECIDED` or `ESCALATED`, with whatever risk result. -/
theorem Delegated.decide (h : Delegated S c) (r : Option RiskFinding) {s : CaseStatus}
    (hs : s = .decided ∨ s = .escalated) :
    Delegated S { c with status := s, riskResult := r } :=
  { h with
    status := .inr (.inr hs)
    riskOpen := by
      intro hu
      rcases hs with rfl | rfl <;> exact (Bool.false_ne_true hu).elim }

theorem canTransitionToReady_of_undecided (h : Delegated S c) (hu : undecided c.status = true) :
    canTransitionToReady c.status = true := by
  rcases h.status with hs | hs | hs | hs <;> rw [hs] at hu ⊢ <;> first | rfl | exact absurd hu (by decide)

theorem Delegated.status_open (h : Delegated S c) (hu : undecided c.status = true) :
    c.status = .waitingForPeerReviews ∨ c.status = .readyForDecision := by
  rcases h.status with hs | hs | hs | hs
  · exact .inl hs
  · exact .inr hs
  · rw [hs] at hu; exact absurd hu (by decide)
  · rw [hs] at hu; exact absurd hu (by decide)

theorem Delegated.attachBilling (h : Delegated S c) (hu : undecided c.status = true)
    (f : BillingFinding) :
    Delegated S (attachedCase c (billingTaskOf S c.correlationId) (.billing f)) where
  billingTaskId := h.billingTaskId
  riskTaskId := h.riskTaskId
  pendingTasks := (Finset.erase_subset _ _).trans h.pendingTasks
  triage := h.triage
  deadline := h.deadline
  status := by
    simp only [attachedCase]
    split
    · exact .inr (.inl rfl)
    · exact (h.status_open hu).elim .inl fun hs => .inr (.inl hs)
  billingOpen := by
    intro hmem
    exact absurd hmem (Finset.notMem_erase _ _)
  riskOpen := by
    intro _ hmem
    exact h.riskOpen hu (Finset.mem_of_mem_erase hmem)

theorem Delegated.attachRisk (h : Delegated S c) (hu : undecided c.status = true)
    (f : RiskFinding) :
    Delegated S (attachedCase c (riskTaskOf S c.correlationId) (.risk f)) where
  billingTaskId := h.billingTaskId
  riskTaskId := h.riskTaskId
  pendingTasks := (Finset.erase_subset _ _).trans h.pendingTasks
  triage := h.triage
  deadline := h.deadline
  status := by
    simp only [attachedCase]
    split
    · exact .inr (.inl rfl)
    · exact (h.status_open hu).elim .inl fun hs => .inr (.inl hs)
  billingOpen := by
    intro hmem
    exact h.billingOpen (Finset.mem_of_mem_erase hmem)
  riskOpen := by
    intro _ hmem
    exact absurd hmem (Finset.notMem_erase _ _)

theorem Delegated.slotFailed (h : Delegated S c) (hu : undecided c.status = true) (t : UUID)
    (isBilling : Bool) : Delegated S (slotFailedCase c t isBilling) where
  billingTaskId := h.billingTaskId
  riskTaskId := h.riskTaskId
  pendingTasks := (Finset.erase_subset _ _).trans h.pendingTasks
  triage := h.triage
  deadline := h.deadline
  status := by
    simp [slotFailedCase, canTransitionToReady_of_undecided h hu]
  billingOpen := by
    intro hmem
    exact h.billingOpen (Finset.mem_of_mem_erase hmem)
  riskOpen := by
    intro _ hmem
    exact h.riskOpen hu (Finset.mem_of_mem_erase hmem)

end Shapes

section Views

variable {S : Settings} {V : View} {k : UUID} {c : ResolutionCase}

/-- A record that keeps its ids and its tasks, in whatever shape. -/
theorem ViewOk.reshape (h : ViewOk S V) (hc : V.cases k = some c) {c' : ResolutionCase}
    (hid : c'.caseId = c.caseId) (hcorr : c'.correlationId = c.correlationId)
    (hb : c'.billingTaskId = c.billingTaskId) (hr : c'.riskTaskId = c.riskTaskId)
    (hshape : Fresh c' ∨ Delegated S c') : ViewOk S (V.put k c') := by
  have hok := h.case k c hc
  refine h.put hc ⟨hid.trans hok.caseId, hcorr.trans hok.correlationId, hshape⟩ ?_ ?_
  · intro t ht
    rw [hb, ht]
  · intro t ht
    rw [hr, ht]

/-- A new record under a key that had none, found by its correlation id. -/
theorem ViewOk.create (h : ViewOk S V) (hnone : V.cases k = none) (hnew : NewCase k c) :
    ViewOk S { V.put k c with byCorrelation := Function.update V.byCorrelation k (some k) } := by
  refine ⟨?_, ?_, ?_, ?_⟩
  · intro j x hx
    by_cases hj : j = k
    · subst hj
      have hxc : c = x := by simpa using hx
      exact hxc ▸ hnew.ok
    · exact h.case j x (by simpa [View.put_cases_ne, hj] using hx)
  · intro j l hl
    by_cases hj : j = k
    · subst hj
      simpa using hl.symm
    · exact h.correlation j l (by simpa [hj] using hl)
  · intro j x hx
    by_cases hj : j = k
    · subst hj
      simp
    · have := h.indexed j x (by simpa [View.put_cases_ne, hj] using hx)
      simpa [hj] using this
  · -- no task leads to the new record: its key had no record when the task was indexed
    intro t j ht
    obtain ⟨x, hx, hids⟩ := h.task t j ht
    have hj : j ≠ k := by
      rintro rfl
      rw [hnone] at hx
      exact absurd hx (by simp)
    exact ⟨x, by simpa [View.put_cases_ne, hj] using hx, hids⟩

/-- A fresh record is delegated, and found by its two tasks. -/
theorem ViewOk.delegate (h : ViewOk S V) (hc : V.cases k = some c) (hs : c.status = .classified)
    {t : Triage} (ht : c.triage = some t) (hn : t.needsRefundReview = true) (deadline : Time) :
    ViewOk S { V.put k (delegatedCase S k deadline c) with
      byTaskId := Function.update (Function.update V.byTaskId (billingTaskOf S k) (some k))
        (riskTaskOf S k) (some k) } := by
  have hok := h.case k c hc
  have hf := hok.fresh_of_status (.inr hs)
  have hput : ViewOk S (V.put k (delegatedCase S k deadline c)) := h.put hc
    ⟨hok.caseId, hok.correlationId, .inr (hf.delegated hok.correlationId ht hn deadline)⟩
    (fun x hx => by rw [hf.billingTaskId] at hx; exact absurd hx (by simp))
    (fun x hx => by rw [hf.riskTaskId] at hx; exact absurd hx (by simp))
  refine ⟨hput.case, hput.correlation, hput.indexed, ?_⟩
  -- the risk task is indexed last, so it is looked at first
  intro x j hx
  by_cases hr : x = riskTaskOf S k
  · subst hr
    have hj : k = j := by simpa using hx
    subst hj
    exact ⟨_, View.put_cases_self _ _ _, .inr rfl⟩
  · by_cases hb : x = billingTaskOf S k
    · subst hb
      have hj : k = j := by simpa [hr] using hx
      subst hj
      exact ⟨_, View.put_cases_self _ _ _, .inl rfl⟩
    · exact hput.task x j (by simpa [hr, hb] using hx)

end Views

/-- **Every action keeps the shapes.** -/
theorem viewOk_act {S : Settings} {i : LoopId} {p p' : Phase} {V V' : View} {os : List Obs}
    (h : ViewOk S V) (ha : Act S i p V os p' V') : ViewOk S V' := by
  cases ha with
  | minor | reopen | abandon | direct | delegated | delegationFailed | release | published
  | publishFailed | draftFailed => exact h
  | create hnone hnew => exact h.create hnone hnew
  | classify hc hs =>
    have hf := (h.case _ _ hc).fresh_of_status hs
    exact h.reshape hc rfl rfl rfl rfl (.inl (hf.restatus _ (.inr (.inl rfl))))
  | delegate hc hs ht hn => exact h.delegate hc hs ht hn _
  | @attachBilling _ k t c _ payload hc hu ht hp he hk =>
    have hd := (h.case _ _ hc).delegated_of_task (.inl (by simp [ht]))
    have hid : t = billingTaskOf S c.correlationId := by
      rw [hd.billingTaskId] at ht
      exact (Option.some.inj ht).symm
    subst hid
    exact h.reshape hc rfl rfl rfl rfl (.inr (hd.attachBilling hu _))
  | @attachRisk _ k t c _ payload hc hu ht hp he hk =>
    have hd := (h.case _ _ hc).delegated_of_task (.inr (by simp [ht]))
    have hid : t = riskTaskOf S c.correlationId := by
      rw [hd.riskTaskId] at ht
      exact (Option.some.inj ht).symm
    subst hid
    exact h.reshape hc rfl rfl rfl rfl (.inr (hd.attachRisk hu _))
  | slotFailed hc hu ht he hs =>
    have hd := (h.case _ _ hc).delegated_of_task
      (ht.imp (fun h => Option.isSome_of_mem h) (fun h => Option.isSome_of_mem h))
    exact h.reshape hc rfl rfl rfl rfl (.inr (hd.slotFailed hu _ _))
  | claim _ hp hc hb hu hs =>
    have hd := (h.case _ _ hc).delegated_of_task (.inl hb)
    exact h.reshape hc rfl rfl rfl rfl (.inr (hd.decide _ (.inl rfl)))
  | claimHighRisk hc hu ht he hk =>
    have hd := (h.case _ _ hc).delegated_of_task (.inr (by simp [ht]))
    exact h.reshape hc rfl rfl rfl rfl (.inr (hd.decide _ (.inl rfl)))
  | close hc hs =>
    have hf := (h.case _ _ hc).fresh_of_status (.inr hs)
    exact h.reshape hc rfl rfl rfl rfl (.inl (hf.restatus _ (.inr (.inr rfl))))
  | @finish _ _ k c _ m hm hc hb =>
    have hd := (h.case _ _ hc).delegated_of_task (.inl hb)
    have hfinal : m.finalStatus = .decided ∨ m.finalStatus = .escalated := by
      cases m with
      | direct => exact absurd rfl hm
      | fallback => exact .inr rfl
      | claimed => exact .inl rfl
      | highRisk => exact .inr rfl
    exact h.reshape hc rfl rfl rfl rfl (.inr (hd.decide _ hfinal))

/-- **The case protocol.** The environment moves the clock and the source of ids, which no view
    shows. -/
def protocol (S : Settings) : Protocol LoopId World Obs Request Phase where
  quiet := .quiet
  Act := fun i p w os p' w' => Act S i p w.view os p' w'.view
  Waits := Phase.Waits
  Inv := fun w => ViewOk S w.view
  Env := fun w w' => w'.view = w.view
  inv_act := viewOk_act
  inv_env := fun h he => by rw [he]; exact h

end RefundOps.Resolution
