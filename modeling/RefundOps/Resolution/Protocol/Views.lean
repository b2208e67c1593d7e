import RefundOps.Resolution.Protocol.Invariant

/-!
# The store methods, seen through the view

One lemma for each method of the store that a handler calls: what it returns and what becomes of
the view. After this module no proof unfolds a method.
-/

set_option autoImplicit false

namespace RefundOps.Resolution

namespace InMemoryCaseStateStore

variable {st : InMemoryCaseStateStore} {k t : UUID} {r : ResolutionCase}

theorem view_cases_iff {x : ResolutionCase} :
    st.view.cases k = some x ↔ ∃ r, st.get k = some r ∧ r.core = x :=
  Option.map_eq_some_iff

theorem view_cases_none : st.view.cases k = none ↔ st.get k = none :=
  Option.map_eq_none_iff

theorem view_cases_of_get (h : st.get k = some r) : st.view.cases k = some r.core :=
  view_cases_iff.mpr ⟨r, h, rfl⟩

theorem view_setCase (st : InMemoryCaseStateStore) (k : UUID) (c : ResolutionCase) :
    ({ st with cases := st.cases.set k c } : InMemoryCaseStateStore).view =
      st.view.put k c.core := by
  unfold view View.put
  congr 1
  funext j
  by_cases hj : j = k
  · subst hj
    simp [get]
  · simp [get, Dict.get?_set_ne, hj]

theorem view_modify (h : st.get k = some r) (f : ResolutionCase → ResolutionCase) :
    (st.modify k f).view = st.view.put k (f r).core := by
  have h' : st.cases.get? k = some r := h
  unfold modify
  rw [h']
  exact view_setCase st k (f r)

theorem view_save {now : Time}
    (hcorr : st.byCorrelation.get? r.correlationId = some r.caseId) :
    ∃ st', st.save r none now = some st' ∧ st'.view = st.view.put r.caseId r.core := by
  have hsave : ∃ v, st.save r none now = some { st with
      cases := st.cases.set r.caseId { r with version := v, updatedAt := now }
      byCorrelation := st.byCorrelation.set r.correlationId r.caseId } := by
    unfold save
    cases st.cases.get? r.caseId with
    | none => exact ⟨_, rfl⟩
    | some e => exact ⟨_, rfl⟩
  obtain ⟨v, hv⟩ := hsave
  refine ⟨_, hv, ?_⟩
  have hput := view_setCase st r.caseId { r with version := v, updatedAt := now }
  rw [show st.view.put r.caseId r.core = _ from hput.symm]
  unfold view
  congr 1
  funext j
  by_cases hj : j = r.correlationId
  · subst hj
    rw [Dict.get?_set_self, hcorr]
  · rw [Dict.get?_set_ne _ _ hj]

theorem view_addPendingTask (h : st.get k = some r) :
    ∃ st', st.addPendingTask k t = some st' ∧
      st'.view = { st.view.put k { r.core with pendingTasks := insert t r.pendingTasks } with
        byTaskId := Function.update st.view.byTaskId t (some k) } := by
  have h' : st.cases.get? k = some r := h
  unfold addPendingTask
  rw [h']
  refine ⟨_, rfl, ?_⟩
  have hm := view_modify h fun c => { c with pendingTasks := insert t c.pendingTasks }
  have hput : ({ r with pendingTasks := insert t r.pendingTasks } : ResolutionCase).core =
      { r.core with pendingTasks := insert t r.pendingTasks } := rfl
  rw [hput] at hm
  rw [← hm]
  unfold view
  congr 1
  funext j
  have hsame : (st.modify k fun c => { c with pendingTasks := insert t c.pendingTasks }).byTaskId =
      st.byTaskId := by
    unfold modify
    rw [h']
  by_cases hj : j = t
  · subst hj
    simp
  · simp [hj, Dict.get?_set_ne, hsame]

/-- `get_or_create`, with the correlation id for the case id as the intake calls it: the record
    that is there, or a new one. -/
theorem getOrCreate_cases {S : Settings} (hok : ViewOk S st.view) (ticketId customerId : String)
    (amount : ℚ) (currency reason : String) (now : Time) :
    (∃ r, st.get k = some r ∧
        st.getOrCreate k ticketId customerId k amount currency reason now = (r, st)) ∨
      (st.view.cases k = none ∧ ∃ r st',
        st.getOrCreate k ticketId customerId k amount currency reason now = (r, st') ∧
        NewCase k r.core ∧ r.caseId = k ∧
        st'.view = { st.view.put k r.core with
          byCorrelation := Function.update st.view.byCorrelation k (some k) }) := by
  cases hg : st.get k with
  | some r =>
    refine .inl ⟨r, rfl, ?_⟩
    have hidx : st.byCorrelation.get? k = some k := hok.indexed k _ (view_cases_of_get hg)
    have hg' : st.cases.get? k = some r := hg
    simp only [getOrCreate, getByCorrelationId, hidx, hg']
  | none =>
    refine .inr ⟨view_cases_none.mpr hg, ?_⟩
    have hg' : st.cases.get? k = none := hg
    have hlookup : st.getByCorrelationId k = none := by
      unfold getByCorrelationId
      cases hc : st.byCorrelation.get? k with
      | none => rfl
      | some j =>
        obtain rfl := hok.correlation k j hc
        exact hg'
    simp only [getOrCreate, hlookup, hg']
    refine ⟨_, _, rfl, ⟨rfl, rfl, rfl, rfl, rfl, rfl, rfl, rfl, rfl, rfl, rfl⟩, rfl, ?_⟩
    rw [← view_setCase]
    unfold view
    congr 1
    funext j
    by_cases hj : j = k
    · subst hj
      simp
    · simp [hj, Dict.get?_set_ne]

theorem applyResult_attached (f : Finding) (now : Time) (h : st.get k = some r)
    (hu : undecided r.status = true) (ht : t ∈ r.pendingTasks) :
    (st.applyResult k t f now).1 = .attached ∧
      (st.applyResult k t f now).2.view = st.view.put k (attachedCase r.core t f) := by
  have h' : st.cases.get? k = some r := h
  unfold applyResult
  rw [h']
  simp only [undecided_eq, hu, Bool.not_true, Bool.false_eq_true, if_false, ht, not_true]
  refine ⟨trivial, ?_⟩
  rw [view_setCase]
  congr 1
  by_cases hready : r.pendingTasks.erase t = ∅ ∧ canTransitionToReady r.status = true
  · rw [attachedCase_ready (c := r.core) hready]
    cases f <;> exact congrArg ResolutionCase.core (if_pos hready)
  · rw [attachedCase_waiting (c := r.core) hready]
    cases f <;> exact congrArg ResolutionCase.core (if_neg hready)

theorem applyResult_duplicate (f : Finding) (now : Time) (h : st.get k = some r)
    (hdup : ¬ (undecided r.status = true ∧ t ∈ r.pendingTasks)) :
    st.applyResult k t f now = (.duplicate, st) := by
  have h' : st.cases.get? k = some r := h
  unfold applyResult
  rw [h']
  simp only [undecided_eq]
  cases hu : undecided r.status with
  | false => simp
  | true =>
    have ht : t ∉ r.pendingTasks := fun ht => hdup ⟨hu, ht⟩
    simp [ht]

theorem claimDecision_won (now : Time) (h : st.get k = some r) (hu : undecided r.status = true) :
    (st.claimDecision k now).1 = true ∧
      (st.claimDecision k now).2.view = st.view.put k { r.core with status := .decided } := by
  have h' : st.cases.get? k = some r := h
  unfold claimDecision
  rw [h']
  have hne : (r.status == .decided || isTerminal r.status) = false := by
    rw [Bool.or_comm, undecided_eq, hu, Bool.not_true]
  simp only [hne, Bool.false_eq_true, if_false]
  exact ⟨trivial, view_modify h _⟩

theorem claimDecision_lost (now : Time) (h : st.get k = some r)
    (hu : undecided r.status = false) : st.claimDecision k now = (false, st) := by
  have h' : st.cases.get? k = some r := h
  unfold claimDecision
  rw [h']
  have hne : (r.status == .decided || isTerminal r.status) = true := by
    rw [Bool.or_comm, undecided_eq, hu, Bool.not_false]
  simp only [hne, if_true]

theorem view_markSlotFailed (isBilling : Bool) (reason : String) (now : Time)
    (h : st.get k = some r) (hu : undecided r.status = true) :
    (st.markSlotFailed k t isBilling reason now).view =
      st.view.put k (slotFailedCase r.core t isBilling) := by
  have h' : st.cases.get? k = some r := h
  have hterm : isTerminal r.status = false := by
    cases hs : isTerminal r.status with
    | false => rfl
    | true => rw [undecided, hs] at hu; exact absurd hu (by simp)
  unfold markSlotFailed
  rw [h']
  simp only [hterm, Bool.false_eq_true, if_false]
  rw [view_modify h]
  congr 1
  by_cases hready : canTransitionToReady r.status = true
  · cases isBilling <;> simp [slotFailedCase, ResolutionCase.core, hready]
  · cases isBilling <;> simp [slotFailedCase, ResolutionCase.core, hready]

theorem view_parkBillingResult (st : InMemoryCaseStateStore) (k : UUID)
    (payload : BillingRefundAnalysisCompletedPayload) :
    (st.parkBillingResult k payload).view = st.view := by
  simp only [view, parkBillingResult, get]

theorem view_parkRiskResult (st : InMemoryCaseStateStore) (k : UUID)
    (payload : RiskReviewCompletedPayload) : (st.parkRiskResult k payload).view = st.view := by
  simp only [view, parkRiskResult, get]

end InMemoryCaseStateStore

end RefundOps.Resolution
