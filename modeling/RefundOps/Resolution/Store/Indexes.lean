import RefundOps.Resolution.Store.Operations

/-!
# The indexes of the store

Three maps and a set of tasks in each record, written by different methods: they agree in every
state that the calls of the handlers lead to (`IndexOk`). A handler creates a case under its
correlation id, saves a record that the store handed out, and adds tasks that are the case's own.
-/

set_option autoImplicit false

namespace RefundOps.Resolution

/-- How the handlers call the store: a case has its correlation id for an id, and what is saved is
    a record of the store with its ids as they were and no task that was not pending. -/
def AsHandlersDo (st : InMemoryCaseStateStore) : Operation → Prop
  | .getOrCreate caseId _ _ correlationId _ _ _ _ => caseId = correlationId
  | .save c _ _ => ∃ e, st.get c.caseId = some e ∧ c.correlationId = e.correlationId ∧
      c.pendingTasks ⊆ e.pendingTasks
  | _ => True

/-- The task was added to the case. -/
def Added (hist : List (Operation × Outcome)) (k t : UUID) : Prop :=
  (Operation.addPendingTask k t, Outcome.returned) ∈ hist

/-- Distinct cases use distinct tasks. -/
def OwnTasks (hist : List (Operation × Outcome)) : Prop :=
  ∀ k j t, Added hist k t → Added hist j t → k = j

structure IndexOk (st : InMemoryCaseStateStore) : Prop where
  correlation : ∀ k j, st.byCorrelation.get? k = some j →
    ∃ c, st.get j = some c ∧ c.correlationId = k
  task : ∀ t j, st.byTaskId.get? t = some j → ∃ c, st.get j = some c
  pending : ∀ j c t, st.get j = some c → t ∈ c.pendingTasks → st.byTaskId.get? t = some j
  unshared : ∀ i j c d t, st.get i = some c → st.get j = some d → t ∈ c.pendingTasks →
    t ∈ d.pendingTasks → i = j

/-- The call is one of `get_or_create`. -/
def Operation.IsCreation : Operation → Prop
  | .getOrCreate .. => True
  | _ => False

/-- A call takes no case away and no version back, and `get_or_create` leaves every case as it
    is. -/
structure Keeping (st : InMemoryCaseStateStore) (op : Operation) : Prop where
  version : ∀ j c, st.get j = some c →
    ∃ c', (op.run st).2.get j = some c' ∧ c.version ≤ c'.version
  existing : op.IsCreation → ∀ j c, st.get j = some c → (op.run st).2.get j = some c

/-! ## One call -/

section Calls

variable {st : InMemoryCaseStateStore} {op : Operation}

theorem keeping (st : InMemoryCaseStateStore) (op : Operation) : Keeping st op where
  version := by
    intro j c hc
    have hfate := InMemoryCaseStateStore.run_get op st j
    rw [hc] at hfate
    generalize (op.run st).2.get j = new at hfate
    cases hfate with
    | kept => exact ⟨c, rfl, le_refl _⟩
    | rewritten heff =>
      refine ⟨_, rfl, ?_⟩
      cases op with
      | applyResult _ _ f => cases f <;> exact Nat.le_succ _
      | markSlotFailed _ _ b => cases b <;> exact Nat.le_succ _
      | save | transition | claimDecision => exact Nat.le_succ _
      | getOrCreate | addPendingTask | setDeadline | listTimedOutCases => exact le_refl _
  existing := by
    intro hop j c hc
    have hfate := InMemoryCaseStateStore.run_get op st j
    rw [hc] at hfate
    generalize (op.run st).2.get j = new at hfate
    cases hfate with
    | kept => rfl
    | rewritten heff =>
      cases op with
      | getOrCreate => exact absurd heff id
      | save | transition | addPendingTask | applyResult | claimDecision | markSlotFailed
      | setDeadline | listTimedOutCases => exact absurd hop id

/-- How a call can change the two indexes. -/
inductive Reindexed (st : InMemoryCaseStateStore) : Operation → InMemoryCaseStateStore → Prop where
  | kept {op : Operation} {st' : InMemoryCaseStateStore}
      (hcorr : st'.byCorrelation = st.byCorrelation) (htask : st'.byTaskId = st.byTaskId) :
      Reindexed st op st'
  | opened {caseId correlationId : UUID} {ticketId customerId currency reason : String}
      {amount : ℚ} {now : Time} {st' : InMemoryCaseStateStore}
      (hcorr : st'.byCorrelation = st.byCorrelation.set correlationId caseId)
      (htask : st'.byTaskId = st.byTaskId) (hstored : ∃ c, st'.get caseId = some c) :
      Reindexed st
        (.getOrCreate caseId ticketId customerId correlationId amount currency reason now) st'
  | saved {c : ResolutionCase} {v : Option Nat} {now : Time} {st' : InMemoryCaseStateStore}
      (hcorr : st'.byCorrelation = st.byCorrelation.set c.correlationId c.caseId)
      (htask : st'.byTaskId = st.byTaskId) (hstored : ∃ x, st'.get c.caseId = some x) :
      Reindexed st (.save c v now) st'
  | added {k t : UUID} {st' : InMemoryCaseStateStore}
      (hcorr : st'.byCorrelation = st.byCorrelation) (htask : st'.byTaskId = st.byTaskId.set t k)
      (hstored : ∃ c, st.get k = some c) : Reindexed st (.addPendingTask k t) st'

theorem reindexed_modify (st : InMemoryCaseStateStore) (op : Operation) (k : UUID)
    (f : ResolutionCase → ResolutionCase) : Reindexed st op (st.modify k f) := by
  unfold InMemoryCaseStateStore.modify
  split <;> exact .kept rfl rfl

theorem run_addPendingTask {k : UUID} {c : ResolutionCase} (t : UUID) (hc : st.get k = some c) :
    ((Operation.addPendingTask k t).run st).1 = .returned ∧
      ((Operation.addPendingTask k t).run st).2.byCorrelation = st.byCorrelation ∧
      ((Operation.addPendingTask k t).run st).2.byTaskId = st.byTaskId.set t k := by
  have hc' : st.cases.get? k = some c := hc
  have hadded : st.addPendingTask k t = some
      { st.modify k (fun c => { c with pendingTasks := insert t c.pendingTasks }) with
        byTaskId := st.byTaskId.set t k } := by
    unfold InMemoryCaseStateStore.addPendingTask InMemoryCaseStateStore.modify
    rw [hc']
  unfold Operation.run
  dsimp only
  rw [hadded]
  refine ⟨rfl, ?_, rfl⟩
  show (st.modify k _).byCorrelation = st.byCorrelation
  unfold InMemoryCaseStateStore.modify
  rw [hc']

/-- **What a call does to the indexes.** -/
theorem run_indexes (st : InMemoryCaseStateStore) (op : Operation) :
    Reindexed st op (op.run st).2 := by
  cases op with
  | getOrCreate caseId =>
    unfold Operation.run InMemoryCaseStateStore.getOrCreate
    dsimp only
    split
    · exact .kept rfl rfl
    split
    · exact .kept rfl rfl
    · refine .opened rfl rfl ?_
      exact ⟨_, (InMemoryCaseStateStore.get_setCase st caseId _).trans (if_pos rfl)⟩
  | save c v now =>
    show Reindexed st _ (Operation.attempt st (st.save c v now)).2
    cases he : st.get c.caseId with
    | none =>
      rw [InMemoryCaseStateStore.save_new he]
      exact .saved rfl rfl ⟨_, (InMemoryCaseStateStore.get_setCase st _ _).trans (if_pos rfl)⟩
    | some e =>
      by_cases hv : ∀ n, v = some n → e.version = n
      · rw [InMemoryCaseStateStore.save_fresh he hv]
        exact .saved rfl rfl ⟨_, (InMemoryCaseStateStore.get_setCase st _ _).trans (if_pos rfl)⟩
      · -- the version expected is not the one stored: nothing is written
        simp only [not_forall] at hv
        obtain ⟨n, rfl, hn⟩ := hv
        rw [InMemoryCaseStateStore.save_stale he hn]
        exact .kept rfl rfl
  | transition k s now =>
    unfold Operation.run InMemoryCaseStateStore.transition
    dsimp only
    split
    · exact .kept rfl rfl
    split
    · exact reindexed_modify ..
    · exact .kept rfl rfl
  | addPendingTask k t =>
    cases hc : st.get k with
    | none =>
      have hraised : st.addPendingTask k t = none := by
        unfold InMemoryCaseStateStore.addPendingTask
        rw [show st.cases.get? k = none from hc]
      show Reindexed st _ (Operation.attempt st (st.addPendingTask k t)).2
      rw [hraised]
      exact .kept rfl rfl
    | some c =>
      obtain ⟨-, hcorr, htask⟩ := run_addPendingTask t hc
      exact .added hcorr htask ⟨c, hc⟩
  | applyResult k t f now =>
    unfold Operation.run InMemoryCaseStateStore.applyResult
    dsimp only
    split
    · exact .kept rfl rfl
    split
    · exact .kept rfl rfl
    split
    · exact .kept rfl rfl
    · exact .kept rfl rfl
  | claimDecision k now =>
    unfold Operation.run InMemoryCaseStateStore.claimDecision
    dsimp only
    split
    · exact .kept rfl rfl
    split
    · exact .kept rfl rfl
    · exact reindexed_modify ..
  | markSlotFailed k t b reason now =>
    unfold Operation.run InMemoryCaseStateStore.markSlotFailed
    dsimp only
    split
    · exact .kept rfl rfl
    split
    · exact .kept rfl rfl
    · exact reindexed_modify ..
  | setDeadline => exact reindexed_modify ..
  | listTimedOutCases => exact .kept rfl rfl

/-- What a handler's call leaves of the correlation id and the tasks of a record. -/
theorem rewrite_ids {k : UUID} {c : ResolutionCase} (ha : AsHandlersDo st op)
    (hstored : st.get k = some c) (heff : op.Effective k c) :
    (op.rewrite c).correlationId = c.correlationId ∧
      ∀ t ∈ (op.rewrite c).pendingTasks, t ∈ c.pendingTasks ∨ op = .addPendingTask k t := by
  cases op with
  | save x v now =>
    obtain ⟨e, he, hcorr, hsub⟩ := ha
    rw [heff.1] at he
    obtain rfl := Option.some.inj (hstored.symm.trans he)
    exact ⟨hcorr, fun t ht => .inl (hsub ht)⟩
  | addPendingTask j u =>
    obtain rfl : j = k := heff
    refine ⟨rfl, ?_⟩
    intro t ht
    rcases Finset.mem_insert.mp ht with rfl | ht
    · exact .inr rfl
    · exact .inl ht
  | applyResult _ _ f => cases f <;> exact ⟨rfl, fun t ht => .inl (Finset.mem_of_mem_erase ht)⟩
  | markSlotFailed _ _ b =>
    cases b <;> exact ⟨rfl, fun t ht => .inl (Finset.mem_of_mem_erase ht)⟩
  | getOrCreate | transition | claimDecision | setDeadline | listTimedOutCases =>
    exact ⟨rfl, fun t ht => .inl ht⟩

end Calls

/-! ## Histories -/

/-- What the calls keep. That a pending task is indexed *to its case* follows where no task was
    added to two cases: the later entry would have replaced the first. -/
structure Consistent (hist : List (Operation × Outcome)) (st : InMemoryCaseStateStore) : Prop where
  keys : ∀ j c, st.get j = some c → c.caseId = j ∧ c.correlationId = j
  correlation : ∀ k j, st.byCorrelation.get? k = some j → j = k ∧ ∃ c, st.get j = some c
  task : ∀ t j, st.byTaskId.get? t = some j → (∃ c, st.get j = some c) ∧ Added hist j t
  pending : ∀ j c t, st.get j = some c → t ∈ c.pendingTasks →
    (∃ i, st.byTaskId.get? t = some i) ∧ Added hist j t

section Histories

variable {hist : List (Operation × Outcome)} {st : InMemoryCaseStateStore}

theorem Added.append {k t : UUID} (h : Added hist k t) (x : Operation × Outcome) :
    Added (hist ++ [x]) k t :=
  List.mem_append_left _ h

theorem indexed_run (op : Operation) {t : UUID} (h : ∃ i, st.byTaskId.get? t = some i) :
    ∃ i, (op.run st).2.byTaskId.get? t = some i := by
  have hindexes := run_indexes st op
  generalize (op.run st).2 = st' at hindexes
  cases hindexes with
  | kept hcorr htask | opened hcorr htask | saved hcorr htask => exact htask ▸ h
  | added hcorr htask hstored =>
    rw [htask, Dict.get?_set]
    split
    · exact ⟨_, rfl⟩
    · exact h

theorem stored_run (op : Operation) {j : UUID} (h : ∃ c, st.get j = some c) :
    ∃ c, (op.run st).2.get j = some c := by
  obtain ⟨c, hc⟩ := h
  obtain ⟨c', hc', -⟩ := (keeping st op).version j c hc
  exact ⟨c', hc'⟩

theorem Consistent.keys_run {op : Operation} (h : Consistent hist st) (ha : AsHandlersDo st op)
    (j : UUID) (c : ResolutionCase) (hc : (op.run st).2.get j = some c) :
    c.caseId = j ∧ c.correlationId = j := by
  have hfate := InMemoryCaseStateStore.run_get op st j
  rw [hc] at hfate
  generalize hold : st.get j = old at hfate
  cases hfate with
  | kept => exact h.keys j c hold
  | @rewritten c₀ heff =>
    obtain ⟨hid, hcorr⟩ := h.keys j c₀ hold
    obtain ⟨hsame, -⟩ := rewrite_ids ha hold heff
    exact ⟨heff.caseId hid, hsame.trans hcorr⟩
  | created hr =>
    cases hr with
    | opened => exact ⟨rfl, Eq.symm ha⟩
    | saved hk =>
      obtain ⟨e, he, -⟩ := ha
      rw [hk, hold] at he
      cases he

/-- A task that is pending after a call was pending before it, or was added by it. -/
theorem Consistent.pending_run {op : Operation} (h : Consistent hist st) (ha : AsHandlersDo st op)
    (j : UUID) (c : ResolutionCase) (t : UUID) (hc : (op.run st).2.get j = some c)
    (ht : t ∈ c.pendingTasks) :
    (∃ i, (op.run st).2.byTaskId.get? t = some i) ∧ Added (hist ++ [(op, (op.run st).1)]) j t := by
  have hfate := InMemoryCaseStateStore.run_get op st j
  have hold : ∀ c₀, st.get j = some c₀ → t ∈ c₀.pendingTasks →
      (∃ i, (op.run st).2.byTaskId.get? t = some i) ∧
        Added (hist ++ [(op, (op.run st).1)]) j t := by
    intro c₀ hget hmem
    obtain ⟨hindexed, hadded⟩ := h.pending j c₀ t hget hmem
    exact ⟨indexed_run op hindexed, hadded.append _⟩
  rw [hc] at hfate
  generalize hget : st.get j = old at hfate
  cases hfate with
  | kept => exact hold c hget ht
  | @rewritten c₀ heff =>
    rcases (rewrite_ids ha hget heff).2 t ht with hmem | rfl
    · exact hold c₀ hget hmem
    · obtain ⟨hout, -, htask⟩ := run_addPendingTask t hget
      rw [hout, htask]
      exact ⟨⟨j, Dict.get?_set_self ..⟩, List.mem_append_right _ (List.mem_singleton_self _)⟩
  | created hr =>
    cases hr with
    | opened => exact absurd ht (Finset.notMem_empty t)
    | saved hk =>
      obtain ⟨e, he, -⟩ := ha
      rw [hk, hget] at he
      cases he

theorem Consistent.correlation_run {op : Operation} (h : Consistent hist st)
    (ha : AsHandlersDo st op) (k j : UUID) (hk : (op.run st).2.byCorrelation.get? k = some j) :
    j = k ∧ ∃ c, (op.run st).2.get j = some c := by
  have hold : st.byCorrelation.get? k = some j → j = k ∧ ∃ c, (op.run st).2.get j = some c :=
    fun hj => ⟨(h.correlation k j hj).1, stored_run op (h.correlation k j hj).2⟩
  have hindexes := run_indexes st op
  generalize (op.run st).2 = st' at hindexes hold hk ⊢
  cases hindexes with
  | kept hcorr htask | added hcorr htask hstored =>
    rw [hcorr] at hk
    exact hold hk
  | opened hcorr htask hstored =>
    rw [hcorr, Dict.get?_set] at hk
    split at hk
    · rename_i heq
      obtain rfl := Option.some.inj hk
      exact ⟨Eq.trans ha heq.symm, hstored⟩
    · exact hold hk
  | saved hcorr htask hstored =>
    rw [hcorr, Dict.get?_set] at hk
    split at hk
    · rename_i heq
      obtain rfl := Option.some.inj hk
      obtain ⟨e, he, hsame, -⟩ := ha
      exact ⟨((hsame.trans (h.keys _ e he).2).symm.trans heq.symm), hstored⟩
    · exact hold hk

theorem Consistent.task_run {op : Operation} (h : Consistent hist st) (t j : UUID)
    (ht : (op.run st).2.byTaskId.get? t = some j) :
    (∃ c, (op.run st).2.get j = some c) ∧ Added (hist ++ [(op, (op.run st).1)]) j t := by
  have hold : st.byTaskId.get? t = some j → (∃ c, (op.run st).2.get j = some c) ∧
      Added (hist ++ [(op, (op.run st).1)]) j t :=
    fun hj => ⟨stored_run op (h.task t j hj).1, (h.task t j hj).2.append _⟩
  have hindexes := run_indexes st op
  generalize hst : (op.run st).2 = st' at hindexes
  cases hindexes with
  | kept hcorr htask | opened hcorr htask | saved hcorr htask =>
    rw [hst, htask] at ht
    rw [← hst]
    exact hold ht
  | @added k u st' hcorr htask hstored =>
    rw [hst, htask, Dict.get?_set] at ht
    rw [← hst]
    split at ht
    · rename_i heq
      obtain rfl := Option.some.inj ht
      obtain ⟨c, hc⟩ := hstored
      refine ⟨stored_run _ ⟨c, hc⟩, ?_⟩
      rw [(run_addPendingTask u hc).1, heq]
      exact List.mem_append_right _ (List.mem_singleton_self _)
    · exact hold ht

theorem Consistent.run (h : Consistent hist st) (op : Operation) (ha : AsHandlersDo st op) :
    Consistent (hist ++ [(op, (op.run st).1)]) (op.run st).2 where
  keys := h.keys_run ha
  correlation := h.correlation_run ha
  task := h.task_run
  pending := h.pending_run ha

theorem consistent (h : Steps AsHandlersDo {} hist st) : Consistent hist st := by
  have hempty : ∀ j c, ({} : InMemoryCaseStateStore).get j ≠ some c := by
    intro j c hc
    exact absurd hc (by simp [InMemoryCaseStateStore.get])
  induction h with
  | nil =>
    refine ⟨?_, ?_, ?_, ?_⟩
    · exact fun j c hc => absurd hc (hempty j c)
    · exact fun _ _ hk => absurd hk (by simp)
    · exact fun _ _ ht => absurd ht (by simp)
    · exact fun j c _ hc _ => absurd hc (hempty j c)
  | step _ op ha ih => exact ih.run op ha

theorem Consistent.indexOk (h : Consistent hist st) (hown : OwnTasks hist) : IndexOk st where
  correlation := by
    intro k j hk
    obtain ⟨rfl, c, hc⟩ := h.correlation k j hk
    exact ⟨c, hc, (h.keys j c hc).2⟩
  task := fun t j ht => (h.task t j ht).1
  pending := by
    intro j c t hc ht
    obtain ⟨⟨i, hi⟩, hadded⟩ := h.pending j c t hc ht
    have heq : i = j := hown i j t (h.task t i hi).2 hadded
    exact heq ▸ hi
  unshared := fun i j c d t hc hd ht hu =>
    hown i j t (h.pending i c t hc ht).2 (h.pending j d t hd hu).2

/-- **The indexes of the store agree with its records**, after every history of the handlers'
    calls, and no further call takes a case or a version back. -/
theorem store_indexes_agree (h : Steps AsHandlersDo {} hist st) (hown : OwnTasks hist) :
    IndexOk st ∧ ∀ op, Keeping st op :=
  ⟨(consistent h).indexOk hown, keeping st⟩

/-- Two cases with a task each. -/
def twoCases : List (Operation × Outcome) :=
  [(sampleOpen, .returned), (.getOrCreate 2 "T-2" "C-2" 2 20 "USD" "refund" 0, .returned),
    (.addPendingTask 1 7, .returned), (.addPendingTask 2 8, .returned)]

theorem store_indexes_agree_two_cases :
    ∃ st, Steps AsHandlersDo {} twoCases st ∧ OwnTasks twoCases ∧ st.byTaskId.get? 8 = some 2 ∧
      IndexOk st ∧ ∀ op, Keeping st op := by
  obtain ⟨st, hsteps, htask⟩ :
      ∃ st, Steps AsHandlersDo {} twoCases st ∧ st.byTaskId.get? 8 = some 2 :=
    ⟨_, (((Steps.nil.step sampleOpen rfl).step
      (.getOrCreate 2 "T-2" "C-2" 2 20 "USD" "refund" 0) rfl).step
      (.addPendingTask 1 7) trivial).step (.addPendingTask 2 8) trivial, rfl⟩
  have hown : OwnTasks twoCases := by
    intro k j t hk hj
    simp only [Added, twoCases, sampleOpen, List.mem_cons, Prod.mk.injEq, reduceCtorEq,
      Operation.addPendingTask.injEq, and_true, List.not_mem_nil, or_false, false_or] at hk hj
    rcases hk with ⟨rfl, rfl⟩ | ⟨rfl, rfl⟩ <;> rcases hj with ⟨rfl, hne⟩ | ⟨rfl, hne⟩
    · rfl
    · exact absurd hne (by decide)
    · exact absurd hne (by decide)
    · rfl
  exact ⟨st, hsteps, hown, htask, store_indexes_agree hsteps hown⟩

end Histories

end RefundOps.Resolution
