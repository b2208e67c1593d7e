import RefundOps.Resolution.Store.Operations

/-!
# What the version of a record tells

`save` compares versions to find out whether a record was changed since it was read. It finds out
about a change exactly if the change bumped the version: `add_pending_task` and `set_deadline` do
not, so a sequence of calls is overlooked if it changes the record by these alone
(`detects_iff`).
-/

set_option autoImplicit false

namespace RefundOps.Resolution

/-- The call leaves a new version. -/
def Operation.Bumps (k : UUID) (c : ResolutionCase) : Operation → Prop
  | .addPendingTask .. => False
  | .setDeadline .. => False
  | op => op.Effective k c

/-- The call changes the record under its old version. -/
def Operation.Overlooked (k : UUID) (c : ResolutionCase) : Operation → Prop
  | .addPendingTask j t => j = k ∧ t ∉ c.pendingTasks
  | .setDeadline j deadline => j = k ∧ c.deadlineAt ≠ some deadline
  | _ => False

/-- The store after the calls. -/
def runAll : List Operation → InMemoryCaseStateStore → InMemoryCaseStateStore
  | [], st => st
  | op :: ops, st => runAll ops (op.run st).2

/-- Some call is as `P` says, in the state it is made in. -/
def SomeCall (P : InMemoryCaseStateStore → Operation → Prop) :
    List Operation → InMemoryCaseStateStore → Prop
  | [], _ => False
  | op :: ops, st => P st op ∨ SomeCall P ops (op.run st).2

/-- The call changes the record under `k`. -/
def Changes (k : UUID) (st : InMemoryCaseStateStore) (op : Operation) : Prop :=
  (op.run st).2.get k ≠ st.get k

/-- What holds of the stored record and the call. -/
def OnRecord (k : UUID) (P : ResolutionCase → Operation → Prop) (st : InMemoryCaseStateStore)
    (op : Operation) : Prop :=
  ∃ c, st.get k = some c ∧ P c op

/-- The version was read, other clients made their calls, and the record is saved: if any of them
    changed it the save raises, and if it raises it leaves the store as it is. -/
structure Detects (k : UUID) (version : Nat) (ops : List Operation) (st : InMemoryCaseStateStore) :
    Prop where
  conflict : SomeCall (Changes k) ops st → ∀ c now, c.caseId = k →
    ((Operation.save c (some version) now).run (runAll ops st)).1 = .raised
  unchanged : ∀ c now, ((Operation.save c (some version) now).run (runAll ops st)).1 = .raised →
    ((Operation.save c (some version) now).run (runAll ops st)).2 = runAll ops st

/-! ## One call -/

section Calls

variable {st : InMemoryCaseStateStore} {k : UUID} {c : ResolutionCase} {op : Operation}

theorem rewrite_version (h : op.Bumps k c) : (op.rewrite c).version = c.version + 1 := by
  cases op with
  | applyResult _ _ f => cases f <;> rfl
  | markSlotFailed _ _ b => cases b <;> rfl
  | save | transition | claimDecision => rfl
  | getOrCreate | addPendingTask | setDeadline | listTimedOutCases => exact absurd h id

/-- An effective call that does not bump is one of the two. -/
theorem rewrite_version_of_not (heff : op.Effective k c) (h : ¬ op.Bumps k c) :
    (op.rewrite c).version = c.version ∧ (op.rewrite c ≠ c ↔ op.Overlooked k c) := by
  cases op with
  | addPendingTask j t =>
    refine ⟨rfl, ?_⟩
    constructor
    · intro hne
      refine ⟨heff, fun hmem => hne ?_⟩
      show { c with pendingTasks := insert t c.pendingTasks } = c
      rw [Finset.insert_eq_of_mem hmem]
    · rintro ⟨-, hnew⟩ heq
      exact hnew (congrArg ResolutionCase.pendingTasks heq ▸ Finset.mem_insert_self t _)
  | setDeadline j deadline =>
    refine ⟨rfl, ?_⟩
    constructor
    · intro hne
      refine ⟨heff, fun hsame => hne ?_⟩
      show { c with deadlineAt := some deadline } = c
      rw [← hsame]
    · rintro ⟨-, hnew⟩ heq
      exact hnew (congrArg ResolutionCase.deadlineAt heq).symm
  | getOrCreate | listTimedOutCases => exact absurd heff id
  | save | transition | applyResult | claimDecision | markSlotFailed => exact absurd heff h

theorem effective_of_bumps (h : op.Bumps k c) : op.Effective k c := by
  cases op with
  | addPendingTask | setDeadline => exact absurd h id
  | getOrCreate | save | transition | applyResult | claimDecision | markSlotFailed
  | listTimedOutCases => exact h

theorem effective_of_overlooked (h : op.Overlooked k c) : op.Effective k c ∧ ¬ op.Bumps k c := by
  cases op with
  | addPendingTask | setDeadline => exact ⟨h.1, id⟩
  | getOrCreate | save | transition | applyResult | claimDecision | markSlotFailed
  | listTimedOutCases => exact absurd h id

/-- **What a call does to a version**: a new one if it bumps, and otherwise the old one, under
    which the record is changed if the call is overlooked. -/
theorem run_version (hc : st.get k = some c) (op : Operation) :
    ∃ c', (op.run st).2.get k = some c' ∧
      (op.Bumps k c → c'.version = c.version + 1) ∧
      (¬ op.Bumps k c → c'.version = c.version) ∧
      (Changes k st op ↔ op.Bumps k c ∨ op.Overlooked k c) := by
  have hfate := InMemoryCaseStateStore.run_get op st k
  unfold Changes
  rw [hc] at hfate ⊢
  generalize hnew : (op.run st).2.get k = new at hfate
  cases hfate with
  | kept hidle =>
    refine ⟨c, rfl, fun h => absurd (effective_of_bumps h) hidle, fun _ => rfl, ?_⟩
    refine iff_of_false (fun h => h rfl) ?_
    rintro (h | h)
    · exact hidle (effective_of_bumps h)
    · exact hidle (effective_of_overlooked h).1
  | rewritten heff =>
    refine ⟨op.rewrite c, rfl, rewrite_version, fun h => (rewrite_version_of_not heff h).1, ?_⟩
    rw [Ne, Option.some.injEq]
    by_cases hb : op.Bumps k c
    · refine iff_of_true ?_ (.inl hb)
      intro heq
      have hversion := rewrite_version hb
      rw [heq] at hversion
      omega
    · rw [or_iff_right hb]
      exact (rewrite_version_of_not heff hb).2

end Calls

/-! ## Sequences of calls -/

section Sequences

variable {k : UUID}

/-- The version after the calls is a later one exactly if some call bumped it. -/
theorem runAll_version (ops : List Operation) {st : InMemoryCaseStateStore} {c : ResolutionCase}
    (hc : st.get k = some c) :
    ∃ c', (runAll ops st).get k = some c' ∧ c.version ≤ c'.version ∧
      (c.version < c'.version ↔ SomeCall (OnRecord k fun c op => op.Bumps k c) ops st) := by
  induction ops generalizing st c with
  | nil => exact ⟨c, hc, le_refl _, iff_of_false (lt_irrefl _) id⟩
  | cons op ops ih =>
    obtain ⟨c₁, hc₁, hbump, hsame, -⟩ := run_version hc op
    obtain ⟨c', hc', hle, hlt⟩ := ih hc₁
    have hhead : OnRecord k (fun c op => op.Bumps k c) st op ↔ op.Bumps k c := by
      unfold OnRecord
      simp [hc]
    refine ⟨c', hc', ?_, ?_⟩
    · by_cases hb : op.Bumps k c
      · have := hbump hb
        omega
      · have := hsame hb
        omega
    · show _ ↔ _ ∨ _
      rw [hhead]
      by_cases hb : op.Bumps k c
      · have := hbump hb
        exact iff_of_true (by omega) (.inl hb)
      · rw [or_iff_right hb, ← hlt, hsame hb]

/-- The record was changed if some call bumped its version or was overlooked. -/
theorem someCall_changes_iff {ops : List Operation} {st : InMemoryCaseStateStore}
    {c : ResolutionCase} (hc : st.get k = some c) :
    SomeCall (Changes k) ops st ↔ SomeCall (OnRecord k fun c op => op.Bumps k c) ops st ∨
      SomeCall (OnRecord k fun c op => op.Overlooked k c) ops st := by
  induction ops generalizing st c with
  | nil => simp [SomeCall]
  | cons op ops ih =>
    obtain ⟨c₁, hc₁, -, -, hchanges⟩ := run_version hc op
    have hhead : ∀ P : ResolutionCase → Operation → Prop, OnRecord k P st op ↔ P c op := by
      intro P
      unfold OnRecord
      simp [hc]
    simp only [SomeCall, ih hc₁, hchanges, hhead]
    tauto

theorem save_raises_iff {st : InMemoryCaseStateStore} {c e : ResolutionCase} {n : Nat} {now : Time}
    (he : st.get c.caseId = some e) :
    ((Operation.save c (some n) now).run st).1 = .raised ↔ e.version ≠ n := by
  show (Operation.attempt st (st.save c (some n) now)).1 = .raised ↔ _
  by_cases hn : e.version = n
  · rw [InMemoryCaseStateStore.save_fresh he fun m hm => hn.trans (Option.some.inj hm)]
    exact iff_of_false (by nofun) (fun h => h hn)
  · rw [InMemoryCaseStateStore.save_stale he hn]
    exact iff_of_true rfl hn

theorem raised_unchanged {st : InMemoryCaseStateStore} {c : ResolutionCase} {v : Option Nat}
    {now : Time} (h : ((Operation.save c v now).run st).1 = .raised) :
    ((Operation.save c v now).run st).2 = st := by
  unfold Operation.run at h ⊢
  dsimp only at h ⊢
  cases hsave : st.save c v now with
  | none => rfl
  | some st' =>
    rw [hsave] at h
    exact absurd h (by nofun)

/-- **When a lost update is detected**: exactly if some call bumped the version, or none changed
    the record without. -/
theorem detects_iff {k : UUID} {st : InMemoryCaseStateStore} {e : ResolutionCase}
    (he : st.get k = some e) (ops : List Operation) :
    Detects k e.version ops st ↔
      SomeCall (OnRecord k fun c op => op.Bumps k c) ops st ∨
        ¬ SomeCall (OnRecord k fun c op => op.Overlooked k c) ops st := by
  obtain ⟨e', he', hle, hlt⟩ := runAll_version ops he
  have hraises : ∀ c now, c.caseId = k →
      (((Operation.save c (some e.version) now).run (runAll ops st)).1 = .raised ↔
        SomeCall (OnRecord k fun c op => op.Bumps k c) ops st) := by
    rintro c now rfl
    rw [save_raises_iff he', ← hlt]
    omega
  constructor
  · intro h
    by_cases hover : SomeCall (OnRecord k fun c op => op.Overlooked k c) ops st
    · left
      have hconflict := h.conflict ((someCall_changes_iff he).mpr (.inr hover))
      exact (hraises { e with caseId := k } 0 rfl).mp (hconflict _ 0 rfl)
    · exact .inr hover
  · intro h
    refine ⟨?_, fun _ _ => raised_unchanged⟩
    intro hchanged c now hk
    refine (hraises c now hk).mpr ?_
    rcases (someCall_changes_iff he).mp hchanged with hb | hover
    · exact hb
    · exact h.resolve_right (not_not.mpr hover)

end Sequences

/-- The record of the case `1`, as it is created. -/
def sampleRecord : ResolutionCase :=
  { caseId := 1, ticketId := "T-1", customerId := "C-1", correlationId := 1, ticketAmount := 50
    ticketCurrency := "USD", ticketReason := "refund", createdAt := 0, updatedAt := 0 }

theorem detects_iff_claimed :
    (sampleOpen.run {}).2.get 1 = some sampleRecord ∧
      Detects 1 0 [.addPendingTask 1 7, .claimDecision 1 0] (sampleOpen.run {}).2 := by
  refine ⟨rfl, ?_⟩
  refine (detects_iff (e := sampleRecord) rfl _).mpr (.inl ?_)
  exact .inr (.inl ⟨_, rfl, rfl, rfl⟩)

/-- A task is added after the record was read, and the save goes through. -/
theorem added_task_is_overlooked :
    (sampleOpen.run {}).2.get 1 = some sampleRecord ∧
      ((Operation.save sampleRecord (some 0) 0).run
        (runAll [.addPendingTask 1 7] (sampleOpen.run {}).2)).1 = .returned ∧
      ¬ Detects 1 0 [.addPendingTask 1 7] (sampleOpen.run {}).2 := by
  refine ⟨rfl, rfl, ?_⟩
  intro h
  have hchanged : SomeCall (Changes 1) [.addPendingTask 1 7] (sampleOpen.run {}).2 := by
    refine .inl ?_
    intro heq
    have hpending := congrArg (Option.map ResolutionCase.pendingTasks) heq
    exact absurd hpending (by decide)
  exact absurd (h.conflict hchanged sampleRecord 0 rfl) (by nofun)

end RefundOps.Resolution
