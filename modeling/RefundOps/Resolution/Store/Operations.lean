import RefundOps.Resolution.StateStore

/-!
# Sequences of store operations

The store as a machine of its own: a method call is an `Operation` with an `Outcome`, and a
history is a list of both. A method that raises leaves the store as it was. What a client may do
is a condition on each call, in the state it is made in (`Steps`).

`run_get` says once what a call does to one record: nothing, one of the seven rewritings, or it
creates the record. The properties of histories are read off these.
-/

set_option autoImplicit false

namespace RefundOps.Resolution

inductive Operation where
  | getOrCreate (caseId : UUID) (ticketId customerId : String) (correlationId : UUID)
      (ticketAmount : ℚ) (ticketCurrency ticketReason : String) (createdAt : Time)
  | save (c : ResolutionCase) (expectedVersion : Option Nat) (now : Time)
  | transition (caseId : UUID) (toStatus : CaseStatus) (now : Time)
  | addPendingTask (caseId taskId : UUID)
  | applyResult (caseId taskId : UUID) (finding : Finding) (now : Time)
  | claimDecision (caseId : UUID) (now : Time)
  | markSlotFailed (caseId taskId : UUID) (isBilling : Bool) (reason : String) (now : Time)
  | setDeadline (caseId : UUID) (deadlineAt : Time)
  | listTimedOutCases (now : Time)

inductive Outcome where
  | returned
  | raised
  | claimed (won : Bool)
  | attached (outcome : AttachOutcome)
  | listed (cs : List ResolutionCase)

namespace Operation

/-- A method that may raise. -/
def attempt (st : InMemoryCaseStateStore) :
    Option InMemoryCaseStateStore → Outcome × InMemoryCaseStateStore
  | some st' => (.returned, st')
  | none => (.raised, st)

def run : Operation → InMemoryCaseStateStore → Outcome × InMemoryCaseStateStore
  | .getOrCreate caseId ticketId customerId correlationId amount currency reason createdAt, st =>
      (.returned, (st.getOrCreate caseId ticketId customerId correlationId amount currency reason
        createdAt).2)
  | .save c expectedVersion now, st => attempt st (st.save c expectedVersion now)
  | .transition caseId toStatus now, st => attempt st (st.transition caseId toStatus now)
  | .addPendingTask caseId taskId, st => attempt st (st.addPendingTask caseId taskId)
  | .applyResult caseId taskId finding now, st =>
      (.attached (st.applyResult caseId taskId finding now).1,
        (st.applyResult caseId taskId finding now).2)
  | .claimDecision caseId now, st =>
      (.claimed (st.claimDecision caseId now).1, (st.claimDecision caseId now).2)
  | .markSlotFailed caseId taskId isBilling reason now, st =>
      (.returned, st.markSlotFailed caseId taskId isBilling reason now)
  | .setDeadline caseId deadlineAt, st => (.returned, st.setDeadline caseId deadlineAt)
  | .listTimedOutCases now, st => (.listed (st.listTimedOutCases now), st)

end Operation

/-- A history of calls that are all allowed where they are made. -/
inductive Steps (A : InMemoryCaseStateStore → Operation → Prop) (st : InMemoryCaseStateStore) :
    List (Operation × Outcome) → InMemoryCaseStateStore → Prop where
  | nil : Steps A st [] st
  | step {hist : List (Operation × Outcome)} {st' : InMemoryCaseStateStore}
      (h : Steps A st hist st') (op : Operation) (ha : A st' op) :
      Steps A st (hist ++ [(op, (op.run st').1)]) (op.run st').2

/-- The case `1` of the sample histories. -/
def sampleOpen : Operation := .getOrCreate 1 "T-1" "C-1" 1 50 "USD" "refund" 0

/-! ## What a call does to a record -/

/-- The call is on the record `c` of the case `k`, and changes it or may. -/
def Operation.Effective (k : UUID) (c : ResolutionCase) : Operation → Prop
  | .getOrCreate .. => False
  | .save x v _ => x.caseId = k ∧ ∀ n, v = some n → c.version = n
  | .transition j s _ => j = k ∧ canTransition c.status s = true
  | .addPendingTask j _ => j = k
  | .applyResult j t _ _ => j = k ∧ undecided c.status = true ∧ t ∈ c.pendingTasks
  | .claimDecision j _ => j = k ∧ undecided c.status = true
  | .markSlotFailed j _ _ _ _ => j = k ∧ isTerminal c.status = false
  | .setDeadline j _ => j = k
  | .listTimedOutCases _ => False

/-- The record a call is on, where it is on one. -/
def Operation.key : Operation → Option UUID
  | .getOrCreate caseId .. => some caseId
  | .save c _ _ => some c.caseId
  | .transition caseId _ _ => some caseId
  | .addPendingTask caseId _ => some caseId
  | .applyResult caseId _ _ _ => some caseId
  | .claimDecision caseId _ => some caseId
  | .markSlotFailed caseId _ _ _ _ => some caseId
  | .setDeadline caseId _ => some caseId
  | .listTimedOutCases _ => none

theorem Operation.Effective.key {op : Operation} {k : UUID} {c : ResolutionCase}
    (h : op.Effective k c) : op.key = some k := by
  cases op with
  | getOrCreate | listTimedOutCases => exact h.elim
  | addPendingTask | setDeadline => exact congrArg some h
  | save | transition | applyResult | claimDecision | markSlotFailed => exact congrArg some h.1

/-- A record whose slot is marked as failed, before its tasks and its status are. -/
def failSlot (c : ResolutionCase) (isBilling : Bool) (reason : String) : ResolutionCase :=
  if isBilling then { c with billingSlotFailed := true, billingFailureReason := some reason }
  else { c with riskSlotFailed := true, riskFailureReason := some reason }

/-- The record after an effective call. -/
def Operation.rewrite (c : ResolutionCase) : Operation → ResolutionCase
  | .getOrCreate .. => c
  | .save x _ now => { x with version := c.version + 1, updatedAt := now }
  | .transition _ s now => { c with status := s, version := c.version + 1, updatedAt := now }
  | .addPendingTask _ t => { c with pendingTasks := insert t c.pendingTasks }
  | .applyResult _ t f now =>
      { InMemoryCaseStateStore.attach c f with
        pendingTasks := c.pendingTasks.erase t
        updatedAt := now
        version := c.version + 1
        status := if c.pendingTasks.erase t = ∅ ∧ canTransitionToReady c.status then
          .readyForDecision else c.status }
  | .claimDecision _ now =>
      { c with status := .decided, updatedAt := now, version := c.version + 1 }
  | .markSlotFailed _ t isBilling reason now =>
      { failSlot c isBilling reason with
        pendingTasks := c.pendingTasks.erase t
        updatedAt := now
        version := c.version + 1
        status := if canTransitionToReady c.status then .readyForDecision else c.status }
  | .setDeadline _ deadline => { c with deadlineAt := some deadline }
  | .listTimedOutCases _ => c

/-- A call keeps the id of the record it rewrites; a saved record brings its own. -/
theorem Operation.Effective.caseId {op : Operation} {k : UUID} {c : ResolutionCase}
    (h : op.Effective k c) (hc : c.caseId = k) : (op.rewrite c).caseId = k := by
  cases op with
  | save => exact h.1
  | applyResult _ _ f => cases f <;> exact hc
  | markSlotFailed _ _ b => cases b <;> exact hc
  | getOrCreate | transition | addPendingTask | claimDecision | setDeadline
  | listTimedOutCases => exact hc

/-- How a call can put a record under `k` that has none. -/
inductive Created (k : UUID) : Operation → ResolutionCase → Prop where
  | opened {ticketId customerId currency reason : String} {correlationId : UUID} {amount : ℚ}
      {now : Time} :
      Created k (.getOrCreate k ticketId customerId correlationId amount currency reason now)
        { caseId := k, ticketId, customerId, correlationId, ticketAmount := amount
          ticketCurrency := currency, ticketReason := reason, createdAt := now, updatedAt := now }
  | saved {c : ResolutionCase} {v : Option Nat} {now : Time} (hk : c.caseId = k) :
      Created k (.save c v now) { c with version := 0, updatedAt := now }

/-- The record under `k` before and after a call. -/
inductive Fate (k : UUID) (op : Operation) :
    Option ResolutionCase → Option ResolutionCase → Prop where
  | absent : Fate k op none none
  | created {c : ResolutionCase} (h : Created k op c) : Fate k op none (some c)
  | kept {c : ResolutionCase} (h : ¬ op.Effective k c) : Fate k op (some c) (some c)
  | rewritten {c : ResolutionCase} (h : op.Effective k c) : Fate k op (some c) (some (op.rewrite c))

/-- A call leaves alone every record but the one it is on. -/
theorem Fate.unchanged {k : UUID} {op : Operation} {before after : Option ResolutionCase}
    (h : Fate k op before after) (hk : op.key ≠ some k) : after = before := by
  cases h with
  | absent | kept => rfl
  | created hc =>
    cases hc with
    | opened => exact absurd rfl hk
    | saved hid => exact absurd (congrArg some hid) hk
  | rewritten he => exact absurd he.key hk

namespace InMemoryCaseStateStore

variable {k : UUID}

theorem get_setCase (st : InMemoryCaseStateStore) (j : UUID) (c : ResolutionCase) :
    ({ st with cases := st.cases.set j c } : InMemoryCaseStateStore).get k =
      if k = j then some c else st.get k :=
  Dict.get?_set st.cases j c k

theorem get_modify_self {st : InMemoryCaseStateStore} {c : ResolutionCase} (hc : st.get k = some c)
    (f : ResolutionCase → ResolutionCase) : (st.modify k f).get k = some (f c) := by
  have hc' : st.cases.get? k = some c := hc
  unfold modify
  rw [hc']
  exact Dict.get?_set_self _ _ _

theorem get_modify_ne (st : InMemoryCaseStateStore) {j : UUID}
    (f : ResolutionCase → ResolutionCase) (hj : j ≠ k) : (st.modify k f).get j = st.get j := by
  unfold modify
  split
  · rfl
  · exact Dict.get?_set_ne _ _ hj

/-- A call that leaves a record alone. -/
theorem fate_idle (st : InMemoryCaseStateStore) {op : Operation}
    (h : ∀ c, st.get k = some c → ¬ op.Effective k c) : Fate k op (st.get k) (st.get k) := by
  cases hc : st.get k with
  | none => exact .absent
  | some c => exact .kept (h c hc)

/-- A call that writes a record under `j`. -/
theorem fate_set (st : InMemoryCaseStateStore) {op : Operation} {j : UUID} {c : ResolutionCase}
    (hother : ∀ k x, k ≠ j → ¬ op.Effective k x) (h : Fate j op (st.get j) (some c)) :
    Fate k op (st.get k)
      (({ st with cases := st.cases.set j c } : InMemoryCaseStateStore).get k) := by
  rw [get_setCase]
  split
  · rename_i hk
    subst hk
    exact h
  · rename_i hk
    exact fate_idle st fun x _ => hother k x hk

/-- A call that assigns to the record under `j`, if there is one. -/
theorem fate_modify (st : InMemoryCaseStateStore) {op : Operation} {j : UUID}
    {f : ResolutionCase → ResolutionCase} (hother : ∀ k x, k ≠ j → ¬ op.Effective k x)
    (h : ∀ c, st.get j = some c → op.Effective j c ∧ f c = op.rewrite c) :
    Fate k op (st.get k) ((st.modify j f).get k) := by
  unfold modify
  cases hc : st.cases.get? j with
  | none =>
    refine fate_idle st ?_
    intro x hx
    refine hother k x ?_
    rintro rfl
    exact absurd (hc.symm.trans hx) (by simp)
  | some c =>
    have hget : st.get j = some c := hc
    obtain ⟨heff, hf⟩ := h c hget
    refine fate_set (j := j) st hother ?_
    rw [hget, hf]
    exact .rewritten heff

/-- The store after a `save` that did not raise. -/
def saved (st : InMemoryCaseStateStore) (c : ResolutionCase) (version : Nat) (now : Time) :
    InMemoryCaseStateStore :=
  { st with
    cases := st.cases.set c.caseId { c with version, updatedAt := now }
    byCorrelation := st.byCorrelation.set c.correlationId c.caseId }

section Methods

variable {st : InMemoryCaseStateStore}

theorem save_new {c : ResolutionCase} (h : st.get c.caseId = none) (v : Option Nat) (now : Time) :
    st.save c v now = some (st.saved c 0 now) := by
  have h' : st.cases.get? c.caseId = none := h
  unfold save
  rw [h']
  rfl

theorem save_fresh {c e : ResolutionCase} (h : st.get c.caseId = some e) {v : Option Nat}
    (hv : ∀ n, v = some n → e.version = n) (now : Time) :
    st.save c v now = some (st.saved c (e.version + 1) now) := by
  have h' : st.cases.get? c.caseId = some e := h
  unfold save
  rw [h']
  cases v with
  | none => rfl
  | some n =>
    have hn : e.version = n := hv n rfl
    simp [hn, saved]

theorem save_stale {c e : ResolutionCase} (h : st.get c.caseId = some e) {n : Nat}
    (hn : e.version ≠ n) (now : Time) : st.save c (some n) now = none := by
  have h' : st.cases.get? c.caseId = some e := h
  unfold save
  rw [h']
  simp [hn]

theorem fate_save {c : ResolutionCase} {v : Option Nat} {now : Time} :
    Fate k (.save c v now) (st.get k) ((Operation.attempt st (st.save c v now)).2.get k) := by
  have hother : ∀ k x, k ≠ c.caseId → ¬ (Operation.save c v now).Effective k x :=
    fun k x hk h => hk h.1.symm
  cases he : st.get c.caseId with
  | none =>
    rw [save_new he]
    refine fate_set (j := c.caseId) st hother ?_
    rw [he]
    exact .created (.saved rfl)
  | some e =>
    by_cases hv : ∀ n, v = some n → e.version = n
    · rw [save_fresh he hv]
      refine fate_set (j := c.caseId) st hother ?_
      rw [he]
      exact .rewritten ⟨rfl, hv⟩
    · simp only [not_forall] at hv
      obtain ⟨n, rfl, hn⟩ := hv
      rw [save_stale he hn]
      refine fate_idle st ?_
      rintro x hx ⟨rfl, hfresh⟩
      obtain rfl := Option.some.inj (he.symm.trans hx)
      exact hn (hfresh n rfl)

theorem fate_getOrCreate {caseId correlationId : UUID} {ticketId customerId : String} {amount : ℚ}
    {currency reason : String} {now : Time} :
    Fate k (.getOrCreate caseId ticketId customerId correlationId amount currency reason now)
      (st.get k)
      ((st.getOrCreate caseId ticketId customerId correlationId amount currency reason now).2.get
        k) := by
  unfold getOrCreate
  split
  · exact fate_idle st fun _ _ => id
  split
  · exact fate_idle st fun _ _ => id
  · rename_i hnone
    refine fate_set (j := caseId) st (fun _ _ _ => id) ?_
    rw [show st.get caseId = none from hnone]
    exact .created .opened

theorem fate_transition {caseId : UUID} {s : CaseStatus} {now : Time} :
    Fate k (.transition caseId s now) (st.get k)
      ((Operation.attempt st (st.transition caseId s now)).2.get k) := by
  have hidle : (∀ c, st.get caseId = some c → canTransition c.status s ≠ true) →
      Fate k (.transition caseId s now) (st.get k) (st.get k) := by
    intro h
    refine fate_idle st ?_
    rintro c hc ⟨rfl, hs⟩
    exact h c hc hs
  unfold transition
  cases hc : st.cases.get? caseId with
  | none => exact hidle fun c hc' => absurd (hc.symm.trans hc') (by simp)
  | some c =>
    dsimp only
    split
    · rename_i hs
      refine fate_modify st (fun k x hk h => hk h.1.symm) ?_
      intro c' hc'
      obtain rfl := Option.some.inj (hc.symm.trans hc')
      exact ⟨⟨rfl, hs⟩, rfl⟩
    · rename_i hs
      refine hidle ?_
      intro c' hc'
      obtain rfl := Option.some.inj (hc.symm.trans hc')
      exact hs

theorem fate_addPendingTask {caseId t : UUID} :
    Fate k (.addPendingTask caseId t) (st.get k)
      ((Operation.attempt st (st.addPendingTask caseId t)).2.get k) := by
  unfold addPendingTask
  cases hc : st.cases.get? caseId with
  | none =>
    refine fate_idle st ?_
    rintro c hc' rfl
    exact absurd (hc.symm.trans hc') (by simp)
  | some c =>
    exact fate_modify (j := caseId)
      (f := fun c => { c with pendingTasks := insert t c.pendingTasks }) st
      (fun k x hk h => hk (Eq.symm h)) fun _ _ => ⟨rfl, rfl⟩

theorem undecided_of_open {s : CaseStatus} (h : ¬ ((isTerminal s || s == .decided) = true)) :
    undecided s = true := by
  rw [undecided_eq] at h
  simpa using h

theorem fate_applyResult {caseId t : UUID} {f : Finding} {now : Time} :
    Fate k (.applyResult caseId t f now) (st.get k) ((st.applyResult caseId t f now).2.get k) := by
  have hidle : (∀ c, st.get caseId = some c → ¬ (undecided c.status = true ∧ t ∈ c.pendingTasks)) →
      Fate k (.applyResult caseId t f now) (st.get k) (st.get k) := by
    intro h
    refine fate_idle st ?_
    rintro c hc ⟨rfl, hs⟩
    exact h c hc hs
  unfold applyResult
  cases hc : st.cases.get? caseId with
  | none => exact hidle fun c hc' => absurd (hc.symm.trans hc') (by simp)
  | some c =>
    have hsame : ∀ c', st.get caseId = some c' → c = c' :=
      fun c' hc' => Option.some.inj (hc.symm.trans hc')
    dsimp only
    split
    · rename_i hclosed
      refine hidle ?_
      rintro c' hc' ⟨hu, -⟩
      rw [undecided_eq, hsame c' hc', hu] at hclosed
      exact absurd hclosed (by decide)
    rename_i hu
    split
    · rename_i ht
      refine hidle ?_
      rintro c' hc' ⟨-, hmem⟩
      exact ht (hsame c' hc' ▸ hmem)
    rename_i ht
    refine fate_set st (fun k x hk h => hk h.1.symm) ?_
    rw [show st.get caseId = some c from hc]
    have hrewritten : Fate caseId (.applyResult caseId t f now) (some c) _ :=
      .rewritten ⟨rfl, undecided_of_open hu, not_not.mp ht⟩
    by_cases hready : c.pendingTasks.erase t = ∅ ∧ canTransitionToReady c.status = true
    · cases f <;> simpa [Operation.rewrite, attach, hready] using hrewritten
    · cases f <;> simpa [Operation.rewrite, attach, hready] using hrewritten

theorem fate_claimDecision {caseId : UUID} {now : Time} :
    Fate k (.claimDecision caseId now) (st.get k) ((st.claimDecision caseId now).2.get k) := by
  have hidle : (∀ c, st.get caseId = some c → undecided c.status = false) →
      Fate k (.claimDecision caseId now) (st.get k) (st.get k) := by
    intro h
    refine fate_idle st ?_
    rintro c hc ⟨rfl, hs⟩
    rw [h c hc] at hs
    exact Bool.false_ne_true hs
  unfold claimDecision
  cases hc : st.cases.get? caseId with
  | none => exact hidle fun c hc' => absurd (hc.symm.trans hc') (by simp)
  | some c =>
    dsimp only
    rw [Bool.or_comm]
    split
    · rename_i hclosed
      refine hidle ?_
      intro c' hc'
      obtain rfl := Option.some.inj (hc.symm.trans hc')
      rw [undecided_eq] at hclosed
      simpa using hclosed
    · rename_i hu
      refine fate_modify st (fun k x hk h => hk h.1.symm) ?_
      intro c' hc'
      obtain rfl := Option.some.inj (hc.symm.trans hc')
      exact ⟨⟨rfl, undecided_of_open hu⟩, rfl⟩

theorem fate_markSlotFailed {caseId t : UUID} {b : Bool} {reason : String} {now : Time} :
    Fate k (.markSlotFailed caseId t b reason now) (st.get k)
      ((st.markSlotFailed caseId t b reason now).get k) := by
  have hidle : (∀ c, st.get caseId = some c → isTerminal c.status ≠ false) →
      Fate k (.markSlotFailed caseId t b reason now) (st.get k) (st.get k) := by
    intro h
    refine fate_idle st ?_
    rintro c hc ⟨rfl, hs⟩
    exact h c hc hs
  unfold markSlotFailed
  cases hc : st.cases.get? caseId with
  | none => exact hidle fun c hc' => absurd (hc.symm.trans hc') (by simp)
  | some c =>
    dsimp only
    split
    · rename_i hs
      refine hidle ?_
      intro c' hc'
      obtain rfl := Option.some.inj (hc.symm.trans hc')
      rw [hs]
      decide
    · rename_i hs
      refine fate_modify st (fun k x hk h => hk h.1.symm) ?_
      intro c' hc'
      obtain rfl := Option.some.inj (hc.symm.trans hc')
      refine ⟨⟨rfl, Bool.not_eq_true _ ▸ hs⟩, ?_⟩
      by_cases hr : canTransitionToReady c.status = true
      · cases b <;> simp [Operation.rewrite, failSlot, hr]
      · cases b <;> simp [Operation.rewrite, failSlot, hr]

/-- **What a call does to a record.** -/
theorem run_get (op : Operation) (st : InMemoryCaseStateStore) (k : UUID) :
    Fate k op (st.get k) ((op.run st).2.get k) := by
  cases op with
  | getOrCreate => exact fate_getOrCreate
  | save => exact fate_save
  | transition => exact fate_transition
  | addPendingTask => exact fate_addPendingTask
  | applyResult => exact fate_applyResult
  | claimDecision => exact fate_claimDecision
  | markSlotFailed => exact fate_markSlotFailed
  | setDeadline =>
    exact fate_modify st (fun k x hk h => hk (Eq.symm h)) fun _ _ => ⟨rfl, rfl⟩
  | listTimedOutCases => exact fate_idle st fun _ _ => id

end Methods

end InMemoryCaseStateStore

end RefundOps.Resolution
