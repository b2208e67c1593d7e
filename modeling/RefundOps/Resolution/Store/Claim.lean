import RefundOps.Lib.History
import RefundOps.Resolution.Store.Operations

/-!
# A claim is exclusive

`claim_decision` is won once: after it the case is not claimed again, no result is attached to it
and no sweep finds it. The guards of these methods ask for the status `DECIDED` or a terminal one,
and a claimed case keeps such a status (`Claimed`) under every call but one: the transition table
lets `DECIDED` go on to `RESPONSE_DRAFTED`, which the guards do not know.
-/

set_option autoImplicit false

namespace RefundOps.Resolution

/-- A saved record has the status it is stored with, so only the methods that are made for it
    change the status of the case. -/
def StatusKept (k : UUID) (st : InMemoryCaseStateStore) : Operation → Prop
  | .save c _ _ => c.caseId = k → ∀ e, st.get k = some e → c.status = e.status
  | _ => True

/-- No transition of the case to `RESPONSE_DRAFTED` is legal where it is called. -/
def NotDrafted (k : UUID) (st : InMemoryCaseStateStore) : Operation → Prop
  | .transition j s _ => j = k → s = .responseDrafted →
      ∀ c, st.get k = some c → canTransition c.status s = false
  | _ => True

/-- What a case that has been claimed has to answer. -/
def Lapsed (k : UUID) : Operation × Outcome → Prop
  | (.claimDecision j _, .claimed won) => j = k → won = false
  | (.applyResult j _ _ _, .attached outcome) => j = k → outcome ≠ .attached
  | (.listTimedOutCases _, .listed cs) => ∀ c ∈ cs, c.caseId ≠ k
  | _ => True

/-- Some call claimed the case. -/
def HasClaim (k : UUID) (hist : List (Operation × Outcome)) : Prop :=
  ∃ now, (Operation.claimDecision k now, Outcome.claimed true) ∈ hist

/-- Every call after a claim finds the case lapsed. -/
def ClaimedForGood (k : UUID) (hist : List (Operation × Outcome)) : Prop :=
  EachAfter (fun before x => HasClaim k before → Lapsed k x) hist

/-! ## One call -/

section Calls

variable {st : InMemoryCaseStateStore} {k : UUID} {op : Operation}

/-- A record has its key for a case id. -/
def KeysOk (st : InMemoryCaseStateStore) : Prop := ∀ j c, st.get j = some c → c.caseId = j

theorem KeysOk.run (h : KeysOk st) (op : Operation) : KeysOk (op.run st).2 := by
  intro j c hc
  have hfate := InMemoryCaseStateStore.run_get op st j
  rw [hc] at hfate
  generalize hold : st.get j = old at hfate
  cases hfate with
  | kept => exact h j c hold
  | rewritten heff => exact heff.caseId (h j _ hold)
  | created hr =>
    cases hr with
    | opened => rfl
    | saved hk => exact hk

/-- The case is stored, and decided or at its end. -/
def Claimed (k : UUID) (st : InMemoryCaseStateStore) : Prop :=
  ∃ c, st.get k = some c ∧ undecided c.status = false

/-- A status that cannot be claimed goes on to another such, or to `RESPONSE_DRAFTED`. -/
theorem undecided_of_canTransition {s s' : CaseStatus} (hu : undecided s = false)
    (h : canTransition s s' = true) (hs : s' ≠ .responseDrafted) : undecided s' = false := by
  cases s <;> cases s' <;> first | rfl | exact absurd rfl hs | exact absurd h (by decide) |
    exact absurd hu (by decide)

theorem Claimed.run (h : Claimed k st) (hkept : StatusKept k st op) (hdraft : NotDrafted k st op) :
    Claimed k (op.run st).2 := by
  obtain ⟨c, hc, hu⟩ := h
  have hfate := InMemoryCaseStateStore.run_get op st k
  rw [hc] at hfate
  generalize hnew : (op.run st).2.get k = new at hfate
  cases hfate with
  | kept => exact ⟨c, hnew, hu⟩
  | rewritten heff =>
    refine ⟨_, hnew, ?_⟩
    cases op with
    | save x =>
      have hstatus : x.status = c.status := hkept heff.1 c hc
      exact (congrArg undecided hstatus).trans hu
    | transition j s =>
      refine undecided_of_canTransition hu heff.2 ?_
      rintro rfl
      have hillegal := hdraft heff.1 rfl c hc
      rw [heff.2] at hillegal
      exact Bool.false_ne_true hillegal.symm
    | applyResult => exact absurd (hu.symm.trans heff.2.1) Bool.false_ne_true
    | claimDecision => exact absurd (hu.symm.trans heff.2) Bool.false_ne_true
    | markSlotFailed =>
      have hready : canTransitionToReady c.status = false := by
        revert hu
        cases c.status <;> decide
      simpa [Operation.rewrite, hready] using hu
    | getOrCreate | addPendingTask | setDeadline | listTimedOutCases => exact hu

/-- What is asked of a claimed case is answered as it has to be. -/
theorem Claimed.lapsed (h : Claimed k st) (hkeys : KeysOk st) (op : Operation) :
    Lapsed k (op, (op.run st).1) := by
  obtain ⟨c, hc, hu⟩ := h
  have hc' : st.cases.get? k = some c := hc
  have hclosed : (isTerminal c.status || c.status == .decided) = true := by
    rw [undecided_eq, hu]
    rfl
  cases op with
  | claimDecision j now =>
    rintro rfl
    show (st.claimDecision j now).1 = false
    unfold InMemoryCaseStateStore.claimDecision
    rw [hc']
    dsimp only
    rw [Bool.or_comm, if_pos hclosed]
  | applyResult j t f now =>
    rintro rfl
    show (st.applyResult j t f now).1 ≠ .attached
    unfold InMemoryCaseStateStore.applyResult
    rw [hc']
    dsimp only
    rw [if_pos hclosed]
    exact AttachOutcome.noConfusion
  | listTimedOutCases now =>
    rintro x hx rfl
    obtain ⟨hmem, hout⟩ := List.mem_filter.mp hx
    obtain ⟨j, hj⟩ := Dict.get?_of_mem_values hmem
    have hj' : st.get j = some x := hj
    rw [hkeys j x hj', hj'] at hc
    obtain rfl := Option.some.inj hc
    have hopen : undecided x.status = true := by
      unfold InMemoryCaseStateStore.timedOut at hout
      simp only [Bool.and_eq_true, bne_iff_ne] at hout
      simpa [undecided] using hout.1.1
    rw [hu] at hopen
    exact Bool.false_ne_true hopen
  | getOrCreate | save | transition | addPendingTask | markSlotFailed | setDeadline => trivial

/-- A claim that is won leaves the case claimed. -/
theorem claimed_of_won {now : Time} (h : ((Operation.claimDecision k now).run st).1 = .claimed true) :
    Claimed k ((Operation.claimDecision k now).run st).2 := by
  have hwon : (st.claimDecision k now).1 = true := Outcome.claimed.inj h
  show ∃ c, (st.claimDecision k now).2.get k = some c ∧ _
  unfold InMemoryCaseStateStore.claimDecision at hwon ⊢
  cases hc : st.cases.get? k with
  | none => rw [hc] at hwon; exact absurd hwon Bool.false_ne_true
  | some c =>
    rw [hc] at hwon
    dsimp only at hwon ⊢
    split at hwon
    · exact absurd hwon Bool.false_ne_true
    · rename_i hopen
      rw [if_neg hopen]
      unfold InMemoryCaseStateStore.modify
      rw [hc]
      refine ⟨_, by rw [InMemoryCaseStateStore.get_setCase, if_pos rfl], rfl⟩

end Calls

/-! ## Whole histories -/

/-- **A claim is for good**, in every history in which no transition to `RESPONSE_DRAFTED`
    succeeds. -/
theorem claim_is_for_good (k : UUID) {hist : List (Operation × Outcome)}
    {st : InMemoryCaseStateStore}
    (h : Steps (fun st op => StatusKept k st op ∧ NotDrafted k st op) {} hist st) :
    ClaimedForGood k hist := by
  suffices hinv : ClaimedForGood k hist ∧ KeysOk st ∧ (HasClaim k hist → Claimed k st) from hinv.1
  induction h with
  | nil =>
    refine ⟨.nil, ?_, ?_⟩
    · intro j c hc
      exact absurd hc (by simp [InMemoryCaseStateStore.get])
    · rintro ⟨now, hnow⟩
      exact absurd hnow List.not_mem_nil
  | @step hist st _ op ha ih =>
    obtain ⟨hgood, hkeys, hclaimed⟩ := ih
    refine ⟨hgood.append ?_, hkeys.run op, ?_⟩
    · intro before x after heq hbefore
      obtain ⟨rfl, rfl⟩ : before = [] ∧ x = (op, (op.run st).1) := by
        cases before with
        | nil => exact ⟨rfl, (List.cons.inj heq).1.symm⟩
        | cons y ys => exact absurd (List.cons.inj heq).2 (by simp)
      rw [List.append_nil] at hbefore
      exact (hclaimed hbefore).lapsed hkeys op
    · rintro ⟨now, hnow⟩
      rcases List.mem_append.mp hnow with hold | hnew
      · exact (hclaimed ⟨now, hold⟩).run ha.1 ha.2
      · obtain ⟨rfl, hwon⟩ := Prod.mk.inj (List.mem_singleton.mp hnew)
        exact claimed_of_won hwon.symm

theorem claim_is_for_good_twice :
    ∃ st, Steps (fun st op => StatusKept 1 st op ∧ NotDrafted 1 st op) {}
        [(sampleOpen, .returned), (.claimDecision 1 0, .claimed true),
          (.claimDecision 1 0, .claimed false)] st ∧
      ClaimedForGood 1 [(sampleOpen, .returned), (.claimDecision 1 0, .claimed true),
        (.claimDecision 1 0, .claimed false)] := by
  obtain ⟨st, hsteps⟩ : ∃ st, Steps (fun st op => StatusKept 1 st op ∧ NotDrafted 1 st op) {}
      [(sampleOpen, .returned), (.claimDecision 1 0, .claimed true),
        (.claimDecision 1 0, .claimed false)] st :=
    ⟨_, ((Steps.nil.step sampleOpen ⟨trivial, trivial⟩).step (.claimDecision 1 0)
      ⟨trivial, trivial⟩).step (.claimDecision 1 0) ⟨trivial, trivial⟩⟩
  exact ⟨st, hsteps, claim_is_for_good 1 hsteps⟩

/-- The case is claimed, its response is drafted, and it is claimed again. -/
theorem drafted_case_is_claimed_again :
    ∃ st, Steps (StatusKept 1) {}
        [(sampleOpen, .returned), (.claimDecision 1 0, .claimed true),
          (.transition 1 .responseDrafted 0, .returned), (.claimDecision 1 0, .claimed true)] st ∧
      ¬ ClaimedForGood 1
        [(sampleOpen, .returned), (.claimDecision 1 0, .claimed true),
          (.transition 1 .responseDrafted 0, .returned), (.claimDecision 1 0, .claimed true)] := by
  refine ⟨_, (((Steps.nil.step sampleOpen trivial).step (.claimDecision 1 0) trivial).step
    (.transition 1 .responseDrafted 0) trivial).step (.claimDecision 1 0) trivial, ?_⟩
  intro hgood
  have hlapsed := hgood
    [(sampleOpen, .returned), (.claimDecision 1 0, .claimed true),
      (.transition 1 .responseDrafted 0, .returned)]
    (.claimDecision 1 0, .claimed true) [] rfl ⟨0, by simp⟩
  exact absurd (hlapsed rfl) (by decide)

end RefundOps.Resolution
