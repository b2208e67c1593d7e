import RefundOps.Resolution.Properties.FailedOpinion
import RefundOps.Resolution.Properties.Finality
import RefundOps.Resolution.Properties.Isolation
import RefundOps.Resolution.Properties.Soundness

/-!
# The declared transitions

`_ALLOWED_TRANSITIONS` declares a state machine, and `InMemoryCaseStateStore.transition` is the only
method that asks it. The handlers, the reaper and the other methods assign the status as they go.
Along a run each of these assignments makes a declared transition, with three exceptions: a direct
response goes from `CLASSIFIED` to `CLOSED` at once, a claim can take a case that is still waiting
for its reviews, and a claimed decision that is finished after a delegation failure moves the case
from `ESCALATED` back to `DECIDED`. A run is *orderly* when none of the three comes up, by what can
be seen of it; then the declared state machine is the one that runs.
-/

set_option autoImplicit false

namespace RefundOps.Resolution

variable {S : Settings} {i : LoopId} {p p' : Phase} {V V' : View} {os : List Obs} {k : UUID}

/-! ## Escalated cases -/

/-- A decision has been taken on the case `k` after a claim. -/
def TakenFor (tr : Trace) (k : UUID) : Prop :=
  ∃ i c now d, (i, Obs.decisionTaken c now d) ∈ tr ∧ c.caseId = k

/-- The delegation of the case `k` has failed. -/
def DelegationFailedFor (tr : Trace) (k : UUID) : Prop :=
  ∃ i s, (i, Obs.delegationFailed k s) ∈ tr

theorem DelegationFailedFor.append {tr : Trace} (h : DelegationFailedFor tr k) (tr' : Trace) :
    DelegationFailedFor (tr ++ tr') k := by
  obtain ⟨i, s, hmem⟩ := h
  exact ⟨i, s, List.mem_append_left _ hmem⟩

/-- A decision that is new was taken by this action. -/
theorem TakenFor.of_append {tr : Trace} (h : TakenFor (tr ++ os.map (i, ·)) k) :
    TakenFor tr k ∨ ∃ c now d, Obs.decisionTaken c now d ∈ os ∧ c.caseId = k := by
  obtain ⟨j, c, now, d, hmem, hk⟩ := h
  rcases List.mem_append.mp hmem with hold | hnew
  · exact .inl ⟨j, c, now, d, hold, hk⟩
  · obtain ⟨o, ho, heq⟩ := List.mem_map.mp hnew
    cases heq
    exact .inr ⟨c, now, d, ho, hk⟩

/-- A decision is taken on a case that is still open, and closes it. -/
theorem act_taken {c : ResolutionCase} {now : Time} {d : CustomerResponseDecisionPayload}
    (hok : ViewOk S V) (ha : Act S i p V os p' V') (h : Obs.decisionTaken c now d ∈ os) :
    ¬ Final V c.caseId ∧ Final V' c.caseId := by
  cases ha with
  | minor hminor => exact absurd (hminor _ h) (by simp [Obs.Minor])
  | @claim _ _ _ k x snapshot _ hi hp hc hb hu hs =>
    simp only [List.mem_cons, reduceCtorEq, Obs.decisionTaken.injEq, List.not_mem_nil, or_false,
      false_or] at h
    obtain ⟨rfl, -, -⟩ := h
    have hid : c.caseId = k :=
      (congrArg ResolutionCase.caseId hs).trans (hok.case k x hc).caseId
    rw [hid]
    exact ⟨not_final_of_undecided hc hu, final_put rfl⟩
  | create | reopen | classify | direct | delegate | delegated | release | close | finish
  | abandon | delegationFailed | attachBilling | attachRisk | slotFailed | claimHighRisk | published
  | publishFailed | draftFailed => exact absurd h (by simp)

/-- The loop is emitting a decision on `k`, or has emitted it, on the path `m`. -/
def Phase.Carries (k : UUID) (m : Emission) : Phase → Prop
  | .emitting k' _ m' => k' = k ∧ m' = m
  | .emitted k' _ m' => k' = k ∧ m' = m
  | _ => False

/-- A loop that carries a decision did so before, or has just begun to. -/
theorem act_carries {m : Emission} (ha : Act S i p V os p' V') (h : p'.Carries k m) :
    p.Carries k m ∨ ∃ d, Opened V k i d m os V' := by
  cases hp : p' with
  | quiet | triaging | delegating | owing =>
    rw [hp] at h
    exact h.elim
  | emitting k' d m' =>
    rw [hp] at h ha
    obtain ⟨rfl, rfl⟩ := h
    rcases act_emitting ha with ⟨rfl, -⟩ | hopen
    · exact .inl ⟨rfl, rfl⟩
    · exact .inr ⟨d, hopen⟩
  | emitted k' d m' =>
    rw [hp] at h ha
    left
    cases ha with
    | minor => exact h
    | published => exact h

theorem ne_escalated_of_undecided {s : CaseStatus} (h : undecided s = true) : s ≠ .escalated := by
  rintro rfl
  exact absurd h (by decide)

/-- A case is escalated by the end of an emission, or it was before. -/
theorem act_escalated {x : ResolutionCase} (ha : Act S i p V os p' V') (hx : V'.cases k = some x)
    (hs : x.status = .escalated) :
    V.cases k = some x ∨ ∃ m, p.Carries k m ∧ m.finalStatus = .escalated ∧ os = [] := by
  cases ha with
  | minor | reopen | abandon | direct | delegated | delegationFailed | release | published
  | publishFailed | draftFailed => exact .inl hx
  | create hnone hnew =>
    rcases View.of_put hx with ⟨-, rfl⟩ | ⟨-, h⟩
    · exact absurd (hnew.status.symm.trans hs) (by simp)
    · exact .inl h
  | classify | delegate | claim | claimHighRisk | close =>
    rcases View.of_put hx with ⟨-, rfl⟩ | ⟨-, h⟩
    · exact absurd hs (by simp [delegatedCase])
    · exact .inl h
  | attachBilling hc hu | attachRisk hc hu =>
    rcases View.of_put hx with ⟨-, rfl⟩ | ⟨-, h⟩
    · exact absurd hs (ne_escalated_of_undecided (undecided_attachedCase hu))
    · exact .inl h
  | slotFailed hc hu =>
    rcases View.of_put hx with ⟨-, rfl⟩ | ⟨-, h⟩
    · exact absurd hs (ne_escalated_of_undecided (undecided_slotFailedCase hu))
    · exact .inl h
  | finish hm hc hb =>
    rcases View.of_put hx with ⟨rfl, rfl⟩ | ⟨-, h⟩
    · exact .inr ⟨_, ⟨rfl, rfl⟩, hs, rfl⟩
    · exact .inl h

/-- What the trace says of the cases that are escalated, and of the emissions that escalate. -/
structure Escalations (tr : Trace) (V : View) (ph : LoopId → Phase) : Prop where
  taken : ∀ k, TakenFor tr k → Final V k
  highRisk : ∀ i k, (ph i).Carries k .highRisk → Final V k ∧ ¬ TakenFor tr k
  fallback : ∀ i k, (ph i).Carries k .fallback → DelegationFailedFor tr k
  escalated : ∀ k x, V.cases k = some x → x.status = .escalated →
    DelegationFailedFor tr k ∨ ¬ TakenFor tr k

/-- No decision is taken on a case that is final. -/
theorem not_taken_act {tr : Trace} (hok : ViewOk S V) (ha : Act S i p V os p' V')
    (hfinal : Final V k) (h : ¬ TakenFor tr k) : ¬ TakenFor (tr ++ os.map (i, ·)) k := by
  intro ht
  rcases ht.of_append with hold | ⟨c, now, d, hmem, rfl⟩
  · exact h hold
  · exact (act_taken hok ha hmem).1 hfinal

theorem escalations_inductive (S : Settings) : Inductive S EventLoop.anyStep Escalations := by
  intro tr V ph i os p' V' waiting h hok ha hw hg
  refine ⟨?_, ?_, ?_, ?_⟩
  · intro k ht
    rcases ht.of_append with hold | ⟨c, now, d, hmem, rfl⟩
    · exact (h.taken k hold).act ha
    · exact (act_taken hok ha hmem).2
  · intro j k hj
    have hcarried : ∀ j, (ph j).Carries k .highRisk →
        Final V' k ∧ ¬ TakenFor (tr ++ os.map (i, ·)) k := by
      intro j hj
      obtain ⟨hfinal, hnot⟩ := h.highRisk j k hj
      exact ⟨hfinal.act ha, not_taken_act hok ha hfinal hnot⟩
    by_cases hji : j = i
    · subst hji
      rw [Function.update_self] at hj
      rcases act_carries ha hj with hold | ⟨d, hopen⟩
      · exact hcarried j hold
      · -- a claim that has just been won leaves the case to this loop alone
        cases hopen with
        | highRisk hc hu =>
          refine ⟨final_put rfl, ?_⟩
          intro ht
          rcases ht.of_append with hold | ⟨c, now, d, hmem, -⟩
          · exact not_final_of_undecided hc hu (h.taken k hold)
          · exact absurd hmem (by simp)
    · rw [Function.update_of_ne hji] at hj
      exact hcarried j hj
  · intro j k hj
    by_cases hji : j = i
    · subst hji
      rw [Function.update_self] at hj
      rcases act_carries ha hj with hold | ⟨d, hopen⟩
      · exact (h.fallback j k hold).append _
      · cases hopen with
        | fallback hc hd hr => exact ⟨.intake, _, List.mem_append_right _ List.mem_cons_self⟩
    · rw [Function.update_of_ne hji] at hj
      exact (h.fallback j k hj).append _
  · intro k x hx hs
    rcases act_escalated ha hx hs with hold | ⟨m, hm, hfin, rfl⟩
    · rcases h.escalated k x hold hs with hf | hnot
      · exact .inl (hf.append _)
      · refine .inr (not_taken_act hok ha ⟨x, hold, ?_⟩ hnot)
        rw [hs]
        rfl
    · -- the end of an emission: only two of the four paths escalate
      rw [List.map_nil, List.append_nil]
      cases m with
      | direct | claimed => exact absurd hfin (by decide)
      | fallback => exact .inl (h.fallback i k hm)
      | highRisk => exact .inr (h.highRisk i k hm).2

/-- **A case that was decided on is escalated only by a delegation that failed.** -/
theorem run_escalated {now : Time} {nextId : UUID} {tr : Trace} {s : State}
    (hrun : (service S).Run EventLoop.anyStep (start now nextId) tr s)
    (hs : s.world.status k = some .escalated) (ht : TakenFor tr k) : DelegationFailedFor tr k := by
  have hinit : Escalations [] emptyView fun _ => .quiet := by
    refine ⟨?_, fun _ _ h => h.elim, fun _ _ h => h.elim, fun _ _ h => absurd h (by simp [emptyView])⟩
    rintro k ⟨_, _, _, _, hmem, -⟩
    exact absurd hmem List.not_mem_nil
  obtain ⟨ph, -, h⟩ := run_invariant (escalations_inductive S) hinit hrun
  obtain ⟨x, hx, hxs⟩ := Option.map_eq_some_iff.mp hs
  rcases h.escalated k x.core (InMemoryCaseStateStore.view_cases_of_get hx) hxs with hf | hnot
  · exact hf
  · exact absurd ht hnot

/-! ## Waiting cases -/

/-- The reviews of the case `k` are in: each of its tasks has its opinion, or a slot has failed. -/
def Reviewed (S : Settings) (tr : Trace) (k : UUID) : Prop :=
  (∀ t ∈ [billingTaskOf S k, riskTaskOf S k], ∃ i ref f, (i, Obs.attached ref k t f) ∈ tr) ∨
    ∃ i c t b, (i, Obs.slotFailed c t b) ∈ tr ∧ c.caseId = k

/-- A record with tasks does not get new ones, and does not go back to waiting. -/
theorem Moved.progress {c x : ResolutionCase} (hok : CaseOk S k c) (h : Moved S k i c x)
    (hb : c.billingTaskId.isSome) :
    x.billingTaskId.isSome ∧ x.pendingTasks ⊆ c.pendingTasks ∧
      (x.status = .waitingForPeerReviews → c.status = .waitingForPeerReviews) := by
  cases h with
  | classified | closed => exact ⟨hb, fun _ h => h, fun h => absurd h (by simp)⟩
  | delegated hs =>
    -- a record is delegated once: it has no tasks before
    have hnone := (hok.fresh_of_status (.inr hs)).billingTaskId
    rw [hnone] at hb
    exact absurd hb (by simp)
  | attachedBilling hu | attachedRisk hu =>
    refine ⟨hb, Finset.erase_subset _ _, ?_⟩
    intro hs
    simp only [attachedCase] at hs
    split at hs
    · exact absurd hs (by simp)
    · exact hs
  | slotFailed hu =>
    refine ⟨hb, Finset.erase_subset _ _, ?_⟩
    intro hs
    simp only [slotFailedCase] at hs
    split at hs
    · exact absurd hs (by simp)
    · exact hs
  | claimed | highRisk => exact ⟨hb, fun _ h => h, fun h => absurd h (by simp)⟩
  | finished _ hfin =>
    refine ⟨hb, fun _ h => h, ?_⟩
    intro hs
    rcases hfin with rfl | rfl <;> exact absurd hs (by simp)

/-- A property of records with tasks that `progress` keeps survives every action. -/
theorem progress_act {Q : ResolutionCase → Prop}
    (hQ : ∀ c x, Q c → x.pendingTasks ⊆ c.pendingTasks →
      (x.status = .waitingForPeerReviews → c.status = .waitingForPeerReviews) → Q x)
    (hok : ViewOk S V) (ha : Act S i p V os p' V')
    (h : ∃ c, V.cases k = some c ∧ c.billingTaskId.isSome ∧ Q c) :
    ∃ c, V'.cases k = some c ∧ c.billingTaskId.isSome ∧ Q c := by
  obtain ⟨c, hc, hb, hq⟩ := h
  rcases act_case ha hc with hsame | ⟨x, hx, hm⟩
  · exact ⟨c, hsame, hb, hq⟩
  · obtain ⟨hb', hpend, hwait⟩ := hm.progress (hok.case k c hc) hb
    exact ⟨x, hx, hb', hQ c x hq hpend hwait⟩

/-- What the trace says of the cases that are waiting. -/
structure Reviews (S : Settings) (tr : Trace) (V : View) (_ : LoopId → Phase) : Prop where
  attached : ∀ i ref k t f, (i, Obs.attached ref k t f) ∈ tr →
    ∃ c, V.cases k = some c ∧ c.billingTaskId.isSome ∧ t ∉ c.pendingTasks
  failed : ∀ i x t b, (i, Obs.slotFailed x t b) ∈ tr →
    ∃ c, V.cases x.caseId = some c ∧ c.billingTaskId.isSome ∧ c.status ≠ .waitingForPeerReviews
  waiting : ∀ k c, V.cases k = some c → c.status = .waitingForPeerReviews → c.pendingTasks ≠ ∅

theorem act_attached {ref : EventRef} {t : UUID} {f : Finding} (hok : ViewOk S V)
    (ha : Act S i p V os p' V') (h : Obs.attached ref k t f ∈ os) :
    ∃ c, V'.cases k = some c ∧ c.billingTaskId.isSome ∧ t ∉ c.pendingTasks := by
  cases ha with
  | minor hminor => exact absurd (hminor _ h) (by simp [Obs.Minor])
  | attachBilling hc hu ht =>
    simp only [List.mem_cons, reduceCtorEq, Obs.attached.injEq, List.not_mem_nil, or_false,
      false_or] at h
    obtain ⟨-, rfl, rfl, -⟩ := h
    exact ⟨_, View.put_cases_self _ _ _, Option.isSome_of_mem ht, Finset.notMem_erase _ _⟩
  | attachRisk hc hu ht =>
    simp only [List.mem_cons, reduceCtorEq, Obs.attached.injEq, List.not_mem_nil, or_false,
      false_or] at h
    obtain ⟨-, rfl, rfl, -⟩ := h
    have hdel := (hok.case _ _ hc).delegated_of_task (.inr (Option.isSome_of_mem ht))
    exact ⟨_, View.put_cases_self _ _ _, Option.isSome_of_mem hdel.billingTaskId,
      Finset.notMem_erase _ _⟩
  | create | reopen | classify | direct | delegate | delegated | release | close | finish
  | abandon | delegationFailed | slotFailed | claim | claimHighRisk | published | publishFailed
  | draftFailed => exact absurd h (by simp)

theorem act_slotFailed {x : ResolutionCase} {t : UUID} {b : Bool} (hok : ViewOk S V)
    (ha : Act S i p V os p' V') (h : Obs.slotFailed x t b ∈ os) :
    ∃ c, V'.cases x.caseId = some c ∧ c.billingTaskId.isSome ∧
      c.status ≠ .waitingForPeerReviews := by
  cases ha with
  | minor hminor => exact absurd (hminor _ h) (by simp [Obs.Minor])
  | @slotFailed _ k before e result hc hu ht he hs =>
    simp only [List.mem_cons, reduceCtorEq, Obs.slotFailed.injEq, List.not_mem_nil, or_false,
      false_or] at h
    obtain ⟨rfl, -, -⟩ := h
    have hcase := hok.case k _ hc
    have hid : x.caseId = k := hcase.caseId
    have hdel := hcase.delegated_of_task
      (ht.imp (fun h => Option.isSome_of_mem h) (fun h => Option.isSome_of_mem h))
    rw [hid]
    refine ⟨_, View.put_cases_self _ _ _, Option.isSome_of_mem hdel.billingTaskId, ?_⟩
    have hready : canTransitionToReady x.core.status = true :=
      canTransitionToReady_of_undecided hdel hu
    simp [slotFailedCase, hready]
  | create | reopen | classify | direct | delegate | delegated | release | close | finish
  | abandon | delegationFailed | attachBilling | attachRisk | claim | claimHighRisk | published
  | publishFailed | draftFailed => exact absurd h (by simp)

/-- An attached opinion leaves a case waiting only if another one is to come. -/
theorem attachedCase_pending {c : ResolutionCase} {t : UUID} {f : Finding}
    (hs : (attachedCase c t f).status = .waitingForPeerReviews) :
    (attachedCase c t f).pendingTasks ≠ ∅ := by
  by_cases h : c.pendingTasks.erase t = ∅ ∧ canTransitionToReady c.status = true
  · rw [attachedCase_ready h] at hs
    exact absurd hs (by simp)
  · rw [attachedCase_waiting h] at hs ⊢
    intro hempty
    have hcs : c.status = .waitingForPeerReviews := hs
    rw [hcs] at h
    exact h ⟨hempty, rfl⟩

theorem act_waiting {x : ResolutionCase} (ha : Act S i p V os p' V')
    (h : ∀ c, V.cases k = some c → c.status = .waitingForPeerReviews → c.pendingTasks ≠ ∅)
    (hx : V'.cases k = some x) (hs : x.status = .waitingForPeerReviews) : x.pendingTasks ≠ ∅ := by
  cases ha with
  | minor | reopen | abandon | direct | delegated | delegationFailed | release | published
  | publishFailed | draftFailed => exact h x hx hs
  | create hnone hnew =>
    rcases View.of_put hx with ⟨-, rfl⟩ | ⟨-, hx⟩
    · exact absurd (hnew.status.symm.trans hs) (by simp)
    · exact h x hx hs
  | classify | claim | claimHighRisk | close =>
    rcases View.of_put hx with ⟨-, rfl⟩ | ⟨-, hx⟩
    · exact absurd hs (by simp)
    · exact h x hx hs
  | delegate =>
    rcases View.of_put hx with ⟨-, rfl⟩ | ⟨-, hx⟩
    · exact Finset.insert_ne_empty _ _
    · exact h x hx hs
  | attachBilling | attachRisk =>
    rcases View.of_put hx with ⟨-, rfl⟩ | ⟨-, hx⟩
    · exact attachedCase_pending hs
    · exact h x hx hs
  | @slotFailed _ _ before =>
    rcases View.of_put hx with ⟨-, rfl⟩ | ⟨-, hx⟩
    · simp only [slotFailedCase] at hs
      split at hs
      · exact absurd hs (by simp)
      · rename_i hno
        rw [hs] at hno
        exact absurd rfl hno
    · exact h x hx hs
  | @finish _ _ _ _ _ m =>
    rcases View.of_put hx with ⟨-, rfl⟩ | ⟨-, hx⟩
    · cases m <;> exact absurd hs (by simp [Emission.finalStatus])
    · exact h x hx hs

theorem reviews_inductive (S : Settings) : Inductive S EventLoop.anyStep (Reviews S) := by
  intro tr V ph i os p' V' waiting h hok ha hw hg
  refine ⟨?_, ?_, ?_⟩
  · intro j ref k t f hmem
    rcases List.mem_append.mp hmem with hold | hnew
    · exact progress_act (fun c x hc hpend _ hx => hc (hpend hx)) hok ha (h.attached j ref k t f hold)
    · obtain ⟨o, ho, heq⟩ := List.mem_map.mp hnew
      cases heq
      exact act_attached hok ha ho
  · intro j x t b hmem
    rcases List.mem_append.mp hmem with hold | hnew
    · exact progress_act (fun c y hc _ hwait hy => hc (hwait hy)) hok ha (h.failed j x t b hold)
    · obtain ⟨o, ho, heq⟩ := List.mem_map.mp hnew
      cases heq
      exact act_slotFailed hok ha ho
  · intro k x hx hs
    exact act_waiting ha (h.waiting k) hx hs

/-- **A case whose reviews are in is not waiting.** -/
theorem run_reviewed {now : Time} {nextId : UUID} {tr : Trace} {s : State}
    (hrun : (service S).Run EventLoop.anyStep (start now nextId) tr s) (h : Reviewed S tr k) :
    s.world.status k ≠ some .waitingForPeerReviews := by
  have hinit : Reviews S [] emptyView fun _ => .quiet :=
    ⟨fun _ _ _ _ _ h => absurd h List.not_mem_nil, fun _ _ _ _ h => absurd h List.not_mem_nil,
      fun _ _ h => absurd h (by simp [emptyView])⟩
  obtain ⟨ph, hph, hrev⟩ := run_invariant (reviews_inductive S) hinit hrun
  intro hs
  obtain ⟨x, hx, hxs⟩ := Option.map_eq_some_iff.mp hs
  have hview := InMemoryCaseStateStore.view_cases_of_get hx
  rcases h with hatt | ⟨j, c, t, b, hmem, rfl⟩
  · -- what is pending is one of the two tasks, and neither is
    obtain ⟨t, ht⟩ := Finset.nonempty_iff_ne_empty.mpr (hrev.waiting k x.core hview hxs)
    have hnot : ∀ t ∈ [billingTaskOf S k, riskTaskOf S k],
        x.core.billingTaskId.isSome ∧ t ∉ x.core.pendingTasks := by
      intro t ht
      obtain ⟨j, ref, f, hmem⟩ := hatt t ht
      obtain ⟨c, hc, hb, hpend⟩ := hrev.attached j ref k t f hmem
      obtain rfl : x.core = c := Option.some.inj (hview.symm.trans hc)
      exact ⟨hb, hpend⟩
    have hcase := ViewOk.case hph.inv k x.core hview
    have hdel := hcase.delegated_of_task (.inl (hnot _ List.mem_cons_self).1)
    have hids := hdel.pendingTasks ht
    rw [hcase.correlationId, Finset.mem_insert, Finset.mem_singleton] at hids
    rcases hids with rfl | rfl
    · exact (hnot _ (by simp)).2 ht
    · exact (hnot _ List.mem_cons_self).2 ht
  · obtain ⟨c', hc', -, hne⟩ := hrev.failed j c t b hmem
    obtain rfl : x.core = c' := Option.some.inj (hview.symm.trans hc')
    exact hne hxs

/-! ## Orderly runs -/

/-- No ticket is answered directly, no case is claimed before its reviews are in, and no case whose
    delegation failed is decided on as well. -/
structure Orderly (S : Settings) (tr : Trace) : Prop where
  delegated : ∀ i ev d, (i, Obs.published ev) ∈ tr → ev.payload = .resolutionDecided d →
    d.outcome ≠ .directResponse
  reviewed : EachAfter (fun before o => ∀ k, o.2 = .claimed k → Reviewed S before k) tr
  single : ∀ k, TakenFor tr k → ¬ DelegationFailedFor tr k

/-- Each of the writes, one after the other from `w`, changes no status but as
    `_ALLOWED_TRANSITIONS` declares. -/
def KeepsTable (w : World) (ws : List (List Obs × World)) : Prop :=
  ∀ ws₁ o w' ws₂, ws = ws₁ ++ (o, w') :: ws₂ → ∀ k a b, (lastState w ws₁).status k = some a →
    w'.status k = some b → a ≠ b → canTransition a b = true

/-- Nothing that weighs was shown since the stretch began. -/
theorem mem_of_calm {tr : Trace} {j : LoopId} {o : Obs} (hcalm : ∀ o ∈ os, o.weighty = false)
    (ho : o.weighty = true) (h : (j, o) ∈ tr ++ os.map (i, ·)) : (j, o) ∈ tr := by
  rcases List.mem_append.mp h with hold | hnew
  · exact hold
  · obtain ⟨o', ho', heq⟩ := List.mem_map.mp hnew
    cases heq
    rw [hcalm o ho'] at ho
    exact absurd ho (by simp)

theorem TakenFor.of_calm {tr : Trace} (hcalm : ∀ o ∈ os, o.weighty = false)
    (h : TakenFor (tr ++ os.map (i, ·)) k) : TakenFor tr k := by
  obtain ⟨j, c, now, d, hmem, hk⟩ := h
  exact ⟨j, c, now, d, mem_of_calm hcalm rfl hmem, hk⟩

theorem Reviewed.of_calm {tr : Trace} (hcalm : ∀ o ∈ os, o.weighty = false)
    (h : Reviewed S (tr ++ os.map (i, ·)) k) : Reviewed S tr k := by
  rcases h with hatt | ⟨j, c, t, b, hmem, hk⟩
  · left
    intro t ht
    obtain ⟨j, ref, f, hmem⟩ := hatt t ht
    exact ⟨j, ref, f, mem_of_calm hcalm rfl hmem⟩
  · exact .inr ⟨j, c, t, b, mem_of_calm hcalm rfl hmem, hk⟩

/-- A claim is noted by the next write. -/
theorem chain_claimed {g : Watching} {ws : List (List Obs × World)} {p : Errand}
    (h : Chained (errands S) i g ws p) (hstage : g.phase.stage = .claiming)
    (hend : p.stage = .free) : ∃ w ws', ws = ([.claimed g.phase.case], w) :: ws' := by
  have hnot : g.phase.stage ≠ .free := by simp [hstage]
  cases h with
  | nil => exact absurd hend hnot
  | cons hw _ =>
    cases hw with
    | edit hfree => exact absurd hfree hnot
    | claim hne => exact absurd hstage hne
    | publish hfree => exact absurd hfree hnot
    | turn _ hfree => exact absurd hfree hnot
    | note hnote =>
      rcases hnote with hfree | ⟨-, rfl⟩
      · exact absurd hfree hnot
      · exact ⟨_, _, rfl⟩

section Steps

variable {now : Time} {nextId : UUID} {tr : Trace} {s : State} {g : Watching} {a b : CaseStatus}

/-- A change of status is declared where no ticket is answered directly and nothing is escalated
    and decided on. -/
theorem shift_declared (hrun : (service S).Run EventLoop.anyStep (start now nextId) tr s)
    (hbase : g.base = s.world) (htold : Told tr i g) (hs : g.cur.status g.phase.case = some a)
    (hdirect : ∀ ev d, (i, Obs.published ev) ∈ tr ++ g.obs.map (i, ·) →
      ev.payload = .resolutionDecided d → d.outcome ≠ .directResponse)
    (hsingle : TakenFor tr g.phase.case → ¬ DelegationFailedFor tr g.phase.case)
    (h : Shift g a b) : canTransition a b = true := by
  cases h with
  | declared h => exact h
  | closed hev hp hd => exact absurd hd (hdirect _ _ (htold _ hev) hp)
  | reverted htaken hc hcalm =>
    -- nothing weighty happened in this stretch, so both facts are about the state before the step
    have ht : TakenFor tr g.phase.case :=
      TakenFor.of_calm hcalm.obs ⟨i, _, _, _, htold _ htaken, hc⟩
    have hesc : s.world.status g.phase.case = some .escalated := by
      rw [← hbase, hcalm.status, hs]
    exact absurd (run_escalated hrun hesc ht) (hsingle ht)

/-- One of the writes of a step, in a run that stays orderly up to its end. -/
theorem write_declared (hrun : (service S).Run EventLoop.anyStep (start now nextId) tr s)
    (hbase : g.base = s.world) (htold : Told tr i g) {w' : World} {p q : Errand}
    {ws : List (List Obs × World)} (hw : (errands S).Write i g os w' p)
    (hrest : Chained (errands S) i ⟨p, g.base, g.obs ++ os, w'⟩ ws q) (hend : q.stage = .free)
    (horderly : Orderly S (tr ++ (g.obs ++ os ++ shownBy ws).map (i, ·)))
    (hs : g.cur.status k = some a) (hs' : w'.status k = some b) (hne : a ≠ b) :
    canTransition a b = true := by
  -- a write is framed by the case of the errand
  have hk : k = g.phase.case := by
    by_contra hother
    have hsame : w'.status k = g.cur.status k :=
      congrArg (Option.map _) ((write_onlyFor hw).1 k hother)
    exact hne (Option.some.inj (hs.symm.trans (hsame.symm.trans hs')))
  subst hk
  have hmem : ∀ o ∈ tr ++ g.obs.map (i, ·), o ∈ tr ++ (g.obs ++ os ++ shownBy ws).map (i, ·) := by
    intro o ho
    rw [List.append_assoc, List.map_append, ← List.append_assoc]
    exact List.mem_append_left _ ho
  cases hw with
  | note | publish => exact absurd (Option.some.inj (hs.symm.trans hs')) hne
  | turn _ _ _ hstore =>
    have hsame : w'.status g.phase.case = g.cur.status g.phase.case := by
      unfold World.status
      rw [hstore]
    exact absurd (Option.some.inj (hs.symm.trans (hsame.symm.trans hs'))) hne
  | edit _ _ hstatus =>
    rcases hstatus a b hs hs' with heq | hshift
    · exact absurd heq hne
    · refine shift_declared hrun hbase htold hs ?_ ?_ hshift
      · intro ev d hev
        exact horderly.delegated i ev d (hmem _ hev)
      · rintro ⟨j, c, now, d, ht, hc⟩ ⟨j', st, hf⟩
        exact horderly.single g.phase.case
          ⟨j, c, now, d, hmem _ (List.mem_append_left _ ht), hc⟩
          ⟨j', st, hmem _ (List.mem_append_left _ hf)⟩
  | claim _ _ hcur hopen hdecided hcalm =>
    obtain rfl := Option.some.inj (hcur.symm.trans hs)
    obtain rfl := Option.some.inj (hdecided.symm.trans hs')
    rcases hopen with rfl | rfl
    · -- the claim is noted next, and by then the reviews have been in since before the stretch
      exfalso
      obtain ⟨w, ws', rfl⟩ := chain_claimed hrest rfl hend
      have hrev := horderly.reviewed (tr ++ g.obs.map (i, ·)) (i, .claimed g.phase.case)
        ((shownBy ws').map (i, ·)) (by simp [shownBy]) _ rfl
      refine run_reviewed hrun (hrev.of_calm hcalm.obs) ?_
      rw [← hbase, hcalm.status, hcur]
    · rfl

/-- **The declared state machine is the one that runs**, as long as the run is orderly: every
    assignment of every step makes a declared transition, and nothing but these assignments moves a
    status. -/
theorem statuses_follow_the_table {os : Trace} {s' : State}
    {ch : Choice LoopId Message Request Reply Nat}
    (hrun : (service S).Run EventLoop.anyStep (start now nextId) tr s)
    (hstep : (service S).step ch s = some (os, s')) (horderly : Orderly S (tr ++ os)) :
    KeepsTable s.world ((service S).writes ch s) ∧
      ∀ k, s'.world.status k = (lastState s.world ((service S).writes ch s)).status k := by
  rcases step_errand hrun hstep with ⟨i, g, gh, -, h⟩ | ⟨hmover, rfl, hws⟩
  · refine ⟨?_, fun k => by rw [h.world]⟩
    intro ws₁ o w' ws₂ heq k a b hs hs' hne
    have hchain := h.chain
    rw [heq] at hchain
    obtain ⟨g₁, p₁, hbase, hobs, hcur, htold, hw, hrest⟩ :=
      hchain.split (J := Told tr i) told_write h.told
    rw [h.cur] at hcur
    rw [h.shows, heq, shownBy_append] at horderly
    have htrace : g.obs ++ (shownBy ws₁ ++ shownBy ((o, w') :: ws₂)) =
        g₁.obs ++ o ++ shownBy ws₂ := by
      rw [hobs]
      simp [shownBy]
    rw [htrace] at horderly
    rw [← hbase] at hrest
    exact write_declared hrun (hbase.trans h.base) htold hw hrest (watched_loop h.watched i).1
      horderly (hcur ▸ hs) hs' hne
  · rw [hws]
    refine ⟨fun ws₁ o w' ws₂ heq => absurd heq (by simp), ?_⟩
    cases ch with
    | deliver m => exact absurd hmover (by simp [EventLoop.mover])
    | answer i y => exact absurd hmover (by simp [EventLoop.mover])
    | env t =>
      simp only [EventLoop.step, Option.some.injEq, Prod.mk.injEq] at hstep
      obtain ⟨-, rfl⟩ := hstep
      exact fun k => rfl

end Steps

/-! ## One decision, change by change -/

/-- The changes of the status of `k` that the writes make, one after the other from `w`. -/
def statusChanges (k : UUID) : World → List (List Obs × World) → List (CaseStatus × CaseStatus)
  | _, [] => []
  | w, (_, w') :: ws =>
      match w.status k, w'.status k with
      | some a, some b =>
          if a = b then statusChanges k w' ws else (a, b) :: statusChanges k w' ws
      | _, _ => statusChanges k w' ws

theorem KeepsTable.tail {w w' : World} {o : List Obs} {ws : List (List Obs × World)}
    (h : KeepsTable w ((o, w') :: ws)) : KeepsTable w' ws := by
  intro ws₁ o₁ w₁ ws₂ heq
  exact h ((o, w') :: ws₁) o₁ w₁ ws₂ (by rw [heq]; rfl)

theorem KeepsTable.changes {w : World} {ws : List (List Obs × World)} (h : KeepsTable w ws)
    {a b : CaseStatus} (hab : (a, b) ∈ statusChanges k w ws) : canTransition a b = true := by
  induction ws generalizing w with
  | nil => exact absurd hab List.not_mem_nil
  | cons x ws ih =>
    obtain ⟨o, w'⟩ := x
    simp only [statusChanges] at hab
    split at hab
    · rename_i a' b' ha' hb'
      split at hab
      · exact ih h.tail hab
      · rename_i hne
        rcases List.mem_cons.mp hab with heq | hrest
        · obtain ⟨rfl, rfl⟩ := Prod.mk.inj heq
          exact h [] o w' ws rfl k a b ha' hb' hne
        · exact ih h.tail hrest
    · exact ih h.tail hab

/-- The opinion on the task `t` of the case `k` is attached. -/
def attachesTo (k t : UUID) : LoopId × Obs → Bool
  | (_, .attached _ j t' _) => j == k && t' == t
  | _ => false

theorem exists_of_attachesTo {t : UUID} {o : LoopId × Obs} (h : attachesTo k t o = true) :
    ∃ i ref f, o = (i, .attached ref k t f) := by
  obtain ⟨i, o⟩ := o
  cases o with
  | attached ref j t' f =>
    simp only [attachesTo, Bool.and_eq_true, beq_iff_eq] at h
    obtain ⟨rfl, rfl⟩ := h
    exact ⟨i, ref, f, rfl⟩
  | received | published | publishFailed | slotFailed | claimed | decisionTaken
  | delegationFailed => exact absurd h (by simp [attachesTo])

/-- A run that claims one case, in its last step, after both opinions. -/
def claimsReviewed (S : Settings) (k : UUID) (tr os : Trace) : Bool :=
  tr.all plainObs && os.all (fun o => plainObs o || claimsCase k o) &&
    (tr ++ os).all (fun o => !decides .directResponse o) &&
    [billingTaskOf S k, riskTaskOf S k].all fun t => tr.any (attachesTo k t)

theorem Orderly.of_claimsReviewed {tr os : Trace} (h : claimsReviewed S k tr os = true) :
    Orderly S (tr ++ os) := by
  simp only [claimsReviewed, Bool.and_eq_true] at h
  obtain ⟨⟨⟨hold, hnew⟩, hdirect⟩, hatt⟩ := h
  refine ⟨?_, ?_, ?_⟩
  · intro i ev d hmem hp hd
    have hno := List.all_eq_true.mp hdirect _ hmem
    simp [decides, hp, hd] at hno
  · have hreviewed : ∀ before, Reviewed S (tr ++ before) k := by
      intro before
      left
      intro t ht
      obtain ⟨o, ho, hto⟩ := List.any_eq_true.mp (List.all_eq_true.mp hatt t ht)
      obtain ⟨i, ref, f, rfl⟩ := exists_of_attachesTo hto
      exact ⟨i, ref, f, List.mem_append_left _ ho⟩
    have htr : EachAfter (fun before o => ∀ k, o.2 = Obs.claimed k → Reviewed S before k) tr := by
      rintro before ⟨i, o⟩ after heq j rfl
      have hplain := List.all_eq_true.mp hold (i, .claimed j) (by simp [heq])
      exact absurd hplain (by simp [plainObs])
    refine htr.append ?_
    rintro before ⟨i, o⟩ after heq j rfl
    have hclaim := List.all_eq_true.mp hnew (i, .claimed j) (by simp [heq])
    simp only [plainObs, claimsCase, Bool.false_or, beq_iff_eq] at hclaim
    subst hclaim
    exact hreviewed before
  · rintro j - ⟨i, st, hmem⟩
    rcases List.mem_append.mp hmem with hmem | hmem
    · exact absurd (List.all_eq_true.mp hold _ hmem) (by simp [plainObs])
    · exact absurd (List.all_eq_true.mp hnew _ hmem) (by simp [plainObs, claimsCase])

/-- The second opinion is audited, and the case it has made ready is claimed. -/
theorem statuses_follow_the_table_approval :
    ∃ tr os s s', (service sampleSettings).Run EventLoop.anyStep (start 0 1000) tr s ∧
      (service sampleSettings).step (.answer .billing grant) s = some (os, s') ∧
      Orderly sampleSettings (tr ++ os) ∧
      statusChanges 1 s.world ((service sampleSettings).writes (.answer .billing grant) s) =
        [(.readyForDecision, .decided)] ∧
      KeepsTable s.world ((service sampleSettings).writes (.answer .billing grant) s) := by
  have hexec : (((service sampleSettings).exec (approvalSchedule.dropLast.dropLast)
      (start 0 1000)).map fun out =>
        (statusChanges 1 out.2.world ((service sampleSettings).writes (.answer .billing grant) out.2),
          ((service sampleSettings).step (.answer .billing grant) out.2).map fun out' =>
            claimsReviewed sampleSettings 1 out.1 out'.1)) =
      some ([(.readyForDecision, .decided)], some true) := by decide +kernel
  obtain ⟨⟨tr, s⟩, hout, heq⟩ := Option.map_eq_some_iff.mp hexec
  simp only [Prod.mk.injEq] at heq
  obtain ⟨hchanges, hlast⟩ := heq
  obtain ⟨⟨os, s'⟩, hstep, hcheck⟩ := Option.map_eq_some_iff.mp hlast
  have hrun := EventLoop.Run.of_exec (G := EventLoop.anyStep) hout fun _ _ _ => trivial
  have horderly := Orderly.of_claimsReviewed hcheck
  exact ⟨tr, os, s, s', hrun, hstep, horderly, hchanges,
    (statuses_follow_the_table hrun hstep horderly).1⟩

/-- A direct response closes a case that is only classified. -/
theorem direct_response_skips_decided :
    ¬ ∀ (S : Settings) (now : Time) (nextId : UUID) (tr os : Trace) (s s' : State)
      (ch : Choice LoopId Message Request Reply Nat),
      (service S).Run EventLoop.anyStep (start now nextId) tr s →
      (service S).step ch s = some (os, s') → KeepsTable s.world ((service S).writes ch s) := by
  intro h
  have hexec : (((service sampleSettings).exec directSchedule.dropLast (start 0 1000)).map fun out =>
      (statusChanges 1 out.2.world ((service sampleSettings).writes (.answer .intake grant) out.2),
        ((service sampleSettings).step (.answer .intake grant) out.2).isSome)) =
      some ([(.classified, .closed)], true) := by decide +kernel
  obtain ⟨⟨tr, s⟩, hout, heq⟩ := Option.map_eq_some_iff.mp hexec
  simp only [Prod.mk.injEq] at heq
  obtain ⟨hchanges, hlast⟩ := heq
  obtain ⟨⟨os, s'⟩, hstep⟩ := Option.isSome_iff_exists.mp hlast
  have hkeeps := h sampleSettings 0 1000 tr os s s' _ (.of_exec hout fun _ _ _ => trivial) hstep
  have hdeclared : canTransition .classified .closed = true := by
    refine hkeeps.changes (k := 1) ?_
    rw [hchanges]
    exact List.mem_cons_self
  exact absurd hdeclared (by decide)

-- a high risk claims a case that still waits for the billing review
example : (((service sampleSettings).exec delegationSchedule (start 0 1000)).map fun out =>
    statusChanges 1 out.2.world
      ((service sampleSettings).writes (.deliver (riskMessage "high")) out.2)) =
    some [(.waitingForPeerReviews, .decided)] := by decide +kernel

/-- The billing task fails while the last announcement of the delegation is on its way, and the
    announcement is refused: the intake loop escalates before the result loop is done. -/
def revertedSchedule : Schedule :=
  delegationSchedule.dropLast ++
    [.deliver (failedMessage billingTask), .answer .result grant, .answer .intake refuse] ++
    List.replicate 3 (.answer .intake grant) ++ List.replicate 2 (.answer .result grant)

example : (((service sampleSettings).exec revertedSchedule (start 0 1000)).map fun out =>
    statusChanges 1 out.2.world
      ((service sampleSettings).writes (.answer .result grant) out.2)) =
    some [(.escalated, .decided)] := by decide +kernel

end RefundOps.Resolution
