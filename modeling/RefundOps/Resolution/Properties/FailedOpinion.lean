import RefundOps.Resolution.Properties.Soundness

/-!
# A failed opinion and the decision after it

`mark_slot_failed` sets a flag that the decision never reads: a finding reports `failed` as
constant `False`, so the row of the decision engine that is there for it never matches. What
makes a case with a failed slot escalate is that the finding of the slot is *missing*. It is not
missing when the result had been attached before the failure was reported, and then the case is
resolved on both findings as if nothing had failed (`approved_after_failure`).

`failedSlotUnused` is the guard that this does not happen, a condition on the record a decision
is taken on. Under it every decision after a failure goes to a human.
-/

set_option autoImplicit false

namespace RefundOps.Resolution

def ResolutionCase.slotFailed (c : ResolutionCase) : Prop :=
  c.billingSlotFailed = true ∨ c.riskSlotFailed = true

/-- No decision is taken on a record that has both findings although one of its slots failed. -/
def failedSlotUnused (_ : LoopId → Option Request) (o : LoopId × Obs) : Prop :=
  match o.2 with
  | .decisionTaken c _ _ => c.slotFailed → c.billingResult = none ∨ c.riskResult = none
  | _ => True

/-! ## The invariant -/

/-- A slot of the case `k` is marked as failed. -/
def Flagged (V : View) (k : UUID) : Prop := ∃ c, V.cases k = some c ∧ c.slotFailed

/-- The case `k` has not been delegated. -/
def Untasked (V : View) (k : UUID) : Prop := ∃ c, V.cases k = some c ∧ Fresh c

/-- An emission that a failed slot cannot make wrong: it escalates; or it is the direct response
    to a case that has no slots; or the case was decided before any of its slots failed. -/
def Harmless (V : View) (i : LoopId) (k : UUID) (d : CustomerResponseDecisionPayload) : Prop :=
  d.outcome = .escalateHuman ∨ (i = .intake ∧ Untasked V k) ∨ (Final V k ∧ ¬ Flagged V k)

structure Heeded (tr : Trace) (V : View) (ph : LoopId → Phase) : Prop where
  flagged : ∀ j c t b, (j, Obs.slotFailed c t b) ∈ tr → Flagged V c.caseId
  emitting : ∀ i k d m, ph i = .emitting k d m → Harmless V i k d

section Steps

variable {S : Settings} {i : LoopId} {p p' : Phase} {V V' : View} {os : List Obs} {k : UUID}

/-- The flags are never taken back. -/
theorem Moved.slotFailed_mono {c x : ResolutionCase} (h : Moved S k i c x) (hf : c.slotFailed) :
    x.slotFailed := by
  cases h with
  | slotFailed hu ht =>
    rcases hf with hf | hf
    · exact .inl (by simp [slotFailedCase, hf])
    · exact .inr (by simp [slotFailedCase, hf])
  | classified | delegated | attachedBilling | attachedRisk | claimed | highRisk | closed
  | finished => exact hf

/-- No flag is set on a decided case. -/
theorem Moved.slotFailed_of_final {c x : ResolutionCase} (h : Moved S k i c x)
    (hu : undecided c.status = false) (hf : x.slotFailed) : c.slotFailed := by
  cases h with
  | slotFailed hu' =>
    rw [hu'] at hu
    exact absurd hu (by simp)
  | classified | delegated | attachedBilling | attachedRisk | claimed | highRisk | closed
  | finished => exact hf

theorem Flagged.act (h : Flagged V k) (ha : Act S i p V os p' V') : Flagged V' k := by
  obtain ⟨c, hc, hf⟩ := h
  rcases act_case ha hc with hsame | ⟨c', hc', hm⟩
  · exact ⟨c, hsame, hf⟩
  · exact ⟨c', hc', hm.slotFailed_mono hf⟩

/-- A case without tasks is the intake loop's alone. -/
theorem Untasked.act (h : Untasked V k) (hi : i ≠ .intake) (ha : Act S i p V os p' V') :
    Untasked V' k := by
  obtain ⟨c, hc, hf⟩ := h
  rcases act_case ha hc with hsame | ⟨c', -, hm⟩
  · exact ⟨c, hsame, hf⟩
  · cases hm with
    | classified | delegated | closed => exact absurd rfl hi
    | attachedBilling hu ht =>
      rw [hf.billingTaskId] at ht
      exact absurd ht (by simp)
    | attachedRisk hu ht | highRisk hu ht =>
      rw [hf.riskTaskId] at ht
      exact absurd ht (by simp)
    | slotFailed hu ht =>
      rw [hf.billingTaskId, hf.riskTaskId] at ht
      exact absurd ht (by simp)
    | claimed hu hb | finished hb =>
      rw [hf.billingTaskId] at hb
      exact absurd hb (by simp)

theorem Harmless.act {j : LoopId} {d : CustomerResponseDecisionPayload} (h : Harmless V j k d)
    (hj : j ≠ i) (ha : Act S i p V os p' V') : Harmless V' j k d := by
  rcases h with hd | ⟨rfl, hfresh⟩ | ⟨hfinal, hflag⟩
  · exact .inl hd
  · exact .inr (.inl ⟨rfl, hfresh.act (Ne.symm hj) ha⟩)
  · refine .inr (.inr ⟨hfinal.act ha, ?_⟩)
    rintro ⟨x, hx, hf⟩
    obtain ⟨c, hc, hu⟩ := hfinal
    rcases act_case ha hc with hsame | ⟨c', hc', hm⟩
    · obtain rfl : c = x := Option.some.inj (hsame.symm.trans hx)
      exact hflag ⟨c, hc, hf⟩
    · obtain rfl : c' = x := Option.some.inj (hc'.symm.trans hx)
      exact hflag ⟨c, hc, hm.slotFailed_of_final hu hf⟩

/-- A decision on a record with a missing finding escalates. -/
theorem decisionOn_missing {c : ResolutionCase} {now : Time} {t : Triage}
    (ht : c.triage = some t) (hn : t.needsRefundReview = true)
    (hmissing : c.billingResult = none ∨ c.riskResult = none) :
    (decisionOn c now).outcome = .escalateHuman := by
  have hn' : (c.triage.getD
      { needsRefundReview := true, ambiguous := true,
        rationale := "No triage available" }).needsRefundReview = true := by
    rw [ht]
    exact hn
  by_contra hne
  obtain ⟨-, b, r, hb, hr⟩ := decide_resolved hn' hne
  rcases hmissing with h | h
  · rw [h] at hb
    exact absurd hb (by simp)
  · rw [h] at hr
    exact absurd hr (by simp)

/-- An emission the guard lets begin is harmless. -/
theorem harmless_opened {waiting : LoopId → Option Request} {d : CustomerResponseDecisionPayload}
    {m : Emission} (hok : ViewOk S V) (ho : Opened V k i d m os V')
    (hg : ∀ o ∈ os, failedSlotUnused waiting (i, o)) : Harmless V' i k d := by
  cases ho with
  | @direct c d hc hs => exact .inr (.inl ⟨rfl, c, hc, (hok.case k c hc).fresh_of_status (.inr hs)⟩)
  | fallback hc hd => exact .inl hd
  | highRisk => exact .inl rfl
  | @claimed _ c snapshot now hc hb hu hs =>
    by_cases hf : snapshot.slotFailed
    · obtain ⟨-, -, hd⟩ := hok.delegated hc (.inl hb)
      obtain ⟨t, ht, hn⟩ := hd.triage
      have hmissing := hg _ (List.mem_cons_of_mem _ List.mem_cons_self) hf
      exact .inl (decisionOn_missing ((congrArg ResolutionCase.triage hs).trans ht) hn hmissing)
    · refine .inr (.inr ⟨final_put rfl, ?_⟩)
      rintro ⟨x, hx, hfx⟩
      rw [View.put_cases_self, Option.some.injEq] at hx
      subst hx
      have hflags := (congrArg ResolutionCase.slotFailed hs).trans rfl
      exact hf (hflags.mpr hfx)

/-- What a failure leaves behind. -/
theorem flagged_of_slotFailed {c : ResolutionCase} {t : UUID} {b : Bool} (hok : ViewOk S V)
    (ha : Act S i p V os p' V') (ho : Obs.slotFailed c t b ∈ os) : Flagged V' c.caseId := by
  cases ha with
  | minor h => exact absurd (h _ ho) (by simp [Obs.Minor])
  | @slotFailed _ k before e result hc hu ht he hs =>
    simp only [List.mem_cons, reduceCtorEq, Obs.slotFailed.injEq, List.not_mem_nil, or_false,
      false_or] at ho
    obtain ⟨rfl, rfl, rfl⟩ := ho
    have hid : c.caseId = k := (hok.case k _ hc).caseId
    rw [hid]
    refine ⟨_, View.put_cases_self _ _ _, ?_⟩
    cases hb : c.billingTaskId == some result.taskId with
    | true => exact .inl (by simp [slotFailedCase])
    | false => exact .inr (by simp [slotFailedCase])
  | create | reopen | classify | direct | delegate | delegated | release | close | finish
  | abandon | delegationFailed | attachBilling | attachRisk | claim | claimHighRisk | published
  | publishFailed | draftFailed => exact absurd ho (by simp)

end Steps

/-- **Every action the guard lets through heeds the failures so far.** -/
theorem heeded_inductive (S : Settings) : Inductive S failedSlotUnused Heeded := by
  intro tr V ph i os p' V' waiting h hok ha hw hg
  refine { flagged := ?_, emitting := ?_ }
  · intro j c t b hmem
    rcases List.mem_append.mp hmem with hold | hnew
    · exact (h.flagged j c t b hold).act ha
    · obtain ⟨o, ho, heq⟩ := List.mem_map.mp hnew
      cases heq
      exact flagged_of_slotFailed hok ha ho
  · intro j k d m hj
    by_cases hji : j = i
    · subst hji
      rw [Function.update_self] at hj
      subst hj
      rcases act_emitting ha with ⟨hp, rfl⟩ | ho
      · exact h.emitting j k d m hp
      · exact harmless_opened hok ho hg
    · rw [Function.update_of_ne hji] at hj
      exact (h.emitting j k d m hj).act hji ha

/-! ## Runs -/

/-- A decision of a trace, where it was published. -/
theorem mem_decidedFor {k : UUID} {d : CustomerResponseDecisionPayload} {tr : Trace}
    (h : d ∈ decidedFor k tr) :
    ∃ before after i ev, tr = before ++ (i, Obs.published ev) :: after ∧
      ev.payload = .resolutionDecided d ∧ ev.correlationId = k := by
  obtain ⟨⟨i, o⟩, hmem, ho⟩ := List.mem_filterMap.mp h
  obtain ⟨before, after, rfl⟩ := List.append_of_mem hmem
  cases o with
  | published ev =>
    obtain ⟨eventId, correlationId, causationId, payload⟩ := ev
    cases payload with
    | resolutionDecided d' =>
      simp only [Obs.decision, Option.ite_none_right_eq_some, Option.some.injEq] at ho
      obtain ⟨hk, rfl⟩ := ho
      exact ⟨before, after, i, _, rfl, rfl, hk⟩
    | issueClassified | taskRequest | refundReviewRequested | responseDrafted =>
      exact absurd ho (by simp [Obs.decision])
  | received | publishFailed | attached | slotFailed | claimed | decisionTaken
  | delegationFailed => exact absurd ho (by simp [Obs.decision])

/-- **After a failed opinion every decision goes to a human**, in every run in which no decision
    is taken on both findings of a case with a failed slot. -/
theorem failed_opinion_escalates {S : Settings} {now : Time} {nextId : UUID} {tr : Trace}
    {s : State} (hrun : (service S).Run failedSlotUnused (start now nextId) tr s)
    {before after : Trace} {i : LoopId} {c : ResolutionCase} {t : UUID} {isBilling : Bool}
    (htr : tr = before ++ (i, Obs.slotFailed c t isBilling) :: after) :
    ∀ d ∈ decidedFor c.caseId after, d.outcome = .escalateHuman := by
  intro d hd
  have hinit : Heeded [] emptyView fun _ => .quiet :=
    { flagged := fun _ _ _ _ h => absurd h (by simp)
      emitting := fun _ _ _ _ h => absurd h (by simp) }
  have hwarranted := warranted_run
    (Q := fun _ k d tr => (∃ j c t b, (j, Obs.slotFailed c t b) ∈ tr ∧ c.caseId = k) →
      d.outcome = .escalateHuman)
    (heeded_inductive S) hinit ?_ hrun
  · obtain ⟨mid, rest, j, ev, rfl, hev, hk⟩ := mem_decidedFor hd
    refine hwarranted (before ++ (i, .slotFailed c t isBilling) :: mid) (j, .published ev) rest
      (by rw [htr]; simp) ev d rfl hev ⟨i, c, t, isBilling, by simp, hk.symm⟩
  · rintro tr V ph i k d m h hph ⟨j, c, t, b, hmem, rfl⟩
    have hflag := h.flagged j c t b hmem
    rcases h.emitting i _ d m hph with hd | ⟨-, x, hx, hfresh⟩ | ⟨-, hno⟩
    · exact hd
    · obtain ⟨y, hy, hf⟩ := hflag
      obtain rfl : x = y := Option.some.inj (hx.symm.trans hy)
      rcases hf with hf | hf
      · rw [hfresh.billingSlotFailed] at hf
        exact absurd hf (by simp)
      · rw [hfresh.riskSlotFailed] at hf
        exact absurd hf (by simp)
    · exact absurd hflag hno

/-- What follows the first failure of a trace. -/
def afterFailure : Trace → Option (ResolutionCase × Trace)
  | [] => none
  | (_, .slotFailed c _ _) :: rest => some (c, rest)
  | _ :: rest => afterFailure rest

theorem afterFailure_split {tr rest : Trace} {c : ResolutionCase}
    (h : afterFailure tr = some (c, rest)) :
    ∃ before i t b, tr = before ++ (i, Obs.slotFailed c t b) :: rest := by
  induction tr with
  | nil => exact absurd h (by simp [afterFailure])
  | cons o tr ih =>
    obtain ⟨i, o⟩ := o
    cases o with
    | slotFailed c' t b =>
      simp only [afterFailure, Option.some.injEq, Prod.mk.injEq] at h
      obtain ⟨rfl, rfl⟩ := h
      exact ⟨[], i, t, b, rfl⟩
    | received | published | publishFailed | attached | claimed | decisionTaken
    | delegationFailed =>
      obtain ⟨before, j, t, b, rfl⟩ := ih h
      exact ⟨_ :: before, j, t, b, rfl⟩

def billingTask : UUID := 0x3ec82ca298bd5a5aae8c4649557dec57

/-- The billing task fails; the handler audits it, claims the case and publishes. -/
def failureSchedule : Schedule :=
  delegationSchedule ++
    [.deliver (failedMessage billingTask), .answer .result grant, .answer .result grant]

/-- Every decision of `failureSchedule` is taken without a risk finding. -/
def withoutRisk : LoopId × Obs → Bool
  | (_, .decisionTaken c _ _) => c.riskResult.isNone
  | _ => true

theorem failed_opinion_escalates_billing :
    ∃ tr s before after i c t b,
      (service sampleSettings).Run failedSlotUnused (start 0 1000) tr s ∧
      tr = before ++ (i, Obs.slotFailed c t b) :: after ∧
      (decidedFor c.caseId after).length = 1 ∧
      ∀ d ∈ decidedFor c.caseId after, d.outcome = .escalateHuman := by
  have hexec : (((service sampleSettings).exec failureSchedule (start 0 1000)).map fun out =>
      (out.1.all withoutRisk, (afterFailure out.1).map fun x =>
        (decidedFor x.1.caseId x.2).length)) = some (true, some 1) := by decide +kernel
  obtain ⟨⟨tr, s⟩, hout, heq⟩ := Option.map_eq_some_iff.mp hexec
  simp only [Prod.mk.injEq] at heq
  obtain ⟨⟨c, after⟩, hafter, hone⟩ := Option.map_eq_some_iff.mp heq.2
  obtain ⟨before, i, t, b, htr⟩ := afterFailure_split hafter
  have hrun : (service sampleSettings).Run failedSlotUnused (start 0 1000) tr s := by
    refine .of_exec hout ?_
    rintro w ⟨j, o⟩ ho
    have hplain := List.all_eq_true.mp heq.1 _ ho
    cases o with
    | decisionTaken c now d => exact fun _ => .inr (Option.isNone_iff_eq_none.mp hplain)
    | received | published | publishFailed | attached | slotFailed | claimed
    | delegationFailed => trivial
  exact ⟨tr, s, before, after, i, c, t, b, hrun, htr, hone, failed_opinion_escalates hrun htr⟩

/-- Both results are attached; before the billing loop is resumed after its audit, the billing
    task is reported as failed. -/
def lateFailureSchedule : Schedule :=
  delegationSchedule ++
    [.deliver (riskMessage "low"), .answer .risk grant, .deliver (billingMessage "approve"),
      .deliver (failedMessage billingTask), .answer .billing grant, .answer .billing grant]

/-- Without the guard a refund can be approved after the failure of an opinion. -/
theorem approved_after_failure :
    ¬ ∀ (S : Settings) (now : Time) (nextId : UUID) (tr : Trace) (s : State)
      (before after : Trace) (i : LoopId) (c : ResolutionCase) (t : UUID) (isBilling : Bool),
      (service S).Run EventLoop.anyStep (start now nextId) tr s →
      tr = before ++ (i, Obs.slotFailed c t isBilling) :: after →
      ∀ d ∈ decidedFor c.caseId after, d.outcome = .escalateHuman := by
  intro h
  have hexec : (((service sampleSettings).exec lateFailureSchedule (start 0 1000)).map fun out =>
      (afterFailure out.1).map fun x => (decidedFor x.1.caseId x.2).map (·.outcome)) =
        some (some [.approveRefund]) := by decide +kernel
  obtain ⟨⟨tr, s⟩, hout, heq⟩ := Option.map_eq_some_iff.mp hexec
  obtain ⟨⟨c, after⟩, hafter, hone⟩ := Option.map_eq_some_iff.mp heq
  obtain ⟨before, i, t, b, htr⟩ := afterFailure_split hafter
  have hall := h sampleSettings 0 1000 tr s before after i c t b
    (.of_exec hout fun _ _ _ => trivial) htr
  obtain ⟨d, hd, hout'⟩ := List.mem_map.mp (hone ▸ List.mem_cons_self)
  rw [hall d hd] at hout'
  exact absurd hout' (by decide)

end RefundOps.Resolution
