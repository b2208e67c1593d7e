import RefundOps.Resolution.Properties.Coverage

/-!
# Every automatic resolution rests on two opinions

A decision other than an escalation or a direct response is one that `_apply_decision` took on a
record with both findings, each attached from a domain event of that case, with neither task
pending. The invariant ties the two slots of every open record to the trace: a finding in a slot
is the finding of an attachment that the trace shows.

The risk slot of a *decided* record is not covered: the immediate escalation writes it without
an attachment, after the claim. No decision reads it any more.
-/

set_option autoImplicit false

namespace RefundOps.Resolution

/-! ## The findings of a record -/

/-- The trace shows the domain event that `f` was made of and its attachment to the case. -/
def AttachedBilling (k t : UUID) (f : BillingFinding) (tr : Trace) : Prop :=
  ∃ (e : Inbound BillingRefundAnalysisCompletedPayload)
    (payload : BillingRefundAnalysisCompletedPayload),
    e.payload = some payload ∧ e.correlationId = k ∧ f = billingFinding payload t ∧
      (LoopId.billing, Obs.received (.billingResult e)) ∈ tr ∧
      (LoopId.billing, Obs.attached e.ref k t (.billing f)) ∈ tr

def AttachedRisk (k t : UUID) (f : RiskFinding) (tr : Trace) : Prop :=
  ∃ (e : Inbound RiskReviewCompletedPayload) (payload : RiskReviewCompletedPayload),
    e.payload = some payload ∧ e.correlationId = k ∧ f = riskFinding payload t ∧
      (LoopId.risk, Obs.received (.riskResult e)) ∈ tr ∧
      (LoopId.risk, Obs.attached e.ref k t (.risk f)) ∈ tr

section Attached

variable {k t : UUID} {tr : Trace}

theorem AttachedBilling.append {f : BillingFinding} (h : AttachedBilling k t f tr) (os : Trace) :
    AttachedBilling k t f (tr ++ os) := by
  obtain ⟨e, payload, he, hk, hf, hrec, hatt⟩ := h
  exact ⟨e, payload, he, hk, hf, List.mem_append_left _ hrec, List.mem_append_left _ hatt⟩

theorem AttachedRisk.append {f : RiskFinding} (h : AttachedRisk k t f tr) (os : Trace) :
    AttachedRisk k t f (tr ++ os) := by
  obtain ⟨e, payload, he, hk, hf, hrec, hatt⟩ := h
  exact ⟨e, payload, he, hk, hf, List.mem_append_left _ hrec, List.mem_append_left _ hatt⟩

end Attached

section Slots

variable {S : Settings} {i : LoopId} {p p' : Phase} {V V' : View} {os : List Obs} {k : UUID}
  {c' : ResolutionCase}

/-- A billing finding was there, or it has just been attached. -/
theorem act_billingResult {f : BillingFinding} (ha : Act S i p V os p' V')
    (hc' : V'.cases k = some c') (hf : c'.billingResult = some f) :
    (∃ c, V.cases k = some c ∧ c.billingResult = some f) ∨
      ∃ c t, V.cases k = some c ∧ c.billingTaskId = some t ∧
        ∀ tr : Trace, AttachedBilling k t f (tr ++ os.map (i, ·)) := by
  cases ha with
  | minor | reopen | abandon | direct | delegated | delegationFailed | release | published
  | publishFailed | draftFailed => exact .inl ⟨c', hc', hf⟩
  | create hnone hnew =>
    rcases View.of_put hc' with ⟨rfl, rfl⟩ | ⟨-, hold⟩
    · rw [hnew.billingResult] at hf
      exact absurd hf (by simp)
    · exact .inl ⟨c', hold, hf⟩
  | classify hc | attachRisk hc | slotFailed hc | claim _ _ hc | claimHighRisk hc | close hc
  | finish _ hc | delegate hc =>
    rcases View.of_put hc' with ⟨rfl, rfl⟩ | ⟨-, hold⟩
    · exact .inl ⟨_, hc, hf⟩
    · exact .inl ⟨c', hold, hf⟩
  | @attachBilling _ _ t c e payload hc hu ht hp he hk =>
    rcases View.of_put hc' with ⟨rfl, rfl⟩ | ⟨-, hold⟩
    · cases hf
      exact .inr ⟨c, t, hc, ht, fun tr => ⟨e, payload, he, hk, rfl, by simp, by simp⟩⟩
    · exact .inl ⟨c', hold, hf⟩

/-- A risk finding of an undecided case was there, or it has just been attached. -/
theorem act_riskResult {f : RiskFinding} (ha : Act S i p V os p' V')
    (hc' : V'.cases k = some c') (hu' : undecided c'.status = true)
    (hf : c'.riskResult = some f) :
    (∃ c, V.cases k = some c ∧ undecided c.status = true ∧ c.riskResult = some f) ∨
      ∃ c t, V.cases k = some c ∧ c.riskTaskId = some t ∧
        ∀ tr : Trace, AttachedRisk k t f (tr ++ os.map (i, ·)) := by
  cases ha with
  | minor | reopen | abandon | direct | delegated | delegationFailed | release | published
  | publishFailed | draftFailed => exact .inl ⟨c', hc', hu', hf⟩
  | create hnone hnew =>
    rcases View.of_put hc' with ⟨rfl, rfl⟩ | ⟨-, hold⟩
    · rw [hnew.riskResult] at hf
      exact absurd hf (by simp)
    · exact .inl ⟨c', hold, hu', hf⟩
  | classify hc hs =>
    rcases View.of_put hc' with ⟨rfl, rfl⟩ | ⟨-, hold⟩
    · refine .inl ⟨_, hc, ?_, hf⟩
      rcases hs with hs | hs <;> rw [hs] <;> rfl
    · exact .inl ⟨c', hold, hu', hf⟩
  | delegate hc hs =>
    rcases View.of_put hc' with ⟨rfl, rfl⟩ | ⟨-, hold⟩
    · exact .inl ⟨_, hc, by rw [hs]; rfl, hf⟩
    · exact .inl ⟨c', hold, hu', hf⟩
  | attachBilling hc hu | slotFailed hc hu =>
    rcases View.of_put hc' with ⟨rfl, rfl⟩ | ⟨-, hold⟩
    · exact .inl ⟨_, hc, hu, hf⟩
    · exact .inl ⟨c', hold, hu', hf⟩
  | @attachRisk _ _ t c e payload hc hu ht hp he hk =>
    rcases View.of_put hc' with ⟨rfl, rfl⟩ | ⟨-, hold⟩
    · cases hf
      exact .inr ⟨c, t, hc, ht, fun tr => ⟨e, payload, he, hk, rfl, by simp, by simp⟩⟩
    · exact .inl ⟨c', hold, hu', hf⟩
  | claim | claimHighRisk | close =>
    rcases View.of_put hc' with ⟨rfl, rfl⟩ | ⟨-, hold⟩
    · exact absurd (show false = true from hu') (by simp)
    · exact .inl ⟨c', hold, hu', hf⟩
  | @finish _ _ _ c d m hm hc hb =>
    rcases View.of_put hc' with ⟨rfl, rfl⟩ | ⟨-, hold⟩
    · have hclosed : undecided m.finalStatus = false := by cases m <;> rfl
      have hopen : undecided m.finalStatus = true := hu'
      rw [hclosed] at hopen
      exact absurd hopen (by simp)
    · exact .inl ⟨c', hold, hu', hf⟩

end Slots

/-! ## The decisions -/

/-- The outcomes that resolve a refund request without a human. -/
def Automatic (o : ResolutionOutcome) : Prop :=
  o ∈ [ResolutionOutcome.approveRefund, .denyRefund, .offerPartialCredit,
    .requestMoreInformation]

/-- The decision `d` on the record `c` of the case `k`, with its two opinions. -/
structure Sound (k : UUID) (d : CustomerResponseDecisionPayload) (earlier : Trace)
    (c : ResolutionCase) (now : Time) (t : Triage) (b : BillingFinding) (r : RiskFinding) :
    Prop where
  caseId : c.caseId = k
  triage : c.triage = some t
  billing : ∃ id, c.billingTaskId = some id ∧ id ∉ c.pendingTasks ∧ c.billingResult = some b ∧
    AttachedBilling k id b earlier
  risk : ∃ id, c.riskTaskId = some id ∧ id ∉ c.pendingTasks ∧ c.riskResult = some r ∧
    AttachedRisk k id r earlier
  decision : d = decide t (some b) (some r) (some (buildTimeoutStatus c now)) (some k) c.ticketId
    c.customerId
  outcome : d.outcome = jointOutcome t b r

theorem Sound.append {k : UUID} {d : CustomerResponseDecisionPayload} {earlier : Trace}
    {c : ResolutionCase} {now : Time} {t : Triage} {b : BillingFinding} {r : RiskFinding}
    (h : Sound k d earlier c now t b r) (os : Trace) : Sound k d (earlier ++ os) c now t b r := by
  obtain ⟨bid, hbid, hbpend, hb, hbatt⟩ := h.billing
  obtain ⟨rid, hrid, hrpend, hr, hratt⟩ := h.risk
  exact { h with
    billing := ⟨bid, hbid, hbpend, hb, hbatt.append os⟩
    risk := ⟨rid, hrid, hrpend, hr, hratt.append os⟩ }

/-- The loop `i` took the decision `d` in `_apply_decision`, soundly. -/
def SoundlyTaken (i : LoopId) (k : UUID) (d : CustomerResponseDecisionPayload) (tr : Trace) :
    Prop :=
  ∃ earlier later c now t b r, tr = earlier ++ (i, Obs.decisionTaken c now d) :: later ∧
    Sound k d earlier c now t b r

theorem SoundlyTaken.append {i : LoopId} {k : UUID} {d : CustomerResponseDecisionPayload}
    {tr : Trace} (h : SoundlyTaken i k d tr) (os : Trace) : SoundlyTaken i k d (tr ++ os) := by
  obtain ⟨earlier, later, c, now, t, b, r, rfl, hs⟩ := h
  exact ⟨earlier, later ++ os, c, now, t, b, r, by simp, hs⟩

structure Grounded (S : Settings) (tr : Trace) (V : View) (ph : LoopId → Phase) : Prop where
  billing : ∀ k c f, V.cases k = some c → c.billingResult = some f →
    AttachedBilling k (billingTaskOf S k) f tr
  risk : ∀ k c f, V.cases k = some c → undecided c.status = true → c.riskResult = some f →
    AttachedRisk k (riskTaskOf S k) f tr
  emitting : ∀ i k d m, ph i = .emitting k d m → Automatic d.outcome → SoundlyTaken i k d tr

/-- A record with a task has the two tasks of its correlation id. -/
theorem ViewOk.delegated {S : Settings} {V : View} {k : UUID} {c : ResolutionCase}
    (hok : ViewOk S V) (hc : V.cases k = some c)
    (hb : c.billingTaskId.isSome ∨ c.riskTaskId.isSome) :
    c.billingTaskId = some (billingTaskOf S k) ∧ c.riskTaskId = some (riskTaskOf S k) ∧
      Delegated S c := by
  have hcase := hok.case k c hc
  have hd := hcase.delegated_of_task hb
  exact ⟨hcase.correlationId ▸ hd.billingTaskId, hcase.correlationId ▸ hd.riskTaskId, hd⟩

/-- A claim of an open record takes a sound decision, or one that a human gets. -/
theorem sound_of_claim {S : Settings} {tr : Trace} {V : View} {ph : LoopId → Phase} {k : UUID}
    {c snapshot : ResolutionCase} {now : Time} (h : Grounded S tr V ph) (hok : ViewOk S V)
    (hc : V.cases k = some c) (hb : c.billingTaskId.isSome) (hu : undecided c.status = true)
    (hs : snapshot.core = { c with status := .decided })
    (hauto : Automatic (decisionOn snapshot now).outcome) :
    ∃ t b r, Sound k (decisionOn snapshot now) tr snapshot now t b r := by
  obtain ⟨hbid, hrid, hd⟩ := hok.delegated hc (.inl hb)
  have hcorr : c.correlationId = k := (hok.case k c hc).correlationId
  obtain ⟨t, ht, hn⟩ := hd.triage
  have hst : snapshot.triage = some t := (congrArg ResolutionCase.triage hs).trans ht
  have hsb : snapshot.billingResult = c.billingResult :=
    (congrArg ResolutionCase.billingResult hs).trans rfl
  have hsr : snapshot.riskResult = c.riskResult :=
    (congrArg ResolutionCase.riskResult hs).trans rfl
  have hsp : snapshot.pendingTasks = c.pendingTasks :=
    (congrArg ResolutionCase.pendingTasks hs).trans rfl
  have hsc : snapshot.correlationId = k := (congrArg ResolutionCase.correlationId hs).trans hcorr
  have hdec : decisionOn snapshot now = decide t snapshot.billingResult snapshot.riskResult
      (some (buildTimeoutStatus snapshot now)) (some k) snapshot.ticketId
      snapshot.customerId := by
    rw [decisionOn, hst, hsc]
    rfl
  have hresolved : (decisionOn snapshot now).outcome ≠ .escalateHuman := by
    intro he
    rw [he] at hauto
    exact absurd hauto (by simp [Automatic])
  rw [hdec] at hresolved
  obtain ⟨hmissing, b, r, hb', hr'⟩ := decide_resolved hn hresolved
  refine ⟨t, b, r, ?_⟩
  refine { caseId := ?_, triage := hst, billing := ?_, risk := ?_, decision := ?_, outcome := ?_ }
  · exact (congrArg ResolutionCase.caseId hs).trans (hok.case k c hc).caseId
  · refine ⟨billingTaskOf S k, (congrArg ResolutionCase.billingTaskId hs).trans hbid, ?_, hb',
      h.billing k c b hc (hsb ▸ hb')⟩
    rw [hsp]
    intro hpend
    have hopen := hd.billingOpen (hcorr.symm ▸ hpend)
    rw [← hsb, hb'] at hopen
    exact absurd hopen (by simp)
  · refine ⟨riskTaskOf S k, (congrArg ResolutionCase.riskTaskId hs).trans hrid, ?_, hr',
      h.risk k c r hc hu (hsr ▸ hr')⟩
    rw [hsp]
    intro hpend
    have hopen := hd.riskOpen hu (hcorr.symm ▸ hpend)
    rw [← hsr, hr'] at hopen
    exact absurd hopen (by simp)
  · rw [hdec, hb', hr']
  · rw [hdec, decide_outcome hn, hmissing, if_neg Bool.false_ne_true, hb', hr']

/-- **Every action keeps the findings and the emissions grounded in the trace.** -/
theorem grounded_inductive (S : Settings) : Inductive S EventLoop.anyStep (Grounded S) := by
  intro tr V ph i os p' V' waiting h hok ha hw hg
  refine { billing := ?_, risk := ?_, emitting := ?_ }
  · intro k c' f hc' hf
    rcases act_billingResult ha hc' hf with ⟨c, hc, hfc⟩ | ⟨c, t, hc, ht, hatt⟩
    · exact (h.billing k c f hc hfc).append _
    · obtain ⟨hbid, -, -⟩ := hok.delegated hc (.inl (Option.isSome_of_mem ht))
      obtain rfl : t = billingTaskOf S k := Option.some.inj (ht.symm.trans hbid)
      exact hatt tr
  · intro k c' f hc' hu' hf
    rcases act_riskResult ha hc' hu' hf with ⟨c, hc, hu, hfc⟩ | ⟨c, t, hc, ht, hatt⟩
    · exact (h.risk k c f hc hu hfc).append _
    · obtain ⟨-, hrid, -⟩ := hok.delegated hc (.inr (Option.isSome_of_mem ht))
      obtain rfl : t = riskTaskOf S k := Option.some.inj (ht.symm.trans hrid)
      exact hatt tr
  · refine emitting_act (Q := fun i k d tr => Automatic d.outcome → SoundlyTaken i k d tr)
      (fun _ _ _ _ os hq hauto => (hq hauto).append os) h.emitting ha ?_
    intro k d m hopen hauto
    cases hopen with
    | direct hc hs hd =>
      rw [hd] at hauto
      exact absurd hauto (by simp [Automatic])
    | fallback hc hd =>
      rw [hd] at hauto
      exact absurd hauto (by simp [Automatic])
    | highRisk => exact absurd hauto (by simp [Automatic, highRiskDecision, escalation])
    | @claimed _ c snapshot now hc hb hu hs =>
      obtain ⟨t, b, r, hsound⟩ := sound_of_claim h hok hc hb hu hs hauto
      exact ⟨tr ++ [(i, .claimed k)], [], snapshot, now, t, b, r, by simp, hsound.append _⟩

/-- The loop that publishes an automatic resolution has taken it before, soundly. -/
theorem published_soundly {S : Settings} {now : Time} {nextId : UUID} {tr : Trace} {s : State}
    (hrun : (service S).Run EventLoop.anyStep (start now nextId) tr s) {before after : Trace}
    {i : LoopId} {ev : OutEvent} {d : CustomerResponseDecisionPayload}
    (htr : tr = before ++ (i, Obs.published ev) :: after)
    (hd : ev.payload = .resolutionDecided d) (hauto : Automatic d.outcome) :
    SoundlyTaken i ev.correlationId d before := by
  have hinit : Grounded S [] emptyView fun _ => .quiet :=
    { billing := fun _ _ _ h => absurd h (by simp [emptyView])
      risk := fun _ _ _ h => absurd h (by simp [emptyView])
      emitting := fun _ _ _ _ h => absurd h (by simp) }
  have hwarranted := warranted_run
    (Q := fun i k d tr => Automatic d.outcome → SoundlyTaken i k d tr)
    (grounded_inductive S) hinit (fun _ _ _ i k d m h hph => h.emitting i k d m hph) hrun
  exact hwarranted before (i, .published ev) after htr ev d rfl hd hauto

/-- **Decision soundness.** Whenever an automatic resolution is published, the same loop has
    taken it before on a record of that case with both findings, each attached from a domain
    event of the case, and no task of the two pending; an approval is of an eligible request at
    low risk that nobody wants reviewed, at sufficient confidence. -/
theorem automatic_decisions_are_sound {S : Settings} {now : Time} {nextId : UUID} {tr : Trace}
    {s : State} (hrun : (service S).Run EventLoop.anyStep (start now nextId) tr s)
    {before after : Trace} {i : LoopId} {ev : OutEvent} {d : CustomerResponseDecisionPayload}
    (htr : tr = before ++ (i, Obs.published ev) :: after)
    (hd : ev.payload = .resolutionDecided d) (hauto : Automatic d.outcome) :
    ∃ earlier later c now t b r,
      before = earlier ++ (i, Obs.decisionTaken c now d) :: later ∧
      Sound ev.correlationId d earlier c now t b r ∧
      (d.outcome = .approveRefund →
        b.eligibility = .eligible ∧ r.level = .low ∧ b.requiresHumanReview = false ∧
          r.requiresHumanReview = false ∧
          confidenceThreshold ≤ computeConfidence (some t) (some b) (some r)) := by
  obtain ⟨earlier, later, c, now, t, b, r, hbefore, hsound⟩ := published_soundly hrun htr hd hauto
  refine ⟨earlier, later, c, now, t, b, r, hbefore, hsound, ?_⟩
  intro happrove
  exact jointOutcome_approve (hsound.outcome.symm.trans happrove)

/-- Both results arrive, each audited, and the decision is published. -/
def approvalSchedule : Schedule :=
  delegationSchedule ++
    [.deliver (riskMessage "low"), .answer .risk grant, .deliver (billingMessage "approve"),
      .answer .billing grant, .answer .billing grant]

def decides (outcome : ResolutionOutcome) : LoopId × Obs → Bool
  | (_, .published ev) =>
      match ev.payload with
      | .resolutionDecided d => d.outcome == outcome
      | _ => false
  | _ => false

theorem exists_of_decides {outcome : ResolutionOutcome} {o : LoopId × Obs}
    (h : decides outcome o = true) :
    ∃ i ev d, o = (i, .published ev) ∧ ev.payload = .resolutionDecided d ∧ d.outcome = outcome := by
  obtain ⟨i, ev, d, rfl, hd, hf⟩ := exists_of_showsDecision (f := fun d => d.outcome == outcome) h
  exact ⟨i, ev, d, rfl, hd, beq_iff_eq.mp hf⟩

theorem automatic_decisions_are_sound_approval :
    ∃ tr s before i ev d, (service sampleSettings).Run EventLoop.anyStep (start 0 1000) tr s ∧
      tr = before ++ [(i, Obs.published ev)] ∧ ev.payload = .resolutionDecided d ∧
      d.outcome = .approveRefund ∧
      ∃ earlier later c now t b r,
        before = earlier ++ (i, Obs.decisionTaken c now d) :: later ∧
        Sound ev.correlationId d earlier c now t b r ∧ b.eligibility = .eligible := by
  have hexec : (((service sampleSettings).exec approvalSchedule (start 0 1000)).map fun out =>
      (out.1.getLast?.map (decides .approveRefund))) = some (some true) := by decide +kernel
  obtain ⟨⟨tr, s⟩, hout, heq⟩ := Option.map_eq_some_iff.mp hexec
  obtain ⟨o, hlast, ho⟩ := Option.map_eq_some_iff.mp heq
  obtain ⟨i, ev, d, rfl, hd, hout'⟩ := exists_of_decides ho
  obtain ⟨before, rfl⟩ := List.getLast?_eq_some_iff.mp hlast
  have hrun := EventLoop.Run.of_exec (G := EventLoop.anyStep) hout fun _ _ _ => trivial
  obtain ⟨earlier, later, c, now, t, b, r, hbefore, hsound, happrove⟩ :=
    automatic_decisions_are_sound hrun rfl hd (by simp [Automatic, hout'])
  exact ⟨_, s, before, i, ev, d, hrun, rfl, hd, hout', earlier, later, c, now, t, b, r, hbefore,
    hsound, (happrove hout').1⟩

end RefundOps.Resolution
