import RefundOps.Lib.History
import RefundOps.Resolution.Protocol.ServiceConformance

/-!
# Decisions and finality, action by action

Two facts every property of runs starts from. A decision is shown by one action only, the
publication by a loop that is emitting it (`act_decided`); so what holds of every emission holds
of every published decision (`warranted_run`). And a case that is decided stays decided with the
findings it has (`Final.act`): whatever a loop still does to it, it only moves between `DECIDED`
and `ESCALATED`.
-/

set_option autoImplicit false

namespace RefundOps.Resolution

/-! ## The decisions of a trace -/

/-- A decision that reached `TOPIC_RESOLUTION_DECIDED` for the correlation id `k`. -/
def Obs.decision (k : UUID) : Obs → Option CustomerResponseDecisionPayload
  | .published ev =>
      match ev.payload with
      | .resolutionDecided d => if ev.correlationId = k then some d else none
      | _ => none
  | _ => none

/-- The decisions published for `k`, in order. -/
def decidedFor (k : UUID) (tr : Trace) : List CustomerResponseDecisionPayload :=
  tr.filterMap fun o => o.2.decision k

/-- The entry is the publication of a decision that `f` accepts. -/
def showsDecision (f : CustomerResponseDecisionPayload → Bool) : LoopId × Obs → Bool
  | (_, .published ev) =>
      match ev.payload with
      | .resolutionDecided d => f d
      | _ => false
  | _ => false

theorem exists_of_showsDecision {f : CustomerResponseDecisionPayload → Bool} {o : LoopId × Obs}
    (h : showsDecision f o = true) :
    ∃ i ev d, o = (i, .published ev) ∧ ev.payload = .resolutionDecided d ∧ f d = true := by
  obtain ⟨i, o⟩ := o
  cases o with
  | published ev =>
    obtain ⟨eventId, correlationId, causationId, payload⟩ := ev
    cases payload with
    | resolutionDecided d => exact ⟨i, _, d, rfl, rfl, h⟩
    | issueClassified | taskRequest | refundReviewRequested | responseDrafted =>
      exact absurd h (by simp [showsDecision])
  | received | publishFailed | attached | slotFailed | claimed | decisionTaken
  | delegationFailed => exact absurd h (by simp [showsDecision])

@[simp] theorem decidedFor_append (k : UUID) (tr tr' : Trace) :
    decidedFor k (tr ++ tr') = decidedFor k tr ++ decidedFor k tr' :=
  List.filterMap_append

theorem Obs.Minor.decision {o : Obs} (h : o.Minor) (k : UUID) : o.decision k = none := by
  cases o with
  | published ev =>
    obtain ⟨eventId, correlationId, causationId, payload⟩ := ev
    cases payload with
    | resolutionDecided d => exact absurd rfl (h d)
    | issueClassified | taskRequest | refundReviewRequested | responseDrafted => rfl
  | received | publishFailed | attached | slotFailed | claimed | decisionTaken
  | delegationFailed => rfl

theorem decidedFor_nil_of_minor {i : LoopId} {os : List Obs} (h : ∀ o ∈ os, o.Minor) (k : UUID) :
    decidedFor k (os.map (i, ·)) = [] := by
  apply List.filterMap_eq_nil_iff.mpr
  intro o ho
  obtain ⟨o', ho', rfl⟩ := List.mem_map.mp ho
  exact (h o' ho').decision k

theorem decidedFor_published {i : LoopId} {ev : OutEvent} {d : CustomerResponseDecisionPayload}
    (hp : ev.payload = .resolutionDecided d) (k : UUID) :
    decidedFor k [(i, .published ev)] = if ev.correlationId = k then [d] else [] := by
  simp only [decidedFor, List.filterMap_cons, List.filterMap_nil, Obs.decision, hp]
  split <;> simp_all

/-- **Only an emission shows a decision**, and it shows the one it carries. -/
theorem act_decided {S : Settings} {i : LoopId} {p p' : Phase} {V V' : View} {os : List Obs}
    (ha : Act S i p V os p' V') :
    (∃ k d m ev, p = .emitting k d m ∧ p' = .emitted k d m ∧ os = [.published ev] ∧
        ev.payload = .resolutionDecided d ∧ ev.correlationId = k ∧ V' = V) ∨
      ∀ k, decidedFor k (os.map (i, ·)) = [] := by
  cases ha with
  | minor h => exact .inr fun k => decidedFor_nil_of_minor h k
  | published hp hk => exact .inl ⟨_, _, _, _, rfl, rfl, rfl, hp, hk, rfl⟩
  | create | reopen | classify | direct | delegate | delegated | release | close | finish
  | abandon | delegationFailed | attachBilling | attachRisk | slotFailed | claim | claimHighRisk
  | publishFailed | draftFailed => exact .inr fun k => rfl

/-- How an emission begins, path by path. -/
inductive Opened (V : View) (k : UUID) :
    LoopId → CustomerResponseDecisionPayload → Emission → List Obs → View → Prop where
  | direct {c : ResolutionCase} {d : CustomerResponseDecisionPayload} (hc : V.cases k = some c)
      (hs : c.status = .classified) (hd : d.outcome = .directResponse)
      (hr : d.escalationReason = none) : Opened V k .intake d .direct [] V
  | fallback {c : ResolutionCase} {d : CustomerResponseDecisionPayload} (hc : V.cases k = some c)
      (hd : d.outcome = .escalateHuman) (hr : d.escalationReason = some "peer_failure") :
      Opened V k .intake d .fallback [.delegationFailed k c.status] V
  | claimed {i : LoopId} {c snapshot : ResolutionCase} {now : Time} (hc : V.cases k = some c)
      (hb : c.billingTaskId.isSome) (hu : undecided c.status = true)
      (hs : snapshot.core = { c with status := .decided }) :
      Opened V k i (decisionOn snapshot now) .claimed
        [.claimed k, .decisionTaken snapshot now (decisionOn snapshot now)]
        (V.put k { c with status := .decided })
  | highRisk {c snapshot : ResolutionCase} {e : Inbound RiskReviewCompletedPayload}
      {f : RiskFinding} (hc : V.cases k = some c) (hu : undecided c.status = true) :
      Opened V k .risk (highRiskDecision snapshot f) .highRisk
        [.received (.riskResult e), .claimed k]
        (V.put k { c with status := .decided, riskResult := some f })

/-- A loop that is emitting was, or has just begun. -/
theorem act_emitting {S : Settings} {i : LoopId} {p : Phase} {V V' : View} {os : List Obs}
    {k : UUID} {d : CustomerResponseDecisionPayload} {m : Emission}
    (ha : Act S i p V os (.emitting k d m) V') :
    (p = .emitting k d m ∧ V' = V) ∨ Opened V k i d m os V' := by
  cases ha with
  | minor => exact .inl ⟨rfl, rfl⟩
  | direct hc hs hd hr => exact .inr (.direct hc hs hd hr)
  | delegationFailed hc hb hd hr => exact .inr (.fallback hc hd hr)
  | claim hi hp hc hb hu hs => exact .inr (.claimed hc hb hu hs)
  | claimHighRisk hc hu ht he hk => exact .inr (.highRisk hc hu)

/-- What holds of every emission still does after an action, if it holds of one that the action
    begins. -/
theorem emitting_act {Q : LoopId → UUID → CustomerResponseDecisionPayload → Trace → Prop}
    (hmono : ∀ i k d tr os, Q i k d tr → Q i k d (tr ++ os)) {S : Settings} {tr : Trace}
    {V V' : View} {ph : LoopId → Phase} {i : LoopId} {os : List Obs} {p' : Phase}
    (h : ∀ j k d m, ph j = .emitting k d m → Q j k d tr) (ha : Act S i (ph i) V os p' V')
    (hopen : ∀ k d m, Opened V k i d m os V' → Q i k d (tr ++ os.map (i, ·))) (j : LoopId)
    (k : UUID) (d : CustomerResponseDecisionPayload) (m : Emission)
    (hj : Function.update ph i p' j = .emitting k d m) : Q j k d (tr ++ os.map (i, ·)) := by
  by_cases hji : j = i
  · subst hji
    rw [Function.update_self] at hj
    subst hj
    rcases act_emitting ha with ⟨hp, -⟩ | ho
    · exact hmono _ _ _ _ _ (h j k d m hp)
    · exact hopen k d m ho
  · rw [Function.update_of_ne hji] at hj
    exact hmono _ _ _ _ _ (h j k d m hj)

/-- Every decision of the trace is good, by what stands before its publication. -/
def Warranted (Q : LoopId → UUID → CustomerResponseDecisionPayload → Trace → Prop)
    (tr : Trace) : Prop :=
  EachAfter (fun before o => ∀ ev d, o.2 = .published ev → ev.payload = .resolutionDecided d →
    Q o.1 ev.correlationId d before) tr

theorem Warranted.act {Q : LoopId → UUID → CustomerResponseDecisionPayload → Trace → Prop}
    {S : Settings} {tr : Trace} {V V' : View} {ph : LoopId → Phase} {i : LoopId} {os : List Obs}
    {p' : Phase} (h : Warranted Q tr) (ha : Act S i (ph i) V os p' V')
    (hgood : ∀ k d m, ph i = .emitting k d m → Q i k d tr) :
    Warranted Q (tr ++ os.map (i, ·)) := by
  refine h.append ?_
  intro before o after heq ev d hev hd
  rcases act_decided ha with ⟨k, d', m, ev', hph, -, rfl, hd', hk, -⟩ | hnone
  · -- the publication is the only entry, so nothing new stands before it
    rcases before with _ | ⟨x, before⟩
    · simp only [List.map_cons, List.map_nil, List.nil_append, List.cons.injEq] at heq
      obtain ⟨rfl, -⟩ := heq
      cases hev
      rw [hd'] at hd
      cases hd
      rw [hk, List.append_nil]
      exact hgood k _ m hph
    · exact absurd (congrArg List.length heq) (by simp)
  · have hmem : o ∈ os.map (i, ·) := by rw [heq]; simp
    have hdec : o.2.decision ev.correlationId = some d := by simp [Obs.decision, hev, hd]
    have := List.filterMap_eq_nil_iff.mp (hnone ev.correlationId) o hmem
    rw [hdec] at this
    exact absurd this (by simp)

/-- **What holds of every emission holds of every published decision**, at the moment it was
    published. -/
theorem warranted_run {S : Settings} {G : (LoopId → Option Request) → LoopId × Obs → Prop}
    {J : Trace → View → (LoopId → Phase) → Prop}
    {Q : LoopId → UUID → CustomerResponseDecisionPayload → Trace → Prop}
    (hJ : Inductive S G J) (hinit : J [] emptyView fun _ => .quiet)
    (hgood : ∀ tr V ph i k d m, J tr V ph → ph i = .emitting k d m → Q i k d tr)
    {now : Time} {nextId : UUID} {tr : Trace} {c : State}
    (hrun : (service S).Run G (start now nextId) tr c) : Warranted Q tr := by
  have hboth : Inductive S G fun tr V ph => J tr V ph ∧ Warranted Q tr := by
    intro tr V ph i os p' V' waiting h hok ha hw hg
    exact ⟨hJ tr V ph i os p' V' waiting h.1 hok ha hw hg,
      h.2.act ha fun k d m hph => hgood tr V ph i k d m h.1 hph⟩
  obtain ⟨-, -, -, h⟩ := run_invariant hboth ⟨hinit, .nil⟩ hrun
  exact h

/-! ## Finality -/

/-- The three things a decision is taken on. -/
def ResolutionCase.findings (c : ResolutionCase) :
    Option Triage × Option BillingFinding × Option RiskFinding :=
  (c.triage, c.billingResult, c.riskResult)

/-- A decided record is only ever moved between the decided statuses. -/
theorem Moved.final {S : Settings} {k : UUID} {i : LoopId} {c x : ResolutionCase}
    (h : Moved S k i c x) (hu : undecided c.status = false) :
    undecided x.status = false ∧ x.findings = c.findings := by
  cases h with
  | classified hs => rcases hs with hs | hs <;> rw [hs] at hu <;> exact absurd hu (by decide)
  | delegated hs => rw [hs] at hu; exact absurd hu (by decide)
  | closed hs => rw [hs] at hu; exact absurd hu (by decide)
  | attachedBilling hu' | attachedRisk hu' | slotFailed hu' | claimed hu' | highRisk hu' =>
    rw [hu'] at hu
    exact absurd hu (by simp)
  | finished _ hs =>
    refine ⟨?_, rfl⟩
    rcases hs with rfl | rfl <;> rfl

/-- The case `k` is decided, one way or another. -/
def Final (V : View) (k : UUID) : Prop :=
  ∃ c, V.cases k = some c ∧ undecided c.status = false

theorem Final.act {S : Settings} {i : LoopId} {p p' : Phase} {V V' : View} {os : List Obs}
    {k : UUID} (h : Final V k) (ha : Act S i p V os p' V') : Final V' k := by
  obtain ⟨c, hc, hu⟩ := h
  rcases act_case ha hc with h | ⟨c', hc', hm⟩
  · exact ⟨c, h, hu⟩
  · exact ⟨c', hc', (hm.final hu).1⟩

/-- A decided case is still decided after a suspension. -/
theorem Final.rely {S : Settings} {i : LoopId} {w w' : World} {k : UUID} (h : Final w.view k)
    (hr : (protocol S).Rely i w w') : Final w'.view k := by
  refine Protocol.Rely.stable (A := fun v => Final v.view k) hr h ?_ ?_
  · intro j p t os p' t' _ _ hact hf
    exact hf.act hact
  · intro t t' he hf
    have he' : t'.view = t.view := he
    rw [he']
    exact hf

theorem not_final_of_undecided {V : View} {k : UUID} {c : ResolutionCase}
    (hc : V.cases k = some c) (hu : undecided c.status = true) : ¬ Final V k := by
  rintro ⟨c', hc', hu'⟩
  obtain rfl : c = c' := Option.some.inj (hc.symm.trans hc')
  rw [hu] at hu'
  exact absurd hu' (by simp)

theorem final_put {V : View} {k : UUID} {c : ResolutionCase} (hu : undecided c.status = false) :
    Final (V.put k c) k :=
  ⟨c, View.put_cases_self V k c, hu⟩

end RefundOps.Resolution
