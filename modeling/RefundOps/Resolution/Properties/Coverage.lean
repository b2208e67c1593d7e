import RefundOps.Resolution.Properties.OneDecision

/-!
# No case is stranded

A case is safe when a decision went out for it, or when the reaper will find it: undecided, with
a deadline and a pending task. While a handler is in progress a case can be neither; then a loop
has a *duty* to it, and the invariant is that a case which is not safe is somebody's duty.

Three publications drop a duty when they fail: the classification event, the decision of a direct
response, and the decision of a claim. Nothing takes the case up again after that, except a
redelivery of its ticket in the first two cases: the record has no deadline, or it says `DECIDED`
already. `decisionsArrive` is the guard that none of the three fails. The publication that may
fail is the intake loop's own escalation: the tasks stay pending then, and the reaper has the case.
-/

set_option autoImplicit false

namespace RefundOps.Resolution

/-- No classification event and no decision is refused by the broker, other than the escalation
    of a failed delegation. -/
def decisionsArrive (_ : LoopId → Option Request) (o : LoopId × Obs) : Prop :=
  match o.2 with
  | .publishFailed ev =>
      match ev.payload with
      | .issueClassified _ => False
      | .resolutionDecided d => o.1 = .intake ∧ d.outcome = .escalateHuman
      | _ => True
  | _ => True

/-- The reaper will find the case once its deadline has passed. -/
def Covered (c : ResolutionCase) : Prop :=
  undecided c.status = true ∧ c.deadlineAt.isSome ∧ c.pendingTasks ≠ ∅

/-- What a loop in this phase still has to do for a case; the flag says that it has claimed it. -/
def Phase.duty : Phase → Option (UUID × Bool)
  | .triaging k => some (k, false)
  | .owing k => some (k, false)
  | .emitting k _ .direct => some (k, false)
  | .emitting k _ .claimed => some (k, true)
  | .emitting k _ .highRisk => some (k, true)
  | _ => none

/-- A case is safe, or somebody's duty; if it is decided already, then the duty of a claim. -/
def Safe (k : UUID) (tr : Trace) (c : ResolutionCase) (ph : LoopId → Phase) : Prop :=
  decidedFor k tr ≠ [] ∨ Covered c ∨ ∃ i b, (ph i).duty = some (k, b) ∧
    (undecided c.status = false → b = true)

/-- What an emission carries, path by path. -/
def Phase.Sane (i : LoopId) : Phase → Prop
  | .emitting _ d .direct => d.outcome = .directResponse
  | .emitting _ d .fallback => d.outcome = .escalateHuman
  | .emitting _ _ .claimed => i ≠ .intake
  | .emitting _ d .highRisk => i ≠ .intake ∧ d.outcome = .escalateHuman
  | _ => True

theorem sane_act {S : Settings} {i : LoopId} {p p' : Phase} {V V' : View} {os : List Obs}
    (h : p.Sane i) (ha : Act S i p V os p' V') : p'.Sane i := by
  cases ha with
  | minor => exact h
  | direct hc hs hd => exact hd
  | delegationFailed hc hb hd hr => exact hd
  | claim hi => exact hi
  | claimHighRisk => exact ⟨by decide, rfl⟩
  | create | reopen | classify | abandon | delegate | delegated | attachBilling | attachRisk
  | slotFailed | release | published | publishFailed | draftFailed | close | finish => trivial

structure Tended (tr : Trace) (V : View) (ph : LoopId → Phase) : Prop where
  sane : ∀ i, (ph i).Sane i
  emitted : ∀ i k d m, ph i = .emitted k d m → decidedFor k tr ≠ []
  safe : ∀ k c, V.cases k = some c → Safe k tr c ph

namespace Tended

variable {S : Settings} {tr : Trace} {V V' : View} {ph : LoopId → Phase} {i : LoopId} {p p' : Phase}
  {os : List Obs}

theorem decided_mono {k : UUID} (h : decidedFor k tr ≠ []) (os : List Obs) :
    decidedFor k (tr ++ os.map (i, ·)) ≠ [] := by
  rw [decidedFor_append]
  exact fun hnil => h (List.append_eq_nil_iff.mp hnil).1

/-- A duty of another loop, or one that the acting loop keeps. -/
theorem duty_update {k : UUID} {b : Bool} {j : LoopId} (hp : ph i = p)
    (hj : (ph j).duty = some (k, b)) (hkeep : p.duty = some (k, b) → p'.duty = some (k, b)) :
    (Function.update ph i p' j).duty = some (k, b) := by
  by_cases hji : j = i
  · subst hji
    rw [Function.update_self]
    exact hkeep (hp ▸ hj)
  · rw [Function.update_of_ne hji]
    exact hj

/-- A record the action does not touch, whose duty the acting loop does not drop. -/
theorem safe_frame {k : UUID} {c : ResolutionCase} (h : Safe k tr c ph) (hp : ph i = p)
    (hkeep : ∀ b, p.duty = some (k, b) → p'.duty = some (k, b)) (os : List Obs) :
    Safe k (tr ++ os.map (i, ·)) c (Function.update ph i p') := by
  rcases h with hd | hc | ⟨j, b, hj, hb⟩
  · exact .inl (decided_mono hd os)
  · exact .inr (.inl hc)
  · exact .inr (.inr ⟨j, b, duty_update hp hj (hkeep b), hb⟩)

/-- A case the acting loop takes on. -/
theorem safe_taken {k : UUID} {c : ResolutionCase} {b : Bool} (hp' : p'.duty = some (k, b))
    (hb : undecided c.status = false → b = true) (tr : Trace) :
    Safe k tr c (Function.update ph i p') :=
  .inr (.inr ⟨i, b, by rw [Function.update_self]; exact hp', hb⟩)

/-- The record under `k` after an action on the record under `j`. -/
theorem safe_put {j : UUID} {x : ResolutionCase} (h : ∀ k c, V.cases k = some c → Safe k tr c ph)
    (hp : ph i = p) (hkeep : ∀ k b, k ≠ j → p.duty = some (k, b) → p'.duty = some (k, b))
    (hj : Safe j (tr ++ os.map (i, ·)) x (Function.update ph i p')) (k : UUID) (c : ResolutionCase)
    (hc : (V.put j x).cases k = some c) :
    Safe k (tr ++ os.map (i, ·)) c (Function.update ph i p') := by
  by_cases hk : k = j
  · subst hk
    rw [View.put_cases_self, Option.some.injEq] at hc
    exact hc ▸ hj
  · rw [View.put_cases_ne V x hk] at hc
    exact safe_frame (h k c hc) hp (fun b => hkeep k b hk) os

theorem decided_published {ev : OutEvent} {k : UUID} {d : CustomerResponseDecisionPayload}
    (hpay : ev.payload = .resolutionDecided d) (hk : ev.correlationId = k) (tr : Trace) :
    decidedFor k (tr ++ [Obs.published ev].map (i, ·)) ≠ [] := by
  rw [decidedFor_append, List.map_cons, List.map_nil, decidedFor_published hpay, if_pos hk]
  simp

/-- The loops that have published keep having published. -/
theorem emitted_act (h : Tended tr V ph) (ha : Act S i (ph i) V os p' V') (j : LoopId) (k : UUID)
    (d : CustomerResponseDecisionPayload) (m : Emission)
    (hj : Function.update ph i p' j = .emitted k d m) :
    decidedFor k (tr ++ os.map (i, ·)) ≠ [] := by
  by_cases hji : j = i
  · subst hji
    rw [Function.update_self] at hj
    subst hj
    generalize hp : ph j = p at ha
    cases ha with
    | minor => exact decided_mono (h.emitted j k d m hp) _
    | published hpay hk => exact decided_published hpay hk tr
  · rw [Function.update_of_ne hji] at hj
    exact decided_mono (h.emitted j k d m hj) os

theorem sane_update (h : Tended tr V ph) (ha : Act S i (ph i) V os p' V') (j : LoopId) :
    (Function.update ph i p' j).Sane j := by
  by_cases hj : j = i
  · subst hj
    rw [Function.update_self]
    exact sane_act (h.sane j) ha
  · rw [Function.update_of_ne hj]
    exact h.sane j

end Tended

/-- An undecided case that is not ready is the reaper's. -/
theorem covered_of_not_ready {S : Settings} {V : View} {k : UUID} {c : ResolutionCase}
    (hok : ViewOk S V) (hc : V.cases k = some c) (hu : undecided c.status = true)
    (hready : c.isReadyToDecide = false) : Covered c := by
  unfold ResolutionCase.isReadyToDecide at hready
  split at hready
  · exact absurd hready (by simp)
  · have hpend : c.pendingTasks ≠ ∅ := by simpa using hready
    rcases (hok.case k c hc).shape with hf | hd
    · exact absurd hf.pendingTasks hpend
    · exact ⟨hu, hd.deadline, hpend⟩

/-- A loop that owes the case a decision may leave it: the case is decided, or the reaper's. -/
theorem Tended.safe_release {S : Settings} {tr : Trace} {V : View} {ph : LoopId → Phase}
    {i : LoopId} {k : UUID} {c : ResolutionCase} (h : Tended tr V ph) (hok : ViewOk S V)
    (hp : ph i = .owing k) (hc : V.cases k = some c)
    (hready : undecided c.status = false ∨ c.isReadyToDecide = false) (j : UUID)
    (x : ResolutionCase) (hx : V.cases j = some x) : Safe j tr x (Function.update ph i .quiet) := by
  rcases h.safe j x hx with hd | hcov | ⟨l, b, hl, hb⟩
  · exact .inl hd
  · exact .inr (.inl hcov)
  by_cases hli : l = i
  · -- the duty that is dropped
    subst hli
    rw [hp] at hl
    simp only [Phase.duty, Option.some.injEq, Prod.mk.injEq] at hl
    obtain ⟨rfl, rfl⟩ := hl
    obtain rfl : c = x := Option.some.inj (hc.symm.trans hx)
    have hu : undecided c.status = true := by
      cases hu : undecided c.status with
      | true => rfl
      | false => exact absurd (hb hu) (by simp)
    rcases hready with hno | hno
    · rw [hu] at hno
      exact absurd hno (by simp)
    · exact .inr (.inl (covered_of_not_ready hok hc hu hno))
  · exact .inr (.inr ⟨l, b, by rw [Function.update_of_ne hli]; exact hl, hb⟩)

/-- A decision that is refused where decisions arrive is that of a failed delegation. -/
theorem fallback_of_arrives {i : LoopId} {k : UUID} {d : CustomerResponseDecisionPayload}
    {m : Emission} (hs : (Phase.emitting k d m).Sane i)
    (hgood : i = .intake ∧ d.outcome = .escalateHuman) : m = .fallback := by
  cases m with
  | direct =>
    rw [show d.outcome = _ from hs] at hgood
    exact absurd hgood.2 (by decide)
  | fallback => rfl
  | claimed => exact absurd hgood.1 hs
  | highRisk => exact absurd hgood.1 hs.1

theorem Tended.safe_act {S : Settings} {tr : Trace} {V V' : View} {ph : LoopId → Phase}
    {i : LoopId} {p p' : Phase} {os : List Obs} {waiting : LoopId → Option Request}
    (h : Tended tr V ph) (hok : ViewOk S V) (hp : ph i = p) (ha : Act S i p V os p' V')
    (hg : ∀ o ∈ os, decisionsArrive waiting (i, o)) :
    ∀ k c, V'.cases k = some c →
      Safe k (tr ++ os.map (i, ·)) c (Function.update ph i p') := by
  cases ha with
  | minor => exact fun k c hc => safe_frame (h.safe k c hc) hp (fun _ => id) _
  | reopen | direct | delegated | delegationFailed | draftFailed =>
    exact fun k c hc => safe_frame (h.safe k c hc) hp (by simp [Phase.duty]) _
  | create hnone hnew =>
    refine safe_put h.safe hp (by simp [Phase.duty]) (safe_taken rfl ?_ _)
    rw [hnew.status]
    exact fun hu => absurd hu (by decide)
  | classify hc hs =>
    refine safe_put h.safe hp (fun _ _ _ => id) (safe_taken rfl ?_ _)
    intro hu
    exact absurd (show true = false from hu) (by simp)
  | abandon hpay hk =>
    have hbad := hg _ List.mem_cons_self
    simp [decisionsArrive, hpay] at hbad
  | delegate hc hs ht hn =>
    refine safe_put h.safe hp ?_ (.inr (.inl ⟨rfl, rfl, ?_⟩))
    · intro j b hj hduty
      simp only [Phase.duty, Option.some.injEq, Prod.mk.injEq] at hduty
      exact absurd hduty.1.symm hj
    · exact Finset.insert_ne_empty _ _
  | attachBilling hc hu | attachRisk hc hu =>
    refine safe_put h.safe hp (by simp [Phase.duty]) (safe_taken rfl ?_ _)
    rw [undecided_attachedCase hu]
    exact fun hu => absurd hu (by decide)
  | @slotFailed _ k before e result hc hu ht he hs =>
    refine safe_put h.safe hp (by simp [Phase.duty]) (safe_taken rfl ?_ _)
    rw [undecided_slotFailedCase (c := before.core) hu]
    exact fun hu => absurd hu (by decide)
  | release hc hready =>
    rw [List.map_nil, List.append_nil]
    exact h.safe_release hok hp hc hready
  | @claim _ _ _ k c snapshot now hi hph hc hb hu hs =>
    refine safe_put h.safe hp ?_ (safe_taken rfl (fun _ => rfl) _)
    intro j b hj hduty
    rcases hph with rfl | rfl
    · exact absurd hduty (by simp [Phase.duty])
    · simp only [Phase.duty, Option.some.injEq, Prod.mk.injEq] at hduty
      exact absurd hduty.1.symm hj
  | claimHighRisk hc hu ht he hk =>
    exact safe_put h.safe hp (by simp [Phase.duty]) (safe_taken rfl (fun _ => rfl) _)
  | @published _ _ k d m ev hpay hk =>
    intro j c hc
    by_cases hj : j = k
    · subst hj
      exact .inl (decided_published hpay hk tr)
    · refine safe_frame (h.safe j c hc) hp ?_ _
      intro b hduty
      cases m <;> simp only [Phase.duty, Option.some.injEq, Prod.mk.injEq, reduceCtorEq] at hduty
      all_goals exact absurd hduty.1.symm hj
  | publishFailed hpay hk =>
    have hgood := hg _ List.mem_cons_self
    simp only [decisionsArrive, hpay] at hgood
    obtain rfl := fallback_of_arrives (hp ▸ h.sane i) hgood
    exact fun j c hc => safe_frame (h.safe j c hc) hp (by simp [Phase.duty]) _
  | close | finish =>
    exact safe_put h.safe hp (by simp [Phase.duty])
      (.inl (decided_mono (h.emitted _ _ _ _ hp) _))

/-- **Every action the guard lets through leaves every case safe or somebody's duty.** -/
theorem tended_inductive (S : Settings) : Inductive S decisionsArrive Tended := by
  intro tr V ph i os p' V' waiting h hok ha hw hg
  exact ⟨h.sane_update ha, h.emitted_act ha, h.safe_act hok rfl ha hg⟩

/-! ## Runs -/

theorem undecided_iff (status : CaseStatus) :
    undecided status = true ↔ status ∉ [CaseStatus.decided, .closed, .escalated, .failed] := by
  cases status <;> decide

/-- A covered record is what a sweep after its deadline lists. -/
theorem Covered.listed {st : InMemoryCaseStateStore} {k : UUID} {c : ResolutionCase}
    (h : Covered c) (hc : st.get k = some c) :
    ∃ deadline, c.deadlineAt = some deadline ∧
      ∀ now > deadline, c ∈ st.listTimedOutCases now := by
  obtain ⟨hu, hdeadline, hpend⟩ := h
  obtain ⟨deadline, hdeadline⟩ := Option.isSome_iff_exists.mp hdeadline
  refine ⟨deadline, hdeadline, ?_⟩
  intro now hlate
  have hu' : isTerminal c.status = false ∧ c.status ≠ .decided := by
    simpa [undecided] using hu
  refine List.mem_filter.mpr ⟨Dict.mem_values_of_get? hc, ?_⟩
  simp only [InMemoryCaseStateStore.timedOut, hdeadline, hu'.1]
  simpa [hpend, hu'.2] using hlate

/-- **When every loop is idle, each stored case has a decision or is covered by the reaper**, in
    every run in which the guarded publications arrive. -/
theorem no_stranded_case {S : Settings} {now : Time} {nextId : UUID} {tr : Trace} {s : State}
    (hrun : (service S).Run decisionsArrive (start now nextId) tr s) (hq : s.Quiescent)
    {k : UUID} {c : ResolutionCase} (hc : s.world.store.get k = some c) :
    decidedFor k tr ≠ [] ∨
      c.status ∉ [CaseStatus.decided, .closed, .escalated, .failed] ∧ c.pendingTasks ≠ ∅ ∧
        ∃ deadline, c.deadlineAt = some deadline ∧
          ∀ now > deadline, c ∈ s.world.store.listTimedOutCases now := by
  have hinit : Tended [] emptyView fun _ => .quiet :=
    ⟨fun _ => trivial, by simp, fun k c h => absurd h (by simp [emptyView])⟩
  obtain ⟨ph, hph, h⟩ := run_invariant (tended_inductive S) hinit hrun
  rcases h.safe k c.core (InMemoryCaseStateStore.view_cases_of_get hc) with hd | hcov | ⟨i, b, hi, -⟩
  · exact .inl hd
  · have hcov' : Covered c := hcov
    exact .inr ⟨(undecided_iff c.status).mp hcov'.1, hcov'.2.2, hcov'.listed hc⟩
  · rw [hph.quiet hq i] at hi
    exact absurd hi (by simp [protocol, Phase.duty])

def LoopId.all : List LoopId := [.intake, .result, .billing, .risk, .reaper]

def allIdle (s : State) : Bool := LoopId.all.all fun i => (s.loops i).isNone

theorem quiescent_of_allIdle {s : State} (h : allIdle s = true) : s.Quiescent := by
  intro i
  have hi : i ∈ LoopId.all := by cases i <;> decide
  exact Option.isNone_iff_eq_none.mp (List.all_eq_true.mp h i hi)

/-- A refund ticket, everything granted: the handler suspends on the first audit, the
    classification, a discovery and a task request for each peer, and the announcement. -/
def delegationSchedule : Schedule :=
  .deliver (ticketMessage "refund") :: List.replicate 7 (.answer .intake grant)

def noPublishFailed : LoopId × Obs → Bool
  | (_, .publishFailed _) => false
  | _ => true

theorem no_stranded_case_delegated :
    ∃ tr s c, (service sampleSettings).Run decisionsArrive (start 0 1000) tr s ∧ s.Quiescent ∧
      s.world.store.get 1 = some c ∧ decidedFor 1 tr = [] ∧
      (decidedFor 1 tr ≠ [] ∨
        c.status ∉ [CaseStatus.decided, .closed, .escalated, .failed] ∧ c.pendingTasks ≠ ∅ ∧
          ∃ deadline, c.deadlineAt = some deadline ∧
            ∀ now > deadline, c ∈ s.world.store.listTimedOutCases now) := by
  have hexec : (((service sampleSettings).exec delegationSchedule (start 0 1000)).map fun out =>
      (allIdle out.2, (out.2.world.store.get 1).isSome, (decidedFor 1 out.1).isEmpty,
        out.1.all noPublishFailed)) = some (true, true, true, true) := by decide +kernel
  obtain ⟨⟨tr, s⟩, hout, heq⟩ := Option.map_eq_some_iff.mp hexec
  simp only [Prod.mk.injEq] at heq
  obtain ⟨hidle, hsome, hnil, hall⟩ := heq
  have hq : s.Quiescent := quiescent_of_allIdle hidle
  obtain ⟨c, hc⟩ := Option.isSome_iff_exists.mp hsome
  have hrun : (service sampleSettings).Run decisionsArrive (start 0 1000) tr s := by
    refine .of_exec hout ?_
    rintro w ⟨i, o⟩ ho
    have hplain := List.all_eq_true.mp hall _ ho
    cases o with
    | publishFailed => exact absurd hplain (by simp [noPublishFailed])
    | received | published | attached | slotFailed | claimed | decisionTaken
    | delegationFailed => trivial
  exact ⟨tr, s, c, hrun, hq, hc, List.isEmpty_iff.mp hnil, no_stranded_case hrun hq hc⟩

/-- The classification event is refused; the handler raises and the record stays as it is. -/
def refusedClassification : Schedule :=
  [.deliver (ticketMessage "refund"), .answer .intake grant, .answer .intake refuse]

/-- Without the guard a case can be left with no decision and no deadline. -/
theorem stranded_after_refused_classification :
    ¬ ∀ (S : Settings) (now : Time) (nextId : UUID) (tr : Trace) (s : State) (k : UUID)
      (c : ResolutionCase), (service S).Run EventLoop.anyStep (start now nextId) tr s →
      s.Quiescent → s.world.store.get k = some c →
      decidedFor k tr ≠ [] ∨
        c.status ∉ [CaseStatus.decided, .closed, .escalated, .failed] ∧ c.pendingTasks ≠ ∅ ∧
          ∃ deadline, c.deadlineAt = some deadline ∧
            ∀ now > deadline, c ∈ s.world.store.listTimedOutCases now := by
  intro h
  have hexec : (((service sampleSettings).exec refusedClassification (start 0 1000)).map fun out =>
      (allIdle out.2, (out.2.world.store.get 1).map (·.deadlineAt.isNone),
        (decidedFor 1 out.1).isEmpty)) = some (true, some true, true) := by decide +kernel
  obtain ⟨⟨tr, s⟩, hout, heq⟩ := Option.map_eq_some_iff.mp hexec
  simp only [Prod.mk.injEq] at heq
  obtain ⟨hidle, hsome, hnil⟩ := heq
  obtain ⟨c, hc, hnone⟩ := Option.map_eq_some_iff.mp hsome
  rcases h sampleSettings 0 1000 tr s 1 c (.of_exec hout fun _ _ _ => trivial)
    (quiescent_of_allIdle hidle) hc with hd | ⟨-, -, deadline, hdeadline, -⟩
  · exact hd (List.isEmpty_iff.mp hnil)
  · rw [hdeadline] at hnone
    exact absurd hnone (by simp)

end RefundOps.Resolution
