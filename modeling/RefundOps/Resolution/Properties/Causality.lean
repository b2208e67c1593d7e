import RefundOps.Lib.History
import RefundOps.Resolution.Properties.EscalationReason
import RefundOps.Resolution.Watch.Runs

/-!
# Every event has a cause

The choreography wants the events of a case to form a causation graph: each published event names,
as its `causation_id`, an event of its case that was received or published before. Every publication
site does so but one: a decision on a timed-out case has no message behind it, and the reaper gives
it a fresh id instead, which is the id of nothing. A task result is matched to its case by its task
id, whatever correlation id it came with; a decision it triggers names an event of another case when
the two disagree.
-/

set_option autoImplicit false

namespace RefundOps.Resolution

variable {S : Settings}

/-- The event an entry of the trace shows, received or published. -/
def Obs.eventRef : Obs → Option EventRef
  | .received (.ticket e) => some e.ref
  | .received (.taskResult e) => some e.ref
  | .received (.billingResult e) => some e.ref
  | .received (.riskResult e) => some e.ref
  | .published ev => some ev.ref
  | _ => none

/-- An event of the same case, with the id that `ev` gives as its cause, has been seen before. -/
def HasCause (before : Trace) (ev : OutEvent) : Prop :=
  ∃ o ∈ before, o.2.eventRef = some ⟨ev.causationId, ev.correlationId⟩

/-- The steps that can be traced back: the reaper claims nothing, and a task result carries the
    correlation id of the case its task is of. -/
def traceable (S : Settings) (o : LoopId × Obs) : Prop :=
  match o with
  | (.reaper, .claimed _) => False
  | (_, .received (.taskResult e)) =>
      ∀ result k, e.payload = some result →
        (result.taskId = billingTaskOf S k ∨ result.taskId = riskTaskOf S k) → e.correlationId = k
  | _ => True

/-- An event that is named is an event of the case, where task results say what case they are
    of. -/
theorem Obs.Names.eventRef {i : LoopId} {o : Obs} {k id : UUID} (h : o.Names S k id)
    (ht : traceable S (i, o)) : o.eventRef = some ⟨id, k⟩ := by
  cases o with
  | published ev =>
    obtain ⟨rfl, rfl⟩ := h
    rfl
  | received m =>
    cases m with
    | ticket e =>
      obtain ⟨rfl, rfl⟩ := h
      rfl
    | billingResult e =>
      obtain ⟨rfl, rfl⟩ := h
      rfl
    | riskResult e =>
      obtain ⟨rfl, rfl⟩ := h
      rfl
    | taskResult e =>
      obtain ⟨rfl, result, hpay, hids⟩ := h
      have hk : e.correlationId = k := by
        cases i <;> exact ht result k hpay hids
      subst hk
      rfl
    | sweep => exact h.elim
  | publishFailed | attached | slotFailed | claimed | decisionTaken | delegationFailed =>
    exact h.elim

/-- A cause that the errand has, in a trace that can be traced back. -/
theorem Caused.hasCause {i : LoopId} {g : Watching} {tr : Trace} {ev : OutEvent}
    (h : Caused S i g.phase ev.causationId) (hcase : ev.correlationId = g.phase.case)
    (htold : Told tr i g) (ht : ∀ o ∈ tr ++ g.obs.map (i, ·), traceable S o) :
    HasCause (tr ++ g.obs.map (i, ·)) ev := by
  rcases h with ⟨o, ho, hn⟩ | ⟨rfl, hclaimed⟩
  · refine ⟨(i, o), htold o ho, ?_⟩
    rw [hcase]
    exact hn.eventRef (ht (i, o) (htold o ho))
  · exact (ht _ (htold _ hclaimed)).elim

/-- Every publication so far has its cause, if the stretch so far can be traced back. -/
def CausedSoFar (S : Settings) (tr : Trace) (i : LoopId) (g : Watching) : Prop :=
  Told tr i g ∧ ((∀ o ∈ tr ++ g.obs.map (i, ·), traceable S o) →
    EachAfter (fun before o => ∀ ev, o.2 = .published ev → HasCause before ev)
      (tr ++ g.obs.map (i, ·)))

theorem causedSoFar_write {tr : Trace} {i : LoopId} (g : Watching) (os : List Obs) (w' : World)
    (p : Errand) (h : CausedSoFar S tr i g) (hw : (errands S).Write i g os w' p) :
    CausedSoFar S tr i ⟨p, g.base, g.obs ++ os, w'⟩ := by
  refine ⟨told_write g os w' p h.1 hw, ?_⟩
  intro ht
  have hsplit : tr ++ (g.obs ++ os).map (i, ·) = (tr ++ g.obs.map (i, ·)) ++ os.map (i, ·) := by
    rw [List.map_append, List.append_assoc]
  show EachAfter _ (tr ++ (g.obs ++ os).map (i, ·))
  rw [show (⟨p, g.base, g.obs ++ os, w'⟩ : Watching).obs = g.obs ++ os from rfl, hsplit] at ht
  rw [hsplit]
  have ht' : ∀ o ∈ tr ++ g.obs.map (i, ·), traceable S o :=
    fun o ho => ht o (List.mem_append_left _ ho)
  refine (h.2 ht').append ?_
  intro before o after heq ev hev
  cases hw with
  | edit | claim | turn => exact absurd heq (by simp)
  | @note o' _ ho =>
    have hmem : o ∈ [o'].map (i, ·) := heq ▸ List.mem_append_right _ List.mem_cons_self
    obtain rfl : o = (i, o') := List.mem_singleton.mp hmem
    obtain rfl : o' = .published ev := hev
    exact absurd ho (by simp [Obs.noted])
  | @publish ev' _ hcase hcause =>
    have hmem : o ∈ [Obs.published ev'].map (i, ·) := heq ▸ List.mem_append_right _ List.mem_cons_self
    obtain rfl : o = (i, .published ev') := List.mem_singleton.mp hmem
    obtain rfl : ev' = ev := Obs.published.inj hev
    obtain ⟨cause, hc, href⟩ := hcause.hasCause hcase h.1 ht'
    exact ⟨cause, List.mem_append_left _ hc, href⟩

/-- **Causal closure**, in every run whose steps can be traced back. -/
theorem published_events_have_causes {now : Time} {nextId : UUID} {tr : Trace} {s : State}
    (hrun : (service S).Run (fun _ => traceable S) (start now nextId) tr s) :
    ∀ before i ev after, tr = before ++ (i, .published ev) :: after → HasCause before ev := by
  have hall : (∀ o ∈ tr, traceable S o) ∧
      EachAfter (fun before o => ∀ ev, o.2 = .published ev → HasCause before ev) tr := by
    induction hrun with
    | nil => exact ⟨fun o ho => absurd ho List.not_mem_nil, .nil⟩
    | @step tr os s₁ s₂ hprev ch hstep hg ih =>
      obtain ⟨htr, hcaused⟩ := ih
      have ht : ∀ o ∈ tr ++ os, traceable S o := by
        intro o ho
        rcases List.mem_append.mp ho with ho | ho
        · exact htr o ho
        · exact hg o ho
      refine ⟨ht, ?_⟩
      rcases step_errand hprev hstep with ⟨i, g, gh, -, h⟩ | ⟨-, rfl, -⟩
      · have hstart : CausedSoFar S tr i g := by
          refine ⟨h.told, fun _ => hcaused.append ?_⟩
          -- all that is shown before the first write is the message
          intro before o after heq ev hev
          have hmem : o ∈ g.obs.map (i, ·) := heq ▸ List.mem_append_right _ List.mem_cons_self
          obtain ⟨o', ho', rfl⟩ := List.mem_map.mp hmem
          obtain ⟨m, rfl⟩ := h.obs o' ho'
          exact absurd hev (by simp)
        have hend := h.chain.keeps (J := CausedSoFar S tr i) causedSoFar_write hstart
        rw [h.shows] at ht ⊢
        exact hend.2 ht
      · simpa using hcaused
  intro before i ev after heq
  exact hall.2 before _ after heq ev rfl

/-- Neither a claim of the reaper nor a task result. -/
def plainlyTraceable : LoopId × Obs → Bool
  | (.reaper, .claimed _) => false
  | (_, .received (.taskResult _)) => false
  | _ => true

theorem traceable_of_plain {o : LoopId × Obs} (h : plainlyTraceable o = true) : traceable S o := by
  unfold traceable
  split
  · exact absurd h (by simp [plainlyTraceable])
  · rename_i i e
    cases i <;> exact absurd h (by simp [plainlyTraceable])
  · trivial

/-- Both reviews come back and the refund is approved: the decision names the second of them. -/
theorem published_events_have_causes_approval :
    ∃ tr s before i ev d, (service sampleSettings).Run (fun _ => traceable sampleSettings)
        (start 0 1000) tr s ∧
      tr = before ++ [(i, Obs.published ev)] ∧ ev.payload = .resolutionDecided d ∧
      HasCause before ev := by
  have hexec : (((service sampleSettings).exec approvalSchedule (start 0 1000)).map fun out =>
      (out.1.all plainlyTraceable, out.1.getLast?.map (decides .approveRefund))) =
      some (true, some true) := by decide +kernel
  obtain ⟨⟨tr, s⟩, hout, heq⟩ := Option.map_eq_some_iff.mp hexec
  simp only [Prod.mk.injEq] at heq
  obtain ⟨hall, hlast⟩ := heq
  obtain ⟨o, hget, ho⟩ := Option.map_eq_some_iff.mp hlast
  obtain ⟨i, ev, d, rfl, hd, -⟩ := exists_of_decides ho
  obtain ⟨before, rfl⟩ := List.getLast?_eq_some_iff.mp hget
  have hrun : (service sampleSettings).Run (fun _ => traceable sampleSettings) (start 0 1000) _ s :=
    .of_exec hout fun _ o ho => traceable_of_plain (List.all_eq_true.mp hall o ho)
  exact ⟨_, s, before, i, ev, d, hrun, rfl, hd,
    published_events_have_causes hrun before i ev [] rfl⟩

/-! ## A decision without a cause -/

theorem eventRef_ne {o : Obs} {ref : EventRef}
    (h : (o.eventRef.all fun r => r.eventId != ref.eventId) = true) : o.eventRef ≠ some ref := by
  intro heq
  rw [heq] at h
  exact absurd h (by simp)

/-- The last event of the trace is published, and its cause is not among the others. -/
def lacksCause (tr : Trace) : Bool :=
  match tr.getLast? with
  | some (_, .published ev) =>
      tr.dropLast.all fun o => o.2.eventRef.all fun r => r.eventId != ev.causationId
  | _ => false

theorem not_hasCause_of_lacksCause {tr : Trace} (h : lacksCause tr = true) :
    ∃ before i ev, tr = before ++ [(i, .published ev)] ∧ ¬ HasCause before ev := by
  unfold lacksCause at h
  split at h
  · rename_i i ev hlast
    obtain ⟨before, rfl⟩ := List.getLast?_eq_some_iff.mp hlast
    refine ⟨before, i, ev, rfl, ?_⟩
    rintro ⟨o, ho, href⟩
    rw [List.dropLast_concat] at h
    have hne : o.2.eventRef ≠ some ⟨ev.causationId, ev.correlationId⟩ :=
      eventRef_ne (List.all_eq_true.mp h o ho)
    exact hne href
  · exact absurd h (by simp)

/-- The decision on a timed-out case names an event that does not exist. -/
theorem timeout_decision_has_no_cause :
    ¬ ∀ (S : Settings) (now : Time) (nextId : UUID) (tr : Trace) (s : State),
      (service S).Run EventLoop.anyStep (start now nextId) tr s →
      ∀ before i ev after, tr = before ++ (i, .published ev) :: after → HasCause before ev := by
  intro h
  have hexec : (((service sampleSettings).exec timeoutSchedule (start 0 1000)).map fun out =>
      lacksCause out.1) = some true := by decide +kernel
  obtain ⟨⟨tr, s⟩, hout, hlacks⟩ := Option.map_eq_some_iff.mp hexec
  obtain ⟨before, i, ev, rfl, hno⟩ := not_hasCause_of_lacksCause hlacks
  exact hno (h sampleSettings 0 1000 _ s (.of_exec hout fun _ _ _ => trivial) before i ev [] rfl)

end RefundOps.Resolution
