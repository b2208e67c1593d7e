import RefundOps.Resolution.Properties.EscalationReason
import RefundOps.Resolution.Watch.Runs

/-!
# Cases do not touch each other

A step for one case leaves every other record as it is and publishes nothing under another
correlation id. The cases are found through two indexes, by correlation id and by task id; that
these lead to the right record is `ViewOk`, and that a handler then stays with it is its errand.

A step of a message handler is for the case of its message. A step of the reaper is for at most
two: the case of the request it was suspended on, which it finishes, and then the case of the
request it suspends on next, which it takes up. The reaper claims what it takes up, and a claim is
followed by a suspension, so there is never a third.
-/

set_option autoImplicit false

namespace RefundOps.Resolution

variable {S : Settings} {i : LoopId} {g : Watching} {p' : Errand}

/-- The writes touch the record of `d` alone and publish for `d` alone. -/
structure OnlyFor (d : UUID) (w : World) (ws : List (List Obs × World)) : Prop where
  records : ∀ c, c ≠ d → ∀ x ∈ ws, x.2.store.get c = w.store.get c
  published : ∀ ev, .published ev ∈ shownBy ws → ev.correlationId = d

namespace OnlyFor

variable {d : UUID} {w w' : World} {os : List Obs} {ws : List (List Obs × World)}

theorem nil (d : UUID) (w : World) : OnlyFor d w [] :=
  ⟨fun _ _ _ h => absurd h List.not_mem_nil, fun _ h => absurd h List.not_mem_nil⟩

theorem cons (hframe : Framed d w w') (hpub : ∀ ev, .published ev ∈ os → ev.correlationId = d)
    (h : OnlyFor d w' ws) : OnlyFor d w ((os, w') :: ws) where
  records := by
    intro c hc x hx
    rcases List.mem_cons.mp hx with rfl | hx
    · exact hframe c hc
    · exact (h.records c hc x hx).trans (hframe c hc)
  published := by
    intro ev hev
    rcases List.mem_append.mp hev with hev | hev
    · exact hpub ev hev
    · exact h.published ev hev

theorem last (h : OnlyFor d w ws) {c : UUID} (hc : c ≠ d) :
    (lastState w ws).store.get c = w.store.get c := by
  induction ws generalizing w with
  | nil => rfl
  | cons x ws ih =>
    have hx : x.2.store.get c = w.store.get c := h.records c hc x List.mem_cons_self
    refine (ih ⟨?_, ?_⟩).trans hx
    · intro c' hc' y hy
      exact (h.records c' hc' y (List.mem_cons_of_mem x hy)).trans
        (h.records c' hc' x List.mem_cons_self).symm
    · intro ev hev
      exact h.published ev (List.mem_append_right _ hev)

end OnlyFor

/-! ## The writes of one loop -/

/-- A write is for the case of the errand. -/
theorem write_onlyFor {os : List Obs} {w' : World} {p : Errand} (hw : Writes S i g os w' p) :
    Framed g.phase.case g.cur w' ∧ ∀ ev, .published ev ∈ os → ev.correlationId = g.phase.case := by
  cases hw with
  | edit _ hframe => exact ⟨hframe, fun _ h => absurd h List.not_mem_nil⟩
  | claim _ hframe => exact ⟨hframe, fun _ h => absurd h List.not_mem_nil⟩
  | note _ ho =>
    refine ⟨fun _ _ => rfl, ?_⟩
    intro ev hev
    rw [List.mem_singleton] at hev
    subst hev
    exact absurd ho (by simp [Obs.noted])
  | publish _ hcase =>
    refine ⟨fun _ _ => rfl, ?_⟩
    intro ev hev
    obtain rfl := Obs.published.inj (List.mem_singleton.mp hev)
    exact hcase
  | turn _ _ _ hstore =>
    exact ⟨fun _ _ => by rw [hstore], fun _ h => absurd h List.not_mem_nil⟩

/-- The loop takes up no other case before its next suspension. -/
def Settles (i : LoopId) (g : Watching) : Prop :=
  i ≠ .reaper ∨ g.phase.stage ≠ .free ∨ ∃ k, .claimed k ∈ g.obs

theorem settles_write {os : List Obs} {w' : World} {p : Errand} (h : Settles i g)
    (hw : Writes S i g os w' p) :
    p.case = g.phase.case ∧ Settles i ⟨p, g.base, g.obs ++ os, w'⟩ := by
  have hclaimed : (∃ k, .claimed k ∈ g.obs) → Settles i ⟨p, g.base, g.obs ++ os, w'⟩ :=
    fun ⟨k, hk⟩ => .inr (.inr ⟨k, List.mem_append_left _ hk⟩)
  cases hw with
  | edit hfree =>
    refine ⟨rfl, ?_⟩
    rcases h with h | h | h
    · exact .inl h
    · exact absurd hfree h
    · exact hclaimed h
  | claim => exact ⟨rfl, .inr (.inl (by simp))⟩
  | note hstage =>
    refine ⟨rfl, ?_⟩
    rcases h with h | h | h
    · exact .inl h
    · rcases hstage with hfree | ⟨-, rfl⟩
      · exact absurd hfree h
      · exact .inr (.inr ⟨g.phase.case, by simp⟩)
    · exact hclaimed h
  | publish hfree =>
    refine ⟨rfl, ?_⟩
    rcases h with h | h | h
    · exact .inl h
    · exact absurd hfree h
    · exact hclaimed h
  | turn hi hfree hobs =>
    rcases h with h | h | ⟨k, hk⟩
    · exact absurd hi h
    · exact absurd hfree h
    · exact absurd (hobs _ hk) (by simp [Obs.weighty])

/-- A stretch in which no other case is taken up. -/
theorem chain_onlyFor {ws : List (List Obs × World)} (h : Chained (errands S) i g ws p')
    (hs : Settles i g) : p'.case = g.phase.case ∧ OnlyFor g.phase.case g.cur ws := by
  induction h with
  | nil => exact ⟨rfl, .nil _ _⟩
  | @cons g os w' p p' ws hw _ ih =>
    obtain ⟨hcase, hs'⟩ := settles_write hs hw
    obtain ⟨hframe, hpub⟩ := write_onlyFor hw
    obtain ⟨hlast, honly⟩ := ih hs'
    have honly' : OnlyFor g.phase.case w' ws := hcase ▸ honly
    exact ⟨hlast.trans hcase, .cons hframe hpub honly'⟩

/-- Any stretch: first the case it began with, then the one it ends with. -/
theorem chain_turns {ws : List (List Obs × World)} (h : Chained (errands S) i g ws p') :
    ∃ ws₁ ws₂, ws = ws₁ ++ ws₂ ∧ OnlyFor g.phase.case g.cur ws₁ ∧
      OnlyFor p'.case (lastState g.cur ws₁) ws₂ := by
  induction h with
  | nil => exact ⟨[], [], rfl, .nil _ _, .nil _ _⟩
  | @cons g os w' p p' ws hw hrest ih =>
    obtain ⟨hframe, hpub⟩ := write_onlyFor hw
    by_cases hcase : p.case = g.phase.case
    · obtain ⟨ws₁, ws₂, rfl, h₁, h₂⟩ := ih
      have h₁' : OnlyFor g.phase.case w' ws₁ := hcase ▸ h₁
      exact ⟨(os, w') :: ws₁, ws₂, rfl, .cons hframe hpub h₁', h₂⟩
    · -- the turn itself writes nothing, so it may be counted to either case
      cases hw with
      | edit | claim | note | publish => exact absurd rfl hcase
      | turn _ _ _ hstore k =>
        obtain ⟨hlast, honly⟩ := chain_onlyFor hrest (.inr (.inl (by simp)))
        have honly' : OnlyFor p'.case w' ws := hlast ▸ honly
        refine ⟨[], ([], w') :: ws, rfl, .nil _ _, .cons ?_ ?_ honly'⟩
        · intro c _
          rw [hstore]
          rfl
        · exact fun _ h => absurd h List.not_mem_nil

/-! ## Every step -/

/-- What a handler whose message is for `d` waits for is about `d`. -/
theorem asks_message {tr : Trace} {s : State} {gh : LoopId → Errand}
    (hw : Watched (protocol S) (errands S) s gh) (hrep : Reported S tr gh) {m : Message} {d : UUID}
    (hm : handling i tr = some m) (hd : m.For S d) (hcase : (gh i).case = d) {x : Request}
    (hx : s.waiting i = some x) : x.About d := by
  rcases asks_about hw hrep hx with h | ⟨-, e, id, a, hhand, rfl, ha⟩
  · exact hcase ▸ h
  · obtain rfl : m = .taskResult e := Option.some.inj (hm.symm.trans hhand)
    show a.original.correlationId = d
    rw [ha]
    exact hd.1

/-- **Cases are isolated.** A step of a handler whose message is for `d` touches and publishes
    for `d` alone. A step of the reaper is for the case of the request it was suspended on and then
    for the case of the request it is suspended on afterwards. -/
theorem cases_are_isolated (hinj : TaskIdsDiffer S) {now : Time} {nextId : UUID} {tr os : Trace}
    {s s' : State} {ch : Choice LoopId Message Request Reply Nat}
    (hrun : (service S).Run EventLoop.anyStep (start now nextId) tr s)
    (hstep : (service S).step ch s = some (os, s')) :
    (∀ i m d, (service S).mover ch = some i → handling i (tr ++ os) = some m → m.For S d →
      (∀ c, c ≠ d → s'.world.store.get c = s.world.store.get c) ∧
      (∀ ev, (i, .published ev) ∈ os → ev.correlationId = d) ∧
      OnlyFor d s.world ((service S).writes ch s) ∧
      ∀ x, s'.waiting i = some x → x.About d) ∧
    ((service S).mover ch = some .reaper → ∃ d d' ws ws',
      (service S).writes ch s = ws ++ ws' ∧ OnlyFor d s.world ws ∧
      OnlyFor d' (lastState s.world ws) ws' ∧
      (∀ x, s.waiting .reaper = some x → x.About d) ∧
      ∀ x, s'.waiting .reaper = some x → x.About d') := by
  rcases step_errand hrun hstep with ⟨j, g, gh, hmover, h⟩ | ⟨hmover, -⟩
  swap
  · rw [hmover]
    exact ⟨fun i m d hi => absurd hi (by simp), fun hi => absurd hi (by simp)⟩
  constructor
  · intro i m d hi hm hd
    obtain rfl : j = i := Option.some.inj (hmover.symm.trans hi)
    have hj : j ≠ .reaper := by
      intro hreaper
      have hloop := h.reported.own j m hm
      rw [hreaper] at hloop
      cases m with
      | sweep => exact hd
      | ticket | taskResult | billingResult | riskResult => exact absurd hloop (by simp [Message.loop])
    have hcase := h.minds hinj hj m d hm hd
    obtain ⟨hlast, honly⟩ := chain_onlyFor h.chain (.inl hj)
    rw [hcase, h.cur] at honly
    refine ⟨?_, ?_, honly, ?_⟩
    · intro c hc
      rw [h.world]
      exact honly.last hc
    · intro ev hev
      rw [h.shows] at hev
      obtain ⟨o, ho, heq⟩ := List.mem_map.mp hev
      obtain rfl : o = .published ev := congrArg Prod.snd heq
      rcases List.mem_append.mp ho with hobs | hshown
      · obtain ⟨m', hm'⟩ := h.obs _ hobs
        exact absurd hm' (by simp)
      · exact honly.published ev hshown
    · intro x hx
      exact asks_message h.watched h.reported hm hd (hlast.trans hcase) hx
  · intro hi
    obtain rfl : j = .reaper := Option.some.inj (hmover.symm.trans hi)
    obtain ⟨ws, ws', hws, hfirst, hsecond⟩ := chain_turns h.chain
    rw [h.cur] at hfirst hsecond
    refine ⟨g.phase.case, (gh .reaper).case, ws, ws', hws, hfirst, hsecond, ?_, ?_⟩
    · intro x hx
      exact h.asked x hx (by decide)
    · intro x hx
      rcases asks_about h.watched h.reported hx with habout | ⟨hresult, -⟩
      · exact habout
      · exact absurd hresult (by decide)

/-! ## Two cases -/

/-- A number for each review of each case; those of the case `1` are its task ids. -/
def taskNumber (k review : Nat) : Nat :=
  if k = 1 then
    if review = 0 then 0x3ec82ca298bd5a5aae8c4649557dec57
    else 0x672d0fd571965e84a6474a4db0223b32
  else 2 ^ 128 + 2 * k + review

theorem taskNumber_inj {k k' review review' : Nat} (h₁ : review < 2) (h₂ : review' < 2)
    (h : taskNumber k review = taskNumber k' review') : k = k' ∧ review = review' := by
  unfold taskNumber at h
  repeat' split at h
  all_goals omega

/-- The sample agent, with different task ids for every case. -/
def distinctSettings : Settings :=
  { sampleSettings with
    uuid5 := fun ns name => taskNumber ns (if name = billingCapabilityId then 0 else 1) }

theorem distinctSettings_differ : TaskIdsDiffer distinctSettings := by
  intro k k' a ha a' ha' h
  have hlt : ∀ name : String, (if name = billingCapabilityId then 0 else 1) < 2 := by
    intro name
    split
    · decide
    · decide
  obtain ⟨hk, hreview⟩ := taskNumber_inj (hlt a) (hlt a') h
  refine ⟨hk, ?_⟩
  simp only [List.mem_cons, List.not_mem_nil, or_false] at ha ha'
  rcases ha with rfl | rfl <;> rcases ha' with rfl | rfl
  · rfl
  · exact absurd hreview (by decide)
  · exact absurd hreview (by decide)
  · rfl

/-- The case `1` is delegated; then a ticket of the case `2` comes in and is classified. -/
def twoCasesSchedule : Schedule :=
  delegationSchedule ++
    [.deliver (.ticket { eventId := 101, correlationId := 2
                         payload := some (sampleTicket "refund") })]

theorem cases_are_isolated_high_risk :
    ∃ tr s os s' c, (service distinctSettings).Run EventLoop.anyStep (start 0 1000) tr s ∧
      (service distinctSettings).step (.deliver (riskMessage "high")) s = some (os, s') ∧
      s.world.store.get 2 = some c ∧ s'.world.store.get 2 = some c ∧
      s.world.status 1 = some .waitingForPeerReviews ∧ s'.world.status 1 = some .decided := by
  have hexec : (((service distinctSettings).exec twoCasesSchedule (start 0 1000)).map fun out =>
      ((out.2.world.store.get 2).isSome, out.2.world.status 1,
        ((service distinctSettings).step (.deliver (riskMessage "high")) out.2).map
          (·.2.world.status 1))) =
      some (true, some .waitingForPeerReviews, some (some .decided)) := by decide +kernel
  obtain ⟨⟨tr, s⟩, hout, heq⟩ := Option.map_eq_some_iff.mp hexec
  simp only [Prod.mk.injEq] at heq
  obtain ⟨hsome, hbefore, hlater⟩ := heq
  obtain ⟨c, hc⟩ := Option.isSome_iff_exists.mp hsome
  obtain ⟨⟨os, s'⟩, hstep, hafter⟩ := Option.map_eq_some_iff.mp hlater
  have hrun := EventLoop.Run.of_exec (G := EventLoop.anyStep) hout fun _ _ _ => trivial
  have hhand : handling .risk (tr ++ os) = some (riskMessage "high") := by
    rcases step_errand hrun hstep with ⟨j, g, gh, hmover, h⟩ | ⟨hmover, -⟩
    · obtain rfl : LoopId.risk = j := Option.some.inj hmover
      exact h.given _ rfl
    · exact absurd hmover (by simp [EventLoop.mover])
  obtain ⟨hother, -⟩ := (cases_are_isolated distinctSettings_differ hrun hstep).1 .risk
    (riskMessage "high") 1 rfl hhand rfl
  exact ⟨tr, s, os, s', c, hrun, hstep, hc, (hother 2 (by decide)).trans hc, hbefore, hafter⟩

end RefundOps.Resolution
