import RefundOps.Resolution.Watch.Intake

/-!
# The errands along a run

What the properties of single writes are read off: `run_errands` gives every loop of a reachable
state its errand, and `step_errand` follows the one that moves through the writes of the next step.
Two facts tie the errands to what can be observed: what an errand has shown is in the trace
(`Told`), and a loop that handles a message for one case has that case for its errand (`Reported`).
-/

set_option autoImplicit false

namespace RefundOps.Resolution

variable {S : Settings}

/-! ## Messages -/

/-- The message is for the case `d`. A task result carries one of its task ids as well. -/
def Message.For (S : Settings) (d : UUID) : Message → Prop
  | .ticket e => e.correlationId = d
  | .billingResult e => e.correlationId = d
  | .riskResult e => e.correlationId = d
  | .taskResult e => e.correlationId = d ∧ ∃ result, e.payload = some result ∧
      (result.taskId = billingTaskOf S d ∨ result.taskId = riskTaskOf S d)
  | .sweep => False

/-- `uuid5(correlation_id, capability)` is injective, for the two capabilities that are asked for
    reviews. -/
def TaskIdsDiffer (S : Settings) : Prop :=
  ∀ k k', ∀ a ∈ [billingCapabilityId, riskCapabilityId],
    ∀ a' ∈ [billingCapabilityId, riskCapabilityId], S.uuid5 k a = S.uuid5 k' a' → k = k' ∧ a = a'

/-- A task id leads to its own case. -/
theorem registered_case (hinj : TaskIdsDiffer S) {w : World} (hok : ViewOk S w.view) {t j d : UUID}
    (hj : w.store.byTaskId.get? t = some j) (ht : t = billingTaskOf S d ∨ t = riskTaskOf S d) :
    j = d := by
  obtain ⟨x, hx, hids⟩ := hok.task t j hj
  have hcase := hok.case j x hx
  have hdel := hcase.delegated_of_task
    (hids.imp (fun h => Option.isSome_of_mem h) (fun h => Option.isSome_of_mem h))
  have htj : t = billingTaskOf S j ∨ t = riskTaskOf S j := by
    rcases hids with h | h
    · left
      rw [hdel.billingTaskId, hcase.correlationId] at h
      exact (Option.some.inj h).symm
    · right
      rw [hdel.riskTaskId, hcase.correlationId] at h
      exact (Option.some.inj h).symm
  rcases htj with h | h <;> rcases ht with h' | h' <;>
    exact (hinj j d _ (by simp) _ (by simp) (h.symm.trans h')).1

/-- The errand of a message for `d` is for `d`. -/
theorem errandOf_case (hinj : TaskIdsDiffer S) {w : World} (hok : ViewOk S w.view) {m : Message}
    {d : UUID} (hm : m.For S d) : (errandOf m w).case = d := by
  cases m with
  | ticket e => exact hm
  | billingResult e => exact hm
  | riskResult e => exact hm
  | sweep => exact hm.elim
  | taskResult e =>
    obtain ⟨hcorr, result, hpay, ht⟩ := hm
    unfold errandOf
    simp only [hpay]
    cases hj : w.store.byTaskId.get? result.taskId with
    | none => exact hcorr
    | some j => exact registered_case hinj hok hj ht

/-! ## What a loop handles -/

/-- The message an entry of the trace says loop `i` was given. -/
def receivedBy (i : LoopId) : LoopId × Obs → Option Message
  | (j, .received m) => if j = i then some m else none
  | _ => none

/-- The message that loop `i` was given last. -/
def handling (i : LoopId) (tr : Trace) : Option Message :=
  (tr.filterMap (receivedBy i)).getLast?

theorem receivedBy_ne {i j : LoopId} (h : j ≠ i) (o : Obs) : receivedBy i (j, o) = none := by
  cases o <;> simp [receivedBy, h]

theorem handling_other {i j : LoopId} (h : j ≠ i) (tr : Trace) (os : List Obs) :
    handling i (tr ++ os.map (j, ·)) = handling i tr := by
  have hnone : (os.map fun o => (j, o)).filterMap (receivedBy i) = [] := by
    rw [List.filterMap_eq_nil_iff]
    intro x hx
    obtain ⟨o, -, rfl⟩ := List.mem_map.mp hx
    exact receivedBy_ne h o
  unfold handling
  rw [List.filterMap_append, hnone, List.append_nil]

/-- Notes and publications are not messages. -/
theorem handling_silent {i : LoopId} {os : List Obs} (h : ∀ m, .received m ∉ os) (tr : Trace) :
    handling i (tr ++ os.map (i, ·)) = handling i tr := by
  have hnone : (os.map fun o => (i, o)).filterMap (receivedBy i) = [] := by
    rw [List.filterMap_eq_nil_iff]
    intro x hx
    obtain ⟨o, ho, rfl⟩ := List.mem_map.mp hx
    cases o with
    | received m => exact absurd ho (h m)
    | published | publishFailed | attached | slotFailed | claimed | decisionTaken
    | delegationFailed => rfl
  unfold handling
  rw [List.filterMap_append, hnone, List.append_nil]

theorem handling_deliver (m : Message) (tr : Trace) :
    handling m.loop (tr ++ [(m.loop, .received m)]) = some m := by
  simp [handling, receivedBy]

/-! ## Along the writes of a stretch -/

/-- What the errand has shown is in the trace. -/
def Told (tr : Trace) (i : LoopId) (g : Watching) : Prop :=
  ∀ o ∈ g.phase.shown, (i, o) ∈ tr ++ g.obs.map (i, ·)

theorem told_tell {tr : Trace} {i : LoopId} {g : Watching} (h : Told tr i g) (o : Obs) (w : World) :
    Told tr i ⟨g.phase.tell o, g.base, g.obs ++ [o], w⟩ := by
  intro o' ho'
  rw [List.map_append, ← List.append_assoc]
  rcases List.mem_append.mp ho' with hold | hnew
  · exact List.mem_append_left _ (h o' hold)
  · rw [List.mem_singleton] at hnew
    subst hnew
    simp

theorem told_write {tr : Trace} {i : LoopId} (g : Watching) (os : List Obs) (w' : World)
    (p : Errand) (h : Told tr i g) (hw : (errands S).Write i g os w' p) :
    Told tr i ⟨p, g.base, g.obs ++ os, w'⟩ := by
  cases hw with
  | edit => simpa [Told] using h
  | claim => simpa [Told] using h
  | note => exact told_tell h _ _
  | publish => exact told_tell h _ _
  | turn =>
    intro o ho
    exact absurd ho List.not_mem_nil

/-- The errand of a loop other than the reaper does not change its case. -/
theorem case_write {i : LoopId} {k : UUID} (hi : i ≠ .reaper) (g : Watching) (os : List Obs)
    (w' : World) (p : Errand) (h : g.phase.case = k) (hw : (errands S).Write i g os w' p) :
    p.case = k := by
  cases hw with
  | edit | claim | note | publish => exact h
  | turn hr => exact absurd hr hi

/-- No write shows a message. -/
theorem received_write {i : LoopId} {g : Watching} {os : List Obs} {w' : World} {p : Errand}
    (hw : (errands S).Write i g os w' p) (m : Message) : .received m ∉ os := by
  cases hw with
  | edit | claim | turn => exact List.not_mem_nil
  | note _ ho =>
    intro hm
    rw [List.mem_singleton] at hm
    subst hm
    exact absurd ho (by simp [Obs.noted])
  | publish => simp

/-- The messages an errand has shown stay the same, until the reaper takes up another case. -/
theorem heard_write {i : LoopId} {m : Message} {A : Prop} (g : Watching) (os : List Obs)
    (w' : World) (p : Errand) (h : .received m ∈ g.phase.shown → A)
    (hw : (errands S).Write i g os w' p) : .received m ∈ p.shown → A := by
  have hnone := received_write hw m
  cases hw with
  | edit | claim => exact h
  | turn => exact fun hm => absurd hm List.not_mem_nil
  | note | publish =>
    intro hm
    rcases List.mem_append.mp hm with hold | hnew
    · exact h hold
    · exact absurd hnew hnone

theorem received_chain {i : LoopId} {g : Watching} {ws : List (List Obs × World)} {p' : Errand}
    (h : Chained (errands S) i g ws p') (m : Message) : .received m ∉ shownBy ws := by
  induction h with
  | nil => exact List.not_mem_nil
  | cons hw _ ih =>
    intro hm
    rcases List.mem_append.mp hm with h | h
    · exact received_write hw m h
    · exact ih h

/-! ## Along a run -/

/-- The errands of the loops are what the trace says. -/
structure Reported (S : Settings) (tr : Trace) (gh : LoopId → Errand) : Prop where
  told : ∀ i, ∀ o ∈ (gh i).shown, (i, o) ∈ tr
  heard : ∀ i m, .received m ∈ (gh i).shown → handling i tr = some m
  own : ∀ i m, handling i tr = some m → m.loop = i
  minds : TaskIdsDiffer S → ∀ i m d, i ≠ .reaper → handling i tr = some m → m.For S d →
    (gh i).case = d

/-- The stretch a step opens, as far as the trace is concerned. -/
theorem opening_told {tr : Trace} {gh : LoopId → Errand} (h : Reported S tr gh) {w : World}
    {ch : Choice LoopId Message Request Reply Nat} {i : LoopId} {g : Watching}
    (hopen : (service S).opening errandOf gh w ch = some (i, g)) : Told tr i g := by
  cases ch with
  | deliver m =>
    obtain ⟨rfl, rfl⟩ := Prod.mk.inj (Option.some.inj hopen)
    intro o ho
    have ho' : o = .received m := by simpa [errandOf] using ho
    subst ho'
    simp [service]
  | answer j y =>
    obtain ⟨rfl, rfl⟩ := Prod.mk.inj (Option.some.inj hopen)
    simpa [Told] using h.told j
  | env t => exact absurd hopen (by simp [EventLoop.opening])

/-- The message of the stretch a step opens. -/
theorem opening_heard {tr : Trace} {gh : LoopId → Errand} (h : Reported S tr gh) {w : World}
    {ch : Choice LoopId Message Request Reply Nat} {i : LoopId} {g : Watching}
    (hopen : (service S).opening errandOf gh w ch = some (i, g)) {m : Message}
    (hm : .received m ∈ g.phase.shown) : handling i (tr ++ g.obs.map (i, ·)) = some m := by
  cases ch with
  | deliver m' =>
    obtain ⟨rfl, rfl⟩ := Prod.mk.inj (Option.some.inj hopen)
    obtain rfl : m = m' := by simpa [errandOf] using hm
    exact handling_deliver m tr
  | answer j y =>
    obtain ⟨rfl, rfl⟩ := Prod.mk.inj (Option.some.inj hopen)
    simpa using h.heard j m hm
  | env t => exact absurd hopen (by simp [EventLoop.opening])

theorem opening_own {tr : Trace} {gh : LoopId → Errand} (h : Reported S tr gh) {w : World}
    {ch : Choice LoopId Message Request Reply Nat} {i : LoopId} {g : Watching}
    (hopen : (service S).opening errandOf gh w ch = some (i, g)) {m : Message}
    (hm : handling i (tr ++ g.obs.map (i, ·)) = some m) : m.loop = i := by
  cases ch with
  | deliver m' =>
    obtain ⟨rfl, rfl⟩ := Prod.mk.inj (Option.some.inj hopen)
    obtain rfl := Option.some.inj ((handling_deliver m' tr).symm.trans hm)
    rfl
  | answer j y =>
    obtain ⟨rfl, rfl⟩ := Prod.mk.inj (Option.some.inj hopen)
    exact h.own j m (by simpa using hm)
  | env t => exact absurd hopen (by simp [EventLoop.opening])

/-- The case of the stretch a step opens. -/
theorem opening_minds (hinj : TaskIdsDiffer S) {tr : Trace} {gh : LoopId → Errand}
    (h : Reported S tr gh) {w : World} (hok : ViewOk S w.view)
    {ch : Choice LoopId Message Request Reply Nat} {i : LoopId} {g : Watching}
    (hopen : (service S).opening errandOf gh w ch = some (i, g)) (hi : i ≠ .reaper) {m : Message}
    {d : UUID} (hm : handling i (tr ++ g.obs.map (i, ·)) = some m) (hd : m.For S d) :
    g.phase.case = d := by
  cases ch with
  | deliver m' =>
    obtain ⟨rfl, rfl⟩ := Prod.mk.inj (Option.some.inj hopen)
    have hm' : some m' = some m := (handling_deliver m' tr).symm.trans hm
    obtain rfl := Option.some.inj hm'
    exact errandOf_case hinj hok hd
  | answer j y =>
    obtain ⟨rfl, rfl⟩ := Prod.mk.inj (Option.some.inj hopen)
    exact h.minds hinj j m d hi (by simpa using hm) hd
  | env t => exact absurd hopen (by simp [EventLoop.opening])

theorem reported_chain (tr : Trace) (gh : LoopId → Errand) (w : World)
    (ch : Choice LoopId Message Request Reply Nat) (i : LoopId) (g : Watching)
    (ws : List (List Obs × World)) (p' : Errand) (h : Reported S tr gh) (hok : ViewOk S w.view)
    (hopen : (service S).opening errandOf gh w ch = some (i, g))
    (hch : Chained (errands S) i g ws p') :
    Reported S (tr ++ (g.obs ++ shownBy ws).map (i, ·)) (Function.update gh i p') where
  told := by
    intro j o ho
    by_cases hj : j = i
    · subst hj
      rw [Function.update_self] at ho
      exact (hch.keeps (J := Told tr j) told_write (opening_told h hopen)) o ho
    · rw [Function.update_of_ne hj] at ho
      exact List.mem_append_left _ (h.told j o ho)
  heard := by
    intro j m hm
    by_cases hj : j = i
    · subst hj
      rw [Function.update_self] at hm
      rw [List.map_append, ← List.append_assoc, handling_silent (received_chain hch)]
      exact hch.keeps (J := fun g' => .received m ∈ g'.phase.shown → _) heard_write
        (opening_heard h hopen) hm
    · rw [Function.update_of_ne hj] at hm
      rw [handling_other (fun h => hj h.symm)]
      exact h.heard j m hm
  own := by
    intro j m hm
    by_cases hj : j = i
    · subst hj
      rw [List.map_append, ← List.append_assoc, handling_silent (received_chain hch)] at hm
      exact opening_own h hopen hm
    · rw [handling_other (fun h => hj h.symm)] at hm
      exact h.own j m hm
  minds := by
    intro hinj j m d hj hm hd
    by_cases hji : j = i
    · subst hji
      rw [Function.update_self]
      rw [List.map_append, ← List.append_assoc, handling_silent (received_chain hch)] at hm
      exact hch.keeps (J := fun g' => g'.phase.case = d) (case_write hj)
        (opening_minds hinj h hok hopen hj hm hd)
    · rw [Function.update_of_ne hji]
      rw [handling_other (fun h => hji h.symm)] at hm
      exact h.minds hinj j m d hj hm hd

/-- The errand of a loop that has been given nothing. -/
def idle : Errand := ⟨0, [], .free⟩

/-- **Every loop of a reachable state has an errand.** -/
theorem run_errands {G : (LoopId → Option Request) → LoopId × Obs → Prop} {now : Time}
    {nextId : UUID} {tr : Trace} {s : State} (hrun : (service S).Run G (start now nextId) tr s) :
    ∃ ph gh, Phases S s ph ∧ Watched (protocol S) (errands S) s gh ∧ Reported S tr gh := by
  have hidle : Watched (protocol S) (errands S) (start now nextId) fun _ => idle := fun _ => rfl
  refine Watched.invariant (service_implements S) (service_watches S) reported_chain
    (Coupled.init (fun _ => rfl) (start_viewOk now nextId)) hidle ⟨?_, ?_, ?_, ?_⟩ hrun
  · intro i o ho
    exact absurd ho List.not_mem_nil
  · intro i m hm
    exact absurd hm List.not_mem_nil
  · intro i m hm
    exact absurd hm (by simp [handling])
  · intro _ i m d _ hm
    exact absurd hm (by simp [handling])

/-- The errand of a loop between two stretches has no claim to make or to note, and what the loop
    waits for is its errand's. -/
theorem watched_loop {s : State} {gh : LoopId → Errand}
    (h : Watched (protocol S) (errands S) s gh) (i : LoopId) :
    (gh i).stage = .free ∧ ∀ x, s.waiting i = some x → (gh i).Asks x := by
  have hi := h i
  unfold Config.waiting
  cases hl : s.loops i with
  | none =>
    rw [hl] at hi
    exact ⟨hi, fun x hx => absurd hx (by simp)⟩
  | some pk =>
    rw [hl] at hi
    refine ⟨hi.1.1, ?_⟩
    intro x hx
    obtain rfl : pk.req = x := Option.some.inj hx
    exact hi.1

/-- What a suspended loop waits for is about its case, or it is the audit of the task result it
    handles. -/
theorem asks_about {tr : Trace} {s : State} {gh : LoopId → Errand}
    (hw : Watched (protocol S) (errands S) s gh) (hrep : Reported S tr gh) {i : LoopId}
    {x : Request} (hx : s.waiting i = some x) :
    x.About (gh i).case ∨ i = .result ∧ ∃ e id a, handling i tr = some (.taskResult e) ∧
      x = .sendAudit id a ∧ a.original = e.ref := by
  rcases ((watched_loop hw i).2 x hx).2 with h | ⟨e, id, a, hmem, hxa, ha⟩
  · exact .inl h
  · have hhand := hrep.heard i _ hmem
    exact .inr ⟨(hrep.own i _ hhand).symm, e, id, a, hhand, hxa, ha⟩

/-- A step of loop `i`, from the stretch `g` it opens to the errands `gh` it leaves. -/
structure StepErrand (S : Settings) (tr os : Trace) (s s' : State)
    (ch : Choice LoopId Message Request Reply Nat) (i : LoopId) (g : Watching)
    (gh : LoopId → Errand) : Prop where
  base : g.base = s.world
  cur : g.cur = s.world
  obs : ∀ o ∈ g.obs, ∃ m, o = .received m
  told : Told tr i g
  given : ∀ m, ch = .deliver m → handling i (tr ++ os) = some m
  minds : TaskIdsDiffer S → i ≠ .reaper → ∀ m d, handling i (tr ++ os) = some m → m.For S d →
    g.phase.case = d
  asked : ∀ x, s.waiting i = some x → i ≠ .result → x.About g.phase.case
  chain : Chained (errands S) i g ((service S).writes ch s) (gh i)
  shows : os = (g.obs ++ shownBy ((service S).writes ch s)).map (i, ·)
  world : s'.world = lastState s.world ((service S).writes ch s)
  watched : Watched (protocol S) (errands S) s' gh
  reported : Reported S (tr ++ os) gh

/-- **Every step runs an errand**, write by write, unless only the clock moves. -/
theorem step_errand {G : (LoopId → Option Request) → LoopId × Obs → Prop} {now : Time}
    {nextId : UUID} {tr os : Trace} {s s' : State} {ch : Choice LoopId Message Request Reply Nat}
    (hrun : (service S).Run G (start now nextId) tr s)
    (hstep : (service S).step ch s = some (os, s')) :
    (∃ i g gh, (service S).mover ch = some i ∧ StepErrand S tr os s s' ch i g gh) ∨
      ((service S).mover ch = none ∧ os = [] ∧ (service S).writes ch s = []) := by
  obtain ⟨ph, gh, hph, hwat, hrep⟩ := run_errands hrun
  rcases hwat.step (service_implements S) (service_watches S) hph hstep with
    ⟨i, g, p', hopen, hch, hos, hworld, hwat'⟩ | ⟨hopen, hos, hws, -⟩
  swap
  · refine .inr ⟨?_, hos, hws⟩
    cases ch with
    | deliver m => exact absurd hopen (by simp [EventLoop.opening])
    | answer i y => exact absurd hopen (by simp [EventLoop.opening])
    | env t => rfl
  have hrep' : Reported S (tr ++ os) (Function.update gh i p') :=
    hos ▸ reported_chain tr gh s.world ch i g _ p' hrep hph.inv hopen hch
  have hminds : TaskIdsDiffer S → i ≠ .reaper → ∀ m d, handling i (tr ++ os) = some m →
      m.For S d → g.phase.case = d := by
    intro hinj hi m d hm hd
    rw [hos, List.map_append, ← List.append_assoc, handling_silent (received_chain hch)] at hm
    exact opening_minds hinj hrep hph.inv hopen hi hm hd
  have htold := opening_told hrep hopen
  have hch' : Chained (errands S) i g ((service S).writes ch s) (Function.update gh i p' i) := by
    rw [Function.update_self]
    exact hch
  cases ch with
  | deliver m =>
    obtain ⟨rfl, rfl⟩ := Prod.mk.inj (Option.some.inj hopen)
    refine .inl ⟨_, _, _, rfl,
      ⟨rfl, rfl, ?_, htold, ?_, hminds, ?_, hch', hos, hworld, hwat', hrep'⟩⟩
    · intro o ho
      exact ⟨m, List.mem_singleton.mp ho⟩
    · intro m' hm'
      obtain rfl := Choice.deliver.inj hm'
      rw [hos, List.map_append, ← List.append_assoc, handling_silent (received_chain hch)]
      exact handling_deliver m tr
    · -- a loop that is given a message is idle
      intro x hx
      unfold Config.waiting at hx
      simp only [EventLoop.step] at hstep
      cases hl : s.loops ((service S).target m) with
      | none => rw [hl] at hx; exact absurd hx (by simp)
      | some pk => rw [hl] at hstep; exact absurd hstep (by simp)
  | answer j y =>
    obtain ⟨rfl, rfl⟩ := Prod.mk.inj (Option.some.inj hopen)
    refine .inl ⟨_, _, _, rfl,
      ⟨rfl, rfl, ?_, htold, ?_, hminds, ?_, hch', hos, hworld, hwat', hrep'⟩⟩
    · exact fun o ho => absurd ho List.not_mem_nil
    · exact fun m hm => absurd hm (by simp)
    · intro x hx hj
      rcases asks_about hwat hrep hx with h | ⟨h, -⟩
      · exact h
      · exact absurd h hj
  | env t => exact absurd hopen (by simp [EventLoop.opening])

end RefundOps.Resolution
