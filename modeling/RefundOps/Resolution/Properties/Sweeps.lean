import RefundOps.Lib.Growth
import RefundOps.Resolution.Properties.EscalationReason
import RefundOps.Resolution.Watch.Intake

/-!
# What a sweep does

With a broker that takes what it is sent, a sweep of the reaper is exact: each case that is timed out
when it starts is decided once, on the record it has then, and no other record is written to. When the
sweep is over nothing is timed out any more. The other loops may be anywhere meanwhile.

A case of the sweep is decided by `returns_applyDecision`; that everything about the other cases stays
as it is, is a growth (`apart`), and `returns_sweep` puts the two together case by case.
-/

set_option autoImplicit false

namespace RefundOps.Resolution

/-! ## Leaving the other cases alone -/

/-- Every record has the ids it is filed under. -/
def OwnIds (st : InMemoryCaseStateStore) : Prop :=
  ∀ j c, st.get j = some c → c.caseId = j ∧ c.correlationId = j

/-- The same but for the case `k`. -/
structure Apart (k : UUID) (w w' : World) : Prop where
  now : w'.now = w.now
  case : ∀ j, j ≠ k → w'.store.get j = w.store.get j
  index : ∀ j, j ≠ k → w'.store.byCorrelation.get? j = w.store.byCorrelation.get? j

theorem Apart.refl (k : UUID) (w : World) : Apart k w w := ⟨rfl, fun _ _ => rfl, fun _ _ => rfl⟩

theorem Apart.trans {k : UUID} {w w' w'' : World} (h : Apart k w w') (h' : Apart k w' w'') :
    Apart k w w'' where
  now := h'.now.trans h.now
  case := fun j hj => (h'.case j hj).trans (h.case j hj)
  index := fun j hj => (h'.index j hj).trans (h.index j hj)

/-- Nothing is written to the other cases, and nothing decided for them. -/
def apart (k : UUID) : Growth World Obs Request where
  Inv w := OwnIds w.store
  Le := Apart k
  Ask _ _ := True
  Show _ o := ∀ j, j ≠ k → o.decision j = none
  refl := Apart.refl k
  trans := Apart.trans
  ask_le := fun _ _ => trivial
  show_le := fun h _ => h

/-- The program is about the case `k` alone. -/
abbrev Spares {α : Type} (k : UUID) (m : M α) : Prop :=
  Coro.Keeps (apart k) (fun _ => True) (fun _ _ => True) m

section Spares

variable {α β : Type} {k : UUID} {c : ResolutionCase}

theorem spares_lasting : Coro.Lasting (apart k) (fun _ => True) := fun _ _ => trivial

theorem Spares.bind {p : M α} {f : α → M β} (hp : Spares k p) (hf : ∀ a, Spares k (f a)) :
    Spares k (p >>= f) :=
  Coro.Keeps.bind spares_lasting hp fun a => (hf a).weaken (fun _ _ => trivial) fun _ _ h => h

theorem spares_datetimeNow : Spares k datetimeNow := fun _ _ _ => trivial

theorem spares_uuid4 : Spares k uuid4 :=
  fun _ hw _ => ⟨hw, ⟨rfl, fun _ _ => rfl, fun _ _ => rfl⟩, by simp, trivial⟩

theorem spares_request (x : Request) : Spares k (Coro.request x) :=
  Coro.keeps_request spares_lasting (fun _ _ _ => trivial) fun _ _ _ => trivial

theorem spares_observe {o : Obs} (h : ∀ j, j ≠ k → o.decision j = none) :
    Spares k (Coro.observe o) :=
  Coro.keeps_observe (fun _ _ => trivial) fun _ _ _ => h

/-- A method that writes to the one record, and not to its ids. -/
theorem spares_withStore {f : InMemoryCaseStateStore → α × InMemoryCaseStateStore}
    (hf : ∀ st, OwnIds st → OwnIds (f st).2 ∧ (∀ j, j ≠ k → (f st).2.get j = st.get j) ∧
      (f st).2.byCorrelation = st.byCorrelation) : Spares k (withStore f) := by
  intro w hw _
  obtain ⟨hown, hcase, hindex⟩ := hf w.store hw
  exact ⟨hown, ⟨rfl, hcase, fun j _ => by rw [hindex]⟩, by simp, trivial⟩

theorem ownIds_modify {st : InMemoryCaseStateStore} (h : OwnIds st) (i : UUID)
    {f : ResolutionCase → ResolutionCase}
    (hf : ∀ r, (f r).caseId = r.caseId ∧ (f r).correlationId = r.correlationId) :
    OwnIds (st.modify i f) := by
  intro j r hr
  by_cases hj : j = i
  · subst hj
    cases hget : st.get j with
    | none =>
      have hget' : st.cases.get? j = none := hget
      unfold InMemoryCaseStateStore.modify at hr
      rw [hget'] at hr
      exact h j r hr
    | some x =>
      rw [InMemoryCaseStateStore.get_modify_self hget] at hr
      obtain rfl := Option.some.inj hr
      rw [(hf x).1, (hf x).2]
      exact h j x hget
  · rw [InMemoryCaseStateStore.get_modify_ne st f hj] at hr
    exact h j r hr

theorem modify_byCorrelation (st : InMemoryCaseStateStore) (i : UUID)
    (f : ResolutionCase → ResolutionCase) : (st.modify i f).byCorrelation = st.byCorrelation := by
  unfold InMemoryCaseStateStore.modify
  split <;> rfl

theorem spares_assign (hc : c.caseId = k) {f : ResolutionCase → ResolutionCase}
    (hf : ∀ r, (f r).caseId = r.caseId ∧ (f r).correlationId = r.correlationId) :
    Spares k (assign c f) := by
  subst hc
  exact spares_withStore fun st hown => ⟨ownIds_modify hown _ hf,
    fun _ hj => InMemoryCaseStateStore.get_modify_ne st f hj, modify_byCorrelation st _ f⟩

/-- The record behind a reference to `k`. -/
theorem spares_deref (hc : c.caseId = k) (hcorr : c.correlationId = k) {f : ResolutionCase → M β}
    (hf : ∀ r, r.caseId = k → r.correlationId = k → Spares k (f r)) :
    Spares k (deref c >>= f) := by
  intro w hw _
  show (f ((w.store.get c.caseId).getD c)).Grows (apart k) _ _ w
  cases hget : w.store.get c.caseId with
  | none => exact hf c hc hcorr w hw trivial
  | some r =>
    obtain ⟨hid, hcorr'⟩ := hw _ r hget
    exact hf r (hid.trans hc) (hcorr'.trans hc) w hw trivial

theorem spares_save (hc : c.caseId = k) (hcorr : c.correlationId = k) : Spares k (save c) := by
  refine spares_deref hc hcorr fun r hid hcorr' => spares_datetimeNow.bind fun now => ?_
  intro w hw _
  rw [updateStore_eq]
  refine Coro.grows_bind.mpr ?_
  show ((w.store.save r none now).elim (throw "CaseSaveConflict") fun st =>
    Coro.write { w with store := st } : M Unit).Grows (apart k) _ _ w
  obtain ⟨v, hsave⟩ : ∃ v, w.store.save r none now = some { w.store with
      cases := w.store.cases.set k { r with version := v, updatedAt := now }
      byCorrelation := w.store.byCorrelation.set k k } := by
    unfold InMemoryCaseStateStore.save
    rw [hid, hcorr']
    cases w.store.cases.get? k with
    | none => exact ⟨_, rfl⟩
    | some e => exact ⟨_, rfl⟩
  rw [hsave]
  refine ⟨fun j x hx => ?_, ⟨rfl, fun j hj => ?_, fun j hj => ?_⟩, by simp, trivial⟩
  · have hx' : (w.store.cases.set k { r with version := v, updatedAt := now }).get? j = some x := hx
    rw [Dict.get?_set] at hx'
    split at hx'
    · rename_i hj
      obtain rfl := Option.some.inj hx'
      exact ⟨hid.trans hj.symm, hcorr'.trans hj.symm⟩
    · exact hw j x hx'
  · exact Dict.get?_set_ne _ _ hj
  · exact Dict.get?_set_ne _ _ hj

theorem spares_publish (payload : OutPayload) (causationId : UUID) :
    Spares k (publish payload k causationId) := by
  refine spares_uuid4.bind fun eventId => (spares_request _).bind fun sent => ?_
  have hshow : ∀ j, j ≠ k → Obs.decision j (.published
      { eventId, correlationId := k, causationId, payload }) = none := by
    intro j hj
    unfold Obs.decision
    dsimp only
    split
    · exact if_neg hj.symm
    · rfl
  cases sent with
  | ok u => exact (spares_observe hshow).bind fun _ _ _ _ => trivial
  | error e => exact (spares_observe fun _ _ => rfl).bind fun _ => Coro.keeps_throw

theorem spares_writeTaskAudit (envelope : EventRef) (outcome : AuditOutcome) (taskId : Option UUID)
    (reason : Option String) (h : outcome.reasonOk reason = true) :
    Spares k (writeTaskAudit envelope outcome taskId reason h) :=
  spares_datetimeNow.bind fun _ => spares_uuid4.bind fun _ => (spares_request _).bind fun _ _ _ _ =>
    trivial

theorem spares_emitDecisionAndDraft (hc : c.caseId = k) (hcorr : c.correlationId = k)
    (d : CustomerResponseDecisionPayload) (causationId : UUID) :
    Spares k (emitDecisionAndDraft c d causationId) := by
  unfold emitDecisionAndDraft
  rw [hcorr]
  refine (spares_publish _ _).bind fun decided =>
    (spares_assign hc (by exact fun _ => ⟨rfl, rfl⟩)).bind fun _ =>
      (spares_writeTaskAudit _ _ _ _ _).bind fun _ => spares_datetimeNow.bind fun draftedAt => ?_
  dsimp only
  split
  · exact (spares_publish _ _).bind fun _ =>
      (spares_assign hc (by exact fun _ => ⟨rfl, rfl⟩)).bind fun _ _ _ _ => trivial
  · exact Coro.keeps_throw

theorem spares_claimDecision (hc : c.caseId = k) : Spares k (claimDecision c) := by
  subst hc
  refine spares_datetimeNow.bind fun now => (spares_withStore fun st hown => ?_).bind fun won => ?_
  · unfold InMemoryCaseStateStore.claimDecision
    split
    · exact ⟨hown, fun _ _ => rfl, rfl⟩
    split
    · exact ⟨hown, fun _ _ => rfl, rfl⟩
    · exact ⟨ownIds_modify hown _ fun _ => ⟨rfl, rfl⟩,
        fun _ hj => InMemoryCaseStateStore.get_modify_ne st _ hj, modify_byCorrelation st _ _⟩
  · cases won with
    | true => exact (spares_observe fun _ _ => rfl).bind fun _ _ _ _ => trivial
    | false => exact fun _ _ _ => trivial

theorem spares_applyDecision (hc : c.caseId = k) (hcorr : c.correlationId = k) (causationId : UUID) :
    Spares k (applyDecision c causationId) := by
  refine (spares_claimDecision hc).bind fun won => ?_
  split
  · refine spares_deref hc hcorr fun r hid hcorr' => spares_datetimeNow.bind fun _ =>
      (spares_observe fun _ _ => rfl).bind fun _ =>
        (spares_emitDecisionAndDraft hid hcorr' _ _).bind fun _ =>
          (spares_assign hid (by exact fun _ => ⟨rfl, rfl⟩)).bind fun _ => spares_save hid hcorr'
  · exact fun _ _ _ => trivial

end Spares

/-! ## One case, and then all of them -/

section Sweep

variable {S : Settings} {answer : ∀ x, Reply x} {w w' : World} {k : UUID} {c x : ResolutionCase}

theorem ViewOk.ownIds (hok : ViewOk S w.view) : OwnIds w.store := by
  intro j r hr
  have hcase := hok.case j r.core (InMemoryCaseStateStore.view_cases_of_get hr)
  exact ⟨hcase.caseId, hcase.correlationId⟩

/-- A record, as it is stored. -/
theorem stored_of_get (hok : ViewOk S w.view) (hc : w.store.get k = some c) : Stored w k c.core := by
  have hview := InMemoryCaseStateStore.view_cases_of_get hc
  have hcase := hok.case k _ hview
  exact ⟨hview, hok.indexed k _ hview, hcase.caseId, hcase.correlationId⟩

theorem Stored.apart {j : UUID} (hs : Stored w j x) (hapart : Apart k w w') (hj : j ≠ k) :
    Stored w' j x := by
  refine ⟨?_, (hapart.index j hj).trans hs.index, hs.caseId, hs.correlationId⟩
  obtain ⟨r, hr, rfl⟩ := hs.get
  exact InMemoryCaseStateStore.view_cases_of_get ((hapart.case j hj).trans hr)

/-- What a sweep over `cs` did. -/
structure Swept (cs : List ResolutionCase) (w : World) (os : List Obs) (w' : World) : Prop where
  now : w'.now = w.now
  decided : ∀ c ∈ cs, shown c.caseId os = [decisionOn c w.now] ∧
    ∃ c', w'.store.get c.caseId = some c' ∧ c'.status = .decided
  others : ∀ j, j ∉ cs.map (·.caseId) → shown j os = [] ∧ w'.store.get j = w.store.get j

/-- An undecided case gets its decision, and nothing else happens. -/
theorem returns_escalateTimedOut (hg : Granted answer) (hown : OwnIds w.store)
    (hs : Stored w c.caseId c.core) (hu : undecided c.status = true) :
    Coro.Returns answer (escalateTimedOut c) w fun _ os w' =>
      Swept [c] w os w' ∧ Apart c.caseId w w' ∧ OwnIds w'.store := by
  have hcorr : c.correlationId = c.caseId := hs.correlationId
  unfold escalateTimedOut
  apply Coro.Returns.bind
  refine returns_deref hs rfl ?_
  intro r hr _
  have hur : undecided r.core.status = true := by
    rw [hr]
    exact hu
  rw [if_pos (show undecided r.status = true from hur)]
  apply Coro.Returns.bind
  refine ⟨w.nextId, [], { w with nextId := w.nextId + 1 }, rfl, ?_⟩
  have hs' : Stored { w with nextId := w.nextId + 1 } c.caseId c.core := hs.of_view rfl
  have happly := (returns_applyDecision hg hs' rfl hu).grows
    (spares_applyDecision rfl hcorr w.nextId _ hown trivial) hown
  refine Coro.Returns.tryCatch (happly.mono ?_)
  intro _ os w' hdone
  obtain ⟨hhandled, hown', hapart, hshow⟩ := hdone
  have hapart' : Apart c.caseId w w' := ⟨hapart.now, hapart.case, hapart.index⟩
  refine ⟨⟨hapart.now, ?_, ?_⟩, hapart', hown'⟩
  · intro c' hc'
    obtain rfl := List.mem_singleton.mp hc'
    obtain ⟨r', hr', hcore⟩ := hhandled.stored.get
    exact ⟨hhandled.decisions, r', hr', congrArg ResolutionCase.status hcore⟩
  · intro j hj
    have hne : j ≠ c.caseId := fun heq => hj (List.mem_singleton.mpr heq)
    exact ⟨List.filterMap_eq_nil_iff.mpr fun o ho => hshow o ho j hne, hapart'.case j hne⟩

/-- **The cases of a sweep**, one after the other. -/
theorem returns_sweep (hg : Granted answer) {cs : List ResolutionCase} (hown : OwnIds w.store)
    (hnodup : (cs.map (·.caseId)).Nodup)
    (hcs : ∀ c ∈ cs, Stored w c.caseId c.core ∧ undecided c.status = true) :
    Coro.Returns answer (cs.forM escalateTimedOut) w fun _ os w' => Swept cs w os w' := by
  induction cs generalizing w with
  | nil => exact .pure ⟨rfl, fun c hc => absurd hc List.not_mem_nil, fun _ _ => ⟨rfl, rfl⟩⟩
  | cons c cs ih =>
    obtain ⟨hs, hu⟩ := hcs c List.mem_cons_self
    obtain ⟨hc, hrest⟩ := List.nodup_cons.mp hnodup
    rw [show (c :: cs).forM escalateTimedOut =
      (escalateTimedOut c >>= fun _ => cs.forM escalateTimedOut) from rfl]
    apply Coro.Returns.bind
    refine (returns_escalateTimedOut hg hown hs hu).mono ?_
    intro _ os w₁ hfirst
    obtain ⟨hswept, hapart, hown₁⟩ := hfirst
    have hne : ∀ c' ∈ cs, c'.caseId ≠ c.caseId := fun c' hc' heq =>
      hc (List.mem_map.mpr ⟨c', hc', heq⟩)
    have hcs₁ : ∀ c' ∈ cs, Stored w₁ c'.caseId c'.core ∧ undecided c'.status = true := by
      intro c' hc'
      obtain ⟨hs', hu'⟩ := hcs c' (List.mem_cons_of_mem c hc')
      exact ⟨hs'.apart hapart (hne c' hc'), hu'⟩
    refine (ih hown₁ hrest hcs₁).mono ?_
    intro _ os' w' hlater
    refine ⟨hlater.now.trans hswept.now, ?_, ?_⟩
    · intro c' hc'
      rcases List.mem_cons.mp hc' with rfl | hc'
      · obtain ⟨hdecided, r, hr, hstatus⟩ := hswept.decided c' (List.mem_singleton_self c')
        obtain ⟨hquiet, hsame⟩ := hlater.others c'.caseId hc
        exact ⟨by rw [shown_append, hdecided, hquiet, List.append_nil], r, hsame.trans hr, hstatus⟩
      · obtain ⟨hdecided, hfinal⟩ := hlater.decided c' hc'
        have hquiet := (hswept.others c'.caseId (by simpa using hne c' hc')).1
        rw [shown_append, hquiet, hdecided, hswept.now]
        exact ⟨rfl, hfinal⟩
    · intro j hj
      simp only [List.map_cons, List.mem_cons, not_or] at hj
      obtain ⟨hquiet, hsame⟩ := hswept.others j (by simpa using hj.1)
      obtain ⟨hquiet', hsame'⟩ := hlater.others j hj.2
      exact ⟨by rw [shown_append, hquiet, hquiet']; rfl, hsame'.trans hsame⟩

/-- A record that a sweep lists is undecided. -/
theorem undecided_of_timedOut {now : Time} (h : InMemoryCaseStateStore.timedOut c now = true) :
    undecided c.status = true := by
  unfold InMemoryCaseStateStore.timedOut at h
  simp only [Bool.and_eq_true] at h
  simpa [undecided] using h.1.1

theorem returns_reaperSweep (hg : Granted answer) (hok : ViewOk S w.view) :
    Coro.Returns answer reaperSweep w fun _ os w' =>
      Swept (w.store.listTimedOutCases w.now) w os w' := by
  unfold reaperSweep
  apply Coro.Returns.bind
  apply returns_datetimeNow
  apply Coro.Returns.bind
  apply returns_readStore
  refine (returns_sweep hg hok.ownIds (listTimedOutCases_nodup hok _) ?_).mono fun _ _ _ h => h
  intro c hc
  obtain ⟨hmem, hlate⟩ := List.mem_filter.mp hc
  obtain ⟨k, hk⟩ := w.store.cases.get?_of_mem_values hmem
  have hk' : w.store.get k = some c := hk
  have hid : c.caseId = k := (hok.ownIds k c hk').1
  exact ⟨hid ▸ stored_of_get hok (hid ▸ hk'), undecided_of_timedOut hlate⟩

end Sweep

/-! ## In a run -/

/-- What a sweep of an idle reaper does to the records, one by one. -/
structure SweptCases (w : World) (os : Trace) (w' : World) : Prop where
  now : w'.now = w.now
  absent : ∀ k, w.store.get k = none → decidedFor k os = [] ∧ w'.store.get k = none
  decided : ∀ k c, w.store.get k = some c → InMemoryCaseStateStore.timedOut c w.now = true →
    decidedFor k os = [decisionOn c w.now] ∧
      ∃ c', w'.store.get k = some c' ∧ c'.status = .decided
  others : ∀ k c, w.store.get k = some c → InMemoryCaseStateStore.timedOut c w.now = false →
    decidedFor k os = [] ∧ w'.store.get k = some c

theorem exists_sweep {S : Settings} {s : State} {answer : ∀ x, Reply x}
    (hok : ViewOk S s.world.view) (hidle : s.loops .reaper = none) (hg : Granted answer) :
    ∃ n os w', (service S).exec ((service S).alone answer .sweep n) s =
        some (os, { s with world := w' }) ∧
      SweptCases s.world os w' := by
  obtain ⟨n, os, halone, hshown⟩ := alone_is_a_schedule S answer .sweep hidle
  obtain ⟨_, os', w', hsync, hswept⟩ := returns_reaperSweep hg hok
  have hhandler : ((Message.handler S .sweep).runSync answer s.world) = (os', w', .ok ()) := hsync
  rw [hhandler] at halone hshown
  have hlisted : ∀ k, k ∈ (s.world.store.listTimedOutCases s.world.now).map (·.caseId) →
      ∃ c, s.world.store.get k = some c ∧
        InMemoryCaseStateStore.timedOut c s.world.now = true := by
    intro k hk
    obtain ⟨c, hc, rfl⟩ := List.mem_map.mp hk
    obtain ⟨hmem, hlate⟩ := List.mem_filter.mp hc
    obtain ⟨k, hget⟩ := s.world.store.cases.get?_of_mem_values hmem
    obtain rfl := (hok.ownIds k c hget).1
    exact ⟨c, hget, hlate⟩
  refine ⟨n, os, w', halone, hswept.now, ?_, ?_, ?_⟩
  · intro k hnone
    have hnot : k ∉ (s.world.store.listTimedOutCases s.world.now).map (·.caseId) := by
      intro hmem
      obtain ⟨c, hc, -⟩ := hlisted k hmem
      rw [hnone] at hc
      cases hc
    obtain ⟨hquiet, hsame⟩ := hswept.others k hnot
    exact ⟨(hshown k).trans hquiet, hsame.trans hnone⟩
  · intro k c hc hlate
    obtain rfl := (hok.ownIds k c hc).1
    rw [hshown]
    exact hswept.decided c (List.mem_filter.mpr ⟨Dict.mem_values_of_get? hc, hlate⟩)
  · intro k c hc hnot
    rw [hshown, ← hc]
    refine hswept.others k fun hmem => ?_
    obtain ⟨c', hc', hlate⟩ := hlisted k hmem
    obtain rfl := Option.some.inj (hc'.symm.trans hc)
    rw [hnot] at hlate
    cases hlate

/-- Nothing is timed out after a sweep. -/
theorem SweptCases.nothing_left {w w' : World} {os : Trace} (h : SweptCases w os w') :
    w'.store.listTimedOutCases w'.now = [] := by
  refine List.filter_eq_nil_iff.mpr fun c hc hlate => ?_
  obtain ⟨k, hk⟩ := w'.store.cases.get?_of_mem_values hc
  have hk' : w'.store.get k = some c := hk
  rw [h.now] at hlate
  cases hbefore : w.store.get k with
  | none =>
    rw [(h.absent k hbefore).2] at hk'
    cases hk'
  | some c₀ =>
    cases hlate₀ : InMemoryCaseStateStore.timedOut c₀ w.now with
    | true =>
      obtain ⟨-, c', hc', hstatus⟩ := h.decided k c₀ hbefore hlate₀
      obtain rfl := Option.some.inj (hc'.symm.trans hk')
      have hu := undecided_of_timedOut hlate
      rw [hstatus] at hu
      cases hu
    | false =>
      obtain rfl := Option.some.inj ((h.others k c₀ hbefore hlate₀).2.symm.trans hk')
      rw [hlate₀] at hlate
      cases hlate

/-- **A sweep is exact.** From every reachable state of the agent in which the reaper is idle, wherever
    the other loops are: start a sweep and give it its answers, from a broker that takes what it is sent,
    until it is done. It publishes one decision for each case that is timed out, the decision on its
    record as it stands, and marks it decided; it publishes none for any other case, on record or not, and
    leaves its record as it is. No case is timed out then. -/
theorem sweep_is_exact {S : Settings} {now : Time} {nextId : UUID} {tr : Trace} {s : State}
    (hrun : (service S).Run EventLoop.anyStep (start now nextId) tr s)
    (hidle : s.loops .reaper = none) {answer : ∀ x, Reply x} (hg : Granted answer) :
    ∃ n os w', (service S).exec (.deliver .sweep :: List.replicate n (.answer .reaper answer)) s =
        some (os, { s with world := w' }) ∧
      w'.store.listTimedOutCases w'.now = [] ∧
      (∀ k, s.world.store.get k = none → decidedFor k os = [] ∧ w'.store.get k = none) ∧
      ∀ k c, s.world.store.get k = some c →
        if InMemoryCaseStateStore.timedOut c s.world.now = true then
          decidedFor k os = [decisionOn c s.world.now] ∧
            ∃ c', w'.store.get k = some c' ∧ c'.status = .decided
        else decidedFor k os = [] ∧ w'.store.get k = some c := by
  obtain ⟨n, os, w', hsweep, hswept⟩ := exists_sweep (run_viewOk hrun) hidle hg
  refine ⟨n, os, w', hsweep, hswept.nothing_left, hswept.absent, ?_⟩
  intro k c hc
  split
  · rename_i hlate
    exact hswept.decided k c hc hlate
  · rename_i hnot
    exact hswept.others k c hc (Bool.not_eq_true _ ▸ hnot)

/-- The cases `1` and `2` are delegated, the peers do not answer, and their deadline passes; the intake
    loop is busy with the case `3`. -/
def overdueSchedule : Schedule :=
  delegationSchedule ++
    (.deliver (.ticket (caseTicket 2)) :: List.replicate 7 (.answer .intake grant)) ++
    [.env 16000000, .deliver (.ticket (caseTicket 3))]

/-- One sweep decides the two, and passes over the third. -/
theorem sweep_is_exact_sample :
    ∃ (s : State) (n : Nat) (os : Trace) (w' : World) (c₁ c₂ c₃ : ResolutionCase),
      s.world.store.get 1 = some c₁ ∧ s.world.store.get 2 = some c₂ ∧
      s.world.store.get 3 = some c₃ ∧ (s.loops .intake).isSome = true ∧
      (service pairSettings).exec (.deliver .sweep :: List.replicate n (.answer .reaper grant)) s =
        some (os, { s with world := w' }) ∧
      w'.store.listTimedOutCases w'.now = [] ∧
      decidedFor 1 os = [decisionOn c₁ s.world.now] ∧
      decidedFor 2 os = [decisionOn c₂ s.world.now] ∧
      decidedFor 3 os = [] ∧ w'.store.get 3 = some c₃ := by
  have hexec : (((service pairSettings).exec overdueSchedule (start 0 1000)).map fun out =>
      ((out.2.loops .reaper).isNone, (out.2.loops .intake).isSome,
        [1, 2, 3].map fun k => (out.2.world.store.get k).map fun c =>
          InMemoryCaseStateStore.timedOut c out.2.world.now)) =
      some (true, true, [some true, some true, some false]) := by decide +kernel
  obtain ⟨⟨tr, s⟩, hout, heq⟩ := Option.map_eq_some_iff.mp hexec
  simp only [Prod.mk.injEq, List.map_cons, List.map_nil, List.cons.injEq] at heq
  obtain ⟨hidle, hbusy, hlate₁, hlate₂, hearly₃, -⟩ := heq
  obtain ⟨c₁, hc₁, hlate₁⟩ := Option.map_eq_some_iff.mp hlate₁
  obtain ⟨c₂, hc₂, hlate₂⟩ := Option.map_eq_some_iff.mp hlate₂
  obtain ⟨c₃, hc₃, hearly₃⟩ := Option.map_eq_some_iff.mp hearly₃
  have hrun := EventLoop.Run.of_exec (G := EventLoop.anyStep) hout fun _ _ _ => trivial
  obtain ⟨n, os, w', hsweep, hnone, -, hexact⟩ :=
    sweep_is_exact hrun (Option.isNone_iff_eq_none.mp hidle) grant_granted
  have hone := hexact 1 c₁ hc₁
  rw [if_pos hlate₁] at hone
  have htwo := hexact 2 c₂ hc₂
  rw [if_pos hlate₂] at htwo
  have hthree := hexact 3 c₃ hc₃
  rw [if_neg (by simp [hearly₃])] at hthree
  exact ⟨s, n, os, w', c₁, c₂, c₃, hc₁, hc₂, hc₃, hbusy, hsweep, hnone, hone.1, htwo.1, hthree⟩

/-! ## Every case gets its decision -/

/-- No step makes a second decision possible, and no decision is lost. -/
def exactlyOnce (waiting : LoopId → Option Request) (o : LoopId × Obs) : Prop :=
  singleDecision waiting o ∧ decisionsArrive waiting o

/-- When every loop is idle, a case has its one decision and is decided, or has none and waits for its
    peers until its deadline. -/
theorem decided_or_covered {S : Settings} {now : Time} {nextId : UUID} {tr : Trace} {s : State}
    (hrun : (service S).Run exactlyOnce (start now nextId) tr s) (hq : s.Quiescent) {k : UUID}
    {c : ResolutionCase} (hc : s.world.store.get k = some c) :
    (undecided c.status = false ∧ (decidedFor k tr).length = 1) ∨
      (Covered c ∧ decidedFor k tr = []) := by
  have hview := InMemoryCaseStateStore.view_cases_of_get hc
  have htended : Tended [] emptyView fun _ => .quiet :=
    ⟨fun _ => trivial, by simp, fun k c h => absurd h (by simp [emptyView])⟩
  have hsingle : ∀ k, Single k [] emptyView fun _ => .quiet := by
    intro k
    refine ⟨?_, ?_, ?_, ?_, ?_, ?_⟩ <;> simp [Phase.emission, decidedFor]
  obtain ⟨ph, hph, ht⟩ := run_invariant (tended_inductive S) htended
    (hrun.mono fun _ _ hg => hg.2)
  obtain ⟨ph', hph', hs⟩ := run_invariant (single_inductive S) hsingle
    (hrun.mono fun _ _ hg => hg.1)
  have hnone : ∀ i m b, (ph' i).emission ≠ some (k, m, b) := by
    intro i m b
    rw [hph'.quiet hq i]
    simp [protocol, Phase.emission]
  have hfinal : decidedFor k tr ≠ [] → undecided c.status = false := by
    intro hne
    rcases (hs k).shown hne with ⟨i, m, hi⟩ | ⟨x, hx, hu⟩
    · exact absurd hi (hnone i m true)
    · obtain rfl := Option.some.inj (hx.symm.trans hview)
      exact hu
  rcases ht.safe k c.core hview with hd | hcov | ⟨i, b, hi, -⟩
  · refine .inl ⟨hfinal hd, ?_⟩
    have hcount := (hs k).count
    have hpos := List.length_pos_iff.mpr hd
    omega
  · have hcov' : Covered c := hcov
    refine .inr ⟨hcov', ?_⟩
    by_contra hne
    have hu := hfinal hne
    rw [hcov'.1] at hu
    cases hu
  · rw [hph.quiet hq i] at hi
    exact absurd hi (by simp [protocol, Phase.duty])

/-- A list of moments has a last one. -/
theorem exists_last (ts : List Time) : ∃ last : Int, ∀ t ∈ ts, t ≤ last := by
  induction ts with
  | nil => exact ⟨0, fun t ht => absurd ht List.not_mem_nil⟩
  | cons t ts ih =>
    obtain ⟨last, hlast⟩ := ih
    refine ⟨max t last, fun t' ht' => ?_⟩
    rcases List.mem_cons.mp ht' with rfl | ht'
    · exact le_max_left _ _
    · exact (hlast t' ht').trans (le_max_right _ _)

/-- There is a moment after every deadline. -/
theorem exists_patience (st : InMemoryCaseStateStore) (now : Time) :
    ∃ patience : Nat, ∀ k c deadline, st.get k = some c → c.deadlineAt = some deadline →
      deadline < now + patience := by
  obtain ⟨last, hlast⟩ := exists_last (st.cases.values.filterMap (·.deadlineAt))
  refine ⟨(last - now).toNat + 1, ?_⟩
  intro k c deadline hc hdeadline
  have hle : (deadline : Int) ≤ last := hlast deadline
    (List.mem_filterMap.mpr ⟨c, Dict.mem_values_of_get? hc, hdeadline⟩)
  have hpatient := Int.self_le_toNat (last - now)
  push_cast
  exact Int.lt_of_le_of_lt hle (by linarith)

/-- **Every case gets exactly one decision.** In a run in which the broker takes every classification and
    decision, no direct response is cut off between decision and draft, and no claim meets the intake loop
    in its own escalation: once all loops are idle, wait until the last deadline is over, start one sweep
    and give it its answers until it is done. Every case on record then has one decision, counted over the
    whole run, and is decided; the cases that had theirs before are as they were. -/
theorem every_case_is_decided_once {S : Settings} {now : Time} {nextId : UUID} {tr : Trace} {s : State}
    (hrun : (service S).Run exactlyOnce (start now nextId) tr s) (hq : s.Quiescent)
    {answer : ∀ x, Reply x} (hg : Granted answer) :
    ∃ patience : Nat, ∀ micros : Nat, patience ≤ micros → ∃ n os w',
      (service S).exec
          (.env micros :: .deliver .sweep :: List.replicate n (.answer .reaper answer)) s =
        some (os, { s with world := w' }) ∧
        ∀ k c, s.world.store.get k = some c →
          (decidedFor k (tr ++ os)).length = 1 ∧
          ∃ c', w'.store.get k = some c' ∧ undecided c'.status = false ∧
            (undecided c.status = false → c' = c) := by
  obtain ⟨patience, hpatience⟩ := exists_patience s.world.store s.world.now
  refine ⟨patience, fun micros hlong => ?_⟩
  have hwait : (service S).Run EventLoop.anyStep s []
      { s with world := { s.world with now := s.world.now + micros } } :=
    EventLoop.Run.nil.step (.env micros) rfl (by simp)
  have hrun' := (hrun.mono fun _ _ _ => trivial : (service S).Run EventLoop.anyStep _ tr s).trans hwait
  obtain ⟨n, os, w', hsweep, hswept⟩ := exists_sweep (run_viewOk hrun') (hq .reaper) hg
  refine ⟨n, os, w', ?_, ?_⟩
  · exact congrArg (Option.map fun out => ([] ++ out.1, out.2)) hsweep
  intro k c hc
  rw [decidedFor_append, List.length_append]
  rcases decided_or_covered hrun hq hc with ⟨hfinal, hone⟩ | ⟨hcov, hnil⟩
  · -- decided already: the sweep passes it over
    have hnot : InMemoryCaseStateStore.timedOut c (s.world.now + micros) = false := by
      by_contra hlate
      have hu := undecided_of_timedOut (Bool.not_eq_false _ ▸ hlate)
      rw [hfinal] at hu
      cases hu
    obtain ⟨hquiet, hsame⟩ := hswept.others k c hc hnot
    rw [hone, hquiet]
    exact ⟨rfl, c, hsame, hfinal, fun _ => rfl⟩
  · obtain ⟨deadline, hdeadline, hlisted⟩ := hcov.listed hc
    have hover := hpatience k c deadline hc hdeadline
    have hlate := (List.mem_filter.mp (hlisted (s.world.now + micros) (hover.trans_le
      (Int.add_le_add_left (Int.ofNat_le.mpr hlong) _)))).2
    obtain ⟨hdecided, c', hc', hstatus⟩ := hswept.decided k c hc hlate
    rw [hnil, hdecided]
    refine ⟨rfl, c', hc', by rw [hstatus]; rfl, fun hu => ?_⟩
    rw [hcov.1] at hu
    cases hu

/-- The case `1` is answered directly; then the case `2` is delegated. -/
def answeredAndWaitingSchedule : Schedule :=
  directSchedule ++ .deliver (.ticket (caseTicket 2)) :: List.replicate 7 (.answer .intake grant)

/-- The case `2`, whose peers never answer, gets its decision, and the case `1` keeps the one it has. -/
theorem every_case_is_decided_once_sample :
    ∃ tr s micros n os w' c₁, (service pairSettings).Run exactlyOnce (start 0 1000) tr s ∧
      s.world.store.get 1 = some c₁ ∧ c₁.status = .closed ∧ decidedFor 2 tr = [] ∧
      (service pairSettings).exec
          (.env micros :: .deliver .sweep :: List.replicate n (.answer .reaper grant)) s =
        some (os, { s with world := w' }) ∧
      (decidedFor 1 (tr ++ os)).length = 1 ∧ w'.store.get 1 = some c₁ ∧
      (decidedFor 2 (tr ++ os)).length = 1 := by
  have hexec : ((service pairSettings).exec answeredAndWaitingSchedule (start 0 1000)).map
      (fun out => (allIdle out.2, out.2.world.status 1, (out.2.world.store.get 2).isSome,
        (decidedFor 2 out.1).isEmpty, out.1.all plainObs)) =
      some (true, some .closed, true, true, true) := by decide +kernel
  obtain ⟨⟨tr, s⟩, hout, heq⟩ := Option.map_eq_some_iff.mp hexec
  simp only [Prod.mk.injEq] at heq
  obtain ⟨hidle, hstatus, hsome, hnil, hall⟩ := heq
  obtain ⟨c₁, hc₁, hclosed⟩ := Option.map_eq_some_iff.mp hstatus
  obtain ⟨c₂, hc₂⟩ := Option.isSome_iff_exists.mp hsome
  have hrun : (service pairSettings).Run exactlyOnce (start 0 1000) tr s := by
    refine .of_exec hout ?_
    rintro w ⟨i, o⟩ ho
    have hplain := List.all_eq_true.mp hall _ ho
    cases o with
    | publishFailed | delegationFailed | claimed => exact absurd hplain (by simp [plainObs])
    | received | published | attached | slotFailed | decisionTaken => exact ⟨trivial, trivial⟩
  obtain ⟨micros, h⟩ :=
    every_case_is_decided_once hrun (quiescent_of_allIdle hidle) grant_granted
  obtain ⟨n, os, w', hrest, hcases⟩ := h micros (Nat.le_refl _)
  obtain ⟨hone, c₁', hc₁', -, hsame⟩ := hcases 1 c₁ hc₁
  have hkept : c₁' = c₁ := hsame (by rw [hclosed]; rfl)
  exact ⟨tr, s, micros, n, os, w', c₁, hrun, hc₁, hclosed, List.isEmpty_iff.mp hnil, hrest, hone,
    hkept ▸ hc₁', (hcases 2 c₂ hc₂).1⟩

end RefundOps.Resolution
