import RefundOps.Resolution.Properties.Coverage
import RefundOps.Resolution.Watch.Evidence

/-!
# Evidence ids

A record keeps, beside each finding, the id of the event that the finding came with. The two domain
handlers write the id before they know what becomes of the finding: a result that is not attached
leaves its id beside the finding of another event, or beside none. So the ids can be trusted in the
runs in which every result that is delivered is *timely*: its slot has the id of this event already,
or has no id and takes the finding (`evidence_of_timely`).

Everything else that can happen, in any order and between any two suspensions, writes to no slot.
-/

set_option autoImplicit false

namespace RefundOps.Resolution

instance (r : ResolutionCase) (t : UUID) : Decidable (r.Takes t) :=
  inferInstanceAs (Decidable (_ ∧ _))

/-- A risk that is escalated on at once. -/
def ResolutionCase.Escalates (r : ResolutionCase) (f : RiskFinding) : Prop :=
  f.highRisk = true ∧ ¬ billingIneligible r = true ∧ undecided r.status = true

instance (r : ResolutionCase) (f : RiskFinding) : Decidable (r.Escalates f) :=
  inferInstanceAs (Decidable (_ ∧ _ ∧ _))

/-- The slot has the id of the event already, or it has none and takes the finding. -/
def timelyFor (id : Option UUID) (eventId : UUID) (taken : Prop) : Prop :=
  id = some eventId ∨ id = none ∧ taken

instance (id : Option UUID) (eventId : UUID) (taken : Prop) [Decidable taken] :
    Decidable (timelyFor id eventId taken) :=
  inferInstanceAs (Decidable (_ ∨ _))

/-- A result is timely in a state; so is a result that no case has a task for, and every other
    message. -/
def Message.timely (w : World) : Message → Bool
  | .billingResult e =>
      match e.payload, w.store.getByCorrelationId e.correlationId with
      | some _, some c =>
          match c.billingTaskId with
          | some t => Decidable.decide (timelyFor c.billingResultEventId e.eventId (c.Takes t))
          | none => true
      | _, _ => true
  | .riskResult e =>
      match e.payload, w.store.getByCorrelationId e.correlationId with
      | some p, some c =>
          match c.riskTaskId with
          | some t => Decidable.decide (timelyFor c.riskResultEventId e.eventId
              (c.Takes t ∨ c.Escalates (riskFinding p t)))
          | none => true
      | _, _ => true
  | .ticket _ => true
  | .taskResult _ => true
  | .sweep => true

/-- The ledger that a message starts with. -/
def ledgerOf (m : Message) (w : World) : Ledger := if m.timely w then .closed else .loose

/-! ## The handlers -/

variable {S : Settings} {i : LoopId}

theorem Ready.settled {K : Set UUID} {g : Bookkeeping} (h : Ready K g) : g.phase.Settled :=
  .inl h.closed

/-- A neutral program at the end of a handler. -/
theorem obeys_of_neutral {α : Type} {K : Set UUID} {m : M α} {g : Bookkeeping}
    (hm : Neutral S i K m) (h : Ready K g) :
    m.obeys (protocol S) evidence i (fun _ g => g.phase.Settled) (fun _ g => g.phase.Settled) g :=
  Coro.obeys_mono (fun _ _ h' => h'.settled) (fun _ _ h' => h'.settled) (hm g h)

theorem obeys_followed {K : Set UUID} {p q k : M Unit} {g : Bookkeeping}
    (h : (p >>= fun _ => q : M Unit).obeys (protocol S) evidence i (fun _ => Ready K)
      (fun _ => Ready K) g) (hk : Neutral S i K k) :
    (p >>= fun _ => q >>= fun _ => k : M Unit).obeys (protocol S) evidence i
      (fun _ g => g.phase.Settled) (fun _ g => g.phase.Settled) g := by
  simp only [Coro.obeys_bind] at h ⊢
  refine Coro.obeys_mono ?_ (fun _ _ h' => h'.settled) h
  intro _ g' h'
  refine Coro.obeys_mono ?_ (fun _ _ h'' => h''.settled) h'
  intro _ g'' h''
  exact obeys_of_neutral hk h''

/-- The record of a case, found by its correlation id. -/
theorem get_of_correlation {w : World} (hok : ViewOk S w.view) {k : UUID} {c : ResolutionCase}
    (h : w.store.getByCorrelationId k = some c) : c.caseId = k ∧ w.store.get k = some c := by
  refine ⟨(found_by_correlation hok h).2.1, ?_⟩
  unfold InMemoryCaseStateStore.getByCorrelationId at h
  cases hj : w.store.byCorrelation.get? k with
  | none =>
    rw [hj] at h
    cases h
  | some j =>
    rw [hj] at h
    obtain rfl := hok.correlation k j hj
    exact h

theorem ready_start {w : World} (hok : ViewOk S w.view) {k : UUID} {r : ResolutionCase}
    (hr : w.store.get k = some r) (os : List Obs) : Ready {k} ⟨.closed, w, os, w⟩ where
  closed := rfl
  filed := hok.filed
  known := by
    rintro _ rfl
    exact ⟨r, hr⟩

theorem books_readStore {α : Type} {f : InMemoryCaseStateStore → α}
    {Q : α → Bookkeeping → Prop} {E : String → Bookkeeping → Prop} {g : Bookkeeping}
    (h : Q (f g.cur.store) g) : (readStore f).obeys (protocol S) evidence i Q E g := h

/-- The end that the two domain handlers share, for a timely result. -/
theorem obeys_domainResult {w : World} {c : ResolutionCase} {t : UUID} {f : Finding} {m : Message}
    {envelope : EventRef} (hok : ViewOk S w.view) (hc : w.store.get c.caseId = some c)
    (htimely : timelyFor (c.recorded f.slot).1 envelope.eventId (c.Takes t))
    (hsource : Source ([Obs.received m, .attached envelope c.caseId t f].map (i, ·)) c.caseId
      f.slot envelope.eventId f) :
    (do
      assign c (·.mark f.slot envelope.eventId)
      applyResult envelope c t f
      decideIfReady c envelope.eventId : M Unit).obeys (protocol S) evidence i
      (fun _ g => g.phase.Settled) (fun _ g => g.phase.Settled) ⟨.closed, w, [.received m], w⟩ := by
  have hready := ready_start hok hc [.received m]
  refine obeys_followed ?_ (neutral_decideIfReady envelope.eventId (Set.mem_singleton _))
  by_cases htakes : c.Takes t
  · refine obeys_attach hready hc htakes (.inr ⟨rfl, ?_⟩) hsource
    show (w.store.recorded f.slot c.caseId).1 = none ∨
      (w.store.recorded f.slot c.caseId).1 = some envelope.eventId
    rw [InMemoryCaseStateStore.recorded_of_get hc]
    rcases htimely with hsame | ⟨hnone, -⟩
    · exact .inr hsame
    · exact .inl hnone
  · rcases htimely with hsame | ⟨-, htaken⟩
    · exact neutral_repeat hready hc htakes hsame
    · exact absurd htaken htakes

theorem billing_obeys {w : World} (hok : ViewOk S w.view)
    {e : Inbound BillingRefundAnalysisCompletedPayload}
    (htimely : (Message.billingResult e).timely w = true) :
    (billingResultHandler e).obeys (protocol S) evidence .billing (fun _ g => g.phase.Settled)
      (fun _ g => g.phase.Settled) ⟨.closed, w, [.received (.billingResult e)], w⟩ := by
  unfold billingResultHandler
  cases hp : e.payload with
  | none => exact .inl rfl
  | some p =>
    refine Coro.obeys_bind.mpr (books_readStore ?_)
    dsimp only
    cases hfound : w.store.getByCorrelationId e.correlationId with
    | none =>
      refine obeys_store (.aside ?_) (.inl rfl)
      exact InMemoryCaseStateStore.recorded_parkBillingResult _ _ _
    | some c =>
      obtain ⟨hid, hc⟩ := get_of_correlation hok hfound
      dsimp only
      cases ht : c.billingTaskId with
      | none => exact .inl rfl
      | some t =>
        simp only [Message.timely, hp, hfound, ht, decide_eq_true_eq] at htimely
        refine @obeys_domainResult S .billing w c t (.billing (billingFinding p t))
          (.billingResult e) e.ref hok (hid.symm ▸ hc) htimely ?_
        exact .billing List.mem_cons_self hid.symm hp (List.mem_cons_of_mem _ List.mem_cons_self)

/-! An escalation at once. -/

theorem obeys_claimed {K : Set UUID} {c : ResolutionCase} {g : Bookkeeping}
    {Q : Bool → Bookkeeping → Prop} {E : String → Bookkeeping → Prop} (h : Ready K g)
    (hlost : ∀ g', Ready K g' → Q false g')
    (hwon : ∀ g', Ready K g' → g.obs ⊆ g'.obs → .claimed c.caseId ∈ g'.obs →
      g'.cur.store.recorded = g.cur.store.recorded → Q true g') :
    (claimDecision c).obeys (protocol S) evidence i Q E g := by
  have hharm : KeepsSlots g.cur.store (g.cur.store.claimDecision c.caseId g.cur.now).2 :=
    keepsSlots_run (.claimDecision c.caseId g.cur.now) (fun _ _ _ => nofun) (fun _ _ _ _ => nofun)
  refine Coro.obeys_bind.mpr (obeys_now ?_)
  refine Coro.obeys_bind.mpr (obeys_store (.aside hharm.recorded) ?_)
  cases (g.cur.store.claimDecision c.caseId g.cur.now).1 with
  | false => exact hlost _ (h.silent hharm.toFiles)
  | true =>
    refine Coro.obeys_bind.mpr ⟨_, .aside rfl, ?_⟩
    exact hwon _ (h.silent hharm.toFiles) (List.subset_append_left _ _)
      (List.mem_append_right _ List.mem_cons_self) hharm.recorded

theorem books_escalateHighRisk {w : World} {c : ResolutionCase}
    {e : Inbound RiskReviewCompletedPayload} {p : RiskReviewCompletedPayload} {t : UUID}
    (hok : ViewOk S w.view) (hid : c.caseId = e.correlationId)
    (hc : w.store.get c.caseId = some c) (hp : e.payload = some p)
    (hhigh : (riskFinding p t).highRisk = true)
    (hslot : c.riskResultEventId = none ∨ c.riskResultEventId = some e.eventId) :
    (escalateHighRisk e.ref c (riskFinding p t)).obeys (protocol S) evidence .risk
      (fun _ g => g.phase.Settled) (fun _ g => g.phase.Settled)
      ⟨.closed, w, [.received (.riskResult e)], w⟩ := by
  refine Coro.obeys_bind.mpr ?_
  refine obeys_claimed (ready_start hok hc _) (fun g h => h.settled) ?_
  intro g hready hobs hclaimed hsame
  obtain ⟨r, hr⟩ := hready.known _ (Set.mem_singleton _)
  have hrid := hready.filed _ _ hr
  have hget : g.cur.store.get r.caseId = some r := hrid.symm ▸ hr
  rw [if_pos rfl]
  refine Coro.obeys_bind.mpr (obeys_record hr ?_)
  -- id and finding are written at once, so the slot is never open
  refine Coro.obeys_bind.mpr (obeys_store (.close (k := r.caseId) (.inr ⟨hready.closed, ?_⟩) ?_ ?_
    (.escalated ?_ ?_ hp hhigh ?_)) ?_)
  · rw [hsame, hrid, InMemoryCaseStateStore.recorded_of_get hc]
    exact hslot
  · refine beside_modify ?_
    intro x slot' hother
    cases slot' with
    | billing => rfl
    | risk => exact absurd rfl hother
  · exact InMemoryCaseStateStore.recorded_of_get (InMemoryCaseStateStore.get_modify_self hget _) .risk
  · rw [List.append_nil]
    exact List.mem_map_of_mem (hobs List.mem_cons_self)
  · exact (hrid.trans hid).symm
  · rw [List.append_nil, hrid]
    exact List.mem_map_of_mem hclaimed
  · refine obeys_of_neutral (K := {c.caseId}) ?_ (hready.files (files_modify fun _ => rfl))
    exact (neutral_emitDecisionAndDraft _ _).bind fun _ => neutral_finish .escalated hrid

theorem risk_obeys {w : World} (hok : ViewOk S w.view) {e : Inbound RiskReviewCompletedPayload}
    (htimely : (Message.riskResult e).timely w = true) :
    (riskResultHandler e).obeys (protocol S) evidence .risk (fun _ g => g.phase.Settled)
      (fun _ g => g.phase.Settled) ⟨.closed, w, [.received (.riskResult e)], w⟩ := by
  unfold riskResultHandler
  cases hp : e.payload with
  | none => exact .inl rfl
  | some p =>
    refine Coro.obeys_bind.mpr (books_readStore ?_)
    dsimp only
    cases hfound : w.store.getByCorrelationId e.correlationId with
    | none =>
      refine obeys_store (.aside ?_) (.inl rfl)
      exact InMemoryCaseStateStore.recorded_parkRiskResult _ _ _
    | some c =>
      obtain ⟨hid, hget⟩ := get_of_correlation hok hfound
      have hc : w.store.get c.caseId = some c := hid.symm ▸ hget
      dsimp only
      cases ht : c.riskTaskId with
      | none => exact .inl rfl
      | some t =>
        simp only [Message.timely, hp, hfound, ht, decide_eq_true_eq] at htimely
        dsimp only
        split
        · rename_i hescalates
          refine books_escalateHighRisk hok hid hc hp hescalates.1 ?_
          rcases htimely with hsame | ⟨hnone, -⟩
          · exact .inr hsame
          · exact .inl hnone
        · rename_i hwaits
          refine @obeys_domainResult S .risk w c t (.risk (riskFinding p t))
            (.riskResult e) e.ref hok hc (htimely.imp_right (And.imp_right ?_)) ?_
          · rintro (htakes | hescalates)
            · exact htakes
            · exact absurd hescalates hwaits
          · exact .risk List.mem_cons_self hid.symm hp (List.mem_cons_of_mem _ List.mem_cons_self)

/-! The other three. -/

theorem intake_obeys {w : World} (hok : ViewOk S w.view)
    (e : Inbound SupportTicketCreatedPayload) :
    (intakeHandler S e).obeys (protocol S) evidence .intake (fun _ g => g.phase.Settled)
      (fun _ g => g.phase.Settled) ⟨.closed, w, [.received (.ticket e)], w⟩ := by
  unfold intakeHandler
  cases e.payload with
  | none => exact .inl rfl
  | some ticket =>
    have hharm : KeepsSlots w.store (w.store.getOrCreate e.correlationId ticket.ticketId
        ticket.customerId e.correlationId ticket.amount ticket.currency ticket.reason w.now).2 :=
      keepsSlots_run (.getOrCreate e.correlationId ticket.ticketId ticket.customerId e.correlationId
        ticket.amount ticket.currency ticket.reason w.now) (fun _ _ _ => nofun)
        (fun _ _ _ _ => nofun)
    have hready : ∀ c st, w.store.getOrCreate e.correlationId ticket.ticketId ticket.customerId
        e.correlationId ticket.amount ticket.currency ticket.reason w.now = (c, st) →
        Ready {c.caseId} ⟨.closed, w, [.received (.ticket e)], { w with store := st }⟩ := by
      intro c st hcreated
      rw [hcreated] at hharm
      refine ⟨rfl, hharm.filed hok.filed, ?_⟩
      rintro _ rfl
      rcases InMemoryCaseStateStore.getOrCreate_cases hok ticket.ticketId ticket.customerId
        ticket.amount ticket.currency ticket.reason w.now with
        ⟨r, hr, hfound⟩ | ⟨-, r, st', hnew, -, hid, hview⟩
      · obtain ⟨rfl, rfl⟩ := Prod.mk.inj (hfound.symm.trans hcreated)
        exact ⟨r, (hok.filed _ _ hr).symm ▸ hr⟩
      · obtain ⟨rfl, rfl⟩ := Prod.mk.inj (hnew.symm.trans hcreated)
        have hx : st'.view.cases r.caseId = some r.core := by
          rw [hview, hid]
          exact View.put_cases_self _ _ _
        obtain ⟨r', hr', -⟩ := InMemoryCaseStateStore.view_cases_iff.mp hx
        exact ⟨r', hr'⟩
    refine Coro.obeys_bind.mpr (obeys_now ?_)
    refine Coro.obeys_bind.mpr (obeys_store (.aside hharm.recorded) ?_)
    generalize hcreated : w.store.getOrCreate e.correlationId ticket.ticketId ticket.customerId
      e.correlationId ticket.amount ticket.currency ticket.reason w.now = created at hready ⊢
    obtain ⟨c, st⟩ := created
    have hc : c.caseId ∈ ({c.caseId} : Set UUID) := Set.mem_singleton _
    refine obeys_of_neutral ?_ (hready c st rfl)
    dsimp only
    split
    · refine (neutral_triageTicket _ _).bind fun triage => ?_
      refine Coro.Within.bind (neutral_minor fun _ => rfl) fun _ => ?_
      refine (neutral_save hc).bind fun _ => ?_
      refine (neutral_writeTaskAudit _ _ _ _ _).bind fun _ => ?_
      refine (neutral_publish _ _ _).bind fun _ => ?_
      split
      · exact neutral_delegateReviews _ _ hc
      · exact neutral_respondDirectly _ _ _ hc
    · exact neutral_writeTaskAudit _ _ _ _ _

/-- A task result that a handler writes an id for is left to the domain handler, so this handler
    writes none. -/
theorem result_obeys {w : World} (hok : ViewOk S w.view) (e : Inbound TaskResult) :
    (resultHandler S e).obeys (protocol S) evidence .result (fun _ g => g.phase.Settled)
      (fun _ g => g.phase.Settled) ⟨.closed, w, [.received (.taskResult e)], w⟩ := by
  unfold resultHandler
  cases e.payload with
  | none => exact .inl rfl
  | some result =>
    refine Coro.obeys_bind.mpr (books_readStore ?_)
    dsimp only
    cases hfound : w.store.getByTaskId result.taskId with
    | none => exact .inl rfl
    | some c =>
      obtain ⟨hx, hids⟩ := found_by_task hok hfound
      obtain ⟨r, hr, -⟩ := InMemoryCaseStateStore.view_cases_iff.mp hx
      have hc : c.caseId ∈ ({c.caseId} : Set UUID) := Set.mem_singleton _
      refine obeys_of_neutral ?_ (ready_start hok hr _)
      dsimp only
      split
      swap
      · exact neutral_writeTaskAudit _ _ _ _ _
      split
      · exact neutral_writeTaskAudit _ _ _ _ _
      · rename_i hdual
        have hstatus := not_completed hids hdual
        unfold recordResult
        rw [if_neg hstatus]
        refine Coro.Within.bind ?_ fun _ => neutral_deref hc fun cur hcur => ?_
        · exact (neutral_markSlotFailed _ _ _ hc).bind fun _ => neutral_writeTaskAudit _ _ _ _ _
        · split
          · exact neutral_applyDecision _ (hcur ▸ hc)
          · exact Coro.within_pure _

theorem sweep_obeys {w : World} (hok : ViewOk S w.view) :
    reaperSweep.obeys (protocol S) evidence .reaper (fun _ g => g.phase.Settled)
      (fun _ g => g.phase.Settled) ⟨.closed, w, [.received .sweep], w⟩ := by
  refine Coro.obeys_bind.mpr (obeys_now ?_)
  refine Coro.obeys_bind.mpr ?_
  show Coro.obeys _ _ _ _ _ ((w.store.listTimedOutCases w.now).forM escalateTimedOut) _
  let K : Set UUID := { k | ∃ r, w.store.get k = some r }
  have hready : Ready K ⟨.closed, w, [.received .sweep], w⟩ :=
    ⟨rfl, hok.filed, fun k hk => hk⟩
  refine obeys_of_neutral (Coro.Within.forM _ fun c hc => ?_) hready
  have hknown : c.caseId ∈ K := by
    obtain ⟨j, hj⟩ := Dict.get?_of_mem_values (List.mem_filter.mp hc).1
    have hget : w.store.get j = some c := hj
    exact ⟨c, (hok.filed _ _ hget).symm ▸ hget⟩
  refine neutral_deref hknown fun cur _ => ?_
  split
  · refine neutral_uuid4.bind fun causationId => ?_
    exact Coro.Within.tryCatch (neutral_applyDecision _ hknown) fun _ => Coro.within_pure _
  · exact Coro.within_pure _

/-- **Every handler keeps to the watch.** -/
theorem service_books (S : Settings) : Watches (protocol S) evidence (service S) ledgerOf := by
  intro m w hok
  unfold ledgerOf
  cases htimely : m.timely w with
  | false =>
    rw [if_neg Bool.false_ne_true]
    exact obeys_loose _ rfl
  | true =>
    rw [if_pos rfl]
    cases m with
    | ticket e => exact intake_obeys hok e
    | taskResult e => exact result_obeys hok e
    | billingResult e => exact billing_obeys hok htimely
    | riskResult e => exact risk_obeys hok htimely
    | sweep => exact sweep_obeys hok

/-! ## Along a stretch -/

/-- Every id in a slot is that of the event whose finding is in the slot. -/
def EvidenceNamed (tr : Trace) (st : InMemoryCaseStateStore) : Prop :=
  ∀ slot k id, (st.recorded slot k).1 = some id →
    ∃ f, (st.recorded slot k).2 = some f ∧ Source tr k slot id f

/-- No id is lost or replaced. -/
def IdsKept (st st' : InMemoryCaseStateStore) : Prop :=
  ∀ slot k id, (st.recorded slot k).1 = some id → (st'.recorded slot k).1 = some id

/-- The books of a stretch under way that began with the store `st₀`: they are right beside the slot
    that is open, and that one had no id but the one it is open for. -/
structure Booked (tr : Trace) (st₀ : InMemoryCaseStateStore) (i : LoopId) (g : Bookkeeping) :
    Prop where
  tight : g.phase ≠ .loose
  named : ∀ slot k, (∀ id, g.phase ≠ .opened slot k id) → ∀ id,
    (g.cur.store.recorded slot k).1 = some id →
      ∃ f, (g.cur.store.recorded slot k).2 = some f ∧ Source (tr ++ g.obs.map (i, ·)) k slot id f
  kept : ∀ slot k, (∀ id, g.phase ≠ .opened slot k id) → ∀ id,
    (st₀.recorded slot k).1 = some id → (g.cur.store.recorded slot k).1 = some id
  own : ∀ slot k id, g.phase = .opened slot k id → ∀ id',
    (st₀.recorded slot k).1 = some id' → id' = id

section Stretch

variable {tr : Trace} {st₀ : InMemoryCaseStateStore}

theorem Booked.start {w : World} {os : List Obs} {p : Ledger} (hp : p = .closed)
    (h : EvidenceNamed tr w.store) : Booked tr w.store i ⟨p, w, os, w⟩ where
  tight := by
    rw [hp]
    exact nofun
  named := by
    intro slot k _ id hid
    obtain ⟨f, hf, hsource⟩ := h slot k id hid
    exact ⟨f, hf, hsource.mono (List.subset_append_left _ _)⟩
  kept := fun _ _ _ _ hid => hid
  own := by
    intro slot k id hopened
    rw [hp] at hopened
    cases hopened

/-- Where a slot may be written to, no other id is lost. -/
theorem Booked.writable {g : Bookkeeping} (h : Booked tr st₀ i g) {slot : Slot} {k id id' : UUID}
    (hw : Writable g slot k id) (hid : (st₀.recorded slot k).1 = some id') : id' = id := by
  rcases hw with hopened | ⟨hclosed, hslot⟩
  · exact h.own slot k id hopened id' hid
  · have hkept := h.kept slot k (fun _ hopened => nomatch hclosed.symm.trans hopened) id' hid
    rcases hslot with hnone | hsame
    · exact absurd (hnone.symm.trans hkept) nofun
    · exact Option.some.inj (hkept.symm.trans hsame)

/-- A slot beside the one that may be written to is not open. -/
theorem Writable.beside {g : Bookkeeping} {slot slot' : Slot} {k k' id : UUID}
    (hw : Writable g slot k id) (hne : (slot', k') ≠ (slot, k)) (id' : UUID) :
    g.phase ≠ .opened slot' k' id' := by
  intro hopened
  rcases hw with h | ⟨h, -⟩
  · cases h.symm.trans hopened
    exact hne rfl
  · cases h.symm.trans hopened

/-- **Every write keeps the books.** -/
theorem booked_write (g : Bookkeeping) (os : List Obs) (w' : World) (p : Ledger)
    (h : Booked tr st₀ i g) (hwrite : evidence.Write i g os w' p) :
    Booked tr st₀ i ⟨p, g.base, g.obs ++ os, w'⟩ := by
  have hmore : tr ++ g.obs.map (i, ·) ⊆ tr ++ (g.obs ++ os).map (i, ·) := by
    rw [List.map_append, ← List.append_assoc]
    exact List.subset_append_left _ _
  cases hwrite with
  | loose hloose => exact absurd hloose h.tight
  | aside hsame =>
    refine ⟨h.tight, ?_, ?_, h.own⟩
    · intro slot k hclosed id hid
      dsimp only at hid ⊢
      rw [hsame] at hid ⊢
      obtain ⟨f, hf, hsource⟩ := h.named slot k hclosed id hid
      exact ⟨f, hf, hsource.mono hmore⟩
    · intro slot k hclosed id hid
      dsimp only
      rw [hsame]
      exact h.kept slot k hclosed id hid
  | @enter _ slot k id hw hb =>
    refine ⟨nofun, ?_, ?_, ?_⟩
    · intro slot' k' hother id' hid
      have hne : (slot', k') ≠ (slot, k) := by
        rintro ⟨⟩
        exact hother id rfl
      dsimp only at hid ⊢
      rw [hb slot' k' hne] at hid ⊢
      obtain ⟨f, hf, hsource⟩ := h.named slot' k' (hw.beside hne) id' hid
      exact ⟨f, hf, hsource.mono hmore⟩
    · intro slot' k' hother id' hid
      have hne : (slot', k') ≠ (slot, k) := by
        rintro ⟨⟩
        exact hother id rfl
      dsimp only
      rw [hb slot' k' hne]
      exact h.kept slot' k' (hw.beside hne) id' hid
    · intro slot' k' id' hopened id'' hid
      cases hopened
      exact h.writable hw hid
  | @close _ _ slot k id f hw hb hrecorded hsource =>
    refine ⟨nofun, ?_, ?_, nofun⟩
    · intro slot' k' _ id' hid
      dsimp only at hid ⊢
      by_cases hne : (slot', k') = (slot, k)
      · obtain ⟨rfl, rfl⟩ := Prod.mk.inj hne
        rw [hrecorded] at hid ⊢
        obtain rfl := Option.some.inj hid
        exact ⟨f, rfl, hsource.mono (List.subset_append_right _ _)⟩
      · rw [hb slot' k' hne] at hid ⊢
        obtain ⟨f', hf', hsource'⟩ := h.named slot' k' (hw.beside hne) id' hid
        exact ⟨f', hf', hsource'.mono hmore⟩
    · intro slot' k' _ id' hid
      dsimp only
      by_cases hne : (slot', k') = (slot, k)
      · obtain ⟨rfl, rfl⟩ := Prod.mk.inj hne
        rw [hrecorded, h.writable hw hid]
      · rw [hb slot' k' hne]
        exact h.kept slot' k' (hw.beside hne) id' hid

end Stretch

/-! ## Along a run -/

/-- A choice is timely: a message that is delivered is. -/
def Timely (ch : Choice LoopId Message Request Reply Nat) (s : State) : Prop :=
  match ch with
  | .deliver m => m.timely s.world = true
  | .answer _ _ => True
  | .env _ => True

instance (ch : Choice LoopId Message Request Reply Nat) (s : State) : Decidable (Timely ch s) :=
  match ch with
  | .deliver m => inferInstanceAs (Decidable (m.timely s.world = true))
  | .answer _ _ => isTrue trivial
  | .env _ => isTrue trivial

/-- A reachable state whose books are right: every ledger is closed. -/
structure InOrder (S : Settings) (tr : Trace) (s : State) (ph : LoopId → Phase)
    (gh : LoopId → Ledger) : Prop where
  phases : Phases S s ph
  watched : Watched (protocol S) evidence s gh
  closed : ∀ i, gh i = .closed
  named : EvidenceNamed tr s.world.store

theorem inOrder_start (now : Time) (nextId : UUID) :
    InOrder S [] (start now nextId) (fun _ => .quiet) fun _ => .closed where
  phases := Coupled.init (fun _ => rfl) (start_viewOk now nextId)
  watched := fun _ => .inl rfl
  closed := fun _ => rfl
  named := fun _ _ _ hid => nomatch hid

/-- Between two stretches no slot is open. -/
theorem watched_settled {s : State} {gh : LoopId → Ledger}
    (h : Watched (protocol S) evidence s gh) (i : LoopId) : (gh i).Settled := by
  have hi := h i
  cases hl : s.loops i with
  | none =>
    rw [hl] at hi
    exact hi
  | some pk =>
    rw [hl] at hi
    exact hi.1

/-- The stretch that a timely choice opens. -/
theorem booked_opening {tr : Trace} {s : State} {ph : LoopId → Phase} {gh : LoopId → Ledger}
    (h : InOrder S tr s ph gh) {ch : Choice LoopId Message Request Reply Nat} (ht : Timely ch s)
    {i : LoopId} {g : Bookkeeping}
    (hopen : (service S).opening ledgerOf gh s.world ch = some (i, g)) :
    Booked tr s.world.store i g ∧ g.cur = s.world := by
  cases ch with
  | deliver m =>
    obtain ⟨rfl, rfl⟩ := Prod.mk.inj (Option.some.inj hopen)
    exact ⟨.start (if_pos ht) h.named, rfl⟩
  | answer j y =>
    obtain ⟨rfl, rfl⟩ := Prod.mk.inj (Option.some.inj hopen)
    exact ⟨.start (h.closed j) h.named, rfl⟩
  | env t => exact absurd hopen nofun

/-- **A timely step keeps the books**, and loses no id. -/
theorem InOrder.step {tr os : Trace} {s s' : State} {ph : LoopId → Phase} {gh : LoopId → Ledger}
    (h : InOrder S tr s ph gh) {ch : Choice LoopId Message Request Reply Nat} (ht : Timely ch s)
    (hs : (service S).step ch s = some (os, s')) :
    (∃ ph' gh', InOrder S (tr ++ os) s' ph' gh') ∧ IdsKept s.world.store s'.world.store := by
  have hphases : ∃ ph', Phases S s' ph' := by
    rcases h.phases.step (service_implements S) hs with ⟨_, _, _, -, -, -, hph⟩ | ⟨-, -, -, hph⟩
    · exact ⟨_, hph⟩
    · exact ⟨_, hph⟩
  obtain ⟨ph', hph'⟩ := hphases
  rcases h.watched.step (service_implements S) (service_books S) h.phases hs with
    ⟨i, g, p', hopen, hchain, rfl, hworld, hwatched⟩ | ⟨hopen, rfl, -, hwatched⟩
  · obtain ⟨hbooked, hcur⟩ := booked_opening h ht hopen
    have hend := hchain.keeps (J := Booked tr s.world.store i) booked_write hbooked
    rw [hcur, ← hworld] at hend
    have hclosed : p' = .closed := by
      have hsettled := watched_settled hwatched i
      rw [Function.update_self] at hsettled
      rcases hsettled with hclosed | hloose
      · exact hclosed
      · exact absurd hloose hend.tight
    have hnotOpen : ∀ slot k id, p' ≠ .opened slot k id := by
      intro slot k id hopened
      cases hclosed.symm.trans hopened
    refine ⟨⟨ph', _, hph', hwatched, ?_, ?_⟩, ?_⟩
    · intro j
      by_cases hj : j = i
      · subst hj
        rw [Function.update_self]
        exact hclosed
      · rw [Function.update_of_ne hj]
        exact h.closed j
    · intro slot k id hid
      exact hend.named slot k (hnotOpen slot k) id hid
    · intro slot k id hid
      exact hend.kept slot k (hnotOpen slot k) id hid
  · -- only the clock moves
    have hstore : s'.world.store = s.world.store := by
      cases ch with
      | deliver m => exact absurd hopen nofun
      | answer j y => exact absurd hopen nofun
      | env t =>
        obtain ⟨-, rfl⟩ := Prod.mk.inj (Option.some.inj hs)
        rfl
    rw [List.append_nil]
    refine ⟨⟨ph', gh, hph', hwatched, h.closed, ?_⟩, ?_⟩
    · rw [hstore]
      exact h.named
    · intro slot k id hid
      rw [hstore]
      exact hid

theorem inOrder_of_timely {now : Time} {nextId : UUID} {tr : Trace} {s : State}
    (hrun : (service S).RunIf Timely (start now nextId) tr s) : ∃ ph gh, InOrder S tr s ph gh := by
  induction hrun with
  | nil => exact ⟨_, _, inOrder_start now nextId⟩
  | step _ ch ht hs ih =>
    obtain ⟨ph, gh, h⟩ := ih
    exact (h.step ht hs).1

/-- **Evidence ids name the evidence**, in every run all of whose results are timely: in every state
    that is reached the id of a slot is that of an event that was received for the case and whose
    finding was taken and is in the slot, and no step replaces an id. -/
theorem evidence_of_timely {now : Time} {nextId : UUID} {tr : Trace} {s : State}
    (hrun : (service S).RunIf Timely (start now nextId) tr s) :
    EvidenceNamed tr s.world.store ∧
      ∀ ch os s', Timely ch s → (service S).step ch s = some (os, s') →
        IdsKept s.world.store s'.world.store := by
  obtain ⟨ph, gh, h⟩ := inOrder_of_timely hrun
  exact ⟨h.named, fun _ _ _ ht hs => (h.step ht hs).2⟩

/-- A case that is delegated, and the approval of its billing peer. -/
def approvedSchedule : Schedule :=
  delegationSchedule ++ [.deliver (billingMessage "approve"), .answer .billing grant]

/-- The approval is timely, and its id stands beside its finding. -/
theorem evidence_of_timely_approval :
    ∃ tr s, (service sampleSettings).RunIf Timely (start 0 1000) tr s ∧
      (s.world.store.recorded .billing 1).1 = some 200 ∧ EvidenceNamed tr s.world.store := by
  have hexec : ((service sampleSettings).execIf Timely approvedSchedule (start 0 1000)).map
      (fun out => (out.2.world.store.recorded .billing 1).1) = some (some 200) := by
    decide +kernel
  obtain ⟨⟨tr, s⟩, hout, hid⟩ := Option.map_eq_some_iff.mp hexec
  have hrun := EventLoop.RunIf.of_execIf hout
  exact ⟨tr, s, hrun, hid, (evidence_of_timely hrun).1⟩

/-! ## A result that comes late -/

/-- A second result of the billing peer, a denial. -/
def strayMessage : Message :=
  .billingResult { eventId := 201, correlationId := 1, payload := some (sampleBilling "deny") }

/-- No result with this id was attached, and the billing results with it are denials. -/
def onlyDenied (id : UUID) : LoopId × Obs → Bool
  | (_, .attached envelope _ _ _) => envelope.eventId != id
  | (_, .received (.billingResult e)) =>
      e.eventId != id || e.payload.all fun p => (billingFinding p 0).eligibility == .ineligible
  | _ => true

/-- **The id of a result that was not attached stands beside the finding of another.** After the
    approval a denial of the same peer comes in. It is a duplicate, and the record keeps the
    approval, with the id of the denial. -/
theorem stray_result_takes_the_id :
    ∃ tr s r, (service sampleSettings).Run EventLoop.anyStep (start 0 1000) tr s ∧
      s.world.store.get 1 = some r ∧ r.billingResultEventId = some 201 ∧
      r.billingResult.map (·.eligibility) = some .eligible ∧
      (∀ i e p t, (i, .received (.billingResult e)) ∈ tr → e.eventId = 201 → e.payload = some p →
        (billingFinding p t).eligibility = .ineligible) ∧
      ¬ EvidenceNamed tr s.world.store := by
  have hexec : ((service sampleSettings).exec (approvedSchedule ++ [.deliver strayMessage])
      (start 0 1000)).map (fun out => (out.1.all (onlyDenied 201),
        (out.2.world.store.get 1).map fun r =>
          (r.billingResultEventId, r.billingResult.map (·.eligibility)))) =
      some (true, some (some 201, some .eligible)) := by
    decide +kernel
  obtain ⟨⟨tr, s⟩, hout, heq⟩ := Option.map_eq_some_iff.mp hexec
  simp only [Prod.mk.injEq] at heq
  obtain ⟨hdenied, heq⟩ := heq
  obtain ⟨r, hr, heq⟩ := Option.map_eq_some_iff.mp heq
  simp only [Prod.mk.injEq] at heq
  obtain ⟨hid, heligible⟩ := heq
  rw [List.all_eq_true] at hdenied
  refine ⟨tr, s, r, .of_exec hout fun _ _ _ => trivial, hr, hid, heligible, ?_, ?_⟩
  · intro i e p t hreceived heid hp
    have h := hdenied _ hreceived
    simp only [onlyDenied, heid, hp, Option.all_some, bne_self_eq_false, Bool.false_or,
      beq_iff_eq] at h
    exact h
  · intro hnamed
    have hrecorded := InMemoryCaseStateStore.recorded_of_get hr .billing
    obtain ⟨f, -, hsource⟩ := hnamed .billing 1 201 (by rw [hrecorded]; exact hid)
    generalize heid : (201 : UUID) = id at hsource hdenied
    cases hsource with
    | billing _ _ _ hattached =>
      have h := hdenied _ hattached
      simp [onlyDenied, Inbound.ref] at h

end RefundOps.Resolution
