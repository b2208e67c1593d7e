import RefundOps.Lib.Writes
import RefundOps.Resolution.Protocol.ServiceConformance
import RefundOps.Resolution.Store.Operations

/-!
# Watching the evidence

A second watch over the handlers, about four fields of a record: the two findings, and the ids of
the events they came with. A *slot* of a case is written to in one way: the id first, then the
finding, and after that the slot has to be accounted for, by an event that was received and
attached. A program that writes to no slot is `Neutral`, and nearly all of them are; they are put
together without a look at the protocol.

A message that may write an id without its finding starts with the ledger `loose`, in which anything
goes.
-/

set_option autoImplicit false

namespace RefundOps.Resolution

/-! ## Slots -/

/-- The opinions a case waits for. -/
inductive Slot where
  | billing
  | risk
  deriving DecidableEq

/-- The id and the finding in a slot of a record. -/
def ResolutionCase.recorded (r : ResolutionCase) : Slot → Option UUID × Option Finding
  | .billing => (r.billingResultEventId, r.billingResult.map .billing)
  | .risk => (r.riskResultEventId, r.riskResult.map .risk)

/-- The slots of a case; those of a case that is not there are empty. -/
def InMemoryCaseStateStore.recorded (st : InMemoryCaseStateStore) (slot : Slot) (k : UUID) :
    Option UUID × Option Finding :=
  match st.get k with
  | some r => r.recorded slot
  | none => (none, none)

theorem InMemoryCaseStateStore.recorded_of_get {st : InMemoryCaseStateStore} {k : UUID}
    {r : ResolutionCase} (h : st.get k = some r) (slot : Slot) :
    st.recorded slot k = r.recorded slot := by
  unfold InMemoryCaseStateStore.recorded
  rw [h]

theorem InMemoryCaseStateStore.recorded_parkBillingResult (st : InMemoryCaseStateStore) (k : UUID)
    (payload : BillingRefundAnalysisCompletedPayload) :
    (st.parkBillingResult k payload).recorded = st.recorded := by
  funext slot j
  simp only [recorded, parkBillingResult, get]

theorem InMemoryCaseStateStore.recorded_parkRiskResult (st : InMemoryCaseStateStore) (k : UUID)
    (payload : RiskReviewCompletedPayload) :
    (st.parkRiskResult k payload).recorded = st.recorded := by
  funext slot j
  simp only [recorded, parkRiskResult, get]

/-- **The event that a finding came with**: it was received, and its finding was attached, or
    escalated on at once. -/
inductive Source (tr : Trace) (k : UUID) : Slot → UUID → Finding → Prop where
  | billing {e : Inbound BillingRefundAnalysisCompletedPayload}
      {p : BillingRefundAnalysisCompletedPayload} {t : UUID}
      (hreceived : (.billing, .received (.billingResult e)) ∈ tr) (hcase : e.correlationId = k)
      (hp : e.payload = some p)
      (hattached : (.billing, .attached e.ref k t (.billing (billingFinding p t))) ∈ tr) :
      Source tr k .billing e.eventId (.billing (billingFinding p t))
  | risk {e : Inbound RiskReviewCompletedPayload} {p : RiskReviewCompletedPayload} {t : UUID}
      (hreceived : (.risk, .received (.riskResult e)) ∈ tr) (hcase : e.correlationId = k)
      (hp : e.payload = some p)
      (hattached : (.risk, .attached e.ref k t (.risk (riskFinding p t))) ∈ tr) :
      Source tr k .risk e.eventId (.risk (riskFinding p t))
  | escalated {e : Inbound RiskReviewCompletedPayload} {p : RiskReviewCompletedPayload} {t : UUID}
      (hreceived : (.risk, .received (.riskResult e)) ∈ tr) (hcase : e.correlationId = k)
      (hp : e.payload = some p) (hhigh : (riskFinding p t).highRisk = true)
      (hclaimed : (.risk, .claimed k) ∈ tr) :
      Source tr k .risk e.eventId (.risk (riskFinding p t))

theorem Source.mono {tr tr' : Trace} {k : UUID} {slot : Slot} {id : UUID} {f : Finding}
    (h : Source tr k slot id f) (hsub : tr ⊆ tr') : Source tr' k slot id f := by
  cases h with
  | billing hreceived hcase hp hattached =>
    exact .billing (hsub hreceived) hcase hp (hsub hattached)
  | risk hreceived hcase hp hattached => exact .risk (hsub hreceived) hcase hp (hsub hattached)
  | escalated hreceived hcase hp hhigh hclaimed =>
    exact .escalated (hsub hreceived) hcase hp hhigh (hsub hclaimed)

/-! ## The watch -/

/-- What a handler is doing to a slot: nothing, or writing to it for the event `id`. -/
inductive Ledger where
  | closed
  | opened (slot : Slot) (k id : UUID)
  | loose

abbrev Bookkeeping := Seg World Obs Ledger

/-- The other slots stay as they are. -/
def Beside (slot : Slot) (k : UUID) (st st' : InMemoryCaseStateStore) : Prop :=
  ∀ slot' k', (slot', k') ≠ (slot, k) → st'.recorded slot' k' = st.recorded slot' k'

/-- A slot may be written to if it has no id yet, or this one. -/
def Writable (g : Bookkeeping) (slot : Slot) (k id : UUID) : Prop :=
  g.phase = .opened slot k id ∨ g.phase = .closed ∧
    ((g.cur.store.recorded slot k).1 = none ∨ (g.cur.store.recorded slot k).1 = some id)

/-- One write: beside the slots, into an open one, one that closes it, or any while the ledger is
    loose. -/
inductive Booking (i : LoopId) (g : Bookkeeping) : List Obs → World → Ledger → Prop where
  | aside {os : List Obs} {w' : World} (h : w'.store.recorded = g.cur.store.recorded) :
      Booking i g os w' g.phase
  | enter {w' : World} {slot : Slot} {k id : UUID} (hw : Writable g slot k id)
      (hb : Beside slot k g.cur.store w'.store) : Booking i g [] w' (.opened slot k id)
  | close {os : List Obs} {w' : World} {slot : Slot} {k id : UUID} {f : Finding}
      (hw : Writable g slot k id) (hb : Beside slot k g.cur.store w'.store)
      (hrecorded : w'.store.recorded slot k = (some id, some f))
      (hsource : Source ((g.obs ++ os).map (i, ·)) k slot id f) : Booking i g os w' .closed
  | loose {os : List Obs} {w' : World} (h : g.phase = .loose) : Booking i g os w' .loose

/-- No slot is left open. -/
def Ledger.Settled (p : Ledger) : Prop := p = .closed ∨ p = .loose

/-- The watch over the evidence. -/
def evidence : Watch LoopId World Obs Request Ledger where
  Write := Booking
  Ask := fun p _ => p.Settled
  Ends := Ledger.Settled

variable {S : Settings} {i : LoopId}

/-- While the ledger is loose anything goes. -/
theorem obeys_loose {α : Type} (m : M α) {g : Bookkeeping} (h : g.phase = .loose) :
    m.obeys (protocol S) evidence i (fun _ g => g.phase.Settled) (fun _ g => g.phase.Settled) g := by
  induction m generalizing g with
  | pure a => exact .inr h
  | raise e => exact .inr h
  | get k ih => exact ih g.cur h
  | commit s os k ih => exact ⟨.loose, .loose h, ih rfl⟩
  | await x k ih => exact ⟨.inr h, fun s _ _ y => ih y h⟩

/-! ## Neutral programs -/

/-- The store files every record under its own id. -/
def Filed (st : InMemoryCaseStateStore) : Prop := ∀ k r, st.get k = some r → r.caseId = k

theorem ViewOk.filed {w : World} (h : ViewOk S w.view) : Filed w.store := by
  intro k r hr
  exact (h.case k _ (InMemoryCaseStateStore.view_cases_of_get hr)).caseId

/-- Between two writes to the slots, with the records of the cases `K` there. -/
structure Ready (K : Set UUID) (g : Bookkeeping) : Prop where
  closed : g.phase = .closed
  filed : Filed g.cur.store
  known : ∀ k ∈ K, ∃ r, g.cur.store.get k = some r

/-- The program writes to no slot. -/
abbrev Neutral {α : Type} (S : Settings) (i : LoopId) (K : Set UUID) (m : M α) : Prop :=
  m.Within (protocol S) evidence i (Ready K)

/-- No record is lost, and every record stays filed under its own id. -/
structure Files (st st' : InMemoryCaseStateStore) : Prop where
  filed : Filed st → Filed st'
  known : ∀ k r, st.get k = some r → ∃ r', st'.get k = some r'

theorem Files.trans {st st' st'' : InMemoryCaseStateStore} (h : Files st st') (h' : Files st' st'') :
    Files st st'' where
  filed := fun hfiled => h'.filed (h.filed hfiled)
  known := by
    intro k r hr
    obtain ⟨r', hr'⟩ := h.known k r hr
    exact h'.known k r' hr'

/-- Moreover, no slot is written to. -/
structure KeepsSlots (st st' : InMemoryCaseStateStore) : Prop extends Files st st' where
  recorded : st'.recorded = st.recorded

theorem KeepsSlots.refl (st : InMemoryCaseStateStore) : KeepsSlots st st :=
  ⟨⟨id, fun _ r hr => ⟨r, hr⟩⟩, rfl⟩

theorem Ready.files {K : Set UUID} {g : Bookkeeping} {w' : World} {os : List Obs} (h : Ready K g)
    (hst : Files g.cur.store w'.store) : Ready K ⟨.closed, g.base, os, w'⟩ where
  closed := rfl
  filed := hst.filed h.filed
  known := by
    intro k hk
    obtain ⟨r, hr⟩ := h.known k hk
    exact hst.known k r hr

theorem Ready.silent {K : Set UUID} {g : Bookkeeping} {w' : World} {os : List Obs} (h : Ready K g)
    (hst : Files g.cur.store w'.store) : Ready K ⟨g.phase, g.base, os, w'⟩ := by
  have hready : Ready K ⟨.closed, g.base, os, w'⟩ := h.files hst
  rw [← h.closed] at hready
  exact hready

theorem Files.of_fate {st st' : InMemoryCaseStateStore} {op : Operation}
    (hfate : ∀ k, Fate k op (st.get k) (st'.get k)) : Files st st' where
  filed := by
    intro hfiled k r hr
    have h := hfate k
    generalize hbefore : st.get k = before at h
    rw [hr] at h
    cases h with
    | created hc =>
      cases hc with
      | opened => rfl
      | saved hk => exact hk
    | kept => exact hfiled k _ hbefore
    | rewritten he => exact he.caseId (hfiled k _ hbefore)
  known := by
    intro k r hr
    have h := hfate k
    rw [hr] at h
    generalize st'.get k = after at h
    cases h with
    | kept => exact ⟨_, rfl⟩
    | rewritten => exact ⟨_, rfl⟩

/-- What a call may do to a record beside its slots: keep them, and create records whose slots are
    empty. -/
theorem KeepsSlots.of_fate {st st' : InMemoryCaseStateStore} (op : Operation)
    (hfate : ∀ k, Fate k op (st.get k) (st'.get k))
    (hrewrite : ∀ k r, st.get k = some r → op.Effective k r → (op.rewrite r).recorded = r.recorded)
    (hcreated : ∀ k r, st.get k = none → Created k op r →
      r.recorded = fun _ => (none, none)) : KeepsSlots st st' where
  toFiles := .of_fate hfate
  recorded := by
    funext slot k
    have h := hfate k
    unfold InMemoryCaseStateStore.recorded
    generalize hbefore : st.get k = before at h
    generalize st'.get k = after at h
    cases h with
    | absent => rfl
    | created hc => exact congrFun (hcreated k _ hbefore hc) slot
    | kept => rfl
    | rewritten he => exact congrFun (hrewrite k _ hbefore he) slot

/-! ### The calls of the store -/

section Calls

variable {st : InMemoryCaseStateStore}

/-- A call of another kind than `save` and `apply_result` writes to no slot. -/
theorem keepsSlots_run (op : Operation) (hsave : ∀ c v now, op ≠ .save c v now)
    (happly : ∀ k t f now, op ≠ .applyResult k t f now) : KeepsSlots st (op.run st).2 := by
  refine .of_fate op (fun k => InMemoryCaseStateStore.run_get op st k) ?_ ?_
  · intro k r _ _
    cases op with
    | save c v now => exact absurd rfl (hsave c v now)
    | applyResult k t f now => exact absurd rfl (happly k t f now)
    | markSlotFailed _ _ b =>
      funext slot
      cases b <;> cases slot <;> rfl
    | getOrCreate | transition | addPendingTask | claimDecision | setDeadline
    | listTimedOutCases =>
      funext slot
      cases slot <;> rfl
  · intro k r _ hc
    cases hc with
    | opened =>
      funext slot
      cases slot <;> rfl
    | saved => exact absurd rfl (hsave _ _ _)

/-- Saving the record that is there. -/
theorem keepsSlots_save {r : ResolutionCase} (hr : st.get r.caseId = some r) (now : Time) :
    ∃ st', st.save r none now = some st' ∧ KeepsSlots st st' := by
  have hsave := InMemoryCaseStateStore.save_fresh hr (v := none) (fun _ h => nomatch h) now
  refine ⟨_, hsave, .of_fate (.save r none now) (fun k => ?_) ?_ ?_⟩
  · have hfate := InMemoryCaseStateStore.run_get (.save r none now) st k
    have hrun : (Operation.save r none now).run st =
        (.returned, st.saved r (r.version + 1) now) := by
      simp only [Operation.run, hsave, Operation.attempt]
    rw [hrun] at hfate
    exact hfate
  · intro k x hx heff
    obtain rfl : r.caseId = k := heff.1
    obtain rfl : r = x := Option.some.inj (hr.symm.trans hx)
    funext slot
    cases slot <;> rfl
  · intro k x hnone hc
    cases hc with
    | saved hk =>
      rw [hk, hnone] at hr
      cases hr

theorem files_modify {k : UUID} {f : ResolutionCase → ResolutionCase}
    (hid : ∀ r, (f r).caseId = r.caseId) : Files st (st.modify k f) := by
  unfold InMemoryCaseStateStore.modify
  cases hk : st.cases.get? k with
  | none => exact (KeepsSlots.refl st).toFiles
  | some c =>
    have hget : st.get k = some c := hk
    refine ⟨?_, ?_⟩
    · intro hfiled j r hr
      rw [InMemoryCaseStateStore.get_setCase] at hr
      by_cases hj : j = k
      · subst hj
        rw [if_pos rfl] at hr
        obtain rfl := Option.some.inj hr
        exact (hid c).trans (hfiled j c hget)
      · rw [if_neg hj] at hr
        exact hfiled j r hr
    · intro j r hr
      rw [InMemoryCaseStateStore.get_setCase]
      by_cases hj : j = k
      · exact ⟨f c, if_pos hj⟩
      · exact ⟨r, (if_neg hj).trans hr⟩

/-- An assignment that keeps what is in a slot. -/
theorem recorded_modify {k : UUID} {f : ResolutionCase → ResolutionCase} {slot : Slot}
    (hf : ∀ r, st.get k = some r → (f r).recorded slot = r.recorded slot) (j : UUID) :
    (st.modify k f).recorded slot j = st.recorded slot j := by
  by_cases hj : j = k
  · subst hj
    cases hr : st.get j with
    | none =>
      have hr' : st.cases.get? j = none := hr
      unfold InMemoryCaseStateStore.modify
      rw [hr']
    | some r =>
      rw [InMemoryCaseStateStore.recorded_of_get (InMemoryCaseStateStore.get_modify_self hr f),
        InMemoryCaseStateStore.recorded_of_get hr]
      exact hf r hr
  · unfold InMemoryCaseStateStore.recorded
    rw [InMemoryCaseStateStore.get_modify_ne st f hj]

/-- An assignment to other fields. -/
theorem keepsSlots_modify {k : UUID} {f : ResolutionCase → ResolutionCase}
    (hid : ∀ r, (f r).caseId = r.caseId)
    (hf : ∀ r, st.get k = some r → (f r).recorded = r.recorded) : KeepsSlots st (st.modify k f) where
  toFiles := files_modify hid
  recorded := by
    funext slot j
    exact recorded_modify (fun r hr => congrFun (hf r hr) slot) j

end Calls

/-! ### The operations -/

section Operations

variable {K : Set UUID} {α : Type}

theorem neutral_datetimeNow : Neutral S i K datetimeNow := fun _ h => h

theorem neutral_observe (o : Obs) : Neutral S i K (Coro.observe o) :=
  fun _ h => ⟨_, .aside rfl, h.silent (KeepsSlots.refl _).toFiles⟩

theorem neutral_write {g : Bookkeeping} {w' : World} (h : Ready K g)
    (hst : KeepsSlots g.cur.store w'.store) :
    (Coro.write w' : M Unit).obeys (protocol S) evidence i (fun _ => Ready K) (fun _ => Ready K)
      g :=
  ⟨_, .aside hst.recorded, h.silent hst.toFiles⟩

theorem neutral_uuid4 : Neutral S i K uuid4 := by
  intro g h
  refine Coro.obeys_bind.mpr ?_
  refine Coro.obeys_bind.mpr ?_
  refine Coro.obeys_mono (fun _ _ h' => h') (fun _ _ h' => h') (neutral_write h (.refl _))

theorem neutral_withStore {f : InMemoryCaseStateStore → α × InMemoryCaseStateStore}
    (hf : ∀ st, KeepsSlots st (f st).2) : Neutral S i K (withStore f) := by
  intro g h
  refine Coro.obeys_bind.mpr ?_
  refine Coro.obeys_bind.mpr ?_
  exact Coro.obeys_mono (fun _ _ h' => h') (fun _ _ h' => h') (neutral_write h (hf g.cur.store))

theorem neutral_updateStore {err : String}
    {f : InMemoryCaseStateStore → Option InMemoryCaseStateStore}
    (hf : ∀ st st', f st = some st' → KeepsSlots st st') : Neutral S i K (updateStore err f) := by
  intro g h
  rw [updateStore_eq]
  refine Coro.obeys_bind.mpr ?_
  show Coro.obeys (protocol S) evidence i _ _ ((f g.cur.store).elim (throw err) fun st =>
    Coro.write { g.cur with store := st }) g
  cases hst : f g.cur.store with
  | none => exact h
  | some st => exact neutral_write h (hf _ _ hst)

theorem neutral_assign {c : ResolutionCase} {f : ResolutionCase → ResolutionCase}
    (hid : ∀ r, (f r).caseId = r.caseId) (hf : ∀ r, (f r).recorded = r.recorded) :
    Neutral S i K (assign c f) :=
  neutral_withStore fun _ => keepsSlots_modify hid fun r _ => hf r

/-- An assignment to other fields than the id of the case and those of the slots. -/
theorem neutral_minor {c : ResolutionCase} {f : ResolutionCase → ResolutionCase}
    (hf : ∀ r, ((f r).caseId, (f r).billingResultEventId, (f r).billingResult,
      (f r).riskResultEventId, (f r).riskResult) =
        (r.caseId, r.billingResultEventId, r.billingResult, r.riskResultEventId, r.riskResult)) :
    Neutral S i K (assign c f) := by
  refine neutral_assign (fun r => congrArg Prod.fst (hf r)) ?_
  intro r
  have h := hf r
  simp only [Prod.mk.injEq] at h
  obtain ⟨-, hbid, hb, hrid, hr⟩ := h
  funext slot
  cases slot with
  | billing => simp only [ResolutionCase.recorded, hbid, hb]
  | risk => simp only [ResolutionCase.recorded, hrid, hr]

/-- The record behind a reference, if it is one of the known, is a reference to the same case. -/
theorem neutral_deref {c : ResolutionCase} {f : ResolutionCase → M α} (hc : c.caseId ∈ K)
    (hf : ∀ r, r.caseId = c.caseId → Neutral S i K (f r)) : Neutral S i K (deref c >>= f) := by
  intro g h
  obtain ⟨r, hr⟩ := h.known _ hc
  refine Coro.obeys_bind.mpr ?_
  show Coro.obeys (protocol S) evidence i _ _ (f ((g.cur.store.get c.caseId).getD c)) g
  rw [hr]
  exact hf r (h.filed _ _ hr) g h

theorem neutral_save {c : ResolutionCase} (hc : c.caseId ∈ K) : Neutral S i K (save c) := by
  intro g h
  obtain ⟨r, hr⟩ := h.known _ hc
  have hrid := h.filed _ _ hr
  obtain ⟨st', hst, hharm⟩ := keepsSlots_save (hrid.symm ▸ hr) g.cur.now
  refine Coro.obeys_bind.mpr ?_
  show Coro.obeys (protocol S) evidence i _ _ (datetimeNow >>= fun now =>
    updateStore "CaseSaveConflict" fun st =>
      st.save ((g.cur.store.get c.caseId).getD c) none now) g
  rw [hr]
  simp only [updateStore_eq]
  show Coro.obeys (protocol S) evidence i _ _ ((g.cur.store.save r none g.cur.now).elim
    (throw "CaseSaveConflict") fun st => Coro.write { g.cur with store := st }) g
  rw [hst]
  exact neutral_write h hharm

/-- Nothing is known after a suspension but that the records are still there. -/
theorem Ready.resume {g : Bookkeeping} {w : World} (h : Ready K g)
    (hrely : (protocol S).Rely i g.cur w) (hok : ViewOk S w.view) :
    Ready K ⟨g.phase, w, [], w⟩ where
  closed := h.closed
  filed := hok.filed
  known := by
    intro k hk
    obtain ⟨r, hr⟩ := h.known k hk
    obtain ⟨x, hx, -⟩ := grows_rely hrely k _ (InMemoryCaseStateStore.view_cases_of_get hr)
    obtain ⟨r', hr', -⟩ := InMemoryCaseStateStore.view_cases_iff.mp hx
    exact ⟨r', hr'⟩

theorem neutral_request (x : Request) : Neutral S i K (Coro.request x) :=
  fun _ h => ⟨.inl h.closed, fun _ hrely hok _ => h.resume hrely hok⟩

theorem neutral_sendAndWait (ev : OutEvent) : Neutral S i K (sendAndWait ev) := by
  refine (neutral_request _).bind ?_
  intro sent
  cases sent with
  | ok u => exact (neutral_observe _).bind fun _ => Coro.within_pure _
  | error e => exact (neutral_observe _).bind fun _ => Coro.within_throw _

theorem neutral_publish (payload : OutPayload) (correlationId causationId : UUID) :
    Neutral S i K (publish payload correlationId causationId) :=
  neutral_uuid4.bind fun _ => neutral_sendAndWait _

theorem neutral_writeTaskAudit (envelope : EventRef) (outcome : AuditOutcome)
    (taskId : Option UUID) (reason : Option String) (h : outcome.reasonOk reason = true) :
    Neutral S i K (writeTaskAudit envelope outcome taskId reason h) :=
  neutral_datetimeNow.bind fun _ => neutral_uuid4.bind fun _ => (neutral_request _).bind fun _ =>
    Coro.within_pure _

end Operations

/-! ### The programs -/

section Programs

variable {K : Set UUID} {c : ResolutionCase}

theorem neutral_claimDecision : Neutral S i K (claimDecision c) := by
  refine neutral_datetimeNow.bind fun now => ?_
  refine (neutral_withStore fun st => ?_).bind fun won => ?_
  · exact keepsSlots_run (.claimDecision c.caseId now) (fun _ _ _ => nofun) (fun _ _ _ _ => nofun)
  · cases won with
    | true => exact (neutral_observe _).bind fun _ => Coro.within_pure _
    | false => exact (Coro.within_pure _).bind fun _ => Coro.within_pure _

theorem neutral_emitDecisionAndDraft (d : CustomerResponseDecisionPayload) (causationId : UUID) :
    Neutral S i K (emitDecisionAndDraft c d causationId) := by
  refine (neutral_publish _ _ _).bind fun decided => ?_
  refine Coro.Within.bind (neutral_minor fun _ => rfl) fun _ => ?_
  refine (neutral_writeTaskAudit _ _ _ _ _).bind fun _ => ?_
  refine neutral_datetimeNow.bind fun draftedAt => ?_
  dsimp only
  split
  · refine (neutral_publish _ _ _).bind fun drafted => ?_
    exact Coro.Within.bind (neutral_minor fun _ => rfl) fun _ =>
      Coro.within_pure _
  · exact Coro.within_throw _

/-- The last two statements of every emission. -/
theorem neutral_finish (s : CaseStatus) (hc : c.caseId ∈ K) :
    Neutral S i K (do assign c (fun c => { c with status := s }); save c) :=
  Coro.Within.bind (neutral_minor fun _ => rfl) fun _ =>
    neutral_save hc

theorem neutral_applyDecision (causationId : UUID) (hc : c.caseId ∈ K) :
    Neutral S i K (applyDecision c causationId) := by
  refine neutral_claimDecision.bind fun won => ?_
  split
  swap
  · exact Coro.within_pure _
  refine neutral_deref hc fun r hr => ?_
  refine neutral_datetimeNow.bind fun now => ?_
  refine (neutral_observe _).bind fun _ => ?_
  refine (neutral_emitDecisionAndDraft _ _).bind fun _ => ?_
  exact neutral_finish .decided (hr ▸ hc)

theorem neutral_decideIfReady (causationId : UUID) (hc : c.caseId ∈ K) :
    Neutral S i K (decideIfReady c causationId) := by
  refine neutral_deref hc fun r hr => ?_
  split
  · exact neutral_applyDecision causationId (hr ▸ hc)
  · exact Coro.within_pure _

theorem neutral_markSlotFailed (taskId : UUID) (isBilling : Bool) (reason : String)
    (hc : c.caseId ∈ K) : Neutral S i K (markSlotFailed c taskId isBilling reason) := by
  refine neutral_datetimeNow.bind fun now => ?_
  refine neutral_deref hc fun r hr => ?_
  refine (neutral_observe _).bind fun _ => ?_
  exact neutral_withStore fun st => keepsSlots_run (.markSlotFailed c.caseId taskId isBilling reason now)
    (fun _ _ _ => nofun) (fun _ _ _ _ => nofun)

/-! The intake. -/

theorem neutral_triageTicket (envelope : EventRef) (ticket : SupportTicketCreatedPayload) :
    Neutral S i K (triageTicket S envelope ticket) := by
  unfold triageTicket
  split
  · refine (neutral_request _).bind fun answer => ?_
    cases answer with
    | ok c => exact Coro.within_pure _
    | error e => exact Coro.within_pure _
  · exact Coro.within_pure _

theorem neutral_respondDirectly (ticket : SupportTicketCreatedPayload) (triage : Triage)
    (causationId : UUID) (hc : c.caseId ∈ K) :
    Neutral S i K (respondDirectly c ticket triage causationId) :=
  (neutral_emitDecisionAndDraft _ _).bind fun _ => neutral_finish .closed hc

theorem neutral_escalateDelegationFailure (ticket : SupportTicketCreatedPayload)
    (causationId : UUID) (exc : String) (hc : c.caseId ∈ K) :
    Neutral S i K (escalateDelegationFailure c ticket causationId exc) := by
  refine neutral_deref hc fun cur _ => ?_
  refine (neutral_observe _).bind fun _ => ?_
  refine (neutral_emitDecisionAndDraft _ _).bind fun _ => ?_
  exact neutral_finish .escalated hc

/-- A peer whose task id is one of the two of the record. -/
theorem neutral_mintTaskId {peer : Peer} (hpeer : peer = billingPeer ∨ peer = riskPeer)
    (hc : c.caseId ∈ K) : Neutral S i K (mintTaskId S peer c) := by
  refine neutral_deref hc fun cur _ => ?_
  split
  · exact Coro.within_pure _
  · refine Coro.Within.bind ?_ fun _ => Coro.within_pure _
    rcases hpeer with rfl | rfl
    · exact neutral_minor fun _ => rfl
    · exact neutral_minor fun _ => rfl

theorem neutral_requestAnalysis {peer : Peer} (hpeer : peer = billingPeer ∨ peer = riskPeer)
    (envelope : EventRef) (hc : c.caseId ∈ K) :
    Neutral S i K (requestAnalysis S peer c envelope) := by
  refine Coro.Within.bind ?_ fun _ => ?_
  · refine (neutral_request _).bind fun found => ?_
    refine (Coro.within_ofExcept _).bind fun cards => ?_
    split
    · exact Coro.within_pure _
    · exact Coro.within_throw _
  · refine (neutral_mintTaskId hpeer hc).bind fun taskId => ?_
    refine neutral_deref hc fun cur _ => ?_
    exact (neutral_publish _ _ _).bind fun _ => Coro.within_pure _

theorem neutral_announceReviews (envelope : EventRef) (hc : c.caseId ∈ K) :
    Neutral S i K (announceReviews c envelope) := by
  refine neutral_deref hc fun cur _ => ?_
  split
  · exact neutral_datetimeNow.bind fun _ => (neutral_publish _ _ _).bind fun _ =>
      Coro.within_pure _
  · exact Coro.within_pure _

theorem neutral_addPendingTask (taskId : UUID) :
    Neutral S i K (updateStore "KeyError" fun st => st.addPendingTask c.caseId taskId) := by
  refine neutral_updateStore fun st st' hst => ?_
  have hharm : KeepsSlots st ((Operation.addPendingTask c.caseId taskId).run st).2 :=
    keepsSlots_run (.addPendingTask c.caseId taskId) (fun _ _ _ => nofun) (fun _ _ _ _ => nofun)
  simp only [Operation.run, hst, Operation.attempt] at hharm
  exact hharm

theorem neutral_delegate (envelope : EventRef) (hc : c.caseId ∈ K) :
    Neutral S i K (delegate S c envelope) := by
  refine (neutral_mintTaskId (.inl rfl) hc).bind fun billingTaskId => ?_
  refine (neutral_mintTaskId (.inr rfl) hc).bind fun riskTaskId => ?_
  refine (neutral_addPendingTask _).bind fun _ => (neutral_addPendingTask _).bind fun _ => ?_
  refine (neutral_requestAnalysis (.inl rfl) _ hc).bind fun _ => ?_
  refine (neutral_requestAnalysis (.inr rfl) _ hc).bind fun _ => ?_
  exact neutral_announceReviews _ hc

theorem neutral_delegateReviews (ticket : SupportTicketCreatedPayload) (envelope : EventRef)
    (hc : c.caseId ∈ K) : Neutral S i K (delegateReviews S c ticket envelope) := by
  refine neutral_datetimeNow.bind fun now => ?_
  refine Coro.Within.bind (neutral_minor fun _ => rfl) fun _ => ?_
  refine (neutral_save hc).bind fun _ => ?_
  refine Coro.Within.tryCatch ?_ fun exc => neutral_escalateDelegationFailure _ _ _ hc
  exact (neutral_delegate _ hc).bind fun _ => neutral_save hc

end Programs

/-! ## Writing to a slot -/

/-- The slot of a finding. -/
def Finding.slot : Finding → Slot
  | .billing _ => .billing
  | .risk _ => .risk

/-- The id that a handler writes before it attaches a finding. -/
def ResolutionCase.mark (slot : Slot) (id : UUID) (r : ResolutionCase) : ResolutionCase :=
  match slot with
  | .billing => { r with billingResultEventId := some id }
  | .risk => { r with riskResultEventId := some id }

theorem ResolutionCase.mark_recorded (slot : Slot) (id : UUID) (r : ResolutionCase) :
    (r.mark slot id).recorded slot = (some id, (r.recorded slot).2) := by
  cases slot <;> rfl

theorem ResolutionCase.mark_other {slot slot' : Slot} (h : slot' ≠ slot) (id : UUID)
    (r : ResolutionCase) : (r.mark slot id).recorded slot' = r.recorded slot' := by
  cases slot <;> cases slot' <;> first | rfl | exact absurd rfl h

theorem ResolutionCase.mark_fields (slot : Slot) (id : UUID) (r : ResolutionCase) :
    (r.mark slot id).caseId = r.caseId ∧ (r.mark slot id).status = r.status ∧
      (r.mark slot id).pendingTasks = r.pendingTasks := by
  cases slot <;> exact ⟨rfl, rfl, rfl⟩

/-- A finding that is offered for `t` is attached. -/
def ResolutionCase.Takes (r : ResolutionCase) (t : UUID) : Prop :=
  undecided r.status = true ∧ t ∈ r.pendingTasks

section Slots

variable {st : InMemoryCaseStateStore} {r : ResolutionCase} {k t : UUID}

theorem beside_modify {slot : Slot} {f : ResolutionCase → ResolutionCase}
    (hf : ∀ r slot', slot' ≠ slot → (f r).recorded slot' = r.recorded slot') :
    Beside slot k st (st.modify k f) := by
  intro slot' k' hne
  by_cases hk : k' = k
  · subst hk
    have hslot : slot' ≠ slot := fun h => hne (h ▸ rfl)
    exact recorded_modify (fun r _ => hf r slot' hslot) k'
  · unfold InMemoryCaseStateStore.recorded
    rw [InMemoryCaseStateStore.get_modify_ne st f hk]

/-- **Attaching a finding puts it into its slot**, and leaves the id as it is. -/
theorem recorded_applyResult {f : Finding} (now : Time) (hr : st.get k = some r)
    (htakes : r.Takes t) :
    Beside f.slot k st (st.applyResult k t f now).2 ∧
      (st.applyResult k t f now).2.recorded f.slot k = ((r.recorded f.slot).1, some f) ∧
      Files st (st.applyResult k t f now).2 := by
  have hfate : ∀ j, Fate j (.applyResult k t f now) (st.get j)
      ((st.applyResult k t f now).2.get j) :=
    fun j => InMemoryCaseStateStore.run_get (.applyResult k t f now) st j
  have hself : (st.applyResult k t f now).2.get k =
      some ((Operation.applyResult k t f now).rewrite r) := by
    have h := hfate k
    rw [hr] at h
    generalize (st.applyResult k t f now).2.get k = after at h ⊢
    cases h with
    | kept hidle => exact absurd ⟨rfl, htakes⟩ hidle
    | rewritten => rfl
  refine ⟨?_, ?_, .of_fate hfate⟩
  · intro slot' k' hne
    by_cases hk : k' = k
    · subst hk
      rw [InMemoryCaseStateStore.recorded_of_get hself, InMemoryCaseStateStore.recorded_of_get hr]
      cases f <;> cases slot' <;> first | rfl | exact absurd rfl hne
    · unfold InMemoryCaseStateStore.recorded
      rw [(hfate k').unchanged fun h => hk (Option.some.inj h).symm]
  · rw [InMemoryCaseStateStore.recorded_of_get hself]
    cases f <;> rfl

end Slots

section Attaching

variable {α : Type} {g : Bookkeeping} {c r : ResolutionCase} {t : UUID} {f : Finding}
  {envelope : EventRef} {E : String → Bookkeeping → Prop}

theorem obeys_store {m : InMemoryCaseStateStore → α × InMemoryCaseStateStore} {p : Ledger}
    {Q : α → Bookkeeping → Prop}
    (hw : Booking i g [] { g.cur with store := (m g.cur.store).2 } p)
    (h : Q (m g.cur.store).1 ⟨p, g.base, g.obs, { g.cur with store := (m g.cur.store).2 }⟩) :
    (withStore m).obeys (protocol S) evidence i Q E g := by
  refine Coro.obeys_bind.mpr ?_
  refine Coro.obeys_bind.mpr ?_
  refine ⟨p, hw, ?_⟩
  rw [List.append_nil]
  exact h

theorem obeys_record {Q : ResolutionCase → Bookkeeping → Prop}
    (hr : g.cur.store.get c.caseId = some r) (h : Q r g) :
    (deref c).obeys (protocol S) evidence i Q E g := by
  show Q ((g.cur.store.get c.caseId).getD c) g
  rw [hr]
  exact h

theorem obeys_now {Q : Time → Bookkeeping → Prop} (h : Q g.cur.now g) :
    datetimeNow.obeys (protocol S) evidence i Q E g := h

/-- A result that is attached: the id goes in first, and the note that the finding is attached
    closes the slot. -/
theorem obeys_attach (hready : Ready {c.caseId} g) (hr : g.cur.store.get c.caseId = some r)
    (htakes : r.Takes t) (hw : Writable g f.slot c.caseId envelope.eventId)
    (hsource : Source ((g.obs ++ [Obs.attached envelope c.caseId t f]).map (i, ·)) c.caseId
      f.slot envelope.eventId f) :
    (do assign c (·.mark f.slot envelope.eventId); applyResult envelope c t f : M Unit).obeys
      (protocol S) evidence i (fun _ => Ready {c.caseId}) (fun _ => Ready {c.caseId}) g := by
  obtain ⟨-, hstatus, hpending⟩ := r.mark_fields f.slot envelope.eventId
  have hmarked := InMemoryCaseStateStore.get_modify_self hr (·.mark f.slot envelope.eventId)
  have htakes' : (r.mark f.slot envelope.eventId).Takes t := by
    unfold ResolutionCase.Takes
    rw [hstatus, hpending]
    exact htakes
  have hfiles₁ : Files g.cur.store (g.cur.store.modify c.caseId (·.mark f.slot envelope.eventId)) :=
    files_modify fun r => (r.mark_fields _ _).1
  obtain ⟨hbeside, hrecorded, hfiles⟩ := recorded_applyResult (f := f) g.cur.now hmarked htakes'
  obtain ⟨houtcome, -⟩ := InMemoryCaseStateStore.applyResult_attached f g.cur.now hmarked htakes'.1
    htakes'.2
  rw [r.mark_recorded] at hrecorded
  refine Coro.obeys_bind.mpr ?_
  refine obeys_store (.enter hw (beside_modify fun r _ h => r.mark_other h _)) ?_
  refine Coro.obeys_bind.mpr (obeys_now ?_)
  refine Coro.obeys_bind.mpr (obeys_store (.enter (.inl rfl) hbeside) ?_)
  dsimp only
  rw [houtcome, if_pos rfl]
  refine Coro.obeys_bind.mpr ?_
  refine ⟨.closed, .close (.inl rfl) (fun _ _ _ => rfl) hrecorded hsource, ?_⟩
  refine neutral_writeTaskAudit _ _ _ _ _ _ ?_
  exact hready.files (hfiles₁.trans hfiles)

/-- A result that comes again, with the id that the slot has. -/
theorem neutral_repeat (hready : Ready {c.caseId} g) (hr : g.cur.store.get c.caseId = some r)
    (htakes : ¬ r.Takes t) (hid : (r.recorded f.slot).1 = some envelope.eventId) :
    (do assign c (·.mark f.slot envelope.eventId); applyResult envelope c t f : M Unit).obeys
      (protocol S) evidence i (fun _ => Ready {c.caseId}) (fun _ => Ready {c.caseId}) g := by
  obtain ⟨-, hstatus, hpending⟩ := r.mark_fields f.slot envelope.eventId
  have hmarked := InMemoryCaseStateStore.get_modify_self hr (·.mark f.slot envelope.eventId)
  have htakes' : ¬ (r.mark f.slot envelope.eventId).Takes t := by
    unfold ResolutionCase.Takes
    rw [hstatus, hpending]
    exact htakes
  -- the id that is written is the one that is there
  have hharm : KeepsSlots g.cur.store
      (g.cur.store.modify c.caseId (·.mark f.slot envelope.eventId)) := by
    refine keepsSlots_modify (fun r => (r.mark_fields _ _).1) ?_
    intro r' hr'
    obtain rfl := Option.some.inj (hr.symm.trans hr')
    funext slot
    by_cases hslot : slot = f.slot
    · rw [hslot, r.mark_recorded, ← hid]
    · exact r.mark_other hslot _
  have hdup := InMemoryCaseStateStore.applyResult_duplicate f g.cur.now hmarked htakes'
  refine Coro.obeys_bind.mpr (obeys_store (.aside hharm.recorded) ?_)
  refine Coro.obeys_bind.mpr (obeys_now ?_)
  refine Coro.obeys_bind.mpr (obeys_store (.aside ?_) ?_)
  · dsimp only
    rw [hdup]
  · dsimp only
    rw [hdup, if_neg nofun]
    exact hready.silent hharm.toFiles

end Attaching

end RefundOps.Resolution
