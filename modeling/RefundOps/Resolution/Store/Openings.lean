import RefundOps.Resolution.A2AHandlers
import RefundOps.Resolution.Store.Operations

/-!
# What a record has of its ticket

A case is opened by a ticket, and a record keeps what it has of that ticket for good: its ids, the
amount, the reason. `OpeningsKept` says so of a store and a later one, and `Reopens` is shown of
every call: no record is lost, no opening is changed, and the tasks a record is given are its own.
-/

set_option autoImplicit false

namespace RefundOps.Resolution

/-! ## Openings -/

/-- What a record has of the ticket that opened it. -/
structure Opening where
  caseId : UUID
  correlationId : UUID
  ticketId : String
  customerId : String
  ticketAmount : ℚ
  ticketCurrency : String
  ticketReason : String

def ResolutionCase.opening (c : ResolutionCase) : Opening :=
  ⟨c.caseId, c.correlationId, c.ticketId, c.customerId, c.ticketAmount, c.ticketCurrency,
    c.ticketReason⟩

def openingOf (k : UUID) (t : SupportTicketCreatedPayload) : Opening :=
  ⟨k, k, t.ticketId, t.customerId, t.amount, t.currency, t.reason⟩

/-- The two peers of the agent. -/
def IsPeer (peer : Peer) : Prop := peer = billingPeer ∨ peer = riskPeer

/-- The two peers have different names. -/
theorem peer_eq_of_agentId {peer peer' : Peer} (h : IsPeer peer) (h' : IsPeer peer')
    (heq : peer.agentId = peer'.agentId) : peer = peer' := by
  have hne : billingPeer.agentId ≠ riskPeer.agentId := by decide
  rcases h with rfl | rfl
  · rcases h' with rfl | rfl
    · rfl
    · exact absurd heq hne
  · rcases h' with rfl | rfl
    · exact absurd heq.symm hne
    · rfl

/-- The task of the case `k` at a peer. -/
def taskOf (S : Settings) (k : UUID) (peer : Peer) : UUID := S.uuid5 k peer.capabilityId

/-- A record as a ticket opens it. -/
def openedCase (k : UUID) (t : SupportTicketCreatedPayload) : ResolutionCase :=
  { caseId := k, correlationId := k, ticketId := t.ticketId, customerId := t.customerId
    ticketAmount := t.amount, ticketCurrency := t.currency, ticketReason := t.reason
    createdAt := 0, updatedAt := 0 }

/-- The request to a peer for a review of the case `k` that the ticket `t` opened. -/
def reviewRequest (S : Settings) (peer : Peer) (k : UUID) (t : SupportTicketCreatedPayload) :
    TaskRequest :=
  taskRequestFor peer (openedCase k t) (taskOf S k peer)

/-- A request has nothing of a record but its opening. -/
theorem taskRequestFor_opening {peer : Peer} (hpeer : IsPeer peer) {c c' : ResolutionCase}
    (h : c.opening = c'.opening) (id : UUID) :
    taskRequestFor peer c id = taskRequestFor peer c' id := by
  simp only [ResolutionCase.opening, Opening.mk.injEq] at h
  obtain ⟨-, hcorr, hticket, hcustomer, hamount, -, hreason⟩ := h
  rcases hpeer with rfl | rfl <;>
    simp [taskRequestFor, billingPeer, riskPeer, hcorr, hticket, hcustomer, hamount, hreason]

/-! ## Stores -/

/-- The tasks of a record are those of its correlation id. -/
def MintedTasks (S : Settings) (c : ResolutionCase) : Prop :=
  (∀ t, c.billingTaskId = some t → t = taskOf S c.correlationId billingPeer) ∧
    ∀ t, c.riskTaskId = some t → t = taskOf S c.correlationId riskPeer

theorem MintedTasks.taskId {S : Settings} {c : ResolutionCase} (h : MintedTasks S c) {peer : Peer}
    (hpeer : IsPeer peer) {t : UUID} (ht : peer.taskId c = some t) :
    t = taskOf S c.correlationId peer := by
  rcases hpeer with rfl | rfl
  · exact h.1 t ht
  · exact h.2 t ht

/-- The record `c` of the case `k` was opened by one of the tickets `T`, and has its own tasks. -/
structure OpenedBy (S : Settings) (T : UUID → SupportTicketCreatedPayload → Prop) (k : UUID)
    (c : ResolutionCase) : Prop where
  opening : ∃ t, T k t ∧ c.opening = openingOf k t
  tasks : MintedTasks S c

structure StoreOpened (S : Settings) (T : UUID → SupportTicketCreatedPayload → Prop)
    (st : InMemoryCaseStateStore) : Prop where
  case : ∀ k c, st.get k = some c → OpenedBy S T k c
  correlation : ∀ k j, st.byCorrelation.get? k = some j → j = k

/-- Every record is still there, opened as it was. -/
def OpeningsKept (st st' : InMemoryCaseStateStore) : Prop :=
  ∀ k c, st.get k = some c → ∃ c', st'.get k = some c' ∧ c'.opening = c.opening

theorem OpeningsKept.refl (st : InMemoryCaseStateStore) : OpeningsKept st st :=
  fun _ c hc => ⟨c, hc, rfl⟩

theorem OpeningsKept.trans {st st' st'' : InMemoryCaseStateStore} (h : OpeningsKept st st')
    (h' : OpeningsKept st' st'') : OpeningsKept st st'' := by
  intro k c hc
  obtain ⟨c', hc', heq⟩ := h k c hc
  obtain ⟨c'', hc'', heq'⟩ := h' k c' hc'
  exact ⟨c'', hc'', heq'.trans heq⟩

/-! ## The calls of the store -/

section Calls

variable {S : Settings} {T : UUID → SupportTicketCreatedPayload → Prop}
  {st st' : InMemoryCaseStateStore}

/-- The store may go on like this. -/
structure Reopens (S : Settings) (T : UUID → SupportTicketCreatedPayload → Prop)
    (st st' : InMemoryCaseStateStore) : Prop where
  opened : StoreOpened S T st → StoreOpened S T st'
  kept : StoreOpened S T st → OpeningsKept st st'

theorem Reopens.refl (st : InMemoryCaseStateStore) : Reopens S T st st := ⟨id, fun _ => .refl st⟩

/-- A call that leaves the records alone. -/
theorem Reopens.of_same (hcases : st'.cases = st.cases)
    (hcorr : st'.byCorrelation = st.byCorrelation) : Reopens S T st st' := by
  have hget : ∀ k, st'.get k = st.get k := fun k => by
    unfold InMemoryCaseStateStore.get
    rw [hcases]
  refine ⟨fun h => ⟨?_, ?_⟩, fun _ k c hc => ⟨c, (hget k).trans hc, rfl⟩⟩
  · intro k c hc
    exact h.case k c ((hget k).symm.trans hc)
  · rw [hcorr]
    exact h.correlation

theorem reopens_parkBillingResult (k : UUID) (payload : BillingRefundAnalysisCompletedPayload) :
    Reopens S T st (st.parkBillingResult k payload) := by
  unfold InMemoryCaseStateStore.parkBillingResult
  exact .of_same rfl rfl

theorem reopens_parkRiskResult (k : UUID) (payload : RiskReviewCompletedPayload) :
    Reopens S T st (st.parkRiskResult k payload) := by
  unfold InMemoryCaseStateStore.parkRiskResult
  exact .of_same rfl rfl

/-- One record is rewritten, keeps its opening and gets no task but its own. -/
theorem Reopens.of_set {k : UUID} {c c' : ResolutionCase} (hc : st.get k = some c)
    (hcases : ∀ j, st'.get j = if j = k then some c' else st.get j)
    (hcorr : ∀ i j, st'.byCorrelation.get? i = some j →
      st.byCorrelation.get? i = some j ∨ i = c.correlationId ∧ j = c.caseId)
    (hop : c'.opening = c.opening) (htasks : MintedTasks S c → MintedTasks S c') :
    Reopens S T st st' := by
  refine ⟨fun h => ⟨?_, ?_⟩, fun _ => ?_⟩
  · intro j x hx
    rw [hcases j] at hx
    split at hx
    · rename_i hj
      subst hj
      obtain rfl := Option.some.inj hx
      obtain ⟨⟨t, ht, heq⟩, hown⟩ := h.case j c hc
      exact ⟨⟨t, ht, hop.trans heq⟩, htasks hown⟩
    · exact h.case j x hx
  · intro i j hij
    rcases hcorr i j hij with hold | ⟨rfl, rfl⟩
    · exact h.correlation i j hold
    · -- the record is filed under its own ids, which are one
      obtain ⟨⟨t, -, heq⟩, -⟩ := h.case k c hc
      have hid : c.caseId = k := congrArg Opening.caseId heq
      have hcid : c.correlationId = k := congrArg Opening.correlationId heq
      rw [hid, hcid]
  · intro j x hx
    by_cases hj : j = k
    · subst hj
      obtain rfl := Option.some.inj (hc.symm.trans hx)
      exact ⟨c', (hcases j).trans (if_pos rfl), hop⟩
    · exact ⟨x, (hcases j).trans ((if_neg hj).trans hx), rfl⟩

theorem reopens_modify {k : UUID} {f : ResolutionCase → ResolutionCase}
    (hop : ∀ c, (f c).opening = c.opening) (htasks : ∀ c, MintedTasks S c → MintedTasks S (f c)) :
    Reopens S T st (st.modify k f) := by
  unfold InMemoryCaseStateStore.modify
  cases hk : st.cases.get? k with
  | none => exact .refl st
  | some c =>
    have hc : st.get k = some c := hk
    exact .of_set hc (fun _ => InMemoryCaseStateStore.get_setCase st k (f c))
      (fun i j hij => .inl hij) (hop c) (htasks c)

theorem reopens_save {k : UUID} {c r : ResolutionCase} {now : Time} (hc : st.get k = some c)
    (hr : r.opening = c.opening) (htasks : MintedTasks S r) (hst : st.save r none now = some st') :
    StoreOpened S T st → StoreOpened S T st' ∧ OpeningsKept st st' := by
  intro h
  obtain ⟨⟨t, -, heq⟩, -⟩ := h.case k c hc
  have hid : r.caseId = k := (congrArg Opening.caseId hr).trans (congrArg Opening.caseId heq)
  have hstored : st.get r.caseId = some c := by rw [hid, hc]
  rw [InMemoryCaseStateStore.save_fresh hstored (fun _ h => by cases h)] at hst
  cases hst
  have hreopens : Reopens S T st (st.saved r (c.version + 1) now) := by
    have hcases : ∀ j, (st.saved r (c.version + 1) now).get j =
        if j = k then some { r with version := c.version + 1, updatedAt := now } else st.get j := by
      intro j
      rw [← hid]
      exact InMemoryCaseStateStore.get_setCase st r.caseId _
    refine .of_set hc hcases ?_ hr fun _ => htasks
    intro i j hij
    have hset : (if i = r.correlationId then some r.caseId else st.byCorrelation.get? i) =
        some j := (Dict.get?_set st.byCorrelation r.correlationId r.caseId i).symm.trans hij
    split at hset
    · rename_i hi
      refine .inr ⟨hi.trans (congrArg Opening.correlationId hr), ?_⟩
      exact (Option.some.inj hset).symm.trans (congrArg Opening.caseId hr)
    · exact .inl hset
  exact ⟨hreopens.opened h, hreopens.kept h⟩

theorem reopens_applyResult {k t : UUID} {f : Finding} {now : Time} :
    Reopens S T st (st.applyResult k t f now).2 := by
  unfold InMemoryCaseStateStore.applyResult
  cases hk : st.cases.get? k with
  | none => exact .refl st
  | some c =>
    have hc : st.get k = some c := hk
    dsimp only
    split
    · exact .refl st
    split
    · exact .refl st
    refine .of_set hc (fun _ => InMemoryCaseStateStore.get_setCase st k _)
      (fun i j hij => .inl hij) ?_ fun h => ?_
    · cases f <;> split <;> rfl
    · cases f <;> split <;> exact h

theorem reopens_claimDecision {k : UUID} {now : Time} :
    Reopens S T st (st.claimDecision k now).2 := by
  unfold InMemoryCaseStateStore.claimDecision
  split
  · exact .refl st
  split
  · exact .refl st
  · exact reopens_modify (fun _ => rfl) fun _ h => h

theorem reopens_markSlotFailed {k t : UUID} {isBilling : Bool} {reason : String} {now : Time} :
    Reopens S T st (st.markSlotFailed k t isBilling reason now) := by
  unfold InMemoryCaseStateStore.markSlotFailed
  split
  · exact .refl st
  split
  · exact .refl st
  refine reopens_modify (fun c => ?_) fun c h => ?_
  · by_cases hready : canTransitionToReady c.status = true <;> cases isBilling <;>
      simp [hready, ResolutionCase.opening]
  · by_cases hready : canTransitionToReady c.status = true <;> cases isBilling <;>
      simpa [hready, MintedTasks] using h

theorem reopens_addPendingTask {k t : UUID} (hst : st.addPendingTask k t = some st') :
    Reopens S T st st' := by
  unfold InMemoryCaseStateStore.addPendingTask at hst
  split at hst
  · cases hst
  · cases hst
    have h : Reopens S T st (st.modify k fun c =>
        { c with pendingTasks := insert t c.pendingTasks }) :=
      reopens_modify (fun _ => rfl) fun _ h => h
    have h' : Reopens S T (st.modify k fun c => { c with pendingTasks := insert t c.pendingTasks })
        { (st.modify k fun c => { c with pendingTasks := insert t c.pendingTasks }) with
          byTaskId := (st.modify k fun c =>
            { c with pendingTasks := insert t c.pendingTasks }).byTaskId.set t k } :=
      .of_same rfl rfl
    exact ⟨fun hs => h'.opened (h.opened hs), fun hs => (h.kept hs).trans (h'.kept (h.opened hs))⟩

/-- The record of a case is looked for by its correlation id first, which is its key. -/
theorem getOrCreate_eq {k : UUID} {ticketId customerId currency reason : String} {amount : ℚ}
    {now : Time} (h : StoreOpened S T st) :
    st.getOrCreate k ticketId customerId k amount currency reason now =
      match st.get k with
      | some c => (c, st)
      | none =>
        let c : ResolutionCase :=
          { caseId := k, ticketId, customerId, correlationId := k, ticketAmount := amount
            ticketCurrency := currency, ticketReason := reason, status := .received
            createdAt := now, updatedAt := now }
        (c, { st with
          cases := st.cases.set k c
          byCorrelation := st.byCorrelation.set k k }) := by
  unfold InMemoryCaseStateStore.getOrCreate InMemoryCaseStateStore.getByCorrelationId
    InMemoryCaseStateStore.get
  cases hcorr : st.byCorrelation.get? k with
  | none => rfl
  | some j =>
    obtain rfl := h.correlation k j hcorr
    cases hj : st.cases.get? j with
    | some c => simp only [hj]
    | none => simp only [hj]

/-- A ticket finds the record of its case, or opens it. -/
theorem getOrCreate_opened {k : UUID} {t : SupportTicketCreatedPayload} (now : Time) (ht : T k t)
    (h : StoreOpened S T st) :
    let out := st.getOrCreate k t.ticketId t.customerId k t.amount t.currency t.reason now
    StoreOpened S T out.2 ∧ OpeningsKept st out.2 ∧ out.2.get k = some out.1 := by
  intro out
  have hout : out = _ := getOrCreate_eq h
  cases hk : st.get k with
  | some c =>
    rw [hk] at hout
    rw [hout]
    exact ⟨h, .refl st, hk⟩
  | none =>
    simp only [hk] at hout
    rw [hout]
    refine ⟨⟨?_, ?_⟩, ?_, Dict.get?_set_self _ _ _⟩
    · intro i c hc
      have hget := (InMemoryCaseStateStore.get_setCase st k _).symm.trans hc
      split at hget
      · rename_i hi
        subst hi
        obtain rfl := Option.some.inj hget
        exact ⟨⟨t, ht, rfl⟩, by simp [MintedTasks]⟩
      · exact h.case i c hget
    · intro i l hl
      have hget := (Dict.get?_set st.byCorrelation k k i).symm.trans hl
      split at hget
      · rename_i hi
        exact (Option.some.inj hget).symm.trans hi.symm
      · exact h.correlation i l hget
    · intro i c hc
      have hi : i ≠ k := by
        intro hi
        rw [hi, hk] at hc
        cases hc
      exact ⟨c, (InMemoryCaseStateStore.get_setCase st k _).trans ((if_neg hi).trans hc), rfl⟩

end Calls

end RefundOps.Resolution
