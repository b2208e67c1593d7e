import RefundOps.Lib.Twins
import RefundOps.Resolution.Service

/-!
# What a peer's language model adds

A domain result can carry a polished summary and an explanation that a language model wrote, and so
can the output of a task result. The handlers keep a domain result in the buffer of early results, with
all it says, and look at neither field; and nothing is ever taken out of that buffer. The output of a
task result is read for other fields only. So two agents that are handed results with different texts
in them do the same, but for the buffers (`handler_twin`).
-/

set_option autoImplicit false

namespace RefundOps.Resolution

open Coro (Twin)

/-! ## Results, states and observations that differ in the texts -/

/-- Without what a language model wrote. -/
def unpolishedBilling (p : BillingRefundAnalysisCompletedPayload) :
    BillingRefundAnalysisCompletedPayload :=
  { p with enrichedReasoningSummary := none, evidenceExplanation := none }

def unpolishedRisk (p : RiskReviewCompletedPayload) : RiskReviewCompletedPayload :=
  { p with enrichedReasoningSummary := none, evidenceExplanation := none }

/-- One event, twice, with payloads that come to the same. -/
structure Likewise {α : Type} (plain : α → α) (e e' : Inbound α) : Prop where
  eventId : e.eventId = e'.eventId
  correlationId : e.correlationId = e'.correlationId
  payload : e.payload.map plain = e'.payload.map plain

/-- The fields of a task result's data that a language model wrote. -/
def narrativeKeys : List String := ["enriched_reasoning_summary", "evidence_explanation"]

/-- Data that say the same but for those fields. -/
def DataAlike (d d' : Json) : Prop := ∀ key, key ∉ narrativeKeys → d.get? key = d'.get? key

theorem dataAlike_append {fields more more' : List (String × Json)}
    (h : ∀ field ∈ more, field.1 ∈ narrativeKeys) (h' : ∀ field ∈ more', field.1 ∈ narrativeKeys) :
    DataAlike (.obj (fields ++ more)) (.obj (fields ++ more')) := by
  intro key hkey
  have hnone : ∀ {l : List (String × Json)}, (∀ field ∈ l, field.1 ∈ narrativeKeys) →
      l.lookup key = none := by
    intro l hl
    refine List.lookup_eq_none_iff.mpr fun field hfield => ?_
    have hne : key ≠ field.1 := fun heq => hkey (heq ▸ hl field hfield)
    simp [hne]
  show (fields ++ more).lookup key = (fields ++ more').lookup key
  rw [List.lookup_append, List.lookup_append, hnone h, hnone h']

/-- One task result, twice, with outputs that come to the same. -/
structure ResultAlike (r r' : TaskResult) : Prop where
  taskId : r.taskId = r'.taskId
  status : r.status = r'.status
  performerAgentId : r.performerAgentId = r'.performerAgentId
  error : r.error = r'.error
  data : DataAlike (resultData r.output) (resultData r'.output)

/-- One task result event, twice. -/
structure ResultEventAlike (e e' : Inbound TaskResult) : Prop where
  eventId : e.eventId = e'.eventId
  correlationId : e.correlationId = e'.correlationId
  payload : Option.Rel ResultAlike e.payload e'.payload

inductive MessageAlike : Message → Message → Prop where
  | same (m : Message) : MessageAlike m m
  | billing {e e' : Inbound BillingRefundAnalysisCompletedPayload}
      (h : Likewise unpolishedBilling e e') : MessageAlike (.billingResult e) (.billingResult e')
  | risk {e e' : Inbound RiskReviewCompletedPayload} (h : Likewise unpolishedRisk e e') :
      MessageAlike (.riskResult e) (.riskResult e')
  | result {e e' : Inbound TaskResult} (h : ResultEventAlike e e') :
      MessageAlike (.taskResult e) (.taskResult e')

inductive ObsAlike : Obs → Obs → Prop where
  | same (o : Obs) : ObsAlike o o
  | received {m m' : Message} (h : MessageAlike m m') : ObsAlike (.received m) (.received m')

/-- The buffers apart. -/
structure StoreAlike (st st' : InMemoryCaseStateStore) : Prop where
  cases : st.cases = st'.cases
  byCorrelation : st.byCorrelation = st'.byCorrelation
  byTaskId : st.byTaskId = st'.byTaskId

structure WorldAlike (w w' : World) : Prop where
  store : StoreAlike w.store w'.store
  now : w.now = w'.now
  nextId : w.nextId = w'.nextId

/-! ## The store -/

section Store

variable {st st' : InMemoryCaseStateStore}

theorem StoreAlike.get (h : StoreAlike st st') (k : UUID) : st.get k = st'.get k := by
  unfold InMemoryCaseStateStore.get
  rw [h.cases]

theorem StoreAlike.getByCorrelationId (h : StoreAlike st st') (k : UUID) :
    st.getByCorrelationId k = st'.getByCorrelationId k := by
  unfold InMemoryCaseStateStore.getByCorrelationId
  rw [h.cases, h.byCorrelation]

theorem StoreAlike.getByTaskId (h : StoreAlike st st') (t : UUID) :
    st.getByTaskId t = st'.getByTaskId t := by
  unfold InMemoryCaseStateStore.getByTaskId
  rw [h.cases, h.byTaskId]

theorem StoreAlike.listTimedOutCases (h : StoreAlike st st') (now : Time) :
    st.listTimedOutCases now = st'.listTimedOutCases now := by
  unfold InMemoryCaseStateStore.listTimedOutCases
  rw [h.cases]

theorem StoreAlike.modify (h : StoreAlike st st') (k : UUID)
    (f : ResolutionCase → ResolutionCase) : StoreAlike (st.modify k f) (st'.modify k f) := by
  unfold InMemoryCaseStateStore.modify
  rw [h.cases]
  cases st'.cases.get? k with
  | none => exact h
  | some c => exact ⟨rfl, h.byCorrelation, h.byTaskId⟩

theorem StoreAlike.getOrCreate (h : StoreAlike st st') (caseId : UUID) (ticketId customerId : String)
    (correlationId : UUID) (ticketAmount : ℚ) (ticketCurrency ticketReason : String)
    (createdAt : Time) :
    (st.getOrCreate caseId ticketId customerId correlationId ticketAmount ticketCurrency ticketReason
        createdAt).1 =
      (st'.getOrCreate caseId ticketId customerId correlationId ticketAmount ticketCurrency
        ticketReason createdAt).1 ∧
    StoreAlike
      (st.getOrCreate caseId ticketId customerId correlationId ticketAmount ticketCurrency
        ticketReason createdAt).2
      (st'.getOrCreate caseId ticketId customerId correlationId ticketAmount ticketCurrency
        ticketReason createdAt).2 := by
  unfold InMemoryCaseStateStore.getOrCreate
  rw [h.getByCorrelationId, h.cases, h.byCorrelation]
  cases st'.getByCorrelationId correlationId with
  | some c => exact ⟨rfl, h⟩
  | none =>
    cases st'.cases.get? caseId with
    | some c => exact ⟨rfl, h⟩
    | none => exact ⟨rfl, rfl, rfl, h.byTaskId⟩

/-- Both raise, or neither does. -/
def OptionAlike : Option InMemoryCaseStateStore → Option InMemoryCaseStateStore → Prop
  | none, none => True
  | some st, some st' => StoreAlike st st'
  | _, _ => False

theorem optionAlike_ite {p : Prop} [Decidable p] {st₁ st₂ : InMemoryCaseStateStore}
    (h : StoreAlike st₁ st₂) :
    OptionAlike (if p then none else some st₁) (if p then none else some st₂) := by
  split
  · trivial
  · exact h

theorem StoreAlike.save (h : StoreAlike st st') (c : ResolutionCase) (v : Option Nat) (now : Time) :
    OptionAlike (st.save c v now) (st'.save c v now) := by
  unfold InMemoryCaseStateStore.save
  rw [h.cases, h.byCorrelation]
  exact optionAlike_ite ⟨rfl, rfl, h.byTaskId⟩

theorem StoreAlike.addPendingTask (h : StoreAlike st st') (k t : UUID) :
    OptionAlike (st.addPendingTask k t) (st'.addPendingTask k t) := by
  unfold InMemoryCaseStateStore.addPendingTask
  have hmod := h.modify k fun c => { c with pendingTasks := insert t c.pendingTasks }
  rw [h.cases]
  cases st'.cases.get? k with
  | none => trivial
  | some c =>
    refine ⟨hmod.cases, hmod.byCorrelation, ?_⟩
    dsimp only
    rw [hmod.byTaskId]

theorem StoreAlike.applyResult (h : StoreAlike st st') (k t : UUID) (f : Finding) (now : Time) :
    (st.applyResult k t f now).1 = (st'.applyResult k t f now).1 ∧
      StoreAlike (st.applyResult k t f now).2 (st'.applyResult k t f now).2 := by
  unfold InMemoryCaseStateStore.applyResult
  rw [h.cases]
  cases st'.cases.get? k with
  | none => exact ⟨rfl, h⟩
  | some c =>
    dsimp only
    split
    · exact ⟨rfl, h⟩
    split
    · exact ⟨rfl, h⟩
    · exact ⟨rfl, rfl, h.byCorrelation, h.byTaskId⟩

theorem StoreAlike.claimDecision (h : StoreAlike st st') (k : UUID) (now : Time) :
    (st.claimDecision k now).1 = (st'.claimDecision k now).1 ∧
      StoreAlike (st.claimDecision k now).2 (st'.claimDecision k now).2 := by
  unfold InMemoryCaseStateStore.claimDecision
  rw [h.cases]
  cases st'.cases.get? k with
  | none => exact ⟨rfl, h⟩
  | some c =>
    dsimp only
    split
    · exact ⟨rfl, h⟩
    · exact ⟨rfl, h.modify _ _⟩

theorem StoreAlike.parkBillingResult (h : StoreAlike st st') (k : UUID)
    (p p' : BillingRefundAnalysisCompletedPayload) :
    StoreAlike (st.parkBillingResult k p) (st'.parkBillingResult k p') := by
  unfold InMemoryCaseStateStore.parkBillingResult
  exact ⟨h.cases, h.byCorrelation, h.byTaskId⟩

theorem StoreAlike.parkRiskResult (h : StoreAlike st st') (k : UUID)
    (p p' : RiskReviewCompletedPayload) :
    StoreAlike (st.parkRiskResult k p) (st'.parkRiskResult k p') := by
  unfold InMemoryCaseStateStore.parkRiskResult
  exact ⟨h.cases, h.byCorrelation, h.byTaskId⟩

theorem StoreAlike.markSlotFailed (h : StoreAlike st st') (k t : UUID) (isBilling : Bool)
    (reason : String) (now : Time) :
    StoreAlike (st.markSlotFailed k t isBilling reason now)
      (st'.markSlotFailed k t isBilling reason now) := by
  unfold InMemoryCaseStateStore.markSlotFailed
  rw [h.cases]
  cases st'.cases.get? k with
  | none => exact h
  | some c =>
    dsimp only
    split
    · exact h
    · exact h.modify _ _

end Store

/-! ## What the handlers are made of -/

/-- The program cannot tell two such states apart. -/
abbrev Deaf {α : Type} (m : M α) : Prop := Twin WorldAlike ObsAlike m m

section Effects

variable {α : Type}

theorem twin_readStore {f f' : InMemoryCaseStateStore → α}
    (h : ∀ st st', StoreAlike st st' → f st = f' st') :
    Twin WorldAlike ObsAlike (readStore f) (readStore f') := by
  refine .get fun w w' hw => ?_
  show Twin WorldAlike ObsAlike (.pure (f w.store)) (.pure (f' w'.store))
  rw [h _ _ hw.store]
  exact .pure _

theorem twin_withStore {f f' : InMemoryCaseStateStore → α × InMemoryCaseStateStore}
    (h : ∀ st st', StoreAlike st st' → (f st).1 = (f' st').1 ∧ StoreAlike (f st).2 (f' st').2) :
    Twin WorldAlike ObsAlike (withStore f) (withStore f') := by
  refine .get fun w w' hw => ?_
  obtain ⟨hres, hst⟩ := h _ _ hw.store
  exact .commit ⟨hst, hw.now, hw.nextId⟩ .nil (hres ▸ .pure _)

theorem deaf_updateStore (err : String)
    {f : InMemoryCaseStateStore → Option InMemoryCaseStateStore}
    (h : ∀ st st', StoreAlike st st' → OptionAlike (f st) (f st')) : Deaf (updateStore err f) := by
  rw [updateStore_eq]
  refine .get fun w w' hw => ?_
  have hf := h _ _ hw.store
  revert hf
  show OptionAlike (f w.store) (f w'.store) → Twin WorldAlike ObsAlike
    ((f w.store).elim (throw err) fun st => Coro.write { w with store := st })
    ((f w'.store).elim (throw err) fun st => Coro.write { w' with store := st })
  cases f w.store <;> cases f w'.store <;> intro hf
  · exact .raise err
  · exact hf.elim
  · exact hf.elim
  · exact .commit ⟨hf, hw.now, hw.nextId⟩ .nil (.pure ())

theorem deaf_datetimeNow : Deaf datetimeNow := by
  refine .get fun w w' hw => ?_
  show Twin WorldAlike ObsAlike (.pure w.now) (.pure w'.now)
  rw [hw.now]
  exact .pure _

theorem deaf_uuid4 : Deaf uuid4 := by
  refine .get fun w w' hw => .commit ⟨hw.store, hw.now, ?_⟩ .nil (hw.nextId ▸ .pure _)
  exact congrArg (· + 1) hw.nextId

theorem deaf_observe (o : Obs) : Deaf (Coro.observe o : M Unit) := Coro.twin_observe (.same o)

theorem deaf_deref (c : ResolutionCase) : Deaf (deref c) :=
  twin_readStore fun _ _ h => by rw [h.get]

theorem deaf_assign (c : ResolutionCase) (f : ResolutionCase → ResolutionCase) : Deaf (assign c f) :=
  twin_withStore fun _ _ h => ⟨rfl, h.modify _ _⟩

theorem deaf_save (c : ResolutionCase) : Deaf (save c) :=
  (deaf_deref c).bind fun _ => deaf_datetimeNow.bind fun _ =>
    deaf_updateStore _ fun _ _ h => h.save _ _ _

theorem deaf_sendAndWait (ev : OutEvent) : Deaf (sendAndWait ev) := by
  refine (Coro.twin_request _).bind fun sent => ?_
  cases sent with
  | ok => exact (deaf_observe _).bind fun _ => .pure ev
  | error e => exact (deaf_observe _).bind fun _ => .raise e

theorem deaf_publish (payload : OutPayload) (correlationId causationId : UUID) :
    Deaf (publish payload correlationId causationId) :=
  deaf_uuid4.bind fun _ => deaf_sendAndWait _

theorem deaf_writeTaskAudit (envelope : EventRef) (outcome : AuditOutcome) (taskId : Option UUID)
    (reason : Option String) (h : outcome.reasonOk reason = true) :
    Deaf (writeTaskAudit envelope outcome taskId reason h) :=
  deaf_datetimeNow.bind fun _ => deaf_uuid4.bind fun _ =>
    (Coro.twin_request _).bind fun _ => .pure ()

theorem deaf_emitDecisionAndDraft (c : ResolutionCase) (decision : CustomerResponseDecisionPayload)
    (causationId : UUID) : Deaf (emitDecisionAndDraft c decision causationId) := by
  refine (deaf_publish _ _ _).bind fun decided => (deaf_assign _ _).bind fun _ =>
    (deaf_writeTaskAudit _ _ _ _ _).bind fun _ => deaf_datetimeNow.bind fun draftedAt => ?_
  dsimp only
  split
  · exact (deaf_publish _ _ _).bind fun _ => (deaf_assign _ _).bind fun _ => .pure _
  · exact .raise _

end Effects

/-! ## Delegation -/

section Delegation

variable (S : Settings) (c : ResolutionCase) (envelope : EventRef)

theorem deaf_validateCapability (peer : Peer) : Deaf (validateCapability peer) := by
  refine (Coro.twin_request _).bind fun found => (Coro.twin_ofExcept found).bind fun cards => ?_
  split
  · exact .pure _
  · exact .raise _

theorem deaf_mintTaskId (peer : Peer) : Deaf (mintTaskId S peer c) := by
  refine (deaf_deref c).bind fun cur => ?_
  split
  · exact .pure _
  · exact (deaf_assign _ _).bind fun _ => .pure _

theorem deaf_requestAnalysis (peer : Peer) : Deaf (requestAnalysis S peer c envelope) :=
  (deaf_validateCapability peer).bind fun _ => (deaf_mintTaskId S c peer).bind fun _ =>
    (deaf_deref c).bind fun _ => (deaf_publish _ _ _).bind fun _ => .pure ()

theorem deaf_announceReviews : Deaf (announceReviews c envelope) := by
  refine (deaf_deref c).bind fun cur => ?_
  split
  · exact deaf_datetimeNow.bind fun _ => (deaf_publish _ _ _).bind fun _ => .pure ()
  · exact .pure ()

theorem deaf_delegate : Deaf (delegate S c envelope) :=
  (deaf_mintTaskId S c _).bind fun _ => (deaf_mintTaskId S c _).bind fun _ =>
    (deaf_updateStore _ fun _ _ h => h.addPendingTask _ _).bind fun _ =>
      (deaf_updateStore _ fun _ _ h => h.addPendingTask _ _).bind fun _ =>
        (deaf_requestAnalysis S c envelope _).bind fun _ =>
          (deaf_requestAnalysis S c envelope _).bind fun _ => deaf_announceReviews c envelope

end Delegation

/-! ## The handlers -/

section Handlers

variable (S : Settings)

theorem deaf_triageTicket (envelope : EventRef) (ticket : SupportTicketCreatedPayload) :
    Deaf (triageTicket S envelope ticket) := by
  unfold triageTicket
  split
  · refine (Coro.twin_request _).bind fun answer => ?_
    cases answer with
    | ok => exact .pure _
    | error => exact .pure _
  · exact .pure _

theorem deaf_respondDirectly (c : ResolutionCase) (ticket : SupportTicketCreatedPayload)
    (triage : Triage) (causationId : UUID) : Deaf (respondDirectly c ticket triage causationId) :=
  (deaf_emitDecisionAndDraft _ _ _).bind fun _ => (deaf_assign _ _).bind fun _ => deaf_save c

theorem deaf_escalateDelegationFailure (c : ResolutionCase) (ticket : SupportTicketCreatedPayload)
    (causationId : UUID) (exc : String) :
    Deaf (escalateDelegationFailure c ticket causationId exc) :=
  (deaf_deref c).bind fun _ => (deaf_observe _).bind fun _ =>
    (deaf_emitDecisionAndDraft _ _ _).bind fun _ => (deaf_assign _ _).bind fun _ => deaf_save c

theorem deaf_delegateReviews (c : ResolutionCase) (ticket : SupportTicketCreatedPayload)
    (envelope : EventRef) : Deaf (delegateReviews S c ticket envelope) :=
  deaf_datetimeNow.bind fun _ => (deaf_assign _ _).bind fun _ => (deaf_save c).bind fun _ =>
    ((deaf_delegate S c envelope).bind fun _ => deaf_save c).tryCatch fun _ =>
      deaf_escalateDelegationFailure c ticket _ _

theorem deaf_intakeHandler (envelope : Inbound SupportTicketCreatedPayload) :
    Deaf (intakeHandler S envelope) := by
  unfold intakeHandler
  split
  · exact .pure ()
  refine deaf_datetimeNow.bind fun createdAt =>
    (twin_withStore fun _ _ h => h.getOrCreate _ _ _ _ _ _ _ _).bind fun c => ?_
  split
  · refine (deaf_triageTicket S _ _).bind fun triage => (deaf_assign _ _).bind fun _ =>
      (deaf_save c).bind fun _ => (deaf_writeTaskAudit _ _ _ _ _).bind fun _ =>
        (deaf_publish _ _ _).bind fun _ => ?_
    split
    · exact deaf_delegateReviews S _ _ _
    · exact deaf_respondDirectly _ _ _ _
  · exact deaf_writeTaskAudit _ _ _ _ _

theorem deaf_claimDecision (c : ResolutionCase) : Deaf (claimDecision c) := by
  refine deaf_datetimeNow.bind fun now =>
    (twin_withStore fun _ _ h => h.claimDecision _ _).bind fun won => ?_
  cases won with
  | true => exact (deaf_observe _).bind fun _ => .pure true
  | false => exact .pure false

theorem deaf_applyDecision (c : ResolutionCase) (causationId : UUID) :
    Deaf (applyDecision c causationId) := by
  refine (deaf_claimDecision c).bind fun won => ?_
  split
  · exact (deaf_deref c).bind fun _ => deaf_datetimeNow.bind fun _ => (deaf_observe _).bind fun _ =>
      (deaf_emitDecisionAndDraft _ _ _).bind fun _ => (deaf_assign _ _).bind fun _ => deaf_save _
  · exact .pure ()

theorem deaf_markSlotFailed (c : ResolutionCase) (taskId : UUID) (isBilling : Bool)
    (reason : String) : Deaf (markSlotFailed c taskId isBilling reason) :=
  deaf_datetimeNow.bind fun _ => (deaf_deref c).bind fun _ => (deaf_observe _).bind fun _ =>
    twin_withStore fun _ _ h => ⟨rfl, h.markSlotFailed _ _ _ _ _⟩

theorem deaf_applyResult (envelope : EventRef) (c : ResolutionCase) (taskId : UUID)
    (finding : Finding) : Deaf (applyResult envelope c taskId finding) := by
  refine deaf_datetimeNow.bind fun now =>
    (twin_withStore fun _ _ h => h.applyResult _ _ _ _).bind fun outcome => ?_
  split
  · exact (deaf_observe _).bind fun _ => deaf_writeTaskAudit _ _ _ _ _
  · exact .pure ()

theorem deaf_recordResult (envelope : EventRef) (c : ResolutionCase) (result : TaskResult)
    (isBilling : Bool) : Deaf (recordResult S envelope c result isBilling) := by
  unfold recordResult
  split
  · dsimp only
    split
    · split
      · exact deaf_markSlotFailed _ _ _ _
      · exact (deaf_assign _ _).bind fun _ => deaf_applyResult _ _ _ _
    · split
      · exact deaf_markSlotFailed _ _ _ _
      · exact (deaf_assign _ _).bind fun _ => deaf_applyResult _ _ _ _
  · exact (deaf_markSlotFailed _ _ _ _).bind fun _ => deaf_writeTaskAudit _ _ _ _ _

theorem deaf_resultHandler (envelope : Inbound TaskResult) : Deaf (resultHandler S envelope) := by
  unfold resultHandler
  split
  · exact .pure ()
  rename_i result _
  refine (twin_readStore fun _ _ h => h.getByTaskId result.taskId).bind fun found => ?_
  split
  · exact .pure ()
  split
  · dsimp only
    split
    · exact deaf_writeTaskAudit _ _ _ _ _
    · refine (deaf_recordResult S _ _ _ _).bind fun _ => (deaf_deref _).bind fun c => ?_
      split
      · exact deaf_applyDecision _ _
      · exact .pure ()
  · exact deaf_writeTaskAudit _ _ _ _ _

theorem normalizeBillingResult_alike (taskId : UUID) (performer : String) {d d' : Json}
    (h : DataAlike d d') :
    normalizeBillingResult S taskId performer d = normalizeBillingResult S taskId performer d' := by
  unfold normalizeBillingResult
  rw [h "recommendation" (by decide), h "confidence" (by decide),
    h "reasoning_summary" (by decide), h "requires_human_review" (by decide),
    h "eligible" (by decide)]

theorem normalizeRiskResult_alike (taskId : UUID) (performer : String) {d d' : Json}
    (h : DataAlike d d') :
    normalizeRiskResult S taskId performer d = normalizeRiskResult S taskId performer d' := by
  unfold normalizeRiskResult
  rw [h "recommendation" (by decide), h "score" (by decide), h "confidence" (by decide),
    h "reasoning_summary" (by decide), h "requires_human_review" (by decide),
    h "risk" (by decide)]

/-- What is recorded of a task result is what is recorded of the same result with other texts. -/
theorem recordResult_alike (envelope : EventRef) (c : ResolutionCase) (isBilling : Bool)
    {r r' : TaskResult} (h : ResultAlike r r') :
    recordResult S envelope c r isBilling = recordResult S envelope c r' isBilling := by
  have hreason : failReason r = failReason r' := by
    unfold failReason
    rw [h.error, h.status]
  unfold recordResult
  dsimp only
  rw [h.status, h.taskId, h.performerAgentId, hreason, normalizeBillingResult_alike S _ _ h.data,
    normalizeRiskResult_alike S _ _ h.data]

theorem resultHandler_alike {e e' : Inbound TaskResult} (h : ResultEventAlike e e') :
    resultHandler S e = resultHandler S e' := by
  obtain ⟨eventId, correlationId, payload⟩ := e
  obtain ⟨_, _, payload'⟩ := e'
  obtain ⟨rfl, rfl, hpayload⟩ := h
  cases hpayload with
  | none => rfl
  | some hr =>
    unfold resultHandler
    simp only [hr.taskId, hr.status, recordResult_alike S _ _ _ hr, Inbound.ref]

theorem deaf_decideIfReady (c : ResolutionCase) (causationId : UUID) :
    Deaf (decideIfReady c causationId) := by
  refine (deaf_deref c).bind fun c => ?_
  split
  · exact deaf_applyDecision c causationId
  · exact .pure ()

/-- The finding is that of the unpolished payload. -/
theorem billingFinding_unpolished (p : BillingRefundAnalysisCompletedPayload) (t : UUID) :
    billingFinding (unpolishedBilling p) t = billingFinding p t := rfl

theorem riskFinding_unpolished (p : RiskReviewCompletedPayload) (t : UUID) :
    riskFinding (unpolishedRisk p) t = riskFinding p t := rfl

theorem twin_billingResultHandler {e e' : Inbound BillingRefundAnalysisCompletedPayload}
    (h : Likewise unpolishedBilling e e') :
    Twin WorldAlike ObsAlike (billingResultHandler e) (billingResultHandler e') := by
  obtain ⟨eventId, correlationId, payload⟩ := e
  obtain ⟨_, _, payload'⟩ := e'
  obtain ⟨rfl, rfl, hpayload⟩ := h
  cases payload with
  | none =>
    obtain rfl : payload' = none := by simpa using hpayload.symm
    exact .pure ()
  | some p =>
    obtain ⟨p', rfl, hp⟩ := Option.map_eq_some_iff.mp hpayload.symm
    refine (twin_readStore fun _ _ h => h.getByCorrelationId _).bind fun found => ?_
    cases found with
    | none => exact twin_withStore fun _ _ h => ⟨rfl, h.parkBillingResult _ p p'⟩
    | some c =>
      dsimp only
      split
      · exact .pure ()
      rename_i t _
      have hfinding : billingFinding p t = billingFinding p' t := by
        rw [← billingFinding_unpolished p t, ← hp, billingFinding_unpolished]
      rw [hfinding]
      exact (deaf_assign _ _).bind fun _ => (deaf_applyResult _ _ _ _).bind fun _ =>
        deaf_decideIfReady _ _

theorem deaf_escalateHighRisk (envelope : EventRef) (c : ResolutionCase) (finding : RiskFinding) :
    Deaf (escalateHighRisk envelope c finding) := by
  refine (deaf_claimDecision c).bind fun won => ?_
  split
  · exact (deaf_deref c).bind fun _ => (deaf_assign _ _).bind fun _ =>
      (deaf_emitDecisionAndDraft _ _ _).bind fun _ => (deaf_assign _ _).bind fun _ => deaf_save _
  · exact .pure ()

theorem twin_riskResultHandler {e e' : Inbound RiskReviewCompletedPayload}
    (h : Likewise unpolishedRisk e e') :
    Twin WorldAlike ObsAlike (riskResultHandler e) (riskResultHandler e') := by
  obtain ⟨eventId, correlationId, payload⟩ := e
  obtain ⟨_, _, payload'⟩ := e'
  obtain ⟨rfl, rfl, hpayload⟩ := h
  cases payload with
  | none =>
    obtain rfl : payload' = none := by simpa using hpayload.symm
    exact .pure ()
  | some p =>
    obtain ⟨p', rfl, hp⟩ := Option.map_eq_some_iff.mp hpayload.symm
    refine (twin_readStore fun _ _ h => h.getByCorrelationId _).bind fun found => ?_
    cases found with
    | none => exact twin_withStore fun _ _ h => ⟨rfl, h.parkRiskResult _ p p'⟩
    | some c =>
      dsimp only
      split
      · exact .pure ()
      rename_i t _
      have hfinding : riskFinding p t = riskFinding p' t := by
        rw [← riskFinding_unpolished p t, ← hp, riskFinding_unpolished]
      rw [hfinding]
      split
      · exact deaf_escalateHighRisk _ _ _
      · exact (deaf_assign _ _).bind fun _ => (deaf_applyResult _ _ _ _).bind fun _ =>
          deaf_decideIfReady _ _

theorem deaf_reaperSweep : Deaf reaperSweep := by
  refine deaf_datetimeNow.bind fun now =>
    (twin_readStore fun _ _ h => h.listTimedOutCases now).bind fun timedOut => ?_
  refine Twin.forM (fun c => (deaf_deref c).bind fun cur => ?_) timedOut
  split
  · exact deaf_uuid4.bind fun _ => (deaf_applyDecision c _).tryCatch fun _ => .pure ()
  · exact .pure ()

/-- **The messages are handled alike.** -/
theorem handler_twin {m m' : Message} (h : MessageAlike m m') :
    MessageTwin WorldAlike ObsAlike (service S) m m' := by
  cases h with
  | same =>
    refine ⟨rfl, .cons (.same _) .nil, ?_⟩
    cases m with
    | ticket e => exact deaf_intakeHandler S e
    | taskResult e => exact deaf_resultHandler S e
    | billingResult e => exact twin_billingResultHandler ⟨rfl, rfl, rfl⟩
    | riskResult e => exact twin_riskResultHandler ⟨rfl, rfl, rfl⟩
    | sweep => exact deaf_reaperSweep
  | billing h => exact ⟨rfl, .cons (.received (.billing h)) .nil, twin_billingResultHandler h⟩
  | risk h => exact ⟨rfl, .cons (.received (.risk h)) .nil, twin_riskResultHandler h⟩
  | @result e e' h =>
    refine ⟨rfl, .cons (.received (.result h)) .nil, ?_⟩
    show Twin WorldAlike ObsAlike (resultHandler S e) (resultHandler S e')
    rw [resultHandler_alike S h]
    exact deaf_resultHandler S e'

/-- The clock of both goes the same way. -/
theorem worldAlike_env (micros : Nat) (w w' : World) (h : WorldAlike w w') :
    WorldAlike ((service S).env micros w) ((service S).env micros w') :=
  ⟨h.store, congrArg (· + (micros : Int)) h.now, h.nextId⟩

end Handlers

end RefundOps.Resolution
