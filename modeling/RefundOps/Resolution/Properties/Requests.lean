import RefundOps.Lib.Growth
import RefundOps.Resolution.Properties.Coverage
import RefundOps.Resolution.Store.Openings

/-!
# What the agent sends

Every request for a review is made of what the record has of the ticket that opened it, so whatever
is sent to a peer for a case — once, or again when a delegation is tried again, and also while it
is not known whether it arrived — is one and the same task request, with the data of a ticket that
the agent was given for the case. Every other event names its case, and the ticket and the customer
of such a ticket. It need not be the ticket that opened the case: intake answers in the name of the
ticket it has at hand.

The growth is the store in which no record is lost and no opening is changed. The programs are
walked through once; the ones that have something to show are `sends_requestAnalysis` and
`sends_emitDecisionAndDraft`.
-/

set_option autoImplicit false

namespace RefundOps.Resolution

/-! ## The growth -/

/-- A task request that is sent is the one of a record that is stored under its correlation id. -/
def AboutCase (S : Settings) (st : InMemoryCaseStateStore) (ev : OutEvent) : Prop :=
  ∀ req, ev.payload = .taskRequest req → ∃ peer c, IsPeer peer ∧
    st.get ev.correlationId = some c ∧ req = taskRequestFor peer c (taskOf S ev.correlationId peer)

theorem AboutCase.kept {S : Settings} {st st' : InMemoryCaseStateStore} {ev : OutEvent}
    (h : AboutCase S st ev) (hk : OpeningsKept st st') : AboutCase S st' ev := by
  intro req hreq
  obtain ⟨peer, c, hpeer, hc, heq⟩ := h req hreq
  obtain ⟨c', hc', hop⟩ := hk _ c hc
  exact ⟨peer, c', hpeer, hc', heq.trans (taskRequestFor_opening hpeer hop.symm _)⟩

/-- Whom a payload is about. -/
structure Subject where
  caseId : UUID
  ticketId : String
  customerId : String

/-- The names among the fields of a payload; a task request has them in its data. -/
def OutPayload.subject : OutPayload → Option Subject
  | .issueClassified p => some ⟨p.caseId, p.ticketId, p.customerId⟩
  | .taskRequest _ => none
  | .refundReviewRequested p => some ⟨p.caseId, p.ticketId, p.customerId⟩
  | .resolutionDecided p => some ⟨p.caseId, p.ticketId, p.customerId⟩
  | .responseDrafted p => some ⟨p.caseId, p.ticketId, p.customerId⟩

def subjectOf (k : UUID) (t : SupportTicketCreatedPayload) : Subject :=
  ⟨k, t.ticketId, t.customerId⟩

/-- The same names, as they are written in a message. -/
structure Naming where
  caseId : String
  ticketId : String
  customerId : String

def Subject.naming (x : Subject) : Naming := ⟨uuidStr x.caseId, x.ticketId, x.customerId⟩

/-- The names in the data of a task request. -/
def namingIn (data : Json) : Option Naming :=
  match data.get? "case_id", data.get? "ticket_id", data.get? "customer_id" with
  | some (.str caseId), some (.str ticketId), some (.str customerId) =>
      some ⟨caseId, ticketId, customerId⟩
  | _, _, _ => none

/-- Whom an event names. -/
def OutPayload.naming : OutPayload → Option Naming
  | .taskRequest req => (req.input.parts.findSome? (·.data)).bind namingIn
  | payload => payload.subject.map Subject.naming

/-- The event an observation is about. -/
def Obs.sent : Obs → Option OutEvent
  | .published ev => some ev
  | .publishFailed ev => some ev
  | _ => none

def Request.sent : Request → Option OutEvent
  | .send ev => some ev
  | _ => none

/-- The message an observation is about. -/
def Obs.taken : Obs → Option Message
  | .received m => some m
  | _ => none

/-- One of the messages `R` has the ticket `t` for the case `k`. -/
def TicketAmong (R : Message → Prop) (k : UUID) (t : SupportTicketCreatedPayload) : Prop :=
  ∃ e, R (.ticket e) ∧ e.correlationId = k ∧ e.payload = some t

/-- The payload names the case `k` and one of its tickets. -/
def Names (R : Message → Prop) (k : UUID) (payload : OutPayload) : Prop :=
  ∀ x, payload.subject = some x → ∃ t, TicketAmong R k t ∧ x = subjectOf k t

/-- The event is about its case. -/
def Pertinent (S : Settings) (R : Message → Prop) (st : InMemoryCaseStateStore) (ev : OutEvent) :
    Prop :=
  AboutCase S st ev ∧ Names R ev.correlationId ev.payload

/-- Nothing but the messages `R` is received. -/
def requests (S : Settings) (R : Message → Prop) : Growth World Obs Request where
  Inv := fun w => StoreOpened S (TicketAmong R) w.store
  Le := fun w w' => OpeningsKept w.store w'.store
  Ask := fun w x => ∀ ev, x.sent = some ev → Pertinent S R w.store ev
  Show := fun w o =>
    (∀ ev, o.sent = some ev → Pertinent S R w.store ev) ∧ ∀ m, o.taken = some m → R m
  refl := fun w => .refl w.store
  trans := OpeningsKept.trans
  ask_le := fun h hle ev hev => ⟨(h ev hev).1.kept hle, (h ev hev).2⟩
  show_le := fun h hle => ⟨fun ev hev => ⟨(h.1 ev hev).1.kept hle, (h.1 ev hev).2⟩, h.2⟩

/-! ## The programs -/

section Programs

variable {S : Settings} {R : Message → Prop} {α β : Type}

/-- A reference of the store: its record is there, opened like this. -/
def Refers (K : Set Opening) (w : World) : Prop :=
  ∀ o ∈ K, ∃ c, w.store.get o.caseId = some c ∧ c.opening = o

/-- The references of `K` are all the program needs to send requests of their cases only. -/
def Sends (S : Settings) (R : Message → Prop) (K : Set Opening)
    (p : M α) : Prop :=
  Coro.Keeps (requests S R) (Refers K) (fun _ _ => True) p

variable {K : Set Opening}

theorem refers_lasting : Coro.Lasting (requests S R) (Refers K) := by
  intro w w' h hle o ho
  obtain ⟨c, hc, heq⟩ := h o ho
  obtain ⟨c', hc', heq'⟩ := hle _ c hc
  exact ⟨c', hc', heq'.trans heq⟩

theorem Sends.bind {p : M α} {f : α → M β} (hp : Sends S R K p) (hf : ∀ a, Sends S R K (f a)) :
    Sends S R K (p >>= f) :=
  Coro.Keeps.bind refers_lasting hp fun a => (hf a).weaken (fun _ h => h.1) fun _ _ h => h

theorem sends_pure (a : α) : Sends S R K (pure a) := Coro.keeps_pure fun _ _ => trivial

theorem sends_throw (e : String) : Sends S R K (throw e : M α) := Coro.keeps_throw

theorem sends_datetimeNow : Sends S R K datetimeNow := fun _ _ _ => trivial

theorem sends_observe {o : Obs} (h : o.sent = none) (h' : o.taken = none := by rfl) :
    Sends S R K (Coro.observe o) := by
  refine Coro.keeps_observe (fun _ _ => trivial) fun _ _ _ => ⟨fun ev hev => ?_, fun m hm => ?_⟩
  · rw [h] at hev
    cases hev
  · rw [h'] at hm
    cases hm

theorem sends_request {x : Request} (h : x.sent = none) : Sends S R K (Coro.request x) :=
  Coro.keeps_request refers_lasting (fun _ _ _ => trivial) fun _ _ _ ev hev => by
    rw [h] at hev
    cases hev

theorem sends_uuid4 : Sends S R K uuid4 := fun w hw _ => ⟨hw, .refl w.store, by simp, trivial⟩

theorem sends_withStore {f : InMemoryCaseStateStore → α × InMemoryCaseStateStore}
    (hf : ∀ st, Reopens S (TicketAmong R) st (f st).2) : Sends S R K (withStore f) :=
  fun w hw _ => ⟨(hf w.store).opened hw, (hf w.store).kept hw, by simp, trivial⟩

theorem sends_updateStore {err : String}
    {f : InMemoryCaseStateStore → Option InMemoryCaseStateStore}
    (hf : ∀ st st', f st = some st' → Reopens S (TicketAmong R) st st') :
    Sends S R K (updateStore err f) := by
  intro w hw _
  rw [updateStore_eq]
  refine Coro.grows_bind.mpr ?_
  show ((f w.store).elim (throw err) fun st => Coro.write { w with store := st } : M Unit).Grows
    (requests S R) _ _ w
  cases hst : f w.store with
  | none => trivial
  | some st => exact ⟨(hf _ _ hst).opened hw, (hf _ _ hst).kept hw, by simp, trivial⟩

theorem sends_assign {c : ResolutionCase} {f : ResolutionCase → ResolutionCase}
    (hop : ∀ c, (f c).opening = c.opening) (htasks : ∀ c, MintedTasks S c → MintedTasks S (f c)) :
    Sends S R K (assign c f) :=
  sends_withStore fun _ => reopens_modify hop htasks

/-- The record behind a reference is another one to the same case. -/
theorem sends_deref {c : ResolutionCase} {f : ResolutionCase → M α} (hc : c.opening ∈ K)
    (hf : ∀ r, r.opening = c.opening → MintedTasks S r → Sends S R K (f r)) :
    Sends S R K (deref c >>= f) := by
  intro w hw hK
  obtain ⟨r, hr, hop⟩ := hK _ hc
  refine Coro.grows_bind.mpr ?_
  show (f ((w.store.get c.caseId).getD c)).Grows (requests S R) _ _ w
  have hget : w.store.get c.caseId = some r := hr
  rw [hget]
  exact hf r hop (hw.case _ r hr).tasks w hw hK

theorem sends_save {c : ResolutionCase} (hc : c.opening ∈ K) : Sends S R K (save c) := by
  refine sends_deref hc fun r hop htasks => ?_
  intro w hw hK
  obtain ⟨x, hx, hxop⟩ := hK _ hc
  refine Coro.grows_bind.mpr ?_
  show (updateStore "CaseSaveConflict" fun st => st.save r none w.now : M Unit).Grows
    (requests S R) _ _ w
  rw [updateStore_eq]
  refine Coro.grows_bind.mpr ?_
  show ((w.store.save r none w.now).elim (throw "CaseSaveConflict") fun st =>
    Coro.write { w with store := st } : M Unit).Grows (requests S R) _ _ w
  cases hst : w.store.save r none w.now with
  | none => trivial
  | some st =>
    obtain ⟨hopened, hkept⟩ := reopens_save hx (hop.trans hxop.symm) htasks hst hw
    exact ⟨hopened, hkept, by simp, trivial⟩

/-- Whatever is published is sent first, and is on its way while it is not answered. -/
theorem sends_sendAndWait {ev : OutEvent}
    (h : ∀ w, StoreOpened S (TicketAmong R) w.store → Refers K w → Pertinent S R w.store ev) :
    Sends S R K (sendAndWait ev) := by
  refine Sends.bind ?_ fun sent => ?_
  · exact Coro.keeps_request refers_lasting (fun _ _ _ => trivial) fun w hw hK ev' hev => by
      cases hev
      exact h w hw hK
  · cases sent with
    | ok u =>
      refine Sends.bind (Coro.keeps_observe (fun _ _ => trivial) ?_) fun _ => sends_pure _
      intro w hw hK
      refine ⟨fun ev' hev => ?_, fun m hm => by cases hm⟩
      cases hev
      exact h w hw hK
    | error e =>
      refine Sends.bind (Coro.keeps_observe (fun _ _ => trivial) ?_) fun _ => sends_throw _
      intro w hw hK
      refine ⟨fun ev' hev => ?_, fun m hm => by cases hm⟩
      cases hev
      exact h w hw hK

/-- Wherever the references of `K` are good, the payload names the case `k`. -/
def NamesIn (S : Settings) (R : Message → Prop) (K : Set Opening) (k : UUID)
    (payload : OutPayload) : Prop :=
  ∀ w, StoreOpened S (TicketAmong R) w.store → Refers K w → Names R k payload

theorem namesIn_of_ticket {k : UUID} {payload : OutPayload} {t : SupportTicketCreatedPayload}
    (ht : TicketAmong R k t) (hsubject : payload.subject = some (subjectOf k t)) :
    NamesIn S R K k payload := by
  intro w _ _ x hx
  exact ⟨t, ht, Option.some.inj (hx.symm.trans hsubject)⟩

/-- A reference names the ticket that opened its case. -/
theorem namesIn_of_record {c : ResolutionCase} {payload : OutPayload} (hc : c.opening ∈ K)
    (hsubject : payload.subject = some ⟨c.correlationId, c.ticketId, c.customerId⟩) :
    NamesIn S R K c.correlationId payload := by
  intro w hw hK x hx
  obtain ⟨r, hr, hop⟩ := hK _ hc
  obtain ⟨⟨t, ht, heq⟩, -⟩ := hw.case _ r hr
  have hopening : c.opening = openingOf c.opening.caseId t := hop.symm.trans heq
  simp only [ResolutionCase.opening, openingOf, Opening.mk.injEq, true_and] at hopening
  obtain ⟨hid, hticket, hcustomer, -⟩ := hopening
  have hx' := Option.some.inj (hx.symm.trans hsubject)
  rw [hticket, hcustomer] at hx'
  rw [hid] at hx' ⊢
  exact ⟨t, ht, hx'⟩

/-- Other events than task requests. -/
theorem sends_publish {payload : OutPayload} {correlationId causationId : UUID}
    (h : ∀ req, payload ≠ .taskRequest req) (hnames : NamesIn S R K correlationId payload) :
    Sends S R K (publish payload correlationId causationId) :=
  sends_uuid4.bind fun _ => sends_sendAndWait fun w hw hK =>
    ⟨fun req hreq => absurd hreq (h req), hnames w hw hK⟩

theorem sends_writeTaskAudit (envelope : EventRef) (outcome : AuditOutcome)
    (taskId : Option UUID) (reason : Option String) (h : outcome.reasonOk reason = true) :
    Sends S R K (writeTaskAudit envelope outcome taskId reason h) :=
  sends_datetimeNow.bind fun _ => sends_uuid4.bind fun _ => (sends_request rfl).bind fun _ =>
    sends_pure _

/-! ### Delegation -/

variable {c : ResolutionCase}

theorem sends_mintTaskId {peer : Peer} (hpeer : IsPeer peer) (hc : c.opening ∈ K) :
    Sends S R K (mintTaskId S peer c) := by
  refine sends_deref hc fun cur hop htasks => ?_
  split
  · exact sends_pure _
  · refine Sends.bind ?_ fun _ => sends_pure _
    intro w hw hK
    obtain ⟨x, hx, hxop⟩ := hK _ hc
    obtain ⟨⟨t, ht, hopt⟩, hown⟩ := hw.case _ x hx
    have hcorr : x.correlationId = c.correlationId := congrArg Opening.correlationId hxop
    have hreopens : Reopens S (TicketAmong R) w.store
        (w.store.modify c.caseId (peer.setTaskId (S.uuid5 c.correlationId peer.capabilityId))) := by
      have hx' : w.store.cases.get? c.caseId = some x := hx
      unfold InMemoryCaseStateStore.modify
      rw [hx']
      refine .of_set hx (fun _ => InMemoryCaseStateStore.get_setCase w.store c.caseId _)
        (fun i j hij => .inl hij) ?_ fun h => ?_
      · rcases hpeer with rfl | rfl <;> rfl
      · rcases hpeer with rfl | rfl
        · refine ⟨fun t ht => ?_, h.2⟩
          rw [← hcorr] at ht
          exact (Option.some.inj ht).symm
        · refine ⟨h.1, fun t ht => ?_⟩
          rw [← hcorr] at ht
          exact (Option.some.inj ht).symm
    exact ⟨hreopens.opened hw, hreopens.kept hw, by simp, trivial⟩

theorem grows_deref {α : Type} {G : Growth World Obs Request} {f : ResolutionCase → M α}
    {Q : α → World → Prop} {E : String → World → Prop} {w : World} :
    (deref c >>= f).Grows G Q E w ↔ (f ((w.store.get c.caseId).getD c)).Grows G Q E w := Iff.rfl

/-- The task id that is minted is the one of the case. -/
theorem keeps_mintTaskId {peer : Peer} (hpeer : IsPeer peer) (hc : c.opening ∈ K) :
    Coro.Keeps (requests S R) (Refers K) (fun t _ => t = taskOf S c.correlationId peer)
      (mintTaskId S peer c) := by
  intro w hw hK
  obtain ⟨x, hx, hxop⟩ := hK _ hc
  have hgrows := sends_mintTaskId (S := S) (R := R) hpeer hc w hw hK
  obtain ⟨-, hown⟩ := hw.case _ x hx
  have hcorr : x.correlationId = c.correlationId := congrArg Opening.correlationId hxop
  have hget : (w.store.get c.caseId).getD c = x := by
    have hx' : w.store.get c.caseId = some x := hx
    rw [hx', Option.getD_some]
  unfold mintTaskId at hgrows ⊢
  have hsplit := grows_deref.mp hgrows
  refine grows_deref.mpr ?_
  rw [hget] at hsplit ⊢
  dsimp only at hsplit ⊢
  cases ht : peer.taskId x with
  | some t =>
    show t = _
    rw [hown.taskId hpeer ht, hcorr]
  | none =>
    rw [ht] at hsplit
    refine Coro.grows_bind.mpr ((Coro.grows_bind.mp hsplit).mono ?_ fun _ _ h => h)
    intro _ _ _
    rfl

/-- **A request that is sent is the one of its case.** -/
theorem sends_requestAnalysis {peer : Peer} (hpeer : IsPeer peer) (envelope : EventRef)
    (hc : c.opening ∈ K) : Sends S R K (requestAnalysis S peer c envelope) := by
  refine Sends.bind ?_ fun _ => ?_
  · refine (sends_request rfl).bind fun found => ?_
    refine Sends.bind (Coro.keeps_ofExcept fun _ _ _ => trivial) fun cards => ?_
    split
    · exact sends_pure _
    · exact sends_throw _
  · refine Coro.Keeps.bind refers_lasting (keeps_mintTaskId hpeer hc) fun taskId => ?_
    intro w hw h
    obtain ⟨hK, rfl⟩ := h
    refine sends_deref hc (fun cur hop htasks => ?_) w hw hK
    refine Sends.bind (sends_uuid4.bind fun _ => sends_sendAndWait ?_) fun _ => sends_pure _
    intro w' hw' hK'
    refine ⟨fun req hreq => ?_, fun x hx => by cases hx⟩
    cases hreq
    obtain ⟨x, hx, hxop⟩ := hK' _ hc
    obtain ⟨⟨t, -, hopt⟩, -⟩ := hw'.case _ x hx
    have hid : c.caseId = c.correlationId := by
      have hcid : x.caseId = c.caseId := congrArg Opening.caseId hxop
      have hcorr : x.correlationId = c.correlationId := congrArg Opening.correlationId hxop
      have hcid' : x.caseId = _ := congrArg Opening.caseId hopt
      have hcorr' : x.correlationId = _ := congrArg Opening.correlationId hopt
      rw [← hcid, ← hcorr, hcid', hcorr']
      rfl
    refine ⟨peer, x, hpeer, ?_, ?_⟩
    · rw [show (⟨_, c.correlationId, envelope.eventId, _⟩ : OutEvent).correlationId =
        c.correlationId from rfl, ← hid]
      exact hx
    · exact taskRequestFor_opening hpeer (hop.trans hxop.symm) _

theorem sends_announceReviews (envelope : EventRef) (hc : c.opening ∈ K) :
    Sends S R K (announceReviews c envelope) := by
  refine sends_deref hc fun cur hop _ => ?_
  have hcorr : cur.correlationId = c.correlationId := congrArg Opening.correlationId hop
  split
  · refine sends_datetimeNow.bind fun _ => Sends.bind (sends_publish (by simp) ?_) fun _ =>
      sends_pure _
    rw [← hcorr]
    exact namesIn_of_record (hop ▸ hc) rfl
  · exact sends_pure _

theorem sends_addPendingTask (taskId : UUID) :
    Sends S R K (updateStore "KeyError" fun st => st.addPendingTask c.caseId taskId) :=
  sends_updateStore fun _ _ => reopens_addPendingTask

theorem sends_delegate (envelope : EventRef) (hc : c.opening ∈ K) :
    Sends S R K (delegate S c envelope) := by
  refine (sends_mintTaskId (.inl rfl) hc).bind fun billingTaskId => ?_
  refine (sends_mintTaskId (.inr rfl) hc).bind fun riskTaskId => ?_
  refine (sends_addPendingTask _).bind fun _ => (sends_addPendingTask _).bind fun _ => ?_
  refine (sends_requestAnalysis (.inl rfl) _ hc).bind fun _ => ?_
  refine (sends_requestAnalysis (.inr rfl) _ hc).bind fun _ => ?_
  exact sends_announceReviews _ hc

/-! ### Decisions -/

/-- **A decision and its draft** name what the decision names. -/
theorem sends_emitDecisionAndDraft {d : CustomerResponseDecisionPayload} (causationId : UUID)
    (hnames : NamesIn S R K c.correlationId (.resolutionDecided d))
    (hid : d.caseId = c.correlationId) :
    Sends S R K (emitDecisionAndDraft c d causationId) := by
  have hdraft : ∀ eventId at_,
      NamesIn S R K c.correlationId (.responseDrafted (draftFor d c.correlationId eventId at_)) := by
    intro eventId at_ w hw hK x hx
    refine hnames w hw hK x ?_
    rw [← hx, OutPayload.subject, OutPayload.subject, hid]
    rfl
  refine (sends_publish (by simp) hnames).bind fun decided => ?_
  refine Sends.bind (sends_assign (fun _ => rfl) fun _ h => h) fun _ => ?_
  refine (sends_writeTaskAudit _ _ _ _ _).bind fun _ => sends_datetimeNow.bind fun draftedAt => ?_
  dsimp only
  split
  · refine (sends_publish (by simp) (hdraft _ _)).bind fun drafted => ?_
    exact Sends.bind (sends_assign (fun _ => rfl) fun _ h => h) fun _ => sends_pure _
  · exact sends_throw _

/-- The last two statements of every emission. -/
theorem sends_finish (s : CaseStatus) (hc : c.opening ∈ K) :
    Sends S R K (do assign c (fun c => { c with status := s }); save c) :=
  Sends.bind (sends_assign (fun _ => rfl) fun _ h => h) fun _ => sends_save hc

theorem sends_claimDecision : Sends S R K (claimDecision c) := by
  refine sends_datetimeNow.bind fun now => ?_
  refine (sends_withStore fun _ => reopens_claimDecision).bind fun won => ?_
  cases won with
  | true => exact (sends_observe rfl).bind fun _ => sends_pure _
  | false => exact (sends_pure _).bind fun _ => sends_pure _

/-- A decision on a record names what the record does. -/
theorem decisionOn_names (c : ResolutionCase) (now : Time) :
    (⟨(decisionOn c now).caseId, (decisionOn c now).ticketId, (decisionOn c now).customerId⟩ :
      Subject) = ⟨c.correlationId, c.ticketId, c.customerId⟩ := by
  simp only [decisionOn, decide]
  repeat' split
  all_goals rfl

theorem sends_applyDecision (causationId : UUID) (hc : c.opening ∈ K) :
    Sends S R K (applyDecision c causationId) := by
  refine sends_claimDecision.bind fun won => ?_
  split
  swap
  · exact sends_pure _
  refine sends_deref hc fun r hr _ => sends_datetimeNow.bind fun now => ?_
  have hnames : NamesIn S R K r.correlationId (.resolutionDecided (decisionOn r now)) := by
    refine namesIn_of_record (hr ▸ hc) ?_
    rw [OutPayload.subject, decisionOn_names]
  refine (sends_observe rfl).bind fun _ =>
    (sends_emitDecisionAndDraft _ hnames (congrArg Subject.caseId (decisionOn_names r now))).bind
      fun _ => ?_
  exact sends_finish .decided (hr ▸ hc)

theorem sends_decideIfReady (causationId : UUID) (hc : c.opening ∈ K) :
    Sends S R K (decideIfReady c causationId) := by
  refine sends_deref hc fun r hr _ => ?_
  split
  · exact sends_applyDecision causationId (hr ▸ hc)
  · exact sends_pure _

/-- Intake answers in the name of the ticket it has at hand. -/
theorem sends_respondDirectly {ticket : SupportTicketCreatedPayload} {triage : Triage}
    (causationId : UUID) (hc : c.opening ∈ K) (ht : TicketAmong R c.correlationId ticket) :
    Sends S R K (respondDirectly c ticket triage causationId) :=
  (sends_emitDecisionAndDraft _ (namesIn_of_ticket ht rfl) rfl).bind fun _ => sends_finish .closed hc

theorem sends_escalateDelegationFailure {ticket : SupportTicketCreatedPayload}
    {causationId : UUID} (exc : String) (hc : c.opening ∈ K)
    (ht : TicketAmong R c.correlationId ticket) :
    Sends S R K (escalateDelegationFailure c ticket causationId exc) := by
  refine sends_deref hc fun cur _ _ => (sends_observe rfl).bind fun _ => ?_
  exact (sends_emitDecisionAndDraft _ (namesIn_of_ticket ht rfl) rfl).bind fun _ =>
    sends_finish .escalated hc

theorem sends_delegateReviews {ticket : SupportTicketCreatedPayload} {envelope : EventRef}
    (hc : c.opening ∈ K) (ht : TicketAmong R c.correlationId ticket) :
    Sends S R K (delegateReviews S c ticket envelope) := by
  refine sends_datetimeNow.bind fun now => ?_
  refine Sends.bind (sends_assign (fun _ => rfl) fun _ h => h) fun _ => ?_
  refine (sends_save hc).bind fun _ => ?_
  refine Coro.Keeps.tryCatch refers_lasting ?_ fun exc => ?_
  · exact (sends_delegate _ hc).bind fun _ => sends_save hc
  · exact sends_escalateDelegationFailure _ hc ht

/-! ### The handlers -/

theorem sends_triageTicket (envelope : EventRef) (ticket : SupportTicketCreatedPayload) :
    Sends S R K (triageTicket S envelope ticket) := by
  unfold triageTicket
  split
  · refine (sends_request rfl).bind fun answer => ?_
    cases answer with
    | ok c => exact sends_pure _
    | error e => exact sends_pure _
  · exact sends_pure _

/-- The record that a ticket finds, or opens. -/
theorem keeps_getOrCreate {k : UUID} {t : SupportTicketCreatedPayload} {now : Time}
    (ht : TicketAmong R k t) :
    Coro.Keeps (requests S R) (Refers K) (fun c w => Refers {c.opening} w ∧ c.correlationId = k)
      (withStore fun st => st.getOrCreate k t.ticketId t.customerId k t.amount t.currency t.reason
        now) := by
  intro w hw _
  obtain ⟨hopened, hkept, hget⟩ := getOrCreate_opened now ht hw
  obtain ⟨⟨t', -, heq⟩, -⟩ := hopened.case _ _ hget
  refine ⟨hopened, hkept, by simp, fun o ho => ?_, congrArg Opening.correlationId heq⟩
  obtain rfl := Set.mem_singleton_iff.mp ho
  exact ⟨_, (congrArg _ (congrArg Opening.caseId heq)).trans hget, rfl⟩

theorem sends_intakeHandler {envelope : Inbound SupportTicketCreatedPayload}
    (hR : R (.ticket envelope)) :
    Sends S R K (intakeHandler S envelope) := by
  unfold intakeHandler
  cases hp : envelope.payload with
  | none => exact sends_pure _
  | some ticket =>
    refine sends_datetimeNow.bind fun createdAt => ?_
    have ht : TicketAmong R envelope.correlationId ticket := ⟨envelope, hR, rfl, hp⟩
    refine Coro.Keeps.bind refers_lasting (keeps_getOrCreate ht) fun c w hw h => ?_
    obtain ⟨-, hrefers, hcorr⟩ := h
    have hct : TicketAmong R c.correlationId ticket := hcorr ▸ ht
    have hc : c.opening ∈ ({c.opening} : Set Opening) := rfl
    -- from here on the program needs this one reference
    refine (?_ : Sends S R {c.opening} _) w hw hrefers
    split
    · refine Sends.bind (sends_triageTicket _ _) fun triage => ?_
      refine Sends.bind (sends_assign (fun _ => rfl) fun _ h => h) fun _ => ?_
      refine (sends_save hc).bind fun _ => (sends_writeTaskAudit _ _ _ _ _).bind fun _ => ?_
      refine (sends_publish (by simp) (namesIn_of_ticket ht rfl)).bind fun _ => ?_
      split
      · exact sends_delegateReviews hc hct
      · exact sends_respondDirectly _ hc hct
    · exact sends_writeTaskAudit _ _ _ _ _

theorem sends_markSlotFailed (taskId : UUID) (isBilling : Bool) (reason : String)
    (hc : c.opening ∈ K) : Sends S R K (markSlotFailed c taskId isBilling reason) := by
  refine sends_datetimeNow.bind fun now => sends_deref hc fun cur _ _ => ?_
  exact (sends_observe rfl).bind fun _ => sends_withStore fun _ => reopens_markSlotFailed

theorem sends_applyResult (envelope : EventRef) (taskId : UUID) (finding : Finding) :
    Sends S R K (applyResult envelope c taskId finding) := by
  refine sends_datetimeNow.bind fun now => ?_
  refine (sends_withStore fun _ => reopens_applyResult).bind fun outcome => ?_
  split
  · exact (sends_observe rfl).bind fun _ => sends_writeTaskAudit _ _ _ _ _
  · exact sends_pure _

theorem sends_recordResult {envelope : EventRef} {result : TaskResult} {isBilling : Bool}
    (hc : c.opening ∈ K) : Sends S R K (recordResult S envelope c result isBilling) := by
  unfold recordResult
  split
  · dsimp only
    split
    · split
      · exact sends_markSlotFailed _ _ _ hc
      · exact Sends.bind (sends_assign (fun _ => rfl) fun _ h => h) fun _ => sends_applyResult _ _ _
    · split
      · exact sends_markSlotFailed _ _ _ hc
      · exact Sends.bind (sends_assign (fun _ => rfl) fun _ h => h) fun _ => sends_applyResult _ _ _
  · exact (sends_markSlotFailed _ _ _ hc).bind fun _ => sends_writeTaskAudit _ _ _ _ _

/-- A record that is found in the store is a reference like any other. -/
theorem sends_found {f : InMemoryCaseStateStore → Option ResolutionCase} {p : M Unit}
    {g : ResolutionCase → M Unit} (hf : ∀ st c, f st = some c → ∃ j, st.get j = some c)
    (hnone : Sends S R ∅ p) (hsome : ∀ c, Sends S R {c.opening} (g c)) :
    Sends S R K (readStore f >>= fun found => match found with
      | none => p
      | some c => g c) := by
  intro w hw _
  refine Coro.grows_bind.mpr ?_
  show (match f w.store with
    | none => p
    | some c => g c).Grows (requests S R) _ _ w
  cases hfound : f w.store with
  | none => exact hnone w hw fun o ho => absurd ho (Set.notMem_empty o)
  | some c =>
    refine hsome c w hw fun o ho => ?_
    obtain rfl := Set.mem_singleton_iff.mp ho
    obtain ⟨j, hj⟩ := hf _ _ hfound
    obtain ⟨⟨t, -, heq⟩, -⟩ := hw.case j c hj
    have hid : c.opening.caseId = j := congrArg Opening.caseId heq
    exact ⟨c, by rw [hid]; exact hj, rfl⟩

theorem get_of_getByCorrelationId {st : InMemoryCaseStateStore} {k : UUID} {c : ResolutionCase}
    (h : st.getByCorrelationId k = some c) : ∃ j, st.get j = some c := by
  unfold InMemoryCaseStateStore.getByCorrelationId at h
  split at h
  · cases h
  · exact ⟨_, h⟩

theorem get_of_getByTaskId {st : InMemoryCaseStateStore} {t : UUID} {c : ResolutionCase}
    (h : st.getByTaskId t = some c) : ∃ j, st.get j = some c := by
  unfold InMemoryCaseStateStore.getByTaskId at h
  split at h
  · cases h
  · exact ⟨_, h⟩

theorem sends_resultHandler (envelope : Inbound TaskResult) :
    Sends S R K (resultHandler S envelope) := by
  unfold resultHandler
  split
  · exact sends_pure _
  rename_i result _
  refine sends_found (fun _ _ => get_of_getByTaskId) (sends_pure _) fun c => ?_
  have hc : c.opening ∈ ({c.opening} : Set Opening) := rfl
  split
  · dsimp only
    split
    · exact sends_writeTaskAudit _ _ _ _ _
    · refine (sends_recordResult hc).bind fun _ => sends_deref hc fun r hr _ => ?_
      split
      · exact sends_applyDecision _ (hr ▸ hc)
      · exact sends_pure _
  · exact sends_writeTaskAudit _ _ _ _ _

theorem sends_billingResultHandler (envelope : Inbound BillingRefundAnalysisCompletedPayload) :
    Sends S R K (billingResultHandler envelope) := by
  unfold billingResultHandler
  split
  · exact sends_pure _
  rename_i payload _
  refine sends_found (fun _ _ => get_of_getByCorrelationId) ?_ fun c => ?_
  · exact sends_withStore fun _ => reopens_parkBillingResult _ _
  have hc : c.opening ∈ ({c.opening} : Set Opening) := rfl
  split
  · exact sends_pure _
  · refine Sends.bind (sends_assign (fun _ => rfl) fun _ h => h) fun _ => ?_
    exact (sends_applyResult _ _ _).bind fun _ => sends_decideIfReady _ hc

theorem sends_escalateHighRisk (envelope : EventRef) (finding : RiskFinding) (hc : c.opening ∈ K) :
    Sends S R K (escalateHighRisk envelope c finding) := by
  refine sends_claimDecision.bind fun won => ?_
  split
  swap
  · exact sends_pure _
  refine sends_deref hc fun r hr _ => ?_
  refine Sends.bind (sends_assign (fun _ => rfl) fun _ h => h) fun _ => ?_
  refine (sends_emitDecisionAndDraft _ (namesIn_of_record (hr ▸ hc) rfl) rfl).bind fun _ => ?_
  exact sends_finish .escalated (hr ▸ hc)

theorem sends_riskResultHandler (envelope : Inbound RiskReviewCompletedPayload) :
    Sends S R K (riskResultHandler envelope) := by
  unfold riskResultHandler
  split
  · exact sends_pure _
  rename_i payload _
  refine sends_found (fun _ _ => get_of_getByCorrelationId) ?_ fun c => ?_
  · exact sends_withStore fun _ => reopens_parkRiskResult _ _
  have hc : c.opening ∈ ({c.opening} : Set Opening) := rfl
  split
  · exact sends_pure _
  · dsimp only
    split
    · exact sends_escalateHighRisk _ _ hc
    · refine Sends.bind (sends_assign (fun _ => rfl) fun _ h => h) fun _ => ?_
      exact (sends_applyResult _ _ _).bind fun _ => sends_decideIfReady _ hc

theorem sends_escalateTimedOut (hc : c.opening ∈ K) : Sends S R K (escalateTimedOut c) := by
  refine sends_deref hc fun cur _ _ => ?_
  split
  · refine sends_uuid4.bind fun causationId => ?_
    exact Coro.Keeps.tryCatch refers_lasting (sends_applyDecision causationId hc) fun _ =>
      sends_pure _
  · exact sends_pure _

/-- A sweep works through the references it has found at its beginning. -/
theorem sends_reaperSweep : Sends S R K reaperSweep := by
  refine sends_datetimeNow.bind fun currentTime => ?_
  intro w hw _
  refine Coro.grows_bind.mpr ?_
  have hrefers : Refers { o | ∃ c ∈ w.store.listTimedOutCases currentTime, c.opening = o } w := by
    intro o ho
    obtain ⟨c, hc, rfl⟩ := ho
    obtain ⟨j, hj⟩ := Dict.get?_of_mem_values (List.mem_filter.mp hc).1
    obtain ⟨⟨t, -, heq⟩, -⟩ := hw.case j c hj
    have hid : c.opening.caseId = j := congrArg Opening.caseId heq
    exact ⟨c, by rw [hid]; exact hj, rfl⟩
  have hall : Sends S R { o | ∃ c ∈ w.store.listTimedOutCases currentTime, c.opening = o }
      ((w.store.listTimedOutCases currentTime).forM escalateTimedOut) :=
    Coro.Keeps.forM refers_lasting fun c hc => sends_escalateTimedOut ⟨c, hc, rfl⟩
  exact hall w hw hrefers

theorem sends_handler {m : Message} (hR : R m) : Sends S R K (m.handler S) := by
  cases m with
  | ticket e => exact sends_intakeHandler hR
  | taskResult e => exact sends_resultHandler e
  | billingResult e => exact sends_billingResultHandler e
  | riskResult e => exact sends_riskResultHandler e
  | sweep => exact sends_reaperSweep

end Programs

/-! ## Along a run -/

variable {S : Settings}

/-- The agent was given the message. -/
def ReceivedIn (tr : Trace) (m : Message) : Prop := (m.loop, Obs.received m) ∈ tr

/-- The agent was given the ticket `t` for the case `k`. -/
def TicketReceived (tr : Trace) (k : UUID) (t : SupportTicketCreatedPayload) : Prop :=
  TicketAmong (ReceivedIn tr) k t

theorem grown_start {R : Message → Prop} (now : Time) (nextId : UUID) :
    Grown (requests S R) (start now nextId) [] := by
  refine Grown.init (fun _ => rfl) ⟨?_, ?_⟩
  · intro k c hc
    cases hc
  · intro k j hj
    cases hj

/-- The handler of a message that may be received keeps to the growth. -/
theorem grows_handler {R : Message → Prop} (m : Message) (hm : R m) (w : World)
    (hw : StoreOpened S (TicketAmong R) w.store) :
    (∀ o ∈ (service S).received m, (requests S R).Show w o) ∧
      ((service S).handler m).Grows (requests S R) (fun _ _ => True) (fun _ _ => True) w := by
  refine ⟨?_, sends_handler hm w hw fun o ho => absurd ho (Set.notMem_empty o)⟩
  intro o ho
  obtain rfl := List.mem_singleton.mp ho
  have hquiet : ∀ ev, (Obs.received m).sent = some ev → Pertinent S R w.store ev := by
    intro ev hev
    cases hev
  refine And.intro hquiet fun m' hm' => ?_
  obtain rfl := Option.some.inj hm'
  exact hm

theorem run_requests_among {now : Time} {nextId : UUID} {tr : Trace} {s : State}
    {R : Message → Prop}
    (hrun : (service S).Run EventLoop.anyStep (start now nextId) tr s)
    (hR : ∀ m, ReceivedIn tr m → R m) : Grown (requests S R) s tr := by
  have hreceived : (service S).RunIf (fun ch _ => ∀ m, ch = .deliver m → R m) (start now nextId) tr
      s := hrun.received.mono fun _ _ h m hm => hR m (h m hm _ (List.mem_singleton_self _))
  have hgrown := (grown_start now nextId).run (grows_handler (S := S))
    (fun _ w hw => ⟨hw, OpeningsKept.refl w.store⟩) hreceived
  rw [List.nil_append] at hgrown
  exact hgrown.1

theorem run_requests {now : Time} {nextId : UUID} {tr : Trace} {s : State}
    (hrun : (service S).Run EventLoop.anyStep (start now nextId) tr s) :
    Grown (requests S (ReceivedIn tr)) s tr :=
  run_requests_among hrun fun _ hm => hm

/-- The next step keeps what the records have of their tickets, and what it shows to have received
    is what it delivers, or was received before. -/
theorem step_requests {now : Time} {nextId : UUID} {tr os : Trace} {s s' : State}
    {ch : Choice LoopId Message Request Reply Nat}
    (hrun : (service S).Run EventLoop.anyStep (start now nextId) tr s)
    (hs : (service S).step ch s = some (os, s')) :
    OpeningsKept s.world.store s'.world.store ∧
      ∀ i m, (i, Obs.received m) ∈ os → ReceivedIn tr m ∨ ch = .deliver m := by
  have hgrown := run_requests_among (R := fun m => ReceivedIn tr m ∨ ch = .deliver m) hrun
    fun _ hm => .inl hm
  obtain ⟨hgrown', hkept⟩ := hgrown.step (D := fun m => ch = .deliver m)
    (fun m hm => grows_handler m (.inr hm)) (fun _ w hw => ⟨hw, OpeningsKept.refl w.store⟩)
    (fun _ hm => hm) hs
  exact ⟨hkept, fun i m hm => (hgrown'.shown _ (List.mem_append_right _ hm)).2 m rfl⟩

/-- An event that the agent has handed to the broker: it arrived, it failed as far as the agent
    knows, or the agent is waiting to hear. -/
def Sent (tr : Trace) (s : State) (ev : OutEvent) : Prop :=
  (∃ i, (i, Obs.published ev) ∈ tr ∨ (i, Obs.publishFailed ev) ∈ tr) ∨
    ∃ i, s.waiting i = some (.send ev)

theorem sent_pertinent {now : Time} {nextId : UUID} {tr : Trace} {s : State}
    (hrun : (service S).Run EventLoop.anyStep (start now nextId) tr s) {ev : OutEvent}
    (h : Sent tr s ev) : Pertinent S (ReceivedIn tr) s.world.store ev := by
  have hgrown := run_requests hrun
  rcases h with ⟨i, h | h⟩ | ⟨i, h⟩
  · exact (hgrown.shown _ h).1 ev rfl
  · exact (hgrown.shown _ h).1 ev rfl
  · obtain ⟨p, hp, hreq⟩ := Option.map_eq_some_iff.mp h
    exact (hgrown.parked i p hp).1 ev (by rw [hreq]; rfl)

/-- The observation shows a task request that arrived. -/
def asksPeer : Obs → Bool
  | .published ev =>
      match ev.payload with
      | .taskRequest _ => true
      | _ => false
  | _ => false

theorem exists_of_asksPeer {o : Obs} (h : asksPeer o = true) :
    ∃ ev req, o = .published ev ∧ ev.payload = .taskRequest req := by
  cases o with
  | published ev =>
    cases hp : ev.payload with
    | taskRequest req => exact ⟨ev, req, rfl, hp⟩
    | issueClassified | refundReviewRequested | resolutionDecided | responseDrafted =>
      simp [asksPeer, hp] at h
  | received | publishFailed | attached | slotFailed | claimed | decisionTaken
  | delegationFailed => cases h

/-- **What the peers are asked.** In every run, every task request the agent hands to the broker,
    whether it arrives or not, is the review request of its case to one of the two peers, made of a
    ticket that the agent was given for the case; and whatever else it sends to that peer for the
    case is the same request. -/
theorem task_requests_are_of_their_case {now : Time} {nextId : UUID} {tr : Trace} {s : State}
    (hrun : (service S).Run EventLoop.anyStep (start now nextId) tr s) {ev : OutEvent}
    {req : TaskRequest} (h : Sent tr s ev) (hreq : ev.payload = .taskRequest req) :
    ∃ peer t, IsPeer peer ∧ TicketReceived tr ev.correlationId t ∧
      req = reviewRequest S peer ev.correlationId t ∧
      ∀ ev' req', Sent tr s ev' → ev'.payload = .taskRequest req' →
        ev'.correlationId = ev.correlationId → req'.targetAgentId = peer.agentId → req' = req := by
  obtain ⟨peer, c, hpeer, hc, rfl⟩ := (sent_pertinent hrun h).1 req hreq
  obtain ⟨⟨t, ht, hop⟩, -⟩ := (run_requests hrun).inv.case _ c hc
  have hopened : c.opening = (openedCase ev.correlationId t).opening := hop
  refine ⟨peer, t, hpeer, ht, taskRequestFor_opening hpeer hopened _, ?_⟩
  intro ev' req' h' hreq' hcorr htarget
  obtain ⟨peer', c', hpeer', hc', rfl⟩ := (sent_pertinent hrun h').1 req' hreq'
  rw [hcorr] at hc' ⊢
  obtain rfl := Option.some.inj (hc'.symm.trans hc)
  rw [peer_eq_of_agentId hpeer' hpeer htarget]

/-- The sample ticket is delegated. -/
theorem exists_request_sent :
    ∃ tr s ev req, (service sampleSettings).Run EventLoop.anyStep (start 0 1000) tr s ∧
      Sent tr s ev ∧ ev.payload = .taskRequest req := by
  have hexec : ((service sampleSettings).exec delegationSchedule (start 0 1000)).map (fun out =>
      out.1.any fun o => asksPeer o.2) = some true := by decide +kernel
  obtain ⟨⟨tr, s⟩, hout, heq⟩ := Option.map_eq_some_iff.mp hexec
  obtain ⟨⟨i, o⟩, hmem, ho⟩ := List.any_eq_true.mp heq
  obtain ⟨ev, req, rfl, hreq⟩ := exists_of_asksPeer ho
  have hrun := EventLoop.Run.of_exec (G := EventLoop.anyStep) hout fun _ _ _ => trivial
  have hsent : Sent tr s ev := .inl ⟨i, .inl hmem⟩
  exact ⟨tr, s, ev, req, hrun, hsent, hreq⟩

/-- The request to the billing agent, delegated by the sample ticket. -/
theorem task_requests_are_of_their_case_sample :
    ∃ tr s ev req, (service sampleSettings).Run EventLoop.anyStep (start 0 1000) tr s ∧
      Sent tr s ev ∧ ev.payload = .taskRequest req ∧
      ∃ peer t, IsPeer peer ∧ TicketReceived tr ev.correlationId t ∧
        req = reviewRequest sampleSettings peer ev.correlationId t := by
  obtain ⟨tr, s, ev, req, hrun, hsent, hreq⟩ := exists_request_sent
  obtain ⟨peer, t, hpeer, ht, heq, -⟩ := task_requests_are_of_their_case hrun hsent hreq
  exact ⟨tr, s, ev, req, hrun, hsent, hreq, peer, t, hpeer, ht, heq⟩

theorem naming_reviewRequest {peer : Peer} (hpeer : IsPeer peer) (k : UUID)
    (t : SupportTicketCreatedPayload) :
    (OutPayload.taskRequest (reviewRequest S peer k t)).naming = some (subjectOf k t).naming := by
  rcases hpeer with rfl | rfl <;> rfl

/-- Every event but a task request has its names among its fields. -/
theorem exists_subject {payload : OutPayload} (h : ∀ req, payload ≠ .taskRequest req) :
    ∃ x, payload.subject = some x ∧ payload.naming = some x.naming := by
  cases payload with
  | taskRequest req => exact absurd rfl (h req)
  | issueClassified | refundReviewRequested | resolutionDecided | responseDrafted =>
    exact ⟨_, rfl, rfl⟩

/-- **Whom an event is about.** In every run, whatever the agent hands to the broker, whether it
    arrives or not, names its own case, and the ticket and the customer of one ticket that the agent
    was given for that case: a task request in its data, every other event in its fields. -/
theorem events_name_their_ticket {now : Time} {nextId : UUID} {tr : Trace} {s : State}
    (hrun : (service S).Run EventLoop.anyStep (start now nextId) tr s) {ev : OutEvent}
    (h : Sent tr s ev) :
    ∃ t, TicketReceived tr ev.correlationId t ∧
      ev.payload.naming = some (subjectOf ev.correlationId t).naming := by
  obtain ⟨habout, hnames⟩ := sent_pertinent hrun h
  by_cases htask : ∃ req, ev.payload = .taskRequest req
  · obtain ⟨req, hreq⟩ := htask
    obtain ⟨peer, c, hpeer, hc, rfl⟩ := habout req hreq
    obtain ⟨⟨t, ht, hop⟩, -⟩ := (run_requests hrun).inv.case _ c hc
    have hopened : c.opening = (openedCase ev.correlationId t).opening := hop
    refine ⟨t, ht, ?_⟩
    rw [hreq, taskRequestFor_opening hpeer hopened]
    exact naming_reviewRequest hpeer _ t
  · obtain ⟨x, hx, hnaming⟩ := exists_subject fun req hreq => htask ⟨req, hreq⟩
    obtain ⟨t, ht, rfl⟩ := hnames x hx
    exact ⟨t, ht, hnaming⟩

/-- A task request for the sample ticket. -/
theorem events_name_their_ticket_sample :
    ∃ tr s ev req, (service sampleSettings).Run EventLoop.anyStep (start 0 1000) tr s ∧
      Sent tr s ev ∧ ev.payload = .taskRequest req ∧
      ∃ t, TicketReceived tr ev.correlationId t ∧
        ev.payload.naming = some (subjectOf ev.correlationId t).naming := by
  obtain ⟨tr, s, ev, req, hrun, hsent, hreq⟩ := exists_request_sent
  exact ⟨tr, s, ev, req, hrun, hsent, hreq, events_name_their_ticket hrun hsent⟩

end RefundOps.Resolution
