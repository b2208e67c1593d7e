import RefundOps.Llm.Properties.Reasoning
import RefundOps.Resolution.LlmAssist
import RefundOps.Resolution.Properties.ModelOutput
import RefundOps.Resolution.Store.Operations

/-!
# The triage without the model

A provider that never gives a valid text fails in three ways. The first call raises, or every text
is rejected: the result is the fallback of the request. A call of the repair loop raises: so does
`reason`, and `intake_handler` catches it. The prompt cannot be rendered: the same.

The fallback is the deterministic triage put into the terms of the schema, and read back its
ambiguity is computed from the confidence. The three triages of `classify` survive that
(`toTriage_fallbackClassification`), so in all three ways the triage that is stored is that of
`classify` (`fallback_triage`).
-/

set_option autoImplicit false

namespace RefundOps.Resolution

/-- **The deterministic triage survives the schema.** Its three confidences are on the right sides of
    the one that `to_triage` reads ambiguity from. -/
theorem toTriage_fallbackClassification (ticket : SupportTicketCreatedPayload) :
    (fallbackClassification ticket).toTriage = classify ticket := by
  have hambiguous : Decidable.decide ((classify ticket).confidence.val < 7 / 10) =
      (classify ticket).ambiguous := by
    unfold classify
    dsimp only
    split
    · norm_num
    · split <;> norm_num
  unfold TicketClassification.toTriage fallbackClassification
  rw [hambiguous]

section Answer

variable {env : String} {S Obj : Type} {lib : Llm.Library S Obj}
  (K : ModelClass lib TicketClassification) (auditLib : Llm.AuditLibrary Obj) (rt : Llm.LLMRuntime)
  (ticket : SupportTicketCreatedPayload) {correlationId : UUID} (causationId : UUID)
  (hid : correlationId < 2 ^ 128) (provider : ∀ x : Llm.Request env, Llm.Reply x)
  (w : Llm.World)

/-- What `intake_handler` gets when it asks: the classification, if the value of the result is one,
    or the exception. -/
def classificationAnswer : LlmAnswer :=
  match ((Llm.reason lib auditLib rt
      (classifyRequest K ticket correlationId causationId hid)).runSync provider w).2.2 with
  | .ok result => .ok (K.fields result.value)
  | .error exc => .error exc.text

/-- What `classify_with_llm` returns is the triage of that answer. -/
theorem classifyWithLlm_returns {triage : Triage}
    (h : ((classifyWithLlm K auditLib rt ticket correlationId causationId hid).runSync provider
      w).2.2 = .ok triage) :
    triage = llmTriage ticket
      (classificationAnswer K auditLib rt ticket causationId hid provider w) := by
  revert h
  unfold classifyWithLlm classificationAnswer
  rw [Coro.runSync_bind]
  generalize (Llm.reason lib auditLib rt
    (classifyRequest K ticket correlationId causationId hid)).runSync provider w = out
  obtain ⟨seen, w', outcome⟩ := out
  cases outcome with
  | error exc =>
    intro h
    cases h
  | ok result =>
    dsimp only
    cases K.fields result.value with
    | none =>
      intro h
      cases h
      rfl
    | some classification =>
      intro h
      cases h
      rfl

variable {K ticket causationId provider w}

/-- Without a valid text the answer is the fallback, or an exception; the triage is the same. -/
theorem llmTriage_of_neverValid {capacity : Nat}
    (h : Llm.NeverValid lib (classifyRequest K ticket correlationId causationId hid) provider)
    (hempty : w.store = .empty capacity) :
    llmTriage ticket (classificationAnswer K auditLib rt ticket causationId hid provider w) =
      classify ticket := by
  unfold classificationAnswer
  rcases @Llm.reason_of_neverValid env S Obj lib auditLib rt _ provider h w _ rfl
    (by rw [hempty]; rfl) with ⟨result, hrun, hvalue, -⟩ | ⟨exc, hrun⟩
  · rw [hrun]
    dsimp only
    rw [hvalue, K.fields_new]
    exact toTriage_fallbackClassification ticket
  · rw [hrun]
    rfl

end Answer

/-! ## The handler -/

/-- The record of a ticket, as the intake finds it or makes it. -/
def intakeCase (w : World) (e : Inbound SupportTicketCreatedPayload)
    (ticket : SupportTicketCreatedPayload) : ResolutionCase :=
  (w.store.getOrCreate e.correlationId ticket.ticketId ticket.customerId e.correlationId
    ticket.amount ticket.currency ticket.reason w.now).1

/-- The handler from the triage on. -/
def intakeFrom (S : Settings) (e : Inbound SupportTicketCreatedPayload)
    (ticket : SupportTicketCreatedPayload) (c : ResolutionCase) (triage : Triage) : M Unit := do
  assign c fun c => { c with triage := some triage, status := .classified }
  save c
  writeAudit e.ref .accepted none AuditOutcome.accepted_reasonOk
  let _ ← publish
    (.issueClassified (buildIssueClassifiedPayload ticket e.correlationId triage))
    e.correlationId e.eventId
  if triage.needsRefundReview then delegateReviews S c ticket e.ref
  else respondDirectly c ticket triage e.eventId

section Handler

variable {S : Settings} {e : Inbound SupportTicketCreatedPayload}
  {ticket : SupportTicketCreatedPayload} {w : World}

/-- With the model enabled the first stretch of the intake ends at the question, and what follows
    depends on the answer through the triage alone. -/
theorem intakeHandler_segment (hllm : S.craLlmEnabled = true) (hp : e.payload = some ticket)
    (hopen : (intakeCase w e ticket).status = .received ∨
      (intakeCase w e ticket).status = .classified) :
    ∃ w₁ resume, (intakeHandler S e).segment w =
        ([], w₁, .parked (.classifyWithLlm ticket e.correlationId e.eventId) resume) ∧
      ∀ y : LlmAnswer, resume y =
        intakeFrom S e ticket (intakeCase w e ticket) (llmTriage ticket y) := by
  unfold intakeHandler
  rw [hp]
  simp only [triageTicket, if_pos hllm]
  show ∃ w₁ resume, Coro.segment (if (intakeCase w e ticket).status = .received ∨
    (intakeCase w e ticket).status = .classified then _ else _) _ = _ ∧ _
  rw [if_pos hopen]
  refine ⟨_, _, rfl, ?_⟩
  intro y
  cases y with
  | ok c => rfl
  | error exc => rfl

/-- Saving the record under a key leaves a record with its triage there. -/
theorem save_triage {st : InMemoryCaseStateStore} {k : UUID} {r : ResolutionCase} {t : Triage}
    (now : Time) (hr : st.get k = some r) (ht : r.triage = some t) :
    ∃ st', st.save r none now = some st' ∧ ∃ r', st'.get k = some r' ∧ r'.triage = some t := by
  unfold InMemoryCaseStateStore.save
  refine ⟨_, if_neg (by cases st.cases.get? r.caseId <;> simp), ?_⟩
  by_cases hk : k = r.caseId
  · subst hk
    exact ⟨_, Dict.get?_set_self _ _ _, ht⟩
  · exact ⟨r, (Dict.get?_set_ne _ _ hk).trans hr, ht⟩

/-- The stretch after the answer stores the triage. The assignment goes through the reference, so
    the record has it before it is saved. -/
theorem intakeFrom_stores {c r : ResolutionCase} {triage : Triage}
    (hr : w.store.get c.caseId = some r) :
    ∃ r', ((intakeFrom S e ticket c triage).segment w).2.1.store.get c.caseId = some r' ∧
      r'.triage = some triage := by
  let mark : ResolutionCase → ResolutionCase :=
    fun c => { c with triage := some triage, status := .classified }
  have hassigned : (w.store.modify c.caseId mark).get c.caseId = some (mark r) :=
    InMemoryCaseStateStore.get_modify_self hr mark
  obtain ⟨st', hsave, r', hr', htriage⟩ := save_triage w.now hassigned rfl
  refine ⟨r', ?_, htriage⟩
  have hsegment : ((intakeFrom S e ticket c triage).segment w).2.1.store = st' := by
    unfold intakeFrom
    show ((save c >>= fun _ => _ : M Unit).segment
      { w with store := w.store.modify c.caseId mark }).2.1.store = st'
    unfold save
    simp only [updateStore_eq]
    show (((w.store.modify c.caseId mark).save
        (((w.store.modify c.caseId mark).get c.caseId).getD c) none w.now).elim
      (throw "CaseSaveConflict") (fun st => Coro.write { w with store := st }) >>= fun _ =>
        _ : M Unit).segment _ |>.2.1.store = st'
    rw [hassigned, Option.getD_some, hsave]
    rfl
  rw [hsegment]
  exact hr'

end Handler

/-- **The triage of a failed model is the deterministic one.** Whatever the ticket and whatever a
    provider does that never gives a valid text: `classify_with_llm` returns nothing but the triage
    of `classify`, and the stretch of the intake that follows its answer, or its exception, leaves
    that triage in the record of the case. -/
theorem fallback_triage {env : String} {Sch Obj : Type} {lib : Llm.Library Sch Obj}
    (K : ModelClass lib TicketClassification) (auditLib : Llm.AuditLibrary Obj)
    (rt : Llm.LLMRuntime) (provider : ∀ x : Llm.Request env, Llm.Reply x) (lw : Llm.World)
    {S : Settings} (hllm : S.craLlmEnabled = true) {e : Inbound SupportTicketCreatedPayload}
    {ticket : SupportTicketCreatedPayload} (hp : e.payload = some ticket)
    (hid : e.correlationId < 2 ^ 128) {capacity : Nat} (hempty : lw.store = .empty capacity)
    (hnever : Llm.NeverValid lib (classifyRequest K ticket e.correlationId e.eventId hid) provider)
    (w : World) (hopen : (intakeCase w e ticket).status = .received ∨
      (intakeCase w e ticket).status = .classified) :
    (∀ triage, ((classifyWithLlm K auditLib rt ticket e.correlationId e.eventId hid).runSync
        provider lw).2.2 = .ok triage → triage = classify ticket) ∧
    ∃ w₁ resume, (intakeHandler S e).segment w =
        ([], w₁, .parked (.classifyWithLlm ticket e.correlationId e.eventId) resume) ∧
      ∀ w₂ r, w₂.store.get (intakeCase w e ticket).caseId = some r →
        ∃ r', ((resume (classificationAnswer K auditLib rt ticket e.eventId hid provider
            lw)).segment w₂).2.1.store.get (intakeCase w e ticket).caseId = some r' ∧
          r'.triage = some (classify ticket) := by
  have htriage := llmTriage_of_neverValid auditLib rt hid hnever hempty
  refine ⟨fun triage hreturns => ?_, ?_⟩
  · rw [← htriage]
    exact classifyWithLlm_returns K auditLib rt ticket e.eventId hid provider lw hreturns
  obtain ⟨w₁, resume, hsegment, hresume⟩ := intakeHandler_segment hllm hp hopen
  refine ⟨w₁, resume, hsegment, ?_⟩
  intro w₂ r hr
  rw [hresume]
  rw [htriage]
  exact intakeFrom_stores hr

/-- `TicketClassification.model_validate`, as far as the sample needs it: the four required
    fields. -/
def validateClassification (data : Json) : Except String TicketClassification :=
  match data.get? "issue_type", data.get? "needs_refund_review", data.get? "confidence",
      data.get? "rationale" with
  | some (.str issueType), some (.bool needsRefundReview), some (.num x), some (.str rationale) =>
      if h : 0 ≤ x ∧ x ≤ 1 then
        .ok { issueType, needsRefundReview, confidence := ⟨x, h⟩, rationale }
      else .error "confidence"
  | _, _, _, _ => .error "Field required"

def dumpClassification (c : TicketClassification) : Json :=
  .obj [("issue_type", .str c.issueType), ("needs_refund_review", .bool c.needsRefundReview),
    ("confidence", .num c.confidence.val), ("rationale", .str c.rationale),
    ("matched_signals", .arr (c.matchedSignals.map .str))]

/-- The class of classifications, for a provider whose only text is no JSON. -/
def sampleClassificationClass :
    ModelClass (sampleModelLibrary validateClassification dumpClassification fun _ =>
      .error (.jsonDecodeError "Expecting value: line 1 column 1 (char 0)")) TicketClassification :=
  sampleClass _ _ _

/-- A provider whose first text is no JSON and that is throttled after that. -/
theorem fallback_triage_throttled :
    ∃ w₁ resume, (intakeHandler llmSettings refundEnvelope).segment { now := 0, nextId := 1 } =
        ([], w₁, .parked (.classifyWithLlm (sampleTicket "refund please") 1 100) resume) ∧
      ∀ w₂ r, w₂.store.get 1 = some r →
        ∃ r', ((resume (classificationAnswer sampleClassificationClass (sampleAuditOf _)
            Llm.sampleRuntime (sampleTicket "refund please") 100 (by decide : 1 < 2 ^ 128)
            Llm.throttledAnswer Llm.sampleWorld)).segment w₂).2.1.store.get 1 = some r' ∧
          r'.triage = some (classify (sampleTicket "refund please")) := by
  refine (fallback_triage sampleClassificationClass (sampleAuditOf _) Llm.sampleRuntime
    Llm.throttledAnswer Llm.sampleWorld rfl rfl (by decide) rfl ?_ { now := 0, nextId := 1 }
    (.inl rfl)).2
  intro call prompt raw hraw
  cases call with
  | zero =>
    cases hraw
    rfl
  | succ n => cases hraw

end RefundOps.Resolution
