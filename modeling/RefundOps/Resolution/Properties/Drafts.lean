import RefundOps.Llm.Properties.Reasoning
import RefundOps.Resolution.LlmAssist

/-!
# What a draft may say

`draft_with_llm` has four ways out, and they differ in what they check. A draft of the model passes
if its *body* names nothing internal; its subject, its type and its flag are taken as they are. In
place of a body that does, and after a failure, the deterministic draft goes to a human. In place of
a result from the store it goes out as it is. The deterministic draft checks the template with the
amount, and then puts the texts of the tone around it.

So a draft is safe exactly when the model's is (the flag, the type, the subject), or, on the other
three ways, when the texts of the tone are (`safe_draft_iff`). That the tone's texts can be looked
at one by one is `leaks_draftBody`: no name reaches across the line breaks between them.
-/

set_option autoImplicit false

namespace RefundOps.Resolution

/-! ## Internal names -/

/-- The names that no draft may contain. -/
def internalNames : List String := internalOnlyDraftFields ++ fraudScoringFields

/-- One of the names is in the text, whatever its case. -/
def leaks (text : String) : Bool :=
  internalNames.any fun name => Text.contains name (Text.lower text)

theorem assertNoInternalLeak_ok_iff {text : String} :
    assertNoInternalLeak text = .ok () ↔ leaks text = false := by
  unfold assertNoInternalLeak leaks internalNames
  rw [List.any_append, Bool.or_eq_false_iff, List.any_eq_false, List.any_eq_false]
  cases hinternal : internalOnlyDraftFields.find? fun field =>
      Text.contains field (Text.lower text) with
  | some field =>
    refine iff_of_false nofun ?_
    rintro ⟨hnone, -⟩
    have hfound := List.find?_some hinternal
    exact hnone field (List.mem_of_find?_eq_some hinternal) hfound
  | none =>
    dsimp only
    cases hscoring : fraudScoringFields.find? fun field =>
        Text.contains field (Text.lower text) with
    | some field =>
      refine iff_of_false nofun ?_
      rintro ⟨-, hnone⟩
      have hfound := List.find?_some hscoring
      exact hnone field (List.mem_of_find?_eq_some hscoring) hfound
    | none =>
      exact iff_of_true rfl ⟨List.find?_eq_none.mp hinternal, List.find?_eq_none.mp hscoring⟩

theorem contains_lower_iff {name text : String} :
    Text.contains name (Text.lower text) = true ↔
      name.toList <:+: text.toList.flatMap Text.lowerChar := by
  unfold Text.contains Text.lower
  rw [Text.isInfix_iff, String.toList_ofList]

/-- A character that is in no name, and that has no case. -/
structure Separates (c : Char) : Prop where
  lower : Text.lowerChar c = [c]
  absent : ∀ name ∈ internalNames, c ∉ name.toList

theorem separates_newline : Separates '\n' := ⟨by decide +kernel, by decide +kernel⟩

theorem separates_colon : Separates ':' := ⟨by decide +kernel, by decide +kernel⟩

/-- **A name does not reach across a separator.** -/
theorem leaks_separated {c : Char} (hc : Separates c) {text a b : String}
    (h : text.toList = a.toList ++ c :: b.toList) : leaks text = (leaks a || leaks b) := by
  have hname : ∀ name ∈ internalNames, Text.contains name (Text.lower text) =
      (Text.contains name (Text.lower a) || Text.contains name (Text.lower b)) := by
    intro name hmem
    rw [Bool.eq_iff_iff, Bool.or_eq_true, contains_lower_iff, contains_lower_iff,
      contains_lower_iff, h, List.flatMap_append, List.flatMap_cons, hc.lower]
    exact Text.infix_separated (hc.absent name hmem)
  unfold leaks
  rw [Bool.eq_iff_iff, Bool.or_eq_true, List.any_eq_true, List.any_eq_true, List.any_eq_true]
  constructor
  · rintro ⟨name, hmem, hin⟩
    rw [hname name hmem, Bool.or_eq_true] at hin
    exact hin.imp (fun h => ⟨name, hmem, h⟩) (fun h => ⟨name, hmem, h⟩)
  · rintro (⟨name, hmem, hin⟩ | ⟨name, hmem, hin⟩)
    · exact ⟨name, hmem, by rw [hname name hmem, hin, Bool.true_or]⟩
    · exact ⟨name, hmem, by rw [hname name hmem, hin, Bool.or_true]⟩

theorem leaks_draftSubject (tone : ToneConfig) :
    leaks (draftSubject tone) = leaks tone.brandName := by
  have hrest : leaks " Your support request has been reviewed" = false := by decide +kernel
  rw [leaks_separated separates_colon (a := tone.brandName)
    (b := " Your support request has been reviewed") ?_, hrest, Bool.or_false]
  unfold draftSubject
  rw [String.toList_append]
  rfl

theorem leaks_break {text a b : String} (h : text.toList = a.toList ++ '\n' :: '\n' :: b.toList) :
    leaks text = (leaks a || leaks b) := by
  have hempty : leaks "" = false := by decide +kernel
  have hb : leaks ("\n" ++ b) = leaks b := by
    rw [leaks_separated separates_newline (a := "") (b := b) (String.toList_append ..), hempty,
      Bool.false_or]
  rw [leaks_separated separates_newline (a := a) (b := "\n" ++ b) ?_, hb]
  rw [h, String.toList_append]
  rfl

theorem leaks_draftBody (tone : ToneConfig) (body : String) :
    leaks (draftBody tone body) = (leaks tone.greeting || (leaks body || leaks tone.signoff)) := by
  have hrest : leaks (body ++ "\n\n" ++ tone.signoff) = (leaks body || leaks tone.signoff) := by
    refine leaks_break ?_
    rw [String.toList_append, String.toList_append, List.append_assoc]
    rfl
  rw [← hrest]
  refine leaks_break ?_
  unfold draftBody
  simp only [String.toList_append, List.append_assoc]
  rfl

/-! ## Safe drafts -/

/-- A draft that keeps the gate and says nothing internal. -/
structure SafeDraft (outcome : ResolutionOutcome) (path : Llm.ReasoningPath) (d : ResponseDraft) :
    Prop where
  approval : outcome ∈ humanApprovalOutcomes ∨ path = .fallback → d.requiresHumanApproval = true
  responseType : d.responseType = (outcomeToResponseType outcome).value
  subject : leaks d.subject = false
  body : leaks d.body = false

/-- The texts of the tone say nothing internal. -/
structure ToneConfig.Clean (tone : ToneConfig) : Prop where
  brandName : leaks tone.brandName = false
  greeting : leaks tone.greeting = false
  signoff : leaks tone.signoff = false

theorem validate_eq_ok {subject body responseType : String} {approval : Bool} {d : ResponseDraft}
    (h : ResponseDraft.validate subject body responseType approval = .ok d) :
    d.subject = subject ∧ d.body = body ∧ d.responseType = responseType ∧
      d.requiresHumanApproval = approval := by
  unfold ResponseDraft.validate at h
  split at h
  · cases h
  · split at h
    · cases h
    · cases h
      exact ⟨rfl, rfl, rfl, rfl⟩

/-- What the deterministic drafter returns. -/
structure Structured (outcome : ResolutionOutcome) (facts : AllowedFacts) (tone : ToneConfig)
    (approval : Bool) (d : ResponseDraft) : Prop where
  checked : leaks (structuredBody outcome facts) = false
  subject : d.subject = draftSubject tone
  body : d.body = draftBody tone (structuredBody outcome facts)
  responseType : d.responseType = (outcomeToResponseType outcome).value
  approval : d.requiresHumanApproval = approval

section Drafts

variable {outcome : ResolutionOutcome} {facts : AllowedFacts} {tone : ToneConfig}
  {d : ResponseDraft}

theorem structured_of_ok (h : draftStructuredResponse outcome facts tone = .ok d) :
    Structured outcome facts tone (requiresHumanApproval outcome) d := by
  unfold draftStructuredResponse at h
  cases hleak : assertNoInternalLeak (structuredBody outcome facts) with
  | error exc =>
    rw [hleak] at h
    cases h
  | ok u =>
    rw [hleak] at h
    dsimp only [bind, Except.bind] at h
    obtain ⟨hs, hb, ht, ha⟩ := validate_eq_ok h
    exact ⟨assertNoInternalLeak_ok_iff.mp hleak, hs, hb, ht, ha⟩

/-- The same draft, sent to a human. -/
theorem Structured.forced {approval : Bool} {d' : ResponseDraft}
    (h : Structured outcome facts tone approval d)
    (h' : ResponseDraft.validate d.subject d.body d.responseType true = .ok d') :
    Structured outcome facts tone true d' := by
  obtain ⟨hs, hb, ht, ha⟩ := validate_eq_ok h'
  exact ⟨h.checked, hs.trans h.subject, hb.trans h.body, ht.trans h.responseType, ha⟩

/-- A deterministic draft is safe if the tone is clean. -/
theorem Structured.safe_iff {approval : Bool} {path : Llm.ReasoningPath}
    (h : Structured outcome facts tone approval d)
    (happroval : outcome ∈ humanApprovalOutcomes ∨ path = .fallback → approval = true) :
    SafeDraft outcome path d ↔ tone.Clean := by
  have hbody : leaks d.body = (leaks tone.greeting || leaks tone.signoff) := by
    rw [h.body, leaks_draftBody, h.checked, Bool.false_or]
  have hsubject : leaks d.subject = leaks tone.brandName := by
    rw [h.subject, leaks_draftSubject]
  constructor
  · intro hsafe
    have hb := hsafe.body
    rw [hbody, Bool.or_eq_false_iff] at hb
    exact ⟨hsubject.symm.trans hsafe.subject, hb.1, hb.2⟩
  · intro hclean
    refine ⟨fun hgate => h.approval.trans (happroval hgate), h.responseType,
      hsubject.trans hclean.brandName, ?_⟩
    rw [hbody, hclean.greeting, hclean.signoff]
    rfl

end Drafts

/-! ## The draft that is returned -/

/-- What a draft of the model has to bring along itself. -/
structure KeepsGate (outcome : ResolutionOutcome) (d : ResponseDraft) : Prop where
  approval : outcome ∈ humanApprovalOutcomes → d.requiresHumanApproval = true
  responseType : d.responseType = (outcomeToResponseType outcome).value
  subject : leaks d.subject = false

/-- A draft of the model that is returned keeps the gate; if there is none, or its body is rejected,
    the tone is clean. -/
def DraftsSafely (outcome : ResolutionOutcome) (tone : ToneConfig) : Option ResponseDraft → Prop
  | some d => if leaks d.body = true then tone.Clean else KeepsGate outcome d
  | none => tone.Clean

section Returned

variable {S Obj : Type} {lib : Llm.Library S Obj} {K : ModelClass lib ResponseDraft}
  {outcome : ResolutionOutcome} {facts : AllowedFacts} {tone : ToneConfig}
  {result : Llm.AssistiveResult Obj} {d m : ResponseDraft}

theorem assertNoInternalLeak_cases (text : String) :
    (leaks text = false ∧ assertNoInternalLeak text = .ok ()) ∨
      (leaks text = true ∧ ∃ exc, assertNoInternalLeak text = .error exc) := by
  cases hassert : assertNoInternalLeak text with
  | ok u => exact .inl ⟨assertNoInternalLeak_ok_iff.mp hassert, rfl⟩
  | error exc =>
    refine .inr ⟨?_, exc, rfl⟩
    by_contra hleaks
    rw [Bool.not_eq_true, ← assertNoInternalLeak_ok_iff, hassert] at hleaks
    cases hleaks

/-- After a body that is rejected. -/
theorem structured_of_leak (hm : K.fields result.value = some m) (hleaks : leaks m.body = true)
    (h : finishDraft K outcome facts tone result = .ok d) :
    Structured outcome facts tone true d := by
  obtain ⟨hclean, -⟩ | ⟨-, exc, hassert⟩ := assertNoInternalLeak_cases m.body
  · rw [hclean] at hleaks
    cases hleaks
  unfold finishDraft at h
  rw [hm] at h
  dsimp only at h
  rw [hassert] at h
  dsimp only at h
  cases hfallback : draftStructuredResponse outcome facts tone with
  | error exc =>
    rw [hfallback] at h
    cases h
  | ok fallback =>
    rw [hfallback] at h
    dsimp only [bind, Except.bind] at h
    exact (structured_of_ok hfallback).forced h

/-- A draft of the model whose body is accepted is returned as it is. -/
theorem finishDraft_of_model (hm : K.fields result.value = some m) (hleaks : leaks m.body = false)
    (hpath : result.reasoningPath = .model)
    (h : finishDraft K outcome facts tone result = .ok d) : d = m := by
  unfold finishDraft at h
  rw [hm] at h
  dsimp only at h
  rw [assertNoInternalLeak_ok_iff.mpr hleaks, hpath] at h
  cases h
  rfl

/-- A draft of the fallback goes to a human, whether its body is accepted or not. -/
theorem structured_of_fallback {approval : Bool} (hm : K.fields result.value = some m)
    (hstructured : Structured outcome facts tone approval m)
    (hpath : result.reasoningPath = .fallback)
    (h : finishDraft K outcome facts tone result = .ok d) :
    Structured outcome facts tone true d := by
  obtain ⟨-, hassert⟩ | ⟨hleaks, -⟩ := assertNoInternalLeak_cases m.body
  · unfold finishDraft at h
    rw [hm] at h
    dsimp only at h
    rw [hassert, hpath] at h
    dsimp only at h
    rw [if_pos rfl] at h
    exact hstructured.forced h
  · exact structured_of_leak hm hleaks h

/-- A result of the store is no draft. -/
theorem structured_of_stored (hm : K.fields result.value = none)
    (h : finishDraft K outcome facts tone result = .ok d) :
    Structured outcome facts tone (requiresHumanApproval outcome) d := by
  unfold finishDraft at h
  rw [hm] at h
  exact structured_of_ok h

theorem fields_ofJson {data : Json} : K.fields (lib.ofJson data) = none := by
  cases hfields : K.fields (lib.ofJson data) with
  | none => rfl
  | some m =>
    refine absurd ((K.isInstance_iff _).mpr ?_) (lib.not_isInstance_ofJson K.schema data)
    rw [hfields]
    rfl

variable {ticketSummary : String} {correlationId causationId : UUID} {hid : correlationId < 2 ^ 128}

/-- The value of the fallback is a deterministic draft. -/
theorem fields_of_fallback {value : Obj}
    (h : (draftRequest K outcome facts tone ticketSummary correlationId causationId hid).fallback =
      .ok value) :
    ∃ m, K.fields value = some m ∧
      Structured outcome facts tone (requiresHumanApproval outcome) m := by
  simp only [draftRequest] at h
  cases hfallback : draftStructuredResponse outcome facts tone with
  | error exc =>
    rw [hfallback] at h
    cases h
  | ok m =>
    rw [hfallback] at h
    cases h
    exact ⟨m, K.fields_new m, structured_of_ok hfallback⟩

/-- Safety by where the result comes from. -/
theorem safe_iff_of_origin {model : Option Obj}
    (horigin : Llm.Origin lib
      (draftRequest K outcome facts tone ticketSummary correlationId causationId hid) result model)
    (h : finishDraft K outcome facts tone result = .ok d) :
    SafeDraft outcome result.reasoningPath d ↔
      DraftsSafely outcome tone (model.bind K.fields) := by
  cases horigin with
  | stored data hvalue hpath =>
    have hm : K.fields result.value = none := by rw [hvalue, fields_ofJson]
    refine (structured_of_stored hm h).safe_iff ?_
    rintro (hgate | hfallback)
    · exact decide_eq_true hgate
    · rw [hpath] at hfallback
      cases hfallback
  | fallback hvalue hpath =>
    obtain ⟨m, hm, hstructured⟩ := fields_of_fallback hvalue
    exact (structured_of_fallback hm hstructured hpath h).safe_iff fun _ => rfl
  | model hinst hpath =>
    obtain ⟨m, hm⟩ := Option.isSome_iff_exists.mp ((K.isInstance_iff _).mp hinst)
    rw [Option.bind_some, hm]
    unfold DraftsSafely
    dsimp only
    cases hleaks : leaks m.body with
    | true =>
      rw [if_pos rfl]
      exact (structured_of_leak hm hleaks h).safe_iff fun _ => rfl
    | false =>
      rw [if_neg nofun, finishDraft_of_model hm hleaks hpath h, hpath]
      constructor
      · intro hsafe
        exact ⟨fun hgate => hsafe.approval (.inl hgate), hsafe.responseType, hsafe.subject⟩
      · rintro ⟨happroval, htype, hsubject⟩
        refine ⟨?_, htype, hsubject, hleaks⟩
        rintro (hgate | ⟨⟨⟩⟩)
        exact happroval hgate

/-- What is made of the result of the reasoning step. -/
theorem draftWithLlm_runSync {env : String} {auditLib : Llm.AuditLibrary Obj} {rt : Llm.LLMRuntime}
    {provider : ∀ x : Llm.Request env, Llm.Reply x} {w : Llm.World} (toneConfig : Option ToneConfig)
    (hreason : ((Llm.reason lib auditLib rt (draftRequest K outcome facts
      (toneConfig.getD defaultTone) ticketSummary correlationId causationId hid)).runSync
        provider w).2.2 = .ok result) :
    ((draftWithLlm K auditLib rt outcome facts toneConfig ticketSummary correlationId
      causationId hid).runSync provider w).2.2 =
      (finishDraft K outcome facts (toneConfig.getD defaultTone) result).mapError Llm.Exc.other := by
  unfold draftWithLlm
  rw [Coro.runSync_bind]
  generalize (Llm.reason lib auditLib rt (draftRequest K outcome facts
    (toneConfig.getD defaultTone) ticketSummary correlationId causationId hid)).runSync
      provider w = out at hreason
  obtain ⟨seen, w', returned⟩ := out
  dsimp only at hreason
  subst hreason
  dsimp only
  cases finishDraft K outcome facts (toneConfig.getD defaultTone) result with
  | error exc => rfl
  | ok d => rfl

end Returned

/-- **When the draft that is returned is safe.** The model comes to a draft with a clean body: it has
    to have the flag, the type and a clean subject of its own. Otherwise the texts of the tone have
    to be clean. -/
theorem safe_draft_iff {env : String} {S Obj : Type} {lib : Llm.Library S Obj}
    (K : ModelClass lib ResponseDraft) (auditLib : Llm.AuditLibrary Obj) (rt : Llm.LLMRuntime)
    (outcome : ResolutionOutcome) (facts : AllowedFacts) (toneConfig : Option ToneConfig)
    (ticketSummary : String) (correlationId causationId : UUID) (hid : correlationId < 2 ^ 128)
    (provider : ∀ x : Llm.Request env, Llm.Reply x) (w : Llm.World)
    {result : Llm.AssistiveResult Obj} {draft : ResponseDraft}
    (hreason : ((Llm.reason lib auditLib rt (draftRequest K outcome facts
      (toneConfig.getD defaultTone) ticketSummary correlationId causationId hid)).runSync
        provider w).2.2 = .ok result)
    (hdraft : ((draftWithLlm K auditLib rt outcome facts toneConfig ticketSummary correlationId
      causationId hid).runSync provider w).2.2 = .ok draft) :
    SafeDraft outcome result.reasoningPath draft ↔
      DraftsSafely outcome (toneConfig.getD defaultTone)
        ((Llm.modelValue lib rt (draftRequest K outcome facts (toneConfig.getD defaultTone)
          ticketSummary correlationId causationId hid) provider w).bind K.fields) := by
  have hfinish := (draftWithLlm_runSync toneConfig hreason).symm.trans hdraft
  cases hmade : finishDraft K outcome facts (toneConfig.getD defaultTone) result with
  | error exc =>
    rw [hmade] at hfinish
    cases hfinish
  | ok d =>
    rw [hmade] at hfinish
    cases hfinish
    exact safe_iff_of_origin (Llm.reason_origin hreason) hmade

/-! ## A sample -/

/-- `ResponseDraft.model_validate`, as far as the sample needs it. -/
def validateDraft (data : Json) : Except String ResponseDraft :=
  match data.get? "subject", data.get? "body", data.get? "response_type",
      data.get? "requires_human_approval" with
  | some (.str subject), some (.str body), some (.str responseType), some (.bool approval) =>
      ResponseDraft.validate subject body responseType approval
  | _, _, _, _ => .error "Field required"

def dumpDraft (d : ResponseDraft) : Json :=
  .obj [("subject", .str d.subject), ("body", .str d.body), ("response_type", .str d.responseType),
    ("requires_human_approval", .bool d.requiresHumanApproval)]

/-- A draft of the model, as it stands in the text of the provider. -/
def draftText (subject responseType : String) (approval : Bool) : String :=
  let items := "\"subject\": \"" ++ subject ++ "\", \"body\": \"It is on its way.\", " ++
    "\"response_type\": \"" ++ responseType ++ "\", \"requires_human_approval\": " ++
    if approval then "true" else "false"
  "\x7b" ++ items ++ "\x7d"

/-- A library for a provider that has this one text to give. -/
def draftLibrary (subject responseType : String) (approval : Bool) :
    Llm.Library Unit (ResponseDraft ⊕ Json) :=
  sampleModelLibrary validateDraft dumpDraft fun text =>
    if text = draftText subject responseType approval then
      .ok (.obj [("subject", .str subject), ("body", .str "It is on its way."),
        ("response_type", .str responseType), ("requires_human_approval", .bool approval)])
    else .error (.jsonDecodeError "Expecting value: line 1 column 1 (char 0)")

theorem one_lt_two_pow : (1 : UUID) < 2 ^ 128 := by decide

section Sample

variable (subject responseType : String) (approval : Bool)

def draftClass : ModelClass (draftLibrary subject responseType approval) ResponseDraft :=
  sampleClass _ _ _

/-- A draft for an approval: the reasoning step, what is returned, and what the model came to. -/
structure ApprovalRun (result : Llm.AssistiveResult (ResponseDraft ⊕ Json)) (d : ResponseDraft) :
    Prop where
  reasoned : ((Llm.reason (draftLibrary subject responseType approval) (sampleAuditOf ResponseDraft)
    Llm.sampleRuntime (draftRequest (draftClass subject responseType approval) .approveRefund {}
      (Option.getD none defaultTone) "" 1 2 one_lt_two_pow)).runSync
    (Llm.sampleAnswer (.ok (draftText subject responseType approval))) Llm.sampleWorld).2.2 =
      .ok result
  returned : ((draftWithLlm (draftClass subject responseType approval) (sampleAuditOf ResponseDraft)
    Llm.sampleRuntime .approveRefund {} none "" 1 2 one_lt_two_pow).runSync
    (Llm.sampleAnswer (.ok (draftText subject responseType approval))) Llm.sampleWorld).2.2 = .ok d
  model : (Llm.modelValue (draftLibrary subject responseType approval) Llm.sampleRuntime
    (draftRequest (draftClass subject responseType approval) .approveRefund {}
      (Option.getD none defaultTone) "" 1 2 one_lt_two_pow)
    (Llm.sampleAnswer (.ok (draftText subject responseType approval))) Llm.sampleWorld).bind
      (draftClass subject responseType approval).fields = some d

variable {subject responseType approval} {d : ResponseDraft}

theorem validateOutput_draftText {request : Llm.AssistiveRequest Unit (ResponseDraft ⊕ Json)}
    (h : ResponseDraft.validate subject "It is on its way." responseType approval = .ok d) :
    Llm.validateOutput (draftLibrary subject responseType approval) request
      (draftText subject responseType approval) = some (.inl d) := by
  have hstrip : Llm.stripFences (draftText subject responseType approval) =
      draftText subject responseType approval := by
    unfold draftText
    extract_lets items
    refine Llm.stripFences_object (l := items.toList) ?_
    rw [String.toList_append, String.toList_append]
    rfl
  have hvalid : validateDraft (.obj [("subject", .str subject),
      ("body", .str "It is on its way."), ("response_type", .str responseType),
      ("requires_human_approval", .bool approval)]) = .ok d := h
  unfold Llm.validateOutput
  rw [hstrip]
  simp only [draftLibrary, sampleModelLibrary, if_true, hvalid]
  rfl

/-- The text of the provider is accepted, and the draft in it returned. -/
theorem approvalRun_of_valid
    (h : ResponseDraft.validate subject "It is on its way." responseType approval = .ok d) :
    ∃ result, ApprovalRun subject responseType approval result d := by
  obtain ⟨prompt, hprompt⟩ : ∃ prompt, Llm.renderPrompt (draftLibrary subject responseType approval)
      (draftRequest (draftClass subject responseType approval) .approveRefund {}
        (Option.getD none defaultTone) "" 1 2 one_lt_two_pow) none = .ok prompt := ⟨_, rfl⟩
  obtain ⟨result, hstep, hvalue, hpath⟩ := @Llm.reason_of_valid "local" _ _
    (draftLibrary subject responseType approval) (sampleAuditOf ResponseDraft) Llm.sampleRuntime
    (draftRequest (draftClass subject responseType approval) .approveRefund {}
      (Option.getD none defaultTone) "" 1 2 one_lt_two_pow)
    (Llm.sampleAnswer (.ok (draftText subject responseType approval))) Llm.sampleWorld
    prompt _ _ _ rfl hprompt rfl (validateOutput_draftText h) rfl
  have hclean : leaks d.body = false := by
    rw [(validate_eq_ok h).2.1]
    decide +kernel
  have hfields : (draftClass subject responseType approval).fields result.value = some d := by
    rw [hvalue]
    rfl
  have hfinish : finishDraft (draftClass subject responseType approval) .approveRefund {}
      (Option.getD none defaultTone) result = .ok d := by
    unfold finishDraft
    rw [hfields]
    dsimp only
    rw [assertNoInternalLeak_ok_iff.mpr hclean, hpath]
    rfl
  refine ⟨result, hstep, ?_, ?_⟩
  · rw [draftWithLlm_runSync none hstep, hfinish]
    rfl
  · rw [(Llm.reason_origin hstep).eq_of_model hpath, Option.bind_some, hfields]

end Sample

theorem validate_of_nonEmpty {subject body responseType : String} {approval : Bool}
    (hs : Text.strip subject ≠ "") (hb : Text.strip body ≠ "") :
    ResponseDraft.validate subject body responseType approval =
      .ok ⟨subject, body, responseType, approval, hs, hb⟩ := by
  unfold ResponseDraft.validate
  rw [dif_neg hs, dif_neg hb]

/-- **An approval that no human is asked about.** The draft of the model is accepted by the schema
    and its body is clean, so it is returned, with the flag off, the type of a direct answer and an
    internal name in its subject. -/
theorem unguarded_draft_is_returned :
    ∃ result draft, ApprovalRun "Your risk_level" "direct_answer" false result draft ∧
      draft.requiresHumanApproval = false ∧ draft.responseType = "direct_answer" ∧
      leaks draft.subject = true ∧ ¬ SafeDraft .approveRefund result.reasoningPath draft := by
  have hvalid := @validate_of_nonEmpty "Your risk_level" "It is on its way." "direct_answer" false
    (by decide +kernel) (by decide +kernel)
  obtain ⟨result, hrun⟩ := approvalRun_of_valid hvalid
  refine ⟨result, _, hrun, rfl, rfl, by decide +kernel, ?_⟩
  intro hsafe
  cases hsafe.approval (.inl (by decide))

/-- A draft of the model that keeps the gate by itself. -/
theorem safe_draft_guarded :
    ∃ result draft, ApprovalRun "Your refund" "refund_confirmation" true result draft ∧
      SafeDraft .approveRefund result.reasoningPath draft := by
  have hvalid := @validate_of_nonEmpty "Your refund" "It is on its way." "refund_confirmation" true
    (by decide +kernel) (by decide +kernel)
  obtain ⟨result, hrun⟩ := approvalRun_of_valid hvalid
  refine ⟨result, _, hrun, ?_⟩
  refine (safe_draft_iff (draftClass "Your refund" "refund_confirmation" true)
    (sampleAuditOf ResponseDraft) Llm.sampleRuntime .approveRefund {} none "" 1 2 one_lt_two_pow
    (Llm.sampleAnswer (.ok (draftText "Your refund" "refund_confirmation" true))) Llm.sampleWorld
    hrun.reasoned hrun.returned).mpr ?_
  rw [hrun.model]
  unfold DraftsSafely
  dsimp only
  rw [if_neg (by decide +kernel)]
  exact ⟨fun _ => rfl, rfl, by decide +kernel⟩

end RefundOps.Resolution
