import RefundOps.Billing.LlmSummary
import RefundOps.Risk.LlmSummary
import RefundOps.Workflow.Approvals

/-!
# Peers with their language models

In `Model.lean` a peer's model is a service, any function that may give a narrative. Here it is the
LLM runtime, with a provider that may answer anything: the handler asks it, catches what it raises, and
reads what comes back. This system is one of `Model.lean`'s (`ModelRun.run`), so whatever holds of
all runs there holds with running models, and no verdict is lost for what a model does.

What the models add is on the topics with the verdicts: `BillingNarrated` and `RiskNarrated` say where
it comes from.
-/

set_option autoImplicit false

namespace RefundOps.Workflow

open Llm (Narrator Provider NarratedBy)

/-! ## The system -/

/-- The language models of the peers. -/
structure Models where
  billing : Narrator Billing.BillingNarrative
  risk : Narrator Risk.RiskNarrative

/-- What a handler asks of others, its model's provider among them. -/
structure Asking (Payload : Type) (env : String) where
  provider : Provider env
  publish : Payload → UUID → UUID → Except String Unit

/-- The same behaviour of the outside, for other services. -/
def Handling.serving {A B : Type} (h : Handling A) (services : B) : Handling B :=
  { h with services }

section Models

variable (D : Deployment) (M : Models)

abbrev BillingHandling : Type :=
  Handling (Asking BillingRefundAnalysisCompletedPayload M.billing.env)

abbrev RiskHandling : Type := Handling (Asking RiskReviewCompletedPayload M.risk.env)

/-- One message of the endpoint topic of the billing agent. -/
def handleBillingWith (e : Runtime.Envelope) (h : BillingHandling M) (w : Runtime.World) :
    List Runtime.Obs × Runtime.World :=
  Runtime.deliver Billing.billingRuntime D.codec
    { raw := e, now := h.now
      answer := h.answer (Billing.handleEligibilityWith M.billing h.services.provider D.billing
        h.services.publish h.now) } w

def handleRiskWith (e : Runtime.Envelope) (h : RiskHandling M) (w : Runtime.World) :
    List Runtime.Obs × Runtime.World :=
  Runtime.deliver Risk.riskRuntime D.codec
    { raw := e, now := h.now
      answer := h.answer (Risk.handleRiskWith M.risk h.services.provider D.risk
        h.services.publish) } w

/-- The domain event of a call of the billing handler, if it gets to publish one. -/
def billingEventWith (h : BillingHandling M) :
    Runtime.Obs → Option (Inbound BillingRefundAnalysisCompletedPayload)
  | .handlerCalled req =>
    match Billing.analyze D.billing h.now req.input.parts with
    | .error _ => none
    | .ok a =>
      match M.billing.read (Billing.enrichRecommendation M.billing h.services.provider
        a.recommendation a.request (some req.taskId)) with
      | .error _ => none
      | .ok narrative => some
          { eventId := h.eventId
            correlationId := a.request.caseId
            payload := some (Billing.buildResultPayload a.request a.recommendation a.facts narrative) }
  | _ => none

def riskEventWith (h : RiskHandling M) : Runtime.Obs → Option (Inbound RiskReviewCompletedPayload)
  | .handlerCalled req =>
    match Risk.assess D.risk req.input.parts with
    | .error _ => none
    | .ok (assessment, request) =>
      match M.risk.read (Risk.enrichAssessment M.risk h.services.provider assessment request
        (some req.taskId)) with
      | .error _ => none
      | .ok narrative => some
          { eventId := h.eventId
            correlationId := request.caseId
            payload := some (Risk.toResultPayload assessment request narrative) }
  | _ => none

/-- A choice: a peer handles an entry of its topic, or anything else happens. -/
inductive ModelChoice where
  | handleBilling (n : Nat) (h : BillingHandling M)
  | handleRisk (n : Nat) (h : RiskHandling M)
  | other (ch : Choice)

def Choice.handles : Choice → Bool
  | .handleBilling _ _ => true
  | .handleRisk _ _ => true
  | _ => false

def modelStep (ch : ModelChoice M) (s : State) : Option (List Event × State) :=
  match ch with
  | .handleBilling n h => s.billingTasks[n]?.map fun e =>
      let out := handleBillingWith D M e h s.billing
      (out.1.map (.billing h.now),
        { s with
          billing := out.2
          billingResults := s.billingResults ++
            (if h.arrives then out.1.filterMap (billingEventWith D M h) else []) })
  | .handleRisk n h => s.riskTasks[n]?.map fun e =>
      let out := handleRiskWith D M e h s.risk
      (out.1.map (.risk h.now),
        { s with
          risk := out.2
          riskResults := s.riskResults ++
            (if h.arrives then out.1.filterMap (riskEventWith D M h) else []) })
  | .other ch => if ch.handles then none else step D ch s

/-- A run, with the choices that were made in it. -/
inductive ModelRun (now : Time) (nextId : UUID) : List (ModelChoice M) → List Event → State → Prop where
  | nil : ModelRun now nextId [] [] (start now nextId)
  | step {chs : List (ModelChoice M)} {tr os : List Event} {s s' : State}
      (h : ModelRun now nextId chs tr s) (ch : ModelChoice M)
      (hs : modelStep D M ch s = some (os, s')) : ModelRun now nextId (chs ++ [ch]) (tr ++ os) s'

/-- A schedule, executed. -/
def modelExec : List (ModelChoice M) → State → Option (List Event × State)
  | [], s => some ([], s)
  | ch :: chs, s => (modelStep D M ch s).bind fun out =>
      (modelExec chs out.2).map fun rest => (out.1 ++ rest.1, rest.2)

end Models

/-! ## It is a system with services -/

section Refinement

variable {D : Deployment} {M : Models} {tr os : List Event} {s s' : State}

/-- The model of a peer as one of its services. -/
def billingServices (h : BillingHandling M) : Billing.Services :=
  Billing.modelServices M.billing h.services.provider h.services.publish

def riskServices (h : RiskHandling M) : Risk.Services :=
  Risk.modelServices M.risk h.services.provider h.services.publish

theorem answer_serving {A B : Type} (h : Handling A) (services : B)
    (handler : TaskRequest → Except String A2AMessage) :
    (h.serving services).answer handler = h.answer handler := by
  funext x
  cases x <;> rfl

theorem handleBillingWith_eq (e : Runtime.Envelope) (h : BillingHandling M) (w : Runtime.World) :
    handleBillingWith D M e h w = handleBilling D e (h.serving (billingServices h)) w := by
  have hhandler : Billing.handleEligibilityWith M.billing h.services.provider D.billing
      h.services.publish h.now =
      Billing.handleEligibility D.billing (billingServices h) h.now :=
    funext Billing.handleEligibilityWith_eq
  unfold handleBillingWith handleBilling
  rw [hhandler, answer_serving]
  rfl

theorem handleRiskWith_eq (e : Runtime.Envelope) (h : RiskHandling M) (w : Runtime.World) :
    handleRiskWith D M e h w = handleRisk D e (h.serving (riskServices h)) w := by
  have hhandler : Risk.handleRiskWith M.risk h.services.provider D.risk h.services.publish =
      Risk.handleRisk D.risk (riskServices h) := funext Risk.handleRiskWith_eq
  unfold handleRiskWith handleRisk
  rw [hhandler, answer_serving]
  rfl

theorem billingEventWith_eq (h : BillingHandling M) (o : Runtime.Obs) :
    billingEventWith D M h o = billingEvent D (h.serving (billingServices h)) o := by
  cases o with
  | handlerCalled req =>
    simp only [billingEventWith, billingEvent, Handling.serving]
    cases Billing.analyze D.billing h.now req.input.parts with
    | error exc => rfl
    | ok a =>
      dsimp only
      rw [Billing.read_enrichRecommendation h.services.publish]
      rfl
  | resultPublished | resultLost | audited | auditLost | markedProcessed => rfl

theorem riskEventWith_eq (h : RiskHandling M) (o : Runtime.Obs) :
    riskEventWith D M h o = riskEvent D (h.serving (riskServices h)) o := by
  cases o with
  | handlerCalled req =>
    simp only [riskEventWith, riskEvent]
    cases Risk.assess D.risk req.input.parts with
    | error exc => rfl
    | ok a =>
      dsimp only
      rw [Risk.read_enrichAssessment h.services.publish]
      rfl
  | resultPublished | resultLost | audited | auditLost | markedProcessed => rfl

/-- The choice, with the model for a service. -/
def ModelChoice.plain : ModelChoice M → Choice
  | .handleBilling n h => .handleBilling n (h.serving (billingServices h))
  | .handleRisk n h => .handleRisk n (h.serving (riskServices h))
  | .other ch => ch

/-- **A step with models is a step with services.** -/
theorem step_of_modelStep {ch : ModelChoice M} (hs : modelStep D M ch s = some (os, s')) :
    step D ch.plain s = some (os, s') := by
  cases ch with
  | handleBilling n h =>
    have hevent : billingEventWith D M h = billingEvent D (h.serving (billingServices h)) :=
      funext (billingEventWith_eq h)
    simp only [modelStep, handleBillingWith_eq, hevent] at hs
    exact hs
  | handleRisk n h =>
    have hevent : riskEventWith D M h = riskEvent D (h.serving (riskServices h)) :=
      funext (riskEventWith_eq h)
    simp only [modelStep, handleRiskWith_eq, hevent] at hs
    exact hs
  | other ch =>
    simp only [modelStep] at hs
    split at hs
    · cases hs
    · exact hs

variable {now : Time} {nextId : UUID} {chs : List (ModelChoice M)}

theorem ModelRun.run (h : ModelRun D M now nextId chs tr s) : Run D now nextId tr s := by
  induction h with
  | nil => exact .nil
  | step _ ch hs ih => exact ih.step ch.plain (step_of_modelStep hs)

theorem ModelRun.of_exec {chs' : List (ModelChoice M)} {tr' : List Event}
    (h : ModelRun D M now nextId chs tr s) (hexec : modelExec D M chs' s = some (tr', s')) :
    ModelRun D M now nextId (chs ++ chs') (tr ++ tr') s' := by
  induction chs' generalizing chs tr tr' s with
  | nil =>
    cases hexec
    simpa using h
  | cons ch chs' ih =>
    obtain ⟨⟨os, s₁⟩, hs, hrest⟩ := Option.bind_eq_some_iff.mp hexec
    obtain ⟨⟨tr₁, s₂⟩, hrun, heq⟩ := Option.map_eq_some_iff.mp hrest
    cases heq
    simpa using ih (h.step ch hs) hrun

end Refinement

/-! ## What the models add -/

section Narratives

variable {D : Deployment} {M : Models} {tr os : List Event} {s s' : State} {now : Time}
  {nextId : UUID} {chs : List (ModelChoice M)}

/-- In one of its handlings in the run the billing agent called its handler for the request `req`, and the
    event is what came of it: of the analysis made there, with what its model said of it there. -/
def BillingNarrated (D : Deployment) (M : Models) (now : Time) (nextId : UUID)
    (chs : List (ModelChoice M)) (e : Inbound BillingRefundAnalysisCompletedPayload) : Prop :=
  ∃ (before after : List (ModelChoice M)) (tr : List Event) (s : State) (n : Nat) (h : BillingHandling M)
    (entry : Runtime.Envelope) (req : TaskRequest) (a : Billing.Analysis)
    (narrative : Option Billing.BillingNarrative),
    chs = before ++ .handleBilling n h :: after ∧ ModelRun D M now nextId before tr s ∧
    s.billingTasks[n]? = some entry ∧
    .handlerCalled req ∈ (handleBillingWith D M entry h s.billing).1 ∧
    Billing.analyze D.billing h.now req.input.parts = .ok a ∧
    e = { eventId := h.eventId
          correlationId := a.request.caseId
          payload := some
            (Billing.buildResultPayload a.request a.recommendation a.facts narrative) } ∧
    NarratedBy M.billing h.services.provider
      (Billing.narrativeRequest M.billing a.recommendation a.request (some req.taskId))
      (Billing.fallbackNarrative a.recommendation) narrative

def RiskNarrated (D : Deployment) (M : Models) (now : Time) (nextId : UUID)
    (chs : List (ModelChoice M)) (e : Inbound RiskReviewCompletedPayload) : Prop :=
  ∃ (before after : List (ModelChoice M)) (tr : List Event) (s : State) (n : Nat) (h : RiskHandling M)
    (entry : Runtime.Envelope) (req : TaskRequest) (assessment : Risk.RiskAssessment)
    (request : Risk.RiskAssessmentRequest) (narrative : Option Risk.RiskNarrative),
    chs = before ++ .handleRisk n h :: after ∧ ModelRun D M now nextId before tr s ∧
    s.riskTasks[n]? = some entry ∧
    .handlerCalled req ∈ (handleRiskWith D M entry h s.risk).1 ∧
    Risk.assess D.risk req.input.parts = .ok (assessment, request) ∧
    e = { eventId := h.eventId
          correlationId := request.caseId
          payload := some (Risk.toResultPayload assessment request narrative) } ∧
    NarratedBy M.risk h.services.provider
      (Risk.narrativeRequest M.risk assessment request (some req.taskId))
      (Risk.fallbackNarrative assessment) narrative

theorem billingNarrated_of_event (hrun : ModelRun D M now nextId chs tr s) {n : Nat}
    {h : BillingHandling M} {entry : Runtime.Envelope} (hentry : s.billingTasks[n]? = some entry)
    {o : Runtime.Obs} (ho : o ∈ (handleBillingWith D M entry h s.billing).1)
    {e : Inbound BillingRefundAnalysisCompletedPayload} (he : billingEventWith D M h o = some e) :
    BillingNarrated D M now nextId (chs ++ [.handleBilling n h]) e := by
  rw [billingEventWith_eq] at he
  cases o with
  | handlerCalled req =>
    simp only [billingEvent] at he
    split at he
    · cases he
    · rename_i a ha
      obtain rfl := Option.some.inj he
      exact ⟨chs, [], tr, s, n, h, entry, req, a, _, rfl, hrun, hentry, ho, ha, rfl,
        Billing.modelServices_narrative _ _ _ _⟩
  | resultPublished | resultLost | audited | auditLost | markedProcessed => cases he

theorem riskNarrated_of_event (hrun : ModelRun D M now nextId chs tr s) {n : Nat}
    {h : RiskHandling M} {entry : Runtime.Envelope} (hentry : s.riskTasks[n]? = some entry)
    {o : Runtime.Obs} (ho : o ∈ (handleRiskWith D M entry h s.risk).1)
    {e : Inbound RiskReviewCompletedPayload} (he : riskEventWith D M h o = some e) :
    RiskNarrated D M now nextId (chs ++ [.handleRisk n h]) e := by
  rw [riskEventWith_eq] at he
  cases o with
  | handlerCalled req =>
    simp only [riskEvent] at he
    split at he
    · cases he
    · rename_i assessment request ha
      obtain rfl := Option.some.inj he
      exact ⟨chs, [], tr, s, n, h, entry, req, assessment, request, _, rfl, hrun, hentry, ho, ha, rfl,
        Risk.modelServices_narrative _ _ _ _⟩
  | resultPublished | resultLost | audited | auditLost | markedProcessed => cases he

/-- The run goes on. -/
theorem BillingNarrated.later {e : Inbound BillingRefundAnalysisCompletedPayload}
    (h : BillingNarrated D M now nextId chs e) (ch : ModelChoice M) :
    BillingNarrated D M now nextId (chs ++ [ch]) e := by
  obtain ⟨before, after, tr, s, n, h, entry, req, a, narrative, rfl, hrest⟩ := h
  exact ⟨before, after ++ [ch], tr, s, n, h, entry, req, a, narrative, List.append_assoc .., hrest⟩

theorem RiskNarrated.later {e : Inbound RiskReviewCompletedPayload}
    (h : RiskNarrated D M now nextId chs e) (ch : ModelChoice M) :
    RiskNarrated D M now nextId (chs ++ [ch]) e := by
  obtain ⟨before, after, tr, s, n, h, entry, req, assessment, request, narrative, rfl, hrest⟩ := h
  exact ⟨before, after ++ [ch], tr, s, n, h, entry, req, assessment, request, narrative,
    List.append_assoc .., hrest⟩

/-- What is on the topic of a peer came of a handling with its model, or was there before. -/
theorem modelStep_billingResults (hrun : ModelRun D M now nextId chs tr s) {ch : ModelChoice M}
    (hs : modelStep D M ch s = some (os, s')) :
    ∀ e ∈ s'.billingResults,
      e ∈ s.billingResults ∨ BillingNarrated D M now nextId (chs ++ [ch]) e := by
  cases ch with
  | handleBilling n h =>
    obtain ⟨entry, hentry, heq⟩ := Option.map_eq_some_iff.mp hs
    cases heq
    intro r hr
    refine (List.mem_append.mp hr).imp_right fun hnew => ?_
    split at hnew
    · obtain ⟨o, ho, he⟩ := List.mem_filterMap.mp hnew
      exact billingNarrated_of_event hrun hentry ho he
    · cases hnew
  | handleRisk n h =>
    obtain ⟨entry, -, heq⟩ := Option.map_eq_some_iff.mp hs
    cases heq
    exact fun r => .inl
  | other ch =>
    simp only [modelStep] at hs
    split at hs
    · cases hs
    · rename_i hother
      cases stepped_of_step hs with
      | agent | opened | restartBilling | restartRisk => exact fun r => .inl
      | arrived =>
        rw [accept_eq]
        exact fun r => .inl
      | billing | risk => exact absurd rfl hother

theorem modelStep_riskResults (hrun : ModelRun D M now nextId chs tr s) {ch : ModelChoice M}
    (hs : modelStep D M ch s = some (os, s')) :
    ∀ e ∈ s'.riskResults, e ∈ s.riskResults ∨ RiskNarrated D M now nextId (chs ++ [ch]) e := by
  cases ch with
  | handleBilling n h =>
    obtain ⟨entry, -, heq⟩ := Option.map_eq_some_iff.mp hs
    cases heq
    exact fun r => .inl
  | handleRisk n h =>
    obtain ⟨entry, hentry, heq⟩ := Option.map_eq_some_iff.mp hs
    cases heq
    intro r hr
    refine (List.mem_append.mp hr).imp_right fun hnew => ?_
    split at hnew
    · obtain ⟨o, ho, he⟩ := List.mem_filterMap.mp hnew
      exact riskNarrated_of_event hrun hentry ho he
    · cases hnew
  | other ch =>
    simp only [modelStep] at hs
    split at hs
    · cases hs
    · rename_i hother
      cases stepped_of_step hs with
      | agent | opened | restartBilling | restartRisk => exact fun r => .inl
      | arrived =>
        rw [accept_eq]
        exact fun r => .inl
      | billing | risk => exact absurd rfl hother

end Narratives

/-! ### A refund with one model that answers and one that does not -/

def sampleText : String :=
  "\x7b\"polished_summary\": \"Paid twice.\", \"evidence_explanation\": \"Two invoices.\"\x7d"

def sampleNarrative : Json :=
  .obj [("polished_summary", .str "Paid twice."), ("evidence_explanation", .str "Two invoices.")]

def loadsNarrative (text : String) : Except Llm.LoadsError Json :=
  if text = sampleText then .ok sampleNarrative else .error (.jsonDecodeError "Expecting value")

def validateNarrative {α : Type} (new : String → String → α) (data : Json) : Except String α :=
  match data.get? "polished_summary", data.get? "evidence_explanation" with
  | some (.str summary), some (.str explanation) => .ok (new summary explanation)
  | _, _ => .error "Field required"

def sampleNarrator {α : Type} (new : String → String → α) : Narrator α where
  enabled := true
  env := "local"
  S := Unit
  Obj := α ⊕ Json
  lib := Resolution.sampleModelLibrary (validateNarrative new) (fun _ => .obj []) loadsNarrative
  schema := Resolution.sampleClass (validateNarrative new) (fun _ => .obj []) loadsNarrative
  auditLib := Resolution.sampleAuditOf α
  config := Llm.sampleRuntime

def sampleModels : Models where
  billing := sampleNarrator .mk
  risk := sampleNarrator .mk

/-- A provider that always says the same. -/
def saying (raw : Except Llm.Exc Llm.RawCompletion) : Provider "local" where
  answer := fun
    | .invoke _ _ => raw
    | .latencyMs => (0 : Int)
    | .persist _ => .ok ()
    | .publishRaw _ _ => .ok ()
  now := 0
  nextId := 0

def narratedBilling : BillingHandling sampleModels :=
  smooth { provider := saying (.ok { text := sampleText }), publish := fun _ _ _ => .ok () } 200

def throttledRisk : RiskHandling sampleModels :=
  smooth
    { provider := saying (.error (.providerError "ThrottlingException"))
      publish := fun _ _ _ => .ok () } 300

def narratedSchedule : List (ModelChoice sampleModels) :=
  (refundSchedule.take 11).map .other ++ [.handleBilling 0 narratedBilling, .handleRisk 0 throttledRisk]

end RefundOps.Workflow
