import RefundOps.Llm.Properties.Reasoning

/-!
# Grounded results

The repair loop looks at the numbers of an output before it accepts it, the first call does not:
`_validate_output` parses and validates, and that is all. So the results of the model are grounded as
long as a first output that is valid is grounded by itself (`reason_grounds_model_iff`), whatever the
provider does after it.
-/

set_option autoImplicit false

namespace RefundOps.Llm

section Grounding

variable {env : String} {S Obj : Type} (lib : Library S Obj) (auditLib : AuditLibrary Obj)
  (rt : LLMRuntime) (request : AssistiveRequest S Obj) (answer : ∀ x : Request env, Reply x)
  (w : World)

/-- A value that `_grounding_check` accepts for the request. -/
def Grounded (value : Obj) : Prop :=
  groundingCheck lib request.groundingInputs value = .ok true

/-- Every result of the model is grounded. -/
def GroundsModel : Prop :=
  ∀ result, ((reason lib auditLib rt request).runSync answer w).2.2 = .ok result →
    result.reasoningPath = .model → Grounded lib request result.value

/-- The value of a text that is valid at once, and can be stored, is grounded. -/
def TextGrounded (text : String) : Prop :=
  ∀ value data, validateOutput lib request text = some value → lib.modelDump value = .ok data →
    Grounded lib request value

/-- If the model is asked, its first output is grounded as far as it is valid. -/
def FirstGrounded : Prop :=
  w.store.get? (request.idempotencyKey lib) = none → ∀ prompt raw,
    renderPrompt lib request (rt.template request.taskKind request.agentId) = .ok prompt →
    (answer (.invoke 0 prompt) : Except Exc RawCompletion) = .ok raw →
      TextGrounded lib request raw.text

variable {lib auditLib rt request answer w}

/-! ## What is returned -/

/-- The value of a result that was produced, which could be dumped. -/
theorem produced_value {raw : RawCompletion} {value : Obj} {promptRef : String}
    {result : AssistiveResult Obj}
    (h : ((produced lib auditLib rt request raw value promptRef).runSync answer w).2.2 =
      .ok result) : result.value = value ∧ ∃ data, lib.modelDump value = .ok data := by
  cases hdump : lib.modelDump value with
  | error exc =>
    rw [produced_raises hdump] at h
    cases h
  | ok data =>
    obtain ⟨_, _, _, hrun, hvalue, -, -⟩ := @produced_returns env S Obj lib auditLib rt request
      answer w raw value promptRef data hdump
    rw [hrun] at h
    cases h
    exact ⟨hvalue, data, rfl⟩

theorem fallbackResult_not_model {reason : FailureReason} {promptRef : String}
    {result : AssistiveResult Obj}
    (h : ((fallbackResult lib auditLib rt request reason promptRef).runSync answer w).2.2 =
      .ok result) : result.reasoningPath ≠ .model := by
  intro hpath
  cases (fallbackResult_origin h).eq_of_model hpath

/-! ## The two ways in -/

theorem FirstGrounded.groundsModel (hg : request.groundingInputs ≠ [])
    (hfirst : FirstGrounded lib rt request answer w) :
    GroundsModel lib auditLib rt request answer w := by
  intro result h hpath
  have hends := @reason_ends env S Obj lib auditLib rt request answer w
  generalize ((reason lib auditLib rt request).runSync answer w).2 = out at h hends
  cases hends with
  | served => cases (served_origin rfl h).eq_of_model hpath
  | asked hempty hends =>
    cases hends with
    | unrendered => cases h
    | refused => exact absurd hpath (fallbackResult_not_model h)
    | valid hrender hraw hvalid =>
      obtain ⟨hvalue, data, hdump⟩ := produced_value h
      rw [hvalue]
      exact hfirst hempty _ _ hrender hraw _ data hvalid hdump
    | raised => cases h
    | repaired _ _ _ hrepairs =>
      -- what the repair loop accepts has been checked
      obtain ⟨errors, hr⟩ := exists_attempt_of_repairs hrepairs
      obtain ⟨_, _, _, -, -, -, hcheck⟩ := exists_output_of_accepted hr
      rw [(produced_value h).1]
      exact hcheck hg
    | exhausted => exact absurd hpath (fallbackResult_not_model h)

end Grounding

/-- **When the results of the model are grounded.** If the model is asked, a first output that is
    valid and can be stored is grounded; the outputs of the repairs are in any case. -/
theorem reason_grounds_model_iff {env : String} {S Obj : Type} (lib : Library S Obj)
    (auditLib : AuditLibrary Obj) (rt : LLMRuntime) (request : AssistiveRequest S Obj)
    (answer : ∀ x : Request env, Reply x) (w : World) (hg : request.groundingInputs ≠ []) :
    GroundsModel lib auditLib rt request answer w ↔ FirstGrounded lib rt request answer w := by
  constructor
  · intro h hempty prompt raw hrender hraw value data hvalid hdump
    obtain ⟨result, hrun, hvalue, hpath⟩ := @reason_of_valid env S Obj lib auditLib rt request answer
      w prompt raw value data hempty hrender hraw hvalid hdump
    rw [← hvalue]
    exact h result hrun hpath
  · exact FirstGrounded.groundsModel hg

/-! ## A refund that nobody granted -/

def groundlessText : String := "You will get $9999 back today."

def groundlessOutput : String := "\x7b\"text\": \"You will get $9999 back today.\"\x7d"

/-- With the comma the number is long enough to be looked at. -/
def amountText : String := "You will get $42, as you asked."

def amountOutput : String := "\x7b\"text\": \"You will get $42, as you asked.\"\x7d"

/-- The model with one text, on the outputs that the examples use. -/
def textLibrary : Library Unit SampleObj :=
  { sampleLibrary with
    modelValidate := fun
      | _, .obj [("text", .str text)] => .ok (.model (.obj [("text", .str text)]))
      | _, _ => .error "Field required"
    loads := fun text =>
      if text = groundlessOutput then .ok (.obj [("text", .str groundlessText)])
      else if text = amountOutput then .ok (.obj [("text", .str amountText)])
      else .error (.jsonDecodeError "Expecting value: line 1 column 1 (char 0)")
    dumpsGrounding := fun _ => "\x7b\"amount\": \"42\"\x7d"
    isInstance_of_validate := by
      intro schema data value h
      split at h
      · cases h
        exact ⟨_, rfl⟩
      · cases h }

def groundedRequest : AssistiveRequest Unit SampleObj :=
  { sampleRequest "test-agent" with groundingInputs := [("amount", .plain (.str "42"))] }

theorem validateOutput_groundless :
    validateOutput textLibrary groundedRequest groundlessOutput =
      some (.model (.obj [("text", .str groundlessText)])) := by
  have hstrip : stripFences groundlessOutput = groundlessOutput := by decide +kernel
  unfold validateOutput
  rw [hstrip]
  rfl

theorem validateOutput_amount :
    validateOutput textLibrary groundedRequest amountOutput =
      some (.model (.obj [("text", .str amountText)])) := by
  have hstrip : stripFences amountOutput = amountOutput := by decide +kernel
  have hloads : textLibrary.loads amountOutput = .ok (.obj [("text", .str amountText)]) := by rfl
  unfold validateOutput
  rw [hstrip, hloads]
  rfl

theorem amount_grounded :
    Grounded textLibrary groundedRequest (.model (.obj [("text", .str amountText)])) := by
  have hcheck : (groundingCheck textLibrary groundedRequest.groundingInputs
      (.model (.obj [("text", .str amountText)]))).toOption = some true := by
    decide +kernel
  unfold Grounded
  generalize groundingCheck textLibrary groundedRequest.groundingInputs _ = out at hcheck
  cases out with
  | error exc => cases hcheck
  | ok grounded =>
    cases hcheck
    rfl

theorem groundless_not_grounded :
    ¬ Grounded textLibrary groundedRequest (.model (.obj [("text", .str groundlessText)])) := by
  intro h
  have hcheck : (groundingCheck textLibrary groundedRequest.groundingInputs
      (.model (.obj [("text", .str groundlessText)]))).toOption = some false := by
    decide +kernel
  unfold Grounded at h
  rw [h] at hcheck
  cases hcheck

/-- A first output whose one number is looked at, and found in the inputs. -/
theorem reason_grounds_model_amount :
    numericClaims textLibrary amountText = ["$42,".toList] ∧
      GroundsModel textLibrary sampleAuditLibrary sampleRuntime groundedRequest
        (sampleAnswer (.ok amountOutput)) sampleWorld := by
  refine ⟨by decide +kernel, ?_⟩
  refine (reason_grounds_model_iff textLibrary sampleAuditLibrary sampleRuntime groundedRequest
    (sampleAnswer (.ok amountOutput)) sampleWorld (List.cons_ne_nil _ _)).mpr ?_
  intro _ prompt raw _ hraw value data hvalid _
  cases hraw
  rw [validateOutput_amount] at hvalid
  cases hvalid
  exact amount_grounded

/-- **A first output that is valid goes to the caller with a number that is not in the inputs.** -/
theorem first_output_is_not_grounded :
    groundedRequest.groundingInputs ≠ [] ∧
      ¬ GroundsModel textLibrary sampleAuditLibrary sampleRuntime groundedRequest
        (sampleAnswer (.ok groundlessOutput)) sampleWorld := by
  refine ⟨List.cons_ne_nil _ _, ?_⟩
  intro h
  obtain ⟨result, hrun, hvalue, hpath⟩ := @reason_of_valid "local" Unit SampleObj textLibrary
    sampleAuditLibrary sampleRuntime groundedRequest (sampleAnswer (.ok groundlessOutput))
    sampleWorld _ { text := groundlessOutput } _ _ rfl rfl rfl validateOutput_groundless rfl
  have hgrounded := h result hrun hpath
  rw [hvalue] at hgrounded
  exact groundless_not_grounded hgrounded

end RefundOps.Llm
