import RefundOps.Llm.Generation
import RefundOps.Llm.Properties.Reasoning

/-!
# What a span is shown

The runtime redacts what it shows of a prompt and of a value if the switch for the redaction is on, and
shows it as it is if not. It does not look at the switches for raw texts, and the policy looks at these
first. So the two come to the same (`one_capture_policy_iff`) where just one switch is on, or where
both are and there is nothing to redact: never with both off, unless there is nothing to show.

A step with its span does what it does without (`tracedReason_runSync`), and the value that it shows in
the end can be told from the store, the prompt, the answers and the fallback (`endValue_reason`).
-/

set_option autoImplicit false

namespace RefundOps.Llm

open Observability (Capture redactForExport)

/-! ## A trace -/

section Trace

variable {env : String}

/-- A trace in which the inputs come first and the outputs last. -/
def spanTrace (shown : List Json) (seen : List (Obs env)) (shown' : List Json) :
    List (SpanObs env) :=
  shown.map .input ++ seen.map .step ++ shown'.map .output

variable {shown shown' : List Json} {seen : List (Obs env)}

theorem exportedInputs_spanTrace : exportedInputs (spanTrace shown seen shown') = shown := by
  unfold exportedInputs spanTrace
  simp [List.filterMap_map]

theorem exportedOutputs_spanTrace : exportedOutputs (spanTrace shown seen shown') = shown' := by
  unfold exportedOutputs spanTrace
  simp [List.filterMap_map]

end Trace

/-! ## A step with its span -/

section Run

variable {env : String} {S Obj : Type} (lib : Library S Obj) (auditLib : AuditLibrary Obj)
  (spanLib : SpanLibrary Obj) (alnum : Char → Bool) (rt : ObservedRuntime)
  (request : AssistiveRequest S Obj) (answer : ∀ x : Request env, Reply x) (w : World)

/-- The prompt that a step renders, if the store does not make it unnecessary. -/
def renderedPrompt : Option String :=
  match w.store.get? (request.idempotencyKey lib) with
  | some _ => none
  | none => (renderPrompt lib request (rt.template request.taskKind request.agentId)).toOption

/-- What the span is shown of a prompt. -/
def shownInput (prompt : Option String) : List Json :=
  if rt.observed then (prompt.map (inputPrompt alnum rt)).toList else []

/-- What the span is shown at the end: something of a result, and nothing of an exception. -/
def shownOutput (ended : Except Exc (AssistiveResult Obj)) : List Json :=
  match ended with
  | .error _ => []
  | .ok result => if rt.observed then (rawOutput spanLib alnum rt result.value).toList else []

variable {lib auditLib spanLib alnum rt request answer w}

theorem shownInput_none : shownInput alnum rt none = [] := by
  unfold shownInput
  split <;> rfl

theorem enrichGeneration_runSync {result : AssistiveResult Obj} :
    (enrichGeneration spanLib alnum rt result : SpanM env Unit).runSync answer w =
      ((shownOutput spanLib alnum rt (.ok result)).map .output, w, .ok ()) := by
  unfold enrichGeneration shownOutput
  dsimp only
  split
  · cases rawOutput spanLib alnum rt result.value <;> rfl
  · rfl

theorem exportInput_runSync {prompt : String} :
    (exportInput alnum rt prompt : SpanM env Unit).runSync answer w =
      ((shownInput alnum rt (some prompt)).map .input, w, .ok ()) := by
  unfold exportInput shownInput
  split <;> rfl

/-- A path shows what it comes to, after its steps. -/
theorem ending_runSync {p : M env (AssistiveResult Obj)} :
    (ending spanLib alnum rt p).runSync answer w =
      ((p.runSync answer w).1.map .step ++
        (shownOutput spanLib alnum rt (p.runSync answer w).2.2).map .output,
       (p.runSync answer w).2) := by
  unfold ending
  rw [Coro.runSync_bind, Coro.runSync_relabel]
  obtain ⟨seen, w', exc | result⟩ := p.runSync answer w
  · dsimp only [shownOutput]
    rw [List.map_nil, List.append_nil]
  · dsimp only
    rw [Coro.runSync_bind, enrichGeneration_runSync]
    dsimp only
    rw [show (pure result : SpanM env (AssistiveResult Obj)).runSync answer w' = ([], w', .ok result)
      from rfl, List.append_nil]

theorem ask_eq_askPrompt {prompt : String}
    (h : renderPrompt lib request (rt.template request.taskKind request.agentId) = .ok prompt) :
    (ask lib auditLib rt.toLLMRuntime request : M env _) =
      askPrompt lib auditLib rt.toLLMRuntime request prompt := by
  unfold ask
  rw [h]
  rfl

/-- **With its span, a step does what it does without.** Before the first of its observations it shows
    the prompt, and after the last what it has come to. -/
theorem tracedReason_runSync :
    let out := (reason lib auditLib rt.toLLMRuntime request).runSync answer w
    (tracedReason lib auditLib spanLib alnum rt request).runSync answer w =
      (spanTrace (shownInput alnum rt (renderedPrompt lib rt request w)) out.1
        (shownOutput spanLib alnum rt out.2.2), out.2) := by
  dsimp only [spanTrace]
  rw [reason_runSync]
  unfold tracedReason renderedPrompt
  rw [Coro.runSync_bind, Coro.runSync_relabel, storeGet_runSync]
  dsimp only
  cases w.store.get? (request.idempotencyKey lib) with
  | some stored =>
    dsimp only [Option.map_some]
    rw [ending_runSync, shownInput_none]
    rfl
  | none =>
    dsimp only [Option.map_none]
    cases hrender : renderPrompt lib request (rt.template request.taskKind request.agentId) with
    | error exc =>
      unfold ask
      rw [hrender]
      dsimp only [Except.toOption]
      rw [shownInput_none]
      rfl
    | ok prompt =>
      dsimp only [Except.toOption]
      rw [ask_eq_askPrompt hrender, Coro.runSync_bind, exportInput_runSync]
      dsimp only
      rw [ending_runSync, List.append_assoc]
      rfl

end Run

/-! ## What a step comes to -/

section Value

variable {env : String} {S Obj : Type} (lib : Library S Obj) (rt : LLMRuntime)
  (request : AssistiveRequest S Obj) (answer : ∀ x : Request env, Reply x) (w : World)

/-- A value of the model, unless it cannot be stored. -/
def kept (value : Obj) : Option Obj :=
  match lib.modelDump value with
  | .error _ => none
  | .ok _ => some value

/-- The value that a text of the provider comes to: its own, that of a repair, or the fallback. -/
def completedValue (prompt : String) (raw : RawCompletion) : Option Obj :=
  match validateOutput lib request raw.text with
  | some value => kept lib value
  | none =>
      match ((invokeStructured lib request.outputSchema request.groundingInputs prompt
        (rt.profile request.agentId request.taskKind).maxRepairs).runSync answer w).2.2 with
      | .error _ => none
      | .ok (.ok value) => kept lib value
      | .ok (.failed _ _) => request.fallback.toOption

/-- The value that a request is answered with, if nothing raises. -/
def answerValue : Option Obj :=
  match w.store.get? (request.idempotencyKey lib) with
  | some stored => some (lib.ofJson stored.value)
  | none =>
      match renderPrompt lib request (rt.template request.taskKind request.agentId) with
      | .error _ => none
      | .ok prompt =>
          match (answer (.invoke 0 prompt) : Except Exc RawCompletion) with
          | .error _ => request.fallback.toOption
          | .ok raw => completedValue lib rt request answer
              { w with store := (w.store.get (request.idempotencyKey lib)).2 } prompt raw

/-- The value of the result. -/
def endValue (ended : Except Exc (AssistiveResult Obj)) : Option Obj :=
  ended.toOption.map AssistiveResult.value

variable {lib rt request answer w} {auditLib : AuditLibrary Obj} {promptRef : String}

theorem endValue_eq_some_iff {ended : Except Exc (AssistiveResult Obj)} {value : Obj} :
    endValue ended = some value ↔ ∃ result, ended = .ok result ∧ result.value = value := by
  unfold endValue
  cases ended with
  | error exc => simp [Except.toOption]
  | ok result => simp [Except.toOption]

theorem endValue_of_returns {p : M env (AssistiveResult Obj)}
    {Q : AssistiveResult Obj → List (Obs env) → World → Prop} {value : Obj}
    (h : Coro.Returns answer p w Q)
    (hvalue : ∀ result seen w', Q result seen w' → result.value = value) :
    endValue (p.runSync answer w).2.2 = some value := by
  obtain ⟨result, seen, w', hrun, hQ⟩ := h
  rw [hrun, ← hvalue result seen w' hQ]
  rfl

theorem endValue_fallbackResult {reason : FailureReason} :
    endValue ((fallbackResult lib auditLib rt request reason promptRef).runSync answer w).2.2 =
      request.fallback.toOption := by
  cases hf : request.fallback with
  | error exc =>
    unfold fallbackResult
    rw [hf]
    rfl
  | ok value => exact endValue_of_returns (fallbackResult_returns hf) fun _ _ _ h => h.2.1

theorem endValue_produced {raw : RawCompletion} {value : Obj} :
    endValue ((produced lib auditLib rt request raw value promptRef).runSync answer w).2.2 =
      kept lib value := by
  unfold kept
  cases hdump : lib.modelDump value with
  | error exc =>
    rw [produced_raises hdump]
    rfl
  | ok data => exact endValue_of_returns (produced_returns hdump) fun _ _ _ h => h.1

theorem answerValue_of_asked {prompt : String} {raw : RawCompletion}
    (hempty : w.store.get? (request.idempotencyKey lib) = none)
    (hrender : renderPrompt lib request (rt.template request.taskKind request.agentId) = .ok prompt)
    (hraw : (answer (.invoke 0 prompt) : Except Exc RawCompletion) = .ok raw) :
    answerValue lib rt request answer w = completedValue lib rt request answer
      { w with store := (w.store.get (request.idempotencyKey lib)).2 } prompt raw := by
  unfold answerValue
  rw [hempty, hrender]
  dsimp only
  rw [hraw]

theorem completedValue_of_invalid {prompt : String} {raw : RawCompletion}
    (hvalid : validateOutput lib request raw.text = none) :
    completedValue lib rt request answer w prompt raw =
      match repairs lib rt request answer w prompt with
      | .error _ => none
      | .ok (.ok value) => kept lib value
      | .ok (.failed _ _) => request.fallback.toOption := by
  unfold completedValue
  rw [hvalid]
  rfl

/-- **What a step returns** is a matter of the store, the prompt, the provider and the fallback. -/
theorem endValue_reason :
    endValue ((reason lib auditLib rt request).runSync answer w).2.2 =
      answerValue lib rt request answer w := by
  have hends := @reason_ends env S Obj lib auditLib rt request answer w
  generalize ((reason lib auditLib rt request).runSync answer w).2 = out at hends ⊢
  cases hends with
  | served hstored =>
    unfold answerValue
    rw [hstored]
    exact endValue_of_returns served_returns fun _ _ _ h => h.2.1
  | asked hempty hends =>
    cases hends with
    | unrendered hrender =>
      unfold answerValue
      rw [hempty, hrender]
      rfl
    | refused hrender hraw =>
      unfold answerValue
      rw [hempty, hrender]
      dsimp only
      rw [hraw]
      exact endValue_fallbackResult
    | valid hrender hraw hvalid =>
      rw [answerValue_of_asked hempty hrender hraw]
      unfold completedValue
      rw [hvalid]
      exact endValue_produced
    | raised hrender hraw hvalid hrepairs =>
      rw [answerValue_of_asked hempty hrender hraw, completedValue_of_invalid hvalid, hrepairs]
      rfl
    | repaired hrender hraw hvalid hrepairs =>
      rw [answerValue_of_asked hempty hrender hraw, completedValue_of_invalid hvalid, hrepairs]
      exact endValue_produced
    | exhausted hrender hraw hvalid hrepairs =>
      rw [answerValue_of_asked hempty hrender hraw, completedValue_of_invalid hvalid, hrepairs]
      exact endValue_fallbackResult

end Value

/-! ## One policy -/

section Policy

variable {env : String} {S Obj : Type} (lib : Library S Obj) (auditLib : AuditLibrary Obj)
  (spanLib : SpanLibrary Obj) (alnum : Char → Bool) (rt : ObservedRuntime)
  (request : AssistiveRequest S Obj) (answer : ∀ x : Request env, Reply x) (w : World)

/-- As much of a value is shown as is said. Of `None` there is nothing to show. -/
def Shows (capture : Capture) (value : Obj) (shown : List Json) : Prop :=
  if spanLib.isNone value = true ∨ capture = .withheld then shown = []
  else ∃ data, spanLib.data value = .ok data ∧ shown = (capture.ofJson alnum data).toList

/-- What the span is shown of a step is what the policy makes of it. -/
structure OneCapturePolicy : Prop where
  input : rt.observed = true →
    exportedInputs ((tracedReason lib auditLib spanLib alnum rt request).runSync answer w).1 =
      ((redactForExport alnum (renderedPrompt lib rt request w) "prompt" rt.captureConfig).map
        Json.str).toList
  output : rt.observed = true → ∀ result,
    ((tracedReason lib auditLib spanLib alnum rt request).runSync answer w).2.2 = .ok result →
      ∃ capture : Capture,
        (∀ text, redactForExport alnum (some text) "completion" rt.captureConfig =
          capture.ofText alnum text) ∧
        Shows spanLib alnum capture result.value
          (exportedOutputs ((tracedReason lib auditLib spanLib alnum rt request).runSync answer w).1)

/-- One of the switches is on; if both are, there is nothing to redact. -/
def SwitchesAgree (logRaw redactPii : Bool) (texts : List String) : Prop :=
  (logRaw = true ∨ redactPii = true) ∧
    (logRaw = true → redactPii = true → ∀ text ∈ texts, Clean alnum text)

/-- The same of a value: of its strings, if it can be dumped. One that cannot is not shown. -/
def ValueAgrees (logRaw redactPii : Bool) (value : Obj) : Prop :=
  match spanLib.data value with
  | .error _ => logRaw = false ∧ redactPii = false
  | .ok data => SwitchesAgree alnum logRaw redactPii data.strings

/-- The switches agree on the prompt and on the value of a request, as far as there are any. -/
structure CaptureAgrees : Prop where
  prompt : rt.observed = true → ∀ prompt, renderedPrompt lib rt request w = some prompt →
    SwitchesAgree alnum rt.logRawPrompts rt.redactPii [prompt]
  value : rt.observed = true → ∀ value,
    answerValue lib rt.toLLMRuntime request answer w = some value → spanLib.isNone value = false →
      ValueAgrees spanLib alnum rt.logRawOutputs rt.redactPii value

variable {lib auditLib spanLib alnum rt request answer w}

/-- The runtime looks at one switch only, and the policy at the other first. -/
theorem switchesAgree_iff {logRaw redactPii : Bool} {data : Json} :
    SwitchesAgree alnum logRaw redactPii data.strings ↔
      some (if redactPii then Redactor.scrub alnum ⟨redactPii⟩ data else data) =
        (Capture.ofSwitches logRaw redactPii).ofJson alnum data := by
  unfold SwitchesAgree Capture.ofSwitches Capture.ofJson
  cases logRaw <;> cases redactPii
  case false.false => simp
  case false.true => simp
  case true.false => simp
  case true.true => simp [scrub_eq_self_iff]

theorem toList_some_eq_iff {x : Json} {shown : Option Json} :
    [x] = shown.toList ↔ some x = shown := by
  cases shown <;> simp

/-- The prompt. -/
theorem shownInput_iff (hobserved : rt.observed = true) {prompt : Option String} :
    shownInput alnum rt prompt =
        ((redactForExport alnum prompt "prompt" rt.captureConfig).map Json.str).toList ↔
      ∀ text, prompt = some text →
        SwitchesAgree alnum rt.logRawPrompts rt.redactPii [text] := by
  unfold shownInput
  rw [if_pos hobserved]
  cases prompt with
  | none => simp [redactForExport]
  | some prompt =>
    have hswitch : rt.captureConfig.logRaw "prompt" = rt.logRawPrompts := rfl
    have hagree : SwitchesAgree alnum rt.logRawPrompts rt.redactPii [prompt] ↔
        some (inputPrompt alnum rt prompt) =
          (Capture.ofSwitches rt.logRawPrompts rt.redactPii).ofJson alnum (.str prompt) :=
      @switchesAgree_iff alnum rt.logRawPrompts rt.redactPii (.str prompt)
    rw [Observability.redactForExport_some, ← Capture.ofJson_str, hswitch]
    constructor
    · rintro h text ⟨⟩
      exact hagree.mpr (toList_some_eq_iff.mp h)
    · intro h
      exact toList_some_eq_iff.mpr (hagree.mp (h prompt rfl))

/-- The value. -/
theorem shows_iff {value : Obj} :
    (∃ capture : Capture,
        (∀ text, redactForExport alnum (some text) "completion" rt.captureConfig =
          capture.ofText alnum text) ∧
        Shows spanLib alnum capture value (rawOutput spanLib alnum rt value).toList) ↔
      (spanLib.isNone value = false →
        ValueAgrees spanLib alnum rt.logRawOutputs rt.redactPii value) := by
  have hswitch : rt.captureConfig.logRaw "completion" = rt.logRawOutputs := rfl
  have hredact : rt.captureConfig.redactPii = rt.redactPii := rfl
  simp only [Observability.eq_ofSwitches_iff, exists_eq_left, hswitch, hredact]
  unfold Shows rawOutput ValueAgrees
  cases hnone : spanLib.isNone value with
  | true => simp
  | false =>
    cases hdata : spanLib.data value with
    | error exc =>
      unfold Capture.ofSwitches
      cases rt.logRawOutputs <;> cases rt.redactPii <;> simp
    | ok data =>
      dsimp only
      rw [@switchesAgree_iff alnum rt.logRawOutputs rt.redactPii data]
      generalize Capture.ofSwitches rt.logRawOutputs rt.redactPii = capture
      cases capture <;> simp [Capture.ofJson]

theorem shownOutput_ok (hobserved : rt.observed = true) {result : AssistiveResult Obj} :
    shownOutput spanLib alnum rt (.ok result) = (rawOutput spanLib alnum rt result.value).toList := by
  unfold shownOutput
  exact if_pos hobserved

end Policy

/-- **When a step shows its span what the capture policy says.** -/
theorem one_capture_policy_iff {env : String} {S Obj : Type} (lib : Library S Obj)
    (auditLib : AuditLibrary Obj) (spanLib : SpanLibrary Obj) (alnum : Char → Bool)
    (rt : ObservedRuntime) (request : AssistiveRequest S Obj)
    (answer : ∀ x : Request env, Reply x) (w : World) :
    OneCapturePolicy lib auditLib spanLib alnum rt request answer w ↔
      CaptureAgrees lib spanLib alnum rt request answer w := by
  have hrun := @tracedReason_runSync env S Obj lib auditLib spanLib alnum rt request answer w
  dsimp only at hrun
  have hinputs := congrArg (fun out => exportedInputs out.1) hrun
  have houtputs := congrArg (fun out => exportedOutputs out.1) hrun
  have hended := congrArg (fun out => out.2.2) hrun
  have hanswer := @endValue_reason env S Obj lib rt.toLLMRuntime request answer w auditLib
  dsimp only at hinputs houtputs hended
  rw [exportedInputs_spanTrace] at hinputs
  rw [exportedOutputs_spanTrace] at houtputs
  constructor
  · intro h
    constructor
    · intro hobserved
      have hinput := h.input hobserved
      rw [hinputs] at hinput
      exact (shownInput_iff hobserved).mp hinput
    · intro hobserved value hvalue
      rw [← hanswer] at hvalue
      obtain ⟨result, hresult, rfl⟩ := endValue_eq_some_iff.mp hvalue
      have houtput := h.output hobserved result (hended.trans hresult)
      rw [houtputs, hresult, shownOutput_ok hobserved] at houtput
      exact shows_iff.mp houtput
  · intro h
    constructor
    · intro hobserved
      rw [hinputs]
      exact (shownInput_iff hobserved).mpr (h.prompt hobserved)
    · intro hobserved result hresult
      have hreason := hended.symm.trans hresult
      rw [hreason] at hanswer
      rw [houtputs, hreason, shownOutput_ok hobserved]
      exact shows_iff.mpr (h.value hobserved result.value hanswer.symm)

/-! ## A runtime with all switches on, and with none -/

/-- The values of the sample, which are data. -/
def sampleSpanLibrary : SpanLibrary SampleObj where
  isNone _ := false
  data
    | .model data => .ok data
    | .plain data => .ok data

/-- All three switches the same way. -/
def switchedRuntime (on : Bool) : ObservedRuntime where
  toLLMRuntime := { sampleRuntime with redactPii := on }
  logRawPrompts := on
  logRawOutputs := on
  observed := true

theorem strip_address_ne_empty : Text.strip "a@b.c asks for a refund." ≠ "" :=
  Text.strip_ne_empty rfl (by decide)

/-- A request with an address. -/
def addressRequest : AssistiveRequest Unit SampleObj :=
  { sampleRequest "test-agent" with
    instructions := "a@b.c asks for a refund."
    instructionsNonEmpty := strip_address_ne_empty }

/-- **With no switch on everything is shown, and with all switches on nothing is shown as it is.** The
    policy says the opposite of both. -/
theorem runtime_has_a_policy_of_its_own :
    (¬ OneCapturePolicy sampleLibrary sampleAuditLibrary sampleSpanLibrary (fun _ => false)
        (switchedRuntime false) (sampleRequest "test-agent") (sampleAnswer (.ok "\x7b\x7d"))
        sampleWorld) ∧
      ¬ OneCapturePolicy sampleLibrary sampleAuditLibrary sampleSpanLibrary (fun _ => false)
        (switchedRuntime true) addressRequest (sampleAnswer (.ok "\x7b\x7d")) sampleWorld := by
  constructor
  · intro h
    have hlength := congrArg List.length (h.input rfl)
    revert hlength
    decide +kernel
  · intro h
    have hinput := h.input rfl
    rw [tracedReason_runSync, exportedInputs_spanTrace] at hinput
    -- the prompt has the address, and so is not what the span is shown
    have hagree := (shownInput_iff rfl).mp hinput
      ((renderedPrompt sampleLibrary (switchedRuntime true) addressRequest sampleWorld).getD "") rfl
    have hclean := hagree.2 rfl rfl _ List.mem_cons_self
    exact not_clean_of_misses _ List.mem_cons_self (by decide +kernel) hclean

end RefundOps.Llm
