import RefundOps.Llm.Runtime
import RefundOps.Observability.Redaction

/-!
# The generation span of a reasoning step

What `LLMRuntime.reason` shows of a step to the span it runs in, if there is one: the prompt, as soon
as it is rendered and before the provider is asked, and the value of the result at the very end, on
every path that has a result. Of both, the runtime decides by itself what is shown.

The steps in between are those of `reason`, and are not seen on the span.
-/

set_option autoImplicit false

namespace RefundOps.Llm

open Observability (CaptureConfig)

/-- A runtime, with the switches for raw texts. `observed` says whether there is a span. -/
structure ObservedRuntime extends LLMRuntime where
  logRawPrompts : Bool
  logRawOutputs : Bool
  observed : Bool

/-- The switches that the capture policy reads. -/
def ObservedRuntime.captureConfig (rt : ObservedRuntime) : CaptureConfig where
  redactPii := rt.redactPii
  logRawPrompts := rt.logRawPrompts
  logRawOutputs := rt.logRawOutputs

/-- How a value is taken apart for the span. -/
structure SpanLibrary (Obj : Type) where
  /-- `value is None`. -/
  isNone : Obj → Bool
  /-- The value as data: `value.model_dump()` of a model, and any other value as it is. What is no text,
      list or dictionary in it is of no consequence: `scrub` leaves it alone. -/
  data : Obj → Except String Json

/-- What can be seen of a step, on the span and besides. -/
inductive SpanObs (env : String) where
  | step (seen : Obs env)
  | input (data : Json)
  | output (data : Json)

abbrev SpanM (env : String) := Coro World (SpanObs env) (Request env) Reply Exc

/-- `ask`, once the prompt is rendered. -/
def askPrompt {env : String} {S Obj : Type} (lib : Library S Obj) (auditLib : AuditLibrary Obj)
    (rt : LLMRuntime) (request : AssistiveRequest S Obj) (prompt : String) :
    M env (AssistiveResult Obj) := do
  let promptRef := request.taskKind.value ++ ":" ++ lib.digest prompt
  let answered ← firstCall prompt
  match answered with
  | .error exc => fallbackResult lib auditLib rt request exc.failureReason promptRef
  | .ok raw => complete lib auditLib rt request prompt promptRef raw

section Traced

variable {env : String} {S Obj : Type} (lib : Library S Obj) (auditLib : AuditLibrary Obj)
  (spanLib : SpanLibrary Obj) (alnum : Char → Bool) (rt : ObservedRuntime)
  (request : AssistiveRequest S Obj)

/-- The prompt as the span is shown it. -/
def inputPrompt (prompt : String) : Json :=
  if rt.redactPii then Redactor.scrub alnum ⟨rt.redactPii⟩ (.str prompt) else .str prompt

def exportInput (prompt : String) : SpanM env Unit :=
  if rt.observed then Coro.observe (.input (inputPrompt alnum rt prompt)) else pure ()

/-- A value as the span is shown it. An exception of the dump is swallowed, and nothing is shown. -/
def rawOutput (value : Obj) : Option Json :=
  if spanLib.isNone value then none
  else
    match spanLib.data value with
    | .error _ => none
    | .ok data => some (if rt.redactPii then Redactor.scrub alnum ⟨rt.redactPii⟩ data else data)

/-- `_enrich_generation`, without the model and the token usage. -/
def enrichGeneration (result : AssistiveResult Obj) : SpanM env Unit :=
  if rt.observed then
    match rawOutput spanLib alnum rt result.value with
    | none => pure ()
    | some output => Coro.observe (.output output)
  else pure ()

/-- A path of `reason`, to its end. -/
def ending (p : M env (AssistiveResult Obj)) : SpanM env (AssistiveResult Obj) := do
  let result ← p.relabel .step
  enrichGeneration spanLib alnum rt result
  pure result

/-- `reason`, with its span. -/
def tracedReason : SpanM env (AssistiveResult Obj) := do
  let cached ← (storeGet lib (request.idempotencyKey lib)).relabel .step
  match cached with
  | some stored =>
      -- no prompt is rendered, and none is shown
      ending spanLib alnum rt (served lib auditLib rt.toLLMRuntime request stored)
  | none =>
      match renderPrompt lib request (rt.template request.taskKind request.agentId) with
      | .error exc => throw (.other exc)
      | .ok prompt => do
          exportInput alnum rt prompt
          ending spanLib alnum rt (askPrompt lib auditLib rt.toLLMRuntime request prompt)

end Traced

/-! ## What is exported -/

section Exports

variable {env : String}

def exportedInputs (seen : List (SpanObs env)) : List Json :=
  seen.filterMap fun
    | .input data => some data
    | _ => none

def exportedOutputs (seen : List (SpanObs env)) : List Json :=
  seen.filterMap fun
    | .output data => some data
    | _ => none

end Exports

end RefundOps.Llm
