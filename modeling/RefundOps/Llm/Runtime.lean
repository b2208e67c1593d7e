import RefundOps.Llm.Audit

/-!
# The LLM runtime

`LLMRuntime.reason`: a result from the store if there is one under the key of the request; otherwise
one call of the provider, a repair loop if its output is not valid, and the fallback of the request
if that does not help either.

Only the first call of the provider is guarded. What the calls of the repair loop raise, what the dump
of a result for the store raises and what the rendering of the prompt raises goes to the caller.
-/

set_option autoImplicit false

namespace RefundOps.Llm

/-- A runtime, with what its configuration resolves to. -/
structure LLMRuntime where
  /-- The body of the prompt template for a task of an agent, if the registry has one. -/
  template : TaskKind → String → Option String
  /-- `resolve_profile`. -/
  profile : String → TaskKind → ModelProfile
  redactPii : Bool
  publisher : Bool

section Prompt

variable {S Obj : Type} (lib : Library S Obj) (request : AssistiveRequest S Obj)

/-- The examples of a prompt, if there are any. -/
def examplesPart : Except String (List String) :=
  match request.examples with
  | none => .ok []
  | some [] => .ok []
  | some examples => do
      let text ← lib.dumpsExamples examples
      .ok ["\nEXAMPLES:\n" ++ text]

/-- `PromptTemplate.render`. -/
def renderTemplate (body : String) : Except String String := do
  let schema ← lib.modelJsonSchema request.outputSchema
  let examples ← examplesPart lib request
  .ok (Text.join "\n" ([body, "\nOUTPUT_SCHEMA: " ++ lib.dumps schema ++ "\nEND_SCHEMA"] ++
      examples) ++
    "\n\nGROUNDING_INPUTS:\n" ++ lib.dumpsGroundingIndented request.groundingInputs)

/-- The prompt without a template. -/
def renderPlain : Except String String := do
  let schema ← lib.modelJsonSchema request.outputSchema
  let examples ← examplesPart lib request
  .ok (Text.join "\n" ([request.instructions,
      "\nOUTPUT_SCHEMA: " ++ lib.dumpsIndented schema ++ "\nEND_SCHEMA"] ++ examples ++
    ["\n\nGROUNDING_INPUTS:\n" ++ lib.dumpsGroundingIndented request.groundingInputs]))

/-- `_render_prompt`. -/
def renderPrompt (template : Option String) : Except String String :=
  match template with
  | none => renderPlain lib request
  | some body =>
      match renderTemplate lib request body with
      | .ok prompt => .ok prompt
      -- the plain prompt stands in for the template, and its own exceptions are not caught
      | .error _ => renderPlain lib request

/-- `_validate_output`: every exception is the same as no value. -/
def validateOutput (text : String) : Option Obj :=
  match lib.loads (stripFences text) with
  | .error _ => none
  | .ok parsed =>
      match lib.modelValidate request.outputSchema parsed with
      | .error _ => none
      | .ok value => some value

end Prompt

/-- The reason that a result of the fallback carries, after an exception of the first call. -/
def Exc.failureReason : Exc → FailureReason
  | .timeoutError _ => .timeout
  | .providerError _ => .modelUnavailable
  | .llmRuntimeError reason _ => reason
  | .other _ => .modelUnavailable

section Reason

variable {env : String} {S Obj : Type} (lib : Library S Obj) (auditLib : AuditLibrary Obj)
  (rt : LLMRuntime) (request : AssistiveRequest S Obj)

/-- `store.get`: an entry that was dumped to JSON comes back as the data that it was dumped to. -/
def storeGet (key : String) : M env (Option (AssistiveResult Obj)) := do
  let w ← Coro.read
  Coro.write { w with store := (w.store.get key).2 }
  pure ((w.store.get key).1.map fun stored => { stored with value := lib.ofJson stored.value })

/-- `store.put`. The dump may raise; what the topic does is of no consequence. -/
def storePut (key : String) (result : AssistiveResult Obj) : M env Unit :=
  match lib.modelDump result.value with
  | .error exc => throw (.other exc)
  | .ok data => do
      let w ← Coro.read
      Coro.write { w with store := w.store.put key { result with value := data } }
      let _ ← Coro.request (Request.persist key : Request env)
      pure ()

/-- `_emit_audit`. -/
def emitAudit (result : AssistiveResult Obj) (promptRef : String) : M env Unit := do
  let w ← Coro.read
  let promptRef := if promptRef = "" then result.promptRef.getD "" else promptRef
  let record := buildAuditRecord lib auditLib rt.redactPii request result
    (rt.profile request.agentId request.taskKind) promptRef w.now
  if rt.publisher then writeReasoningAudit auditLib record else pure ()

/-- `_fallback`. -/
def fallbackResult (reason : FailureReason) (promptRef : String) : M env (AssistiveResult Obj) := do
  let value ← Coro.ofExcept request.fallback
  let latencyMs ← Coro.request (Request.latencyMs : Request env)
  let result : AssistiveResult Obj :=
    { value, reasoningPath := .fallback, failureReason := some reason, latencyMs
      promptRef := some promptRef }
  emitAudit lib auditLib rt request result promptRef
  pure result

/-- A value that was accepted: it is stored, and returned. -/
def produced (raw : RawCompletion) (value : Obj) (promptRef : String) :
    M env (AssistiveResult Obj) := do
  let latencyMs ← Coro.request (Request.latencyMs : Request env)
  let result : AssistiveResult Obj :=
    { value, reasoningPath := .model, tokenUsage := some raw.tokenUsage, cacheHit := raw.cacheHit
      modelId := some raw.modelId, latencyMs, promptRef := some promptRef }
  -- a value that cannot be dumped is lost here, after the model was paid for it
  storePut lib (request.idempotencyKey lib) result
  emitAudit lib auditLib rt request result promptRef
  pure result

/-- A result of the store. -/
def served (stored : AssistiveResult Obj) : M env (AssistiveResult Obj) := do
  let latencyMs ← Coro.request (Request.latencyMs : Request env)
  -- everything else is that of the request that filled the entry, its model and tokens included
  let result := { stored with reasoningPath := .cache, latencyMs }
  emitAudit lib auditLib rt request result ""
  pure result

/-- The first call, with whatever it raises. -/
def firstCall (prompt : String) : M env (Except Exc RawCompletion) :=
  tryCatch (do
    let raw ← invoke 0 prompt
    pure (.ok raw)) fun exc => pure (.error exc)

/-- A text of the provider: valid at once, or after repairs, or not at all. -/
def complete (prompt promptRef : String) (raw : RawCompletion) : M env (AssistiveResult Obj) :=
  match validateOutput lib request raw.text with
  -- a first output that validates is not checked against the grounding inputs
  | some value => produced lib auditLib rt request raw value promptRef
  | none => do
      let outcome ← invokeStructured lib request.outputSchema request.groundingInputs prompt
        (rt.profile request.agentId request.taskKind).maxRepairs
      match outcome with
      | .ok value => produced lib auditLib rt request raw value promptRef
      | .failed _ _ => fallbackResult lib auditLib rt request .invalidOutput promptRef

/-- A request that the store has no result for. -/
def ask : M env (AssistiveResult Obj) :=
  match renderPrompt lib request (rt.template request.taskKind request.agentId) with
  | .error exc => throw (.other exc)
  | .ok prompt => do
      let promptRef := request.taskKind.value ++ ":" ++ lib.digest prompt
      let answered ← firstCall prompt
      match answered with
      | .error exc => fallbackResult lib auditLib rt request exc.failureReason promptRef
      | .ok raw => complete lib auditLib rt request prompt promptRef raw

def reason : M env (AssistiveResult Obj) := do
  let cached ← storeGet lib (request.idempotencyKey lib)
  match cached with
  | some stored => served lib auditLib rt request stored
  | none => ask lib auditLib rt request

end Reason

end RefundOps.Llm
