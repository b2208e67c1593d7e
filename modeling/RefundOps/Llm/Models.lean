import RefundOps.Contracts.Base

/-!
# Assistive requests and results

The types that go in and out of the LLM runtime, with the derivation of the idempotency key.

Python objects are of any type `Obj` and pydantic models of any type `S`. What pydantic, `json`,
`hashlib` and the Unicode tables do to them is a `Library`, of which nothing is assumed but two facts:
a value that validates against a model is an instance of it, and plain JSON data is an instance of
none.
-/

set_option autoImplicit false

namespace RefundOps.Llm

/-! ## Enumerations -/

inductive TaskKind where
  | classify
  | extractIntent
  | draftResponse
  | summarizeReasoning
  deriving DecidableEq, Repr

/-- `str(task_kind)`. -/
def TaskKind.value : TaskKind → String
  | .classify => "classify"
  | .extractIntent => "extract_intent"
  | .draftResponse => "draft_response"
  | .summarizeReasoning => "summarize_reasoning"

inductive FailureReason where
  | modelUnavailable
  | timeout
  | invalidOutput
  | missingInputs
  | contextLimitExceeded
  | unableToProduce
  deriving DecidableEq, Repr

def FailureReason.value : FailureReason → String
  | .modelUnavailable => "model_unavailable"
  | .timeout => "timeout"
  | .invalidOutput => "invalid_output"
  | .missingInputs => "missing_inputs"
  | .contextLimitExceeded => "context_limit_exceeded"
  | .unableToProduce => "unable_to_produce"

inductive ReasoningPath where
  | model
  | cache
  | fallback
  deriving DecidableEq, Repr

def ReasoningPath.value : ReasoningPath → String
  | .model => "model"
  | .cache => "cache"
  | .fallback => "fallback"

/-! ## What a provider returns or raises -/

structure TokenUsage where
  inputTokens : Int := 0
  outputTokens : Int := 0
  cacheReadTokens : Int := 0
  cacheWriteTokens : Int := 0

structure RawCompletion where
  text : String
  tokenUsage : TokenUsage := {}
  cacheHit : Bool := false
  modelId : String := "unknown"

/-- The exceptions that `reason` tells apart, and all others. -/
inductive Exc where
  | timeoutError (msg : String)
  | providerError (msg : String)
  | llmRuntimeError (reason : FailureReason) (msg : String)
  | other (msg : String)

/-- `str(exc)`. -/
def Exc.text : Exc → String
  | .timeoutError msg => msg
  | .providerError msg => msg
  | .llmRuntimeError _ msg => msg
  | .other msg => msg

structure ModelProfile where
  temperature : ℚ := 0
  maxTokens : Int := 1024
  maxRepairs : Int := 2

/-! ## Outside -/

/-- What `json.loads` raises: the exception that its callers expect, or another one, for an input
    that is nested too deeply or has a number with too many digits. -/
inductive LoadsError where
  | jsonDecodeError (msg : String)
  | other (msg : String)

/-- Keyword arguments, a `dict[str, Any]`. -/
abbrev Kwargs (Obj : Type) := List (String × Obj)

structure Library (S Obj : Type) where
  /-- `isinstance(value, schema)`. -/
  IsInstance : S → Obj → Prop
  /-- `schema.model_validate(data)`. -/
  modelValidate : S → Json → Except String Obj
  /-- `schema.model_json_schema()`. -/
  modelJsonSchema : S → Except String Json
  /-- `value.model_dump(mode="json")`. -/
  modelDump : Obj → Except String Json
  /-- JSON data as the Python object that it is. -/
  ofJson : Json → Obj
  /-- The text of an object, if it is one. -/
  asStr : Obj → Option String
  loads : String → Except LoadsError Json
  /-- `json.dumps(data)` of JSON data. -/
  dumps : Json → String
  /-- `json.dumps(data, indent=2)` of JSON data. -/
  dumpsIndented : Json → String
  /-- `json.dumps(examples, indent=2)`. -/
  dumpsExamples : List (Kwargs Obj) → Except String String
  /-- `json.dumps(grounding, default=str)`. -/
  dumpsGrounding : Kwargs Obj → String
  /-- `json.dumps(grounding, indent=2, default=str)`. -/
  dumpsGroundingIndented : Kwargs Obj → String
  /-- `json.dumps(grounding, sort_keys=True, default=str)`. -/
  dumpsGroundingSorted : Kwargs Obj → String
  /-- `hashlib.sha256(text.encode()).hexdigest()[:16]`. -/
  digest : String → String
  /-- `text.lower()`. -/
  lower : String → String
  /-- `c.isdigit()`. -/
  isDigit : Char → Bool
  isInstance_of_validate : ∀ {schema data value}, modelValidate schema data = .ok value →
    IsInstance schema value
  not_isInstance_ofJson : ∀ schema data, ¬ IsInstance schema (ofJson data)

/-! ## Requests and results -/

/-- `AssistiveRequest`, with its validators. `suppliedKey` is the `idempotency_key` that the caller
    gave, or the empty string. -/
structure AssistiveRequest (S Obj : Type) where
  taskKind : TaskKind
  agentId : String
  correlationId : UUID
  causationId : UUID
  instructions : String
  groundingInputs : Kwargs Obj
  outputSchema : S
  examples : Option (List (Kwargs Obj)) := none
  suppliedKey : String := ""
  /-- What the fallback returns or raises. -/
  fallback : Except Exc Obj
  correlationIdOk : correlationId < 2 ^ 128
  instructionsNonEmpty : Text.strip instructions ≠ ""

/-- `_derive_idempotency_key`: the key that a request has if none is supplied. -/
def AssistiveRequest.derivedKey {S Obj : Type} (lib : Library S Obj)
    (request : AssistiveRequest S Obj) : String :=
  uuidStr request.correlationId ++ ":" ++ request.taskKind.value ++ ":" ++
    lib.digest (lib.dumpsGroundingSorted request.groundingInputs)

def AssistiveRequest.idempotencyKey {S Obj : Type} (lib : Library S Obj)
    (request : AssistiveRequest S Obj) : String :=
  if request.suppliedKey = "" then request.derivedKey lib else request.suppliedKey

/-- `AssistiveResult`, over the type of its value: an object, or JSON data when it has been dumped. -/
structure AssistiveResult (α : Type) where
  value : α
  reasoningPath : ReasoningPath
  tokenUsage : Option TokenUsage := none
  cacheHit : Bool := false
  failureReason : Option FailureReason := none
  modelId : Option String := none
  latencyMs : Int := 0
  promptRef : Option String := none

/-! ## A sample

The model without fields, on the few inputs that the examples use. -/

/-- An instance of the model, or plain data. -/
inductive SampleObj where
  | model (data : Json)
  | plain (data : Json)

def sampleLibrary : Library Unit SampleObj where
  IsInstance _ value := ∃ data, value = .model data
  modelValidate
    | _, .obj _ => .ok (.model (.obj []))
    | _, _ => .error "Input should be a valid dictionary or instance of Empty"
  modelJsonSchema _ :=
    .ok (.obj [("properties", .obj []), ("title", .str "Empty"), ("type", .str "object")])
  modelDump
    | .model data => .ok data
    | .plain _ => .error "object has no attribute 'model_dump'"
  ofJson := .plain
  asStr
    | .plain (.str text) => some text
    | _ => none
  loads text :=
    if text = "\x7b\x7d" then .ok (.obj [])
    else .error (.jsonDecodeError "Expecting value: line 1 column 1 (char 0)")
  dumps _ := "\x7b\"properties\": \x7b\x7d, \"title\": \"Empty\", \"type\": \"object\"\x7d"
  dumpsIndented _ :=
    "\x7b\n  \"properties\": \x7b\x7d,\n  \"title\": \"Empty\",\n  \"type\": \"object\"\n\x7d"
  dumpsExamples _ := .ok "[]"
  dumpsGrounding _ := "\x7b\x7d"
  dumpsGroundingIndented _ := "\x7b\x7d"
  dumpsGroundingSorted _ := "\x7b\x7d"
  digest text := if text = "\x7b\x7d" then "44136fa355b3678a" else ":" ++ text
  lower := Text.lower
  isDigit := Char.isDigit
  isInstance_of_validate {_ data value} h := by
    cases data with
    | obj fields =>
      cases h
      exact ⟨_, rfl⟩
    | _ => cases h
  not_isInstance_ofJson _ data h := by
    obtain ⟨_, h⟩ := h
    cases h

/-- A request for that model, whose fallback is an instance of it. -/
def sampleRequest (agentId : String) : AssistiveRequest Unit SampleObj where
  taskKind := .classify
  agentId
  correlationId := 7
  causationId := 7
  instructions := "Classify the ticket."
  groundingInputs := []
  outputSchema := ()
  fallback := .ok (.model (.obj []))
  correlationIdOk := by decide
  instructionsNonEmpty := Text.strip_ne_empty rfl (by decide)

end RefundOps.Llm
