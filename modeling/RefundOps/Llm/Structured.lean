import RefundOps.Lib.Coro
import RefundOps.Lib.LRUMap
import RefundOps.Foundation.Envelope
import RefundOps.Llm.Models

/-!
# Structured output

`structured.py`: what is made of one output of the model (`judge`), and the loop that asks for a
repair as long as the output is rejected (`invokeStructured`). The effects of the LLM runtime are
defined here as well, since the loop calls the provider.

A call of the provider carries its number within the reasoning step, so that two calls with the same
prompt may be answered differently.
-/

set_option autoImplicit false

namespace RefundOps.Llm

/-! ## Effects -/

structure World where
  store : LRUMap String (AssistiveResult Json)
  now : Time
  nextId : UUID

inductive Request (env : String) where
  | invoke (call : Nat) (prompt : String)
  | latencyMs
  | persist (key : String)
  | publishRaw (envelope : EventEnvelope env) (topic : String)

@[reducible] def Reply {env : String} : Request env → Type
  | .invoke _ _ => Except Exc RawCompletion
  | .latencyMs => Int
  | .persist _ => Except String Unit
  | .publishRaw _ _ => Except String Unit

inductive Obs (env : String) where
  | invoked (prompt : String)
  | auditWriteFailed
  | published (envelope : EventEnvelope env) (topic : String)

abbrev M (env : String) := Coro World (Obs env) (Request env) Reply Exc

/-- `provider.invoke(prompt, profile)`. -/
def invoke {env : String} (call : Nat) (prompt : String) : M env RawCompletion := do
  Coro.observe (.invoked prompt)
  let raw ← Coro.request (Request.invoke call prompt)
  Coro.ofExcept raw

/-! ## One output -/

/-- The text between code fences, as both parsers cut it out. -/
def stripFences (text : String) : String :=
  let fence := ['`', '`', '`']
  let chars := (Text.strip text).toList
  let chars := if (fence ++ "json".toList).isPrefixOf chars then chars.drop 7 else chars
  let chars := if fence.isPrefixOf chars then chars.drop 3 else chars
  let chars := if fence.isSuffixOf chars then chars.take (chars.length - 3) else chars
  Text.strip (String.ofList chars)

/-- The text of an object, without a fence. -/
theorem stripFences_object {text : String} {l : List Char}
    (h : text.toList = '\x7b' :: (l ++ ['\x7d'])) : stripFences text = text := by
  have hstrip : Text.strip text = text := Text.strip_eq_self h rfl rfl
  have hjson : (['`', '`', '`'] ++ "json".toList).isPrefixOf text.toList = false := by
    rw [h]
    rfl
  have hfence : ['`', '`', '`'].isPrefixOf text.toList = false := by
    rw [h]
    rfl
  have hsuffix : ['`', '`', '`'].isSuffixOf text.toList = false := by
    rw [h, ← List.cons_append]
    unfold List.isSuffixOf
    rw [List.reverse_append]
    rfl
  unfold stripFences
  simp only [hstrip, hjson, hfence, hsuffix, Bool.false_eq_true, if_false, String.ofList_toList]

section Output

variable {S Obj : Type} (lib : Library S Obj) (schema : S) (grounding : Kwargs Obj)

/-- The tokens of a text that `_grounding_check` takes for claims: those with a digit in them that are
    longer than three characters. -/
def numericClaims (text : String) : List (List Char) :=
  (((lib.lower text).toList.splitOnP Text.isSpace).filter (· ≠ [])).filter fun token =>
    token.any lib.isDigit && decide (token.length > 3)

/-- `_grounding_check`. It raises if the value cannot be dumped, or is dumped to something that has no
    items. -/
def groundingCheck (value : Obj) : Except String Bool :=
  match lib.modelDump value with
  | .error exc => .error exc
  | .ok (.obj fields) =>
      let groundingStr := (lib.lower (lib.dumpsGrounding grounding)).toList
      .ok (fields.all fun field =>
        match field.2 with
        | .str text =>
            -- short texts are not looked at
            decide (text.length < 20) || (numericClaims lib text).all fun claim =>
              Text.isInfix claim groundingStr ||
                Text.isInfix (claim.filter fun c => c ≠ '$' ∧ c ≠ ',') groundingStr
        | _ => true)
  | .ok _ => .error "object has no attribute 'items'"

/-- What is made of an output. -/
inductive Judgement (Obj : Type) where
  | accepted (value : Obj)
  | rejected (error : String)
  | raised (exc : Exc)

/-- The body of the loop of `invoke_structured`, after the provider has answered. -/
def judge (text : String) : Judgement Obj :=
  match lib.loads (stripFences text) with
  | .error (.jsonDecodeError exc) => .rejected ("JSON parse error: " ++ exc)
  -- only the decoding error is caught
  | .error (.other exc) => .raised (.other exc)
  | .ok parsed =>
      match lib.modelValidate schema parsed with
      | .error exc => .rejected ("Schema validation error: " ++ exc)
      | .ok value =>
          if grounding = [] then .accepted value
          else
            match groundingCheck lib grounding value with
            | .error exc => .raised (.other exc)
            | .ok true => .accepted value
            | .ok false => .rejected "Output asserts facts not present in grounding inputs"

end Output

/-! ## The loop -/

section Loop

variable {env : String} {S Obj : Type} (lib : Library S Obj) (schema : S) (grounding : Kwargs Obj)
  (messages : String)

inductive StructuredOutcome (Obj : Type) where
  | ok (value : Obj)
  | failed (attempts : Nat) (errorMessages : List String)

/-- The prompt of an attempt: from the second on, it ends with the last error. -/
def attemptPrompt (errors : List String) : Except Exc String :=
  match errors.getLast? with
  | none => .ok messages
  | some error =>
      match lib.modelJsonSchema schema with
      | .error exc => .error (.other exc)
      | .ok jsonSchema => .ok (messages ++ "\n\nPrevious output was invalid: " ++ error ++
          "\nPlease fix the JSON output to match this schema:\n" ++ lib.dumpsIndented jsonSchema)

/-- The attempts that are left, after `errors`, one for each attempt before. -/
def repairLoop : Nat → List String → M env (StructuredOutcome Obj)
  | 0, errors => pure (.failed errors.length errors)
  | left + 1, errors => do
      let prompt ← Coro.ofExcept (attemptPrompt lib schema messages errors)
      -- nothing here catches what the provider raises
      let raw ← invoke (errors.length + 1) prompt
      match judge lib schema grounding raw.text with
      | .raised exc => throw exc
      | .rejected error => repairLoop left (errors ++ [error])
      | .accepted value => pure (.ok value)

/-- `range(1 + max_repairs)` has that many elements. -/
def attempts (maxRepairs : Int) : Nat := (1 + maxRepairs).toNat

def invokeStructured (maxRepairs : Int) : M env (StructuredOutcome Obj) :=
  repairLoop lib schema grounding messages (attempts maxRepairs) []

end Loop

end RefundOps.Llm
