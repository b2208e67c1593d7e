import RefundOps.Lib.Asked
import RefundOps.Llm.Properties.Grounding
import RefundOps.Resolution.LlmAssist

/-!
# What the peers ask the model

`enrich_recommendation` and `enrich_assessment` are one request each to the LLM runtime, for a text
about a verdict that has been reached; the rules' own summary is the fallback. The handlers make a
runtime for every task, catch what the request raises, and read the two texts of what comes back
outside of their `try`, whatever it is.

That the value is an instance is nothing the runtime promises: a result of the store is none. A
runtime that was made for the task has nothing in its store (`narrate_cases`).
-/

set_option autoImplicit false

namespace RefundOps.Llm

open Resolution (ModelClass)

/-- Instructions whose first part has more than spaces in it are not empty. -/
theorem strip_append_ne_empty {first : String} (h : first.toList.any (fun c => !Text.isSpace c) = true)
    (rest : String) : Text.strip (first ++ rest) ≠ "" := by
  refine Text.strip_ne_empty (l := first.toList ++ rest.toList) ?_ ?_
  · rw [← String.toList_append, String.ofList_toList]
  · rw [List.any_append, h, Bool.true_or]

/-- What both fall back on to explain the evidence: its first five items. -/
def evidenceDigest (evidence : List EvidenceItem) : String :=
  let joined := Text.join "; " ((evidence.take 5).map (·.description))
  if joined = "" then "No evidence details available." else joined

/-! ## A model, as a peer has it -/

/-- The language model of a peer: whether it is turned on, the schema of its narratives, and what
    `RuntimeConfig.from_env` makes of the environment. -/
structure Narrator (α : Type) where
  enabled : Bool
  env : String
  S : Type
  Obj : Type
  lib : Library S Obj
  schema : ModelClass lib α
  auditLib : AuditLibrary Obj
  config : LLMRuntime

/-- How the outside behaves while a narrative is made. -/
structure Provider (env : String) where
  answer : ∀ x : Request env, Reply x
  now : Time
  nextId : UUID

/-- `build_runtime()`: no publisher. -/
def LLMRuntime.build (config : LLMRuntime) : LLMRuntime := { config with publisher := false }

/-- Its store, which has just been made. -/
def Provider.world {env : String} (P : Provider env) : World :=
  { store := .empty 10000, now := P.now, nextId := P.nextId }

section Narrator

variable {α : Type} (N : Narrator α)

/-- The request of a summary: about a case, in the words of the agent, with `echo` to fall back on.
    The case id of a peer's request is a UUID. -/
def Narrator.request (agentId instructions : String) (groundingInputs : Kwargs N.Obj) (echo : α)
    (caseId : UUID) (causationId : Option UUID) (hinstructions : Text.strip instructions ≠ "") :
    Option (AssistiveRequest N.S N.Obj) :=
  if hid : caseId < 2 ^ 128 then
    some
      { taskKind := .summarizeReasoning
        agentId
        correlationId := caseId
        causationId := causationId.getD caseId
        instructions
        groundingInputs
        outputSchema := N.schema.schema
        fallback := .ok (N.schema.new echo)
        correlationIdOk := hid
        instructionsNonEmpty := hinstructions }
  else none

/-- `assist_or_fallback` on a runtime made for the task, where the model is turned on; the handlers
    catch what it raises. -/
def Narrator.narrate (P : Provider N.env) (request : Option (AssistiveRequest N.S N.Obj)) :
    Option N.Obj :=
  match N.enabled, request with
  | true, some request =>
    match ((reason N.lib N.auditLib N.config.build request).runSync P.answer P.world).2.2 with
    | .ok result => some result.value
    | .error _ => none
  | _, _ => none

/-- `narrative.polished_summary` and `narrative.evidence_explanation`, where there is a narrative. -/
def Narrator.read : Option N.Obj → Except String (Option α)
  | none => .ok none
  | some value =>
    match N.schema.fields value with
    | some narrative => .ok (some narrative)
    | none => .error "object has no attribute 'polished_summary'"

end Narrator

/-! ## What comes back -/

section Narrated

variable {α : Type} {N : Narrator α} {P : Provider N.env} {request : AssistiveRequest N.S N.Obj}

/-- The calls of a provider among what is asked for. -/
def providerCalls {env : String} (xs : List (Request env)) : List (Nat × String) :=
  xs.filterMap fun
    | .invoke call prompt => some (call, prompt)
    | _ => none

/-- The calls that a runtime made for the task makes for the request. -/
def Narrator.calls (N : Narrator α) (P : Provider N.env) (request : AssistiveRequest N.S N.Obj) :
    List (Nat × String) :=
  providerCalls ((reason N.lib N.auditLib N.config.build request).asked P.answer P.world)

/-- A text that the provider gave, in one of the calls that are made of it for the request, validates as
    the narrative. -/
def Said (N : Narrator α) (P : Provider N.env) (request : AssistiveRequest N.S N.Obj)
    (narrative : α) : Prop :=
  ∃ call prompt raw value, (call, prompt) ∈ N.calls P request ∧
    (P.answer (.invoke call prompt) : Except Exc RawCompletion) = .ok raw ∧
      validateOutput N.lib request raw.text = some value ∧
      N.schema.fields value = some narrative

/-- An instance of the schema has its fields. -/
theorem exists_fields_of_validate {value : N.Obj} {text : String}
    (hschema : request.outputSchema = N.schema.schema)
    (h : validateOutput N.lib request text = some value) :
    ∃ narrative, N.schema.fields value = some narrative := by
  have hinst := isInstance_of_validateOutput h
  rw [hschema, N.schema.isInstance_iff] at hinst
  exact Option.isSome_iff_exists.mp hinst

theorem validateOutput_eq_some {parsed : Json} {value : N.Obj} {text : String}
    (hloads : N.lib.loads (stripFences text) = .ok parsed)
    (hvalid : N.lib.modelValidate request.outputSchema parsed = .ok value) :
    validateOutput N.lib request text = some value := by
  unfold validateOutput
  rw [hloads]
  dsimp only
  rw [hvalid]

theorem fallbackResult_value {echo : N.Obj} {reason : FailureReason} {promptRef : String} {w : World}
    {result : AssistiveResult N.Obj} (hf : request.fallback = .ok echo)
    (h : ((fallbackResult N.lib N.auditLib N.config.build request reason promptRef).runSync P.answer
      w).2.2 = .ok result) : result.value = echo := by
  obtain ⟨_, _, _, hrun, -, hvalue, -⟩ := @fallbackResult_returns N.env N.S N.Obj N.lib N.auditLib
    N.config.build request P.answer w echo reason promptRef hf
  rw [hrun] at h
  cases h
  exact hvalue

/-- **A narrative of a runtime made for the task** is what there was to fall back on, or the value of
    a text that the provider gave. -/
theorem reason_of_task {echo : N.Obj} {result : AssistiveResult N.Obj}
    (hf : request.fallback = .ok echo)
    (h : ((reason N.lib N.auditLib N.config.build request).runSync P.answer P.world).2.2 =
      .ok result) :
    result.value = echo ∨ ∃ call prompt raw,
      (P.answer (.invoke call prompt) : Except Exc RawCompletion) = .ok raw ∧
        validateOutput N.lib request raw.text = some result.value := by
  have hends := @reason_ends N.env N.S N.Obj N.lib N.auditLib N.config.build request P.answer P.world
  generalize ((reason N.lib N.auditLib N.config.build request).runSync P.answer P.world).2 = out
    at h hends
  cases hends with
  -- the store has just been made
  | served hstored => cases hstored
  | asked _ hends =>
    cases hends with
    | unrendered => cases h
    | refused => exact .inl (fallbackResult_value hf h)
    | @valid prompt raw value _ hraw hvalid =>
      refine .inr ⟨0, prompt, raw, hraw, ?_⟩
      rw [(produced_value h).1, hvalid]
    | raised => cases h
    | repaired _ _ _ hrepairs =>
      obtain ⟨errors, hr⟩ := exists_attempt_of_repairs hrepairs
      obtain ⟨prompt, raw, parsed, hraw, hloads, hvalid, -⟩ := exists_output_of_accepted hr
      refine .inr ⟨_, prompt, raw, hraw, ?_⟩
      rw [(produced_value h).1, validateOutput_eq_some hloads hvalid]
    | exhausted => exact .inl (fallbackResult_value hf h)

/-- The provider, if it fails in all other calls. -/
def Provider.only {env : String} (P : Provider env) (calls : List (Nat × String)) : Provider env :=
  { P with
    answer := fun
      | .invoke call prompt =>
          if (call, prompt) ∈ calls then P.answer (.invoke call prompt) else .error (.other "")
      | .latencyMs => P.answer .latencyMs
      | .persist key => P.answer (.persist key)
      | .publishRaw envelope topic => P.answer (.publishRaw envelope topic) }

/-- The calls that are not made do not matter. -/
theorem reason_only (N : Narrator α) (P : Provider N.env) (request : AssistiveRequest N.S N.Obj) :
    (reason N.lib N.auditLib N.config.build request).runSync P.answer P.world =
      (reason N.lib N.auditLib N.config.build request).runSync
        (P.only (N.calls P request)).answer P.world := by
  refine Coro.runSync_congr fun x hx => ?_
  cases x with
  | invoke call prompt =>
    have hcall : (call, prompt) ∈ N.calls P request := List.mem_filterMap.mpr ⟨_, hx, rfl⟩
    exact (if_pos hcall).symm
  | latencyMs | persist | publishRaw => rfl

/-- **What the provider gave, it was asked for.** -/
theorem reason_of_calls {echo : N.Obj} {result : AssistiveResult N.Obj}
    (hf : request.fallback = .ok echo)
    (h : ((reason N.lib N.auditLib N.config.build request).runSync P.answer P.world).2.2 =
      .ok result) :
    result.value = echo ∨ ∃ call prompt raw, (call, prompt) ∈ N.calls P request ∧
      (P.answer (.invoke call prompt) : Except Exc RawCompletion) = .ok raw ∧
        validateOutput N.lib request raw.text = some result.value := by
  rw [reason_only] at h
  refine (reason_of_task (P := P.only (N.calls P request)) hf h).imp_right ?_
  rintro ⟨call, prompt, raw, hraw, hvalid⟩
  by_cases hcall : (call, prompt) ∈ N.calls P request
  · exact ⟨call, prompt, raw, hcall, (if_pos hcall).symm.trans hraw, hvalid⟩
  · have hfailed : (Except.error (.other "") : Except Exc RawCompletion) = .ok raw :=
      (if_neg hcall).symm.trans hraw
    cases hfailed

theorem read_of_fields {value : N.Obj} {narrative : α}
    (h : N.schema.fields value = some narrative) : N.read (some value) = .ok (some narrative) := by
  unfold Narrator.read
  dsimp only
  rw [h]

/-- Where the narrative of a verdict comes from. -/
inductive NarratedBy (N : Narrator α) (P : Provider N.env)
    (request : Option (AssistiveRequest N.S N.Obj)) (echo : α) : Option α → Prop where
  | silent : NarratedBy N P request echo none
  | echoed : NarratedBy N P request echo (some echo)
  | said {req : AssistiveRequest N.S N.Obj} {narrative : α} (hreq : request = some req)
      (h : Said N P req narrative) : NarratedBy N P request echo (some narrative)

/-- **The reading does not raise**: what the request of a summary comes back with is nothing, or an
    instance. -/
theorem narrate_cases (N : Narrator α) (P : Provider N.env) (request : Option (AssistiveRequest N.S N.Obj))
    {agentId instructions : String} {groundingInputs : Kwargs N.Obj} {echo : α} {caseId : UUID}
    {causationId : Option UUID} {hinstructions : Text.strip instructions ≠ ""}
    (h : request = N.request agentId instructions groundingInputs echo caseId causationId
      hinstructions) :
    ∃ narrative, N.read (N.narrate P request) = .ok narrative ∧
      (N.narrate P request).bind N.schema.fields = narrative ∧
      NarratedBy N P request echo narrative := by
  cases hnarrate : N.narrate P request with
  | none => exact ⟨none, rfl, rfl, .silent⟩
  | some value =>
    unfold Narrator.narrate at hnarrate
    cases henabled : N.enabled with
    | false =>
      rw [henabled] at hnarrate
      cases hnarrate
    | true =>
      cases request with
      | none =>
        rw [henabled] at hnarrate
        cases hnarrate
      | some req =>
        rw [henabled] at hnarrate
        dsimp only at hnarrate
        obtain ⟨hid, heq⟩ := Option.dite_none_right_eq_some.mp h.symm
        have hschema : req.outputSchema = N.schema.schema := by rw [← Option.some.inj heq]
        have hf : req.fallback = .ok (N.schema.new echo) := by rw [← Option.some.inj heq]
        split at hnarrate
        · rename_i result hreason
          obtain rfl := Option.some.inj hnarrate
          rcases reason_of_calls hf hreason with hecho | ⟨call, prompt, raw, hcall, hraw, hvalid⟩
          · have hfields := hecho ▸ N.schema.fields_new echo
            exact ⟨some echo, read_of_fields hfields, hfields, .echoed⟩
          · obtain ⟨narrative, hfields⟩ := exists_fields_of_validate hschema hvalid
            exact ⟨some narrative, read_of_fields hfields, hfields,
              .said rfl ⟨call, prompt, raw, _, hcall, hraw, hvalid, hfields⟩⟩
        · cases hnarrate

end Narrated

end RefundOps.Llm
