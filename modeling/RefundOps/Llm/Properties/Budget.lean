import RefundOps.Llm.Properties.Reasoning

/-!
# The repair budget

`reason` counts the first call and `invoke_structured` counts its own attempts, of which it makes one
more than there are repairs, and the first of them knows nothing of the output that came before. So a
step whose first output is not valid makes the same call twice, and it makes up to `2 + max_repairs`
calls (`reason_invocations_le`). The budget is kept by the steps that get along with one call, and by
no others (`reason_keepsBudget_iff`).
-/

set_option autoImplicit false

namespace RefundOps.Llm

/-! ## The calls of a run -/

/-- The prompts that the provider was called with, in order. The call at position `n` has the number
    `n`. -/
def invocations {env : String} (seen : List (Obs env)) : List String :=
  seen.filterMap fun
    | .invoked prompt => some prompt
    | _ => none

section Quiet

variable {env : String}

theorem invocations_append (seen seen' : List (Obs env)) :
    invocations (seen ++ seen') = invocations seen ++ invocations seen' :=
  List.filterMap_append

/-- A program that does not call the provider. -/
def Quiet {α : Type} (p : M env α) : Prop :=
  ∀ answer w, invocations (p.runSync answer w).1 = []

namespace Quiet

variable {α β : Type}

theorem pure (a : α) : Quiet (Pure.pure a : M env α) := fun _ _ => rfl

theorem throw (exc : Exc) : Quiet (throw exc : M env α) := fun _ _ => rfl

theorem ofExcept (result : Except Exc α) : Quiet (Coro.ofExcept result : M env α) := by
  cases result with
  | error exc => exact Quiet.throw exc
  | ok a => exact Quiet.pure a

/-- What is quiet adds no calls to those before it. -/
theorem invocations_bind {p : M env α} {f : α → M env β} (hf : ∀ a, Quiet (f a))
    (answer : ∀ x : Request env, Reply x) (w : World) :
    invocations ((p >>= f).runSync answer w).1 = invocations (p.runSync answer w).1 := by
  rw [Coro.runSync_bind]
  generalize p.runSync answer w = out
  obtain ⟨seen, w', result⟩ := out
  cases result with
  | error exc => rfl
  | ok a =>
    dsimp only
    rw [invocations_append, hf a answer w', List.append_nil]

theorem bind {p : M env α} {f : α → M env β} (hp : Quiet p) (hf : ∀ a, Quiet (f a)) :
    Quiet (p >>= f) := by
  intro answer w
  rw [invocations_bind hf, hp answer w]

theorem read : Quiet (Coro.read : M env World) := fun _ _ => rfl

theorem write (w : World) : Quiet (Coro.write w : M env Unit) := fun _ _ => rfl

theorem request (x : Request env) : Quiet (Coro.request x : M env (Reply x)) := fun _ _ => rfl

end Quiet

variable {S Obj : Type} {lib : Library S Obj} {auditLib : AuditLibrary Obj} {rt : LLMRuntime}
  {request : AssistiveRequest S Obj}

theorem emitAudit_quiet (result : AssistiveResult Obj) (promptRef : String) :
    Quiet (emitAudit lib auditLib rt request result promptRef : M env Unit) := by
  intro answer w
  obtain ⟨_, seen, _, hrun, -, hnone⟩ := @emitAudit_returns env S Obj lib auditLib rt request answer
    w result promptRef
  rw [hrun]
  unfold invocations
  rw [List.filterMap_eq_nil_iff]
  intro o ho
  cases o with
  | invoked prompt => exact absurd ho (hnone prompt)
  | auditWriteFailed => rfl
  | published => rfl

theorem fallbackResult_quiet (reason : FailureReason) (promptRef : String) :
    Quiet (fallbackResult lib auditLib rt request reason promptRef :
      M env (AssistiveResult Obj)) := by
  unfold fallbackResult
  apply (Quiet.ofExcept _).bind
  intro value
  apply (Quiet.request _).bind
  intro latencyMs
  apply (emitAudit_quiet _ _).bind
  intro _
  exact Quiet.pure _

theorem storePut_quiet (key : String) (result : AssistiveResult Obj) :
    Quiet (storePut lib key result : M env Unit) := by
  unfold storePut
  cases lib.modelDump result.value with
  | error exc => exact Quiet.throw _
  | ok data =>
    apply Quiet.read.bind
    intro w
    apply (Quiet.write _).bind
    intro _
    apply (Quiet.request _).bind
    intro _
    exact Quiet.pure _

theorem produced_quiet (raw : RawCompletion) (value : Obj) (promptRef : String) :
    Quiet (produced lib auditLib rt request raw value promptRef :
      M env (AssistiveResult Obj)) := by
  unfold produced
  apply (Quiet.request _).bind
  intro latencyMs
  apply (storePut_quiet _ _).bind
  intro _
  apply (emitAudit_quiet _ _).bind
  intro _
  exact Quiet.pure _

theorem served_quiet (stored : AssistiveResult Obj) :
    Quiet (served lib auditLib rt request stored : M env (AssistiveResult Obj)) := by
  unfold served
  apply (Quiet.request _).bind
  intro latencyMs
  apply (emitAudit_quiet _ _).bind
  intro _
  exact Quiet.pure _

end Quiet

/-! ## The calls of the repair loop -/

section Loop

variable {env : String} {S Obj : Type} {lib : Library S Obj} {schema : S} {grounding : Kwargs Obj}
  {messages : String} {answer : ∀ x : Request env, Reply x}

/-- The call after call `n`, with `prompt`, carries the error of its output: the prompt is that of
    the first call, followed by the error. -/
def CarriesError (lib : Library S Obj) (schema : S) (grounding : Kwargs Obj)
    (answer : ∀ x : Request env, Reply x) (first : String) (n : Nat) (before prompt : String) :
    Prop :=
  ∃ raw error rest, (answer (.invoke n before) : Except Exc RawCompletion) = .ok raw ∧
    judge lib schema grounding raw.text = .rejected error ∧
    prompt = first ++ "\n\nPrevious output was invalid: " ++ error ++ rest

/-- A prompt is longer than the one that it repeats. -/
theorem CarriesError.ne_first {first before prompt : String} {n : Nat}
    (h : CarriesError lib schema grounding answer first n before prompt) : prompt ≠ first := by
  obtain ⟨raw, error, rest, -, -, hprompt⟩ := h
  intro heq
  rw [heq] at hprompt
  have hlen := congrArg String.length hprompt
  simp only [String.length_append] at hlen
  have hfeedback : "\n\nPrevious output was invalid: ".length = 31 := by decide +kernel
  omega

/-- The calls of a loop: one for each attempt, up to the first that is not rejected. -/
theorem invocations_repairLoop_succ (left : Nat) (errors : List String) (w : World) :
    invocations ((repairLoop lib schema grounding messages (left + 1) errors).runSync answer w).1 =
      match attemptPrompt lib schema messages errors with
      | .error _ => []
      | .ok prompt =>
          prompt ::
            match attempt lib schema grounding messages answer errors with
            | .rejected error => invocations ((repairLoop lib schema grounding messages left
                (errors ++ [error])).runSync answer w).1
            | _ => [] := by
  unfold attempt
  rw [repairLoop]
  cases hprompt : attemptPrompt lib schema messages errors with
  | error exc => rfl
  | ok prompt =>
    show invocations ((invoke (errors.length + 1) prompt >>= _ : M env _).runSync answer w).1 = _
    rw [Coro.runSync_bind, invoke_runSync]
    dsimp only
    cases (answer (.invoke (errors.length + 1) prompt) : Except Exc RawCompletion) with
    | error exc => rfl
    | ok raw =>
      dsimp only
      cases judge lib schema grounding raw.text with
      | raised exc => rfl
      | accepted value => rfl
      | rejected error => rfl

theorem invocations_repairLoop_le (left : Nat) (errors : List String) (w : World) :
    (invocations ((repairLoop lib schema grounding messages left errors).runSync answer w).1).length
      ≤ left := by
  induction left generalizing errors with
  | zero => exact Nat.le_refl 0
  | succ left ih =>
    rw [invocations_repairLoop_succ]
    cases attemptPrompt lib schema messages errors with
    | error exc => exact Nat.zero_le _
    | ok prompt =>
      apply Nat.succ_le_succ
      cases attempt lib schema grounding messages answer errors with
      | raised exc => exact Nat.zero_le _
      | accepted value => exact Nat.zero_le _
      | rejected error => exact ih (errors ++ [error])

/-- The prompt that a loop begins with. -/
theorem invocations_repairLoop_head {left : Nat} {errors : List String} {w : World}
    {prompt : String} (h : (invocations ((repairLoop lib schema grounding messages left
      errors).runSync answer w).1)[0]? = some prompt) :
    attemptPrompt lib schema messages errors = .ok prompt := by
  cases left with
  | zero => cases h
  | succ left =>
    rw [invocations_repairLoop_succ] at h
    cases hprompt : attemptPrompt lib schema messages errors with
    | error exc =>
      rw [hprompt] at h
      cases h
    | ok prompt' =>
      rw [hprompt] at h
      cases h
      rfl

/-- After a rejection, a prompt ends with its error. -/
theorem attemptPrompt_snoc {errors : List String} {error prompt : String}
    (h : attemptPrompt lib schema messages (errors ++ [error]) = .ok prompt) :
    ∃ rest, prompt = messages ++ "\n\nPrevious output was invalid: " ++ error ++ rest := by
  unfold attemptPrompt at h
  rw [List.getLast?_append_of_ne_nil _ (List.cons_ne_nil _ _)] at h
  cases hschema : lib.modelJsonSchema schema with
  | error exc =>
    rw [hschema] at h
    cases h
  | ok jsonSchema =>
    rw [hschema] at h
    cases h
    exact ⟨_, String.append_assoc⟩

/-- **Within the loop each call carries the error of the output before it.** -/
theorem repairLoop_carriesError {left : Nat} {errors : List String} {w : World} {n : Nat}
    {before prompt : String}
    (hbefore : (invocations ((repairLoop lib schema grounding messages left errors).runSync
      answer w).1)[n]? = some before)
    (hprompt : (invocations ((repairLoop lib schema grounding messages left errors).runSync
      answer w).1)[n + 1]? = some prompt) :
    CarriesError lib schema grounding answer messages (errors.length + 1 + n) before prompt := by
  induction left generalizing errors n with
  | zero => cases hbefore
  | succ left ih =>
    rw [invocations_repairLoop_succ] at hbefore hprompt
    cases hfirst : attemptPrompt lib schema messages errors with
    | error exc =>
      rw [hfirst] at hbefore
      cases hbefore
    | ok first =>
      rw [hfirst] at hbefore hprompt
      cases hr : attempt lib schema grounding messages answer errors with
      | raised exc =>
        rw [hr] at hprompt
        cases hprompt
      | accepted value =>
        rw [hr] at hprompt
        cases hprompt
      | rejected error =>
        rw [hr] at hbefore hprompt
        simp only [List.getElem?_cons_succ] at hprompt
        cases n with
        | zero =>
          -- the call that was just rejected, and the first of the rest of the loop
          simp only [List.getElem?_cons_zero, Option.some.injEq] at hbefore
          subst hbefore
          obtain ⟨rest, hrest⟩ := attemptPrompt_snoc (invocations_repairLoop_head hprompt)
          obtain ⟨prompt', raw, hprompt', hraw, hjudge⟩ := exists_output_of_attempt hr nofun
          obtain rfl : first = prompt' := Except.ok.inj (hfirst.symm.trans hprompt')
          exact ⟨raw, error, rest, hraw, hjudge, hrest⟩
        | succ n =>
          simp only [List.getElem?_cons_succ] at hbefore
          have hrest := ih hbefore hprompt
          rw [List.length_append, List.length_singleton] at hrest
          have hn : errors.length + 1 + 1 + n = errors.length + 1 + (n + 1) := by omega
          rw [hn] at hrest
          exact hrest

end Loop

/-! ## The calls of a step -/

section Step

variable {env : String} {S Obj : Type} (lib : Library S Obj) (auditLib : AuditLibrary Obj)
  (rt : LLMRuntime) (request : AssistiveRequest S Obj) (answer : ∀ x : Request env, Reply x)
  (w : World)

def maxRepairs : Int := (rt.profile request.agentId request.taskKind).maxRepairs

/-- The calls of one step. -/
def reasonCalls : List String :=
  invocations ((reason lib auditLib rt request).runSync answer w).1

/-- **The budget**: `1 + max_repairs` calls at most (none if that is negative), and every one but the
    first carries the error of the output before it. -/
structure KeepsBudget : Prop where
  calls_le : (reasonCalls lib auditLib rt request answer w).length ≤
    attempts (maxRepairs rt request)
  carriesError : ∀ n first before prompt,
    (reasonCalls lib auditLib rt request answer w)[0]? = some first →
    (reasonCalls lib auditLib rt request answer w)[n]? = some before →
    (reasonCalls lib auditLib rt request answer w)[n + 1]? = some prompt →
      CarriesError lib request.outputSchema request.groundingInputs answer first n before prompt

/-- If a call is made, it is enough: there is a budget for it, and it raises or gives a text that is
    valid. -/
def FirstCallEnough : Prop :=
  w.store.get? (request.idempotencyKey lib) = none → ∀ prompt,
    renderPrompt lib request (rt.template request.taskKind request.agentId) = .ok prompt →
      0 ≤ maxRepairs rt request ∧
        ∀ raw, (answer (.invoke 0 prompt) : Except Exc RawCompletion) = .ok raw →
          validateOutput lib request raw.text ≠ none

variable {lib auditLib rt request answer w}

theorem invocations_complete {prompt promptRef : String} {raw : RawCompletion} :
    invocations ((complete lib auditLib rt request prompt promptRef raw).runSync answer w).1 =
      match validateOutput lib request raw.text with
      | some _ => []
      | none => invocations ((invokeStructured lib request.outputSchema request.groundingInputs
          prompt (maxRepairs rt request)).runSync answer w).1 := by
  unfold complete
  cases hvalid : validateOutput lib request raw.text with
  | some value => exact produced_quiet raw value promptRef answer w
  | none =>
    apply Quiet.invocations_bind
    intro outcome
    cases outcome with
    | ok value => exact produced_quiet raw value promptRef
    | failed attempts errors => exact fallbackResult_quiet .invalidOutput promptRef

theorem invocations_ask {prompt : String}
    (h : renderPrompt lib request (rt.template request.taskKind request.agentId) = .ok prompt) :
    invocations ((ask lib auditLib rt request).runSync answer w).1 =
      prompt ::
        match (answer (.invoke 0 prompt) : Except Exc RawCompletion) with
        | .error _ => []
        | .ok raw => invocations ((complete lib auditLib rt request prompt
            (request.taskKind.value ++ ":" ++ lib.digest prompt) raw).runSync answer w).1 := by
  unfold ask
  rw [h]
  dsimp only
  rw [Coro.runSync_bind, firstCall_runSync]
  dsimp only
  rw [invocations_append]
  apply congrArg (prompt :: ·)
  cases (answer (.invoke 0 prompt) : Except Exc RawCompletion) with
  | error exc => exact fallbackResult_quiet exc.failureReason _ answer w
  | ok raw => rfl

/-- The calls of a step: none, or the first one and those of the repair loop. -/
theorem reasonCalls_eq : reasonCalls lib auditLib rt request answer w =
    match w.store.get? (request.idempotencyKey lib),
        renderPrompt lib request (rt.template request.taskKind request.agentId) with
    | none, .ok prompt =>
        prompt ::
          match (answer (.invoke 0 prompt) : Except Exc RawCompletion) with
          | .error _ => []
          | .ok raw =>
              match validateOutput lib request raw.text with
              | some _ => []
              | none => invocations ((invokeStructured lib request.outputSchema
                  request.groundingInputs prompt (maxRepairs rt request)).runSync answer
                  { w with store := (w.store.get (request.idempotencyKey lib)).2 }).1
    | _, _ => [] := by
  unfold reasonCalls
  rw [reason_runSync]
  cases hstored : w.store.get? (request.idempotencyKey lib) with
  | some stored => exact served_quiet _ answer _
  | none =>
    cases hrender : renderPrompt lib request (rt.template request.taskKind request.agentId) with
    | error exc =>
      dsimp only
      unfold ask
      rw [hrender]
      rfl
    | ok prompt =>
      dsimp only
      rw [invocations_ask hrender]
      apply congrArg (prompt :: ·)
      cases (answer (.invoke 0 prompt) : Except Exc RawCompletion) with
      | error exc => rfl
      | ok raw => exact invocations_complete

/-- The first call, if there is one. -/
theorem reasonCalls_of_rendered {prompt : String}
    (hempty : w.store.get? (request.idempotencyKey lib) = none)
    (hrender : renderPrompt lib request (rt.template request.taskKind request.agentId) =
      .ok prompt) : (reasonCalls lib auditLib rt request answer w)[0]? = some prompt := by
  rw [reasonCalls_eq, hempty, hrender]
  rfl

/-- An output that is not valid is answered with the prompt that it was the answer to. -/
theorem reasonCalls_of_invalid {prompt : String} {raw : RawCompletion}
    (hempty : w.store.get? (request.idempotencyKey lib) = none)
    (hrender : renderPrompt lib request (rt.template request.taskKind request.agentId) = .ok prompt)
    (hraw : (answer (.invoke 0 prompt) : Except Exc RawCompletion) = .ok raw)
    (hinvalid : validateOutput lib request raw.text = none) (h : 0 ≤ maxRepairs rt request) :
    (reasonCalls lib auditLib rt request answer w)[1]? = some prompt := by
  have hattempts : attempts (maxRepairs rt request) = (maxRepairs rt request).toNat + 1 := by
    unfold attempts
    omega
  rw [reasonCalls_eq, hempty, hrender]
  dsimp only
  rw [hraw]
  dsimp only
  rw [hinvalid]
  dsimp only
  unfold invokeStructured
  rw [hattempts, invocations_repairLoop_succ]
  rfl

/-- A call that is enough is the only one. -/
theorem FirstCallEnough.calls (h : FirstCallEnough lib rt request answer w) :
    reasonCalls lib auditLib rt request answer w = [] ∨
      0 ≤ maxRepairs rt request ∧
        ∃ prompt, reasonCalls lib auditLib rt request answer w = [prompt] := by
  rw [reasonCalls_eq]
  cases hstored : w.store.get? (request.idempotencyKey lib) with
  | some stored => exact .inl rfl
  | none =>
    cases hrender : renderPrompt lib request (rt.template request.taskKind request.agentId) with
    | error exc => exact .inl rfl
    | ok prompt =>
      obtain ⟨hbudget, henough⟩ := h hstored prompt hrender
      refine .inr ⟨hbudget, prompt, ?_⟩
      apply congrArg (prompt :: ·)
      cases hraw : (answer (.invoke 0 prompt) : Except Exc RawCompletion) with
      | error exc => rfl
      | ok raw =>
        dsimp only
        cases hvalid : validateOutput lib request raw.text with
        | some value => rfl
        | none => exact absurd hvalid (henough raw hraw)

end Step

/-- **What a step may cost**: one call more than its budget. -/
theorem reason_invocations_le {env : String} {S Obj : Type} (lib : Library S Obj)
    (auditLib : AuditLibrary Obj) (rt : LLMRuntime) (request : AssistiveRequest S Obj)
    (answer : ∀ x : Request env, Reply x) (w : World) :
    (reasonCalls lib auditLib rt request answer w).length ≤
      1 + attempts (maxRepairs rt request) := by
  rw [reasonCalls_eq]
  split
  · rw [List.length_cons, Nat.add_comm]
    apply Nat.add_le_add_left
    split
    · exact Nat.zero_le _
    · split
      · exact Nat.zero_le _
      · exact invocations_repairLoop_le _ _ _
  · exact Nat.zero_le _

/-- **The calls of the repair loop carry the errors**: every call after the second does. -/
theorem reason_carriesError {env : String} {S Obj : Type} (lib : Library S Obj)
    (auditLib : AuditLibrary Obj) (rt : LLMRuntime) (request : AssistiveRequest S Obj)
    (answer : ∀ x : Request env, Reply x) (w : World) (n : Nat) (first before prompt : String)
    (hfirst : (reasonCalls lib auditLib rt request answer w)[0]? = some first)
    (hbefore : (reasonCalls lib auditLib rt request answer w)[n + 1]? = some before)
    (hprompt : (reasonCalls lib auditLib rt request answer w)[n + 2]? = some prompt) :
    CarriesError lib request.outputSchema request.groundingInputs answer first (n + 1) before
      prompt := by
  rw [reasonCalls_eq] at hfirst hbefore hprompt
  cases hstored : w.store.get? (request.idempotencyKey lib) with
  | some stored =>
    rw [hstored] at hfirst
    cases hfirst
  | none =>
    cases hrender : renderPrompt lib request (rt.template request.taskKind request.agentId) with
    | error exc =>
      rw [hstored, hrender] at hfirst
      cases hfirst
    | ok prompt₀ =>
      rw [hstored, hrender] at hfirst hbefore hprompt
      cases hfirst
      simp only [List.getElem?_cons_succ] at hbefore hprompt
      cases hraw : (answer (.invoke 0 first) : Except Exc RawCompletion) with
      | error exc =>
        rw [hraw] at hbefore
        cases hbefore
      | ok raw =>
        rw [hraw] at hbefore hprompt
        dsimp only at hbefore hprompt
        cases hvalid : validateOutput lib request raw.text with
        | some value =>
          rw [hvalid] at hbefore
          cases hbefore
        | none =>
          rw [hvalid] at hbefore hprompt
          -- the second call is the first one of the loop
          have hcarries := repairLoop_carriesError hbefore hprompt
          rw [List.length_nil, Nat.zero_add, Nat.add_comm] at hcarries
          exact hcarries

/-- **When the budget is kept.** No call is made, or the first one is enough. -/
theorem reason_keepsBudget_iff {env : String} {S Obj : Type} (lib : Library S Obj)
    (auditLib : AuditLibrary Obj) (rt : LLMRuntime) (request : AssistiveRequest S Obj)
    (answer : ∀ x : Request env, Reply x) (w : World) :
    KeepsBudget lib auditLib rt request answer w ↔ FirstCallEnough lib rt request answer w := by
  constructor
  · intro h hempty prompt hrender
    have hfirst : (reasonCalls lib auditLib rt request answer w)[0]? = some prompt :=
      reasonCalls_of_rendered hempty hrender
    have hbudget : 0 ≤ maxRepairs rt request := by
      have hlen := List.getElem?_eq_some_iff.mp hfirst
      obtain ⟨hpos, -⟩ := hlen
      have hle := h.calls_le
      unfold attempts at hle
      omega
    refine ⟨hbudget, ?_⟩
    intro raw hraw hinvalid
    have hsecond : (reasonCalls lib auditLib rt request answer w)[1]? = some prompt :=
      reasonCalls_of_invalid hempty hrender hraw hinvalid hbudget
    exact (h.carriesError 0 prompt prompt prompt hfirst hfirst hsecond).ne_first rfl
  · intro h
    rcases @FirstCallEnough.calls env S Obj lib auditLib rt request answer w h with
      hcalls | ⟨hbudget, prompt, hcalls⟩
    · refine ⟨?_, ?_⟩
      · rw [hcalls]
        exact Nat.zero_le _
      · intro n first before prompt hfirst
        rw [hcalls] at hfirst
        cases hfirst
    · refine ⟨?_, ?_⟩
      · rw [hcalls, List.length_singleton]
        unfold attempts
        omega
      · intro n first before prompt' hfirst hbefore hprompt
        rw [hcalls] at hprompt
        cases hprompt

/-- **A provider that never gives a valid text is called once more than the budget allows, and its
    second call does not say what was wrong with the first output.** -/
theorem invalid_outputs_break_the_budget :
    (reasonCalls sampleLibrary sampleAuditLibrary sampleRuntime (sampleRequest "test-agent")
        (sampleAnswer (.ok "I cannot answer that.")) sampleWorld).length = 4 ∧
      ¬ KeepsBudget sampleLibrary sampleAuditLibrary sampleRuntime (sampleRequest "test-agent")
        (sampleAnswer (.ok "I cannot answer that.")) sampleWorld := by
  have hlen : (reasonCalls sampleLibrary sampleAuditLibrary sampleRuntime
      (sampleRequest "test-agent") (sampleAnswer (.ok "I cannot answer that."))
      sampleWorld).length = 4 := by
    decide +kernel
  refine ⟨hlen, ?_⟩
  intro h
  have hle := h.calls_le
  rw [hlen] at hle
  revert hle
  decide

end RefundOps.Llm
