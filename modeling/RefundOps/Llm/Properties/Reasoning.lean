import RefundOps.Llm.Properties.Repair
import RefundOps.Llm.Runtime

/-!
# What a reasoning step returns

`reason` promises a value of the schema of the request, whatever the provider does. There are three
places where the promise is not kept: a stored result comes back as plain data, the calls of the
repair loop are not guarded, and a value that cannot be dumped cannot be stored either.
`reason_returns_instance_iff` says that these, with a prompt that cannot be rendered and a fallback of
another type, are all.

All the ways to end are listed once (`ask_ends`, `reason_ends`). What is said of results, here and in
the modules that follow, goes by these cases.
-/

set_option autoImplicit false

namespace RefundOps.Llm

/-! ## The steps

One lemma for each: what it returns, and what it does to the store. -/

section Steps

variable {env : String} {S Obj : Type} {lib : Library S Obj} {auditLib : AuditLibrary Obj}
  {rt : LLMRuntime} {request : AssistiveRequest S Obj} {answer : ∀ x : Request env, Reply x}
  {w : World}

/-- Nothing is asked of the provider, and the store stays as it is. -/
def Aside (w : World) (seen : List (Obs env)) (w' : World) : Prop :=
  w'.store = w.store ∧ ∀ prompt, Obs.invoked prompt ∉ seen

theorem Aside.refl : Aside w ([] : List (Obs env)) w := ⟨rfl, fun _ => List.not_mem_nil⟩

theorem publishBuilt_returns {built : Except (List FieldError) (EventEnvelope env)} {topic : String} :
    Coro.Returns answer (publishBuilt built topic) w fun _ seen w' => Aside w seen w' := by
  cases built with
  | error errors => exact ⟨(), [.auditWriteFailed], w, rfl, rfl, by simp⟩
  | ok envelope =>
    unfold publishBuilt
    apply Coro.Returns.bind
    refine ⟨_, [], w, rfl, ?_⟩
    cases (answer (.publishRaw envelope topic) : Except String Unit) with
    | error exc => exact ⟨(), [.auditWriteFailed], w, rfl, rfl, by simp⟩
    | ok sent => exact ⟨(), [.published envelope topic], w, rfl, rfl, by simp⟩

/-- The audit of a step never raises. -/
theorem emitAudit_returns {result : AssistiveResult Obj} {promptRef : String} :
    Coro.Returns answer (emitAudit lib auditLib rt request result promptRef) w
      fun _ seen w' => Aside w seen w' := by
  unfold emitAudit
  apply Coro.Returns.bind
  refine ⟨w, [], w, rfl, ?_⟩
  dsimp only
  split
  · -- the two ids are taken from the world, and leave its store alone
    exact @publishBuilt_returns env answer { w with nextId := w.nextId + 1 + 1 } _ _
  · exact Coro.Returns.pure Aside.refl

theorem fallbackResult_returns {value : Obj} {reason : FailureReason} {promptRef : String}
    (h : request.fallback = .ok value) :
    Coro.Returns answer (fallbackResult lib auditLib rt request reason promptRef) w
      fun result _ w' => w'.store = w.store ∧ result.value = value ∧
        result.reasoningPath = .fallback := by
  unfold fallbackResult
  rw [h]
  apply Coro.Returns.bind
  refine ⟨value, [], w, rfl, ?_⟩
  apply Coro.Returns.bind
  refine ⟨_, [], w, rfl, ?_⟩
  apply Coro.Returns.bind
  apply emitAudit_returns.mono
  intro _ seen w' haside
  exact Coro.Returns.pure ⟨haside.1, rfl, rfl⟩

theorem produced_returns {raw : RawCompletion} {value : Obj} {promptRef : String} {data : Json}
    (h : lib.modelDump value = .ok data) :
    Coro.Returns answer (produced lib auditLib rt request raw value promptRef) w
      fun result _ w' => result.value = value ∧ result.reasoningPath = .model ∧
        w'.store = w.store.put (request.idempotencyKey lib) { result with value := data } := by
  unfold produced storePut
  apply Coro.Returns.bind
  refine ⟨_, [], w, rfl, ?_⟩
  dsimp only
  rw [h]
  apply Coro.Returns.bind
  -- whether the entry reaches the topic makes no difference
  refine ⟨(), [], { w with store := _ }, rfl, ?_⟩
  apply Coro.Returns.bind
  apply emitAudit_returns.mono
  intro _ seen w' haside
  exact Coro.Returns.pure ⟨rfl, rfl, haside.1⟩

theorem produced_raises {raw : RawCompletion} {value : Obj} {promptRef exc : String}
    (h : lib.modelDump value = .error exc) :
    (produced lib auditLib rt request raw value promptRef).runSync answer w =
      ([], w, .error (.other exc)) := by
  unfold produced storePut
  simp only [h]
  rfl

theorem served_returns {stored : AssistiveResult Obj} :
    Coro.Returns answer (served lib auditLib rt request stored) w
      fun result seen w' => Aside w seen w' ∧ result.value = stored.value ∧
        result.reasoningPath = .cache := by
  unfold served
  apply Coro.Returns.bind
  refine ⟨_, [], w, rfl, ?_⟩
  apply Coro.Returns.bind
  apply emitAudit_returns.mono
  intro _ seen w' haside
  refine Coro.Returns.pure ⟨⟨haside.1, ?_⟩, rfl, rfl⟩
  intro prompt
  rw [List.append_nil, List.nil_append]
  exact haside.2 prompt

theorem firstCall_runSync (prompt : String) :
    (firstCall prompt : M env (Except Exc RawCompletion)).runSync answer w =
      ([.invoked prompt], w, .ok (answer (.invoke 0 prompt) : Except Exc RawCompletion)) := by
  unfold firstCall
  rw [Coro.runSync_tryCatch, Coro.runSync_bind, invoke_runSync]
  cases (answer (.invoke 0 prompt) : Except Exc RawCompletion) with
  | error exc => rfl
  | ok raw => rfl

/-- What the repairs come to. -/
def repairs (lib : Library S Obj) (rt : LLMRuntime) (request : AssistiveRequest S Obj)
    (answer : ∀ x : Request env, Reply x) (w : World) (prompt : String) :
    Except Exc (StructuredOutcome Obj) :=
  ((invokeStructured lib request.outputSchema request.groundingInputs prompt
    (rt.profile request.agentId request.taskKind).maxRepairs).runSync answer w).2.2

theorem repairs_end {prompt : String} :
    RepairsEnd lib request.outputSchema request.groundingInputs prompt answer
      (attempts (rt.profile request.agentId request.taskKind).maxRepairs)
      (repairs lib rt request answer w prompt) :=
  (invokeStructured_ends (rt.profile request.agentId request.taskKind).maxRepairs w).2

/-- A value of the repairs is one that an attempt was accepted with. -/
theorem exists_attempt_of_repairs {prompt : String} {value : Obj}
    (h : repairs lib rt request answer w prompt = .ok (.ok value)) :
    ∃ errors, attempt lib request.outputSchema request.groundingInputs prompt answer errors =
      .accepted value := by
  have hend := @repairs_end env S Obj lib rt request answer w prompt
  rw [h] at hend
  cases hend with
  | accepted _ _ hr => exact ⟨_, hr⟩

/-- A text that is not valid: what follows is decided by how the repairs end. -/
theorem complete_of_invalid {prompt promptRef : String} {raw : RawCompletion}
    (h : validateOutput lib request raw.text = none) :
    ((complete lib auditLib rt request prompt promptRef raw).runSync answer w).2 =
      match repairs lib rt request answer w prompt with
      | .error exc => (w, .error exc)
      | .ok (.ok value) =>
          ((produced lib auditLib rt request raw value promptRef).runSync answer w).2
      | .ok (.failed _ _) =>
          ((fallbackResult lib auditLib rt request .invalidOutput promptRef).runSync answer w).2 := by
  have hw := (@invokeStructured_ends env S Obj lib request.outputSchema request.groundingInputs
    prompt answer (rt.profile request.agentId request.taskKind).maxRepairs w).1
  unfold complete repairs
  rw [h]
  dsimp only
  rw [Coro.runSync_bind]
  generalize (invokeStructured lib request.outputSchema request.groundingInputs prompt
    (rt.profile request.agentId request.taskKind).maxRepairs).runSync answer w = out at hw ⊢
  obtain ⟨seen, w', outcome⟩ := out
  dsimp only at hw ⊢
  -- the loop leaves the world alone, so what follows starts from where the loop did
  subst hw
  cases outcome with
  | error exc => rfl
  | ok outcome =>
    cases outcome with
    | ok value => rfl
    | failed attempts errors => rfl

/-- A prompt that can be rendered: what follows is decided by the first call. -/
theorem ask_of_rendered {prompt : String}
    (h : renderPrompt lib request (rt.template request.taskKind request.agentId) = .ok prompt) :
    let promptRef := request.taskKind.value ++ ":" ++ lib.digest prompt
    ((ask lib auditLib rt request).runSync answer w).2 =
      match (answer (.invoke 0 prompt) : Except Exc RawCompletion) with
      | .error exc =>
          ((fallbackResult lib auditLib rt request exc.failureReason promptRef).runSync answer w).2
      | .ok raw => ((complete lib auditLib rt request prompt promptRef raw).runSync answer w).2 := by
  unfold ask
  rw [h]
  dsimp only
  rw [Coro.runSync_bind, firstCall_runSync]
  dsimp only
  cases (answer (.invoke 0 prompt) : Except Exc RawCompletion) with
  | error exc => rfl
  | ok raw => rfl

/-- How a request ends that the store has no result for: what is left, and what is returned or
    raised. -/
inductive AskEnds (lib : Library S Obj) (auditLib : AuditLibrary Obj) (rt : LLMRuntime)
    (request : AssistiveRequest S Obj) (answer : ∀ x : Request env, Reply x) (w : World) :
    World × Except Exc (AssistiveResult Obj) → Prop where
  | unrendered {exc : String}
      (hrender : renderPrompt lib request (rt.template request.taskKind request.agentId) = .error exc) :
      AskEnds lib auditLib rt request answer w (w, .error (.other exc))
  | refused {prompt : String} {exc : Exc}
      (hrender : renderPrompt lib request (rt.template request.taskKind request.agentId) = .ok prompt)
      (hraw : (answer (.invoke 0 prompt) : Except Exc RawCompletion) = .error exc) :
      AskEnds lib auditLib rt request answer w
        ((fallbackResult lib auditLib rt request exc.failureReason
          (request.taskKind.value ++ ":" ++ lib.digest prompt)).runSync answer w).2
  | valid {prompt : String} {raw : RawCompletion} {value : Obj}
      (hrender : renderPrompt lib request (rt.template request.taskKind request.agentId) = .ok prompt)
      (hraw : (answer (.invoke 0 prompt) : Except Exc RawCompletion) = .ok raw)
      (hvalid : validateOutput lib request raw.text = some value) :
      AskEnds lib auditLib rt request answer w
        ((produced lib auditLib rt request raw value
          (request.taskKind.value ++ ":" ++ lib.digest prompt)).runSync answer w).2
  | raised {prompt : String} {raw : RawCompletion} {exc : Exc}
      (hrender : renderPrompt lib request (rt.template request.taskKind request.agentId) = .ok prompt)
      (hraw : (answer (.invoke 0 prompt) : Except Exc RawCompletion) = .ok raw)
      (hvalid : validateOutput lib request raw.text = none)
      (hrepairs : repairs lib rt request answer w prompt = .error exc) :
      AskEnds lib auditLib rt request answer w (w, .error exc)
  | repaired {prompt : String} {raw : RawCompletion} {value : Obj}
      (hrender : renderPrompt lib request (rt.template request.taskKind request.agentId) = .ok prompt)
      (hraw : (answer (.invoke 0 prompt) : Except Exc RawCompletion) = .ok raw)
      (hvalid : validateOutput lib request raw.text = none)
      (hrepairs : repairs lib rt request answer w prompt = .ok (.ok value)) :
      AskEnds lib auditLib rt request answer w
        ((produced lib auditLib rt request raw value
          (request.taskKind.value ++ ":" ++ lib.digest prompt)).runSync answer w).2
  | exhausted {prompt : String} {raw : RawCompletion} {attempts : Nat} {errors : List String}
      (hrender : renderPrompt lib request (rt.template request.taskKind request.agentId) = .ok prompt)
      (hraw : (answer (.invoke 0 prompt) : Except Exc RawCompletion) = .ok raw)
      (hvalid : validateOutput lib request raw.text = none)
      (hrepairs : repairs lib rt request answer w prompt = .ok (.failed attempts errors)) :
      AskEnds lib auditLib rt request answer w
        ((fallbackResult lib auditLib rt request .invalidOutput
          (request.taskKind.value ++ ":" ++ lib.digest prompt)).runSync answer w).2

/-- **All the ways to end** for a request that is asked. -/
theorem ask_ends : AskEnds lib auditLib rt request answer w
    ((ask lib auditLib rt request).runSync answer w).2 := by
  cases hrender : renderPrompt lib request (rt.template request.taskKind request.agentId) with
  | error exc =>
    unfold ask
    rw [hrender]
    exact .unrendered hrender
  | ok prompt =>
    rw [ask_of_rendered hrender]
    cases hraw : (answer (.invoke 0 prompt) : Except Exc RawCompletion) with
    | error exc => exact .refused hrender hraw
    | ok raw =>
      dsimp only
      cases hvalid : validateOutput lib request raw.text with
      | some value =>
        unfold complete
        rw [hvalid]
        exact .valid hrender hraw hvalid
      | none =>
        rw [complete_of_invalid hvalid]
        cases hrepairs : repairs lib rt request answer w prompt with
        | error exc => exact .raised hrender hraw hvalid hrepairs
        | ok outcome =>
          cases outcome with
          | ok value => exact .repaired hrender hraw hvalid hrepairs
          | failed attempts errors => exact .exhausted hrender hraw hvalid hrepairs

end Steps

/-! ## When the promise is kept -/

section Promise

variable {env : String} {S Obj : Type} (lib : Library S Obj) (auditLib : AuditLibrary Obj)
  (rt : LLMRuntime) (request : AssistiveRequest S Obj) (answer : ∀ x : Request env, Reply x)

/-- The program returns, and the value is of the schema of the request. -/
def ReturnsInstance (p : M env (AssistiveResult Obj)) (w : World) : Prop :=
  ∃ result, (p.runSync answer w).2.2 = .ok result ∧
    lib.IsInstance request.outputSchema result.value

/-- What it takes of the provider: if the first call raises, the fallback is of the schema; if its
    output is valid, it can be dumped; and if it is not, the repairs end well. -/
def CallsOk (prompt : String) (fallback : Obj) : Prop :=
  match (answer (.invoke 0 prompt) : Except Exc RawCompletion) with
  | .error _ => lib.IsInstance request.outputSchema fallback
  | .ok raw =>
      match validateOutput lib request raw.text with
      | some value => ∃ data, lib.modelDump value = .ok data
      | none => RepairsOk lib request.outputSchema request.groundingInputs prompt answer
          (attempts (rt.profile request.agentId request.taskKind).maxRepairs) fallback

variable {lib auditLib rt request answer} {w : World} {fallback : Obj}

theorem ReturnsInstance.of_returns {p : M env (AssistiveResult Obj)}
    {Q : AssistiveResult Obj → List (Obs env) → World → Prop} {value : Obj}
    (h : Coro.Returns answer p w Q) (hvalue : ∀ result seen w', Q result seen w' →
      result.value = value) :
    ReturnsInstance lib request answer p w ↔ lib.IsInstance request.outputSchema value := by
  obtain ⟨result, seen, w', hrun, hQ⟩ := h
  have heq := hvalue result seen w' hQ
  unfold ReturnsInstance
  rw [hrun]
  constructor
  · rintro ⟨_, ⟨⟩, hinst⟩
    rw [← heq]
    exact hinst
  · intro hinst
    rw [← heq] at hinst
    exact ⟨result, rfl, hinst⟩

theorem fallbackResult_instance_iff {reason : FailureReason} {promptRef : String}
    (hf : request.fallback = .ok fallback) :
    ReturnsInstance lib request answer (fallbackResult lib auditLib rt request reason promptRef) w ↔
      lib.IsInstance request.outputSchema fallback :=
  ReturnsInstance.of_returns (fallbackResult_returns hf) fun _ _ _ h => h.2.1

theorem served_not_instance {stored : AssistiveResult Obj} {data : Json}
    (h : stored.value = lib.ofJson data) :
    ¬ ReturnsInstance lib request answer (served lib auditLib rt request stored) w := by
  rw [ReturnsInstance.of_returns served_returns fun _ _ _ h => h.2.1, h]
  exact lib.not_isInstance_ofJson _ data

theorem produced_instance_iff {raw : RawCompletion} {value : Obj} {promptRef : String}
    (hinst : lib.IsInstance request.outputSchema value) :
    ReturnsInstance lib request answer (produced lib auditLib rt request raw value promptRef) w ↔
      ∃ data, lib.modelDump value = .ok data := by
  cases hdump : lib.modelDump value with
  | error exc =>
    unfold ReturnsInstance
    rw [produced_raises hdump]
    constructor
    · rintro ⟨_, ⟨⟩, -⟩
    · rintro ⟨_, ⟨⟩⟩
  | ok data =>
    rw [ReturnsInstance.of_returns (produced_returns hdump) fun _ _ _ h => h.1]
    exact ⟨fun _ => ⟨data, rfl⟩, fun _ => hinst⟩

theorem isInstance_of_validateOutput {text : String} {value : Obj}
    (h : validateOutput lib request text = some value) :
    lib.IsInstance request.outputSchema value := by
  unfold validateOutput at h
  split at h
  · cases h
  · split at h
    · cases h
    · next hvalid =>
      cases h
      exact lib.isInstance_of_validate hvalid

/-- A valid output at once. -/
theorem CallsOk.of_valid {prompt : String} {raw : RawCompletion} {value : Obj} {data : Json}
    (hraw : (answer (.invoke 0 prompt) : Except Exc RawCompletion) = .ok raw)
    (hvalid : validateOutput lib request raw.text = some value)
    (hdump : lib.modelDump value = .ok data) : CallsOk lib rt request answer prompt fallback := by
  unfold CallsOk
  rw [hraw]
  dsimp only
  rw [hvalid]
  exact ⟨data, hdump⟩

/-- After a text of the provider. -/
theorem complete_instance_iff {prompt promptRef : String} {raw : RawCompletion}
    (hf : request.fallback = .ok fallback) :
    ReturnsInstance lib request answer (complete lib auditLib rt request prompt promptRef raw) w ↔
      match validateOutput lib request raw.text with
      | some value => ∃ data, lib.modelDump value = .ok data
      | none => RepairsOk lib request.outputSchema request.groundingInputs prompt answer
          (attempts (rt.profile request.agentId request.taskKind).maxRepairs) fallback := by
  cases hvalid : validateOutput lib request raw.text with
  | some value =>
    unfold complete
    rw [hvalid]
    exact produced_instance_iff (isInstance_of_validateOutput hvalid)
  | none =>
    have hend := @repairs_end env S Obj lib rt request answer w prompt
    unfold ReturnsInstance
    rw [hend.ok_iff, complete_of_invalid hvalid]
    generalize repairs lib rt request answer w prompt = outcome at hend ⊢
    cases hend with
    | raised h hlt hr =>
      constructor
      · rintro ⟨_, ⟨⟩, -⟩
      · exact False.elim
    | accepted h hlt hr => exact produced_instance_iff (isInstance_of_attempt hr)
    | exhausted h hlen => exact fallbackResult_instance_iff hf

/-- A request that the store has no result for. -/
theorem ask_instance_iff (hf : request.fallback = .ok fallback) :
    ReturnsInstance lib request answer (ask lib auditLib rt request) w ↔
      ∃ prompt, renderPrompt lib request (rt.template request.taskKind request.agentId) = .ok prompt ∧
        CallsOk lib rt request answer prompt fallback := by
  cases hrender : renderPrompt lib request (rt.template request.taskKind request.agentId) with
  | error exc =>
    unfold ask
    rw [hrender]
    constructor
    · rintro ⟨_, ⟨⟩, -⟩
    · rintro ⟨_, ⟨⟩, -⟩
  | ok prompt =>
    simp only [Except.ok.injEq, exists_eq_left']
    unfold ReturnsInstance CallsOk
    rw [ask_of_rendered hrender]
    cases (answer (.invoke 0 prompt) : Except Exc RawCompletion) with
    | error exc => exact fallbackResult_instance_iff hf
    | ok raw => exact complete_instance_iff hf

theorem storeGet_runSync {key : String} :
    (storeGet lib key : M env _).runSync answer w =
      ([], { w with store := (w.store.get key).2 },
        .ok ((w.store.get? key).map fun stored => { stored with value := lib.ofJson stored.value })) := by
  rw [← LRUMap.get_fst]
  rfl

/-- The lookup, before anything else. -/
theorem reason_runSync : (reason lib auditLib rt request : M env _).runSync answer w =
    let w' := { w with store := (w.store.get (request.idempotencyKey lib)).2 }
    match w.store.get? (request.idempotencyKey lib) with
    | some stored =>
        (served lib auditLib rt request { stored with value := lib.ofJson stored.value }).runSync
          answer w'
    | none => (ask lib auditLib rt request).runSync answer w' := by
  unfold reason
  rw [Coro.runSync_bind, storeGet_runSync]
  cases w.store.get? (request.idempotencyKey lib) with
  | none => rfl
  | some stored => rfl

/-- How a step ends: with the result that the store has for the request, or as a request that is
    asked. -/
inductive ReasonEnds (lib : Library S Obj) (auditLib : AuditLibrary Obj) (rt : LLMRuntime)
    (request : AssistiveRequest S Obj) (answer : ∀ x : Request env, Reply x) (w : World) :
    World × Except Exc (AssistiveResult Obj) → Prop where
  | served {stored : AssistiveResult Json}
      (hstored : w.store.get? (request.idempotencyKey lib) = some stored) :
      ReasonEnds lib auditLib rt request answer w
        ((served lib auditLib rt request { stored with value := lib.ofJson stored.value }).runSync
          answer { w with store := (w.store.get (request.idempotencyKey lib)).2 }).2
  | asked {out : World × Except Exc (AssistiveResult Obj)}
      (hempty : w.store.get? (request.idempotencyKey lib) = none)
      (hends : AskEnds lib auditLib rt request answer
        { w with store := (w.store.get (request.idempotencyKey lib)).2 } out) :
      ReasonEnds lib auditLib rt request answer w out

theorem reason_ends : ReasonEnds lib auditLib rt request answer w
    ((reason lib auditLib rt request).runSync answer w).2 := by
  rw [reason_runSync]
  cases hstored : w.store.get? (request.idempotencyKey lib) with
  | some stored => exact .served hstored
  | none => exact .asked hstored ask_ends

/-- **A stored result is not a value of the schema**: it is the data that the value was dumped to. -/
theorem reason_not_instance_of_stored
    (h : (w.store.get? (request.idempotencyKey lib)).isSome = true) :
    ¬ ReturnsInstance lib request answer (reason lib auditLib rt request) w := by
  obtain ⟨stored, hstored⟩ := Option.isSome_iff_exists.mp h
  unfold ReturnsInstance
  rw [reason_runSync, hstored]
  exact served_not_instance rfl

end Promise

/-- **When a reasoning step returns a value of the schema.** The store has no result for the request,
    the prompt can be rendered, and the calls of the provider come to a value. -/
theorem reason_returns_instance_iff {env : String} {S Obj : Type} (lib : Library S Obj)
    (auditLib : AuditLibrary Obj) (rt : LLMRuntime) (request : AssistiveRequest S Obj)
    (answer : ∀ x : Request env, Reply x) (w : World) {fallback : Obj}
    (hf : request.fallback = .ok fallback) :
    ReturnsInstance lib request answer (reason lib auditLib rt request) w ↔
      w.store.get? (request.idempotencyKey lib) = none ∧
      ∃ prompt, renderPrompt lib request (rt.template request.taskKind request.agentId) = .ok prompt ∧
        CallsOk lib rt request answer prompt fallback := by
  cases hstored : w.store.get? (request.idempotencyKey lib) with
  | some stored =>
    constructor
    · intro h
      exact absurd h (reason_not_instance_of_stored (by rw [hstored]; rfl))
    · rintro ⟨⟨⟩, -⟩
  | none =>
    unfold ReturnsInstance
    rw [reason_runSync, hstored]
    constructor
    · intro h
      exact ⟨rfl, (ask_instance_iff hf).mp h⟩
    · intro h
      exact (ask_instance_iff hf).mpr h.2

/-- A runtime without templates or publisher. -/
def sampleRuntime : LLMRuntime where
  template _ _ := none
  profile _ _ := {}
  redactPii := true
  publisher := false

theorem validateOutput_sample :
    validateOutput sampleLibrary (sampleRequest "test-agent") "\x7b\x7d" =
      some (.model (.obj [])) := by
  have hstrip : stripFences "\x7b\x7d" = "\x7b\x7d" := by decide +kernel
  unfold validateOutput
  rw [hstrip]
  rfl

/-- A valid output, and nothing in the store. -/
theorem reason_returns_instance_sample :
    ReturnsInstance sampleLibrary (sampleRequest "test-agent") (sampleAnswer (.ok "\x7b\x7d"))
      (reason sampleLibrary sampleAuditLibrary sampleRuntime (sampleRequest "test-agent"))
      sampleWorld := by
  refine (reason_returns_instance_iff sampleLibrary sampleAuditLibrary sampleRuntime
    (sampleRequest "test-agent") (sampleAnswer (.ok "\x7b\x7d")) sampleWorld rfl).mpr
    ⟨rfl, _, rfl, ?_⟩
  exact CallsOk.of_valid rfl validateOutput_sample rfl

/-- A provider that answers the first call with a text that is no JSON, and raises after that. -/
def throttledAnswer : ∀ x : Request "local", Reply x
  | .invoke 0 _ => .ok { text := "I cannot answer that." }
  | .invoke (_ + 1) _ => .error (.providerError "ThrottlingException")
  | .latencyMs => (0 : Int)
  | .persist _ => .ok ()
  | .publishRaw _ _ => .ok ()

/-- **The same request again does not get a value of the schema, and a provider that raises in a
    repair makes the step raise.** -/
theorem replay_and_repair_break_the_promise :
    (¬ ReturnsInstance sampleLibrary (sampleRequest "test-agent") (sampleAnswer (.ok "\x7b\x7d"))
        (reason sampleLibrary sampleAuditLibrary sampleRuntime (sampleRequest "test-agent"))
        ((reason sampleLibrary sampleAuditLibrary sampleRuntime (sampleRequest "test-agent")).runSync
          (sampleAnswer (.ok "\x7b\x7d")) sampleWorld).2.1) ∧
      ¬ ReturnsInstance sampleLibrary (sampleRequest "test-agent") throttledAnswer
        (reason sampleLibrary sampleAuditLibrary sampleRuntime (sampleRequest "test-agent"))
        sampleWorld := by
  constructor
  · apply reason_not_instance_of_stored
    decide +kernel
  · rintro ⟨result, hrun, -⟩
    have hraised : ((reason sampleLibrary sampleAuditLibrary sampleRuntime
        (sampleRequest "test-agent")).runSync throttledAnswer sampleWorld).2.2.isOk = false := by
      decide +kernel
    rw [hrun] at hraised
    cases hraised

/-! ## Without a valid text -/

section NeverValid

variable {env : String} {S Obj : Type} {lib : Library S Obj} {auditLib : AuditLibrary Obj}
  {rt : LLMRuntime} {request : AssistiveRequest S Obj} {answer : ∀ x : Request env, Reply x}

/-- No call of the provider gives a text that is valid under the schema of the request. -/
def NeverValid (lib : Library S Obj) (request : AssistiveRequest S Obj)
    (answer : ∀ x : Request env, Reply x) : Prop :=
  ∀ call prompt raw, (answer (.invoke call prompt) : Except Exc RawCompletion) = .ok raw →
    validateOutput lib request raw.text = none

theorem NeverValid.not_accepted (h : NeverValid lib request answer) {messages : String}
    {errors : List String} {value : Obj} :
    attempt lib request.outputSchema request.groundingInputs messages answer errors ≠
      .accepted value := by
  intro hr
  obtain ⟨prompt, raw, parsed, hraw, hloads, hvalid, -⟩ := exists_output_of_accepted hr
  have hnone := h _ prompt raw hraw
  unfold validateOutput at hnone
  rw [hloads] at hnone
  dsimp only at hnone
  rw [hvalid] at hnone
  cases hnone

/-- **Without a valid text a reasoning step comes to its fallback, or raises.** -/
theorem reason_of_neverValid (h : NeverValid lib request answer) {w : World} {fallback : Obj}
    (hf : request.fallback = .ok fallback)
    (hempty : w.store.get? (request.idempotencyKey lib) = none) :
    (∃ result, ((reason lib auditLib rt request).runSync answer w).2.2 = .ok result ∧
        result.value = fallback ∧ result.reasoningPath = .fallback) ∨
      ∃ exc, ((reason lib auditLib rt request).runSync answer w).2.2 = .error exc := by
  have hfallback : ∀ reason promptRef (w : World), ∃ result,
      ((fallbackResult lib auditLib rt request reason promptRef).runSync answer w).2.2 =
        .ok result ∧ result.value = fallback ∧ result.reasoningPath = .fallback := by
    intro reason promptRef w
    obtain ⟨result, seen, w', hrun, -, hvalue, hpath⟩ :=
      @fallbackResult_returns env S Obj lib auditLib rt request answer w fallback reason promptRef hf
    exact ⟨result, by rw [hrun], hvalue, hpath⟩
  have hends := @reason_ends env S Obj lib auditLib rt request answer w
  generalize ((reason lib auditLib rt request).runSync answer w).2 = out at hends ⊢
  cases hends with
  | served hstored => cases hempty.symm.trans hstored
  | asked _ hends =>
    cases hends with
    | unrendered => exact .inr ⟨_, rfl⟩
    | refused => exact .inl (hfallback _ _ _)
    | valid _ hraw hvalid => cases (h 0 _ _ hraw).symm.trans hvalid
    | raised => exact .inr ⟨_, rfl⟩
    | repaired _ _ _ hrepairs =>
      obtain ⟨errors, hr⟩ := exists_attempt_of_repairs hrepairs
      exact absurd hr h.not_accepted
    | exhausted => exact .inl (hfallback _ _ _)

end NeverValid

/-! ## With a valid text at once -/

/-- A valid text that can be stored is what the step returns. -/
theorem reason_of_valid {env : String} {S Obj : Type} {lib : Library S Obj}
    {auditLib : AuditLibrary Obj} {rt : LLMRuntime} {request : AssistiveRequest S Obj}
    {answer : ∀ x : Request env, Reply x} {w : World} {prompt : String} {raw : RawCompletion}
    {value : Obj} {data : Json} (hempty : w.store.get? (request.idempotencyKey lib) = none)
    (hrender : renderPrompt lib request (rt.template request.taskKind request.agentId) = .ok prompt)
    (hraw : (answer (.invoke 0 prompt) : Except Exc RawCompletion) = .ok raw)
    (hvalid : validateOutput lib request raw.text = some value)
    (hdump : lib.modelDump value = .ok data) :
    ∃ result, ((reason lib auditLib rt request).runSync answer w).2.2 = .ok result ∧
      result.value = value ∧ result.reasoningPath = .model := by
  rw [reason_runSync, hempty]
  dsimp only
  rw [ask_of_rendered hrender, hraw]
  dsimp only
  unfold complete
  rw [hvalid]
  obtain ⟨result, seen, w', hrun, hvalue, hpath, -⟩ := @produced_returns env S Obj lib auditLib rt
    request answer { w with store := (w.store.get (request.idempotencyKey lib)).2 } raw value
    (request.taskKind.value ++ ":" ++ lib.digest prompt) data hdump
  exact ⟨result, by rw [hrun], hvalue, hpath⟩

/-! ## Where a result comes from -/

/-- The three origins of a result, each with its path. -/
inductive Origin {S Obj : Type} (lib : Library S Obj) (request : AssistiveRequest S Obj)
    (result : AssistiveResult Obj) : Option Obj → Prop where
  | stored (data : Json) (hvalue : result.value = lib.ofJson data)
      (hpath : result.reasoningPath = .cache) : Origin lib request result none
  | model (hinst : lib.IsInstance request.outputSchema result.value)
      (hpath : result.reasoningPath = .model) : Origin lib request result (some result.value)
  | fallback (hvalue : request.fallback = .ok result.value)
      (hpath : result.reasoningPath = .fallback) : Origin lib request result none

theorem Origin.eq_of_model {S Obj : Type} {lib : Library S Obj} {request : AssistiveRequest S Obj}
    {result : AssistiveResult Obj} {model : Option Obj} (h : Origin lib request result model)
    (hpath : result.reasoningPath = .model) : model = some result.value := by
  cases h with
  | stored data hvalue hcache => cases hcache.symm.trans hpath
  | model hinst hmodel => rfl
  | fallback hvalue hfallback => cases hfallback.symm.trans hpath

section Origin

variable {env : String} {S Obj : Type} (lib : Library S Obj) (rt : LLMRuntime)
  (request : AssistiveRequest S Obj) (answer : ∀ x : Request env, Reply x)

/-- The value of a text: its own if it is valid, or that of a repair. -/
def acceptedValue (prompt : String) (raw : RawCompletion) (w : World) : Option Obj :=
  match validateOutput lib request raw.text with
  | some value => some value
  | none =>
      match ((invokeStructured lib request.outputSchema request.groundingInputs prompt
        (rt.profile request.agentId request.taskKind).maxRepairs).runSync answer w).2.2 with
      | .ok (.ok value) => some value
      | _ => none

/-- The value that the model comes to, if it is asked and gives one. Nothing is asked if the store
    has a result, or if there is no prompt. -/
def modelValue (w : World) : Option Obj :=
  match w.store.get? (request.idempotencyKey lib),
      renderPrompt lib request (rt.template request.taskKind request.agentId) with
  | none, .ok prompt =>
      match (answer (.invoke 0 prompt) : Except Exc RawCompletion) with
      | .error _ => none
      | .ok raw => acceptedValue lib rt request answer prompt raw
          { w with store := (w.store.get (request.idempotencyKey lib)).2 }
  | _, _ => none

variable {lib rt request answer} {auditLib : AuditLibrary Obj} {w : World}
  {result : AssistiveResult Obj} {promptRef : String}

theorem fallbackResult_origin {reason : FailureReason}
    (h : ((fallbackResult lib auditLib rt request reason promptRef).runSync answer w).2.2 =
      .ok result) : Origin lib request result none := by
  cases hf : request.fallback with
  | error exc =>
    unfold fallbackResult at h
    rw [hf] at h
    cases h
  | ok value =>
    obtain ⟨_, _, _, hrun, -, hvalue, hpath⟩ := @fallbackResult_returns env S Obj lib auditLib rt
      request answer w value reason promptRef hf
    rw [hrun] at h
    cases h
    rw [← hvalue] at hf
    exact .fallback hf hpath

theorem produced_origin {raw : RawCompletion} {value : Obj}
    (hinst : lib.IsInstance request.outputSchema value)
    (h : ((produced lib auditLib rt request raw value promptRef).runSync answer w).2.2 =
      .ok result) : Origin lib request result (some value) := by
  cases hdump : lib.modelDump value with
  | error exc =>
    rw [produced_raises hdump] at h
    cases h
  | ok data =>
    obtain ⟨_, _, _, hrun, hvalue, hpath, -⟩ := @produced_returns env S Obj lib auditLib rt request
      answer w raw value promptRef data hdump
    rw [hrun] at h
    cases h
    rw [← hvalue] at hinst ⊢
    exact .model hinst hpath

theorem served_origin {stored : AssistiveResult Obj} {data : Json}
    (hdata : stored.value = lib.ofJson data)
    (h : ((served lib auditLib rt request stored).runSync answer w).2.2 = .ok result) :
    Origin lib request result none := by
  obtain ⟨_, _, _, hrun, -, hvalue, hpath⟩ := @served_returns env S Obj lib auditLib rt
    request answer w stored
  rw [hrun] at h
  cases h
  exact .stored data (hvalue.trans hdata) hpath

theorem modelValue_of_asked {prompt : String} {raw : RawCompletion}
    (hempty : w.store.get? (request.idempotencyKey lib) = none)
    (hrender : renderPrompt lib request (rt.template request.taskKind request.agentId) = .ok prompt)
    (hraw : (answer (.invoke 0 prompt) : Except Exc RawCompletion) = .ok raw) :
    modelValue lib rt request answer w = acceptedValue lib rt request answer prompt raw
      { w with store := (w.store.get (request.idempotencyKey lib)).2 } := by
  unfold modelValue
  rw [hempty, hrender]
  dsimp only
  rw [hraw]

theorem acceptedValue_of_invalid {prompt : String} {raw : RawCompletion}
    (hvalid : validateOutput lib request raw.text = none) :
    acceptedValue lib rt request answer prompt raw w =
      match repairs lib rt request answer w prompt with
      | .ok (.ok value) => some value
      | _ => none := by
  unfold acceptedValue
  rw [hvalid]
  rfl

/-- **A result is one of the store, of the model, or of the fallback.** -/
theorem reason_origin
    (h : ((reason lib auditLib rt request).runSync answer w).2.2 = .ok result) :
    Origin lib request result (modelValue lib rt request answer w) := by
  have hends := @reason_ends env S Obj lib auditLib rt request answer w
  generalize ((reason lib auditLib rt request).runSync answer w).2 = out at h hends
  cases hends with
  | served hstored =>
    unfold modelValue
    rw [hstored]
    exact served_origin rfl h
  | asked hempty hends =>
    cases hends with
    | unrendered => cases h
    | refused hrender hraw =>
      unfold modelValue
      rw [hempty, hrender]
      dsimp only
      rw [hraw]
      exact fallbackResult_origin h
    | valid hrender hraw hvalid =>
      rw [modelValue_of_asked hempty hrender hraw]
      unfold acceptedValue
      rw [hvalid]
      exact produced_origin (isInstance_of_validateOutput hvalid) h
    | raised => cases h
    | repaired hrender hraw hvalid hrepairs =>
      obtain ⟨errors, hr⟩ := exists_attempt_of_repairs hrepairs
      rw [modelValue_of_asked hempty hrender hraw, acceptedValue_of_invalid hvalid, hrepairs]
      exact produced_origin (isInstance_of_attempt hr) h
    | exhausted hrender hraw hvalid hrepairs =>
      rw [modelValue_of_asked hempty hrender hraw, acceptedValue_of_invalid hvalid, hrepairs]
      exact fallbackResult_origin h

end Origin

end RefundOps.Llm
