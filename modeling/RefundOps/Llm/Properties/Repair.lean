import RefundOps.Llm.Structured

/-!
# How the repairs end

The repair loop goes on as long as an output is rejected, and what an attempt comes to depends on the
errors of the attempts before it and on what the provider answers, on nothing else. So the attempts
are one sequence, fixed by the answers (`Rejections`), and the loop ends where it breaks off: at an
exception, at a value, or when there is no attempt left (`repairLoop_ends`).
-/

set_option autoImplicit false

namespace RefundOps.Llm

section Attempts

variable {env : String} {S Obj : Type} (lib : Library S Obj) (schema : S) (grounding : Kwargs Obj)
  (messages : String) (answer : ∀ x : Request env, Reply x)

/-- What the attempt after `errors` comes to. -/
def attempt (errors : List String) : Judgement Obj :=
  match attemptPrompt lib schema messages errors with
  | .error exc => .raised exc
  | .ok prompt =>
      match (answer (.invoke (errors.length + 1) prompt) : Except Exc RawCompletion) with
      | .error exc => .raised exc
      | .ok raw => judge lib schema grounding raw.text

/-- The first attempts were rejected, with these errors. -/
inductive Rejections : List String → Prop where
  | nil : Rejections []
  | snoc {errors : List String} {error : String} (h : Rejections errors)
      (hr : attempt lib schema grounding messages answer errors = .rejected error) :
      Rejections (errors ++ [error])

/-- How `n` attempts end. -/
inductive RepairsEnd (n : Nat) : Except Exc (StructuredOutcome Obj) → Prop where
  | raised {errors : List String} {exc : Exc}
      (h : Rejections lib schema grounding messages answer errors) (hlt : errors.length < n)
      (hr : attempt lib schema grounding messages answer errors = .raised exc) :
      RepairsEnd n (.error exc)
  | accepted {errors : List String} {value : Obj}
      (h : Rejections lib schema grounding messages answer errors) (hlt : errors.length < n)
      (hr : attempt lib schema grounding messages answer errors = .accepted value) :
      RepairsEnd n (.ok (.ok value))
  | exhausted {errors : List String}
      (h : Rejections lib schema grounding messages answer errors) (hlen : errors.length = n) :
      RepairsEnd n (.ok (.failed n errors))

variable {lib schema grounding messages answer}

/-! ## The loop -/

/-- A call of the provider shows the prompt, and leaves the world alone. -/
theorem invoke_runSync (call : Nat) (prompt : String) (w : World) :
    (invoke call prompt : M env RawCompletion).runSync answer w =
      ([.invoked prompt], w, (answer (.invoke call prompt) : Except Exc RawCompletion)) := by
  unfold invoke
  simp only [bind, Coro.bind, Coro.observe, Coro.request, Coro.runSync]
  cases (answer (.invoke call prompt) : Except Exc RawCompletion) with
  | error exc => rfl
  | ok raw => rfl

/-- One attempt of the loop. -/
theorem repairLoop_succ (left : Nat) (errors : List String) (w : World) :
    ((repairLoop lib schema grounding messages (left + 1) errors).runSync answer w).2 =
      match attempt lib schema grounding messages answer errors with
      | .raised exc => (w, .error exc)
      | .accepted value => (w, .ok (.ok value))
      | .rejected error =>
          ((repairLoop lib schema grounding messages left (errors ++ [error])).runSync answer w).2 := by
  unfold attempt
  rw [repairLoop]
  cases hprompt : attemptPrompt lib schema messages errors with
  | error exc => rfl
  | ok prompt =>
    show ((invoke (errors.length + 1) prompt >>= _ : M env _).runSync answer w).2 = _
    rw [Coro.runSync_bind, invoke_runSync]
    dsimp only
    cases hraw : (answer (.invoke (errors.length + 1) prompt) : Except Exc RawCompletion) with
    | error exc => rfl
    | ok raw =>
      dsimp only
      cases judge lib schema grounding raw.text with
      | raised exc => rfl
      | accepted value => rfl
      | rejected error => rfl

/-- **The loop ends where the attempts do**, and leaves the world alone. -/
theorem repairLoop_ends (left : Nat) {errors : List String} (w : World)
    (h : Rejections lib schema grounding messages answer errors) :
    let out := ((repairLoop lib schema grounding messages left errors).runSync answer w).2
    out.1 = w ∧
      RepairsEnd lib schema grounding messages answer (errors.length + left) out.2 := by
  dsimp only
  -- on the attempts that are left; the errors so far are the rejections that came before
  induction left generalizing errors with
  | zero =>
    refine ⟨rfl, ?_⟩
    exact RepairsEnd.exhausted h rfl
  | succ left ih =>
    rw [repairLoop_succ]
    cases hr : attempt lib schema grounding messages answer errors with
    | raised exc => exact ⟨rfl, .raised h (by omega) hr⟩
    | accepted value => exact ⟨rfl, .accepted h (by omega) hr⟩
    | rejected error =>
      -- one attempt less, one error more
      have hrest := ih (h.snoc hr)
      rw [List.length_append, List.length_singleton, Nat.add_right_comm, Nat.add_assoc] at hrest
      exact hrest

theorem invokeStructured_ends (maxRepairs : Int) (w : World) :
    let out := ((invokeStructured lib schema grounding messages maxRepairs).runSync answer w).2
    out.1 = w ∧
      RepairsEnd lib schema grounding messages answer (attempts maxRepairs) out.2 := by
  have hends := repairLoop_ends (attempts maxRepairs) w (.nil : Rejections lib schema grounding
    messages answer [])
  rw [List.length_nil, Nat.zero_add] at hends
  exact hends

/-! ## One output -/

/-- What an attempt comes to, unless it raises, is made of an output that the provider gave. -/
theorem exists_output_of_attempt {errors : List String} {judgement : Judgement Obj}
    (h : attempt lib schema grounding messages answer errors = judgement)
    (hraised : ∀ exc, judgement ≠ .raised exc) :
    ∃ prompt raw, attemptPrompt lib schema messages errors = .ok prompt ∧
      (answer (.invoke (errors.length + 1) prompt) : Except Exc RawCompletion) = .ok raw ∧
      judge lib schema grounding raw.text = judgement := by
  unfold attempt at h
  cases hprompt : attemptPrompt lib schema messages errors with
  | error exc =>
    rw [hprompt] at h
    exact absurd h.symm (hraised exc)
  | ok prompt =>
    rw [hprompt] at h
    dsimp only at h
    cases hraw : (answer (.invoke (errors.length + 1) prompt) : Except Exc RawCompletion) with
    | error exc =>
      rw [hraw] at h
      exact absurd h.symm (hraised exc)
    | ok raw =>
      rw [hraw] at h
      exact ⟨prompt, raw, rfl, hraw, h⟩

/-- An output that is accepted is valid, and grounded if there is anything to ground it in. -/
theorem of_judge_accepted {text : String} {value : Obj}
    (h : judge lib schema grounding text = .accepted value) :
    ∃ parsed, lib.loads (stripFences text) = .ok parsed ∧
      lib.modelValidate schema parsed = .ok value ∧
      (grounding ≠ [] → groundingCheck lib grounding value = .ok true) := by
  unfold judge at h
  cases hloads : lib.loads (stripFences text) with
  | error exc =>
    rw [hloads] at h
    cases exc <;> cases h
  | ok parsed =>
    rw [hloads] at h
    dsimp only at h
    cases hvalid : lib.modelValidate schema parsed with
    | error exc =>
      rw [hvalid] at h
      cases h
    | ok value' =>
      rw [hvalid] at h
      dsimp only at h
      by_cases hg : grounding = []
      · rw [if_pos hg] at h
        cases h
        exact ⟨parsed, rfl, hvalid, fun hne => absurd hg hne⟩
      · rw [if_neg hg] at h
        cases hcheck : groundingCheck lib grounding value' with
        | error exc =>
          rw [hcheck] at h
          cases h
        | ok accepted =>
          rw [hcheck] at h
          cases accepted with
          | false => cases h
          | true =>
            cases h
            exact ⟨parsed, rfl, hvalid, fun _ => hcheck⟩

/-- The output of an attempt that is accepted. -/
theorem exists_output_of_accepted {errors : List String} {value : Obj}
    (h : attempt lib schema grounding messages answer errors = .accepted value) :
    ∃ prompt raw parsed,
      (answer (.invoke (errors.length + 1) prompt) : Except Exc RawCompletion) = .ok raw ∧
      lib.loads (stripFences raw.text) = .ok parsed ∧ lib.modelValidate schema parsed = .ok value ∧
      (grounding ≠ [] → groundingCheck lib grounding value = .ok true) := by
  obtain ⟨prompt, raw, -, hraw, hjudge⟩ := exists_output_of_attempt h nofun
  obtain ⟨parsed, hloads, hvalid, hcheck⟩ := of_judge_accepted hjudge
  exact ⟨prompt, raw, parsed, hraw, hloads, hvalid, hcheck⟩

/-- A value that is accepted is an instance of the schema. -/
theorem isInstance_of_attempt {errors : List String} {value : Obj}
    (h : attempt lib schema grounding messages answer errors = .accepted value) :
    lib.IsInstance schema value := by
  obtain ⟨_, _, _, -, -, hvalid, -⟩ := exists_output_of_accepted h
  exact lib.isInstance_of_validate hvalid

/-! ## One sequence -/

namespace Rejections

/-- Two lists of rejections of one length are the same. -/
theorem unique {errors errors' : List String}
    (h : Rejections lib schema grounding messages answer errors)
    (h' : Rejections lib schema grounding messages answer errors')
    (hlen : errors.length = errors'.length) : errors = errors' := by
  induction h generalizing errors' with
  | nil => exact (List.length_eq_zero_iff.mp hlen.symm).symm
  | @snoc errors error h hr ih =>
    cases h' with
    | nil =>
      rw [List.length_append, List.length_singleton, List.length_nil] at hlen
      omega
    | @snoc errors₂ error₂ h₂ hr₂ =>
      rw [List.length_append, List.length_append, List.length_singleton, List.length_singleton]
        at hlen
      have hsame := ih h₂ (by omega)
      rw [hsame, hr₂] at hr
      cases hr
      rw [hsame]

/-- Each rejection of a list was one of the attempt after those before it. -/
theorem exists_of_lt {errors : List String}
    (h : Rejections lib schema grounding messages answer errors) {n : Nat}
    (hlt : n < errors.length) :
    ∃ before error, Rejections lib schema grounding messages answer before ∧ before.length = n ∧
      attempt lib schema grounding messages answer before = .rejected error := by
  induction h with
  | nil => cases hlt
  | @snoc errors error h hr ih =>
    rw [List.length_append, List.length_singleton] at hlt
    rcases Nat.lt_succ_iff_lt_or_eq.mp hlt with hlt | rfl
    · exact ih hlt
    · exact ⟨errors, error, h, rfl, hr⟩

/-- Of two lists of rejections, the attempt after the shorter one was rejected. -/
theorem rejected_of_lt {errors errors' : List String}
    (h : Rejections lib schema grounding messages answer errors)
    (h' : Rejections lib schema grounding messages answer errors')
    (hlt : errors.length < errors'.length) :
    ∃ error, attempt lib schema grounding messages answer errors = .rejected error := by
  obtain ⟨before, error, hbefore, hlen, hr⟩ := h'.exists_of_lt hlt
  rw [hbefore.unique h hlen] at hr
  exact ⟨error, hr⟩

/-- Of two lists of rejections, the attempt after one of them was rejected, or they are the same. -/
theorem compare {errors errors' : List String}
    (h : Rejections lib schema grounding messages answer errors)
    (h' : Rejections lib schema grounding messages answer errors') :
    (∃ error, attempt lib schema grounding messages answer errors = .rejected error) ∨
      errors = errors' ∨
      ∃ error, attempt lib schema grounding messages answer errors' = .rejected error := by
  rcases Nat.lt_trichotomy errors.length errors'.length with hlt | hlen | hgt
  · exact .inl (h.rejected_of_lt h' hlt)
  · exact .inr (.inl (h.unique h' hlen))
  · exact .inr (.inr (h'.rejected_of_lt h hgt))

end Rejections

/-! ## A good end -/

section GoodEnd

variable (lib schema grounding messages answer)

/-- What it takes of `n` attempts: none raises, a value that is accepted can be dumped, and if all of
    them are rejected, the fallback is of the schema. -/
structure RepairsOk (n : Nat) (fallback : Obj) : Prop where
  no_raise {errors : List String} {exc : Exc}
    (h : Rejections lib schema grounding messages answer errors) (hlt : errors.length < n) :
    attempt lib schema grounding messages answer errors ≠ .raised exc
  dumps {errors : List String} {value : Obj}
    (h : Rejections lib schema grounding messages answer errors) (hlt : errors.length < n)
    (hr : attempt lib schema grounding messages answer errors = .accepted value) :
    ∃ data, lib.modelDump value = .ok data
  fallbackOk {errors : List String}
    (h : Rejections lib schema grounding messages answer errors) (hlen : errors.length = n) :
    lib.IsInstance schema fallback

end GoodEnd

/-- An end is good if it is a value that can be dumped, or the fallback is of the schema. -/
theorem RepairsEnd.ok_iff {n : Nat} {fallback : Obj} {outcome : Except Exc (StructuredOutcome Obj)}
    (hend : RepairsEnd lib schema grounding messages answer n outcome) :
    RepairsOk lib schema grounding messages answer n fallback ↔
      match outcome with
      | .error _ => False
      | .ok (.ok value) => ∃ data, lib.modelDump value = .ok data
      | .ok (.failed _ _) => lib.IsInstance schema fallback := by
  cases hend with
  | raised h hlt hr =>
    constructor
    · intro hok
      exact hok.no_raise h hlt hr
    · exact False.elim
  | @accepted errors value h hlt hr =>
    constructor
    · intro hok
      exact hok.dumps h hlt hr
    · intro hdata
      -- every other attempt that is made was rejected, and none is made after this one
      constructor
      · intro errors' exc h' _ hr'
        rcases h'.compare h with ⟨error, he⟩ | rfl | ⟨error, he⟩
        · exact absurd (he.symm.trans hr') (by simp)
        · exact absurd (hr.symm.trans hr') (by simp)
        · exact absurd (he.symm.trans hr) (by simp)
      · intro errors' value' h' _ hr'
        rcases h'.compare h with ⟨error, he⟩ | rfl | ⟨error, he⟩
        · exact absurd (he.symm.trans hr') (by simp)
        · cases hr.symm.trans hr'
          exact hdata
        · exact absurd (he.symm.trans hr) (by simp)
      · intro errors' h' hlen
        obtain ⟨error, he⟩ := h.rejected_of_lt h' (by omega)
        exact absurd (he.symm.trans hr) (by simp)
  | @exhausted errors h hlen =>
    constructor
    · intro hok
      exact hok.fallbackOk h hlen
    · intro hinst
      constructor
      · intro errors' exc h' hlt hr'
        obtain ⟨error, he⟩ := h'.rejected_of_lt h (by omega)
        exact absurd (he.symm.trans hr') (by simp)
      · intro errors' value' h' hlt hr'
        obtain ⟨error, he⟩ := h'.rejected_of_lt h (by omega)
        exact absurd (he.symm.trans hr') (by simp)
      · intro errors' _ _
        exact hinst

end Attempts

end RefundOps.Llm
