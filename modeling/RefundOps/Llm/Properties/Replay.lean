import RefundOps.Lib.History
import RefundOps.Llm.Properties.Reasoning

/-!
# Replayed results

Two things make a replay safe: what the store serves under a key is what the last request with that
key was given by the model, and the key says enough about a request.

The first is an invariant of the store over a history of requests (`StoreOk`): every entry was put
there by the last of the turns before that got a value of the model under its key. The second holds of
what goes into the key: the correlation id, the kind of task and the text of the grounding inputs
(`idempotencyKey_eq_iff`), and of nothing else of the request.
-/

set_option autoImplicit false

namespace RefundOps.Llm

/-! ## What a step does to the store -/

section Store

variable {env : String} {S Obj : Type}

/-- A request that was not served from the store: it raised, or fell back, or filled the entry of its
    key. -/
inductive Asked (lib : Library S Obj) (key : String) (store : LRUMap String (AssistiveResult Json)) :
    World → Except Exc (AssistiveResult Obj) → Prop where
  | raised {w' : World} {exc : Exc} (hstore : w'.store = store) : Asked lib key store w' (.error exc)
  | fellBack {w' : World} {result : AssistiveResult Obj} (hstore : w'.store = store)
      (hpath : result.reasoningPath = .fallback) : Asked lib key store w' (.ok result)
  | filled {w' : World} {result : AssistiveResult Obj} {data : Json}
      (hpath : result.reasoningPath = .model) (hdump : lib.modelDump result.value = .ok data)
      (hstore : w'.store = store.put key { result with value := data }) :
      Asked lib key store w' (.ok result)

variable {lib : Library S Obj} {auditLib : AuditLibrary Obj} {rt : LLMRuntime}
  {request : AssistiveRequest S Obj} {answer : ∀ x : Request env, Reply x}

theorem fallbackResult_asked {reason : FailureReason} {promptRef : String} (w : World) :
    let out := ((fallbackResult lib auditLib rt request reason promptRef).runSync answer w).2
    Asked lib (request.idempotencyKey lib) w.store out.1 out.2 := by
  cases hf : request.fallback with
  | error exc =>
    unfold fallbackResult
    rw [hf]
    exact .raised rfl
  | ok value =>
    obtain ⟨result, seen, w', hrun, hstore, -, hpath⟩ :=
      @fallbackResult_returns env S Obj lib auditLib rt request answer w value reason promptRef hf
    rw [hrun]
    exact .fellBack hstore hpath

theorem produced_asked {raw : RawCompletion} {value : Obj} {promptRef : String} (w : World) :
    let out := ((produced lib auditLib rt request raw value promptRef).runSync answer w).2
    Asked lib (request.idempotencyKey lib) w.store out.1 out.2 := by
  cases hdump : lib.modelDump value with
  | error exc =>
    rw [produced_raises hdump]
    exact .raised rfl
  | ok data =>
    obtain ⟨result, seen, w', hrun, hvalue, hpath, hstore⟩ :=
      @produced_returns env S Obj lib auditLib rt request answer w raw value promptRef data hdump
    rw [hrun]
    rw [← hvalue] at hdump
    exact .filled hpath hdump hstore

theorem ask_asked (w : World) :
    let out := ((ask lib auditLib rt request).runSync answer w).2
    Asked lib (request.idempotencyKey lib) w.store out.1 out.2 := by
  have hends := @ask_ends env S Obj lib auditLib rt request answer w
  dsimp only
  generalize ((ask lib auditLib rt request).runSync answer w).2 = out at hends ⊢
  cases hends with
  | unrendered => exact .raised rfl
  | refused => exact fallbackResult_asked w
  | valid => exact produced_asked w
  | raised => exact .raised rfl
  | repaired => exact produced_asked w
  | exhausted => exact fallbackResult_asked w

/-- **All that a step can do**: serve the entry of its key, without a call of the provider, or ask. -/
theorem reason_cases (w : World) :
    let out := (reason lib auditLib rt request).runSync answer w
    let store := (w.store.get (request.idempotencyKey lib)).2
    (∃ stored result, w.store.get? (request.idempotencyKey lib) = some stored ∧
        out.2.2 = .ok result ∧ result.reasoningPath = .cache ∧
        result.value = lib.ofJson stored.value ∧ out.2.1.store = store ∧
        ∀ prompt, Obs.invoked prompt ∉ out.1) ∨
      Asked lib (request.idempotencyKey lib) store out.2.1 out.2.2 := by
  dsimp only
  rw [reason_runSync]
  cases w.store.get? (request.idempotencyKey lib) with
  | none => exact .inr (ask_asked { w with store := (w.store.get (request.idempotencyKey lib)).2 })
  | some stored =>
    dsimp only
    obtain ⟨result, seen, w', hrun, haside, hvalue, hpath⟩ :=
      @served_returns env S Obj lib auditLib rt request answer
        { w with store := (w.store.get (request.idempotencyKey lib)).2 }
        { stored with value := lib.ofJson stored.value }
    rw [hrun]
    exact .inl ⟨stored, result, rfl, rfl, hpath, hvalue, haside.1, haside.2⟩

end Store

/-! ## Histories -/

section Histories

variable {env : String} {S Obj : Type}

/-- A request, with the time and with what the outside answers. -/
structure Call (env : String) (S Obj : Type) where
  request : AssistiveRequest S Obj
  now : Time
  answer : ∀ x : Request env, Reply x

/-- What came of a request. -/
structure Turn (env : String) (S Obj : Type) where
  request : AssistiveRequest S Obj
  seen : List (Obs env)
  outcome : Except Exc (AssistiveResult Obj)

/-- A runtime with a new store. -/
def newWorld (nextId : UUID) : World where
  store := .empty 10000
  now := 0
  nextId

variable (lib : Library S Obj) (auditLib : AuditLibrary Obj) (rt : LLMRuntime)

def takeTurn (w : World) (call : Call env S Obj) : World × Turn env S Obj :=
  let out := (reason lib auditLib rt call.request).runSync call.answer { w with now := call.now }
  (out.2.1, { request := call.request, seen := out.1, outcome := out.2.2 })

/-- The requests one after the other. -/
def turns : World → List (Call env S Obj) → List (Turn env S Obj)
  | _, [] => []
  | w, call :: rest =>
      let out := takeTurn lib auditLib rt w call
      out.2 :: turns out.1 rest

/-- The turn got a value of the model under the key. -/
def Fills (key : String) (turn : Turn env S Obj) (result : AssistiveResult Obj) : Prop :=
  turn.request.idempotencyKey lib = key ∧ turn.outcome = .ok result ∧ result.reasoningPath = .model

/-- The last turn that got a value of the model under the key got `result`. -/
def LastFilled (key : String) (history : List (Turn env S Obj)) (result : AssistiveResult Obj) :
    Prop :=
  ∃ before filler after, history = before ++ filler :: after ∧ Fills lib key filler result ∧
    ∀ turn ∈ after, ∀ result', ¬ Fills lib key turn result'

/-- The value has this JSON form: it dumps to the data, or it is the data. -/
def HasJson (value : Obj) (data : Json) : Prop :=
  lib.modelDump value = .ok data ∨ value = lib.ofJson data

/-- A turn that was served from the store: there was no call of the provider, and the value has the
    JSON form of the one that the turn that filled the entry got. -/
def Replayed (history : List (Turn env S Obj)) (turn : Turn env S Obj) : Prop :=
  ∀ result, turn.outcome = .ok result → result.reasoningPath = .cache →
    (∀ prompt, Obs.invoked prompt ∉ turn.seen) ∧
    ∃ first data, LastFilled lib (turn.request.idempotencyKey lib) history first ∧
      lib.modelDump first.value = .ok data ∧ HasJson lib result.value data

/-- Every entry of the store is what the last turn that filled it got, dumped. -/
def StoreOk (history : List (Turn env S Obj)) (w : World) : Prop :=
  ∀ key stored, (key, stored) ∈ w.store.entries → ∃ first, LastFilled lib key history first ∧
    lib.modelDump first.value = .ok stored.value

variable {lib auditLib rt}

theorem LastFilled.snoc {key : String} {history : List (Turn env S Obj)}
    {result : AssistiveResult Obj} {turn : Turn env S Obj} (h : LastFilled lib key history result)
    (hnot : ∀ result', ¬ Fills lib key turn result') :
    LastFilled lib key (history ++ [turn]) result := by
  obtain ⟨before, filler, after, rfl, hfills, hlast⟩ := h
  refine ⟨before, filler, after ++ [turn], by simp, hfills, ?_⟩
  intro t ht
  rcases List.mem_append.mp ht with ht | ht
  · exact hlast t ht
  · rw [List.mem_singleton.mp ht]
    exact hnot

/-- A turn that looks its key up and fills nothing. -/
theorem StoreOk.snoc {history : List (Turn env S Obj)} {w w' : World} {turn : Turn env S Obj}
    {key : String} (h : StoreOk lib history w) (hstore : w'.store = (w.store.get key).2)
    (hnot : ∀ key result', ¬ Fills lib key turn result') : StoreOk lib (history ++ [turn]) w' := by
  intro key' stored he
  rw [hstore] at he
  obtain ⟨first, hfirst, hdump⟩ := h key' stored (LRUMap.mem_get.mp he)
  exact ⟨first, hfirst.snoc (hnot key'), hdump⟩

theorem not_fills_of_path {turn : Turn env S Obj} {result : AssistiveResult Obj}
    (houtcome : turn.outcome = .ok result) (hpath : result.reasoningPath ≠ .model) (key : String)
    (result' : AssistiveResult Obj) : ¬ Fills lib key turn result' := by
  rintro ⟨-, heq, hmodel⟩
  cases houtcome.symm.trans heq
  exact hpath hmodel

/-- One turn. -/
theorem StoreOk.takeTurn {history : List (Turn env S Obj)} {w : World} (h : StoreOk lib history w)
    (call : Call env S Obj) :
    StoreOk lib (history ++ [(takeTurn lib auditLib rt w call).2])
        (takeTurn lib auditLib rt w call).1 ∧
      Replayed lib history (takeTurn lib auditLib rt w call).2 := by
  have hcases := @reason_cases env S Obj lib auditLib rt call.request call.answer
    { w with now := call.now }
  unfold Llm.takeTurn
  generalize (reason lib auditLib rt call.request).runSync call.answer { w with now := call.now } =
    out at hcases ⊢
  obtain ⟨seen, w', outcome⟩ := out
  dsimp only at hcases ⊢
  rcases hcases with ⟨stored, result, hstored, rfl, hpath, hvalue, hstore, hquiet⟩ | hasked
  · -- served: the entry was there before, and the invariant says where it came from
    constructor
    · exact h.snoc hstore (not_fills_of_path rfl (by rw [hpath]; decide))
    · intro result' heq _
      cases heq
      obtain ⟨first, hfirst, hdump⟩ := h _ stored (LRUMap.get?_eq_some_iff.mp hstored)
      exact ⟨hquiet, first, stored.value, hfirst, hdump, .inr hvalue⟩
  · cases hasked with
    | raised hstore =>
      constructor
      · refine h.snoc hstore ?_
        rintro key result' ⟨-, heq, -⟩
        cases heq
      · intro result heq
        cases heq
    | fellBack hstore hpath =>
      constructor
      · exact h.snoc hstore (not_fills_of_path rfl (by rw [hpath]; decide))
      · intro result heq hcache
        cases heq
        rw [hpath] at hcache
        cases hcache
    | @filled result data hpath hdump hstore =>
      constructor
      · intro key stored he
        rw [hstore] at he
        rcases LRUMap.mem_put he with heq | ⟨hold, hne⟩
        · -- the entry of this turn
          cases heq
          exact ⟨result, ⟨history, _, [], rfl, ⟨rfl, rfl, hpath⟩, by simp⟩, hdump⟩
        · -- an older one, under another key
          obtain ⟨first, hfirst, hdump'⟩ := h key stored (LRUMap.mem_get.mp hold)
          refine ⟨first, hfirst.snoc ?_, hdump'⟩
          rintro result' ⟨hkey, -, -⟩
          exact hne hkey.symm
      · intro result' heq hcache
        cases heq
        rw [hpath] at hcache
        cases hcache

/-- **Every turn of a history that is served from the store is a replay** of the one that filled the
    entry. -/
theorem turns_replayed (calls : List (Call env S Obj)) {history : List (Turn env S Obj)} {w : World}
    (hstore : StoreOk lib history w) (hall : EachAfter (Replayed lib) history) :
    EachAfter (Replayed lib) (history ++ turns lib auditLib rt w calls) := by
  -- along the requests, with the turns so far as the history
  induction calls generalizing history w with
  | nil =>
    rw [turns, List.append_nil]
    exact hall
  | cons call rest ih =>
    obtain ⟨hnext, hturn⟩ := @StoreOk.takeTurn env S Obj lib auditLib rt history w hstore call
    have hsofar : EachAfter (Replayed lib)
        (history ++ [(takeTurn lib auditLib rt w call).2]) := hall.snoc hturn
    have hrest := ih hnext hsofar
    rw [List.append_assoc] at hrest
    exact hrest

end Histories

/-! ## Keys -/

/-- The kinds of task differ in their first letter. -/
theorem TaskKind.value_append_inj {kind₁ kind₂ : TaskKind} {rest₁ rest₂ : List Char}
    (h : kind₁.value.toList ++ rest₁ = kind₂.value.toList ++ rest₂) :
    kind₁ = kind₂ ∧ rest₁ = rest₂ := by
  have hne : ∀ kind : TaskKind, kind.value.toList ≠ [] := by
    intro kind
    cases kind <;> decide +kernel
  have hhead : kind₁.value.toList.head? = kind₂.value.toList.head? := by
    have hheads := congrArg List.head? h
    rwa [List.head?_append_of_ne_nil _ (hne kind₁), List.head?_append_of_ne_nil _ (hne kind₂)]
      at hheads
  have hkind : kind₁ = kind₂ := by
    cases kind₁ <;> cases kind₂ <;> first | rfl | exact absurd hhead (by decide +kernel)
  rw [hkind] at h
  exact ⟨hkind, List.append_cancel_left h⟩

section Keys

variable {S Obj : Type} {lib : Library S Obj} {request₁ request₂ : AssistiveRequest S Obj}

/-- The parts of a derived key can be told from it. -/
theorem derivedKey_inj (h : request₁.derivedKey lib = request₂.derivedKey lib) :
    request₁.correlationId = request₂.correlationId ∧ request₁.taskKind = request₂.taskKind ∧
      lib.digest (lib.dumpsGroundingSorted request₁.groundingInputs) =
        lib.digest (lib.dumpsGroundingSorted request₂.groundingInputs) := by
  have hlist := congrArg String.toList h
  unfold AssistiveRequest.derivedKey at hlist
  simp only [String.toList_append, List.append_assoc] at hlist
  have hlen : (uuidStr request₁.correlationId).toList.length =
      (uuidStr request₂.correlationId).toList.length := by
    rw [length_uuidStr, length_uuidStr]
  -- identifiers have one length and the kinds of task another letter each, so the key can be cut
  obtain ⟨hid, hrest⟩ := List.append_inj hlist hlen
  obtain ⟨hkind, hdigest⟩ := TaskKind.value_append_inj (List.append_cancel_left hrest)
  refine ⟨?_, hkind, ?_⟩
  · exact uuidStr_inj request₁.correlationIdOk request₂.correlationIdOk (String.toList_inj.mp hid)
  · exact String.toList_inj.mp (List.append_cancel_left hdigest)

/-- **What a derived key says about a request.** -/
theorem idempotencyKey_eq_iff (h₁ : request₁.suppliedKey = "") (h₂ : request₂.suppliedKey = "")
    (hdigest : lib.digest (lib.dumpsGroundingSorted request₁.groundingInputs) =
        lib.digest (lib.dumpsGroundingSorted request₂.groundingInputs) →
      lib.dumpsGroundingSorted request₁.groundingInputs =
        lib.dumpsGroundingSorted request₂.groundingInputs) :
    request₁.idempotencyKey lib = request₂.idempotencyKey lib ↔
      request₁.correlationId = request₂.correlationId ∧ request₁.taskKind = request₂.taskKind ∧
        lib.dumpsGroundingSorted request₁.groundingInputs =
          lib.dumpsGroundingSorted request₂.groundingInputs := by
  unfold AssistiveRequest.idempotencyKey
  rw [if_pos h₁, if_pos h₂]
  constructor
  · intro h
    obtain ⟨hid, hkind, hsame⟩ := derivedKey_inj h
    exact ⟨hid, hkind, hdigest hsame⟩
  · rintro ⟨hid, hkind, htext⟩
    unfold AssistiveRequest.derivedKey
    rw [hid, hkind, htext]

end Keys

/-! ## The store is a cache -/

/-- **Replays.** In every history of requests to a runtime, a request that is served from the store
    makes no call of the provider, and its value has the JSON form of the value that the last request
    with the same key to get one from the model was given. Two derived keys are the same exactly if
    the correlation id, the kind of task and the text of the grounding inputs are, when the digest
    does not collide on these. -/
theorem cache_replays_results {env : String} {S Obj : Type} (lib : Library S Obj)
    (auditLib : AuditLibrary Obj) (rt : LLMRuntime) :
    (∀ (nextId : UUID) (calls : List (Call env S Obj)),
        EachAfter (Replayed lib) (turns lib auditLib rt (newWorld nextId) calls)) ∧
      ∀ request₁ request₂ : AssistiveRequest S Obj,
        request₁.suppliedKey = "" → request₂.suppliedKey = "" →
        (lib.digest (lib.dumpsGroundingSorted request₁.groundingInputs) =
            lib.digest (lib.dumpsGroundingSorted request₂.groundingInputs) →
          lib.dumpsGroundingSorted request₁.groundingInputs =
            lib.dumpsGroundingSorted request₂.groundingInputs) →
        (request₁.idempotencyKey lib = request₂.idempotencyKey lib ↔
          request₁.correlationId = request₂.correlationId ∧ request₁.taskKind = request₂.taskKind ∧
            lib.dumpsGroundingSorted request₁.groundingInputs =
              lib.dumpsGroundingSorted request₂.groundingInputs) := by
  constructor
  · intro nextId calls
    have hstore : StoreOk lib ([] : List (Turn env S Obj)) (newWorld nextId) := by
      intro key stored he
      cases he
    exact turns_replayed calls hstore EachAfter.nil
  · intro request₁ request₂ h₁ h₂ hdigest
    exact idempotencyKey_eq_iff h₁ h₂ hdigest

/-- The sample request, to a provider that answers it. -/
def sampleCall (agentId : String) : Call "local" Unit SampleObj where
  request := sampleRequest agentId
  now := 0
  answer := sampleAnswer (.ok "\x7b\x7d")

/-- The path of each turn, and whether its value is an instance of a model. -/
def pathsOf (history : List (Turn "local" Unit SampleObj)) : List (Option (ReasoningPath × Bool)) :=
  history.map fun turn => turn.outcome.toOption.map fun result =>
    (result.reasoningPath, sampleAuditLibrary.isModel result.value)

/-- A request twice, of which the second is served from the store, and the keys of two requests. -/
theorem cache_replays_results_twice :
    EachAfter (Replayed sampleLibrary) (turns sampleLibrary sampleAuditLibrary sampleRuntime
        (newWorld 1) [sampleCall "test-agent", sampleCall "test-agent"]) ∧
      (pathsOf (turns sampleLibrary sampleAuditLibrary sampleRuntime (newWorld 1)
        [sampleCall "test-agent", sampleCall "test-agent"])).map (·.map Prod.fst) =
        [some .model, some .cache] ∧
      ((sampleRequest "billing-agent").idempotencyKey sampleLibrary =
          (sampleRequest "risk-agent").idempotencyKey sampleLibrary ↔
        (sampleRequest "billing-agent").correlationId = (sampleRequest "risk-agent").correlationId ∧
          (sampleRequest "billing-agent").taskKind = (sampleRequest "risk-agent").taskKind ∧
          sampleLibrary.dumpsGroundingSorted (sampleRequest "billing-agent").groundingInputs =
            sampleLibrary.dumpsGroundingSorted (sampleRequest "risk-agent").groundingInputs) := by
  refine ⟨?_, by decide +kernel, ?_⟩
  · exact (cache_replays_results sampleLibrary sampleAuditLibrary sampleRuntime).1 1 _
  · exact (@cache_replays_results "local" Unit SampleObj sampleLibrary sampleAuditLibrary
      sampleRuntime).2 _ _ rfl rfl fun _ => rfl

/-- **Requests of two agents share a key, and a replay loses the type of the value.** -/
theorem agents_share_a_key_and_replays_lose_the_type :
    ((sampleRequest "billing-agent").idempotencyKey sampleLibrary =
        (sampleRequest "risk-agent").idempotencyKey sampleLibrary ∧
      (sampleRequest "billing-agent").suppliedKey = "" ∧
      (sampleRequest "risk-agent").suppliedKey = "" ∧
      (sampleRequest "billing-agent").agentId ≠ (sampleRequest "risk-agent").agentId) ∧
    pathsOf (turns sampleLibrary sampleAuditLibrary sampleRuntime (newWorld 1)
      [sampleCall "test-agent", sampleCall "test-agent"]) =
      [some (.model, true), some (.cache, false)] := by
  refine ⟨⟨rfl, rfl, rfl, ?_⟩, by decide +kernel⟩
  decide

end RefundOps.Llm
