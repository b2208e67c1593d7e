import RefundOps.Foundation.Discovery

/-!
# Advertised and accepted capabilities

The life of one runtime: handlers are registered, it starts and stops serving, its card is
replaced, published and published again, and all the while requests arrive. What it refuses as
unsupported depends on `_capability_ids`, which `__init__` reads off the first card; what it
advertises is the card of the last publication that the broker took.

`refusedAsUnsupported_iff` says what is refused, whatever the handlers do, and `handling_of_mem` that
the capability ids of a run are those of the beginning. So the two agree on a request exactly when
the first card and the advertised one do (`advertised_is_accepted_iff`).
-/

set_option autoImplicit false

namespace RefundOps.Runtime

/-! ## Refusals -/

/-- The request was answered as one for a capability that is not supported, whether or not the
    answer arrived. -/
def RefusedAsUnsupported (os : List Obs) : Prop :=
  ∃ ev, (.resultPublished ev ∈ os ∨ .resultLost ev ∈ os) ∧
    ∃ e, ev.result.error = some e ∧ e.category = .unsupportedCapability

section Refusals

variable {answer : ∀ x, Reply x} {result : TaskResult} {o : Obs} {os : List Obs}

/-- Only a rejection names an unsupported capability. -/
theorem TaskResult.category_ne {r : TaskResult} (hs : r.status ≠ .rejected) {e : TaskError}
    (he : r.error = some e) : e.category ≠ .unsupportedCapability := by
  have hok := r.validateStatusFields
  unfold TaskResult.fieldsOk at hok
  cases hstatus : r.status with
  | completed =>
    rw [hstatus] at hok
    exact absurd (he.symm.trans hok.2) (by simp)
  | failed =>
    rw [hstatus] at hok
    obtain ⟨-, e', he', hcat⟩ := hok
    obtain rfl := Option.some.inj (he'.symm.trans he)
    rcases hcat with h | h <;> rw [h] <;> decide
  | rejected => exact absurd hstatus hs

/-- An observation that is no refusal. -/
def Obs.Harmless (o : Obs) : Prop :=
  ∀ ev, o = .resultPublished ev ∨ o = .resultLost ev → ev.result.status ≠ .rejected

theorem ResultSeen.harmless (h : ResultSeen answer result o) (hs : result.status ≠ .rejected) :
    o.Harmless := by
  intro ev hev
  cases h with
  | sent hresult _ | lost hresult _ =>
    rcases hev with hev | hev <;> cases hev
    rwa [hresult]

theorem AuditSeen.harmless {outcome : AuditOutcome} {taskId : Option UUID}
    (h : AuditSeen answer outcome taskId o) : o.Harmless := by
  intro ev hev
  cases h with
  | sent _ _ _ | lost _ _ _ => rcases hev with hev | hev <;> cases hev

theorem not_refused_of_harmless (h : ∀ o ∈ os, o.Harmless) : ¬ RefusedAsUnsupported os := by
  rintro ⟨ev, hev, e, he, hcat⟩
  rcases hev with hev | hev
  · exact TaskResult.category_ne (h _ hev ev (.inl rfl)) he hcat
  · exact TaskResult.category_ne (h _ hev ev (.inr rfl)) he hcat

/-- Running the handler and answering with its output or its exception is no refusal. -/
theorem Dispatched.harmless {req : TaskRequest} (h : Dispatched answer req os) :
    ∀ o ∈ os, o.Harmless := by
  have hcall : (Obs.handlerCalled req).Harmless := fun _ hev => by rcases hev with h | h <;> cases h
  have hmark : (Obs.markedProcessed req.taskId).Harmless :=
    fun _ hev => by rcases hev with h | h <;> cases h
  cases h with
  | completed _ hs ho ho' | failed _ hs ho ho' =>
    have hres := ho.harmless (by rw [hs]; decide)
    have haudit := ho'.harmless
    simp only [List.forall_mem_cons, List.not_mem_nil, false_implies, implies_true, and_true]
    exact ⟨hcall, hres, haudit, hmark⟩

/-- Nor is anything else that becomes of a supported request. -/
theorem Processed.harmless {rt : AgentRuntime} {req : TaskRequest}
    {tracker tracker' : LRUCache UUID} (h : Processed answer rt req tracker os tracker') :
    ∀ o ∈ os, o.Harmless := by
  cases h with
  | skipped _ ho =>
    intro o' ho'
    obtain rfl := List.mem_singleton.mp ho'
    exact ho.harmless
  | executed _ _ ho hos => exact List.forall_mem_cons.mpr ⟨ho.harmless, hos.harmless⟩
  | unhandled _ _ ho _ hs ho₁ ho₂ =>
    have hres := ho₁.harmless (by rw [hs]; decide)
    simp only [List.forall_mem_cons, List.not_mem_nil, false_implies, implies_true, and_true]
    exact ⟨ho.harmless, hres, ho₂.harmless⟩

end Refusals

section Handling

variable {Raw : Type} {codec : Codec Raw}

/-- The message is a request for this agent. -/
def Addressed (codec : Codec Raw) (agentId : String) (raw : Raw) (req : TaskRequest) : Prop :=
  ∃ envelope, codec.envelope raw = .ok envelope ∧ codec.taskRequest envelope.payload = .ok req ∧
    req.targetAgentId = agentId

/-- **What is refused is what the capability ids do not contain.** -/
theorem refusedAsUnsupported_iff {rt : AgentRuntime} {d : Delivery Raw} {req : TaskRequest}
    (h : Addressed codec rt.agentId d.raw req) (w : World) :
    RefusedAsUnsupported (deliver rt codec d w).1 ↔ req.capability ∉ rt.capabilityIds := by
  obtain ⟨envelope, henv, hreq, htarget⟩ := h
  have hmsg : handleMessage rt codec d.raw =
      if req.capability ∉ rt.capabilityIds then rejectCapability rt envelope req
      else process rt envelope req := by
    unfold handleMessage
    rw [henv]
    dsimp only
    rw [hreq]
    dsimp only
    rw [if_neg (by simp [htarget])]
  unfold deliver
  rw [hmsg]
  by_cases hcap : req.capability ∈ rt.capabilityIds
  · rw [if_neg (not_not.mpr hcap)]
    have hret : Coro.Returns d.answer (process rt envelope req) { w with now := d.now }
        fun _ os _ => ∀ o ∈ os, o.Harmless :=
      returns_process.mono fun _ _ _ hproc => hproc.harmless
    obtain ⟨_, os, w', hrun, hharmless⟩ := hret
    rw [hrun]
    exact iff_of_false (not_refused_of_harmless hharmless) (not_not.mpr hcap)
  · rw [if_pos hcap]
    refine iff_of_true ?_ hcap
    have hret : Coro.Returns d.answer (rejectCapability rt envelope req) { w with now := d.now }
        fun _ os _ => RefusedAsUnsupported os := by
      refine returns_settle ?_
      intro o o' w' ho _ _
      cases ho with
      | @sent ev hev _ =>
        exact ⟨ev, .inl (List.mem_cons_self ..), _, by rw [hev]; rfl, rfl⟩
      | @lost ev _ hev _ =>
        exact ⟨ev, .inr (List.mem_cons_self ..), _, by rw [hev]; rfl, rfl⟩
    obtain ⟨_, os, w', hrun, hrefused⟩ := hret
    rw [hrun]
    exact hrefused

end Handling

/-! ## The life of a runtime -/

/-- What can happen to a runtime; `sent` is whether the broker takes the card. -/
inductive HostEvent (Raw : Type) where
  /-- The decorator `handler`, which raises if the capability is not declared. -/
  | register (capabilityId : String)
  /-- `serve` opens its publisher and publishes the card. -/
  | serve (sent : Bool)
  | republishCard (card : Option AgentCard) (sent : Bool)
  /-- The interval of `_republish_card_loop` has elapsed. -/
  | interval (sent : Bool)
  /-- `serve` ends. -/
  | stop
  | deliver (d : Delivery Raw)

/-- A runtime with the card it published last and the state of its handling. -/
structure HostState where
  host : Host
  published : Option AgentCard
  world : World

/-- A message that was handled, and the card that was published last by then. -/
structure Handling (Raw : Type) where
  published : Option AgentCard
  delivery : Delivery Raw
  obs : List Obs

section Runs

variable {Raw : Type} (codec : Codec Raw)

/-- A publication that the broker took is the last one. -/
def HostState.publish (s : HostState) (record : Option CardRecord) (sent : Bool) : HostState :=
  match record with
  | some r => if sent then { s with published := some r.card } else s
  | none => s

def HostState.step (s : HostState) : HostEvent Raw → HostState
  | .register c =>
      match s.host.runtime.handler c with
      | .ok rt => { s with host := { s.host with runtime := rt } }
      | .error _ => s
  | .serve sent =>
      let s := { s with host := { s.host with serving := true } }
      s.publish (some s.host.publishCard) sent
  | .republishCard card sent =>
      let out := s.host.republishCard card
      { s with host := out.1 }.publish out.2 sent
  | .interval sent => s.publish (if s.host.serving then some s.host.publishCard else none) sent
  | .stop => { s with host := { s.host with serving := false } }
  | .deliver d => { s with world := (deliver s.host.runtime codec d s.world).2 }

/-- The messages handled in a run. -/
def handlings : List (HostEvent Raw) → HostState → List (Handling Raw)
  | [], _ => []
  | .deliver d :: es, s =>
      { published := s.published, delivery := d
        obs := (deliver s.host.runtime codec d s.world).1 } ::
        handlings es (s.step codec (.deliver d))
  | e :: es, s => handlings es (s.step codec e)

variable {codec}

@[simp] theorem HostState.publish_host (s : HostState) (record : Option CardRecord) (sent : Bool) :
    (s.publish record sent).host = s.host := by
  unfold HostState.publish
  split
  · split <;> rfl
  · rfl

/-- Nothing changes who the runtime is or what it declares. -/
theorem HostState.step_runtime (codec : Codec Raw) (s : HostState) (e : HostEvent Raw) :
    (s.step codec e).host.runtime.agentId = s.host.runtime.agentId ∧
      (s.step codec e).host.runtime.capabilityIds = s.host.runtime.capabilityIds := by
  cases e with
  | register c =>
    unfold HostState.step AgentRuntime.handler
    by_cases hc : c ∈ s.host.runtime.capabilityIds
    · simp [hc]
    · simp [hc]
  | serve sent => simp [HostState.step]
  | republishCard card sent => simp [HostState.step, Host.republishCard]
  | interval sent => simp [HostState.step]
  | stop => exact ⟨rfl, rfl⟩
  | deliver d => exact ⟨rfl, rfl⟩

/-- Every message of a run was handled with the capability ids of the beginning. -/
theorem handling_of_mem {es : List (HostEvent Raw)} {s : HostState} {h : Handling Raw}
    (hmem : h ∈ handlings codec es s) :
    ∃ (rt : AgentRuntime) (w : World), rt.agentId = s.host.runtime.agentId ∧
      rt.capabilityIds = s.host.runtime.capabilityIds ∧
      h.obs = (deliver rt codec h.delivery w).1 := by
  induction es generalizing s with
  | nil => exact absurd hmem List.not_mem_nil
  | cons e es ih =>
    have hrest : h ∈ handlings codec es (s.step codec e) →
        ∃ (rt : AgentRuntime) (w : World), rt.agentId = s.host.runtime.agentId ∧
          rt.capabilityIds = s.host.runtime.capabilityIds ∧
          h.obs = (deliver rt codec h.delivery w).1 := by
      intro hmem
      obtain ⟨rt, w, hid, hcaps, hobs⟩ := ih hmem
      obtain ⟨hid', hcaps'⟩ := HostState.step_runtime codec s e
      exact ⟨rt, w, hid.trans hid', hcaps.trans hcaps', hobs⟩
    cases e with
    | deliver d =>
      rcases List.mem_cons.mp hmem with rfl | hmem
      · exact ⟨s.host.runtime, s.world, rfl, rfl, rfl⟩
      · exact hrest hmem
    | register | serve | republishCard | interval | stop => exact hrest hmem

/-- The message is refused as unsupported exactly if the card that was published last does not
    have its capability. -/
def Handling.Honest (codec : Codec Raw) (agentId : String) (h : Handling Raw) : Prop :=
  ∀ req card, Addressed codec agentId h.delivery.raw req → h.published = some card →
    (RefusedAsUnsupported h.obs ↔ req.capability ∉ card.capabilities.map (·.id))

/-- The card that was published last has the capability of the message exactly if the first card
    has it. -/
def Handling.Current (codec : Codec Raw) (agentId : String) (first : AgentCard)
    (h : Handling Raw) : Prop :=
  ∀ req card, Addressed codec agentId h.delivery.raw req → h.published = some card →
    (req.capability ∈ first.capabilities.map (·.id) ↔
      req.capability ∈ card.capabilities.map (·.id))

/-- A runtime that was just made. -/
def HostState.init (agentId : String) (card : AgentCard) (w : World) : HostState :=
  { host := .init agentId card, published := none, world := w }

/-- **Advertised capabilities are the accepted ones exactly as long as the first card and the
    advertised card agree on what is asked for.** For every runtime and every sequence of card
    updates, publications and deliveries. -/
theorem advertised_is_accepted_iff (codec : Codec Raw) (agentId : String) (first : AgentCard)
    (w : World) (es : List (HostEvent Raw)) :
    (∀ h ∈ handlings codec es (.init agentId first w), h.Honest codec agentId) ↔
      ∀ h ∈ handlings codec es (.init agentId first w), h.Current codec agentId first := by
  refine forall_congr' fun h => forall_congr' fun hmem => ?_
  obtain ⟨rt, w', hid, hcaps, hobs⟩ := handling_of_mem hmem
  have hid : rt.agentId = agentId := hid
  have hcaps : rt.capabilityIds = first.capabilities.map (·.id) := hcaps
  unfold Handling.Honest Handling.Current
  refine forall_congr' fun req => forall_congr' fun card => forall_congr' fun haddr =>
    forall_congr' fun _ => ?_
  rw [hobs, refusedAsUnsupported_iff (hid ▸ haddr), hcaps]
  exact not_iff_not

end Runs

/-! ### A capability that was taken off the card -/

/-- The runtime serves, republishes a card with another capability, and is asked for the old
    one. -/
def withdrawnCapability : List (HostEvent Json) :=
  [.serve true,
    .republishCard (some { sampleCard with
      version := "2.0.0"
      capabilities := [{ id := "do.other", name := "Do Other", description := "Another" }] }) true,
    .deliver (sampleDelivery "00000000-0000-0000-0000-000000000002")]

/-- The request is not refused. -/
theorem withdrawn_capability_is_accepted :
    ¬ ∀ (codec : Codec Json) (agentId : String) (first : AgentCard) (w : World)
      (es : List (HostEvent Json)),
      ∀ h ∈ handlings codec es (.init agentId first w), h.Honest codec agentId := by
  intro hall
  have haddr : Addressed sampleCodec "test.runtime.agent"
      (sampleDelivery "00000000-0000-0000-0000-000000000002").raw
      { taskId := 7, capability := "do.something", requesterAgentId := "requester.agent"
        targetAgentId := "test.runtime.agent"
        input :=
          { role := .user
            parts := [{ type := .text, text := some "go", validateConditionalFields := rfl }]
            validatePartsNonempty := List.cons_ne_nil _ _ } } :=
    ⟨_, rfl, rfl, rfl⟩
  have hhonest := hall sampleCodec "test.runtime.agent" sampleCard (start 100) withdrawnCapability
    _ (List.mem_singleton_self _) _ _ haddr rfl
  have hrefused := hhonest.mpr (by decide)
  have haccepted : "do.something" ∈ sampleRuntime.capabilityIds := by decide
  have hiff := @refusedAsUnsupported_iff Json sampleCodec sampleRuntime _ _ haddr (start 100)
  exact hiff.mp hrefused haccepted

end RefundOps.Runtime
