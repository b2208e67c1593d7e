import RefundOps.Foundation.TaskJson

/-!
# Tasks on the wire

`model_dump(mode="json")` of a request and of a result, and what a reader makes of it. pydantic is
liberal with UUIDs and nothing else, so what it accepts need not be what it would write; but it is
*well formed* — its ids have 128 bits, its data is a dict — and what is well formed is read back as
it is. One dump is therefore a normal form, whatever the text was that was read first.
-/

set_option autoImplicit false

namespace RefundOps

/-! ## Identifiers that were read -/

theorem hexValue_lt {c : Char} {n : Nat} (h : hexValue c = some n) : n < 16 := by
  unfold hexValue at h
  split at h
  · rename_i hc
    obtain rfl := Option.some.inj h
    have hle : c.toNat ≤ '9'.toNat := hc.2
    simp only [show '9'.toNat = 57 from rfl, show '0'.toNat = 48 from rfl] at *
    omega
  split at h
  · rename_i hc
    obtain rfl := Option.some.inj h
    have hle : c.toNat ≤ 'f'.toNat := hc.2
    simp only [show 'f'.toNat = 102 from rfl, show 'a'.toNat = 97 from rfl] at *
    omega
  split at h
  · rename_i hc
    obtain rfl := Option.some.inj h
    have hle : c.toNat ≤ 'F'.toNat := hc.2
    simp only [show 'F'.toNat = 70 from rfl, show 'A'.toNat = 65 from rfl] at *
    omega
  · cases h

theorem foldlM_hex_lt {cs : List Char} {m n : Nat}
    (h : cs.foldlM (fun n c => (hexValue c).map (16 * n + ·)) m = some n) :
    n < (m + 1) * 16 ^ cs.length := by
  induction cs generalizing m with
  | nil =>
    obtain rfl := Option.some.inj h
    simp
  | cons c cs ih =>
    rw [List.foldlM_cons] at h
    obtain ⟨m', hm', hrest⟩ := Option.bind_eq_some_iff.mp h
    obtain ⟨d, hd, rfl⟩ := Option.map_eq_some_iff.mp hm'
    have hlt := hexValue_lt hd
    calc n < (16 * m + d + 1) * 16 ^ cs.length := ih hrest
      _ ≤ ((m + 1) * 16) * 16 ^ cs.length := Nat.mul_le_mul_right _ (by omega)
      _ = (m + 1) * 16 ^ (c :: cs).length := by
        rw [List.length_cons, Nat.pow_succ, Nat.mul_assoc, Nat.mul_comm 16]

theorem readHex_lt {cs : List Char} {n : Nat} (h : readHex cs = some n) : n < 16 ^ cs.length := by
  simpa using foldlM_hex_lt h

theorem length_of_hyphenated {cs ds : List Char} (h : hyphenated cs = some ds) : ds.length = 32 := by
  unfold hyphenated at h
  split at h
  · rename_i hc
    obtain rfl := Option.some.inj h
    simp only [List.length_append, List.length_take, List.length_drop]
    omega
  · cases h

/-- **Every spelling of a UUID has 128 bits.** -/
theorem parseUuid_lt {s : String} {u : UUID} (h : parseUuid s = some u) : u < 2 ^ 128 := by
  have hpow : (2 : Nat) ^ 128 = 16 ^ 32 := by norm_num
  have hgroups : ∀ cs : List Char, (hyphenated cs).bind readHex = some u → u < 16 ^ 32 := by
    intro cs h
    obtain ⟨ds, hds, hread⟩ := Option.bind_eq_some_iff.mp h
    rw [← length_of_hyphenated hds]
    exact readHex_lt hread
  rw [hpow]
  unfold parseUuid at h
  dsimp only at h
  split at h
  · rename_i hlen
    rw [← hlen]
    exact readHex_lt h
  split at h
  · exact hgroups _ h
  split at h
  · exact hgroups _ h
  · exact hgroups _ h

theorem Json.asUuid_lt {j : Json} {u : UUID} (h : j.asUuid = some u) : u < 2 ^ 128 := by
  obtain ⟨s, -, hs⟩ := Option.bind_eq_some_iff.mp h
  exact parseUuid_lt hs

/-! ## Well-formed values -/

def A2AMessage.OnWire (m : A2AMessage) : Prop :=
  (∀ p ∈ m.parts, p.HoldsDict) ∧ ∀ u, m.taskId = some u → u < 2 ^ 128

def TaskRequest.OnWire (req : TaskRequest) : Prop := req.taskId < 2 ^ 128 ∧ req.input.OnWire

def TaskResult.OnWire (r : TaskResult) : Prop :=
  r.taskId < 2 ^ 128 ∧ ∀ m, r.output = some m → m.OnWire

theorem Json.optional_eq_some {α : Type} {d : Json} {key : String} {read : Json → Option α} {a : α}
    (h : d.optional key read = some (some a)) : ∃ j, d.get? key = some j ∧ read j = some a := by
  unfold Json.optional at h
  split at h
  · cases h
  · cases h
  · rename_i j _ hj
    obtain ⟨b, hb, heq⟩ := Option.map_eq_some_iff.mp h
    exact ⟨j, hj, hb.trans heq⟩

theorem A2APart.holdsDict_of_modelValidate {j : Json} {p : A2APart}
    (h : A2APart.modelValidate j = some p) : p.HoldsDict := by
  unfold A2APart.modelValidate at h
  simp only [Option.bind_eq_bind, Option.bind_eq_some_iff] at h
  obtain ⟨_, -, type, -, text, -, data, hdata, fileUri, -, hmake⟩ := h
  have hp : p.data = data := by
    unfold A2APart.make at hmake
    split at hmake <;> split at hmake <;> cases hmake <;> rfl
  intro d hd
  rw [hp] at hd
  subst hd
  obtain ⟨j', -, hdict⟩ := Json.optional_eq_some hdata
  unfold Json.asDict at hdict
  split at hdict
  · cases hdict
    rfl
  · cases hdict

theorem holdsDict_of_mapM {items : List Json} {parts : List A2APart}
    (h : items.mapM A2APart.modelValidate = some parts) : ∀ p ∈ parts, p.HoldsDict := by
  induction items generalizing parts with
  | nil =>
    cases h
    simp
  | cons item items ih =>
    simp only [List.mapM_cons, Option.bind_eq_bind, Option.bind_eq_some_iff, Option.pure_def,
      Option.some.injEq] at h
    obtain ⟨p, hp, rest, hrest, rfl⟩ := h
    exact List.forall_mem_cons.mpr ⟨A2APart.holdsDict_of_modelValidate hp, ih hrest⟩

theorem A2AMessage.onWire_of_modelValidate {j : Json} {m : A2AMessage}
    (h : A2AMessage.modelValidate j = some m) : m.OnWire := by
  unfold A2AMessage.modelValidate at h
  simp only [Option.bind_eq_bind, Option.bind_eq_some_iff] at h
  obtain ⟨_, -, role, -, items, -, parts, hparts, taskId, htask, hm⟩ := h
  split at hm
  · obtain rfl := Option.some.inj hm
    refine ⟨holdsDict_of_mapM hparts, ?_⟩
    intro u hu
    have hu' : taskId = some u := hu
    subst hu'
    obtain ⟨j', -, hj'⟩ := Json.optional_eq_some htask
    exact Json.asUuid_lt hj'
  · cases hm

theorem TaskRequest.onWire_of_modelValidate {j : Json} {req : TaskRequest}
    (h : TaskRequest.modelValidate j = some req) : req.OnWire := by
  obtain ⟨-, hid, hinput⟩ := TaskRequest.of_modelValidate h
  obtain ⟨_, -, hid⟩ := Option.bind_eq_some_iff.mp hid
  obtain ⟨_, -, hinput⟩ := Option.bind_eq_some_iff.mp hinput
  exact ⟨Json.asUuid_lt hid, A2AMessage.onWire_of_modelValidate hinput⟩

theorem TaskResult.onWire_of_modelValidate {j : Json} {r : TaskResult}
    (h : TaskResult.modelValidate j = some r) : r.OnWire := by
  unfold TaskResult.modelValidate at h
  simp only [Option.bind_eq_bind, Option.bind_eq_some_iff] at h
  obtain ⟨_, -, taskId, hid, status, -, performer, -, output, houtput, error, -, hr⟩ := h
  split at hr
  · obtain rfl := Option.some.inj hr
    obtain ⟨_, -, hid⟩ := Option.bind_eq_some_iff.mp hid
    refine ⟨Json.asUuid_lt hid, ?_⟩
    intro m hm
    have hm' : output = some m := hm
    subst hm'
    obtain ⟨_, -, hread⟩ := Json.optional_eq_some houtput
    exact A2AMessage.onWire_of_modelValidate hread
  · cases hr

/-! ## Dumps -/

/-- `request.model_dump(mode="json")`. -/
def TaskRequest.modelDump (req : TaskRequest) : Json :=
  .obj [("task_id", .str (uuidStr req.taskId)), ("capability", .str req.capability),
    ("requester_agent_id", .str req.requesterAgentId),
    ("target_agent_id", .str req.targetAgentId), ("input", req.input.modelDump)]

/-- `result.model_dump(mode="json")`. -/
def TaskResult.modelDump (r : TaskResult) : Json :=
  .obj [("task_id", .str (uuidStr r.taskId)), ("status", .str r.status.value),
    ("performer_agent_id", .str r.performerAgentId),
    ("output", (r.output.map A2AMessage.modelDump).getD .null),
    ("error", (r.error.map TaskError.modelDump).getD .null)]

/-- A field that is `None`, or is dumped by its own model. -/
theorem Json.optional_dump {α : Type} {d : Json} {key : String} {read : Json → Option α}
    {dump : α → Json} {v : Option α} (hget : d.get? key = some ((v.map dump).getD .null))
    (hread : ∀ a, v = some a → read (dump a) = some a) (hnull : read .null = none) :
    d.optional key read = some v := by
  unfold Json.optional
  rw [hget]
  cases v with
  | none => rfl
  | some a =>
    have ha := hread a rfl
    rw [Option.map_some, Option.getD_some]
    split
    · rename_i heq
      cases heq
    · rename_i heq
      rw [Option.some.inj heq, hnull] at ha
      cases ha
    · rename_i heq
      rw [← Option.some.inj heq, ha]
      rfl

/-- The id of a task, as it is dumped. -/
theorem Json.required_taskId {d : Json} {u : UUID} (hget : d.get? "task_id" = some (.str (uuidStr u)))
    (hu : u < 2 ^ 128) : d.required "task_id" Json.asUuid = some u := by
  unfold Json.required
  rw [hget, Option.bind_some, Json.asUuid_str, parseUuid_uuidStr hu]

theorem TaskStatus.ofValue_value (s : TaskStatus) : TaskStatus.ofValue s.value = some s := by
  cases s <;> rfl

/-- **A request is read back from its dump.** -/
theorem TaskRequest.modelValidate_modelDump {req : TaskRequest} (h : req.OnWire) :
    TaskRequest.modelValidate req.modelDump = some req := by
  have hkeys : req.modelDump.onlyKeys
      ["task_id", "capability", "requester_agent_id", "target_agent_id", "input"] = true := rfl
  have hid := Json.required_taskId (d := req.modelDump) rfl h.1
  have hcapability : req.modelDump.required "capability" Json.asStr = some req.capability := rfl
  have hrequester : req.modelDump.required "requester_agent_id" Json.asStr =
      some req.requesterAgentId := rfl
  have htarget : req.modelDump.required "target_agent_id" Json.asStr = some req.targetAgentId := rfl
  have hinput : req.modelDump.required "input" A2AMessage.modelValidate = some req.input :=
    A2AMessage.modelValidate_modelDump h.2.1 h.2.2
  unfold TaskRequest.modelValidate
  rw [hkeys, hid, hcapability, hrequester, htarget, hinput]
  rfl

/-- **A result is read back from its dump.** -/
theorem TaskResult.modelValidate_modelDump {r : TaskResult} (h : r.OnWire) :
    TaskResult.modelValidate r.modelDump = some r := by
  have hkeys : r.modelDump.onlyKeys
      ["task_id", "status", "performer_agent_id", "output", "error"] = true := rfl
  have hid := Json.required_taskId (d := r.modelDump) rfl h.1
  have hstatus : (r.modelDump.required "status" Json.asStr).bind TaskStatus.ofValue =
      some r.status := TaskStatus.ofValue_value r.status
  have hperformer : r.modelDump.required "performer_agent_id" Json.asStr =
      some r.performerAgentId := rfl
  have houtput : r.modelDump.optional "output" A2AMessage.modelValidate = some r.output :=
    Json.optional_dump rfl
      (fun m hm => A2AMessage.modelValidate_modelDump (h.2 m hm).1 (h.2 m hm).2) rfl
  have herror : r.modelDump.optional "error" TaskError.modelValidate = some r.error :=
    Json.optional_dump rfl (fun e _ => TaskError.modelValidate_modelDump e) rfl
  unfold TaskResult.modelValidate
  rw [hkeys, hid, hstatus, hperformer, houtput, herror]
  exact dif_pos (TaskResult.checkFields_iff.mpr r.validateStatusFields)

/-- **A dump is a normal form.** Whatever JSON is accepted as a request or as a result, in whichever
    spelling of its ids and with whichever fields left out, its dump is accepted as the same. -/
theorem task_dump_is_normal_form :
    (∀ j req, TaskRequest.modelValidate j = some req →
      TaskRequest.modelValidate req.modelDump = some req) ∧
    ∀ j r, TaskResult.modelValidate j = some r →
      TaskResult.modelValidate r.modelDump = some r :=
  ⟨fun _ _ h => TaskRequest.modelValidate_modelDump (TaskRequest.onWire_of_modelValidate h),
    fun _ _ h => TaskResult.modelValidate_modelDump (TaskResult.onWire_of_modelValidate h)⟩

end RefundOps
