import RefundOps.Foundation.Task

/-!
# Tasks as JSON

`model_validate` of the models of `Task.lean`, on what a JSON parser returns, and `model_dump` of the
messages and errors that go into a result. pydantic reads a field of these models strictly: a `str` is
a string, a `Literal` one of its words, a field with a default may be missing or, if it is optional,
null, and with `extra="forbid"` there is no other key. The one reader that does more is that of UUIDs,
which has four spellings.

**`parseUuid_uuidStr`** and **`A2AMessage.modelValidate_modelDump`**: what is dumped is read back.
-/

set_option autoImplicit false

namespace RefundOps

/-! ## UUIDs -/

def hexValue (c : Char) : Option Nat :=
  if '0' ≤ c ∧ c ≤ '9' then some (c.toNat - '0'.toNat)
  else if 'a' ≤ c ∧ c ≤ 'f' then some (c.toNat - 'a'.toNat + 10)
  else if 'A' ≤ c ∧ c ≤ 'F' then some (c.toNat - 'A'.toNat + 10)
  else none

def readHex (cs : List Char) : Option Nat :=
  cs.foldlM (fun n c => (hexValue c).map (16 * n + ·)) 0

/-- The digits of the form in five groups. -/
def hyphenated (cs : List Char) : Option (List Char) :=
  if cs.length = 36 ∧ cs[8]? = some '-' ∧ cs[13]? = some '-' ∧ cs[18]? = some '-' ∧
      cs[23]? = some '-' then
    some (cs.take 8 ++ ((cs.drop 9).take 4 ++ ((cs.drop 14).take 4 ++ ((cs.drop 19).take 4 ++
      cs.drop 24))))
  else none

/-- A `UUID` field of a string: 32 digits, or the form in groups, bare, in braces or as a URN. -/
def parseUuid (s : String) : Option UUID :=
  let cs := s.toList
  if cs.length = 32 then readHex cs
  else if cs.length = 38 ∧ cs.head? = some '\x7b' ∧ cs.getLast? = some '\x7d' then
    (hyphenated (cs.drop 1).dropLast).bind readHex
  else if cs.length = 45 ∧ cs.take 9 = "urn:uuid:".toList then
    (hyphenated (cs.drop 9)).bind readHex
  else (hyphenated cs).bind readHex

theorem hexValue_digitChar {d : Nat} (h : d < 16) : hexValue (Nat.digitChar d) = some d := by
  have hall : ∀ d < 16, hexValue (Nat.digitChar d) = some d := by decide
  exact hall d h

theorem readHex_hexDigits (width n : Nat) : readHex (hexDigits width n) = some (n % 16 ^ width) := by
  induction width generalizing n with
  | zero =>
    rw [Nat.pow_zero, Nat.mod_one]
    rfl
  | succ width ih =>
    have hlow : n % 16 < 16 := Nat.mod_lt _ (by decide)
    have hval : 16 * (n / 16 % 16 ^ width) + n % 16 = n % 16 ^ (width + 1) := by
      rw [Nat.pow_succ, Nat.mul_comm (16 ^ width) 16, Nat.mod_mul]
      omega
    unfold readHex hexDigits
    rw [List.foldlM_append]
    change (readHex (hexDigits width (n / 16))).bind _ = _
    rw [ih, Option.bind_some]
    change ((hexValue (Nat.digitChar (n % 16))).map _).bind some = _
    rw [hexValue_digitChar hlow, Option.map_some, Option.bind_some, hval]

/-- The form in groups, read group by group. -/
theorem hyphenated_groups {g₁ g₂ g₃ g₄ g₅ : List Char} (h₁ : g₁.length = 8) (h₂ : g₂.length = 4)
    (h₃ : g₃.length = 4) (h₄ : g₄.length = 4) (h₅ : g₅.length = 12) :
    hyphenated (g₁ ++ '-' :: (g₂ ++ '-' :: (g₃ ++ '-' :: (g₄ ++ '-' :: g₅)))) =
      some (g₁ ++ (g₂ ++ (g₃ ++ (g₄ ++ g₅)))) := by
  unfold hyphenated
  simp [List.drop_append, List.take_append, h₁, h₂, h₃, h₄, h₅]
  simp (disch := omega) only [List.drop_eq_nil_of_le, List.take_nil, List.nil_append]

theorem hyphenated_uuidStr (u : UUID) : hyphenated (uuidStr u).toList = some (hexDigits 32 u) := by
  have hlen := length_hexDigits 32 u
  have hgroup : ∀ start len, start + len ≤ 32 →
      (((hexDigits 32 u).drop start).take len).length = len := by
    intro start len hle
    rw [List.length_take, List.length_drop, hlen]
    omega
  have hparts : (hexDigits 32 u).take (8 + (4 + (4 + (4 + 12)))) = hexDigits 32 u :=
    List.take_of_length_le (by omega)
  rw [List.take_add, List.take_add, List.take_add, List.take_add] at hparts
  simp only [List.drop_drop] at hparts
  have hwhole := hyphenated_groups (hgroup 0 8 (by decide)) (hgroup 8 4 (by decide))
    (hgroup 12 4 (by decide)) (hgroup 16 4 (by decide)) (hgroup 20 12 (by decide))
  rw [toList_uuidStr]
  exact hwhole.trans (congrArg some hparts)

/-- **A UUID is read back from its text.** -/
theorem parseUuid_uuidStr {u : UUID} (hu : u < 2 ^ 128) : parseUuid (uuidStr u) = some u := by
  have hlen := length_uuidStr u
  unfold parseUuid
  dsimp only
  rw [if_neg (by omega), if_neg (by omega), if_neg (by omega), hyphenated_uuidStr, Option.bind_some,
    readHex_hexDigits]
  have hpow : (16 : Nat) ^ 32 = 2 ^ 128 := by norm_num
  rw [hpow, Nat.mod_eq_of_lt hu]

/-! ## Fields -/

namespace Json

/-- `extra="forbid"`. -/
def onlyKeys (keys : List String) : Json → Bool
  | .obj kvs => kvs.all fun kv => keys.contains kv.1
  | _ => false

def asStr : Json → Option String
  | .str s => some s
  | _ => none

/-- A `dict[str, Any]`. -/
def asDict : Json → Option Json
  | .obj kvs => some (.obj kvs)
  | _ => none

def asList : Json → Option (List Json)
  | .arr xs => some xs
  | _ => none

def asUuid (j : Json) : Option UUID := j.asStr.bind parseUuid

theorem asUuid_str (s : String) : (Json.str s).asUuid = parseUuid s := rfl

def required {α : Type} (d : Json) (key : String) (read : Json → Option α) : Option α :=
  (d.get? key).bind read

/-- A field that is `None` by default. -/
def optional {α : Type} (d : Json) (key : String) (read : Json → Option α) : Option (Option α) :=
  match d.get? key with
  | none => some none
  | some .null => some none
  | some j => (read j).map some

end Json

/-! ## Messages -/

def PartType.value : PartType → String
  | .text => "text"
  | .data => "data"
  | .file => "file"

def PartType.ofValue : String → Option PartType
  | "text" => some .text
  | "data" => some .data
  | "file" => some .file
  | _ => none

def Role.value : Role → String
  | .user => "user"
  | .agent => "agent"

def Role.ofValue : String → Option Role
  | "user" => some .user
  | "agent" => some .agent
  | _ => none

/-- An `A2APart`, if the field its type asks for is there. -/
def A2APart.make (type : PartType) (text : Option String) (data : Option Json)
    (fileUri : Option String) : Option A2APart :=
  match type with
  | .text =>
    if h : text.isSome = true then
      some { type := .text, text, data, fileUri, validateConditionalFields := h }
    else none
  | .data =>
    if h : data.isSome = true then
      some { type := .data, text, data, fileUri, validateConditionalFields := h }
    else none
  | .file =>
    if h : fileUri.isSome = true then
      some { type := .file, text, data, fileUri, validateConditionalFields := h }
    else none

/-- `A2APart.model_validate`. -/
def A2APart.modelValidate (j : Json) : Option A2APart := do
  guard (j.onlyKeys ["type", "text", "data", "file_uri"])
  let type ← (j.required "type" Json.asStr).bind PartType.ofValue
  let text ← j.optional "text" Json.asStr
  let data ← j.optional "data" Json.asDict
  let fileUri ← j.optional "file_uri" Json.asStr
  A2APart.make type text data fileUri

/-- `A2AMessage.model_validate`. -/
def A2AMessage.modelValidate (j : Json) : Option A2AMessage := do
  guard (j.onlyKeys ["role", "parts", "task_id"])
  let role ← (j.required "role" Json.asStr).bind Role.ofValue
  let items ← j.required "parts" Json.asList
  let parts ← items.mapM A2APart.modelValidate
  let taskId ← j.optional "task_id" Json.asUuid
  if h : parts ≠ [] then some { role, parts, taskId, validatePartsNonempty := h } else none

def Json.ofStr? : Option String → Json
  | none => .null
  | some s => .str s

/-- `part.model_dump(mode="json")`. -/
def A2APart.modelDump (p : A2APart) : Json :=
  .obj [("type", .str p.type.value), ("text", Json.ofStr? p.text), ("data", p.data.getD .null),
    ("file_uri", Json.ofStr? p.fileUri)]

/-- `message.model_dump(mode="json")`. -/
def A2AMessage.modelDump (m : A2AMessage) : Json :=
  .obj [("role", .str m.role.value), ("parts", .arr (m.parts.map A2APart.modelDump)),
    ("task_id", Json.ofStr? (m.taskId.map uuidStr))]

/-- The data of a part is a dict, as the field says. -/
def A2APart.HoldsDict (p : A2APart) : Prop := ∀ d, p.data = some d → d.asDict = some d

theorem Json.optional_ofStr? {d : Json} {key : String} {s : Option String}
    (h : d.get? key = some (Json.ofStr? s)) : d.optional key Json.asStr = some s := by
  unfold Json.optional
  rw [h]
  cases s with
  | none => rfl
  | some s => rfl

theorem A2APart.make_self (p : A2APart) : A2APart.make p.type p.text p.data p.fileUri = some p := by
  obtain ⟨type, text, data, fileUri, hok⟩ := p
  cases type with
  | text => exact dif_pos hok
  | data => exact dif_pos hok
  | file => exact dif_pos hok

theorem PartType.ofValue_value (t : PartType) : PartType.ofValue t.value = some t := by
  cases t <;> rfl

theorem Role.ofValue_value (r : Role) : Role.ofValue r.value = some r := by
  cases r <;> rfl

theorem A2APart.modelValidate_modelDump {p : A2APart} (h : p.HoldsDict) :
    A2APart.modelValidate p.modelDump = some p := by
  have hkeys : p.modelDump.onlyKeys ["type", "text", "data", "file_uri"] = true := rfl
  have htype : (p.modelDump.required "type" Json.asStr).bind PartType.ofValue = some p.type :=
    PartType.ofValue_value p.type
  have htext : p.modelDump.optional "text" Json.asStr = some p.text := Json.optional_ofStr? rfl
  have hfile : p.modelDump.optional "file_uri" Json.asStr = some p.fileUri :=
    Json.optional_ofStr? rfl
  have hdata : p.modelDump.optional "data" Json.asDict = some p.data := by
    have hget : p.modelDump.get? "data" = some (p.data.getD .null) := rfl
    unfold Json.optional
    rw [hget]
    cases hd : p.data with
    | none => rfl
    | some d =>
      have hdict := h d hd
      rw [Option.getD_some]
      cases d with
      | obj kvs => rfl
      | null => cases hdict
      | bool b => cases hdict
      | num x => cases hdict
      | str s => cases hdict
      | arr xs => cases hdict
  unfold A2APart.modelValidate
  rw [hkeys, htype, htext, hdata, hfile]
  exact A2APart.make_self p

theorem mapM_modelValidate_modelDump {parts : List A2APart} (h : ∀ p ∈ parts, p.HoldsDict) :
    (parts.map A2APart.modelDump).mapM A2APart.modelValidate = some parts := by
  induction parts with
  | nil => rfl
  | cons p parts ih =>
    obtain ⟨hp, hrest⟩ := List.forall_mem_cons.mp h
    rw [List.map_cons, List.mapM_cons, A2APart.modelValidate_modelDump hp, ih hrest]
    rfl

/-- **A message is read back from its dump.** -/
theorem A2AMessage.modelValidate_modelDump {m : A2AMessage} (hparts : ∀ p ∈ m.parts, p.HoldsDict)
    (hid : ∀ u, m.taskId = some u → u < 2 ^ 128) :
    A2AMessage.modelValidate m.modelDump = some m := by
  have hkeys : m.modelDump.onlyKeys ["role", "parts", "task_id"] = true := rfl
  have hrole : (m.modelDump.required "role" Json.asStr).bind Role.ofValue = some m.role :=
    Role.ofValue_value m.role
  have hitems : m.modelDump.required "parts" Json.asList = some (m.parts.map A2APart.modelDump) :=
    rfl
  have htask : m.modelDump.optional "task_id" Json.asUuid = some m.taskId := by
    have hget : m.modelDump.get? "task_id" = some (Json.ofStr? (m.taskId.map uuidStr)) := rfl
    unfold Json.optional
    rw [hget]
    cases hu : m.taskId with
    | none => rfl
    | some u =>
      simp only [Option.map_some, Json.ofStr?, Json.asUuid_str, parseUuid_uuidStr (hid u hu)]
  unfold A2AMessage.modelValidate
  rw [hkeys, hrole, hitems, htask]
  simp only [guard, if_true, Option.pure_def, Option.bind_eq_bind, Option.bind_some,
    mapM_modelValidate_modelDump hparts]
  exact dif_pos m.validatePartsNonempty

/-! ## Requests and results -/

/-- `TaskRequest.model_validate`. -/
def TaskRequest.modelValidate (j : Json) : Option TaskRequest := do
  guard (j.onlyKeys ["task_id", "capability", "requester_agent_id", "target_agent_id", "input"])
  let taskId ← j.required "task_id" Json.asUuid
  let capability ← j.required "capability" Json.asStr
  let requesterAgentId ← j.required "requester_agent_id" Json.asStr
  let targetAgentId ← j.required "target_agent_id" Json.asStr
  let input ← j.required "input" A2AMessage.modelValidate
  pure { taskId, capability, requesterAgentId, targetAgentId, input }

/-- The wire value of a category. -/
def ErrorCategory.value : ErrorCategory → String
  | .validation => "validation"
  | .unsupportedCapability => "unsupported_capability"
  | .handlerError => "handler_error"
  | .duplicate => "duplicate"
  | .internal => "internal"

def ErrorCategory.ofValue : String → Option ErrorCategory
  | "validation" => some .validation
  | "unsupported_capability" => some .unsupportedCapability
  | "handler_error" => some .handlerError
  | "duplicate" => some .duplicate
  | "internal" => some .internal
  | _ => none

def TaskStatus.ofValue : String → Option TaskStatus
  | "completed" => some .completed
  | "failed" => some .failed
  | "rejected" => some .rejected
  | _ => none

/-- `TaskError.model_validate`. -/
def TaskError.modelValidate (j : Json) : Option TaskError := do
  guard (j.onlyKeys ["category", "message"])
  let category ← (j.required "category" Json.asStr).bind ErrorCategory.ofValue
  let message ← j.required "message" Json.asStr
  pure { category, message }

/-- `error.model_dump(mode="json")`. -/
def TaskError.modelDump (e : TaskError) : Json :=
  .obj [("category", .str e.category.value), ("message", .str e.message)]

theorem ErrorCategory.ofValue_value (c : ErrorCategory) : ErrorCategory.ofValue c.value = some c := by
  cases c <;> rfl

theorem TaskError.modelValidate_modelDump (e : TaskError) :
    TaskError.modelValidate e.modelDump = some e := by
  have hcategory : (e.modelDump.required "category" Json.asStr).bind ErrorCategory.ofValue =
      some e.category := ErrorCategory.ofValue_value e.category
  have hmessage : e.modelDump.required "message" Json.asStr = some e.message := rfl
  unfold TaskError.modelValidate
  rw [hcategory, hmessage]
  rfl

/-- `validate_status_fields`, as a check. -/
def TaskResult.checkFields (status : TaskStatus) (output : Option A2AMessage)
    (error : Option TaskError) : Bool :=
  match status, output, error with
  | .completed, some _, none => true
  | .failed, none, some e => e.category = .handlerError || e.category = .internal
  | .rejected, none, some e =>
    e.category = .validation || e.category = .unsupportedCapability || e.category = .duplicate
  | _, _, _ => false

theorem TaskResult.checkFields_iff {status : TaskStatus} {output : Option A2AMessage}
    {error : Option TaskError} :
    TaskResult.checkFields status output error = true ↔
      TaskResult.fieldsOk status output error := by
  unfold TaskResult.checkFields TaskResult.fieldsOk
  cases status <;> cases output <;> cases error <;> simp [or_assoc]

/-- `TaskResult.model_validate`. -/
def TaskResult.modelValidate (j : Json) : Option TaskResult := do
  guard (j.onlyKeys ["task_id", "status", "performer_agent_id", "output", "error"])
  let taskId ← j.required "task_id" Json.asUuid
  let status ← (j.required "status" Json.asStr).bind TaskStatus.ofValue
  let performerAgentId ← j.required "performer_agent_id" Json.asStr
  let output ← j.optional "output" A2AMessage.modelValidate
  let error ← j.optional "error" TaskError.modelValidate
  if h : TaskResult.checkFields status output error = true then
    some { taskId, status, performerAgentId, output, error
           validateStatusFields := TaskResult.checkFields_iff.mp h }
  else none

/-! ## What was validated -/

theorem A2AMessage.of_modelValidate {j : Json} {m : A2AMessage}
    (h : A2AMessage.modelValidate j = some m) :
    ∃ kvs items, j = .obj kvs ∧ j.get? "parts" = some (.arr items) ∧
      items.mapM A2APart.modelValidate = some m.parts := by
  unfold A2AMessage.modelValidate at h
  simp only [Option.bind_eq_bind, Option.bind_eq_some_iff] at h
  obtain ⟨_, _, role, _, items, hitems, parts, hparts, taskId, _, hm⟩ := h
  unfold Json.required at hitems
  obtain ⟨list, hget, hlist⟩ := Option.bind_eq_some_iff.mp hitems
  have harr : list = .arr items := by
    unfold Json.asList at hlist
    split at hlist
    · cases hlist
      rfl
    · cases hlist
  have hmparts : m.parts = parts := by
    split at hm
    · cases hm
      rfl
    · cases hm
  cases j with
  | obj kvs => exact ⟨kvs, items, rfl, harr ▸ hget, hmparts ▸ hparts⟩
  | null => cases hget
  | bool b => cases hget
  | num x => cases hget
  | str s => cases hget
  | arr xs => cases hget

theorem TaskRequest.of_modelValidate {j : Json} {req : TaskRequest}
    (h : TaskRequest.modelValidate j = some req) :
    (∃ kvs, j = .obj kvs) ∧ j.required "task_id" Json.asUuid = some req.taskId ∧
      j.required "input" A2AMessage.modelValidate = some req.input := by
  unfold TaskRequest.modelValidate at h
  simp only [Option.bind_eq_bind, Option.bind_eq_some_iff, Option.pure_def, Option.some.injEq] at h
  obtain ⟨_, _, taskId, hid, capability, _, requester, _, target, _, input, hinput, rfl⟩ := h
  refine ⟨?_, hid, hinput⟩
  cases j with
  | obj kvs => exact ⟨kvs, rfl⟩
  | null => cases hid
  | bool b => cases hid
  | num x => cases hid
  | str s => cases hid
  | arr xs => cases hid

end RefundOps
