import RefundOps.Contracts.Base
import RefundOps.Lib.PatternLanguage
import RefundOps.Lib.Substitution

/-!
# Redaction

`redact_text` takes e-mail addresses, card numbers, social security numbers, phone numbers and long
runs of digits out of a text, by five substitutions one after another; `Redactor.scrub` does it to
every string of a JSON value. What is a letter or a number past ASCII decides where Python sees a word
boundary, and nothing else here; it is a parameter (`alnum`), and what is shown holds whatever it is.

The substitutions do not get in each other's way (`patterns_compatible`): a marker is in square
brackets, which no pattern has, and holds neither a digit nor an `@`. The two recursions over values,
of `scrub` and of the helper it hands dictionaries to, both come to a map over the strings
(`Json.mapStrings`), which leaves the rest as it is.
-/

set_option autoImplicit false

namespace RefundOps

/-! ## The strings of a value -/

namespace Json

mutual

/-- `f` of every string that is a value. -/
def mapStrings (f : String → String) : Json → Json
  | .str s => .str (f s)
  | .arr xs => .arr (mapItems f xs)
  | .obj kvs => .obj (mapFields f kvs)
  | .null => .null
  | .bool b => .bool b
  | .num x => .num x

def mapItems (f : String → String) : List Json → List Json
  | [] => []
  | v :: rest => mapStrings f v :: mapItems f rest

def mapFields (f : String → String) : List (String × Json) → List (String × Json)
  | [] => []
  | (k, v) :: rest => (k, mapStrings f v) :: mapFields f rest

end

mutual

/-- The strings that are values, in order. -/
def strings : Json → List String
  | .str s => [s]
  | .arr xs => itemStrings xs
  | .obj kvs => fieldStrings kvs
  | _ => []

def itemStrings : List Json → List String
  | [] => []
  | v :: rest => strings v ++ itemStrings rest

def fieldStrings : List (String × Json) → List String
  | [] => []
  | (_, v) :: rest => strings v ++ fieldStrings rest

end

/-- A value but for its strings: the objects with their keys, the lists, and the other leaves. -/
def shape : Json → Json := mapStrings fun _ => ""

mutual

theorem strings_mapStrings (f : String → String) (v : Json) :
    (v.mapStrings f).strings = v.strings.map f := by
  match v with
  | .str s => rfl
  | .arr xs => exact strings_mapItems f xs
  | .obj kvs => exact strings_mapFields f kvs
  | .null => rfl
  | .bool b => rfl
  | .num x => rfl

theorem strings_mapItems (f : String → String) (xs : List Json) :
    itemStrings (mapItems f xs) = (itemStrings xs).map f := by
  match xs with
  | [] => rfl
  | v :: rest =>
    unfold mapItems itemStrings
    rw [strings_mapStrings f v, strings_mapItems f rest, List.map_append]

theorem strings_mapFields (f : String → String) (kvs : List (String × Json)) :
    fieldStrings (mapFields f kvs) = (fieldStrings kvs).map f := by
  match kvs with
  | [] => rfl
  | (k, v) :: rest =>
    unfold mapFields fieldStrings
    rw [strings_mapStrings f v, strings_mapFields f rest, List.map_append]

end

mutual

/-- One map after another is the map of the one after the other. -/
theorem mapStrings_mapStrings (f g : String → String) (v : Json) :
    (v.mapStrings f).mapStrings g = v.mapStrings fun s => g (f s) := by
  match v with
  | .str s => rfl
  | .arr xs => exact congrArg arr (mapItems_mapItems f g xs)
  | .obj kvs => exact congrArg obj (mapFields_mapFields f g kvs)
  | .null => rfl
  | .bool b => rfl
  | .num x => rfl

theorem mapItems_mapItems (f g : String → String) (xs : List Json) :
    mapItems g (mapItems f xs) = mapItems (fun s => g (f s)) xs := by
  match xs with
  | [] => rfl
  | v :: rest =>
    have hv := mapStrings_mapStrings f g v
    have hrest := mapItems_mapItems f g rest
    exact congrArg₂ List.cons hv hrest

theorem mapFields_mapFields (f g : String → String) (kvs : List (String × Json)) :
    mapFields g (mapFields f kvs) = mapFields (fun s => g (f s)) kvs := by
  match kvs with
  | [] => rfl
  | (k, v) :: rest =>
    have hv := mapStrings_mapStrings f g v
    have hrest := mapFields_mapFields f g rest
    exact congrArg₂ List.cons (congrArg (Prod.mk k) hv) hrest

end

mutual

/-- A map that changes none of the strings. -/
theorem mapStrings_eq_self {f : String → String} {v : Json} (h : ∀ s ∈ v.strings, f s = s) :
    v.mapStrings f = v := by
  match v with
  | .str s => exact congrArg str (h s List.mem_cons_self)
  | .arr xs => exact congrArg arr (mapItems_eq_self h)
  | .obj kvs => exact congrArg obj (mapFields_eq_self h)
  | .null => rfl
  | .bool b => rfl
  | .num x => rfl

theorem mapItems_eq_self {f : String → String} {xs : List Json} (h : ∀ s ∈ itemStrings xs, f s = s) :
    mapItems f xs = xs := by
  match xs with
  | [] => rfl
  | v :: rest =>
    obtain ⟨hfirst, hlater⟩ := List.forall_mem_append.mp h
    have hv := mapStrings_eq_self hfirst
    have hrest := mapItems_eq_self hlater
    exact congrArg₂ List.cons hv hrest

theorem mapFields_eq_self {f : String → String} {kvs : List (String × Json)}
    (h : ∀ s ∈ fieldStrings kvs, f s = s) : mapFields f kvs = kvs := by
  match kvs with
  | [] => rfl
  | (k, v) :: rest =>
    obtain ⟨hfirst, hlater⟩ := List.forall_mem_append.mp h
    have hv := mapStrings_eq_self hfirst
    have hrest := mapFields_eq_self hlater
    exact congrArg₂ List.cons (congrArg (Prod.mk k) hv) hrest

end

theorem mapStrings_eq_self_iff {f : String → String} {v : Json} :
    v.mapStrings f = v ↔ ∀ s ∈ v.strings, f s = s := by
  constructor
  · intro h s hs
    have hstrings := strings_mapStrings f v
    rw [h] at hstrings
    have hmap : v.strings.map f = v.strings.map id := by rw [← hstrings, List.map_id]
    exact List.map_inj_left.mp hmap s hs
  · exact mapStrings_eq_self

/-- A map over the strings changes nothing else. -/
theorem shape_mapStrings (f : String → String) (v : Json) : (v.mapStrings f).shape = v.shape :=
  mapStrings_mapStrings f (fun _ => "") v

end Json

namespace Llm

open Substitution (Regex Pattern Rule Marker Found applyAll)

/-! ## The patterns -/

/-- `[a-zA-Z0-9]`. -/
def isAlphanumeric (c : Char) : Bool :=
  decide ('a' ≤ c ∧ c ≤ 'z') || decide ('A' ≤ c ∧ c ≤ 'Z') || decide ('0' ≤ c ∧ c ≤ '9')

/-- `\w`. -/
def isWord (alnum : Char → Bool) (c : Char) : Bool :=
  if c.toNat < 128 then isAlphanumeric c || c == '_' else alnum c

/-- `\d`. -/
def digit : Regex Char := .one fun c => decide (Pattern.IsDecimal c)

def sign (c : Char) : Regex Char := .one (· == c)

/-- One of some signs, or a space if `\s` is among them. -/
def separator (signs : List Char) : Regex Char := .one fun c => signs.contains c || Text.isSpace c

/-- One or more letters, digits and signs. -/
def nameOf (signs : List Char) : Regex Char := .many fun c => isAlphanumeric c || signs.contains c

/-- `[a-zA-Z0-9_.+-]+@[a-zA-Z0-9-]+\.[a-zA-Z0-9-.]+`. -/
def emailExpr : Regex Char :=
  .cat [nameOf ['_', '.', '+', '-'], sign '@', nameOf ['-'], sign '.', nameOf ['-', '.']]

/-- `\b(?:\d{4}[-\s]?){3}\d{4}\b`. -/
def panExpr : Regex Char :=
  .delimited (.cat [.rep (.cat [.rep digit 4, .opt (separator ['-'])]) 3, .rep digit 4])

/-- `\b\d{3}-\d{2}-\d{4}\b`. -/
def ssnExpr : Regex Char :=
  .delimited (.cat [.rep digit 3, sign '-', .rep digit 2, sign '-', .rep digit 4])

/-- `\b(?:\+?1[-.\s]?)?(?:\(?\d{3}\)?[-.\s]?)?\d{3}[-.\s]?\d{4}\b`. -/
def phoneExpr : Regex Char :=
  .delimited (.cat [
    .opt (.cat [.opt (sign '+'), sign '1', .opt (separator ['-', '.'])]),
    .opt (.cat [.opt (sign '('), .rep digit 3, .opt (sign ')'), .opt (separator ['-', '.'])]),
    .rep digit 3, .opt (separator ['-', '.']), .rep digit 4])

/-- `\b\d{8,}\b`. -/
def longDigitsExpr : Regex Char :=
  .delimited (.cat [.rep digit 7, .many fun c => decide (Pattern.IsDecimal c)])

theorem emailExpr_proper : emailExpr.obliges [] = true := rfl

theorem panExpr_proper : panExpr.obliges [] = true := rfl

theorem ssnExpr_proper : ssnExpr.obliges [] = true := rfl

theorem phoneExpr_proper : phoneExpr.obliges [] = true := rfl

theorem longDigitsExpr_proper : longDigitsExpr.obliges [] = true := rfl

/-- `[NAME]`. -/
def placeholder (name : String) : Marker Char where
  left := '['
  inside := name.toList
  right := ']'

/-- `_PATTERNS`. -/
def patterns : List (Rule Char) :=
  [⟨⟨emailExpr, emailExpr_proper⟩, placeholder "REDACTED_EMAIL"⟩,
   ⟨⟨panExpr, panExpr_proper⟩, placeholder "REDACTED_CARD"⟩,
   ⟨⟨ssnExpr, ssnExpr_proper⟩, placeholder "REDACTED_SSN"⟩,
   ⟨⟨phoneExpr, phoneExpr_proper⟩, placeholder "REDACTED_PHONE"⟩,
   ⟨⟨longDigitsExpr, longDigitsExpr_proper⟩, placeholder "REDACTED_NUMBER"⟩]

theorem placeholders_foreign : ∀ r ∈ patterns, ∀ r' ∈ patterns, r'.marker.Foreign r.pattern := by
  decide +kernel

/-- Every pattern after the first asks for word boundaries around its matches. -/
theorem delimited_of_mem_tail : ∀ r ∈ patterns.tail, ∃ p, r.pattern.expr = Regex.delimited p :=
  List.forall_mem_cons.mpr ⟨⟨_, rfl⟩, List.forall_mem_cons.mpr ⟨⟨_, rfl⟩,
    List.forall_mem_cons.mpr ⟨⟨_, rfl⟩, List.forall_mem_singleton.mpr ⟨_, rfl⟩⟩⟩⟩

/-- **The five substitutions do not get in each other's way.** -/
theorem patterns_compatible : Rule.Compatible patterns := by
  have hlater : ∀ r ∈ patterns, ∀ r' ∈ patterns.tail, r'.Keeps r := by
    intro r hr r' hr'
    exact ⟨placeholders_foreign r hr r' (List.mem_of_mem_tail hr'),
      Or.inr (delimited_of_mem_tail r' hr')⟩
  have hcons : patterns = patterns.head (List.cons_ne_nil _ _) :: patterns.tail := rfl
  constructor
  · intro r hr
    refine ⟨placeholders_foreign r hr r hr, ?_⟩
    rw [hcons] at hr
    rcases List.mem_cons.mp hr with rfl | hr
    · exact Or.inl rfl
    · exact Or.inr (delimited_of_mem_tail r hr)
  · rw [hcons]
    refine List.pairwise_cons.mpr ⟨?_, ?_⟩
    · exact hlater _ (List.head_mem _)
    · exact List.pairwise_of_forall_mem_list fun r hr => hlater r (List.mem_of_mem_tail hr)

/-! ## The code -/

section Redactor

variable (alnum : Char → Bool)

/-- `redact_text`. -/
def redactText (text : String) : String :=
  String.ofList (applyAll (isWord alnum) patterns text.toList)

example : redactText (fun _ => false) "Call (555) 123-4567, or mail a.b@example.com." =
    "Call ([REDACTED_PHONE], or mail [REDACTED_EMAIL]" := by decide +kernel

mutual

/-- `redact_mapping`. -/
def redactMapping : List (String × Json) → List (String × Json)
  | [] => []
  | (k, v) :: rest => (k, redactValue v) :: redactMapping rest

/-- `_redact_value`. -/
def redactValue : Json → Json
  | .str s => .str (redactText alnum s)
  | .obj kvs => .obj (redactMapping kvs)
  | .arr xs => .arr (redactItems xs)
  | v => v

def redactItems : List Json → List Json
  | [] => []
  | v :: rest => redactValue v :: redactItems rest

end

structure Redactor where
  enabled : Bool

mutual

/-- `Redactor.scrub`. -/
def Redactor.scrub (r : Redactor) (value : Json) : Json :=
  if r.enabled then
    match value with
    | .str s => .str (redactText alnum s)
    | .obj kvs => .obj (redactMapping alnum kvs)
    | .arr xs => .arr (Redactor.scrubItems r xs)
    | v => v
  else value

def Redactor.scrubItems (r : Redactor) : List Json → List Json
  | [] => []
  | item :: rest => Redactor.scrub r item :: Redactor.scrubItems r rest

end

/-! ## Both recursions are a map over the strings -/

mutual

theorem redactValue_eq (v : Json) : redactValue alnum v = v.mapStrings (redactText alnum) := by
  match v with
  | .str s => rfl
  | .arr xs => exact congrArg Json.arr (redactItems_eq xs)
  | .obj kvs => exact congrArg Json.obj (redactMapping_eq kvs)
  | .null => rfl
  | .bool b => rfl
  | .num x => rfl

theorem redactItems_eq (xs : List Json) :
    redactItems alnum xs = Json.mapItems (redactText alnum) xs := by
  match xs with
  | [] => rfl
  | v :: rest =>
    have hv := redactValue_eq v
    have hrest := redactItems_eq rest
    exact congrArg₂ List.cons hv hrest

theorem redactMapping_eq (kvs : List (String × Json)) :
    redactMapping alnum kvs = Json.mapFields (redactText alnum) kvs := by
  match kvs with
  | [] => rfl
  | (k, v) :: rest =>
    have hv := redactValue_eq v
    have hrest := redactMapping_eq rest
    exact congrArg₂ List.cons (congrArg (Prod.mk k) hv) hrest

end

mutual

theorem scrub_enabled (v : Json) :
    Redactor.scrub alnum ⟨true⟩ v = v.mapStrings (redactText alnum) := by
  match v with
  | .str s => rfl
  | .arr xs => exact congrArg Json.arr (scrubItems_enabled xs)
  | .obj kvs => exact congrArg Json.obj (redactMapping_eq alnum kvs)
  | .null => rfl
  | .bool b => rfl
  | .num x => rfl

theorem scrubItems_enabled (xs : List Json) :
    Redactor.scrubItems alnum ⟨true⟩ xs = Json.mapItems (redactText alnum) xs := by
  match xs with
  | [] => rfl
  | v :: rest =>
    have hv := scrub_enabled v
    have hrest := scrubItems_enabled rest
    exact congrArg₂ List.cons hv hrest

end

theorem scrub_disabled (v : Json) : Redactor.scrub alnum ⟨false⟩ v = v := by
  cases v <;> rfl

/-! ## What is left -/

theorem toList_redactText (s : String) :
    (redactText alnum s).toList = applyAll (isWord alnum) patterns s.toList := by
  unfold redactText
  exact String.toList_ofList

theorem redactText_redactText (s : String) :
    redactText alnum (redactText alnum s) = redactText alnum s := by
  have h : applyAll (isWord alnum) patterns (redactText alnum s).toList =
      (redactText alnum s).toList := by
    rw [toList_redactText]
    exact Substitution.applyAll_applyAll patterns_compatible
  have hleft : redactText alnum (redactText alnum s) =
      String.ofList (applyAll (isWord alnum) patterns (redactText alnum s).toList) := rfl
  rw [hleft, h, String.ofList_toList]

theorem redactText_not_found (s : String) :
    ∀ r ∈ patterns, ¬ Found (isWord alnum) r.pattern (redactText alnum s).toList := by
  rw [toList_redactText]
  exact Substitution.applyAll_absent patterns_compatible

/-- No pattern has a match. -/
def Clean (text : String) : Prop := ∀ r ∈ patterns, ¬ Found (isWord alnum) r.pattern text.toList

theorem not_clean_of_misses {text : String} {r : Rule Char} (hr : r ∈ patterns)
    (h : Substitution.misses (isWord alnum) r.pattern [] text.toList = false) :
    ¬ Clean alnum text := by
  intro hclean
  have hmiss := Substitution.misses_iff.mpr (Substitution.absent_start_iff.mpr (hclean r hr))
  rw [h] at hmiss
  cases hmiss

theorem redactText_eq_self_iff {text : String} : redactText alnum text = text ↔ Clean alnum text := by
  constructor
  · intro h
    unfold Clean
    rw [← h]
    exact redactText_not_found alnum text
  · intro h
    unfold redactText
    rw [Substitution.applyAll_eq_self h, String.ofList_toList]

/-- Redaction changes a value if and only if one of its strings has a match. -/
theorem scrub_eq_self_iff {v : Json} :
    Redactor.scrub alnum ⟨true⟩ v = v ↔ ∀ s ∈ v.strings, Clean alnum s := by
  rw [scrub_enabled, Json.mapStrings_eq_self_iff]
  exact forall₂_congr fun s _ => redactText_eq_self_iff alnum

/-- **Redaction is complete and idempotent.** No string of the result has a match of any pattern, a
    second pass changes nothing, and but for its strings the value is as it was. -/
theorem scrub_complete (v : Json) :
    (∀ s ∈ (Redactor.scrub alnum ⟨true⟩ v).strings, ∀ r ∈ patterns,
      ¬ Found (isWord alnum) r.pattern s.toList) ∧
    Redactor.scrub alnum ⟨true⟩ (Redactor.scrub alnum ⟨true⟩ v) = Redactor.scrub alnum ⟨true⟩ v ∧
    (Redactor.scrub alnum ⟨true⟩ v).shape = v.shape := by
  have htwice : (fun s => redactText alnum (redactText alnum s)) = redactText alnum :=
    funext (redactText_redactText alnum)
  rw [scrub_enabled, scrub_enabled]
  refine ⟨?_, ?_, Json.shape_mapStrings _ v⟩
  · rw [Json.strings_mapStrings]
    intro s hs
    obtain ⟨t, _, rfl⟩ := List.mem_map.mp hs
    exact redactText_not_found alnum t
  · rw [Json.mapStrings_mapStrings, htwice]

end Redactor

end Llm

end RefundOps
