import RefundOps.Llm.Redaction

/-!
# The capture policy

`redact_for_export`: what of a prompt, or of the text of a model, may leave the process. Two switches
decide, that for the redaction and that for raw texts of the kind, and the second has priority.

Over it, what it comes to: a text is shown as it is, or redacted, or not at all (`Capture`), and which
of these does not depend on the text (`redactForExport_some`). One text is enough to tell them apart.
-/

set_option autoImplicit false

namespace RefundOps.Observability

open Llm (Redactor redactText Clean)

/-- The fields of a configuration that the policy reads, with its defaults. -/
structure CaptureConfig where
  redactPii : Bool := true
  logRawPrompts : Bool := false
  logRawOutputs : Bool := false
  deriving DecidableEq, Repr

/-- The switch for raw texts of a field. -/
def CaptureConfig.logRaw (config : CaptureConfig) (field : String) : Bool :=
  if field = "prompt" then config.logRawPrompts
  else if field = "completion" then config.logRawOutputs
  else false

section Policy

variable (alnum : Char → Bool)

def redactForExport (value : Option String) (field : String) (config : CaptureConfig) :
    Option String :=
  match value with
  | none => none
  | some value =>
      if config.logRaw field then some value
      else if config.redactPii then
        match Redactor.scrub alnum ⟨true⟩ (.str value) with
        | .str result => some result
        -- what becomes of a text is a text
        | _ => none
      else none

/-! ## What becomes of a text -/

/-- How much is shown. -/
inductive Capture where
  | raw
  | scrubbed
  | withheld
  deriving DecidableEq, Repr

namespace Capture

def ofText : Capture → String → Option String
  | .raw, text => some text
  | .scrubbed, text => some (redactText alnum text)
  | .withheld, _ => none

/-- The same of a value, of which the strings are redacted. -/
def ofJson : Capture → Json → Option Json
  | .raw, data => some data
  | .scrubbed, data => some (Redactor.scrub alnum ⟨true⟩ data)
  | .withheld, _ => none

/-- By the switch for raw texts, and that for the redaction. -/
def ofSwitches (logRaw redactPii : Bool) : Capture :=
  if logRaw then .raw else if redactPii then .scrubbed else .withheld

variable {alnum}

theorem ofJson_str (capture : Capture) (text : String) :
    capture.ofJson alnum (.str text) = (capture.ofText alnum text).map Json.str := by
  cases capture <;> rfl

/-- An address is redacted, whatever the letters past ASCII are. -/
theorem redactText_address : redactText alnum "a@b.c" ≠ "a@b.c" := by
  intro h
  exact Llm.not_clean_of_misses alnum List.mem_cons_self rfl ((Llm.redactText_eq_self_iff alnum).mp h)

/-- **What becomes of one text says what becomes of all.** -/
theorem eq_of_ofText {capture capture' : Capture}
    (h : capture.ofText alnum "a@b.c" = capture'.ofText alnum "a@b.c") : capture = capture' := by
  have hne := @redactText_address alnum
  cases capture <;> cases capture'
  case raw.scrubbed => exact absurd (Option.some.inj h).symm hne
  case scrubbed.raw => exact absurd (Option.some.inj h) hne
  case raw.raw | scrubbed.scrubbed | withheld.withheld => rfl
  all_goals cases h

end Capture

variable {alnum}

/-- **The policy** is one of the three for all texts of a field. -/
theorem redactForExport_some (text field : String) (config : CaptureConfig) :
    redactForExport alnum (some text) field config =
      (Capture.ofSwitches (config.logRaw field) config.redactPii).ofText alnum text := by
  unfold redactForExport Capture.ofSwitches
  dsimp only
  cases config.logRaw field
  · cases config.redactPii <;> rfl
  · rfl

/-- Whatever agrees with the policy on every text is what the policy makes of the field. -/
theorem eq_ofSwitches_iff {capture : Capture} {field : String} {config : CaptureConfig} :
    (∀ text, redactForExport alnum (some text) field config = capture.ofText alnum text) ↔
      capture = Capture.ofSwitches (config.logRaw field) config.redactPii := by
  constructor
  · intro h
    refine @Capture.eq_of_ofText alnum _ _ ?_
    rw [← h, redactForExport_some]
  · rintro rfl text
    exact redactForExport_some text field config

end Policy

end RefundOps.Observability
