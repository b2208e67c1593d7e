import RefundOps.Foundation.TaskJson

/-!
# Numbers and constrained fields

The readers that the requests of the two peers need beside those of `TaskJson.lean`. pydantic is
lax here: a number may come as a string, and a flag is a number to `float` and to `int`, but not to
`Decimal`. What the standard library makes of a string is in `Parsers`.
-/

set_option autoImplicit false

namespace RefundOps

/-- `float(s)`, `Decimal(s)` and `int(s)` on a string, `none` where they raise or the value is not
    finite. -/
structure Parsers where
  floatOfStr : String → Option ℚ
  decimalOfStr : String → Option ℚ
  intOfStr : String → Option Int

namespace Json

def asFloat (P : Parsers) : Json → Option ℚ
  | .num x => some x
  | .bool b => some (if b then 1 else 0)
  | .str s => P.floatOfStr s
  | _ => none

def asDecimal (P : Parsers) : Json → Option ℚ
  | .num x => some x
  | .str s => P.decimalOfStr s
  | _ => none

/-- A number without a fractional part is an `int`. -/
def asInt (P : Parsers) : Json → Option Int
  | .num x => if x.den = 1 then some x.num else none
  | .bool b => some (if b then 1 else 0)
  | .str s => P.intOfStr s
  | _ => none

/-- `Field(ge=0)`. -/
def nonNegative (read : Json → Option ℚ) (j : Json) : Option { x : ℚ // 0 ≤ x } :=
  (read j).bind fun x => if h : 0 ≤ x then some ⟨x, h⟩ else none

def asNat (P : Parsers) (j : Json) : Option Nat :=
  (j.asInt P).bind fun n => if 0 ≤ n then some n.toNat else none

/-- `Field(min_length=1)`. -/
def nonEmpty (j : Json) : Option { s : String // s ≠ "" } :=
  j.asStr.bind fun s => if h : s ≠ "" then some ⟨s, h⟩ else none

theorem required_of_get? {α : Type} {d j : Json} {key : String} {read : Json → Option α}
    (h : d.get? key = some j) : d.required key read = read j := by
  unfold required
  rw [h, Option.bind_some]

theorem optional_of_absent {α : Type} {d : Json} {key : String} {read : Json → Option α}
    (h : d.get? key = none) : d.optional key read = some none := by
  unfold optional
  rw [h]

theorem optional_str {d : Json} {key s : String} (h : d.get? key = some (.str s)) :
    d.optional key asStr = some (some s) := by
  unfold optional
  rw [h]
  rfl

end Json

/-- `validate_input` of the two peers: the first data part that is not empty is the request. -/
def firstData {α : Type} (read : Json → Except String α) : List A2APart → Except String α
  | [] => .error "No valid data part found in input parts (FR-011)"
  | part :: parts =>
    match part.type, part.data with
    | .data, some data => if data.truthy then read data else firstData read parts
    | _, _ => firstData read parts

end RefundOps
