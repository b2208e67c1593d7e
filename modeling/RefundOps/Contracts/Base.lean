import Mathlib.Data.Rat.Defs
import Mathlib.Tactic.NormNum
import RefundOps.Lib.Text

/-!
# Values that cross the wire

Identifiers, instants, numbers and JSON as every payload uses them. A `UUID` is its 128-bit
integer, read as a natural number; a `Time` is microseconds since the epoch in UTC; a Python
`float` or `Decimal` is an exact rational. `Confidence` is a number that has passed the
`Field(ge=0.0, le=1.0)` check every payload makes, so a confidence out of range cannot be
built.
-/

set_option autoImplicit false

namespace RefundOps

/-! ## Identifiers -/

abbrev UUID := Nat

def hexDigits : Nat → Nat → List Char
  | 0, _ => []
  | width + 1, n => hexDigits width (n / 16) ++ [Nat.digitChar (n % 16)]

/-- `str(u)` of a UUID. -/
def uuidStr (u : UUID) : String :=
  let hex := hexDigits 32 u
  let group := fun (start len : Nat) => String.ofList ((hex.drop start).take len)
  Text.join "-" [group 0 8, group 8 4, group 12 4, group 16 4, group 20 12]

example : uuidStr 0x12345678123456781234567812345678 = "12345678-1234-5678-1234-567812345678" := by
  decide +kernel

theorem length_hexDigits (width n : Nat) : (hexDigits width n).length = width := by
  induction width generalizing n with
  | zero => rfl
  | succ width ih =>
    unfold hexDigits
    rw [List.length_append, ih, List.length_singleton]

theorem digitChar_inj {a b : Nat} (ha : a < 16) (hb : b < 16)
    (h : Nat.digitChar a = Nat.digitChar b) : a = b := by
  have hall : ∀ x < 16, ∀ y < 16, Nat.digitChar x = Nat.digitChar y → x = y := by decide
  exact hall a ha b hb h

theorem hexDigits_inj {width a b : Nat} (ha : a < 16 ^ width) (hb : b < 16 ^ width)
    (h : hexDigits width a = hexDigits width b) : a = b := by
  induction width generalizing a b with
  | zero => rw [Nat.lt_one_iff.mp ha, Nat.lt_one_iff.mp hb]
  | succ width ih =>
    unfold hexDigits at h
    obtain ⟨hhigh, hlow⟩ := List.append_inj' h rfl
    rw [Nat.pow_succ] at ha hb
    have hdiv : a / 16 = b / 16 :=
      ih (Nat.div_lt_of_lt_mul (by omega)) (Nat.div_lt_of_lt_mul (by omega)) hhigh
    have hmod : a % 16 = b % 16 :=
      digitChar_inj (Nat.mod_lt _ (by omega)) (Nat.mod_lt _ (by omega)) (List.singleton_inj.mp hlow)
    omega

theorem ne_dash_of_mem_hexDigits {width n : Nat} {c : Char} (h : c ∈ hexDigits width n) :
    c ≠ '-' := by
  induction width generalizing n with
  | zero => cases h
  | succ width ih =>
    unfold hexDigits at h
    rcases List.mem_append.mp h with h | h
    · exact ih h
    · have hall : ∀ x < 16, Nat.digitChar x ≠ '-' := by decide
      rw [List.mem_singleton.mp h]
      exact hall _ (Nat.mod_lt _ (by omega))

/-- The text of a UUID has its digits in five groups. -/
theorem toList_uuidStr (u : UUID) :
    let hex := hexDigits 32 u
    (uuidStr u).toList = hex.take 8 ++ '-' :: ((hex.drop 8).take 4 ++ '-' :: ((hex.drop 12).take 4 ++
      '-' :: ((hex.drop 16).take 4 ++ '-' :: (hex.drop 20).take 12))) := by
  unfold uuidStr Text.join
  simp

theorem length_uuidStr (u : UUID) : (uuidStr u).toList.length = 36 := by
  rw [toList_uuidStr]
  simp [length_hexDigits]

/-- The groups, put together again. -/
theorem filter_uuidStr (u : UUID) : (uuidStr u).toList.filter (· ≠ '-') = hexDigits 32 u := by
  rw [toList_uuidStr]
  have hlen := length_hexDigits 32 u
  have hdash : ∀ c ∈ hexDigits 32 u, c ≠ '-' := fun c => ne_dash_of_mem_hexDigits
  generalize hexDigits 32 u = hex at hlen hdash
  have hgroup : ∀ start len, ((hex.drop start).take len).filter (· ≠ '-') =
      (hex.drop start).take len := by
    intro start len
    refine List.filter_eq_self.mpr fun c hc => decide_eq_true ?_
    exact hdash c (List.mem_of_mem_drop (List.mem_of_mem_take hc))
  have hparts : hex.take 8 ++ ((hex.drop 8).take 4 ++ ((hex.drop 12).take 4 ++
      ((hex.drop 16).take 4 ++ (hex.drop 20).take 12))) = hex := by
    have hall : hex.take (8 + (4 + (4 + (4 + 12)))) = hex := List.take_of_length_le (by omega)
    rw [List.take_add, List.take_add, List.take_add, List.take_add] at hall
    simpa only [List.drop_drop] using hall
  have hfirst := hgroup 0 8
  rw [List.drop_zero] at hfirst
  have hsep : ∀ rest : List Char, ('-' :: rest).filter (· ≠ '-') = rest.filter (· ≠ '-') :=
    fun rest => List.filter_cons_of_neg (by simp)
  rw [List.filter_append, hsep, List.filter_append, hsep, List.filter_append, hsep,
    List.filter_append, hsep, hfirst, hgroup, hgroup, hgroup, hgroup, hparts]

/-- **No two identifiers have the same text.** -/
theorem uuidStr_inj {u v : UUID} (hu : u < 2 ^ 128) (hv : v < 2 ^ 128) (h : uuidStr u = uuidStr v) :
    u = v := by
  have hdigits : hexDigits 32 u = hexDigits 32 v := by
    rw [← filter_uuidStr, ← filter_uuidStr, h]
  exact hexDigits_inj (by simpa using hu) (by simpa using hv) hdigits

/-! ## Instants -/

abbrev Time := Int

def microsPerSecond : Int := 1000000

def microsPerDay : Int := 86400 * microsPerSecond

/-- The proleptic Gregorian date of a day counted from the epoch: year, month, day. The count is
    moved to eras of 400 years that start on a first of March, so that the leap day comes last. -/
def civilDate (day : Int) : Int × Int × Int :=
  let z := day + 719468
  let era := z / 146097
  let doe := z % 146097
  let yoe := (doe - doe / 1460 + doe / 36524 - doe / 146096) / 365
  let doy := doe - (365 * yoe + yoe / 4 - yoe / 100)
  let mp := (5 * doy + 2) / 153
  let month := if mp < 10 then mp + 3 else mp - 9
  (yoe + era * 400 + (if month ≤ 2 then 1 else 0), month, doy - (153 * mp + 2) / 5 + 1)

example : civilDate 19782 = (2024, 2, 29) := by decide

/-- `t.isoformat()` of an instant in UTC. -/
def isoformat (t : Time) : String :=
  let (year, month, day) := civilDate (t / microsPerDay)
  let micros := t % microsPerDay
  let seconds := micros / microsPerSecond
  let pad := fun (width : Nat) (n : Int) => Text.padLeft width (toString n)
  Text.join "-" [pad 4 year, pad 2 month, pad 2 day] ++ "T" ++
    Text.join ":" [pad 2 (seconds / 3600), pad 2 (seconds / 60 % 60), pad 2 (seconds % 60)] ++
    (if micros % microsPerSecond = 0 then "" else "." ++ pad 6 (micros % microsPerSecond)) ++
    "+00:00"

/-! ## Numbers and JSON -/

/-- A number in `[0, 1]`. -/
abbrev Confidence := { x : ℚ // 0 ≤ x ∧ x ≤ 1 }

/-! The confidences that several of the agents give. -/

theorem zero_inBounds : 0 ≤ (0 : ℚ) ∧ (0 : ℚ) ≤ 1 := by norm_num

theorem threeTenths_inBounds : 0 ≤ (3 / 10 : ℚ) ∧ (3 / 10 : ℚ) ≤ 1 := by norm_num

theorem sixTenths_inBounds : 0 ≤ (6 / 10 : ℚ) ∧ (6 / 10 : ℚ) ≤ 1 := by norm_num

theorem nineTenths_inBounds : 0 ≤ (9 / 10 : ℚ) ∧ (9 / 10 : ℚ) ≤ 1 := by norm_num

theorem one_inBounds : 0 ≤ (1 : ℚ) ∧ (1 : ℚ) ≤ 1 := by norm_num

inductive Json where
  | null
  | bool (b : Bool)
  | num (x : ℚ)
  | str (s : String)
  | arr (xs : List Json)
  | obj (kvs : List (String × Json))

namespace Json

/-- `d.get(key)` on a JSON object; anything else has no keys. -/
def get? (d : Json) (key : String) : Option Json :=
  match d with
  | .obj kvs => kvs.lookup key
  | _ => none

/-- `bool(x)`. -/
def truthy : Json → Bool
  | .null => false
  | .bool b => b
  | .num x => x ≠ 0
  | .str s => s ≠ ""
  | .arr xs => ¬ xs.isEmpty
  | .obj kvs => ¬ kvs.isEmpty

end Json

structure EvidenceItem where
  source : String
  description : String
  value : Json

end RefundOps
