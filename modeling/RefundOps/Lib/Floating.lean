import Mathlib.Algebra.Order.Field.Basic
import Mathlib.Tactic.Linarith

/-!
# Floats, exact where they are finite

The values of a `float` as far as comparisons go: the numbers of an ordered field, the two infinities,
and NaN, which is neither less nor greater than anything. `min` and `max` are those of the program:
they keep the first argument unless the comparison says otherwise, so a NaN that comes first stays and
one that comes later is passed over.

What a program gets out of this is a threshold on the least of some values (`foldl_least_lt_iff`): as
long as the first is a number, one of them has to be below it.
-/

set_option autoImplicit false

namespace RefundOps

inductive Floating (K : Type) where
  | nan
  | negInf
  | posInf
  | fin (x : K)
  deriving DecidableEq

namespace Floating

variable {K : Type}

/-- The number, or `d` for what is none. -/
def finiteD (d : K) : Floating K → K
  | fin x => x
  | _ => d

section Order

variable [LinearOrder K]

/-- `a < b`. -/
def lt : Floating K → Floating K → Bool
  | fin x, fin y => decide (x < y)
  | negInf, fin _ => true
  | negInf, posInf => true
  | fin _, posInf => true
  | _, _ => false

/-- `a <= b`. -/
def le : Floating K → Floating K → Bool
  | fin x, fin y => decide (x ≤ y)
  | nan, _ => false
  | _, nan => false
  | negInf, _ => true
  | _, posInf => true
  | _, _ => false

instance : LT (Floating K) := ⟨fun a b => lt a b = true⟩

instance : LE (Floating K) := ⟨fun a b => le a b = true⟩

instance : DecidableLT (Floating K) := fun a b => inferInstanceAs (Decidable (lt a b = true))

instance : DecidableLE (Floating K) := fun a b => inferInstanceAs (Decidable (le a b = true))

/-- `min(a, b)`. -/
def least (a b : Floating K) : Floating K := if b < a then b else a

/-- `max(a, b)`. -/
def greatest (a b : Floating K) : Floating K := if a < b then b else a

variable {x y : K} {a b c : Floating K}

@[simp] theorem fin_lt_fin : (fin x < fin y) ↔ x < y := decide_eq_true_iff

@[simp] theorem fin_le_fin : (fin x ≤ fin y) ↔ x ≤ y := decide_eq_true_iff

@[simp] theorem not_nan_lt : ¬ nan < a := by cases a <;> exact Bool.false_ne_true

@[simp] theorem not_lt_nan : ¬ a < nan := by cases a <;> exact Bool.false_ne_true

@[simp] theorem not_le_nan : ¬ a ≤ nan := by cases a <;> exact Bool.false_ne_true

@[simp] theorem not_lt_negInf : ¬ a < negInf := by cases a <;> exact Bool.false_ne_true

@[simp] theorem not_posInf_lt : ¬ posInf < a := by cases a <;> exact Bool.false_ne_true

@[simp] theorem negInf_lt_fin : negInf < fin x := rfl

@[simp] theorem fin_lt_posInf : fin x < posInf := rfl

@[simp] theorem negInf_lt_posInf : (negInf : Floating K) < posInf := rfl

@[simp] theorem fin_le_posInf : fin x ≤ posInf := rfl

@[simp] theorem not_fin_le_negInf : ¬ fin x ≤ negInf := Bool.false_ne_true

theorem fin_le_trans (hxy : x ≤ y) (hya : fin y ≤ a) : fin x ≤ a := by
  cases a with
  | nan => exact absurd hya not_le_nan
  | negInf => exact absurd hya not_fin_le_negInf
  | posInf => exact fin_le_posInf
  | fin z => exact fin_le_fin.mpr (hxy.trans (fin_le_fin.mp hya))

/-! ### The least of some values -/

theorem least_ne_nan (ha : a ≠ nan) : least a b ≠ nan := by
  unfold least
  split
  · rename_i h
    rintro rfl
    exact not_nan_lt h
  · exact ha

/-- What is not less than `a` is not below anything that `a` is not below. -/
theorem lt_of_not_lt (ha : a ≠ nan) (hba : ¬ b < a) (hbc : b < c) : a < c := by
  cases a <;> cases b <;> cases c <;> simp_all
  exact lt_of_le_of_lt hba hbc

theorem least_lt_iff (ha : a ≠ nan) : least a b < c ↔ a < c ∨ b < c := by
  unfold least
  split
  · rename_i hba
    refine ⟨.inr, fun h => h.elim (fun hac => ?_) id⟩
    cases a <;> cases b <;> cases c <;> simp_all
    exact hba.trans hac
  · rename_i hba
    exact ⟨.inl, fun h => h.elim id (lt_of_not_lt ha hba)⟩

/-- The least of some values is below `c` when one of them is. -/
theorem foldl_least_lt_iff {l : List (Floating K)} (ha : a ≠ nan) :
    l.foldl least a < c ↔ a < c ∨ ∃ b ∈ l, b < c := by
  induction l generalizing a with
  | nil => simp
  | cons b l ih =>
    rw [List.foldl_cons, ih (least_ne_nan ha), least_lt_iff ha, or_assoc]
    simp

theorem least_fin : least (fin x) (fin y) = fin (min x y) := by
  unfold least
  split
  · rename_i h
    rw [min_eq_right (fin_lt_fin.mp h).le]
  · rename_i h
    rw [min_eq_left (not_lt.mp (mt fin_lt_fin.mpr h))]

end Order

section Field

variable [Field K] [LinearOrder K] {c : K} {a : Floating K}

/-- `1.0 - x`. -/
def oneSub : Floating K → Floating K
  | nan => nan
  | negInf => posInf
  | posInf => negInf
  | fin x => fin (1 - x)

/-- `max(0.0, min(1.0, x))`: a number, whatever `x` is (`greatest_least_eq_clamp`). -/
def clamp : Floating K → K
  | nan => 1
  | negInf => 0
  | posInf => 1
  | fin x => max 0 (min 1 x)

/-- A threshold of at most one does not see the clamping. -/
theorem clamp_lt_iff (hpos : 0 < c) (hone : c ≤ 1) : clamp a < c ↔ a < fin c := by
  cases a with
  | nan | posInf => simp [clamp, hone]
  | negInf => simp [clamp, hpos]
  | fin x =>
    rw [clamp, fin_lt_fin, max_lt_iff, min_lt_iff]
    constructor
    · rintro ⟨-, h | h⟩
      · exact absurd h (not_lt.mpr hone)
      · exact h
    · exact fun h => ⟨hpos, .inr h⟩

variable [IsStrictOrderedRing K]

/-- The values of `clamp` are what the two comparisons leave of `x`. -/
theorem greatest_least_eq_clamp : greatest (fin 0) (least (fin 1) a) = fin (clamp a) := by
  have hpos : (0 : K) < 1 := zero_lt_one
  cases a with
  | nan | posInf => simp [least, greatest, clamp, hpos]
  | negInf => simp [least, greatest, clamp]
  | fin x =>
    rw [least_fin, clamp]
    unfold greatest
    split
    · rename_i h
      rw [max_eq_right (fin_lt_fin.mp h).le]
    · rename_i h
      rw [max_eq_left (not_lt.mp (mt fin_lt_fin.mpr h))]

theorem oneSub_lt_iff : oneSub a < fin c ↔ fin (1 - c) < a := by
  cases a with
  | nan | negInf | posInf => simp [oneSub]
  | fin x =>
    rw [oneSub, fin_lt_fin, fin_lt_fin]
    constructor
    · intro h
      linarith
    · intro h
      linarith

/-- The other way round, NaN is as far from a bound as it can be. -/
theorem clamp_oneSub_le_iff (hpos : 0 ≤ c) (hone : c < 1) : (oneSub a).clamp ≤ c ↔ fin (1 - c) ≤ a := by
  cases a with
  | nan | negInf => simp [oneSub, clamp, hone]
  | posInf => simp [oneSub, clamp, hpos]
  | fin x =>
    rw [oneSub, clamp, fin_le_fin, max_le_iff, min_le_iff]
    constructor
    · rintro ⟨-, h | h⟩
      · exact absurd h (not_le.mpr hone)
      · linarith
    · intro h
      exact ⟨hpos, .inr (by linarith)⟩

end Field

end Floating

end RefundOps
