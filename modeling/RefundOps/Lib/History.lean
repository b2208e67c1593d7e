import Mathlib.Data.List.Basic

/-!
# What had happened before

Properties of a trace that relate each entry to what stands before it. `EachAfter P tr` says it
of every entry; a trace is extended at its end, so only the new entries have to be looked at
(`EachAfter.append`).
-/

set_option autoImplicit false

namespace RefundOps

variable {α : Type} {P : List α → α → Prop} {tr os : List α}

/-- Every entry is in the relation `P` to the entries before it. -/
def EachAfter (P : List α → α → Prop) (tr : List α) : Prop :=
  ∀ before o after, tr = before ++ o :: after → P before o

namespace EachAfter

theorem nil : EachAfter P [] := by
  intro before o after h
  exact absurd h (by simp)

theorem append (h : EachAfter P tr)
    (hnew : ∀ before o after, os = before ++ o :: after → P (tr ++ before) o) :
    EachAfter P (tr ++ os) := by
  intro before o after heq
  rcases List.append_eq_append_iff.mp heq with ⟨l, hl, hr⟩ | ⟨l, hl, hr⟩
  · -- the entry is among the new ones
    rw [hl]
    exact hnew l o after hr
  · cases l with
    | nil =>
      rw [List.append_nil] at hl
      rw [List.nil_append] at hr
      have hfirst := hnew [] o after hr.symm
      rwa [List.append_nil, hl] at hfirst
    | cons x l =>
      rw [List.cons_append, List.cons.injEq] at hr
      exact h before o l (by rw [hl, hr.1])

theorem snoc {o : α} (h : EachAfter P tr) (ho : P tr o) : EachAfter P (tr ++ [o]) := by
  apply h.append
  intro before o' after heq
  cases before with
  | nil =>
    rw [List.nil_append, List.cons.injEq] at heq
    rw [List.append_nil, ← heq.1]
    exact ho
  | cons x before =>
    rw [List.cons_append, List.cons.injEq] at heq
    exact absurd heq.2 (by simp)

end EachAfter

end RefundOps
