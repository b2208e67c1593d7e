import Mathlib.Data.List.Count
import Mathlib.Data.List.Forall2

/-!
# Lists, entry by entry

What is counted once is one entry, also where the entries come from lists of their own; and what two
lists have in common when their entries correspond.
-/

set_option autoImplicit false

namespace RefundOps

section Counting

variable {α β : Type}

/-- Entries that are counted once are one entry. -/
theorem eq_of_countP_le_one {p : α → Bool} {l : List α} (h : l.countP p ≤ 1) {a b : α}
    (ha : a ∈ l) (hb : b ∈ l) (hpa : p a = true) (hpb : p b = true) : a = b := by
  rw [List.countP_eq_length_filter] at h
  have ha' := List.mem_filter.mpr ⟨ha, hpa⟩
  have hb' := List.mem_filter.mpr ⟨hb, hpb⟩
  obtain ⟨x, hx⟩ := List.length_eq_one_iff.mp
    (Nat.le_antisymm h (List.length_pos_of_mem ha'))
  rw [hx] at ha' hb'
  exact (List.mem_singleton.mp ha').trans (List.mem_singleton.mp hb').symm

/-- Whoever adds to a count adds at least one. -/
theorem countP_any_le (p : β → Bool) (f : α → List β) (l : List α) :
    l.countP (fun a => (f a).any p) ≤ (l.flatMap f).countP p := by
  induction l with
  | nil => simp
  | cons a l ih =>
    have hone : (if (f a).any p = true then 1 else 0) ≤ (f a).countP p := by
      split
      · rename_i hany
        exact List.countP_pos_iff.mpr (List.any_eq_true.mp hany)
      · exact Nat.zero_le _
    rw [List.flatMap_cons, List.countP_append, List.countP_cons]
    omega

/-- Those that add to a count of one are one. -/
theorem eq_of_flatMap_countP_le_one {p : β → Bool} {f : α → List β} {l : List α}
    (h : (l.flatMap f).countP p ≤ 1) {a b : α} (ha : a ∈ l) (hb : b ∈ l) {x y : β} (hx : x ∈ f a)
    (hy : y ∈ f b) (hpx : p x = true) (hpy : p y = true) : a = b :=
  eq_of_countP_le_one (Nat.le_trans (countP_any_le p f l) h) ha hb (List.any_eq_true.mpr ⟨x, hx, hpx⟩)
    (List.any_eq_true.mpr ⟨y, hy, hpy⟩)

end Counting

section Correspondence

theorem exists_getElem?_of_forall₂ {α : Type} {R : α → α → Prop} {l l' : List α}
    (h : List.Forall₂ R l l') {n : Nat} {a : α} (ha : l[n]? = some a) :
    ∃ b, l'[n]? = some b ∧ R a b := by
  induction h generalizing n with
  | nil => simp at ha
  | cons hab _ ih =>
    cases n with
    | zero =>
      obtain rfl : _ = a := by simpa using ha
      exact ⟨_, rfl, hab⟩
    | succ n => exact ih (by simpa using ha)

theorem forall₂_filterMap {α β : Type} {R : β → β → Prop} {f g : α → Option β}
    (h : ∀ a, Option.Rel R (f a) (g a)) (l : List α) :
    List.Forall₂ R (l.filterMap f) (l.filterMap g) :=
  List.rel_filterMap (R := Eq) (fun a _ hab => hab ▸ h a) (List.forall₂_refl l)

end Correspondence

end RefundOps
