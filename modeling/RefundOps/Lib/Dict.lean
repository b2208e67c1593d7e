import Mathlib.Data.List.Induction
import Mathlib.Data.List.Nodup

/-!
# Insertion-ordered dictionaries

A Python `dict` keeps the order in which its keys were first inserted; assigning to a key that
is already there leaves its place alone. `Dict` is that: an association list whose keys are
distinct, the distinctness carried by the structure, so that every entry that iteration sees is
also the one a lookup finds (`get?_of_mem`).
-/

set_option autoImplicit false

namespace RefundOps

structure Dict (α β : Type) where
  entries : List (α × β)
  nodup : (entries.map Prod.fst).Nodup

namespace Dict

variable {α β : Type} [DecidableEq α]

def empty : Dict α β := ⟨[], by simp⟩

/-- `d.get(k)`. -/
def get? (d : Dict α β) (k : α) : Option β := d.entries.lookup k

def setEntries (k : α) (v : β) : List (α × β) → List (α × β)
  | [] => [(k, v)]
  | (k', v') :: rest => if k' = k then (k, v) :: rest else (k', v') :: setEntries k v rest

theorem mem_keys_setEntries {k : α} {v : β} {l : List (α × β)} {x : α} :
    x ∈ (setEntries k v l).map Prod.fst ↔ x = k ∨ x ∈ l.map Prod.fst := by
  induction l with
  | nil => simp [setEntries]
  | cons e rest ih =>
    obtain ⟨k', v'⟩ := e
    unfold setEntries
    split
    · rename_i h
      subst h
      simp
    · simp only [List.map_cons, List.mem_cons, ih]
      tauto

theorem nodup_setEntries {k : α} {v : β} {l : List (α × β)} (h : (l.map Prod.fst).Nodup) :
    ((setEntries k v l).map Prod.fst).Nodup := by
  induction l with
  | nil => simp [setEntries]
  | cons e rest ih =>
    obtain ⟨k', v'⟩ := e
    rw [List.map_cons, List.nodup_cons] at h
    unfold setEntries
    split
    · rename_i hk
      subst hk
      simpa using h
    · rename_i hk
      rw [List.map_cons, List.nodup_cons, mem_keys_setEntries]
      refine ⟨?_, ih h.2⟩
      rintro (rfl | hmem)
      · exact hk rfl
      · exact h.1 hmem

/-- `d[k] = v`. -/
def set (d : Dict α β) (k : α) (v : β) : Dict α β :=
  ⟨setEntries k v d.entries, nodup_setEntries d.nodup⟩

/-- `d.values()`, in insertion order. -/
def values (d : Dict α β) : List β := d.entries.map Prod.snd

@[simp] theorem get?_empty (k : α) : (empty : Dict α β).get? k = none := rfl

theorem get?_set (d : Dict α β) (k : α) (v : β) (x : α) :
    (d.set k v).get? x = if x = k then some v else d.get? x := by
  obtain ⟨l, hl⟩ := d
  simp only [get?, set]
  clear hl
  induction l with
  | nil =>
    by_cases h : x = k
    · simp [setEntries, h]
    · simp [setEntries, List.lookup_cons, beq_eq_false_iff_ne.mpr h, h]
  | cons e rest ih =>
    obtain ⟨k', v'⟩ := e
    unfold setEntries
    by_cases hk : k' = k
    · subst hk
      by_cases h : x = k'
      · simp [h]
      · simp [List.lookup_cons, beq_eq_false_iff_ne.mpr h, h]
    · rw [if_neg hk]
      by_cases hx : x = k'
      · subst hx
        simp [hk]
      · simp only [List.lookup_cons, beq_eq_false_iff_ne.mpr hx]
        exact ih

@[simp] theorem get?_set_self (d : Dict α β) (k : α) (v : β) : (d.set k v).get? k = some v := by
  simp [get?_set]

theorem get?_set_ne (d : Dict α β) {k x : α} (v : β) (h : x ≠ k) :
    (d.set k v).get? x = d.get? x := by
  simp [get?_set, h]

theorem get?_of_mem {d : Dict α β} {k : α} {v : β} (h : (k, v) ∈ d.entries) :
    d.get? k = some v := by
  obtain ⟨l, hl⟩ := d
  simp only [get?] at *
  induction l with
  | nil => exact absurd h (by simp)
  | cons e rest ih =>
    obtain ⟨k', v'⟩ := e
    rw [List.map_cons, List.nodup_cons] at hl
    rcases List.mem_cons.mp h with heq | hmem
    · cases heq
      simp
    · have hne : k ≠ k' := by
        rintro rfl
        exact hl.1 (List.mem_map.mpr ⟨_, hmem, rfl⟩)
      simp only [List.lookup_cons, beq_eq_false_iff_ne.mpr hne]
      exact ih hl.2 hmem

/-- What a lookup finds, iteration sees. -/
theorem mem_values_of_get? {d : Dict α β} {k : α} {v : β} (h : d.get? k = some v) :
    v ∈ d.values := by
  obtain ⟨before, after, hsplit, -⟩ := List.lookup_eq_some_iff.mp h
  exact List.mem_map.mpr ⟨(k, v), by rw [hsplit]; simp, rfl⟩

/-- What iteration sees, a lookup finds. -/
theorem get?_of_mem_values {d : Dict α β} {v : β} (h : v ∈ d.values) :
    ∃ k, d.get? k = some v := by
  obtain ⟨⟨k, v'⟩, hmem, rfl⟩ := List.mem_map.mp h
  exact ⟨k, get?_of_mem hmem⟩

/-- `dict(pairs)`, or a comprehension over them: the last pair of a key gives its value. -/
def ofPairs (pairs : List (α × β)) : Dict α β :=
  pairs.foldl (fun d pair => d.set pair.1 pair.2) empty

theorem get?_ofPairs_concat (pairs : List (α × β)) (k : α) (v : β) (x : α) :
    (ofPairs (pairs ++ [(k, v)])).get? x = if x = k then some v else (ofPairs pairs).get? x := by
  unfold ofPairs
  rw [List.foldl_append]
  exact get?_set _ _ _ _

/-- **The last pair of a key is the one that counts.** -/
theorem get?_ofPairs_eq_some_iff {pairs : List (α × β)} {k : α} {v : β} :
    (ofPairs pairs).get? k = some v ↔
      ∃ before after, pairs = before ++ (k, v) :: after ∧ k ∉ after.map Prod.fst := by
  induction pairs using List.reverseRecOn with
  | nil => simp [ofPairs]
  | append_singleton pairs last ih =>
    obtain ⟨k', v'⟩ := last
    rw [get?_ofPairs_concat]
    by_cases hk : k = k'
    · subst hk
      rw [if_pos rfl, Option.some.injEq]
      constructor
      · rintro rfl
        exact ⟨pairs, [], rfl, List.not_mem_nil⟩
      · rintro ⟨before, after, hsplit, hlast⟩
        rcases List.eq_nil_or_concat after with rfl | ⟨after, pair, rfl⟩
        · cases List.append_inj_right' hsplit rfl
          rfl
        · -- another pair of the key would come after
          rw [List.concat_eq_append, ← List.cons_append, ← List.append_assoc] at hsplit
          cases List.append_inj_right' hsplit rfl
          simp at hlast
    · rw [if_neg hk, ih]
      constructor
      · rintro ⟨before, after, rfl, hlast⟩
        refine ⟨before, after ++ [(k', v')], by simp, ?_⟩
        rw [List.map_append, List.mem_append]
        rintro (hmem | hmem)
        · exact hlast hmem
        · exact hk (List.mem_singleton.mp hmem)
      · rintro ⟨before, after, hsplit, hlast⟩
        rcases List.eq_nil_or_concat after with rfl | ⟨after, pair, rfl⟩
        · cases List.append_inj_right' hsplit rfl
          exact absurd rfl hk
        · rw [List.concat_eq_append, ← List.cons_append, ← List.append_assoc] at hsplit
          refine ⟨before, after, List.append_inj_left' hsplit rfl, ?_⟩
          intro hmem
          apply hlast
          rw [List.concat_eq_append, List.map_append]
          exact List.mem_append_left _ hmem

theorem mem_of_get?_ofPairs {pairs : List (α × β)} {k : α} {v : β}
    (h : (ofPairs pairs).get? k = some v) : (k, v) ∈ pairs := by
  obtain ⟨before, after, rfl, -⟩ := get?_ofPairs_eq_some_iff.mp h
  exact List.mem_append_right _ List.mem_cons_self

theorem exists_get?_ofPairs {pairs : List (α × β)} {k : α} (h : k ∈ pairs.map Prod.fst) :
    ∃ v, (ofPairs pairs).get? k = some v := by
  induction pairs using List.reverseRecOn with
  | nil => cases h
  | append_singleton pairs last ih =>
    obtain ⟨k', v'⟩ := last
    rw [get?_ofPairs_concat]
    by_cases hk : k = k'
    · exact ⟨v', if_pos hk⟩
    · rw [if_neg hk]
      apply ih
      rw [List.map_append, List.mem_append] at h
      refine h.resolve_right ?_
      intro hlast
      exact hk (List.mem_singleton.mp hlast)

theorem get?_ofPairs_of_mem {pairs : List (α × β)} {k : α} {v : β} (h : (k, v) ∈ pairs)
    (hnodup : (pairs.map Prod.fst).Nodup) : (ofPairs pairs).get? k = some v := by
  obtain ⟨before, after, rfl⟩ := List.append_of_mem h
  refine get?_ofPairs_eq_some_iff.mpr ⟨before, after, rfl, ?_⟩
  rw [List.map_append, List.map_cons, List.nodup_append, List.nodup_cons] at hnodup
  exact hnodup.2.1.1

end Dict

/-- `list(dict.fromkeys(xs))` has every key once. -/
theorem nodup_eraseDups {α : Type} [DecidableEq α] (xs : List α) : xs.eraseDups.Nodup := by
  -- the rest is filtered before it goes on, so the induction is on the length
  induction hn : xs.length using Nat.strongRecOn generalizing xs with
  | ind n ih =>
    cases xs with
    | nil => simp
    | cons x xs =>
      rw [List.eraseDups_cons, List.nodup_cons]
      constructor
      · rw [List.mem_eraseDups, List.mem_filter]
        rintro ⟨-, hne⟩
        simp at hne
      · refine ih _ ?_ _ rfl
        rw [← hn, List.length_cons]
        exact Nat.lt_succ_of_le (List.length_filter_le _ _)

end RefundOps
