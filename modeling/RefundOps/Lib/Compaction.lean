import Mathlib.Data.List.Dedup

/-!
# Logs that are compacted by key

A log with *compaction* may lose any record that a later record with the same key supersedes, and
no other; what remains stays in order. `Compacts key l l'` says that `l'` is left of `l`, after any
number of such losses.

Two readers of such a log. One looks at the keys: the keys by their last occurrence do not change
(`Compacts.dedup_keys`). The other groups the records by something else than the key and keeps the
last of each group (`latest`). Compaction can take the record it wants; `latest_stable_iff` says
exactly when it cannot.
-/

set_option autoImplicit false

namespace RefundOps

variable {ρ κ γ ν : Type} {key : ρ → κ}

/-- What compaction may leave of a log. A record is dropped only if a later one has its key. -/
inductive Compacts (key : ρ → κ) : List ρ → List ρ → Prop where
  | nil : Compacts key [] []
  | keep (r : ρ) {l l' : List ρ} (h : Compacts key l l') : Compacts key (r :: l) (r :: l')
  | drop (r : ρ) {l l' : List ρ} (hlater : ∃ r' ∈ l, key r' = key r) (h : Compacts key l l') :
      Compacts key (r :: l) l'

namespace Compacts

variable {l l' l'' : List ρ}

theorem refl (l : List ρ) : Compacts key l l := by
  induction l with
  | nil => exact .nil
  | cons r l ih => exact .keep r ih

theorem subset (h : Compacts key l l') : l' ⊆ l := by
  induction h with
  | nil => exact List.Subset.refl []
  | keep r _ ih => exact List.cons_subset_cons r ih
  | drop r _ _ ih => exact List.subset_cons_of_subset r ih

/-- Compacting what was compacted. -/
theorem trans (h : Compacts key l l') (h' : Compacts key l' l'') : Compacts key l l'' := by
  induction h generalizing l'' with
  | nil => exact h'
  | keep r h ih =>
    cases h' with
    | keep _ h' => exact .keep r (ih h')
    | drop _ hlater h' =>
      obtain ⟨r', hr', hkey⟩ := hlater
      exact .drop r ⟨r', h.subset hr', hkey⟩ (ih h')
  | drop r hlater _ ih => exact .drop r hlater (ih h')

/-- Records that are written later. -/
theorem append (h : Compacts key l l') (m : List ρ) : Compacts key (l ++ m) (l' ++ m) := by
  induction h with
  | nil => exact refl m
  | keep r _ ih => exact .keep r ih
  | drop r hlater _ ih =>
    obtain ⟨r', hr', hkey⟩ := hlater
    exact .drop r ⟨r', List.mem_append_left m hr', hkey⟩ ih

/-- A record with a key of its own from there on is kept. -/
theorem split {pre post : List ρ} {r : ρ} (hlast : ∀ r' ∈ post, key r' ≠ key r)
    (h : Compacts key (pre ++ r :: post) l') :
    ∃ pre' post', l' = pre' ++ r :: post' ∧ Compacts key post post' := by
  induction pre generalizing l' with
  | nil =>
    cases h with
    | keep _ h => exact ⟨[], _, rfl, h⟩
    | drop _ hlater _ =>
      obtain ⟨r', hr', hkey⟩ := hlater
      exact absurd hkey (hlast r' hr')
  | cons p pre ih =>
    cases h with
    | keep _ h =>
      obtain ⟨pre', post', rfl, hpost⟩ := ih h
      exact ⟨p :: pre', post', rfl, hpost⟩
    | drop _ _ h => exact ih h

theorem mem_keys_iff (h : Compacts key l l') (k : κ) : k ∈ l'.map key ↔ k ∈ l.map key := by
  induction h with
  | nil => exact Iff.rfl
  | keep r _ ih => simp only [List.map_cons, List.mem_cons, ih]
  | drop r hlater _ ih =>
    rw [ih, List.map_cons, List.mem_cons]
    refine ⟨.inr, ?_⟩
    rintro (rfl | hk)
    · obtain ⟨r', hr', hkey⟩ := hlater
      exact hkey ▸ List.mem_map_of_mem hr'
    · exact hk

/-- **The keys, by their last occurrence, stay the same.** -/
theorem dedup_keys [DecidableEq κ] (h : Compacts key l l') :
    (l'.map key).dedup = (l.map key).dedup := by
  induction h with
  | nil => rfl
  | @keep r l l' h ih =>
    rw [List.map_cons, List.map_cons]
    by_cases hr : key r ∈ l.map key
    · rw [List.dedup_cons_of_mem ((h.mem_keys_iff _).mpr hr), List.dedup_cons_of_mem hr, ih]
    · rw [List.dedup_cons_of_notMem fun hm => hr ((h.mem_keys_iff _).mp hm),
        List.dedup_cons_of_notMem hr, ih]
  | drop r hlater _ ih =>
    obtain ⟨r', hr', hkey⟩ := hlater
    rw [List.map_cons, List.dedup_cons_of_mem (hkey ▸ List.mem_map_of_mem hr'), ih]

end Compacts

/-! ## The last of each group -/

section Held

variable {group : ρ → γ} {val : ρ → ν}

/-- The last value of the group is held by a record that compaction cannot drop: no later record
    has its key, and every later record of the group has the same value. -/
def Held (key : ρ → κ) (group : ρ → γ) (val : ρ → ν) (g : γ) (l : List ρ) : Prop :=
  ∃ pre r post, l = pre ++ r :: post ∧ group r = g ∧ (∀ r' ∈ post, key r' ≠ key r) ∧
    ∀ r' ∈ post, group r' = g → val r' = val r

theorem Held.cons {g : γ} {l : List ρ} (r : ρ) (h : Held key group val g l) :
    Held key group val g (r :: l) := by
  obtain ⟨pre, r', post, rfl, hr⟩ := h
  exact ⟨r :: pre, r', post, rfl, hr⟩

/-- Every record of the group has the value `v`. -/
def Uniform (group : ρ → γ) (val : ρ → ν) (g : γ) (v : ν) (l : List ρ) : Prop :=
  ∀ r ∈ l, group r = g → val r = v

open Classical in
/-- The compaction that loses the most of a group: drop what can be dropped of its last records,
    those with the value `v`. -/
noncomputable def trim (key : ρ → κ) (group : ρ → γ) (val : ρ → ν) (g : γ) (v : ν) :
    List ρ → List ρ
  | [] => []
  | r :: l =>
      if group r = g ∧ Uniform group val g v (r :: l) ∧ ∃ r' ∈ l, key r' = key r then
        trim key group val g v l
      else r :: trim key group val g v l

theorem compacts_trim (key : ρ → κ) (group : ρ → γ) (val : ρ → ν) (g : γ) (v : ν) (l : List ρ) :
    Compacts key l (trim key group val g v l) := by
  induction l with
  | nil => exact .nil
  | cons r l ih =>
    unfold trim
    split
    · rename_i h
      exact .drop r h.2.2 ih
    · exact .keep r ih

theorem trim_of_not_uniform {g : γ} {v : ν} {r : ρ} {l : List ρ}
    (hu : ¬ Uniform group val g v (r :: l)) :
    trim key group val g v (r :: l) = r :: trim key group val g v l := by
  rw [trim]
  exact if_neg fun h => hu h.2.1

end Held

section Latest

variable [DecidableEq γ] {group : ρ → γ} {val : ρ → ν}

/-- The value of the last record of the group. -/
def latest (group : ρ → γ) (val : ρ → ν) (g : γ) : List ρ → Option ν
  | [] => none
  | r :: l => (latest group val g l).or (if group r = g then some (val r) else none)

theorem latest_eq_none_iff {g : γ} {l : List ρ} :
    latest group val g l = none ↔ ∀ r ∈ l, group r ≠ g := by
  induction l with
  | nil => simp [latest]
  | cons r l ih =>
    rw [List.forall_mem_cons, ← ih, latest, Option.or_eq_none_iff, and_comm]
    simp

/-- The values from a record of the group on decide, if they are all the same. -/
theorem latest_append_cons {g : γ} {pre post : List ρ} {r : ρ} (hr : group r = g)
    (hpost : ∀ r' ∈ post, group r' = g → val r' = val r) :
    latest group val g (pre ++ r :: post) = some (val r) := by
  induction pre with
  | cons p pre ih => rw [List.cons_append, latest, ih, Option.some_or]
  | nil =>
    have htail : latest group val g post = none ∨ latest group val g post = some (val r) := by
      induction post with
      | nil => exact .inl rfl
      | cons p post ih =>
        rw [List.forall_mem_cons] at hpost
        rw [latest]
        rcases ih hpost.2 with h | h
        · by_cases hp : group p = g
          · exact .inr (by simp [h, hp, hpost.1 hp])
          · exact .inl (by simp [h, hp])
        · exact .inr (by simp [h])
    rw [List.nil_append, latest]
    rcases htail with h | h <;> simp [h, hr]

theorem Held.latest_eq {g : γ} {l l' : List ρ} (h : Held key group val g l)
    (hc : Compacts key l l') : latest group val g l' = latest group val g l := by
  obtain ⟨pre, r, post, rfl, hr, hlast, hval⟩ := h
  obtain ⟨pre', post', rfl, hpost⟩ := hc.split hlast
  rw [latest_append_cons hr hval,
    latest_append_cons hr fun r' hr' => hval r' (hpost.subset hr')]

/-- If no record holds the value, all records of a uniform group are dropped. -/
theorem latest_trim_of_uniform {g : γ} {v : ν} {l : List ρ} (hnot : ¬ Held key group val g l)
    (hu : Uniform group val g v l) : latest group val g (trim key group val g v l) = none := by
  induction l with
  | nil => rfl
  | cons r l ih =>
    have hl : Uniform group val g v l := fun r' hr' => hu r' (List.mem_cons_of_mem r hr')
    have hrest := ih (fun h => hnot (h.cons r)) hl
    unfold trim
    split
    · exact hrest
    · rename_i hkept
      have hr : group r ≠ g := by
        intro hr
        by_cases hlater : ∃ r' ∈ l, key r' = key r
        · exact hkept ⟨hr, hu, hlater⟩
        · refine hnot ⟨[], r, l, rfl, hr, fun r' hr' hk => hlater ⟨r', hr', hk⟩, ?_⟩
          intro r' hr' hg
          rw [hl r' hr' hg, hu r (List.mem_cons_self ..) hr]
      rw [latest, hrest, Option.none_or]
      exact if_neg hr

/-- Otherwise what comes last has another value. -/
theorem latest_trim_of_not_uniform {g : γ} {v : ν} {l : List ρ}
    (hnot : ¬ Held key group val g l) (hu : ¬ Uniform group val g v l) :
    ∃ v', v' ≠ v ∧ latest group val g (trim key group val g v l) = some v' := by
  induction l with
  | nil => exact absurd (fun r hr => absurd hr List.not_mem_nil) hu
  | cons r l ih =>
    have hnot' : ¬ Held key group val g l := fun h => hnot (h.cons r)
    rw [trim_of_not_uniform hu, latest]
    by_cases hl : Uniform group val g v l
    · -- only the first record has another value, and it is kept
      rw [latest_trim_of_uniform hnot' hl, Option.none_or]
      have hr : group r = g ∧ val r ≠ v := by
        by_contra hr
        refine hu fun r' hr' hg => ?_
        rcases List.mem_cons.mp hr' with rfl | hr'
        · by_contra hv
          exact hr ⟨hg, hv⟩
        · exact hl r' hr' hg
      exact ⟨val r, hr.2, if_pos hr.1⟩
    · obtain ⟨v', hv', hlatest⟩ := ih hnot' hl
      exact ⟨v', hv', by rw [hlatest, Option.some_or]⟩

/-- **The last value of a group survives every compaction exactly when a record holds it.** -/
theorem latest_stable_iff {g : γ} {l : List ρ} (hg : ∃ r ∈ l, group r = g) :
    (∀ l', Compacts key l l' → latest group val g l' = latest group val g l) ↔
      Held key group val g l := by
  constructor
  · intro hstable
    by_contra hnot
    obtain ⟨v, hv⟩ : ∃ v, latest group val g l = some v := by
      rw [← Option.isSome_iff_exists, Option.isSome_iff_ne_none, ne_eq, latest_eq_none_iff]
      obtain ⟨r, hr, hrg⟩ := hg
      exact fun hnone => hnone r hr hrg
    have hsame := hstable _ (compacts_trim key group val g v l)
    rw [hv] at hsame
    by_cases hu : Uniform group val g v l
    · rw [latest_trim_of_uniform hnot hu] at hsame
      cases hsame
    · obtain ⟨v', hne, hlatest⟩ := latest_trim_of_not_uniform hnot hu
      rw [hlatest] at hsame
      exact hne (Option.some.inj hsame)
  · exact fun h l' hc => h.latest_eq hc

end Latest

end RefundOps
