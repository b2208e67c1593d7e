import Mathlib.Data.Finset.Card
import Mathlib.Data.List.Dedup
import Mathlib.Data.List.DropRight

/-!
# A cache of the keys used last

`OrderedDict` as a least-recently-used set of keys: from the oldest to the newest, each once.
Both a successful lookup and an insertion move a key to the end, and an insertion beyond the
size drops the oldest.

As long as the keys in use fit, the cache forgets nothing: `mem_add` says so for an insertion,
given a finite set of at most `maxsize` keys that all of them come from.

Beyond that it is the *recency* that counts. A lookup that finds its key is an insertion of it
(`contains_of_mem`), and after a sequence of insertions the cache has the keys that were used last,
as many of them as fit: `foldl_add_keys`, where `recent n l` is the last `n` distinct elements of
`l`, in the order of their last occurrences.
-/

set_option autoImplicit false

namespace RefundOps

structure LRUCache (α : Type) where
  keys : List α
  maxsize : Nat
  nodup : keys.Nodup

namespace LRUCache

variable {α : Type}

def empty (maxsize : Nat) : LRUCache α := { keys := [], maxsize, nodup := List.nodup_nil }

variable [DecidableEq α]

theorem nodup_touch {keys : List α} (h : keys.Nodup) (k : α) : (keys.erase k ++ [k]).Nodup := by
  rw [List.nodup_append]
  refine ⟨h.erase k, List.nodup_singleton k, ?_⟩
  intro a ha b hb
  rw [List.mem_singleton.mp hb]
  exact (h.mem_erase_iff.mp ha).1

/-- `move_to_end`, of a key that is there or of one that has just been put there. -/
def touch (c : LRUCache α) (k : α) : LRUCache α :=
  { c with keys := c.keys.erase k ++ [k], nodup := nodup_touch c.nodup k }

/-- `popitem(last=False)`. -/
def popOldest (c : LRUCache α) : LRUCache α := { c with keys := c.keys.tail, nodup := c.nodup.tail }

/-- `key in cache`, which refreshes the key it finds. -/
def contains (c : LRUCache α) (k : α) : Bool × LRUCache α :=
  if k ∈ c.keys then (true, c.touch k) else (false, c)

def add (c : LRUCache α) (k : α) : LRUCache α :=
  let c := c.touch k
  if c.keys.length > c.maxsize then c.popOldest else c

section Members

variable {c : LRUCache α} {j k : α}

@[simp] theorem contains_fst : (c.contains k).1 = decide (k ∈ c.keys) := by
  unfold contains
  split <;> simp [*]

theorem mem_touch : j ∈ (c.touch k).keys ↔ j = k ∨ j ∈ c.keys := by
  unfold touch
  rw [List.mem_append, List.mem_singleton, c.nodup.mem_erase_iff]
  tauto

/-- A lookup changes the order and nothing else. -/
@[simp] theorem mem_contains : j ∈ (c.contains k).2.keys ↔ j ∈ c.keys := by
  unfold contains
  split
  · rename_i hk
    rw [mem_touch]
    constructor
    · rintro (rfl | hj)
      · exact hk
      · exact hj
    · exact .inr
  · rfl

@[simp] theorem contains_maxsize : (c.contains k).2.maxsize = c.maxsize := by
  unfold contains
  split <;> rfl

@[simp] theorem add_maxsize : (c.add k).maxsize = c.maxsize := by
  unfold add
  dsimp only
  split <;> rfl

/-- **Nothing is forgotten** while all the keys come from a set that fits. -/
theorem mem_add {F : Finset α} (hsub : ∀ x ∈ c.keys, x ∈ F) (hk : k ∈ F)
    (hfits : F.card ≤ c.maxsize) : j ∈ (c.add k).keys ↔ j = k ∨ j ∈ c.keys := by
  have hlen : ¬ (c.touch k).keys.length > (c.touch k).maxsize := by
    have hle : (c.touch k).keys.toFinset ⊆ F := by
      intro x hx
      rcases mem_touch.mp (List.mem_toFinset.mp hx) with rfl | hx
      · exact hk
      · exact hsub x hx
    rw [← List.toFinset_card_of_nodup (c.touch k).nodup]
    exact not_lt.mpr ((Finset.card_le_card hle).trans hfits)
  unfold add
  dsimp only
  rw [if_neg hlen]
  exact mem_touch

end Members

end LRUCache

/-! ## The last distinct elements -/

section Recent

variable {α : Type}

theorem rtake_of_length_le {l : List α} {n : Nat} (h : l.length ≤ n) : l.rtake n = l := by
  unfold List.rtake
  rw [Nat.sub_eq_zero_of_le h, List.drop_zero]

theorem rtake_append_right (l : List α) {m : List α} {n : Nat} (h : n ≤ m.length) :
    (l ++ m).rtake n = m.rtake n := by
  unfold List.rtake
  have hskip : (l ++ m).length - n = l.length + (m.length - n) := by
    rw [List.length_append]
    omega
  rw [hskip, List.drop_append, List.drop_eq_nil_of_le (Nat.le_add_right _ _), List.nil_append,
    Nat.add_sub_cancel_left]

/-- What comes after the last occurrence of an element. -/
theorem last_split_unique {pre pre' post post' : List α} {k : α}
    (h : pre ++ k :: post = pre' ++ k :: post') (hk : k ∉ post) (hk' : k ∉ post') :
    post = post' := by
  rcases List.append_eq_append_iff.mp h with ⟨z, -, hz⟩ | ⟨z, -, hz⟩
  · cases z with
    | nil => exact (List.cons.inj hz).2
    | cons c z =>
      have hpost : post = z ++ k :: post' := (List.cons.inj hz).2
      rw [hpost] at hk
      exact absurd (List.mem_append_right _ List.mem_cons_self) hk
  · cases z with
    | nil => exact (List.cons.inj hz).2.symm
    | cons c z =>
      have hpost : post' = z ++ k :: post := (List.cons.inj hz).2
      rw [hpost] at hk'
      exact absurd (List.mem_append_right _ List.mem_cons_self) hk'

variable [DecidableEq α]

/-- The last `n` distinct elements of `l`, in the order of their last occurrences. -/
def recent (n : Nat) (l : List α) : List α := l.dedup.rtake n

theorem recent_of_nodup {n : Nat} {l : List α} (hd : l.Nodup) (hl : l.length ≤ n) :
    recent n l = l := by
  unfold recent
  rw [hd.dedup, rtake_of_length_le hl]

theorem dedup_concat (l : List α) (k : α) : (l ++ [k]).dedup = l.dedup.erase k ++ [k] := by
  induction l with
  | nil => rfl
  | cons x l ih =>
    rw [List.cons_append]
    by_cases hx : x ∈ l
    · rw [List.dedup_cons_of_mem (List.mem_append_left [k] hx), List.dedup_cons_of_mem hx, ih]
    · rw [List.dedup_cons_of_notMem hx]
      by_cases hk : x = k
      · subst hk
        rw [List.dedup_cons_of_mem (by simp), ih, List.erase_cons_head,
          List.erase_of_not_mem (by simpa using hx)]
      · rw [List.dedup_cons_of_notMem (by simp [hx, hk]), ih,
          List.erase_cons_tail (by simpa using hk), List.cons_append]

/-- What is dropped on the left does not matter to what is kept of one element more. -/
theorem rtake_erase_rtake {l : List α} (hd : l.Nodup) (n : Nat) (k : α) :
    ((l.rtake (n + 1)).erase k).rtake n = (l.erase k).rtake n := by
  by_cases hlen : l.length ≤ n + 1
  · rw [rtake_of_length_le hlen]
  obtain ⟨dropped, kept, rfl, hkept⟩ : ∃ dropped kept, l = dropped ++ kept ∧
      kept.length = n + 1 := by
    refine ⟨l.take (l.length - (n + 1)), l.drop (l.length - (n + 1)), ?_, ?_⟩
    · exact (List.take_append_drop _ _).symm
    · rw [List.length_drop]
      omega
  have hlast : (dropped ++ kept).rtake (n + 1) = kept := by
    rw [rtake_append_right dropped hkept.ge, rtake_of_length_le hkept.le]
  rw [hlast]
  by_cases hk : k ∈ kept
  · have hnot : k ∉ dropped := fun hc => (List.nodup_append.mp hd).2.2 k hc k hk rfl
    rw [List.erase_append_right _ hnot, rtake_append_right]
    rw [List.length_erase_of_mem hk]
    omega
  · rw [List.erase_of_not_mem hk]
    by_cases hk' : k ∈ dropped
    · rw [List.erase_append_left _ hk', rtake_append_right]
      omega
    · rw [List.erase_of_not_mem (by simp [hk, hk']), rtake_append_right]
      omega

/-- One more element makes room for itself. -/
theorem recent_concat (n : Nat) (l : List α) (k : α) :
    recent n (l ++ [k]) = ((recent n l).erase k ++ [k]).rtake n := by
  unfold recent
  rw [dedup_concat]
  cases n with
  | zero => rw [List.rtake_zero, List.rtake_zero]
  | succ n =>
    rw [List.rtake_concat_succ, List.rtake_concat_succ,
      rtake_erase_rtake (List.nodup_dedup l)]

theorem exists_last_of_mem {l : List α} {k : α} (h : k ∈ l) :
    ∃ pre post, l = pre ++ k :: post ∧ k ∉ post := by
  induction l with
  | nil => exact absurd h List.not_mem_nil
  | cons x l ih =>
    by_cases hl : k ∈ l
    · obtain ⟨pre, post, rfl, hk⟩ := ih hl
      exact ⟨x :: pre, post, rfl, hk⟩
    · obtain rfl := (List.mem_cons.mp h).resolve_right hl
      exact ⟨[], l, rfl, hl⟩

/-- What is kept of a list that is split at the last occurrence of an element. -/
theorem mem_recent_split_iff {n : Nat} {pre post : List α} {k : α} (hk : k ∉ post) :
    k ∈ recent n (pre ++ k :: post) ↔ post.dedup.length < n := by
  obtain ⟨older, holder⟩ : ∃ older, (pre ++ k :: post).dedup = older ++ k :: post.dedup := by
    obtain ⟨older, holder⟩ := List.suffix_union_right pre (k :: post).dedup
    rw [List.dedup_cons_of_notMem hk] at holder
    rw [List.dedup_append, List.dedup_cons_of_notMem hk]
    exact ⟨older, holder.symm⟩
  have hk' : k ∉ post.dedup := by simpa using hk
  unfold recent
  rw [holder]
  by_cases hn : post.dedup.length < n
  · refine iff_of_true ?_ hn
    -- the last `n` reach back to `k` at least
    have hin : k ∈ (older ++ k :: post.dedup).drop
        ((older ++ k :: post.dedup).length - n) := by
      have hskip : (older ++ k :: post.dedup).length - n ≤ older.length := by
        simp only [List.length_append, List.length_cons]
        omega
      rw [List.drop_append_of_le_length hskip]
      exact List.mem_append_right _ (List.mem_cons_self ..)
    exact hin
  · refine iff_of_false ?_ hn
    have hcut : older ++ k :: post.dedup = (older ++ [k]) ++ post.dedup := by simp
    rw [hcut, rtake_append_right _ (not_lt.mp hn)]
    exact fun hc => hk' (List.mem_of_mem_drop hc)

/-- **An element is among the last `n` exactly if fewer than `n` others came after it.** -/
theorem mem_recent_iff {n : Nat} {l : List α} {k : α} :
    k ∈ recent n l ↔ ∃ pre post, l = pre ++ k :: post ∧ k ∉ post ∧ post.dedup.length < n := by
  constructor
  · intro hmem
    have hin : k ∈ l := List.mem_dedup.mp (List.mem_of_mem_drop hmem)
    obtain ⟨pre, post, rfl, hk⟩ := exists_last_of_mem hin
    exact ⟨pre, post, rfl, hk, (mem_recent_split_iff hk).mp hmem⟩
  · rintro ⟨pre, post, rfl, hk, hn⟩
    exact (mem_recent_split_iff hk).mpr hn

/-- **The order** is that of the last occurrences: after the last one of an element come all the
    elements behind it. -/
theorem pairwise_recent (n : Nat) (l : List α) :
    (recent n l).Pairwise fun a b => ∃ pre post, l = pre ++ a :: post ∧ a ∉ post ∧ b ∈ post := by
  have hdedup : l.dedup.Pairwise
      fun a b => ∃ pre post, l = pre ++ a :: post ∧ a ∉ post ∧ b ∈ post := by
    induction l with
    | nil => exact List.Pairwise.nil
    | cons x l ih =>
      have hmore : l.dedup.Pairwise
          fun a b => ∃ pre post, x :: l = pre ++ a :: post ∧ a ∉ post ∧ b ∈ post := by
        refine ih.imp ?_
        rintro a b ⟨pre, post, rfl, ha, hb⟩
        exact ⟨x :: pre, post, rfl, ha, hb⟩
      by_cases hx : x ∈ l
      · rw [List.dedup_cons_of_mem hx]
        exact hmore
      · rw [List.dedup_cons_of_notMem hx]
        refine List.pairwise_cons.mpr ⟨?_, hmore⟩
        intro b hb
        exact ⟨[], l, rfl, hx, List.mem_dedup.mp hb⟩
  exact hdedup.sublist (List.drop_sublist _ _)

end Recent

namespace LRUCache

variable {α : Type}

/-- The cache is not larger than it may be. -/
def Fits (c : LRUCache α) : Prop := c.keys.length ≤ c.maxsize

theorem fits_empty (n : Nat) : (empty n : LRUCache α).Fits := Nat.zero_le n

variable [DecidableEq α] {c : LRUCache α} {k : α}

theorem length_touch_le (c : LRUCache α) (k : α) :
    (c.touch k).keys.length ≤ c.keys.length + 1 := by
  show (c.keys.erase k ++ [k]).length ≤ _
  rw [List.length_append, List.length_singleton]
  exact Nat.add_le_add_right List.length_erase_le 1

/-- An insertion, as what it leaves. -/
theorem add_keys (h : c.Fits) (k : α) :
    (c.add k).keys = (c.keys.erase k ++ [k]).rtake c.maxsize := by
  have hlen : (c.keys.erase k ++ [k]).length ≤ c.maxsize + 1 :=
    (length_touch_le c k).trans (Nat.add_le_add_right h 1)
  unfold add popOldest touch
  dsimp only
  split
  · rename_i hfull
    have hone : (c.keys.erase k ++ [k]).length - c.maxsize = 1 := by omega
    rw [List.rtake, hone, List.drop_one]
  · rename_i hroom
    exact (rtake_of_length_le (not_lt.mp hroom)).symm

theorem Fits.add (h : c.Fits) (k : α) : (c.add k).Fits := by
  unfold Fits
  rw [add_maxsize, add_keys h, List.rtake, List.length_drop]
  omega

/-- A lookup that finds its key inserts it again. -/
theorem contains_of_mem (h : c.Fits) (hk : k ∈ c.keys) : (c.contains k).2 = c.add k := by
  have hroom : ¬ (c.touch k).keys.length > c.maxsize := by
    show ¬ (c.keys.erase k ++ [k]).length > _
    have hpos := List.length_pos_of_mem hk
    rw [List.length_append, List.length_singleton, List.length_erase_of_mem hk]
    have hfits : c.keys.length ≤ c.maxsize := h
    omega
  unfold contains LRUCache.add
  rw [if_pos hk]
  exact (if_neg hroom).symm

theorem contains_of_notMem (hk : k ∉ c.keys) : (c.contains k).2 = c := by
  unfold contains
  rw [if_neg hk]

theorem Fits.contains (h : c.Fits) (k : α) : (c.contains k).2.Fits := by
  by_cases hk : k ∈ c.keys
  · rw [contains_of_mem h hk]
    exact h.add k
  · rwa [contains_of_notMem hk]

/-- An insertion that makes room for itself: the oldest key goes. -/
theorem mem_add_of_full {j : α} (hk : k ∉ c.keys) (hfull : c.keys.length = c.maxsize)
    (hpos : 0 < c.maxsize) :
    j ∈ (c.add k).keys ↔ j = k ∨ j ∈ c.keys ∧ c.keys.head? ≠ some j := by
  have hlen : (c.touch k).keys.length > c.maxsize := by
    show (c.keys.erase k ++ [k]).length > _
    rw [List.erase_of_not_mem hk, List.length_append, List.length_singleton]
    omega
  have hkeys : (c.add k).keys = (c.keys ++ [k]).tail := by
    unfold LRUCache.add
    dsimp only
    rw [if_pos (show (c.touch k).keys.length > (c.touch k).maxsize from hlen)]
    show (c.keys.erase k ++ [k]).tail = _
    rw [List.erase_of_not_mem hk]
  rw [hkeys]
  have hnodup := c.nodup
  cases hc : c.keys with
  | nil => simp [hc, ← hfull] at hpos
  | cons a rest =>
    rw [hc, List.nodup_cons] at hnodup
    have hne : ∀ x ∈ rest, a ≠ x := fun x hx h => hnodup.1 (h ▸ hx)
    simp only [List.cons_append, List.tail_cons, List.mem_append, List.mem_cons,
      List.not_mem_nil, or_false, List.head?_cons, ne_eq, Option.some.injEq]
    constructor
    · rintro (hj | rfl)
      · exact .inr ⟨.inr hj, hne j hj⟩
      · exact .inl rfl
    · rintro (rfl | ⟨rfl | hj, hja⟩)
      · exact .inr rfl
      · exact absurd rfl hja
      · exact .inl hj

theorem mem_add_of_room {j : α} (hroom : k ∈ c.keys ∨ c.keys.length < c.maxsize) (h : c.Fits) :
    j ∈ (c.add k).keys ↔ j = k ∨ j ∈ c.keys := by
  have hlen : ¬ (c.touch k).keys.length > c.maxsize := by
    show ¬ (c.keys.erase k ++ [k]).length > _
    rw [List.length_append, List.length_singleton]
    rcases hroom with hk | hroom
    · have hpos := List.length_pos_of_mem hk
      have hfits : c.keys.length ≤ c.maxsize := h
      rw [List.length_erase_of_mem hk]
      omega
    · have hle : (c.keys.erase k).length ≤ c.keys.length := List.length_erase_le
      omega
  unfold LRUCache.add
  dsimp only
  rw [if_neg (show ¬ (c.touch k).keys.length > (c.touch k).maxsize from hlen)]
  exact mem_touch

/-- Two caches have the same keys, in whatever order. -/
def Same (c d : LRUCache α) : Prop := ∀ j, j ∈ c.keys ↔ j ∈ d.keys

/-- **Two caches with the same keys keep the same keys exactly if they drop the same one.** -/
theorem same_add_iff {d : LRUCache α} (h : c.Same d) (hc : c.Fits) (hd : d.Fits)
    (hsize : d.maxsize = c.maxsize) (hpos : 0 < c.maxsize) (k : α) :
    (c.add k).Same (d.add k) ↔
      (k ∉ c.keys → c.keys.length = c.maxsize → c.keys.head? = d.keys.head?) := by
  have hlen : d.keys.length = c.keys.length :=
    ((List.perm_ext_iff_of_nodup d.nodup c.nodup).mpr fun j => (h j).symm).length_eq
  by_cases hroom : k ∈ c.keys ∨ c.keys.length < c.maxsize
  · have hroom' : k ∈ d.keys ∨ d.keys.length < d.maxsize := by
      rwa [hsize, hlen, ← h k]
    refine iff_of_true (fun j => ?_) fun hk hfull => ?_
    · rw [mem_add_of_room hroom hc, mem_add_of_room hroom' hd, h j]
    · rcases hroom with hroom | hroom
      · exact absurd hroom hk
      · omega
  · rw [not_or, not_lt] at hroom
    obtain ⟨hk, hle⟩ := hroom
    have hfull : c.keys.length = c.maxsize := le_antisymm hc hle
    have hfull' : d.keys.length = d.maxsize := by rw [hlen, hsize, hfull]
    have hk' : k ∉ d.keys := fun hkd => hk ((h k).mpr hkd)
    have hdrop : ∀ j, j ∈ (c.add k).keys ↔ j = k ∨ j ∈ c.keys ∧ c.keys.head? ≠ some j :=
      fun j => mem_add_of_full hk hfull hpos
    have hdrop' : ∀ j, j ∈ (d.add k).keys ↔ j = k ∨ j ∈ d.keys ∧ d.keys.head? ≠ some j :=
      fun j => mem_add_of_full hk' hfull' (hsize ▸ hpos)
    constructor
    · intro hsame _ _
      -- the key that `c` drops is not kept by `d`, so `d` drops it
      cases hc' : c.keys with
      | nil => simp [hc', ← hfull] at hpos
      | cons a rest =>
        have ha : a ∈ c.keys := by rw [hc']; exact List.mem_cons_self ..
        have hne : a ≠ k := fun heq => hk (heq ▸ ha)
        have hnot : a ∉ (c.add k).keys := by
          rw [hdrop a, hc']
          simp [hne]
        rw [hsame a, hdrop' a, not_or, not_and, not_not] at hnot
        rw [List.head?_cons, hnot.2 ((h a).mp ha)]
    · intro hhead j
      rw [hdrop j, hdrop' j, h j, hhead hk hfull]

/-- **After a sequence of insertions the cache has what was used last.** -/
theorem foldl_add_keys (h : c.Fits) (l : List α) :
    (l.foldl add c).Fits ∧ (l.foldl add c).maxsize = c.maxsize ∧
      (l.foldl add c).keys = recent c.maxsize (c.keys ++ l) := by
  induction l using List.reverseRecOn with
  | nil => exact ⟨h, rfl, by rw [List.append_nil, List.foldl_nil, recent_of_nodup c.nodup h]⟩
  | append_singleton l k ih =>
    obtain ⟨hfits, hsize, hkeys⟩ := ih
    rw [List.foldl_append, List.foldl_cons, List.foldl_nil]
    refine ⟨hfits.add k, by rw [add_maxsize, hsize], ?_⟩
    rw [add_keys hfits, hkeys, hsize, ← List.append_assoc, recent_concat]

end LRUCache

end RefundOps
