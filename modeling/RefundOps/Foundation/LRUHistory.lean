import Mathlib.Data.Set.Card
import RefundOps.Contracts.Base
import RefundOps.Lib.LRUCache

/-!
# What an `_LRUCache` remembers

A history of calls on a cache that was empty at first. A call touches the key that it adds, or the key
that it looks up if the cache has it; a lookup that fails touches nothing. **`cache_remembers`**: at
any time the cache has the keys that were touched last, as many as fit, in the order of their last
touches. So a key is reported if and only if fewer than `maxsize` others have been touched since.
-/

set_option autoImplicit false

namespace RefundOps.Runtime

/-! ## Histories -/

inductive CacheCall where
  | add (key : UUID)
  | contains (key : UUID)

namespace CacheCall

/-- The cache after a call. -/
def run (cache : LRUCache UUID) : CacheCall → LRUCache UUID
  | .add key => cache.add key
  | .contains key => (cache.contains key).2

/-- The key that a call adds, or looks up with success. -/
def touched (cache : LRUCache UUID) : CacheCall → Option UUID
  | .add key => some key
  | .contains key => if (cache.contains key).1 then some key else none

end CacheCall

section History

variable (maxsize : Nat) (calls : List CacheCall)

def cacheAfter : LRUCache UUID := calls.foldl CacheCall.run (.empty maxsize)

/-- The key that call `n` touches, if it touches one. -/
def touchedAt (n : Nat) : Option UUID :=
  calls[n]?.bind fun call => call.touched (cacheAfter maxsize (calls.take n))

/-- Call `n` is the last that touches the key. -/
def LastTouched (n : Nat) (key : UUID) : Prop :=
  touchedAt maxsize calls n = some key ∧ ∀ n', touchedAt maxsize calls n' = some key → n' ≤ n

/-- The other keys that are touched after call `n`. -/
def touchedSince (n : Nat) (key : UUID) : Set UUID :=
  { other | other ≠ key ∧ ∃ n' > n, touchedAt maxsize calls n' = some other }

/-- What is to be said of a cache after a history. -/
structure Remembers : Prop where
  reported_iff (key : UUID) : ((cacheAfter maxsize calls).contains key).1 = true ↔
    CacheCall.add key ∈ calls ∧
      ∃ n, LastTouched maxsize calls n key ∧ (touchedSince maxsize calls n key).ncard < maxsize
  length_le : (cacheAfter maxsize calls).keys.length ≤ maxsize
  nodup : (cacheAfter maxsize calls).keys.Nodup
  ordered : (cacheAfter maxsize calls).keys.Pairwise fun key key' =>
    ∃ n n', LastTouched maxsize calls n key ∧ LastTouched maxsize calls n' key' ∧ n < n'

/-- The keys that are touched, in order. -/
def touches : List UUID := (List.range calls.length).filterMap (touchedAt maxsize calls)

end History

/-! ## The cache as its touches -/

section Touches

variable {maxsize : Nat} {calls : List CacheCall} {call : CacheCall} {cache : LRUCache UUID}
  {n : Nat} {key : UUID}

/-- A call does what adding the key that it touches would do. -/
theorem run_eq_foldl_add (h : cache.Fits) :
    call.run cache = (call.touched cache).toList.foldl LRUCache.add cache := by
  cases call with
  | add key => rfl
  | contains key =>
    unfold CacheCall.run CacheCall.touched
    dsimp only
    rw [LRUCache.contains_fst]
    by_cases hk : key ∈ cache.keys
    · rw [if_pos (decide_eq_true hk), LRUCache.contains_of_mem h hk]
      rfl
    · rw [if_neg (by simpa using hk), LRUCache.contains_of_notMem hk]
      rfl

theorem cacheAfter_concat :
    cacheAfter maxsize (calls ++ [call]) = call.run (cacheAfter maxsize calls) := by
  unfold cacheAfter
  rw [List.foldl_append, List.foldl_cons, List.foldl_nil]

/-- Later calls do not change what was touched. -/
theorem touchedAt_concat (h : n < calls.length) :
    touchedAt maxsize (calls ++ [call]) n = touchedAt maxsize calls n := by
  unfold touchedAt
  rw [List.getElem?_append_left h, List.take_append_of_le_length h.le]

theorem touchedAt_length :
    touchedAt maxsize (calls ++ [call]) calls.length = call.touched (cacheAfter maxsize calls) := by
  unfold touchedAt
  rw [List.getElem?_concat_length, List.take_left]
  rfl

theorem lt_length_of_touchedAt (h : touchedAt maxsize calls n = some key) : n < calls.length := by
  by_contra hn
  unfold touchedAt at h
  rw [List.getElem?_eq_none (not_lt.mp hn)] at h
  cases h

theorem touches_concat : touches maxsize (calls ++ [call]) =
    touches maxsize calls ++ (call.touched (cacheAfter maxsize calls)).toList := by
  unfold touches
  rw [List.length_append, List.length_singleton, List.range_succ, List.filterMap_append]
  congr 1
  · apply List.filterMap_congr
    intro n hn
    exact touchedAt_concat (List.mem_range.mp hn)
  · rw [List.filterMap_cons, touchedAt_length]
    cases call.touched (cacheAfter maxsize calls) <;> rfl

/-- **The keys of the cache**, after any history. -/
theorem cacheAfter_keys : (cacheAfter maxsize calls).Fits ∧
    (cacheAfter maxsize calls).maxsize = maxsize ∧
    (cacheAfter maxsize calls).keys = recent maxsize (touches maxsize calls) := by
  have hfold : cacheAfter maxsize calls =
      (touches maxsize calls).foldl LRUCache.add (.empty maxsize) := by
    induction calls using List.reverseRecOn with
    | nil => rfl
    | append_singleton calls call ih =>
      have hfits : (cacheAfter maxsize calls).Fits := by
        rw [ih]
        exact (LRUCache.foldl_add_keys (LRUCache.fits_empty maxsize) _).1
      rw [cacheAfter_concat, run_eq_foldl_add hfits, touches_concat, List.foldl_append, ← ih]
  rw [hfold]
  exact LRUCache.foldl_add_keys (LRUCache.fits_empty maxsize) _

/-- A key of the cache was added. -/
theorem add_mem_of_mem_keys (h : key ∈ (cacheAfter maxsize calls).keys) :
    CacheCall.add key ∈ calls := by
  induction calls using List.reverseRecOn with
  | nil => cases h
  | append_singleton calls call ih =>
    rw [cacheAfter_concat] at h
    cases call with
    | add key' =>
      have hfits := (@cacheAfter_keys maxsize calls).1
      have h : key ∈ ((cacheAfter maxsize calls).add key').keys := h
      rw [LRUCache.add_keys hfits] at h
      rcases List.mem_append.mp (List.mem_of_mem_drop h) with hold | hnew
      · exact List.mem_append_left _ (ih (List.mem_of_mem_erase hold))
      · rw [List.mem_singleton.mp hnew]
        exact List.mem_append_right _ List.mem_cons_self
    | contains key' => exact List.mem_append_left _ (ih (LRUCache.mem_contains.mp h))

end Touches

/-! ## Touches and when they were -/

section Moments

variable {maxsize : Nat} {calls : List CacheCall} {n : Nat} {key other : UUID}

/-- The touches, cut at one of them. -/
theorem touches_split (h : touchedAt maxsize calls n = some key) :
    ∃ before after, touches maxsize calls = before ++ key :: after ∧
      ∀ other, other ∈ after ↔ ∃ n' > n, touchedAt maxsize calls n' = some other := by
  have hn := lt_length_of_touchedAt h
  have hrange : List.range calls.length =
      List.range n ++ n :: List.range' (n + 1) (calls.length - (n + 1)) := by
    have hlen : calls.length = n + (calls.length - (n + 1) + 1) := by omega
    rw [List.range_eq_range', List.range_eq_range', ← List.range'_succ]
    conv_lhs => rw [hlen]
    rw [← List.range'_append_1, Nat.zero_add]
  refine ⟨(List.range n).filterMap (touchedAt maxsize calls),
    (List.range' (n + 1) (calls.length - (n + 1))).filterMap (touchedAt maxsize calls), ?_, ?_⟩
  · unfold touches
    rw [hrange, List.filterMap_append, List.filterMap_cons_some h]
  · intro other
    rw [List.mem_filterMap]
    constructor
    · rintro ⟨n', hn', ht⟩
      rw [List.mem_range'_1] at hn'
      exact ⟨n', by omega, ht⟩
    · rintro ⟨n', hn', ht⟩
      have hlt := lt_length_of_touchedAt ht
      refine ⟨n', List.mem_range'_1.mpr ?_, ht⟩
      omega

theorem exists_touchedAt_of_mem (h : key ∈ touches maxsize calls) :
    ∃ n, touchedAt maxsize calls n = some key := by
  obtain ⟨n, -, ht⟩ := List.mem_filterMap.mp h
  exact ⟨n, ht⟩

/-- There is a last touch if there is one. -/
theorem exists_lastTouched (h : key ∈ touches maxsize calls) :
    ∃ n, LastTouched maxsize calls n key := by
  obtain ⟨n, hn⟩ := exists_touchedAt_of_mem h
  classical
  have hbound : ∀ m, touchedAt maxsize calls m = some key → m ≤ calls.length :=
    fun m hm => (lt_length_of_touchedAt hm).le
  refine ⟨Nat.findGreatest (fun m => touchedAt maxsize calls m = some key) calls.length, ?_, ?_⟩
  · exact Nat.findGreatest_spec (P := fun m => touchedAt maxsize calls m = some key) (hbound n hn) hn
  · intro m hm
    exact Nat.le_findGreatest (hbound m hm) hm

/-- The touches, cut at the last one of a key. -/
theorem LastTouched.split (h : LastTouched maxsize calls n key) :
    ∃ before after, touches maxsize calls = before ++ key :: after ∧ key ∉ after ∧
      ∀ other, other ∈ after ↔ other ∈ touchedSince maxsize calls n key := by
  obtain ⟨before, after, hsplit, hafter⟩ := touches_split h.1
  have hkey : key ∉ after := by
    intro hmem
    obtain ⟨n', hn', ht⟩ := (hafter key).mp hmem
    exact absurd (h.2 n' ht) (not_le.mpr hn')
  refine ⟨before, after, hsplit, hkey, ?_⟩
  intro other
  constructor
  · intro hmem
    refine ⟨?_, (hafter other).mp hmem⟩
    rintro rfl
    exact hkey hmem
  · intro hmem
    exact (hafter other).mpr hmem.2

/-- What comes after the last touch, counted. -/
theorem LastTouched.mem_recent_iff (h : LastTouched maxsize calls n key) :
    key ∈ recent maxsize (touches maxsize calls) ↔
      (touchedSince maxsize calls n key).ncard < maxsize := by
  obtain ⟨before, after, hsplit, hkey, hafter⟩ := h.split
  have hset : touchedSince maxsize calls n key = (after.toFinset : Set UUID) := by
    ext other
    rw [Finset.mem_coe, List.mem_toFinset]
    exact (hafter other).symm
  rw [hsplit, mem_recent_split_iff hkey, hset, Set.ncard_coe_finset, List.card_toFinset]

end Moments

/-- **What the cache remembers**, of any size and after any history. -/
theorem cache_remembers (maxsize : Nat) (calls : List CacheCall) : Remembers maxsize calls := by
  obtain ⟨hfits, hsize, hkeys⟩ := @cacheAfter_keys maxsize calls
  constructor
  · intro key
    rw [LRUCache.contains_fst, decide_eq_true_iff]
    constructor
    · intro hmem
      have hrecent := hmem
      rw [hkeys] at hrecent
      obtain ⟨n, hlast⟩ :=
        exists_lastTouched (List.mem_dedup.mp (List.mem_of_mem_drop hrecent))
      exact ⟨add_mem_of_mem_keys hmem, n, hlast, hlast.mem_recent_iff.mp hrecent⟩
    · rintro ⟨-, n, hlast, hfew⟩
      rw [hkeys]
      exact hlast.mem_recent_iff.mpr hfew
  · have hle : (cacheAfter maxsize calls).keys.length ≤ (cacheAfter maxsize calls).maxsize := hfits
    rwa [hsize] at hle
  · exact (cacheAfter maxsize calls).nodup
  · rw [hkeys]
    refine (pairwise_recent maxsize (touches maxsize calls)).imp ?_
    rintro key key' ⟨before, after, hsplit, hkey, hmem⟩
    obtain ⟨n, hlast⟩ : ∃ n, LastTouched maxsize calls n key := by
      apply exists_lastTouched
      rw [hsplit]
      exact List.mem_append_right _ List.mem_cons_self
    obtain ⟨n', hlast'⟩ : ∃ n', LastTouched maxsize calls n' key' := by
      apply exists_lastTouched
      rw [hsplit]
      exact List.mem_append_right _ (List.mem_cons_of_mem _ hmem)
    refine ⟨n, n', hlast, hlast', ?_⟩
    -- both cuts are at the last touch of `key`, and what comes after it is the same
    obtain ⟨before₁, after₁, hsplit₁, hkey₁, hafter₁⟩ := hlast.split
    rw [hsplit] at hsplit₁
    have hsame : after = after₁ := last_split_unique hsplit₁ hkey hkey₁
    rw [← hsame] at hafter₁
    obtain ⟨-, m, hm, ht⟩ := (hafter₁ key').mp hmem
    exact lt_of_lt_of_le hm (hlast'.2 m ht)

example : (cacheAfter 2 [.add 1, .add 2, .contains 1, .add 3]).keys = [1, 3] := by decide

end RefundOps.Runtime
