import RefundOps.Lib.Compaction
import RefundOps.Foundation.Runtime

/-!
# The idempotency tracker

`IdempotencyTracker`: a least-recently-used cache of processed ids, and a compacted topic that
each of them is written to, from which the cache of a new process is rebuilt. The topic has one
partition, and a record is the id, under the id.

The two forget by different clocks. The cache drops what was *touched* least recently, and a lookup
that finds its id touches it; the topic has only the marks, so a cache that is rebuilt has what was
*marked* last. `EvictsInOrder` is a mark that drops the same id by both clocks. As long as all
marks do, the tracker answers after a restart as before it, and the first one that does not makes
the difference (`dedup_survives_restart`).
-/

set_option autoImplicit false

namespace RefundOps.Runtime

structure IdempotencyTracker where
  lru : LRUCache UUID
  initialized : Bool

namespace IdempotencyTracker

def fresh : IdempotencyTracker := { lru := .empty trackerSize, initialized := false }

/-- `_rebuild_from_topic`: every id of the topic, in order. -/
def rebuildFromTopic (t : IdempotencyTracker) (topic : List UUID) : IdempotencyTracker :=
  { t with lru := topic.foldl LRUCache.add t.lru }

/-- `initialize`, from a topic that can be read. -/
def initializeFrom (t : IdempotencyTracker) (topic : List UUID) : IdempotencyTracker :=
  { t.rebuildFromTopic topic with initialized := true }

/-- The tracker that a lookup looks at: one that is not initialized is initialized first. -/
def ready (t : IdempotencyTracker) (topic : List UUID) : IdempotencyTracker :=
  if t.initialized then t else t.initializeFrom topic

def isDuplicate (t : IdempotencyTracker) (topic : List UUID) (eventId : UUID) :
    Bool × IdempotencyTracker :=
  let found := (t.ready topic).lru.contains eventId
  (found.1, { t.ready topic with lru := found.2 })

/-- `mark_processed`, without the persisting. -/
def markProcessed (t : IdempotencyTracker) (eventId : UUID) : IdempotencyTracker :=
  { t with lru := t.lru.add eventId }

end IdempotencyTracker

/-- A tracker and its topic. -/
structure TrackerState where
  tracker : IdempotencyTracker
  topic : List UUID

namespace TrackerState

/-- `mark_processed`, persisted. -/
def mark (s : TrackerState) (eventId : UUID) : TrackerState :=
  { tracker := s.tracker.markProcessed eventId, topic := s.topic ++ [eventId] }

def lookup (s : TrackerState) (eventId : UUID) : TrackerState :=
  { s with tracker := (s.tracker.isDuplicate s.topic eventId).2 }

/-- What the tracker calls a duplicate. -/
def Reports (s : TrackerState) (eventId : UUID) : Prop :=
  (s.tracker.isDuplicate s.topic eventId).1 = true

/-- A new process finds the topic, compacted or not, and calls the same ids duplicates. -/
def SurvivesRestart (s : TrackerState) : Prop :=
  ∀ topic, Compacts id s.topic topic →
    ∀ eventId, ({ tracker := .fresh, topic } : TrackerState).Reports eventId ↔ s.Reports eventId

/-- A mark that makes the cache drop an id drops the one that was marked least recently. -/
def EvictsInOrder (s : TrackerState) (eventId : UUID) : Prop :=
  s.tracker.initialized = true → eventId ∉ s.tracker.lru.keys →
    s.tracker.lru.keys.length = trackerSize →
    s.tracker.lru.keys.head? = (recent trackerSize s.topic).head?

end TrackerState

/-- The states of a tracker that starts over a topic: marks, each as `Ok` allows it, lookups and
    compactions of the topic, in any order. -/
inductive Tracked (Ok : TrackerState → UUID → Prop) : TrackerState → Prop where
  | start (topic : List UUID) : Tracked Ok { tracker := .fresh, topic }
  | mark {s : TrackerState} (h : Tracked Ok s) (eventId : UUID) (hok : Ok s eventId) :
      Tracked Ok (s.mark eventId)
  | lookup {s : TrackerState} (h : Tracked Ok s) (eventId : UUID) : Tracked Ok (s.lookup eventId)
  | compact {s : TrackerState} (h : Tracked Ok s) {topic : List UUID}
      (hc : Compacts id s.topic topic) : Tracked Ok { s with topic }

theorem Tracked.mono {Ok Ok' : TrackerState → UUID → Prop} {s : TrackerState} (h : Tracked Ok s)
    (himp : ∀ s eventId, Ok s eventId → Ok' s eventId) : Tracked Ok' s := by
  induction h with
  | start topic => exact .start topic
  | mark _ eventId hok ih => exact .mark ih eventId (himp _ _ hok)
  | lookup _ eventId ih => exact .lookup ih eventId
  | compact _ hc ih => exact .compact ih hc

/-! ## The cache that is rebuilt -/

/-- The cache of a new process. -/
def rebuilt (topic : List UUID) : LRUCache UUID := topic.foldl LRUCache.add (.empty trackerSize)

theorem rebuilt_spec (topic : List UUID) :
    (rebuilt topic).Fits ∧ (rebuilt topic).maxsize = trackerSize ∧
      (rebuilt topic).keys = recent trackerSize topic :=
  LRUCache.foldl_add_keys (LRUCache.fits_empty trackerSize) topic

theorem rebuilt_concat (topic : List UUID) (eventId : UUID) :
    rebuilt (topic ++ [eventId]) = (rebuilt topic).add eventId := by
  unfold rebuilt
  rw [List.foldl_append, List.foldl_cons, List.foldl_nil]

/-- **Compaction does not change what is rebuilt.** -/
theorem recent_of_compacts {topic topic' : List UUID} (h : Compacts id topic topic') (n : Nat) :
    recent n topic' = recent n topic := by
  have hdedup := h.dedup_keys
  rw [List.map_id, List.map_id] at hdedup
  unfold recent
  rw [hdedup]

/-- Ids that the topic has anyway do not matter in front of it. -/
theorem recent_append_of_subset {l topic : List UUID} (h : ∀ x ∈ l, x ∈ topic) (n : Nat) :
    recent n (l ++ topic) = recent n topic := by
  unfold recent
  congr 1
  induction l with
  | nil => rfl
  | cons x l ih =>
    rw [List.forall_mem_cons] at h
    rw [List.cons_append, List.dedup_cons_of_mem (List.mem_append_right l h.1), ih h.2]

/-! ## The tracker and its topic -/

/-- What holds of the cache in every state: it is a cache of the right size, and every id in it was
    written to the topic. -/
structure TrackerState.Sound (s : TrackerState) : Prop where
  fits : s.tracker.lru.Fits
  maxsize : s.tracker.lru.maxsize = trackerSize
  marked : ∀ x ∈ s.tracker.lru.keys, x ∈ s.topic

/-- The cache has the keys of the one that would be rebuilt. -/
def TrackerState.InStep (s : TrackerState) : Prop :=
  s.tracker.initialized = true → s.tracker.lru.Same (rebuilt s.topic)

namespace TrackerState

variable {s : TrackerState}

/-- The tracker that a lookup looks at is sound. -/
theorem Sound.ready (h : s.Sound) : ({ s with tracker := s.tracker.ready s.topic } :
    TrackerState).Sound := by
  by_cases hinit : s.tracker.initialized = true
  · have heq : s.tracker.ready s.topic = s.tracker := if_pos hinit
    rw [heq]
    exact h
  · have heq : s.tracker.ready s.topic = s.tracker.initializeFrom s.topic := if_neg hinit
    obtain ⟨hfits, hsize, hkeys⟩ := LRUCache.foldl_add_keys h.fits s.topic
    rw [heq]
    refine ⟨hfits, hsize.trans h.maxsize, ?_⟩
    intro x hx
    have hx : x ∈ (s.topic.foldl LRUCache.add s.tracker.lru).keys := hx
    rw [hkeys, recent_append_of_subset h.marked] at hx
    exact List.mem_dedup.mp (List.mem_of_mem_drop hx)

theorem Sound.mark (h : s.Sound) (eventId : UUID) : (s.mark eventId).Sound := by
  refine ⟨h.fits.add eventId, LRUCache.add_maxsize.trans h.maxsize, ?_⟩
  intro x hx
  have hx : x ∈ (s.tracker.lru.add eventId).keys := hx
  rw [LRUCache.add_keys h.fits] at hx
  show x ∈ s.topic ++ [eventId]
  rcases List.mem_append.mp (List.mem_of_mem_drop hx) with hx | hx
  · exact List.mem_append_left _ (h.marked x (List.mem_of_mem_erase hx))
  · exact List.mem_append_right _ hx

theorem sound_of_tracked {Ok : TrackerState → UUID → Prop} (h : Tracked Ok s) : s.Sound := by
  induction h with
  | start topic => exact ⟨LRUCache.fits_empty _, rfl, by simp [IdempotencyTracker.fresh, LRUCache.empty]⟩
  | mark _ eventId _ ih => exact ih.mark eventId
  | @lookup s _ eventId ih =>
    have hready := ih.ready
    refine ⟨hready.fits.contains eventId, LRUCache.contains_maxsize.trans hready.maxsize, ?_⟩
    intro x hx
    exact hready.marked x (LRUCache.mem_contains.mp hx)
  | compact _ hc ih =>
    refine ⟨ih.fits, ih.maxsize, fun x hx => ?_⟩
    have hkeys := hc.mem_keys_iff x
    rw [List.map_id, List.map_id] at hkeys
    exact hkeys.mpr (ih.marked x hx)

theorem reports_iff (eventId : UUID) :
    s.Reports eventId ↔ eventId ∈ (s.tracker.ready s.topic).lru.keys := by
  unfold Reports IdempotencyTracker.isDuplicate
  rw [LRUCache.contains_fst, decide_eq_true_iff]

theorem lookup_of_initialized (hinit : s.tracker.initialized = true) (eventId : UUID) :
    s.lookup eventId =
      { s with tracker := { s.tracker with lru := (s.tracker.lru.contains eventId).2 } } := by
  have hready : s.tracker.ready s.topic = s.tracker := if_pos hinit
  unfold lookup IdempotencyTracker.isDuplicate
  rw [hready]

/-- A tracker that is not initialized answers from the topic. -/
theorem reports_of_uninitialized (h : s.Sound) (hinit : ¬ s.tracker.initialized = true)
    (eventId : UUID) : s.Reports eventId ↔ eventId ∈ (rebuilt s.topic).keys := by
  obtain ⟨-, -, hkeys⟩ := LRUCache.foldl_add_keys h.fits s.topic
  have heq : s.tracker.ready s.topic = s.tracker.initializeFrom s.topic := if_neg hinit
  have hready : (s.tracker.ready s.topic).lru.keys = (rebuilt s.topic).keys := by
    rw [heq, (rebuilt_spec s.topic).2.2]
    show (s.topic.foldl LRUCache.add s.tracker.lru).keys = _
    rw [hkeys, recent_append_of_subset h.marked, h.maxsize]
  rw [reports_iff, hready]

/-- **A restart goes unnoticed exactly if the cache has the keys of the one that is rebuilt.** -/
theorem survivesRestart_iff (h : s.Sound) : s.SurvivesRestart ↔ s.InStep := by
  have hnew : ∀ topic eventId, Compacts id s.topic topic →
      (({ tracker := .fresh, topic } : TrackerState).Reports eventId ↔
        eventId ∈ (rebuilt s.topic).keys) := by
    intro topic eventId hc
    have hstart : Tracked (fun _ _ => True) { tracker := .fresh, topic } := .start topic
    have hsound := sound_of_tracked hstart
    rw [reports_of_uninitialized hsound Bool.false_ne_true, (rebuilt_spec topic).2.2,
      (rebuilt_spec s.topic).2.2, recent_of_compacts hc]
  by_cases hinit : s.tracker.initialized = true
  · have hready : s.tracker.ready s.topic = s.tracker := if_pos hinit
    have hold : ∀ eventId, s.Reports eventId ↔ eventId ∈ s.tracker.lru.keys := by
      intro eventId
      rw [reports_iff, hready]
    constructor
    · intro hsurvives _ eventId
      rw [← hold, ← hsurvives s.topic (.refl _) eventId, hnew _ _ (.refl _)]
    · intro hstep topic hc eventId
      rw [hnew topic eventId hc, hold]
      exact (hstep hinit eventId).symm
  · refine iff_of_true (fun topic hc eventId => ?_) fun hc => absurd hc hinit
    rw [hnew topic eventId hc, reports_of_uninitialized h hinit]

/-! ## One step -/

/-- **A mark keeps the two caches in step exactly if it drops the same id from both.** -/
theorem mark_inStep_iff (h : s.Sound) (hstep : s.InStep) (eventId : UUID) :
    (s.mark eventId).InStep ↔ s.EvictsInOrder eventId := by
  by_cases hinit : s.tracker.initialized = true
  · obtain ⟨hfits, hsize, hkeys⟩ := rebuilt_spec s.topic
    have hsame := LRUCache.same_add_iff (hstep hinit) h.fits hfits (hsize.trans h.maxsize.symm)
      (h.maxsize ▸ (by decide : 0 < trackerSize)) eventId
    rw [← rebuilt_concat, hkeys, h.maxsize] at hsame
    constructor
    · intro hnext _
      exact hsame.mp (hnext hinit)
    · intro hok _
      exact hsame.mpr (hok hinit)
  · exact iff_of_true (fun hc => absurd hc hinit) fun hc => absurd hc hinit

/-- A lookup leaves the keys as they are, or rebuilds them. -/
theorem lookup_inStep (h : s.Sound) (hstep : s.InStep) (eventId : UUID) :
    (s.lookup eventId).InStep := by
  intro _ j
  have hkeys : j ∈ (s.lookup eventId).tracker.lru.keys ↔ s.Reports j :=
    LRUCache.mem_contains.trans (reports_iff j).symm
  show j ∈ (s.lookup eventId).tracker.lru.keys ↔ j ∈ (rebuilt s.topic).keys
  rw [hkeys]
  by_cases hinit : s.tracker.initialized = true
  · have hready : s.tracker.ready s.topic = s.tracker := if_pos hinit
    rw [reports_iff, hready]
    exact hstep hinit j
  · exact reports_of_uninitialized h hinit j

theorem compact_inStep (hstep : s.InStep) {topic : List UUID} (hc : Compacts id s.topic topic) :
    ({ s with topic } : TrackerState).InStep := by
  intro hinit j
  rw [(rebuilt_spec topic).2.2, recent_of_compacts hc, ← (rebuilt_spec s.topic).2.2]
  exact hstep hinit j

/-- The run: while all marks drop in order, the two caches are in step. -/
theorem inStep_of_tracked (h : Tracked EvictsInOrder s) : s.InStep := by
  induction h with
  | start topic => exact fun hinit => absurd hinit Bool.false_ne_true
  | mark h eventId hok ih => exact (mark_inStep_iff (sound_of_tracked h) ih eventId).mpr hok
  | lookup h eventId ih => exact lookup_inStep (sound_of_tracked h) ih eventId
  | compact _ hc ih => exact compact_inStep ih hc

theorem mark_survives_iff (h : Tracked EvictsInOrder s) (eventId : UUID) :
    (s.mark eventId).SurvivesRestart ↔ s.EvictsInOrder eventId := by
  have hsound := sound_of_tracked h
  rw [survivesRestart_iff (hsound.mark eventId)]
  exact mark_inStep_iff hsound (inStep_of_tracked h) eventId

end TrackerState

/-- **Deduplication survives a restart** at every point of a run whose marks all drop in order, and
    the next mark keeps it so exactly if it drops in order too. -/
theorem dedup_survives_restart {s : TrackerState} (h : Tracked TrackerState.EvictsInOrder s) :
    s.SurvivesRestart ∧
      ∀ eventId, (s.mark eventId).SurvivesRestart ↔ s.EvictsInOrder eventId := by
  refine ⟨?_, TrackerState.mark_survives_iff h⟩
  rw [TrackerState.survivesRestart_iff (TrackerState.sound_of_tracked h)]
  exact TrackerState.inStep_of_tracked h

/-! ## A full cache -/

/-- A tracker that looked its first id up and then marked `0`, `1`, …, `n - 1`. -/
def marked : Nat → TrackerState
  | 0 => ({ tracker := .fresh, topic := [] } : TrackerState).lookup 0
  | n + 1 => (marked n).mark n

theorem marked_spec {n : Nat} (hn : n ≤ trackerSize) :
    Tracked TrackerState.EvictsInOrder (marked n) ∧ (marked n).tracker.initialized = true ∧
      (marked n).tracker.lru.keys = List.range n ∧ (marked n).topic = List.range n := by
  induction n with
  | zero => exact ⟨.lookup (.start []) 0, rfl, rfl, rfl⟩
  | succ n ih =>
    obtain ⟨htracked, hinit, hkeys, htopic⟩ := ih (Nat.le_of_succ_le hn)
    have hsound := TrackerState.sound_of_tracked htracked
    -- there is room until the last of them is in
    have hok : (marked n).EvictsInOrder n := by
      intro _ _ hfull
      rw [hkeys, List.length_range] at hfull
      omega
    refine ⟨.mark htracked n hok, hinit, ?_, ?_⟩
    · show ((marked n).tracker.lru.add n).keys = _
      have hnot : n ∉ List.range n := List.not_mem_range_self
      rw [LRUCache.add_keys hsound.fits, hkeys, List.erase_of_not_mem hnot, ← List.range_succ,
        hsound.maxsize]
      exact rtake_of_length_le (List.length_range.trans_le hn)
    · show (marked n).topic ++ [n] = _
      rw [htopic, List.range_succ]

/-- The cache is full, and one more id is marked: the oldest is dropped, after a restart as before. -/
theorem dedup_survives_restart_full :
    (marked trackerSize).tracker.lru.keys.length = trackerSize ∧
      0 ∈ (marked trackerSize).tracker.lru.keys ∧
      0 ∉ ((marked trackerSize).mark trackerSize).tracker.lru.keys ∧
      ((marked trackerSize).mark trackerSize).SurvivesRestart := by
  obtain ⟨htracked, -, hkeys, htopic⟩ := marked_spec (le_refl trackerSize)
  have hsound := TrackerState.sound_of_tracked htracked
  have hfull : (marked trackerSize).tracker.lru.keys.length = trackerSize := by
    rw [hkeys, List.length_range]
  have hok : (marked trackerSize).EvictsInOrder trackerSize := by
    intro _ _ _
    rw [hkeys, htopic, recent_of_nodup List.nodup_range List.length_range.le]
  refine ⟨hfull, ?_, ?_, (dedup_survives_restart (.mark htracked trackerSize hok)).1⟩
  · rw [hkeys]
    exact List.mem_range.mpr (by decide)
  · show 0 ∉ ((marked trackerSize).tracker.lru.add trackerSize).keys
    rw [LRUCache.add_keys hsound.fits, hkeys, List.erase_of_not_mem List.not_mem_range_self,
      ← List.range_succ, hsound.maxsize, List.range_succ_eq_map, ← List.singleton_append,
      rtake_append_right _ (by rw [List.length_map, List.length_range])]
    intro hmem
    obtain ⟨n, -, hn⟩ := List.mem_map.mp (List.mem_of_mem_drop hmem)
    exact Nat.succ_ne_zero n hn

theorem head_refreshed : ((List.range trackerSize).erase 0 ++ [0]).head? = some 1 := by
  rw [show trackerSize = 9998 + 1 + 1 from rfl, List.range_succ_eq_map, List.erase_cons_head,
    List.range_succ_eq_map]
  rfl

/-- A lookup of the oldest id reorders the cache and not the topic: the mark after it drops `1` from
    the one and `0` from the other. -/
theorem not_evictsInOrder_of_refreshed {s : TrackerState} (hinit : s.tracker.initialized = true)
    (hkeys : s.tracker.lru.keys = List.range trackerSize) (htopic : s.topic = List.range trackerSize) :
    ¬ (s.lookup 0).EvictsInOrder trackerSize := by
  have hzero : 0 ∈ s.tracker.lru.keys := by
    rw [hkeys]
    exact List.mem_range.mpr (by decide)
  have hcache : (s.lookup 0).tracker.lru.keys = (List.range trackerSize).erase 0 ++ [0] := by
    rw [TrackerState.lookup_of_initialized hinit, ← hkeys, LRUCache.contains, if_pos hzero]
    rfl
  have hnew : trackerSize ∉ (s.lookup 0).tracker.lru.keys := by
    rw [hcache]
    intro hmem
    rcases List.mem_append.mp hmem with hmem | hmem
    · exact List.not_mem_range_self (List.mem_of_mem_erase hmem)
    · exact absurd (List.mem_singleton.mp hmem) (by decide)
  have hfull : (s.lookup 0).tracker.lru.keys.length = trackerSize := by
    rw [hcache, List.length_append, List.length_erase_of_mem (hkeys ▸ hzero), List.length_range]
    rfl
  have hinit' : (s.lookup 0).tracker.initialized = true := by
    rw [TrackerState.lookup_of_initialized hinit]
    exact hinit
  have htopic' : (s.lookup 0).topic = List.range trackerSize := htopic
  intro hok
  have hhead := hok hinit' hnew hfull
  rw [hcache, htopic', recent_of_nodup List.nodup_range List.length_range.le,
    head_refreshed] at hhead
  exact absurd hhead (by simp [trackerSize, List.head?_range])

/-- **An id that was looked up and then outlived others is lost with the restart.** -/
theorem refreshed_id_is_lost :
    ¬ ∀ s, Tracked (fun _ _ => True) s → s.SurvivesRestart := by
  intro hall
  obtain ⟨htracked, hinit, hkeys, htopic⟩ := marked_spec (le_refl trackerSize)
  have hlookup := Tracked.lookup htracked 0
  have hsurvives := hall _ (.mark (hlookup.mono fun _ _ _ => trivial) trackerSize trivial)
  exact not_evictsInOrder_of_refreshed hinit hkeys htopic
    ((TrackerState.mark_survives_iff hlookup trackerSize).mp hsurvives)

end RefundOps.Runtime
