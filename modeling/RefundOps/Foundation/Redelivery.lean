import Mathlib.Data.List.ReduceOption
import RefundOps.Foundation.Consumer

/-!
# Redelivery

A consumer that tracks the events it has processed, over whole sequences of deliveries: any
redeliveries, in any order, of handlers that return one time and raise another.

The tracker forgets. What it holds are the ids that were *touched* last, and an id is touched when
its handler returns and again whenever it is skipped as a duplicate. So an id that was handled stays
known as long as few enough others come between two of its deliveries: the invariant (`Inv`) says of
every id that was handled that its last touch was at its last delivery, so that only ids of the
deliveries since then can be newer in the cache.

**An event is handled at most once, and one that was never handled is never skipped**
(`handled_at_most_once`).
-/

set_option autoImplicit false

namespace RefundOps.Transport

open RefundOps.Runtime (trackerSize rebuilt rebuilt_spec)

variable {env : String} {Raw : Type} {consumer : Consumer} {codec : Codec Raw}

/-! ## What a run shows of an event -/

/-- The event id of a message, if its envelope is valid. -/
def Delivery.eventId (codec : Codec Raw) (d : Delivery env Raw) : Option UUID :=
  match codec.modelValidateJson env d.raw with
  | .ok envelope => some envelope.eventId
  | .error _ => none

/-- Between two deliveries of an event, with none of it in between, there are deliveries of fewer
    than `trackerSize` other events. -/
def Spaced (ids : List (Option UUID)) : Prop :=
  ∀ pre mid post k, ids = pre ++ some k :: mid ++ some k :: post → some k ∉ mid →
    mid.reduceOption.dedup.length < trackerSize

def Obs.isHandled (k : UUID) : Obs env → Bool
  | .handled eventId => eventId == k
  | _ => false

/-- How often the handler returned for an event. -/
def completions (k : UUID) (steps : List (Step env Raw)) : Nat :=
  (steps.flatMap (·.seen)).countP (Obs.isHandled k)

/-- The handler returned for the event. -/
def Step.Completes (s : Step env Raw) (k : UUID) : Prop := .handled k ∈ s.seen

/-- The message was skipped as a duplicate of the event. -/
def Step.Skips (s : Step env Raw) (k : UUID) : Prop := .eventDuplicateSkipped k ∈ s.seen

theorem completions_concat (k : UUID) (steps : List (Step env Raw)) (s : Step env Raw) :
    completions k (steps ++ [s]) = completions k steps + s.seen.countP (Obs.isHandled k) := by
  unfold completions
  rw [List.flatMap_append, List.countP_append, List.flatMap_singleton]

theorem countP_eq_zero_of_notMem {k : UUID} {seen : List (Obs env)} (h : .handled k ∉ seen) :
    seen.countP (Obs.isHandled k) = 0 := by
  rw [List.countP_eq_zero]
  intro o ho hk
  cases o with
  | handled eventId =>
    rw [eq_of_beq hk] at ho
    exact h ho
  | _ => cases hk

theorem completions_eq_zero {k : UUID} {steps : List (Step env Raw)}
    (h : ¬ ∃ s ∈ steps, s.Completes k) : completions k steps = 0 := by
  refine countP_eq_zero_of_notMem fun hk => ?_
  obtain ⟨s, hs, hk⟩ := List.mem_flatMap.mp hk
  exact h ⟨s, hs, hk⟩

/-! ## One message -/

section Message

variable {d : Delivery env Raw} {w : World}

theorem eventId_of_ok {envelope : EventEnvelope env}
    (h : codec.modelValidateJson env d.raw = .ok envelope) :
    d.eventId codec = some envelope.eventId := by
  unfold Delivery.eventId
  rw [h]

/-- The ids that a message touches in the cache. -/
def Outcome.touches : Outcome env → List UUID
  | .duplicate envelope => [envelope.eventId]
  | .returned envelope => [envelope.eventId]
  | _ => []

/-- The outcomes, by the event that the message is about. -/
inductive Fate (codec : Codec Raw) (d : Delivery env Raw) (w : World) : Outcome env → Prop where
  | skipped {envelope : EventEnvelope env} (hid : d.eventId codec = some envelope.eventId)
      (hknows : w.Knows envelope.eventId) : Fate codec d w (.duplicate envelope)
  | handled {envelope : EventEnvelope env} (hid : d.eventId codec = some envelope.eventId)
      (hnot : ¬ w.Knows envelope.eventId) : Fate codec d w (.returned envelope)
  | quiet {o : Outcome env} (hquiet : o.touches = []) (hlog : ∀ k, .handled k ∉ o.log)
      (hskip : ∀ k, .eventDuplicateSkipped k ∉ o.log) (htracker : ∀ lru, o.tracker lru = lru)
      (hnot : ∀ k, d.eventId codec = some k → ¬ w.Knows k) : Fate codec d w o

theorem fate_outcome (d : Delivery env Raw) (w : World) : Fate codec d w (outcome codec d w) := by
  unfold outcome
  cases hraw : codec.modelValidateJson env d.raw with
  | error errors =>
    refine .quiet rfl (by simp [Outcome.log]) (by simp [Outcome.log]) (fun _ => rfl) ?_
    intro k hk
    rw [Delivery.eventId, hraw] at hk
    cases hk
  | ok envelope =>
    have hid := eventId_of_ok hraw
    dsimp only
    unfold outcomeOf
    by_cases hknows : w.Knows envelope.eventId
    · rw [if_pos hknows]
      exact .skipped hid hknows
    · rw [if_neg hknows]
      have hnot : ∀ k, d.eventId codec = some k → ¬ w.Knows k := by
        intro k hk
        rw [hid] at hk
        cases hk
        exact hknows
      cases checkPayload codec envelope with
      | error fault => exact .quiet rfl (by simp [Outcome.log]) (by simp [Outcome.log]) (fun _ => rfl) hnot
      | ok _ =>
        cases d.answer (.callHandler envelope) with
        | ok _ => exact .handled hid hknows
        | error exc =>
          exact .quiet rfl (by simp [Outcome.log]) (by simp [Outcome.log]) (fun _ => rfl) hnot

section Fate

variable {o : Outcome env} {k : UUID}

theorem Fate.of_handled (h : Fate codec d w o) (hk : .handled k ∈ o.log) :
    d.eventId codec = some k ∧ ¬ w.Knows k ∧ o.touches = [k] := by
  cases h with
  | skipped hid hknows => simp [Outcome.log] at hk
  | handled hid hnot =>
    simp only [Outcome.log, List.mem_cons, reduceCtorEq, false_or, List.not_mem_nil, or_false,
      Obs.handled.injEq] at hk
    rw [hk]
    exact ⟨hid, hnot, rfl⟩
  | quiet hquiet hlog hskip htracker hnot => exact absurd hk (hlog k)

theorem Fate.of_skipped (h : Fate codec d w o) (hk : .eventDuplicateSkipped k ∈ o.log) :
    w.Knows k := by
  cases h with
  | skipped hid hknows =>
    simp only [Outcome.log, List.mem_singleton, Obs.eventDuplicateSkipped.injEq] at hk
    rw [hk]
    exact hknows
  | handled hid hnot => simp [Outcome.log] at hk
  | quiet hquiet hlog hskip htracker hnot => exact absurd hk (hskip k)

/-- A message of an event that is known is skipped. -/
theorem Fate.of_knows (h : Fate codec d w o) (hid : d.eventId codec = some k) (hknows : w.Knows k) :
    o.touches = [k] := by
  cases h with
  | skipped hid' _ =>
    rw [hid] at hid'
    cases hid'
    rfl
  | handled hid' hnot =>
    rw [hid] at hid'
    cases hid'
    exact absurd hknows hnot
  | quiet hquiet hlog hskip htracker hnot => exact absurd hknows (hnot k hid)

theorem Fate.of_touches (h : Fate codec d w o) (hk : k ∈ o.touches) :
    d.eventId codec = some k ∧ (w.Knows k ∨ .handled k ∈ o.log) := by
  cases h with
  | skipped hid hknows =>
    rw [List.mem_singleton.mp hk]
    exact ⟨hid, .inl hknows⟩
  | handled hid hnot =>
    rw [List.mem_singleton.mp hk]
    exact ⟨hid, .inr (by simp [Outcome.log])⟩
  | quiet hquiet hlog hskip htracker hnot =>
    rw [hquiet] at hk
    cases hk

end Fate

/-- What is shown of a message besides audit records is its log. -/
theorem mem_seen_iff {o : Obs env} (ho : ¬ o.IsRecord) :
    o ∈ (deliver consumer codec d w).1 ↔ o ∈ (outcome codec d w).log := by
  obtain ⟨-, records, hseen, h⟩ := @deliver_spec env Raw consumer codec d w
  rw [hseen, List.mem_append]
  refine ⟨fun hmem => ?_, .inl⟩
  rcases hmem with hmem | hmem
  · exact hmem
  · rcases h with ⟨-, hrecords⟩ | ⟨-, rfl⟩
    · exact absurd (hrecords.only o hmem) ho
    · cases hmem

theorem countP_seen (k : UUID) :
    (deliver consumer codec d w).1.countP (Obs.isHandled k) =
      (outcome codec d w).log.countP (Obs.isHandled k) := by
  obtain ⟨-, records, hseen, h⟩ := @deliver_spec env Raw consumer codec d w
  have hrecords : records.countP (Obs.isHandled k) = 0 := by
    rw [List.countP_eq_zero]
    intro o ho
    rcases h with ⟨-, hrecords⟩ | ⟨-, rfl⟩
    · rcases hrecords.only o ho with ⟨_, _, rfl⟩ | ⟨_, rfl⟩ <;> exact Bool.false_ne_true
    · cases ho
  rw [hseen, List.countP_append, hrecords, Nat.add_zero]

theorem countP_log_le (o : Outcome env) (k : UUID) : o.log.countP (Obs.isHandled k) ≤ 1 := by
  cases o with
  | returned envelope =>
    show ([Obs.eventReceived envelope.eventId] ++ [Obs.handled envelope.eventId]).countP _ ≤ 1
    rw [List.countP_append]
    exact Nat.add_le_add (Nat.le_of_eq rfl) (List.countP_le_length (p := Obs.isHandled k))
  | _ => exact (countP_eq_zero_of_notMem (by simp [Outcome.log])).le.trans (Nat.zero_le 1)

end Message

/-! ## The cache along a run -/

/-- The last touch of `k` was at its last delivery: what was touched after it came with the
    deliveries after that. -/
def HeldSince (codec : Codec Raw) (touched : List UUID) (done : List (Step env Raw)) (k : UUID) :
    Prop :=
  ∃ pre post before s after, touched = pre ++ k :: post ∧ done = before ++ s :: after ∧
    s.delivery.eventId codec = some k ∧ (∀ s' ∈ after, s'.delivery.eventId codec ≠ some k) ∧
    ∀ x ∈ post, ∃ s' ∈ after, s'.delivery.eventId codec = some x

section HeldSince

variable {touched : List UUID} {done : List (Step env Raw)} {s : Step env Raw} {k : UUID}

theorem HeldSince.now (hid : s.delivery.eventId codec = some k) :
    HeldSince codec (touched ++ [k]) (done ++ [s]) k :=
  ⟨touched, [], done, s, [], rfl, rfl, hid, by simp, by simp⟩

theorem HeldSince.later (h : HeldSince codec touched done k)
    (hid : s.delivery.eventId codec ≠ some k) {new : List UUID}
    (hnew : ∀ x ∈ new, s.delivery.eventId codec = some x) :
    HeldSince codec (touched ++ new) (done ++ [s]) k := by
  obtain ⟨pre, post, before, s₀, after, rfl, rfl, hid₀, hafter, hpost⟩ := h
  refine ⟨pre, post ++ new, before, s₀, after ++ [s], by simp, by simp, hid₀, ?_, ?_⟩
  · intro s' hs'
    rcases List.mem_append.mp hs' with hs' | hs'
    · exact hafter s' hs'
    · rw [List.mem_singleton.mp hs']
      exact hid
  · intro x hx
    rcases List.mem_append.mp hx with hx | hx
    · obtain ⟨s', hs', hxid⟩ := hpost x hx
      exact ⟨s', List.mem_append_left _ hs', hxid⟩
    · exact ⟨s, List.mem_append_right _ (List.mem_singleton_self s), hnew x hx⟩

/-- **An id that was handled is still known at its next delivery**, if the deliveries are spaced. -/
theorem HeldSince.mem_recent (h : HeldSince codec touched done k) {rest : List (Option UUID)}
    (hspaced : Spaced (done.map (·.delivery.eventId codec) ++ some k :: rest)) :
    k ∈ recent trackerSize touched := by
  obtain ⟨pre, post, before, s₀, after, rfl, rfl, hid₀, hafter, hpost⟩ := h
  rw [mem_recent_iff]
  have hmid : some k ∉ after.map (·.delivery.eventId codec) := by
    intro hmem
    obtain ⟨s', hs', hid'⟩ := List.mem_map.mp hmem
    exact hafter s' hs' hid'
  have hfew := hspaced (before.map (·.delivery.eventId codec)) (after.map (·.delivery.eventId codec))
    rest k (by simp [hid₀]) hmid
  have hsub : ∀ x ∈ post, x ∈ (after.map (·.delivery.eventId codec)).reduceOption := by
    intro x hx
    obtain ⟨s', hs', hxid⟩ := hpost x hx
    rw [List.reduceOption_mem_iff, ← hxid]
    exact List.mem_map_of_mem hs'
  refine ⟨pre, post, rfl, ?_, ?_⟩
  · intro hk
    exact hmid (List.reduceOption_mem_iff.mp (hsub k hk))
  · refine lt_of_le_of_lt ?_ hfew
    refine (List.subperm_of_subset (List.nodup_dedup post) ?_).length_le
    intro x hx
    exact List.mem_dedup.mpr (hsub x (List.mem_dedup.mp hx))

end HeldSince

/-- What an outcome leaves of a cache that has what was touched last. -/
theorem Outcome.tracker_spec {o : Outcome env} {d : Delivery env Raw} {w : World}
    {lru : LRUCache UUID} {touched : List UUID} (hfate : Fate codec d w o)
    (hw : w.tracker = some lru) (hfits : lru.Fits) (hsize : lru.maxsize = trackerSize)
    (hkeys : lru.keys = recent trackerSize touched) :
    (o.tracker lru).Fits ∧ (o.tracker lru).maxsize = trackerSize ∧
      (o.tracker lru).keys = recent trackerSize (touched ++ o.touches) := by
  have hadd : ∀ k, (lru.add k).Fits ∧ (lru.add k).maxsize = trackerSize ∧
      (lru.add k).keys = recent trackerSize (touched ++ [k]) := by
    intro k
    refine ⟨hfits.add k, LRUCache.add_maxsize.trans hsize, ?_⟩
    rw [LRUCache.add_keys hfits, hsize, hkeys, recent_concat]
  cases hfate with
  | @skipped envelope hid hknows =>
    obtain ⟨lru', hlru, hmem⟩ := hknows
    rw [hw] at hlru
    cases hlru
    have htouch : (Outcome.duplicate envelope).tracker lru = lru.add envelope.eventId :=
      LRUCache.contains_of_mem hfits hmem
    rw [htouch]
    exact hadd envelope.eventId
  | @handled envelope hid hnot => exact hadd envelope.eventId
  | quiet hquiet hlog hskip htracker hnot =>
    rw [htracker, hquiet, List.append_nil]
    exact ⟨hfits, hsize, hkeys⟩

/-- The invariant of a run that began with `recovered` in the tracker: `done` are the messages so far,
    and `touched` the ids touched in the cache, from the first. -/
structure Inv (codec : Codec Raw) (recovered : List UUID) (done : List (Step env Raw))
    (touched : List UUID) (w : World) : Prop where
  cache : ∃ lru, w.tracker = some lru ∧ lru.Fits ∧ lru.maxsize = trackerSize ∧
    lru.keys = recent trackerSize touched
  source : ∀ x ∈ touched, x ∈ recovered ∨ ∃ s ∈ done, s.Completes x
  held : ∀ k, (∃ s ∈ done, s.Completes k) → HeldSince codec touched done k
  once : ∀ k, completions k done ≤ 1
  skips : ∀ pre s post k, done = pre ++ s :: post → s.Skips k →
    k ∈ recovered ∨ ∃ s' ∈ pre, s'.Completes k

theorem Inv.knows_iff {recovered : List UUID} {done : List (Step env Raw)} {touched : List UUID}
    {w : World} (h : Inv codec recovered done touched w) (k : UUID) :
    w.Knows k ↔ k ∈ recent trackerSize touched := by
  obtain ⟨lru, hw, -, -, hkeys⟩ := h.cache
  unfold World.Knows
  rw [hw, ← hkeys]
  simp

theorem not_isRecord_handled (k : UUID) : ¬ (Obs.handled k : Obs env).IsRecord := by
  rintro (⟨_, _, h⟩ | ⟨_, h⟩) <;> cases h

theorem not_isRecord_skipped (k : UUID) : ¬ (Obs.eventDuplicateSkipped k : Obs env).IsRecord := by
  rintro (⟨_, _, h⟩ | ⟨_, h⟩) <;> cases h

theorem Inv.source_of_knows {recovered : List UUID} {done : List (Step env Raw)}
    {touched : List UUID} {w : World} (h : Inv codec recovered done touched w) {k : UUID}
    (hk : w.Knows k) : k ∈ recovered ∨ ∃ s ∈ done, s.Completes k := by
  obtain ⟨pre, post, hsplit, -, -⟩ := mem_recent_iff.mp ((h.knows_iff k).mp hk)
  refine h.source k ?_
  rw [hsplit]
  simp

/-- An event that was handled before is known when it comes again. -/
theorem Inv.knows_of_completed {recovered : List UUID} {done : List (Step env Raw)}
    {touched : List UUID} {w : World} (h : Inv codec recovered done touched w) {k : UUID}
    (hdone : ∃ s ∈ done, s.Completes k) {rest : List (Option UUID)}
    (hspaced : Spaced (done.map (·.delivery.eventId codec) ++ some k :: rest)) : w.Knows k :=
  (h.knows_iff k).mpr ((h.held k hdone).mem_recent hspaced)

section Step

variable {d : Delivery env Raw} {w : World} {k : UUID}

theorem completes_iff :
    ({ before := w, delivery := d, seen := (deliver consumer codec d w).1 } :
      Step env Raw).Completes k ↔ .handled k ∈ (outcome codec d w).log :=
  mem_seen_iff (not_isRecord_handled k)

theorem skips_iff :
    ({ before := w, delivery := d, seen := (deliver consumer codec d w).1 } :
      Step env Raw).Skips k ↔ .eventDuplicateSkipped k ∈ (outcome codec d w).log :=
  mem_seen_iff (not_isRecord_skipped k)

end Step

/-- **One message keeps the invariant**, if it is not too far from the one before it of its event. -/
theorem Inv.step {recovered : List UUID} {done : List (Step env Raw)} {touched : List UUID}
    {w : World} (h : Inv codec recovered done touched w) (d : Delivery env Raw)
    {rest : List (Option UUID)}
    (hspaced : Spaced (done.map (·.delivery.eventId codec) ++ d.eventId codec :: rest)) :
    Inv codec recovered (done ++ [{ before := w, delivery := d, seen := (deliver consumer codec d w).1 }])
      (touched ++ (outcome codec d w).touches) (deliver consumer codec d w).2 := by
  have hfate := @fate_outcome env Raw codec d w
  generalize hs : ({ before := w, delivery := d, seen := (deliver consumer codec d w).1 } :
    Step env Raw) = s
  have hdelivery : s.delivery = d := by rw [← hs]
  have hseen : s.seen = (deliver consumer codec d w).1 := by rw [← hs]
  have hcompletes : ∀ k, s.Completes k ↔ .handled k ∈ (outcome codec d w).log := by
    intro k
    rw [← hs]
    exact completes_iff
  have hskips : ∀ k, s.Skips k ↔ .eventDuplicateSkipped k ∈ (outcome codec d w).log := by
    intro k
    rw [← hs]
    exact skips_iff
  have hknown : ∀ k, (∃ s' ∈ done, s'.Completes k) → d.eventId codec = some k → w.Knows k := by
    intro k hdone hid
    rw [hid] at hspaced
    exact h.knows_of_completed hdone hspaced
  have hlast : s ∈ done ++ [s] := List.mem_append_right _ (List.mem_singleton_self s)
  have hdone : ∀ k, (∃ s' ∈ done, s'.Completes k) → ∃ s' ∈ done ++ [s], s'.Completes k := by
    rintro k ⟨s', hs', hk⟩
    exact ⟨s', List.mem_append_left _ hs', hk⟩
  refine ⟨?_, ?_, ?_, ?_, ?_⟩
  · obtain ⟨lru, hw, hfits, hsize, hkeys⟩ := h.cache
    have htracker := (@deliver_spec env Raw consumer codec d w).tracker_eq
    rw [hw] at htracker
    exact ⟨_, htracker, Outcome.tracker_spec hfate hw hfits hsize hkeys⟩
  · intro x hx
    rcases List.mem_append.mp hx with hx | hx
    · exact (h.source x hx).imp_right (hdone x)
    · rcases (hfate.of_touches hx).2 with hknows | hlog
      · exact (h.source_of_knows hknows).imp_right (hdone x)
      · exact .inr ⟨s, hlast, (hcompletes x).mpr hlog⟩
  · rintro k ⟨s', hs', hk⟩
    by_cases hid : d.eventId codec = some k
    · -- handled before, and then skipped now, or handled now: touched either way
      have htouch : (outcome codec d w).touches = [k] := by
        rcases List.mem_append.mp hs' with hs' | hs'
        · exact hfate.of_knows hid (hknown k ⟨s', hs', hk⟩ hid)
        · rw [List.mem_singleton.mp hs', hcompletes] at hk
          exact (hfate.of_handled hk).2.2
      rw [htouch]
      exact .now (hdelivery ▸ hid)
    · rcases List.mem_append.mp hs' with hs' | hs'
      · refine (h.held k ⟨s', hs', hk⟩).later (hdelivery ▸ hid) ?_
        intro x hx
        rw [hdelivery]
        exact (hfate.of_touches hx).1
      · rw [List.mem_singleton.mp hs', hcompletes] at hk
        exact absurd (hfate.of_handled hk).1 hid
  · intro k
    rw [completions_concat, hseen, countP_seen]
    by_cases hk : ∃ s' ∈ done, s'.Completes k
    · have hnot : .handled k ∉ (outcome codec d w).log := by
        intro hlog
        obtain ⟨hid, hunknown, -⟩ := hfate.of_handled hlog
        exact hunknown (hknown k hk hid)
      rw [countP_eq_zero_of_notMem hnot, Nat.add_zero]
      exact h.once k
    · rw [completions_eq_zero hk, Nat.zero_add]
      exact countP_log_le _ k
  · intro pre s' post k hsplit hskip
    rcases List.eq_nil_or_concat post with rfl | ⟨post, last, rfl⟩
    · obtain ⟨rfl, heq⟩ := List.append_inj' hsplit rfl
      rw [← List.singleton_inj.mp heq, hskips] at hskip
      exact h.source_of_knows (hfate.of_skipped hskip)
    · have hsplit' : done ++ [s] = (pre ++ s' :: post) ++ [last] := by
        rw [hsplit, List.append_assoc, List.cons_append, List.concat_eq_append]
      obtain ⟨hpre, -⟩ := List.append_inj' hsplit' rfl
      exact h.skips pre s' post k hpre hskip

/-- The run keeps the invariant. -/
theorem Inv.run {recovered : List UUID} {done : List (Step env Raw)} {touched : List UUID}
    {w : World} (h : Inv codec recovered done touched w) (polls : List (Poll env Raw))
    (hspaced : Spaced (done.map (·.delivery.eventId codec) ++
      (consumed polls).map (·.eventId codec))) :
    ∃ touched' w', Inv codec recovered (done ++ run consumer codec polls w) touched' w' := by
  induction polls generalizing done touched w with
  | nil => exact ⟨touched, w, by rwa [Transport.run, List.append_nil]⟩
  | cons poll polls ih =>
    cases poll with
    | stopped => exact ⟨touched, w, by rwa [Transport.run, List.append_nil]⟩
    | failed exc => exact ⟨touched, w, by rwa [Transport.run, List.append_nil]⟩
    | timeout => exact ih h hspaced
    | message d =>
      have hstep := @Inv.step env Raw consumer codec recovered done touched w h d _ hspaced
      obtain ⟨touched', w', hrun⟩ := ih hstep (by simpa [consumed] using hspaced)
      refine ⟨touched', w', ?_⟩
      rwa [List.append_assoc] at hrun

theorem inv_start (recovered : List UUID) (nextId : UUID) :
    Inv codec recovered ([] : List (Step env Raw)) recovered (start true recovered nextId) where
  cache := by
    obtain ⟨hfits, hsize, hkeys⟩ := rebuilt_spec recovered
    exact ⟨rebuilt recovered, rfl, hfits, hsize, hkeys⟩
  source _ hx := .inl hx
  held k hk := by simp at hk
  once k := by simp [completions]
  skips pre s post k hsplit := by simp at hsplit

/-- **At most once, and with retry.** Over any deliveries to an idempotent consumer, none of them too
    far from the one before it of its event: for no event does the handler return twice, and a
    message is skipped only if its event is one that the tracker began with, or one for which the
    handler has returned before. -/
theorem handled_at_most_once (consumer : Consumer) (codec : Codec Raw) (recovered : List UUID)
    (nextId : UUID) {polls : List (Poll env Raw)}
    (hspaced : Spaced ((consumed polls).map (·.eventId codec))) (k : UUID) :
    completions k (run consumer codec polls (start true recovered nextId)) ≤ 1 ∧
      ∀ pre s post, run consumer codec polls (start true recovered nextId) = pre ++ s :: post →
        s.Skips k → k ∈ recovered ∨ ∃ s' ∈ pre, s'.Completes k := by
  obtain ⟨touched, w, h⟩ := @Inv.run env Raw consumer codec recovered [] recovered _
    (inv_start recovered nextId) polls hspaced
  rw [List.nil_append] at h
  exact ⟨h.once k, fun pre s post => h.skips pre s post k⟩

/-- A short sequence is spaced. -/
theorem spaced_of_length_lt {ids : List (Option UUID)} (h : ids.length < trackerSize) :
    Spaced ids := by
  intro pre mid post k hids _
  have hmid : mid.length ≤ ids.length := by
    rw [hids]
    simp only [List.length_append, List.length_cons]
    omega
  calc mid.reduceOption.dedup.length
      ≤ mid.reduceOption.length := (List.dedup_sublist _).length_le
    _ ≤ mid.length := List.reduceOption_length_le mid
    _ < trackerSize := lt_of_le_of_lt hmid h

/-- An event whose handler raises once and then returns, delivered three times. -/
theorem handled_at_most_once_retried :
    let polls := [.message (sampleDelivery (some (sampleFields 7)) (.error "boom")),
      .message (sampleDelivery (some (sampleFields 7)) (.ok ())),
      .message (sampleDelivery (some (sampleFields 7)) (.ok ()))]
    completions 7 (run sampleConsumer plainCodec polls (start true [] 0)) ≤ 1 :=
  (handled_at_most_once sampleConsumer plainCodec [] 0 (spaced_of_length_lt (by decide)) 7).1

end RefundOps.Transport
