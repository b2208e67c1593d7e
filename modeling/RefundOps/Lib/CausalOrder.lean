import Mathlib.Data.List.MinMax
import Mathlib.Data.List.Nodup
import Mathlib.Data.List.Sort
import Mathlib.Logic.Relation

/-!
# Logs of events that have causes

An event has an identity, a moment, and possibly a cause, which is the identity of another event.
Nothing is assumed of a log: two of its events may have one identity, causes may be missing, and
there may be cycles of them.

`breadthFirst` is the usual traversal with a queue and a set of the identities that were visited. It
visits each identity that can be reached from the events it starts with once (`nodup_breadthFirst`,
`mem_visited_iff`), and no event before its cause (`follows_breadthFirst`).
-/

set_option autoImplicit false

namespace RefundOps

structure EventLog (E K τ : Type) where
  events : List E
  key : E → K
  cause : E → Option K
  time : E → τ

namespace EventLog

variable {E K τ : Type} (L : EventLog E K τ)

/-! ## Causes -/

/-- Each event of the list is of the first ones, or comes after one that it names as its cause. -/
def Follows (first : E → Prop) (es : List E) : Prop :=
  ∀ before e after, es = before ++ e :: after →
    first e ∨ ∃ p ∈ before, L.cause e = some (L.key p)

/-- In the list, no event stands before the one that it names as its cause. -/
def CausesFirst (es : List E) : Prop :=
  ∀ (i j : Nat) (e p : E), es[i]? = some e → es[j]? = some p → L.cause e = some (L.key p) → j < i

/-- The identities that the causes lead to, from the events of a list. -/
inductive Reached (roots : List E) : K → Prop where
  | root {e : E} (h : e ∈ roots) : Reached roots (L.key e)
  | child {e : E} {k : K} (hk : Reached roots k) (he : e ∈ L.events) (hcause : L.cause e = some k) :
      Reached roots (L.key e)

/-- One identity causes another. -/
def Causes (p k : K) : Prop := ∃ e ∈ L.events, L.key e = k ∧ L.cause e = some p

/-- No identity is among its own causes. -/
def Acyclic : Prop := ∀ k, ¬ Relation.TransGen L.Causes k k

variable {L} in
/-- If each event names a smaller identity as its cause, there is no cycle. -/
theorem acyclic_of_lt [Preorder K]
    (h : ∀ e ∈ L.events, ∀ p, L.cause e = some p → p < L.key e) : L.Acyclic := by
  intro k hcycle
  have hlt : ∀ {p k : K}, Relation.TransGen L.Causes p k → p < k := by
    intro p k hpath
    induction hpath with
    | single hstep =>
      obtain ⟨e, he, rfl, hcause⟩ := hstep
      exact h e he p hcause
    | @tail b c _ hstep ih =>
      obtain ⟨e, he, rfl, hcause⟩ := hstep
      exact ih.trans (h e he b hcause)
  exact lt_irrefl k (hlt hcycle)

/-! ## In the middle of a traversal -/

/-- What holds in the middle of a traversal. -/
structure Traversed (roots queue : List E) (visited : List K) (ordered : List E) : Prop where
  visited_iff (k : K) : k ∈ visited ↔ k ∈ ordered.map L.key
  nodup : (ordered.map L.key).Nodup
  ofRoot {e : E} (h : e ∈ roots) : L.key e ∈ visited ∨ e ∈ queue
  ofCause {e : E} {k : K} (he : e ∈ L.events) (hk : k ∈ visited) (hcause : L.cause e = some k) :
    L.key e ∈ visited ∨ e ∈ queue
  origin {e : E} (h : e ∈ queue ∨ e ∈ ordered) :
    e ∈ roots ∨ e ∈ L.events ∧ ∃ k ∈ visited, L.cause e = some k
  reached {k : K} (h : k ∈ visited) : L.Reached roots k
  follows : L.Follows (· ∈ roots) ordered

variable {L}

theorem Follows.snoc {first : E → Prop} {es : List E} {e : E} (h : L.Follows first es)
    (he : first e ∨ ∃ p ∈ es, L.cause e = some (L.key p)) : L.Follows first (es ++ [e]) := by
  intro before x after heq
  rcases List.eq_nil_or_concat after with rfl | ⟨after, last, rfl⟩
  · obtain ⟨rfl, hx⟩ := List.append_inj' heq rfl
    cases hx
    exact he
  · rw [List.concat_eq_append, ← List.cons_append, ← List.append_assoc] at heq
    obtain ⟨rfl, -⟩ := List.append_inj' heq rfl
    exact h before x after rfl

theorem Follows.append {first : E → Prop} {es es' : List E} (h : L.Follows first es)
    (h' : ∀ before e after, es' = before ++ e :: after →
      first e ∨ ∃ p ∈ es ++ before, L.cause e = some (L.key p)) : L.Follows first (es ++ es') := by
  intro before e after heq
  rcases List.append_eq_append_iff.mp heq with ⟨before', rfl, hes'⟩ | ⟨rest, hes, hrest⟩
  · exact h' before' e after hes'
  · cases rest with
    | nil =>
      rw [List.append_nil] at hes
      subst hes
      have hfirst := h' [] e after hrest.symm
      rw [List.append_nil] at hfirst
      exact hfirst
    | cons x rest =>
      cases hrest
      exact h before e rest hes

variable {roots queue : List E} {visited : List K} {ordered : List E} {e : E}

/-- What was visited or on the queue still is, or is the event that is visited now. -/
theorem visited_or_queued {x : E} {more : List E}
    (h : L.key x ∈ visited ∨ x ∈ e :: queue) :
    L.key x ∈ L.key e :: visited ∨ x ∈ queue ++ more := by
  rcases h with hv | hq
  · exact .inl (List.mem_cons_of_mem _ hv)
  · rcases List.mem_cons.mp hq with rfl | hq
    · exact .inl List.mem_cons_self
    · exact .inr (List.mem_append_left _ hq)

/-- One that was visited before is passed over. -/
theorem Traversed.skip (hmem : L.key e ∈ visited)
    (h : L.Traversed roots (e :: queue) visited ordered) :
    L.Traversed roots queue visited ordered where
  visited_iff := h.visited_iff
  nodup := h.nodup
  ofRoot hroot := by
    rcases h.ofRoot hroot with hv | hq
    · exact .inl hv
    · rcases List.mem_cons.mp hq with rfl | hq
      · exact .inl hmem
      · exact .inr hq
  ofCause he hk hcause := by
    rcases h.ofCause he hk hcause with hv | hq
    · exact .inl hv
    · rcases List.mem_cons.mp hq with rfl | hq
      · exact .inl hmem
      · exact .inr hq
  origin hx := h.origin (hx.imp (List.mem_cons_of_mem e) id)
  reached := h.reached
  follows := h.follows

/-- The event was put on the queue as a root or as the child of one that was visited. -/
theorem Traversed.reached_head (h : L.Traversed roots (e :: queue) visited ordered) :
    L.Reached roots (L.key e) := by
  rcases h.origin (.inl List.mem_cons_self) with hroot | ⟨he, k, hk, hcause⟩
  · exact .root hroot
  · exact .child (h.reached hk) he hcause

/-- What follows the roots is reached from them. -/
theorem Follows.reached {es : List E} (h : L.Follows (· ∈ roots) es)
    (hevents : ∀ e ∈ es, e ∈ L.events) (he : e ∈ es) : L.Reached roots (L.key e) := by
  obtain ⟨before, after, hsplit⟩ := List.append_of_mem he
  -- on the number of events that come before
  induction hn : before.length using Nat.strongRecOn generalizing before e after with
  | ind n ih =>
    rcases h before e after hsplit with hroot | ⟨p, hp, hcause⟩
    · exact .root hroot
    · obtain ⟨before', between, rfl⟩ := List.append_of_mem hp
      have hsplit' : es = before' ++ p :: (between ++ e :: after) := by simp [hsplit]
      have hmem : p ∈ es := by simp [hsplit']
      rw [List.length_append, List.length_cons] at hn
      exact .child (ih before'.length (by omega) hmem before' _ hsplit' rfl) (hevents e he) hcause

/-- What follows its causes has them first, if no two events have one identity. -/
theorem Follows.causesFirst {first : E → Prop} {es : List E} (h : L.Follows first es)
    (hnodup : (es.map L.key).Nodup)
    (hfirst : ∀ e ∈ es, first e → ∀ p ∈ es, L.cause e ≠ some (L.key p)) : L.CausesFirst es := by
  intro i j e p hi hj hcause
  obtain ⟨hilt, rfl⟩ := List.getElem?_eq_some_iff.mp hi
  obtain ⟨hjlt, rfl⟩ := List.getElem?_eq_some_iff.mp hj
  have hsplit : es = es.take i ++ es[i] :: es.drop (i + 1) := by simp
  rcases h _ _ _ hsplit with hroot | ⟨q, hq, hcause'⟩
  · exact absurd hcause (hfirst _ (List.getElem_mem _) hroot _ (List.getElem_mem _))
  · obtain ⟨n, hn, rfl⟩ := List.mem_iff_getElem.mp hq
    rw [List.length_take] at hn
    rw [List.getElem_take] at hcause'
    have hkey : L.key es[n] = L.key es[j] := Option.some.inj (hcause'.symm.trans hcause)
    -- the place of an identity is the only one
    have hnj : n = j := by
      apply (List.getElem?_inj (by rw [List.length_map]; omega) hnodup).mp
      rw [List.getElem?_map, List.getElem?_map, hj, List.getElem?_eq_getElem (by omega),
        Option.map_some, Option.map_some, hkey]
    omega

/-- With the causes first, no event is before one that it names. -/
theorem CausesFirst.not_sublist {es : List E} {e p : E} (h : L.CausesFirst es)
    (hcause : L.cause e = some (L.key p)) : ¬ [e, p].Sublist es := by
  intro hsub
  obtain ⟨before, after, rfl, he, hp⟩ := List.cons_sublist_iff.mp hsub
  obtain ⟨i, hi⟩ := List.mem_iff_getElem?.mp he
  obtain ⟨j, hj⟩ := List.mem_iff_getElem?.mp (List.singleton_sublist.mp hp)
  have hilt : i < before.length := (List.getElem?_eq_some_iff.mp hi).1
  -- the event is in the first part, the one that it names in the second
  have hlt := h i (before.length + j) e p (by rw [List.getElem?_append_left hilt, hi])
    (by rw [List.getElem?_append_right (by omega), Nat.add_sub_cancel_left, hj]) hcause
  omega

section Traversal

variable [LinearOrder τ] (L)

/-! ## By time -/

/-- A stable sort: events of one moment stay in the order that they have. -/
def byTime (es : List E) : List E := es.insertionSort fun a b => L.time a ≤ L.time b

theorem byTime_perm (es : List E) : (L.byTime es).Perm es := List.perm_insertionSort _ es

@[simp] theorem mem_byTime {es : List E} {e : E} : e ∈ L.byTime es ↔ e ∈ es :=
  List.mem_insertionSort _

theorem pairwise_byTime (es : List E) : (L.byTime es).Pairwise fun a b => L.time a ≤ L.time b := by
  have : Std.Total fun a b => L.time a ≤ L.time b := ⟨fun a b => le_total _ _⟩
  have : IsTrans E fun a b => L.time a ≤ L.time b := ⟨fun a b c => le_trans⟩
  exact List.pairwise_insertionSort _ es

/-- The first one of those of the earliest moment. -/
def earliest (es : List E) : Option E := es.argmin L.time

variable {L} in
theorem earliest_mem {es : List E} {e : E} (h : e ∈ L.earliest es) : e ∈ es := List.argmin_mem h

/-- What is in order stays so. -/
theorem pair_sublist_byTime {es : List E} {a b : E} (hle : L.time a ≤ L.time b)
    (h : [a, b].Sublist es) : [a, b].Sublist (L.byTime es) :=
  List.pair_sublist_insertionSort hle h

theorem pair_sublist_or {a b : E} {es : List E} (ha : a ∈ es) (hb : b ∈ es) (hne : a ≠ b) :
    [a, b].Sublist es ∨ [b, a].Sublist es := by
  obtain ⟨before, after, rfl⟩ := List.append_of_mem ha
  rcases List.mem_append.mp hb with hb | hb
  · refine .inr ?_
    exact (List.singleton_sublist.mpr hb).append (List.singleton_sublist.mpr List.mem_cons_self)
  · rcases List.mem_cons.mp hb with rfl | hb
    · exact absurd rfl hne
    · refine .inl (List.Sublist.trans ?_ (List.sublist_append_right _ _))
      exact (List.singleton_sublist.mpr hb).cons_cons a

theorem not_pair_sublist_swap {a b : E} {es : List E} (hnodup : es.Nodup) (hne : a ≠ b)
    (h : [a, b].Sublist es) : ¬ [b, a].Sublist es := by
  intro hswap
  induction es with
  | nil => cases h
  | cons x es ih =>
    rw [List.nodup_cons] at hnodup
    cases h with
    | cons _ h =>
      cases hswap with
      | cons _ hswap => exact ih hnodup.2 h hswap
      | cons_cons _ hswap => exact hnodup.1 (h.subset (by simp))
    | cons_cons _ h =>
      cases hswap with
      | cons _ hswap => exact hnodup.1 (hswap.subset (by simp))
      | cons_cons _ hswap => exact hne rfl

theorem mem_of_pair_sublist {a b : E} {before after : List E}
    (hnodup : (before ++ b :: after).Nodup) (hne : a ≠ b)
    (h : [a, b].Sublist (before ++ b :: after)) : a ∈ before := by
  rcases List.mem_append.mp (h.subset List.mem_cons_self) with ha | ha
  · exact ha
  · rcases List.mem_cons.mp ha with rfl | ha
    · exact absurd rfl hne
    · have hswap : [b, a].Sublist (before ++ b :: after) :=
        ((List.singleton_sublist.mpr ha).cons_cons b).trans (List.sublist_append_right _ _)
      exact absurd hswap (not_pair_sublist_swap hnodup hne h)

/-- One event is before another by the moments, or by the places if the moments are the same. -/
def Earlier (es : List E) (a b : E) : Prop :=
  L.time a < L.time b ∨ L.time a = L.time b ∧ [a, b].Sublist es

variable {L} in
theorem Earlier.ne {es : List E} {a b : E} (hnodup : es.Nodup) (h : L.Earlier es a b) : a ≠ b := by
  rintro rfl
  rcases h with hlt | ⟨-, hpair⟩
  · exact lt_irrefl _ hlt
  · have htwice := hpair.nodup hnodup
    simp at htwice

variable {L} in
/-- The order of a part of the list is that of the list. -/
theorem Earlier.sublist {es es' : List E} {a b : E} (hnodup : es.Nodup) (h : L.Earlier es a b)
    (hsub : es'.Sublist es) (ha : a ∈ es') (hb : b ∈ es') : L.Earlier es' a b := by
  have hne := h.ne hnodup
  refine h.imp id ?_
  rintro ⟨heq, hpair⟩
  refine ⟨heq, ?_⟩
  rcases pair_sublist_or ha hb hne with hab | hba
  · exact hab
  · exact absurd (hba.trans hsub) (not_pair_sublist_swap hnodup hne hpair)

/-- **What the order is.** -/
theorem pair_sublist_byTime_iff {es : List E} {a b : E} (hnodup : es.Nodup) (ha : a ∈ es)
    (hb : b ∈ es) (hne : a ≠ b) : [a, b].Sublist (L.byTime es) ↔ L.Earlier es a b := by
  have hsorted : ∀ {x y : E}, [x, y].Sublist (L.byTime es) → L.time x ≤ L.time y := by
    intro x y h
    have hpair := List.Pairwise.sublist h (L.pairwise_byTime es)
    exact List.rel_of_pairwise_cons hpair List.mem_cons_self
  constructor
  · intro h
    rcases lt_or_eq_of_le (hsorted h) with hlt | heq
    · exact .inl hlt
    · refine .inr ⟨heq, ?_⟩
      rcases pair_sublist_or ha hb hne with hab | hba
      · exact hab
      · -- the sort would have kept the other order
        have hkept : [b, a].Sublist (L.byTime es) := L.pair_sublist_byTime heq.ge hba
        have hnodup' : (L.byTime es).Nodup := (L.byTime_perm es).nodup_iff.mpr hnodup
        exact absurd hkept (not_pair_sublist_swap hnodup' hne h)
  · rintro (hlt | ⟨heq, hab⟩)
    · rcases pair_sublist_or (L.mem_byTime.mpr ha) (L.mem_byTime.mpr hb) hne with hab | hba
      · exact hab
      · exact absurd (hsorted hba) (not_le.mpr hlt)
    · exact L.pair_sublist_byTime heq.le hab

variable {L} in
/-- What is earlier than an event stands before it. -/
theorem Earlier.mem_before {es before after : List E} {p e : E} (hnodup : es.Nodup)
    (h : L.Earlier es p e) (hp : p ∈ es) (heq : L.byTime es = before ++ e :: after) :
    p ∈ before := by
  have he : e ∈ es := by
    rw [← L.mem_byTime, heq]
    exact List.mem_append_right _ List.mem_cons_self
  have hne : p ≠ e := h.ne hnodup
  have hpair : [p, e].Sublist (L.byTime es) :=
    (L.pair_sublist_byTime_iff hnodup hp he hne).mpr h
  have hnodup' : (L.byTime es).Nodup := (L.byTime_perm es).nodup_iff.mpr hnodup
  rw [heq] at hpair hnodup'
  exact mem_of_pair_sublist hnodup' hne hpair

/-! ## Breadth first -/

variable [DecidableEq K]

/-- The events that have this cause, or those that have none, by time. -/
def childrenOf (k : Option K) : List E := L.byTime (L.events.filter fun e => L.cause e = k)

@[simp] theorem mem_childrenOf {k : Option K} {e : E} :
    e ∈ L.childrenOf k ↔ e ∈ L.events ∧ L.cause e = k := by
  unfold childrenOf
  simp

/-- The events whose cause was not visited yet. -/
def pending (visited : List K) : List E :=
  L.events.filter fun e => (L.cause e).any fun k => k ∉ visited

/-- The children that are put on the queue when an event is visited. -/
def unvisitedChildren (e : E) (visited : List K) : List E :=
  (L.childrenOf (some (L.key e))).filter fun c => L.key c ∉ visited

/-- After a visit, the children of the event are no longer pending. -/
theorem length_unvisitedChildren_add_pending_le {e : E} {visited : List K}
    (h : L.key e ∉ visited) :
    (L.unvisitedChildren e (L.key e :: visited)).length + (L.pending (L.key e :: visited)).length ≤
      (L.pending visited).length := by
  have hchildren : (L.unvisitedChildren e (L.key e :: visited)).length ≤
      (L.events.filter fun c => L.cause c = some (L.key e)).length := by
    unfold unvisitedChildren childrenOf
    have hlen := (L.byTime_perm (L.events.filter fun c => L.cause c = some (L.key e))).length_eq
    rw [← hlen]
    exact List.length_filter_le _ _
  have hpending : (L.events.filter fun c => L.cause c = some (L.key e)).length +
      (L.pending (L.key e :: visited)).length ≤ (L.pending visited).length := by
    unfold pending
    induction L.events with
    | nil => exact Nat.le_refl 0
    | cons c es ih =>
      simp only [List.filter_cons]
      cases hc : L.cause c with
      | none => simpa using ih
      | some k =>
        by_cases hk : k = L.key e
        · subst hk
          simp only [List.mem_cons] at ih ⊢
          simp [h] at ih ⊢
          omega
        · by_cases hv : k ∈ visited
          · simp [hk, hv] at ih ⊢
            exact ih
          · simp [hk, hv] at ih ⊢
            omega
  omega

/-- Events are taken from the queue until it is empty. Each step takes one off the queue, or puts the
    children of one there that was not visited before. -/
def breadthFirst (queue : List E) (visited : List K) (ordered : List E) : List E × List K :=
  match queue with
  | [] => (ordered, visited)
  | e :: queue =>
      if L.key e ∈ visited then breadthFirst queue visited ordered
      else breadthFirst (queue ++ L.unvisitedChildren e (L.key e :: visited)) (L.key e :: visited)
        (ordered ++ [e])
termination_by (L.pending visited).length + queue.length
decreasing_by
  · simp
  · rename_i h
    have hle := L.length_unvisitedChildren_add_pending_le h
    rw [List.length_append, List.length_cons]
    omega

/-- What holds of the traversal at its end, if it holds at its start and each step keeps it. -/
theorem breadthFirst_invariant {I : List E → List K → List E → Prop}
    (hskip : ∀ {e queue visited ordered}, L.key e ∈ visited → I (e :: queue) visited ordered →
      I queue visited ordered)
    (hvisit : ∀ {e queue visited ordered}, L.key e ∉ visited → I (e :: queue) visited ordered →
      I (queue ++ L.unvisitedChildren e (L.key e :: visited)) (L.key e :: visited) (ordered ++ [e]))
    {queue : List E} {visited : List K} {ordered : List E} (h : I queue visited ordered) :
    I [] (L.breadthFirst queue visited ordered).2 (L.breadthFirst queue visited ordered).1 := by
  induction queue, visited, ordered using breadthFirst.induct L with
  | case1 visited ordered =>
    unfold breadthFirst
    exact h
  | case2 visited ordered e queue hmem ih =>
    unfold breadthFirst
    rw [if_pos hmem]
    exact ih (hskip hmem h)
  | case3 visited ordered e queue hmem ih =>
    unfold breadthFirst
    rw [if_neg hmem]
    exact ih (hvisit hmem h)

variable {L}

theorem mem_unvisitedChildren {p : E} : e ∈ L.unvisitedChildren p visited ↔
    (e ∈ L.events ∧ L.cause e = some (L.key p)) ∧ L.key e ∉ visited := by
  unfold unvisitedChildren
  rw [List.mem_filter, mem_childrenOf, decide_eq_true_iff]

theorem Traversed.visit (hmem : L.key e ∉ visited)
    (h : L.Traversed roots (e :: queue) visited ordered) :
    L.Traversed roots (queue ++ L.unvisitedChildren e (L.key e :: visited)) (L.key e :: visited)
      (ordered ++ [e]) where
  visited_iff k := by
    rw [List.mem_cons, List.map_append, List.mem_append, h.visited_iff, List.map_singleton,
      List.mem_singleton]
    exact Or.comm
  nodup := by
    rw [List.map_append, List.nodup_append]
    refine ⟨h.nodup, List.nodup_singleton _, ?_⟩
    rintro k hk _ hk' rfl
    rw [List.map_singleton, List.mem_singleton] at hk'
    subst hk'
    exact hmem ((h.visited_iff _).mpr hk)
  ofRoot hroot := visited_or_queued (h.ofRoot hroot)
  ofCause {c k} hc hk hcause := by
    by_cases hvisited : L.key c ∈ L.key e :: visited
    · exact .inl hvisited
    · rcases List.mem_cons.mp hk with rfl | hk
      · -- a child of the event, which is put on the queue now
        exact .inr (List.mem_append_right _ (mem_unvisitedChildren.mpr ⟨⟨hc, hcause⟩, hvisited⟩))
      · exact visited_or_queued (h.ofCause hc hk hcause)
  origin {x} hx := by
    have hold : x ∈ e :: queue ∨ x ∈ ordered →
        x ∈ roots ∨ x ∈ L.events ∧ ∃ k ∈ L.key e :: visited, L.cause x = some k := by
      intro hx
      rcases h.origin hx with hroot | ⟨hxe, k, hk, hcause⟩
      · exact .inl hroot
      · exact .inr ⟨hxe, k, List.mem_cons_of_mem _ hk, hcause⟩
    rcases hx with hx | hx
    · rcases List.mem_append.mp hx with hx | hx
      · exact hold (.inl (List.mem_cons_of_mem _ hx))
      · obtain ⟨⟨hxe, hcause⟩, -⟩ := mem_unvisitedChildren.mp hx
        exact .inr ⟨hxe, L.key e, List.mem_cons_self, hcause⟩
    · rcases List.mem_append.mp hx with hx | hx
      · exact hold (.inr hx)
      · obtain rfl := List.mem_singleton.mp hx
        exact hold (.inl List.mem_cons_self)
  reached hk := by
    rcases List.mem_cons.mp hk with rfl | hk
    · exact h.reached_head
    · exact h.reached hk
  follows := by
    apply h.follows.snoc
    rcases h.origin (.inl List.mem_cons_self) with hroot | ⟨-, k, hk, hcause⟩
    · exact .inl hroot
    · obtain ⟨p, hp, rfl⟩ := List.mem_map.mp ((h.visited_iff k).mp hk)
      exact .inr ⟨p, hp, hcause⟩

/-- **The whole traversal.** -/
theorem traversed_breadthFirst (L : EventLog E K τ) (roots : List E) :
    L.Traversed roots [] (L.breadthFirst roots [] []).2 (L.breadthFirst roots [] []).1 := by
  apply breadthFirst_invariant
  · intro e queue visited ordered hmem h
    exact h.skip hmem
  · intro e queue visited ordered hmem h
    exact h.visit hmem
  · constructor
    · intro k
      exact Iff.rfl
    · exact List.nodup_nil
    · intro e he
      exact .inr he
    · intro e k _ hk _
      cases hk
    · intro e he
      exact .inl (he.resolve_right List.not_mem_nil)
    · intro k hk
      cases hk
    · intro before e after heq
      cases before <;> cases heq

/-- **What is visited**: what the causes lead to. -/
theorem mem_visited_iff {k : K} : k ∈ (L.breadthFirst roots [] []).2 ↔ L.Reached roots k := by
  have h := L.traversed_breadthFirst roots
  constructor
  · exact h.reached
  · intro hk
    induction hk with
    | root he => exact (h.ofRoot he).resolve_right List.not_mem_nil
    | child _ he hcause ih => exact (h.ofCause he ih hcause).resolve_right List.not_mem_nil

/-! ## The rest by time -/

variable (L)

/-- The traversal, and after it the events whose identity was not visited, by time. -/
def causalOrder (roots : List E) : List E :=
  let out := L.breadthFirst roots [] []
  out.1 ++ L.byTime (L.events.filter fun e => L.key e ∉ out.2)

variable {L}

theorem mem_breadthFirst (hroots : ∀ e ∈ roots, e ∈ L.events)
    (h : e ∈ (L.breadthFirst roots [] []).1) : e ∈ L.events := by
  rcases (L.traversed_breadthFirst roots).origin (.inr h) with hroot | ⟨he, -⟩
  · exact hroots e hroot
  · exact he

theorem mem_keys_breadthFirst {k : K} :
    k ∈ (L.breadthFirst roots [] []).1.map L.key ↔ L.Reached roots k := by
  rw [← (L.traversed_breadthFirst roots).visited_iff, mem_visited_iff]

/-- The events that the traversal does not get to. -/
theorem mem_unvisited_iff :
    (e ∈ L.events.filter fun e => L.key e ∉ (L.breadthFirst roots [] []).2) ↔
      e ∈ L.events ∧ ¬ L.Reached roots (L.key e) := by
  rw [List.mem_filter, decide_eq_true_iff, mem_visited_iff]

theorem mem_causalOrder (hroots : ∀ e ∈ roots, e ∈ L.events) (h : e ∈ L.causalOrder roots) :
    e ∈ L.events := by
  rcases List.mem_append.mp h with h | h
  · exact mem_breadthFirst hroots h
  · exact (mem_unvisited_iff.mp (L.mem_byTime.mp h)).1

/-- **No identity is lost, and none is added.** -/
theorem mem_keys_causalOrder (hroots : ∀ e ∈ roots, e ∈ L.events) {k : K} :
    k ∈ (L.causalOrder roots).map L.key ↔ k ∈ L.events.map L.key := by
  constructor
  · intro h
    obtain ⟨e, he, rfl⟩ := List.mem_map.mp h
    exact List.mem_map_of_mem (mem_causalOrder hroots he)
  · intro h
    obtain ⟨e, he, rfl⟩ := List.mem_map.mp h
    unfold causalOrder
    rw [List.map_append, List.mem_append]
    by_cases hreached : L.Reached roots (L.key e)
    · exact .inl (mem_keys_breadthFirst.mpr hreached)
    · refine .inr (List.mem_map_of_mem (L.mem_byTime.mpr ?_))
      exact mem_unvisited_iff.mpr ⟨he, hreached⟩

/-- How often an identity is among the events that are not visited. -/
theorem count_unvisited (k : K) :
    ((L.events.filter fun e => L.key e ∉ (L.breadthFirst roots [] []).2).map L.key).count k =
      if k ∈ (L.breadthFirst roots [] []).2 then 0 else (L.events.map L.key).count k := by
  generalize (L.breadthFirst roots [] []).2 = visited
  split
  · rename_i hk
    refine List.count_eq_zero.mpr ?_
    intro hmem
    obtain ⟨e, he, rfl⟩ := List.mem_map.mp hmem
    exact of_decide_eq_true (List.mem_filter.mp he).2 hk
  · rename_i hk
    induction L.events with
    | nil => rfl
    | cons e es ih =>
      by_cases he : L.key e ∈ visited
      · have hne : L.key e ≠ k := by
          rintro rfl
          exact hk he
        rw [List.filter_cons_of_neg (by simpa using he), List.map_cons, List.count_cons_of_ne hne, ih]
      · rw [List.filter_cons_of_pos (by simpa using he), List.map_cons, List.map_cons,
          List.count_cons, List.count_cons, ih]

/-- **When each identity comes once**: when the traversal gets to all that come more than once. -/
theorem nodup_causalOrder_iff :
    ((L.causalOrder roots).map L.key).Nodup ↔
      ∀ k, ¬ L.Reached roots k → (L.events.map L.key).count k ≤ 1 := by
  have hcount : ∀ k, ((L.causalOrder roots).map L.key).count k =
      ((L.breadthFirst roots [] []).1.map L.key).count k +
        if k ∈ (L.breadthFirst roots [] []).2 then 0 else (L.events.map L.key).count k := by
    intro k
    unfold causalOrder
    rw [List.map_append, List.count_append, ((L.byTime_perm _).map L.key).count_eq, count_unvisited]
  rw [List.nodup_iff_count_le_one]
  apply forall_congr'
  intro k
  rw [hcount]
  have hnodup := (L.traversed_breadthFirst roots).nodup
  by_cases hk : L.Reached roots k
  · rw [if_pos (mem_visited_iff.mpr hk), Nat.add_zero]
    exact iff_of_true (List.nodup_iff_count_le_one.mp hnodup k) (absurd hk)
  · have hzero : ((L.breadthFirst roots [] []).1.map L.key).count k = 0 :=
      List.count_eq_zero.mpr fun hmem => hk (mem_keys_breadthFirst.mp hmem)
    rw [if_neg (mt mem_visited_iff.mp hk), hzero, Nat.zero_add]
    exact ⟨fun h _ => h, fun h => h hk⟩

theorem prefix_breadthFirst : ordered <+: (L.breadthFirst queue visited ordered).1 := by
  induction queue, visited, ordered using breadthFirst.induct L with
  | case1 visited ordered =>
    unfold breadthFirst
    exact List.prefix_refl _
  | case2 visited ordered e queue hmem ih =>
    unfold breadthFirst
    rw [if_pos hmem]
    exact ih
  | case3 visited ordered e queue hmem ih =>
    unfold breadthFirst
    rw [if_neg hmem]
    exact (List.prefix_append _ _).trans ih

/-- A traversal begins with the first of its roots. -/
theorem causalOrder_head : (L.causalOrder (e :: roots))[0]? = some e := by
  have hprefix : [e] <+: (L.breadthFirst (e :: roots) [] []).1 := by
    unfold breadthFirst
    rw [if_neg List.not_mem_nil]
    exact prefix_breadthFirst
  obtain ⟨rest, hrest⟩ := hprefix
  unfold causalOrder
  dsimp only
  rw [← hrest]
  rfl

theorem mem_causalOrder_of_mem (hnodup : (L.events.map L.key).Nodup)
    (hroots : ∀ e ∈ roots, e ∈ L.events) (he : e ∈ L.events) : e ∈ L.causalOrder roots := by
  have hkey := (mem_keys_causalOrder hroots).mpr (List.mem_map_of_mem he)
  obtain ⟨e', he', heq⟩ := List.mem_map.mp hkey
  have hsame : e' = e := List.inj_on_of_nodup_map hnodup (mem_causalOrder hroots he') he heq
  rwa [hsame] at he'

/-- A root that comes first of all has no cause in the log. -/
theorem CausesFirst.root_uncaused {r p : E} (hnodup : (L.events.map L.key).Nodup)
    (hroots : ∀ e ∈ roots, e ∈ L.events)
    (hkind : (∀ e ∈ roots, L.cause e = none) ∨ ∃ r, roots = [r])
    (h : L.CausesFirst (L.causalOrder roots)) (hr : r ∈ roots) (hp : p ∈ L.events) :
    L.cause r ≠ some (L.key p) := by
  intro hcause
  rcases hkind with hnone | ⟨r', rfl⟩
  · rw [hnone r hr] at hcause
    cases hcause
  · -- the one root is the first event of all
    obtain rfl := List.mem_singleton.mp hr
    obtain ⟨j, hj⟩ := List.mem_iff_getElem?.mp (mem_causalOrder_of_mem hnodup hroots hp)
    exact absurd (h 0 j r p causalOrder_head hj hcause) (Nat.not_lt_zero j)

/-- The cause of an event that is not visited is not visited either. -/
theorem cause_mem_unvisited {p : E} (hp : p ∈ L.events) (hcause : L.cause e = some (L.key p))
    (he : e ∈ L.events.filter fun e => L.key e ∉ (L.breadthFirst roots [] []).2) :
    p ∈ L.events.filter fun e => L.key e ∉ (L.breadthFirst roots [] []).2 := by
  obtain ⟨hevent, hreached⟩ := mem_unvisited_iff.mp he
  exact mem_unvisited_iff.mpr ⟨hp, fun hp' => hreached (.child hp' hevent hcause)⟩

/-- If the causes come first, then those of the rest are earlier. -/
theorem CausesFirst.earlier {p : E} (hnodup : (L.events.map L.key).Nodup)
    (hroots : ∀ e ∈ roots, e ∈ L.events) (h : L.CausesFirst (L.causalOrder roots))
    (he : e ∈ L.events) (hp : p ∈ L.events) (hreached : ¬ L.Reached roots (L.key e))
    (hcause : L.cause e = some (L.key p)) : L.Earlier L.events p e := by
  have hne : p ≠ e := by
    rintro rfl
    obtain ⟨i, hi⟩ := List.mem_iff_getElem?.mp (mem_causalOrder_of_mem hnodup hroots hp)
    exact absurd (h i i p p hi hi hcause) (Nat.lt_irrefl i)
  have hmem := mem_unvisited_iff.mpr ⟨he, hreached⟩
  have hpmem := cause_mem_unvisited hp hcause hmem
  have hsub : (L.events.filter fun e => L.key e ∉ (L.breadthFirst roots [] []).2).Sublist
      L.events := List.filter_sublist
  rcases pair_sublist_or (L.mem_byTime.mpr hpmem) (L.mem_byTime.mpr hmem) hne with hpe | hep
  · have hearlier := (L.pair_sublist_byTime_iff (hsub.nodup hnodup.of_map) hpmem hmem hne).mp hpe
    exact hearlier.imp id (And.imp id fun hsame => hsame.trans hsub)
  · -- in the whole order the event would be before its cause
    have hswap : [e, p].Sublist (L.causalOrder roots) :=
      hep.trans (List.sublist_append_right _ _)
    exact absurd hswap (h.not_sublist hcause)

/-- If the roots have no cause in the log, and the causes of the rest are earlier, then each event has
    no cause in the log or comes after it. -/
theorem follows_causalOrder (hnodup : L.events.Nodup)
    (hroots : ∀ r ∈ roots, ∀ p ∈ L.events, L.cause r ≠ some (L.key p))
    (hearlier : ∀ e ∈ L.events, ∀ p ∈ L.events, ¬ L.Reached roots (L.key e) →
      L.cause e = some (L.key p) → L.Earlier L.events p e) :
    L.Follows (fun e => ∀ p ∈ L.events, L.cause e ≠ some (L.key p)) (L.causalOrder roots) := by
  have hsub : (L.events.filter fun e => L.key e ∉ (L.breadthFirst roots [] []).2).Sublist
      L.events := List.filter_sublist
  unfold causalOrder
  apply Follows.append
  · intro before e after heq
    refine ((L.traversed_breadthFirst roots).follows before e after heq).imp ?_ id
    exact hroots e
  · intro before e after heq
    by_cases hcause : ∀ p ∈ L.events, L.cause e ≠ some (L.key p)
    · exact .inl hcause
    · -- the cause is not visited either, and is before the event by time
      push Not at hcause
      obtain ⟨p, hp, hcause⟩ := hcause
      have hmem : e ∈ L.events.filter fun e => L.key e ∉ (L.breadthFirst roots [] []).2 := by
        rw [← L.mem_byTime, heq]
        exact List.mem_append_right _ List.mem_cons_self
      obtain ⟨he, hreached⟩ := mem_unvisited_iff.mp hmem
      have hpmem := cause_mem_unvisited hp hcause hmem
      have hlt := (hearlier e he p hp hreached hcause).sublist hnodup hsub hpmem hmem
      have hpbefore : p ∈ before := hlt.mem_before (hsub.nodup hnodup) hpmem heq
      exact .inr ⟨p, List.mem_append_right _ hpbefore, hcause⟩

/-- **When the causes come first**, in a log without duplicates that is traversed from its events
    without a cause, or from one event: that one has no cause in the log, and what the traversal does
    not get to is in order by time. -/
theorem causesFirst_causalOrder_iff (hnodup : (L.events.map L.key).Nodup)
    (hroots : ∀ e ∈ roots, e ∈ L.events)
    (hkind : (∀ e ∈ roots, L.cause e = none) ∨ ∃ r, roots = [r]) :
    L.CausesFirst (L.causalOrder roots) ↔
      (∀ r ∈ roots, ∀ p ∈ L.events, L.cause r ≠ some (L.key p)) ∧
        ∀ e ∈ L.events, ∀ p ∈ L.events, ¬ L.Reached roots (L.key e) →
          L.cause e = some (L.key p) → L.Earlier L.events p e := by
  constructor
  · intro h
    constructor
    · intro r hr p hp
      exact h.root_uncaused hnodup hroots hkind hr hp
    · intro e he p hp hreached hcause
      exact h.earlier hnodup hroots he hp hreached hcause
  · rintro ⟨hfirst, hearlier⟩
    have hcounts : ((L.causalOrder roots).map L.key).Nodup := by
      refine nodup_causalOrder_iff.mpr ?_
      intro k _
      exact List.nodup_iff_count_le_one.mp hnodup k
    refine (follows_causalOrder hnodup.of_map hfirst hearlier).causesFirst hcounts ?_
    intro e _ he p hp
    exact he p (mem_causalOrder hroots hp)

end Traversal

end EventLog

end RefundOps
