import Mathlib.Data.Set.Finite.List
import Mathlib.Order.WellFoundedSet
import RefundOps.Lib.CausalOrder

/-!
# Walks that keep no record

A walk goes through a log in depth: first an event, then what it caused, then the next one. It keeps
no record of what it has been to. So it goes through an event as often as it gets to its cause, and it
comes to no end if there is a cycle that it gets to; a `depth` bounds the recursion, and a walk that
needs more has no result.

A walk that ends goes through each event once for each event of the identity that it names as its
cause (`count_of_walk`). So, with the events that it does not see put behind it, it is a permutation
of the log if and only if each identity that it gets to has one event, or caused nothing, and it sees
all events of the identities that it sees (`walkOrder_perm_iff`).
-/

set_option autoImplicit false

namespace RefundOps.EventLog

variable {E K τ : Type} [LinearOrder τ] [DecidableEq K] (L : EventLog E K τ)

/-- The events of a list, each with what it caused. -/
def walk : Nat → List E → Option (List E)
  | _, [] => some []
  | 0, _ :: _ => none
  | depth + 1, e :: es => do
      let below ← walk depth (L.childrenOf (some (L.key e)))
      let rest ← walk (depth + 1) es
      pure (e :: (below ++ rest))
termination_by depth es => (depth, es.length)

/-- The walk from the events without a cause, and then the events whose identity it did not see, by
    time. -/
def walkOrder (depth : Nat) : Option (List E) := do
  let result ← L.walk depth (L.childrenOf none)
  pure (result ++ L.byTime (L.events.filter fun e => L.key e ∉ result.map L.key))

variable {L}

/-- What a walk is, event by event. -/
theorem walk_cons_eq_some_iff {depth : Nat} {e : E} {es out : List E} :
    L.walk (depth + 1) (e :: es) = some out ↔
      ∃ below rest, L.walk depth (L.childrenOf (some (L.key e))) = some below ∧
        L.walk (depth + 1) es = some rest ∧ out = e :: (below ++ rest) := by
  rw [walk]
  simp only [Option.bind_eq_bind, Option.bind_eq_some_iff, Option.pure_def, Option.some.injEq]
  constructor
  · rintro ⟨below, hbelow, rest, hrest, rfl⟩
    exact ⟨below, rest, hbelow, hrest, rfl⟩
  · rintro ⟨below, rest, hbelow, hrest, rfl⟩
    exact ⟨below, hbelow, rest, hrest, rfl⟩

theorem walk_nil (depth : Nat) : L.walk depth [] = some [] := by
  cases depth <;> rw [walk]

theorem walk_zero_cons {e : E} {es : List E} : L.walk 0 (e :: es) = none := by
  rw [walk]

/-- The induction over a walk that ends. -/
theorem walk_induction {P : List E → List E → Prop} (nil : P [] [])
    (cons : ∀ {e es below rest}, P (L.childrenOf (some (L.key e))) below → P es rest →
      P (e :: es) (e :: (below ++ rest)))
    {depth : Nat} {es out : List E} (h : L.walk depth es = some out) : P es out := by
  induction depth generalizing es out with
  | zero =>
    cases es with
    | nil =>
      rw [walk_nil] at h
      cases h
      exact nil
    | cons e es =>
      rw [walk_zero_cons] at h
      cases h
  | succ depth ihdepth =>
    induction es generalizing out with
    | nil =>
      rw [walk_nil] at h
      cases h
      exact nil
    | cons e es ih =>
      obtain ⟨below, rest, hbelow, hrest, rfl⟩ := walk_cons_eq_some_iff.mp h
      exact cons (ihdepth hbelow) (ih hrest)

/-- More depth does no harm. -/
theorem walk_mono {depth depth' : Nat} {es out : List E} (h : L.walk depth es = some out)
    (hle : depth ≤ depth') : L.walk depth' es = some out := by
  induction depth generalizing depth' es out with
  | zero =>
    cases es with
    | nil =>
      rw [walk_nil] at h ⊢
      exact h
    | cons e es =>
      rw [walk_zero_cons] at h
      cases h
  | succ depth ihdepth =>
    obtain ⟨depth', rfl⟩ : ∃ d, depth' = d + 1 := ⟨depth' - 1, by omega⟩
    induction es generalizing out with
    | nil =>
      rw [walk_nil] at h ⊢
      exact h
    | cons e es ih =>
      obtain ⟨below, rest, hbelow, hrest, rfl⟩ := walk_cons_eq_some_iff.mp h
      exact walk_cons_eq_some_iff.mpr ⟨below, rest, ihdepth hbelow (by omega), ih hrest, rfl⟩

/-! ## What a walk goes through -/

/-- **A walk goes through its events, and through what the events that it goes through caused.** -/
theorem walk_perm {depth : Nat} {es out : List E} (h : L.walk depth es = some out) :
    out.Perm (es ++ out.flatMap fun e => L.childrenOf (some (L.key e))) := by
  refine walk_induction (P := fun es out =>
    out.Perm (es ++ out.flatMap fun e => L.childrenOf (some (L.key e)))) ?_ ?_ h
  · exact List.Perm.refl []
  · intro e es below rest hbelow hrest
    rw [List.flatMap_cons, List.flatMap_append, List.cons_append]
    refine List.Perm.cons e ?_
    refine (hbelow.append hrest).trans ?_
    -- the same parts in another order
    classical
    rw [List.perm_iff_count]
    intro x
    simp only [List.count_append]
    omega

/-- **No event of a walk is before its cause.** -/
theorem walk_follows {depth : Nat} {es out : List E} (h : L.walk depth es = some out) :
    L.Follows (· ∈ es) out := by
  refine walk_induction (P := fun es out => L.Follows (· ∈ es) out) ?_ ?_ h
  · intro before e after heq
    cases before <;> cases heq
  · intro e es below rest hbelow hrest
    have hhead : L.Follows (· ∈ e :: es) [e] := by
      intro before x after heq
      cases before with
      | nil =>
        cases heq
        exact .inl List.mem_cons_self
      | cons y before =>
        cases before <;> cases heq
    have htree : L.Follows (· ∈ e :: es) ([e] ++ below) := by
      apply hhead.append
      intro before x after heq
      refine .inr ?_
      rcases hbelow before x after heq with hchild | ⟨p, hp, hcause⟩
      · exact ⟨e, List.mem_cons_self, (L.mem_childrenOf.mp hchild).2⟩
      · exact ⟨p, List.mem_cons_of_mem e hp, hcause⟩
    have hall : L.Follows (· ∈ e :: es) (([e] ++ below) ++ rest) := by
      apply htree.append
      intro before x after heq
      refine (hrest before x after heq).imp (List.mem_cons_of_mem e) ?_
      rintro ⟨p, hp, hcause⟩
      exact ⟨p, List.mem_append_right _ hp, hcause⟩
    exact hall

/-! ## What is reached -/

/-- An event that the walk gets to: it has no cause, or one whose identity is reached. -/
def Visited (e : E) : Prop :=
  ∀ k, L.cause e = some k → L.Reached (L.childrenOf none) k

theorem Visited.reached {e : E} (he : e ∈ L.events) (h : L.Visited e) :
    L.Reached (L.childrenOf none) (L.key e) := by
  cases hcause : L.cause e with
  | none => exact .root (L.mem_childrenOf.mpr ⟨he, hcause⟩)
  | some k => exact .child (h k hcause) he hcause

/-- The identities under which a walk looks for events: none, and those that it sees. -/
def lookups (L : EventLog E K τ) (out : List E) : List (Option K) :=
  none :: out.map fun e => some (L.key e)

section FromRoots

variable {depth : Nat} {out : List E}

theorem perm_flatMap_lookups (h : L.walk depth (L.childrenOf none) = some out) :
    out.Perm ((L.lookups out).flatMap L.childrenOf) := by
  unfold lookups
  rw [List.flatMap_cons, List.flatMap_map]
  exact walk_perm h

theorem mem_walk_iff (h : L.walk depth (L.childrenOf none) = some out) {e : E} :
    e ∈ out ↔ e ∈ L.events ∧ L.cause e ∈ L.lookups out := by
  rw [(perm_flatMap_lookups h).mem_iff, List.mem_flatMap]
  constructor
  · rintro ⟨k, hk, hchild⟩
    obtain ⟨he, rfl⟩ := L.mem_childrenOf.mp hchild
    exact ⟨he, hk⟩
  · rintro ⟨he, hcause⟩
    exact ⟨L.cause e, hcause, L.mem_childrenOf.mpr ⟨he, rfl⟩⟩

omit [LinearOrder τ] in
theorem count_some_lookups (k : K) :
    (L.lookups out).count (some k) = (out.map L.key).count k := by
  unfold lookups
  rw [List.count_cons_of_ne (by simp)]
  induction out with
  | nil => rfl
  | cons e out ih => simp [List.count_cons, ih]

omit [LinearOrder τ] in
theorem count_none_lookups : (L.lookups out).count none = 1 := by
  unfold lookups
  rw [List.count_cons_self, List.count_eq_zero.mpr (by simp)]

/-- **A walk sees what the causes lead to.** -/
theorem mem_keys_walk_iff (h : L.walk depth (L.childrenOf none) = some out) {k : K} :
    k ∈ out.map L.key ↔ L.Reached (L.childrenOf none) k := by
  constructor
  · intro hk
    obtain ⟨e, he, rfl⟩ := List.mem_map.mp hk
    exact (walk_follows h).reached (fun e he => ((mem_walk_iff h).mp he).1) he
  · intro hk
    induction hk with
    | @root e hroot =>
      obtain ⟨he, hcause⟩ := L.mem_childrenOf.mp hroot
      refine List.mem_map_of_mem ((mem_walk_iff h).mpr ⟨he, ?_⟩)
      rw [hcause]
      exact List.mem_cons_self
    | @child e k _ he hcause ih =>
      refine List.mem_map_of_mem ((mem_walk_iff h).mpr ⟨he, ?_⟩)
      rw [hcause, ← List.count_pos_iff, count_some_lookups, List.count_pos_iff]
      exact ih

/-! ### How often -/

omit [LinearOrder τ] in
/-- An identity that comes once has one event. -/
theorem eq_of_count_le_one {es : List E} {a b : E} (h : (es.map L.key).count (L.key a) ≤ 1)
    (ha : a ∈ es) (hb : b ∈ es) (hkey : L.key b = L.key a) : b = a := by
  by_contra hne
  rcases pair_sublist_or ha hb (Ne.symm hne) with hsub | hsub
  · have hle := (hsub.map L.key).count_le (L.key a)
    simp [hkey] at hle
    omega
  · have hle := (hsub.map L.key).count_le (L.key a)
    simp [hkey] at hle
    omega

section Count

variable [DecidableEq E]

theorem count_childrenOf (k : Option K) (e : E) :
    (L.childrenOf k).count e = if L.cause e = k then L.events.count e else 0 := by
  unfold childrenOf
  rw [(L.byTime_perm _).count_eq]
  split
  · rename_i hk
    exact List.count_filter (decide_eq_true hk)
  · rename_i hk
    refine List.count_eq_zero.mpr ?_
    intro he
    exact hk (of_decide_eq_true (List.mem_filter.mp he).2)

/-- **A walk goes through an event as often as it looks for those of its cause.** -/
theorem count_walk (h : L.walk depth (L.childrenOf none) = some out) (e : E) :
    out.count e = (L.lookups out).count (L.cause e) * L.events.count e := by
  have hcount : ∀ ks : List (Option K), (ks.flatMap L.childrenOf).count e =
      ks.count (L.cause e) * L.events.count e := by
    intro ks
    induction ks with
    | nil => simp
    | cons k ks ih =>
      rw [List.flatMap_cons, List.count_append, count_childrenOf, ih, List.count_cons]
      by_cases hk : L.cause e = k
      · simp [hk, Nat.add_mul, Nat.add_comm]
      · simp [hk, Ne.symm hk]
  rw [(perm_flatMap_lookups h).count_eq, hcount]

omit [LinearOrder τ] in
/-- An identity that comes once comes as often as its event. -/
theorem count_key_eq {es : List E} {e : E} (h : (L.events.map L.key).count (L.key e) = 1)
    (he : e ∈ L.events) (hes : ∀ x ∈ es, x ∈ L.events) :
    (es.map L.key).count (L.key e) = es.count e := by
  rw [List.count_eq_countP, List.countP_map, List.count_eq_countP]
  apply List.countP_congr
  intro x hx
  simp only [Function.comp_apply, beq_iff_eq]
  constructor
  · exact eq_of_count_le_one h.le he (hes x hx)
  · rintro rfl
    rfl

end Count

/-! ## A permutation -/

variable (L) in
/-- The logs that a walk can be used for. -/
structure Walkable : Prop where
  /-- An identity that is reached and caused something has one event. -/
  once {k : K} (hk : L.Reached (L.childrenOf none) k) (hchild : ∃ e ∈ L.events, L.cause e = some k) :
    (L.events.map L.key).count k = 1
  /-- An event whose identity is reached is itself reached. -/
  visited {e : E} (he : e ∈ L.events) (hk : L.Reached (L.childrenOf none) (L.key e)) : L.Visited e

/-- An identity that is reached and caused something is seen once. -/
theorem Walkable.count_key_walk (hw : L.Walkable)
    (h : L.walk depth (L.childrenOf none) = some out) {k : K}
    (hk : L.Reached (L.childrenOf none) k) (hchild : ∃ e ∈ L.events, L.cause e = some k) :
    (out.map L.key).count k = 1 := by
  classical
  have hmem : ∀ x ∈ out, x ∈ L.events := fun x hx => ((mem_walk_iff h).mp hx).1
  have hevent : ∀ {e : E}, e ∈ L.events → (L.events.map L.key).count (L.key e) = 1 →
      (out.map L.key).count (L.key e) = (L.lookups out).count (L.cause e) := by
    intro e he honce
    rw [count_key_eq honce he hmem, count_walk h,
      ← count_key_eq honce he fun x hx => hx, honce, Nat.mul_one]
  -- on how the identity is reached, up to a root
  induction hk with
  | @root e hroot =>
    obtain ⟨he, hcause⟩ := L.mem_childrenOf.mp hroot
    rw [hevent he (hw.once (.root hroot) hchild), hcause, count_none_lookups]
  | @child e k hk he hcause ih =>
    rw [hevent he (hw.once (.child hk he hcause) hchild), hcause, count_some_lookups]
    exact ih ⟨e, he, hcause⟩

/-- The events of a walk, and those whose identity it did not see. -/
theorem count_walkOrder [DecidableEq E] (e : E) :
    (out ++ L.byTime (L.events.filter fun e => L.key e ∉ out.map L.key)).count e =
      out.count e + if L.key e ∈ out.map L.key then 0 else L.events.count e := by
  rw [List.count_append, (L.byTime_perm _).count_eq]
  congr 1
  split
  · rename_i hk
    refine List.count_eq_zero.mpr ?_
    intro he
    exact of_decide_eq_true (List.mem_filter.mp he).2 hk
  · rename_i hk
    exact List.count_filter (decide_eq_true hk)

/-- **When a walk that ends goes through each event once.** -/
theorem walkOrder_perm_iff (h : L.walk depth (L.childrenOf none) = some out) :
    (out ++ L.byTime (L.events.filter fun e => L.key e ∉ out.map L.key)).Perm L.events ↔
      L.Walkable := by
  classical
  constructor
  · intro hperm
    have honce : ∀ e ∈ L.events, L.key e ∈ out.map L.key →
        (L.lookups out).count (L.cause e) = 1 := by
      intro e he hk
      have hcount := hperm.count_eq e
      rw [count_walkOrder, if_pos hk, Nat.add_zero, count_walk h] at hcount
      exact Nat.eq_of_mul_eq_mul_right (List.count_pos_iff.mpr he) (hcount.trans (one_mul _).symm)
    constructor
    · rintro k hk ⟨e, he, hcause⟩
      have hseen := (mem_keys_walk_iff h).mpr hk
      have hone := honce e he ((mem_keys_walk_iff h).mpr (.child hk he hcause))
      rw [hcause, count_some_lookups] at hone
      -- the events that the walk did not see are of other identities
      have hrest : ((L.byTime (L.events.filter fun e => L.key e ∉ out.map L.key)).map
          L.key).count k = 0 := by
        refine List.count_eq_zero.mpr ?_
        intro hmem
        obtain ⟨x, hx, rfl⟩ := List.mem_map.mp hmem
        exact of_decide_eq_true (List.mem_filter.mp (L.mem_byTime.mp hx)).2 hseen
      rw [← (hperm.map L.key).count_eq k, List.map_append, List.count_append, hrest, hone]
    · intro e he hk k hcause
      have hone := honce e he ((mem_keys_walk_iff h).mpr hk)
      rw [hcause, count_some_lookups] at hone
      exact (mem_keys_walk_iff h).mp (List.count_pos_iff.mp (by omega))
  · intro hw
    rw [List.perm_iff_count]
    intro e
    rw [count_walkOrder, count_walk h]
    by_cases he : e ∈ L.events
    · split
      · rename_i hk
        have hreached := (mem_keys_walk_iff h).mp hk
        have hone : (L.lookups out).count (L.cause e) = 1 := by
          cases hcause : L.cause e with
          | none => exact count_none_lookups
          | some k =>
            rw [count_some_lookups]
            exact hw.count_key_walk h (hw.visited he hreached k hcause) ⟨e, he, hcause⟩
        rw [hone, one_mul, Nat.add_zero]
      · rename_i hk
        have hnot : e ∉ out := fun hmem => hk (List.mem_map_of_mem hmem)
        rw [← count_walk h, List.count_eq_zero.mpr hnot, Nat.zero_add]
    · rw [List.count_eq_zero.mpr he, Nat.mul_zero, ite_self]

end FromRoots

/-! ## An end -/

/-- In a log of this kind no identity that is reached is among its own causes. -/
theorem Walkable.not_transGen (hw : L.Walkable) {k : K} (hk : L.Reached (L.childrenOf none) k) :
    ¬ Relation.TransGen L.Causes k k := by
  have hlast : ∀ {e : E}, e ∈ L.events → L.Reached (L.childrenOf none) (L.key e) →
      Relation.TransGen L.Causes (L.key e) (L.key e) →
      ∃ b, L.cause e = some b ∧ Relation.ReflTransGen L.Causes (L.key e) b := by
    intro e he hreached hcycle
    obtain ⟨_, ⟨c, hc, -, hchild⟩, -⟩ := Relation.TransGen.head'_iff.mp hcycle
    obtain ⟨b, hpath, ⟨x, hx, hkey, hcause⟩⟩ := Relation.TransGen.tail'_iff.mp hcycle
    -- the last event of the cycle is the first one, which is the only one of its identity
    obtain rfl := eq_of_count_le_one (hw.once hreached ⟨c, hc, hchild⟩).le he hx hkey
    exact ⟨b, hcause, hpath⟩
  intro hcycle
  induction hk with
  | @root e hroot =>
    obtain ⟨he, hnone⟩ := L.mem_childrenOf.mp hroot
    obtain ⟨b, hcause, -⟩ := hlast he (.root hroot) hcycle
    rw [hnone] at hcause
    cases hcause
  | @child e k hk he hcause ih =>
    obtain ⟨b, hcause', hpath⟩ := hlast he (.child hk he hcause) hcycle
    obtain rfl := Option.some.inj (hcause.symm.trans hcause')
    exact ih (Relation.TransGen.head' ⟨e, he, rfl, hcause⟩ hpath)

omit [LinearOrder τ] [DecidableEq K] in
theorem finite_keys : {k | k ∈ L.events.map L.key}.Finite := List.finite_toSet _

/-- A walk through a list ends if those below its events do. -/
theorem exists_walk_of_forall {es : List E}
    (h : ∀ e ∈ es, ∃ depth out, L.walk depth (L.childrenOf (some (L.key e))) = some out) :
    ∃ depth out, L.walk depth es = some out := by
  induction es with
  | nil => exact ⟨0, [], walk_nil 0⟩
  | cons e es ih =>
    obtain ⟨depth, below, hbelow⟩ := h e List.mem_cons_self
    obtain ⟨depth', rest, hrest⟩ := ih fun x hx => h x (List.mem_cons_of_mem e hx)
    refine ⟨max depth depth' + 1, e :: (below ++ rest), walk_cons_eq_some_iff.mpr
      ⟨below, rest, walk_mono hbelow (le_max_left _ _), walk_mono hrest ?_, rfl⟩⟩
    exact (le_max_right _ _).trans (Nat.le_succ _)

/-- A walk contains the walks below its events, and the events themselves. -/
theorem exists_walk_below {depth : Nat} {es out : List E} (h : L.walk depth es = some out) {e : E}
    (he : e ∈ es) : ∃ depth below, L.walk depth (L.childrenOf (some (L.key e))) = some below ∧
      below.length < out.length := by
  cases depth with
  | zero =>
    cases es with
    | nil => cases he
    | cons x es =>
      rw [walk_zero_cons] at h
      cases h
  | succ depth =>
    induction es generalizing out with
    | nil => cases he
    | cons x es ih =>
      obtain ⟨below, rest, hbelow, hrest, rfl⟩ := walk_cons_eq_some_iff.mp h
      rw [List.length_cons, List.length_append]
      rcases List.mem_cons.mp he with rfl | he
      · exact ⟨depth, below, hbelow, by omega⟩
      · obtain ⟨depth', below', hbelow', hlt⟩ := ih he hrest
        exact ⟨depth', below', hbelow', by omega⟩

theorem walk_unique {depth depth' : Nat} {es out out' : List E} (h : L.walk depth es = some out)
    (h' : L.walk depth' es = some out') : out = out' := by
  have hmax := walk_mono h (le_max_left depth depth')
  rw [walk_mono h' (le_max_right depth depth')] at hmax
  exact (Option.some.inj hmax).symm

variable (L) in
/-- No identity that is reached is among its own causes. -/
def ReachedAcyclic : Prop :=
  ∀ k, L.Reached (L.childrenOf none) k → ¬ Relation.TransGen L.Causes k k

/-- **A walk ends if no cycle is reached.** -/
theorem ReachedAcyclic.exists_walk (hacyclic : L.ReachedAcyclic) :
    ∃ depth out, L.walk depth (L.childrenOf none) = some out := by
  have horder : IsStrictOrder K fun a b =>
      L.Reached (L.childrenOf none) b ∧ Relation.TransGen L.Causes b a :=
    { irrefl := fun k h => hacyclic k h.1 h.2
      trans := fun a b c hab hbc => ⟨hbc.1, hbc.2.trans hab.2⟩ }
  have hbelow : ∀ k ∈ {k | k ∈ L.events.map L.key}, L.Reached (L.childrenOf none) k →
      ∃ depth out, L.walk depth (L.childrenOf (some k)) = some out := by
    intro k hk
    -- from the identities that caused nothing upwards
    refine (finite_keys.wellFoundedOn (r := fun a b =>
      L.Reached (L.childrenOf none) b ∧ Relation.TransGen L.Causes b a)).induction
      (P := fun k => L.Reached (L.childrenOf none) k →
        ∃ depth out, L.walk depth (L.childrenOf (some k)) = some out) hk ?_
    intro k _ ih hreached
    apply exists_walk_of_forall
    intro e hchild
    obtain ⟨he, hcause⟩ := L.mem_childrenOf.mp hchild
    exact ih (L.key e) (List.mem_map_of_mem he) ⟨hreached, .single ⟨e, he, rfl, hcause⟩⟩
      (.child hreached he hcause)
  apply exists_walk_of_forall
  intro e hroot
  exact hbelow (L.key e) (List.mem_map_of_mem (L.mem_childrenOf.mp hroot).1) (.root hroot)

/-- **A walk that ends has reached no cycle**: what is below an identity is longer than what is below
    one that it caused. -/
theorem reachedAcyclic_of_walk {depth : Nat} {out : List E}
    (h : L.walk depth (L.childrenOf none) = some out) : L.ReachedAcyclic := by
  have hbelow : ∀ k, L.Reached (L.childrenOf none) k →
      ∃ depth out, L.walk depth (L.childrenOf (some k)) = some out := by
    intro k hk
    induction hk with
    | root hroot =>
      obtain ⟨depth, below, hbelow, -⟩ := exists_walk_below h hroot
      exact ⟨depth, below, hbelow⟩
    | child _ he hcause ih =>
      obtain ⟨depth, out, hout⟩ := ih
      obtain ⟨depth, below, hbelow, -⟩ := exists_walk_below hout (L.mem_childrenOf.mpr ⟨he, hcause⟩)
      exact ⟨depth, below, hbelow⟩
  have hlt : ∀ {p k : K}, Relation.TransGen L.Causes p k → ∀ {depth depth' : Nat} {out out' : List E},
      L.walk depth (L.childrenOf (some p)) = some out →
      L.walk depth' (L.childrenOf (some k)) = some out' → out'.length < out.length := by
    intro p k hpath
    induction hpath using Relation.TransGen.head_induction_on with
    | single hstep =>
      intro depth depth' out out' hout hout'
      obtain ⟨e, he, rfl, hcause⟩ := hstep
      obtain ⟨_, below, hbelow, hlt⟩ := exists_walk_below hout (L.mem_childrenOf.mpr ⟨he, hcause⟩)
      rwa [walk_unique hbelow hout'] at hlt
    | head hstep _ ih =>
      intro depth depth' out out' hout hout'
      obtain ⟨e, he, rfl, hcause⟩ := hstep
      obtain ⟨_, below, hbelow, hlt⟩ := exists_walk_below hout (L.mem_childrenOf.mpr ⟨he, hcause⟩)
      exact (ih hbelow hout').trans hlt
  intro k hk hcycle
  obtain ⟨depth, out, hout⟩ := hbelow k hk
  exact Nat.lt_irrefl _ (hlt hcycle hout hout)

/-! ## Causes first -/

/-- Without cycles every event is reached, if no cause is missing. -/
theorem Acyclic.reached (hacyclic : L.Acyclic)
    (hclosed : ∀ e ∈ L.events, ∀ k, L.cause e = some k → k ∈ L.events.map L.key) {e : E}
    (he : e ∈ L.events) : L.Reached (L.childrenOf none) (L.key e) := by
  have horder : IsStrictOrder K (Relation.TransGen L.Causes) :=
    { irrefl := hacyclic
      trans := fun a b c hab hbc => hab.trans hbc }
  refine (finite_keys.wellFoundedOn (r := Relation.TransGen L.Causes)).induction
    (P := fun k => L.Reached (L.childrenOf none) k) (List.mem_map_of_mem he) ?_
  intro k hk ih
  obtain ⟨x, hx, rfl⟩ := List.mem_map.mp hk
  cases hcause : L.cause x with
  | none => exact .root (L.mem_childrenOf.mpr ⟨hx, hcause⟩)
  | some p => exact .child (ih p (hclosed x hx p hcause) (.single ⟨x, hx, rfl, hcause⟩)) hx hcause

/-- **A walk through a log without duplicates or cycles has the causes first.** -/
theorem causesFirst_walkOrder {depth : Nat} {out : List E} (hacyclic : L.Acyclic)
    (hclosed : ∀ e ∈ L.events, ∀ k, L.cause e = some k → k ∈ L.events.map L.key)
    (h : L.walk depth (L.childrenOf none) = some out) (hnodup : (out.map L.key).Nodup) :
    L.CausesFirst (out ++ L.byTime (L.events.filter fun e => L.key e ∉ out.map L.key)) := by
  have hnone : (L.events.filter fun e => L.key e ∉ out.map L.key) = [] := by
    refine List.filter_eq_nil_iff.mpr ?_
    intro e he
    rw [decide_eq_true_iff, not_not, mem_keys_walk_iff h]
    exact hacyclic.reached hclosed he
  rw [hnone]
  have hall : out ++ L.byTime [] = out := List.append_nil out
  rw [hall]
  refine (walk_follows h).causesFirst hnodup ?_
  intro e _ hroot p _ hcause
  rw [(L.mem_childrenOf.mp hroot).2] at hcause
  cases hcause

/-! ## The whole order -/

theorem walkOrder_eq_some_iff {depth : Nat} {result : List E} :
    L.walkOrder depth = some result ↔
      ∃ out, L.walk depth (L.childrenOf none) = some out ∧
        result = out ++ L.byTime (L.events.filter fun e => L.key e ∉ out.map L.key) := by
  unfold walkOrder
  simp only [Option.bind_eq_bind, Option.bind_eq_some_iff, Option.pure_def, Option.some.injEq,
    eq_comm (b := result)]

/-- **What an order shows**: an event is left out if it is not reached, but its identity is. -/
theorem mem_walkOrder_iff {depth : Nat} {result : List E} (h : L.walkOrder depth = some result)
    {e : E} : e ∈ result ↔
      e ∈ L.events ∧ (L.Reached (L.childrenOf none) (L.key e) → L.Visited e) := by
  obtain ⟨out, hout, rfl⟩ := walkOrder_eq_some_iff.mp h
  have hvisited : L.cause e ∈ L.lookups out ↔ L.Visited e := by
    unfold Visited
    cases hcause : L.cause e with
    | none =>
      refine iff_of_true List.mem_cons_self ?_
      rintro k ⟨⟩
    | some k =>
      rw [← List.count_pos_iff, count_some_lookups, List.count_pos_iff, mem_keys_walk_iff hout]
      constructor
      · rintro hk _ ⟨⟩
        exact hk
      · intro hk
        exact hk k rfl
  rw [List.mem_append, mem_walk_iff hout, mem_byTime, List.mem_filter, decide_eq_true_iff,
    mem_keys_walk_iff hout, hvisited]
  tauto

/-- **When the order of a log is a permutation of it.** -/
theorem exists_walkOrder_perm_iff :
    (∃ depth result, L.walkOrder depth = some result ∧ result.Perm L.events) ↔ L.Walkable := by
  constructor
  · rintro ⟨depth, result, h, hperm⟩
    obtain ⟨out, hout, rfl⟩ := walkOrder_eq_some_iff.mp h
    exact (walkOrder_perm_iff hout).mp hperm
  · intro hw
    obtain ⟨depth, out, hout⟩ := ReachedAcyclic.exists_walk fun k hk => hw.not_transGen hk
    exact ⟨depth, _, walkOrder_eq_some_iff.mpr ⟨out, hout, rfl⟩, (walkOrder_perm_iff hout).mpr hw⟩

end RefundOps.EventLog
