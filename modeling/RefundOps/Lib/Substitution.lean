import Mathlib.Data.List.Basic

/-!
# Substitution by patterns

`re.sub`: the matches of a pattern are looked for from left to right and replaced, each search going
on where the last match ended. A match is looked for at a `Place` of the text, which is what stands
before, read backwards, and what stands after. `ends` lists where the matches that begin at a place
end, in the order a backtracking matcher comes to them, greedy as the patterns are; the first is the
one it takes. `Matches` says the same without the order, and `mem_ends_iff` joins the two.

What replaces a match here is a `Marker`, some text between two signs. The question is whether
a pattern that matched nothing, or all of whose matches have been replaced, can match again in
what a substitution has left. It can not (`Absent.subFrom`) if the markers are `Foreign` to it, so
that a match is neither inside a marker nor across its signs, and if it has no word boundaries in it
or the matches that were replaced stood between boundaries of their own: then there is a boundary at
every place where the text was cut, and a match after the cut would have been one before.

**`applyAll_absent`** is this for a whole list of rules, applied one after another, and
**`applyAll_applyAll`** what follows for a second round.
-/

set_option autoImplicit false

namespace RefundOps.Substitution

variable {α : Type}

/-! ## Patterns -/

inductive Regex (α : Type) where
  | empty
  | boundary
  | one (P : α → Bool)
  | many (P : α → Bool)
  | opt (p : Regex α)
  | seq (p q : Regex α)

/-- Where a match may begin or end. -/
structure Place (α : Type) where
  before : List α
  after : List α

/-- `\b`: a word character on one side and none on the other. -/
def atBoundary (word : α → Bool) (before after : List α) : Bool :=
  before.head?.any word != after.head?.any word

/-- `P+`, the longest first. -/
def longestFirst (P : α → Bool) : List α → List α → List (Place α)
  | _, [] => []
  | before, c :: after =>
    if P c then longestFirst P (c :: before) after ++ [⟨c :: before, after⟩] else []

/-- Where the matches that begin at a place end. -/
def ends (word : α → Bool) : Regex α → Place α → List (Place α)
  | .empty, s => [s]
  | .boundary, s => if atBoundary word s.before s.after then [s] else []
  | .one P, s =>
    match s.after with
    | [] => []
    | c :: after => if P c then [⟨c :: s.before, after⟩] else []
  | .many P, s => longestFirst P s.before s.after
  | .opt p, s => ends word p s ++ [s]
  | .seq p q, s => (ends word p s).flatMap (ends word q)

namespace Regex

def cat : List (Regex α) → Regex α
  | [] => .empty
  | p :: ps => .seq p (cat ps)

/-- `p{n}`. -/
def rep (p : Regex α) (n : Nat) : Regex α := cat (List.replicate n p)

/-- `\bp\b`. -/
def delimited (p : Regex α) : Regex α := .seq .boundary (.seq p .boundary)

/-- `p` matches `w` between `before` and `after`. -/
def Matches (word : α → Bool) : Regex α → List α → List α → List α → Prop
  | .empty, _, w, _ => w = []
  | .boundary, before, w, after => w = [] ∧ atBoundary word before after = true
  | .one P, _, w, _ => ∃ c, w = [c] ∧ P c = true
  | .many P, _, w, _ => w ≠ [] ∧ ∀ c ∈ w, P c = true
  | .opt p, before, w, after => p.Matches word before w after ∨ w = []
  | .seq p q, before, w, after =>
    ∃ u v, w = u ++ v ∧ p.Matches word before u (v ++ after) ∧
      q.Matches word (u.reverse ++ before) v after

/-- No word boundary is asked for. -/
def plain : Regex α → Bool
  | .boundary => false
  | .opt p => p.plain
  | .seq p q => p.plain && q.plain
  | _ => true

/-- No match has `c` in it. -/
def rejects (c : α) : Regex α → Bool
  | .one P => !P c
  | .many P => !P c
  | .opt p => p.rejects c
  | .seq p q => p.rejects c && q.rejects c
  | _ => true

/-- No match is shorter. -/
def minLength : Regex α → Nat
  | .one _ => 1
  | .many _ => 1
  | .seq p q => p.minLength + q.minLength
  | _ => 0

/-- No match is longer, if there is a bound. -/
def maxLength : Regex α → Option Nat
  | .one _ => some 1
  | .many _ => none
  | .opt p => p.maxLength
  | .seq p q => p.maxLength.bind fun n => q.maxLength.map (n + ·)
  | _ => some 0

/-- Every match has a character that is not in `avoid`. -/
def obliges (avoid : List α) : Regex α → Bool
  | .one P => avoid.all fun c => !P c
  | .many P => avoid.all fun c => !P c
  | .seq p q => p.obliges avoid || q.obliges avoid
  | _ => false

end Regex

variable {word : α → Bool} {p q : Regex α} {b w a : List α}

theorem place_ext {s t : Place α} (hb : s.before = t.before) (ha : s.after = t.after) : s = t := by
  cases s
  cases t
  cases hb
  cases ha
  rfl

theorem mem_longestFirst_iff {P : α → Bool} {e : Place α} :
    e ∈ longestFirst P b a ↔
      ∃ w, a = w ++ e.after ∧ e.before = w.reverse ++ b ∧ w ≠ [] ∧ ∀ c ∈ w, P c = true := by
  induction a generalizing b with
  | nil =>
    unfold longestFirst
    refine iff_of_false List.not_mem_nil fun h => ?_
    obtain ⟨w, hw, _, hne, _⟩ := h
    exact hne (List.append_eq_nil_iff.mp hw.symm).1
  | cons c a ih =>
    unfold longestFirst
    split
    · rename_i hc
      rw [List.mem_append, List.mem_singleton, ih]
      constructor
      · intro h
        rcases h with ⟨w, ha, hb, hne, hall⟩ | rfl
        · refine ⟨c :: w, ?_, ?_, List.cons_ne_nil _ _, List.forall_mem_cons.mpr ⟨hc, hall⟩⟩
          · rw [ha, List.cons_append]
          · rw [hb, List.reverse_cons, List.append_assoc]
            rfl
        · exact ⟨[c], rfl, rfl, List.cons_ne_nil _ _, List.forall_mem_singleton.mpr hc⟩
      · intro h
        obtain ⟨w, ha, hb, hne, hall⟩ := h
        cases w with
        | nil => exact absurd rfl hne
        | cons d w =>
          rw [List.cons_append] at ha
          injection ha with hcd ha
          subst hcd
          by_cases hw : w = []
          · right
            rw [hw] at ha hb
            exact place_ext hb ha.symm
          · left
            refine ⟨w, ha, ?_, hw, (List.forall_mem_cons.mp hall).2⟩
            rw [hb, List.reverse_cons, List.append_assoc]
            rfl
    · rename_i hc
      refine iff_of_false List.not_mem_nil fun h => ?_
      obtain ⟨w, ha, _, hne, hall⟩ := h
      cases w with
      | nil => exact hne rfl
      | cons d w =>
        rw [List.cons_append] at ha
        injection ha with hcd ha
        exact hc (hcd ▸ (List.forall_mem_cons.mp hall).1)

/-- **The ends of the matches**, as a backtracking matcher lists them, are those of the words that
    match. -/
theorem mem_ends_iff {s e : Place α} :
    e ∈ ends word p s ↔
      ∃ w, s.after = w ++ e.after ∧ e.before = w.reverse ++ s.before ∧
        p.Matches word s.before w e.after := by
  induction p generalizing s e with
  | empty =>
    unfold ends Regex.Matches
    rw [List.mem_singleton]
    constructor
    · rintro rfl
      exact ⟨[], rfl, rfl, rfl⟩
    · intro h
      obtain ⟨w, ha, hb, rfl⟩ := h
      exact place_ext hb ha.symm
  | boundary =>
    unfold ends Regex.Matches
    constructor
    · intro h
      split at h
      · rename_i hat
        rw [List.mem_singleton] at h
        subst h
        exact ⟨[], rfl, rfl, rfl, hat⟩
      · cases h
    · intro h
      obtain ⟨w, ha, hb, rfl, hat⟩ := h
      have he : e = s := place_ext hb ha.symm
      rw [he] at hat
      rw [if_pos hat, he]
      exact List.mem_singleton_self s
  | one P =>
    unfold ends Regex.Matches
    constructor
    · intro h
      split at h
      · cases h
      · rename_i c after hs
        split at h
        · rename_i hc
          rw [List.mem_singleton] at h
          subst h
          exact ⟨[c], hs, rfl, c, rfl, hc⟩
        · cases h
    · intro h
      obtain ⟨w, ha, hb, c, rfl, hc⟩ := h
      have hs : s.after = c :: e.after := ha
      rw [hs]
      change e ∈ if P c = true then [(⟨c :: s.before, e.after⟩ : Place α)] else []
      rw [if_pos hc, List.mem_singleton]
      exact place_ext hb rfl
  | many P =>
    unfold ends Regex.Matches
    exact mem_longestFirst_iff
  | opt p ih =>
    unfold ends Regex.Matches
    rw [List.mem_append, List.mem_singleton, ih]
    constructor
    · intro h
      rcases h with ⟨w, ha, hb, hw⟩ | rfl
      · exact ⟨w, ha, hb, Or.inl hw⟩
      · exact ⟨[], rfl, rfl, Or.inr rfl⟩
    · intro h
      obtain ⟨w, ha, hb, hw | rfl⟩ := h
      · exact Or.inl ⟨w, ha, hb, hw⟩
      · exact Or.inr (place_ext hb ha.symm)
  | seq p q ihp ihq =>
    unfold ends Regex.Matches
    rw [List.mem_flatMap]
    constructor
    · intro h
      obtain ⟨m, hm, he⟩ := h
      obtain ⟨u, hua, hub, hu⟩ := ihp.mp hm
      obtain ⟨v, hva, hvb, hv⟩ := ihq.mp he
      refine ⟨u ++ v, ?_, ?_, u, v, rfl, hva ▸ hu, hub ▸ hv⟩
      · rw [hua, hva, List.append_assoc]
      · rw [hvb, hub, List.reverse_append, List.append_assoc]
    · intro h
      obtain ⟨w, ha, hb, u, v, rfl, hu, hv⟩ := h
      refine ⟨⟨u.reverse ++ s.before, v ++ e.after⟩, ihp.mpr ⟨u, ?_, rfl, hu⟩,
        ihq.mpr ⟨v, rfl, ?_, hv⟩⟩
      · rw [ha, List.append_assoc]
      · rw [hb, List.reverse_append, List.append_assoc]

/-! ## What a match has in it -/

theorem Regex.Matches.not_mem {c : α} (hp : p.rejects c = true) (h : p.Matches word b w a) :
    c ∉ w := by
  induction p generalizing b w a with
  | empty =>
    have hw : w = [] := h
    rw [hw]
    exact List.not_mem_nil
  | boundary =>
    rw [h.1]
    exact List.not_mem_nil
  | one P =>
    obtain ⟨d, rfl, hd⟩ := h
    intro hc
    rw [← List.mem_singleton.mp hc] at hd
    unfold rejects at hp
    rw [hd] at hp
    cases hp
  | many P =>
    intro hc
    have hd := h.2 c hc
    unfold rejects at hp
    rw [hd] at hp
    cases hp
  | opt p ih =>
    rcases h with h | rfl
    · exact ih hp h
    · exact List.not_mem_nil
  | seq p q ihp ihq =>
    obtain ⟨u, v, rfl, hu, hv⟩ := h
    obtain ⟨hrp, hrq⟩ := Bool.and_eq_true_iff.mp hp
    intro hc
    rcases List.mem_append.mp hc with hc | hc
    · exact ihp hrp hu hc
    · exact ihq hrq hv hc

theorem Regex.Matches.minLength_le (h : p.Matches word b w a) : p.minLength ≤ w.length := by
  induction p generalizing b w a with
  | empty | boundary | opt => exact Nat.zero_le _
  | one P =>
    obtain ⟨c, rfl, -⟩ := h
    exact Nat.le_refl 1
  | many P => exact List.length_pos_of_ne_nil h.1
  | seq p q ihp ihq =>
    obtain ⟨u, v, rfl, hu, hv⟩ := h
    rw [List.length_append]
    exact Nat.add_le_add (ihp hu) (ihq hv)

theorem Regex.Matches.le_maxLength {n : Nat} (hn : p.maxLength = some n)
    (h : p.Matches word b w a) : w.length ≤ n := by
  induction p generalizing b w a n with
  | empty =>
    rw [show w = [] from h]
    exact Nat.zero_le _
  | boundary =>
    rw [h.1]
    exact Nat.zero_le _
  | one P =>
    obtain ⟨c, rfl, -⟩ := h
    obtain rfl := Option.some.inj hn
    exact Nat.le_refl 1
  | many P => cases hn
  | opt p ih =>
    rcases h with h | rfl
    · exact ih hn h
    · exact Nat.zero_le _
  | seq p q ihp ihq =>
    obtain ⟨u, v, rfl, hu, hv⟩ := h
    obtain ⟨k, hk, hn⟩ := Option.bind_eq_some_iff.mp hn
    obtain ⟨l, hl, rfl⟩ := Option.map_eq_some_iff.mp hn
    rw [List.length_append]
    exact Nat.add_le_add (ihp hk hu) (ihq hl hv)

theorem Regex.Matches.exists_not_mem {avoid : List α} (hp : p.obliges avoid = true)
    (h : p.Matches word b w a) : ∃ c ∈ w, c ∉ avoid := by
  have hclass : ∀ {P : α → Bool} {c : α}, (avoid.all fun d => !P d) = true → P c = true →
      c ∉ avoid := by
    intro P c hall hc hmem
    have := List.all_eq_true.mp hall c hmem
    rw [hc] at this
    cases this
  induction p generalizing b w a with
  | empty => cases hp
  | boundary => cases hp
  | one P =>
    obtain ⟨c, rfl, hc⟩ := h
    exact ⟨c, List.mem_singleton_self c, hclass hp hc⟩
  | many P =>
    obtain ⟨c, hc⟩ := List.exists_mem_of_ne_nil w h.1
    exact ⟨c, hc, hclass hp (h.2 c hc)⟩
  | opt p _ => cases hp
  | seq p q ihp ihq =>
    obtain ⟨u, v, rfl, hu, hv⟩ := h
    rcases Bool.or_eq_true_iff.mp hp with hp | hq
    · obtain ⟨c, hc, hout⟩ := ihp hp hu
      exact ⟨c, List.mem_append_left _ hc, hout⟩
    · obtain ⟨c, hc, hout⟩ := ihq hq hv
      exact ⟨c, List.mem_append_right _ hc, hout⟩

/-! ## The same word elsewhere -/

/-- A match is one between other surroundings too, if there are word boundaries in it where there
    were before, or none are asked for. -/
theorem Regex.Matches.transfer {b' a' : List α}
    (hcut : p.plain = false → ∀ u v, w = u ++ v → atBoundary word (u.reverse ++ b) (v ++ a) = true →
      atBoundary word (u.reverse ++ b') (v ++ a') = true)
    (h : p.Matches word b w a) : p.Matches word b' w a' := by
  induction p generalizing b w a b' a' with
  | empty => exact h
  | boundary =>
    obtain ⟨rfl, hat⟩ := h
    exact ⟨rfl, hcut rfl [] [] rfl hat⟩
  | one P => exact h
  | many P => exact h
  | opt p ih =>
    rcases h with h | h
    · exact Or.inl (ih hcut h)
    · exact Or.inr h
  | seq p q ihp ihq =>
    obtain ⟨u, v, rfl, hu, hv⟩ := h
    refine ⟨u, v, rfl, ihp ?_ hu, ihq ?_ hv⟩
    · intro hp x y hxy hat
      have hplain : (Regex.seq p q).plain = false := by
        unfold plain
        rw [hp, Bool.false_and]
      have := hcut hplain x (y ++ v) (by rw [hxy, List.append_assoc])
      rw [List.append_assoc, List.append_assoc] at this
      exact this hat
    · intro hq x y hxy hat
      have hplain : (Regex.seq p q).plain = false := by
        unfold plain
        rw [hq, Bool.and_false]
      have := hcut hplain (u ++ x) y (by rw [hxy, List.append_assoc])
      rw [List.reverse_append, List.append_assoc, List.append_assoc] at this
      exact this hat

theorem matches_delimited (h : p.delimited.Matches word b w a) :
    atBoundary word b (w ++ a) = true ∧ atBoundary word (w.reverse ++ b) a = true := by
  obtain ⟨u, v, rfl, ⟨rfl, hstart⟩, x, y, rfl, _, rfl, hend⟩ := h
  rw [List.nil_append]
  refine ⟨hstart, ?_⟩
  rw [List.append_nil]
  exact hend

/-! ## Substitution -/

/-- A pattern no match of which is empty; `re.sub` has a rule of its own for empty matches. -/
structure Pattern (α : Type) where
  expr : Regex α
  proper : expr.obliges [] = true

theorem Pattern.ne_nil {p : Pattern α} (h : p.expr.Matches word b w a) : w ≠ [] := by
  obtain ⟨c, hc, _⟩ := h.exists_not_mem p.proper
  exact List.ne_nil_of_mem hc

theorem Pattern.advances {p : Pattern α} {s e : Place α} (h : e ∈ ends word p.expr s) :
    e.after.length < s.after.length := by
  obtain ⟨w, ha, _, hw⟩ := mem_ends_iff.mp h
  have hpos : 0 < w.length := List.length_pos_of_ne_nil (Pattern.ne_nil hw)
  rw [ha, List.length_append]
  omega

/-- What is left of the text from a place on, with `repl` for each match. -/
def subFrom (word : α → Bool) (p : Pattern α) (repl : List α) (s : Place α) : List α :=
  match _ : (ends word p.expr s).head? with
  | some e => repl ++ subFrom word p repl e
  | none =>
    match _ : s.after with
    | [] => []
    | c :: after => c :: subFrom word p repl ⟨c :: s.before, after⟩
termination_by s.after.length
decreasing_by
  · rename_i h
    exact Pattern.advances (List.mem_of_mem_head? h)
  · rename_i hs
    rw [hs]
    exact Nat.lt_succ_self _

/-- `p.sub(repl, text)`. -/
def sub (word : α → Bool) (p : Pattern α) (repl text : List α) : List α :=
  subFrom word p repl ⟨[], text⟩

/-- `p` matches nowhere from a place on. -/
def Absent (word : α → Bool) (p : Pattern α) (s : Place α) : Prop :=
  ∀ u w a, s.after = u ++ (w ++ a) → ¬ p.expr.Matches word (u.reverse ++ s.before) w a

/-- `p.search(text)` finds something. -/
def Found (word : α → Bool) (p : Pattern α) (text : List α) : Prop :=
  ∃ before w after, text = before ++ (w ++ after) ∧
    p.expr.Matches word before.reverse w after

section Sub

variable {P Q : Pattern α} {repl : List α} {s : Place α}

theorem subFrom_of_match {e : Place α} (h : (ends word P.expr s).head? = some e) :
    subFrom word P repl s = repl ++ subFrom word P repl e := by
  rw [subFrom]
  split
  · rename_i e' he
    rw [h] at he
    cases he
    rfl
  · rename_i hnone
    rw [h] at hnone
    cases hnone

theorem subFrom_of_cons {c : α} {after : List α} (h : (ends word P.expr s).head? = none)
    (hs : s.after = c :: after) :
    subFrom word P repl s = c :: subFrom word P repl ⟨c :: s.before, after⟩ := by
  rw [subFrom]
  split
  · rename_i e he
    rw [h] at he
    cases he
  · split
    · rename_i hnil
      rw [hs] at hnil
      cases hnil
    · rename_i c' after' hcons
      rw [hs] at hcons
      cases hcons
      rfl

theorem subFrom_of_nil (hs : s.after = []) : subFrom word P repl s = [] := by
  have hnone : (ends word P.expr s).head? = none := by
    refine Option.eq_none_iff_forall_ne_some.mpr fun e he => ?_
    have := Pattern.advances (List.mem_of_mem_head? he)
    rw [hs] at this
    exact absurd this (Nat.not_lt_zero _)
  rw [subFrom]
  split
  · rename_i e he
    rw [hnone] at he
    cases he
  · split
    · rfl
    · rename_i c' after' hcons
      rw [hs] at hcons
      cases hcons

/-- **Induction along a scan**: a match is replaced, or the text is at its end, or a character is
    kept. -/
theorem scan_induction (word : α → Bool) (p : Pattern α) {motive : Place α → Prop}
    (hit : ∀ s e, (ends word p.expr s).head? = some e → motive e → motive s)
    (stop : ∀ s, (ends word p.expr s).head? = none → s.after = [] → motive s)
    (keep : ∀ s c after, (ends word p.expr s).head? = none → s.after = c :: after →
      motive ⟨c :: s.before, after⟩ → motive s)
    (s : Place α) : motive s := by
  induction hn : s.after.length using Nat.strongRecOn generalizing s with
  | ind n ih =>
    subst hn
    cases hfirst : (ends word p.expr s).head? with
    | some e =>
      have hlt := Pattern.advances (List.mem_of_mem_head? hfirst)
      exact hit s e hfirst (ih e.after.length hlt e rfl)
    | none =>
      cases hs : s.after with
      | nil => exact stop s hfirst hs
      | cons c after =>
        refine keep s c after hfirst hs (ih after.length ?_ _ rfl)
        rw [hs]
        exact Nat.lt_succ_self _

/-- What is absent from a place on is absent from every later one on. -/
theorem Absent.later {e : Place α} {w : List α} (h : Absent word Q s) (ha : s.after = w ++ e.after)
    (hb : e.before = w.reverse ++ s.before) : Absent word Q e := by
  intro u x y hxy hx
  refine h (w ++ u) x y ?_ ?_
  · rw [ha, hxy, List.append_assoc]
  · rw [List.reverse_append, List.append_assoc, ← hb]
    exact hx

/-- A pattern that needs a character has no match in nothing. -/
theorem absent_nil {before : List α} : Absent word Q ⟨before, []⟩ := by
  intro u w a h hw
  have hwa : w ++ a = [] := (List.append_eq_nil_iff.mp h.symm).2
  exact Pattern.ne_nil hw (List.append_eq_nil_iff.mp hwa).1

/-- What has no match here and none further on has none from here on. -/
theorem Absent.cons {before after : List α} {c : α}
    (hhere : ∀ w a, c :: after = w ++ a → ¬ Q.expr.Matches word before w a)
    (h : Absent word Q ⟨c :: before, after⟩) : Absent word Q ⟨before, c :: after⟩ := by
  intro u w a hsplit hw
  cases u with
  | nil => exact hhere w a hsplit hw
  | cons d u =>
    injection hsplit with hcd hsplit
    subst hcd
    refine h u w a hsplit ?_
    rw [List.reverse_cons, List.append_assoc] at hw
    exact hw

/-- A pattern that matches nowhere leaves the text as it is. -/
theorem subFrom_eq_self (h : Absent word P s) : subFrom word P repl s = s.after := by
  obtain ⟨before, after⟩ := s
  induction after generalizing before with
  | nil => exact subFrom_of_nil rfl
  | cons c after ih =>
    have hnone : (ends word P.expr ⟨before, c :: after⟩).head? = none := by
      refine Option.eq_none_iff_forall_ne_some.mpr fun e he => ?_
      obtain ⟨w, ha, _, hw⟩ := mem_ends_iff.mp (List.mem_of_mem_head? he)
      exact h [] w e.after ha hw
    have hlater : Absent word P ⟨c :: before, after⟩ := @Absent.later _ _ _ _ _ [c] h rfl rfl
    rw [subFrom_of_cons hnone rfl, ih _ hlater]

theorem absent_start_iff {text : List α} :
    Absent word P ⟨[], text⟩ ↔ ¬ Found word P text := by
  constructor
  · intro h hf
    obtain ⟨u, w, a, ht, hw⟩ := hf
    refine h u w a ht ?_
    rw [List.append_nil]
    exact hw
  · intro h u w a ht hw
    rw [List.append_nil] at hw
    exact h ⟨u, w, a, ht, hw⟩

/-- Whether a pattern matches nowhere, one place after another. -/
def misses (word : α → Bool) (p : Pattern α) : List α → List α → Bool
  | _, [] => true
  | before, c :: after =>
    (ends word p.expr ⟨before, c :: after⟩).isEmpty && misses word p (c :: before) after

theorem misses_iff {before after : List α} :
    misses word P before after = true ↔ Absent word P ⟨before, after⟩ := by
  induction after generalizing before with
  | nil => exact iff_of_true rfl absent_nil
  | cons c after ih =>
    rw [misses, Bool.and_eq_true_iff, List.isEmpty_iff, ih]
    constructor
    · intro h
      refine h.2.cons ?_
      intro w a hsplit hw
      have hmem : (⟨w.reverse ++ before, a⟩ : Place α) ∈ ends word P.expr ⟨before, c :: after⟩ :=
        mem_ends_iff.mpr ⟨w, hsplit, rfl, hw⟩
      rw [h.1] at hmem
      cases hmem
    · intro h
      refine ⟨List.eq_nil_iff_forall_not_mem.mpr ?_, @Absent.later _ _ _ _ _ [c] h rfl rfl⟩
      intro e he
      obtain ⟨w, hsplit, _, hw⟩ := mem_ends_iff.mp he
      exact h [] w e.after hsplit hw

instance : Decidable (Absent word P s) :=
  decidable_of_iff (misses word P s.before s.after = true) misses_iff

theorem not_absent_start_iff {text : List α} :
    ¬ Absent word P ⟨[], text⟩ ↔ Found word P text :=
  (not_congr absent_start_iff).trans Classical.not_not

instance {text : List α} : Decidable (Found word P text) :=
  decidable_of_iff (¬ Absent word P ⟨[], text⟩) not_absent_start_iff

end Sub

/-! ## Markers -/

/-- What matches are replaced by: some text between two signs. -/
structure Marker (α : Type) where
  left : α
  inside : List α
  right : α

namespace Marker

def text (m : Marker α) : List α := m.left :: (m.inside ++ [m.right])

/-- No match of `p` is inside `m`, nor is one of its signs in a match. -/
def Foreign (m : Marker α) (p : Pattern α) : Prop :=
  p.expr.rejects m.left = true ∧ p.expr.rejects m.right = true ∧
    p.expr.obliges m.inside = true

instance (m : Marker α) (p : Pattern α) : Decidable (m.Foreign p) :=
  inferInstanceAs (Decidable (_ ∧ _ ∧ _))

end Marker

section Markers

variable {P Q : Pattern α} {m : Marker α} {s : Place α}

/-- No match of a pattern begins in a marker that is foreign to it. -/
theorem Marker.Foreign.not_matches {u v : List α} (hm : m.Foreign Q)
    (ht : m.text ++ v = u ++ (w ++ a)) (hu : u.length < m.text.length) :
    ¬ Q.expr.Matches word b w a := by
  intro h
  obtain ⟨hleft, hright, hinside⟩ := hm
  have hl := h.not_mem hleft
  have hr := h.not_mem hright
  obtain ⟨c, hc, hout⟩ := h.exists_not_mem hinside
  cases u with
  | nil =>
    cases w with
    | nil => cases hc
    | cons d w =>
      unfold Marker.text at ht
      injection ht with hd _
      exact hl (hd ▸ List.mem_cons_self ..)
  | cons d u =>
    have htail : m.inside ++ (m.right :: v) = u ++ (w ++ a) := by
      unfold Marker.text at ht
      injection ht with _ ht
      have htail : m.inside ++ [m.right] ++ v = u ++ (w ++ a) := ht
      rw [← htail, List.append_assoc]
      rfl
    have hlen : u.length ≤ m.inside.length := by
      unfold Marker.text at hu
      simp only [List.length_cons, List.length_append, List.length_nil] at hu
      omega
    -- the match begins inside; it cannot end there, nor go over the sign on the right
    obtain ⟨x, hx⟩ : u <+: m.inside :=
      List.prefix_of_prefix_length_le ⟨w ++ a, htail.symm⟩ ⟨m.right :: v, rfl⟩ hlen
    have hrest : w ++ a = x ++ m.right :: v := by
      rw [← hx, List.append_assoc] at htail
      exact (List.append_cancel_left htail).symm
    have hsub : ∀ d ∈ x, d ∈ m.inside := by
      intro d hd
      rw [← hx]
      exact List.mem_append_right _ hd
    rcases List.append_eq_append_iff.mp hrest with ⟨t, hxt, _⟩ | ⟨t, hwt, hta⟩
    · exact hout (hsub c (hxt ▸ List.mem_append_left _ hc))
    · cases t with
      | nil =>
        rw [List.append_nil] at hwt
        exact hout (hsub c (hwt ▸ hc))
      | cons d t =>
        injection hta with hd _
        rw [hwt, ← hd] at hr
        exact hr (List.mem_append_right _ (List.mem_cons_self ..))

/-- A marker that is foreign to a pattern may be put before a text. -/
theorem Absent.after_marker {ob rest : List α} (hm : m.Foreign Q)
    (h : Absent word Q ⟨m.text.reverse ++ ob, rest⟩) : Absent word Q ⟨ob, m.text ++ rest⟩ := by
  intro u w a hsplit hw
  by_cases hu : u.length < m.text.length
  · exact hm.not_matches hsplit hu hw
  · obtain ⟨u', rfl⟩ : m.text <+: u :=
      List.prefix_of_prefix_length_le ⟨rest, rfl⟩ ⟨w ++ a, hsplit.symm⟩ (Nat.not_lt.mp hu)
    rw [List.append_assoc] at hsplit
    refine h u' w a (List.append_cancel_left hsplit) ?_
    rw [← List.append_assoc, ← List.reverse_append]
    exact hw

/-- A piece of the result without the sign of a marker is a piece of the text. -/
theorem subFrom_append {v : List α} (hl : m.left ∉ w) (h : subFrom word P m.text s = w ++ v) :
    ∃ a, s.after = w ++ a ∧ v = subFrom word P m.text ⟨w.reverse ++ s.before, a⟩ := by
  induction w generalizing s with
  | nil => exact ⟨s.after, rfl, h.symm⟩
  | cons c w ih =>
    have hc : m.left ≠ c := fun hc => hl (hc ▸ List.mem_cons_self ..)
    have hw : m.left ∉ w := fun hw => hl (List.mem_cons_of_mem c hw)
    cases hfirst : (ends word P.expr s).head? with
    | some e =>
      rw [subFrom_of_match hfirst] at h
      injection h with hleft _
      exact absurd hleft hc
    | none =>
      cases hs : s.after with
      | nil =>
        rw [subFrom_of_nil hs] at h
        cases h
      | cons d after =>
        rw [subFrom_of_cons hfirst hs] at h
        injection h with hd h
        subst hd
        obtain ⟨a, ha, hv⟩ := ih hw h
        refine ⟨a, ?_, ?_⟩
        · rw [show after = w ++ a from ha]
          rfl
        · rw [hv, List.reverse_cons, List.append_assoc]
          rfl

/-- The result goes on as the text does, or there is a match. -/
theorem head?_subFrom (h : (ends word P.expr s).head? = none) :
    (subFrom word P m.text s).head? = s.after.head? := by
  cases hs : s.after with
  | nil => rw [subFrom_of_nil hs]
  | cons c after =>
    rw [subFrom_of_cons h hs]
    rfl

/-! ## What a substitution leaves -/

theorem atBoundary_congr {b' a' : List α} (hb : b.head? = b'.head?) (ha : a.head? = a'.head?) :
    atBoundary word b a = atBoundary word b' a' := by
  unfold atBoundary
  rw [hb, ha]

theorem head?_reverse_append {u : List α} (hu : u ≠ []) (b b' : List α) :
    (u.reverse ++ b).head? = (u.reverse ++ b').head? := by
  have hne : u.reverse ≠ [] := fun h => hu (List.reverse_eq_nil_iff.mp h)
  rw [List.head?_append_of_ne_nil _ hne, List.head?_append_of_ne_nil _ hne]

/-- A match in the result that begins where the text goes on is a match in the text. -/
theorem matches_of_subFrom {ob : List α} (hl : m.left ∉ w) (hne : w ≠ [])
    (hcut : Q.expr.plain = true ∨ ∃ p, P.expr = Regex.delimited p)
    (hstart : Q.expr.plain = false → atBoundary word ob s.after = true →
      atBoundary word s.before s.after = true)
    (h : subFrom word P m.text s = w ++ a) (hw : Q.expr.Matches word ob w a) :
    ∃ a', s.after = w ++ a' ∧ Q.expr.Matches word s.before w a' := by
  obtain ⟨a', ha', rfl⟩ := subFrom_append hl h
  refine ⟨a', ha', hw.transfer ?_⟩
  intro hplain u v huv hat
  obtain ⟨p, hp⟩ : ∃ p, P.expr = Regex.delimited p := by
    rcases hcut with hcut | hcut
    · rw [hplain] at hcut
      cases hcut
    · exact hcut
  by_cases hu : u = []
  · -- the place where the match begins
    have hwv : v = w := by
      rw [huv, hu]
      rfl
    rw [hu, hwv] at hat ⊢
    have hhead : (w ++ subFrom word P m.text ⟨w.reverse ++ s.before, a'⟩).head? = s.after.head? := by
      rw [ha', List.head?_append_of_ne_nil _ hne, List.head?_append_of_ne_nil _ hne]
    have hob : atBoundary word ob s.after = true := by
      rw [← atBoundary_congr rfl hhead]
      exact hat
    rw [← ha']
    exact hstart hplain hob
  · by_cases hv : v = []
    · -- the place where it ends: a marker that follows stands for a match with a boundary there
      rw [hv, List.nil_append] at hat ⊢
      have hwu : u = w := by rw [huv, hv, List.append_nil]
      cases hfirst : (ends word P.expr ⟨w.reverse ++ s.before, a'⟩).head? with
      | some e =>
        obtain ⟨x, hx, _, hmatch⟩ := mem_ends_iff.mp (List.mem_of_mem_head? hfirst)
        rw [hp] at hmatch
        have hedge := (matches_delimited hmatch).1
        rw [hwu, show a' = x ++ e.after from hx]
        exact hedge
      | none =>
        rw [atBoundary_congr (head?_reverse_append hu s.before ob) (head?_subFrom hfirst).symm]
        exact hat
    · rw [atBoundary_congr (head?_reverse_append hu s.before ob)
        ((List.head?_append_of_ne_nil _ hv).trans (List.head?_append_of_ne_nil _ hv).symm)]
      exact hat

/-- **Nothing new matches.** What is absent from the text, or has just been replaced in it, is absent
    from the result. The result is read from a place on, with `ob` before it. -/
theorem Absent.subFrom {ob : List α} (hm : m.Foreign Q)
    (hcut : Q.expr.plain = true ∨ ∃ p, P.expr = Regex.delimited p)
    (hstart : Q.expr.plain = false → atBoundary word ob s.after = true →
      atBoundary word s.before s.after = true)
    (hQ : Q = P ∨ Absent word Q s) :
    Absent word Q ⟨ob, Substitution.subFrom word P m.text s⟩ := by
  induction s using scan_induction word P generalizing ob with
  | hit s e hfirst ih =>
    -- past the marker, the rest is what is left from the end of the match on
    obtain ⟨x, hx, hxb, hmatch⟩ := mem_ends_iff.mp (List.mem_of_mem_head? hfirst)
    have hedge : Q.expr.plain = false →
        atBoundary word (m.text.reverse ++ ob) e.after = true →
        atBoundary word e.before e.after = true := by
      intro hplain _
      rcases hcut with hcut | ⟨p, hp⟩
      · rw [hplain] at hcut
        cases hcut
      · rw [hp] at hmatch
        rw [hxb]
        exact (matches_delimited hmatch).2
    have hlater : Q = P ∨ Absent word Q e := hQ.imp_right fun h => h.later hx hxb
    rw [subFrom_of_match hfirst]
    exact (ih hedge hlater).after_marker hm
  | stop s hfirst hs =>
    rw [subFrom_of_nil hs]
    exact absent_nil
  | keep s c after hfirst hs ih =>
    have hcons : Substitution.subFrom word P m.text s = _ := subFrom_of_cons hfirst hs
    rw [hcons]
    refine Absent.cons ?_ ?_
    · intro w a hsplit hw
      rw [← hcons] at hsplit
      have hleft := hw.not_mem hm.1
      obtain ⟨a', ha', hmatch⟩ :=
        matches_of_subFrom hleft (Pattern.ne_nil hw) hcut hstart hsplit hw
      rcases hQ with rfl | hQ
      · have hin : (⟨w.reverse ++ s.before, a'⟩ : Place α) ∈ ends word Q.expr s :=
          mem_ends_iff.mpr ⟨w, ha', rfl, hmatch⟩
        rw [List.head?_eq_none_iff.mp hfirst] at hin
        cases hin
      · exact hQ [] w a' ha' hmatch
    · have hlater : Q = P ∨ Absent word Q ⟨c :: s.before, after⟩ :=
        hQ.imp_right fun h => @Absent.later _ _ _ s ⟨c :: s.before, after⟩ [c] h hs rfl
      have hsame : Q.expr.plain = false → atBoundary word (c :: ob) after = true →
          atBoundary word (c :: s.before) after = true := fun _ hat => hat
      exact ih hsame hlater

end Markers

/-! ## A list of rules -/

structure Rule (α : Type) where
  pattern : Pattern α
  marker : Marker α

/-- The rules, one after another. -/
def applyAll (word : α → Bool) (rules : List (Rule α)) (text : List α) : List α :=
  rules.foldl (fun text r => sub word r.pattern r.marker.text text) text

namespace Rule

/-- Replacing the matches of `r'` makes none of `r`. -/
def Keeps (r' r : Rule α) : Prop :=
  r'.marker.Foreign r.pattern ∧
    (r.pattern.expr.plain = true ∨ ∃ p, r'.pattern.expr = Regex.delimited p)

/-- No rule makes matches of its own or of an earlier one. -/
def Compatible (rules : List (Rule α)) : Prop :=
  (∀ r ∈ rules, r.Keeps r) ∧ rules.Pairwise fun r r' => r'.Keeps r

end Rule

section Rules

variable {r r' : Rule α} {rules : List (Rule α)} {text : List α}

theorem Rule.Keeps.not_found_sub (h : r'.Keeps r)
    (hr : r = r' ∨ ¬ Found word r.pattern text) :
    ¬ Found word r.pattern (sub word r'.pattern r'.marker.text text) := by
  have habs : r.pattern = r'.pattern ∨ Absent word r.pattern ⟨[], text⟩ :=
    hr.imp (congrArg Rule.pattern) absent_start_iff.mpr
  exact absent_start_iff.mp (Absent.subFrom h.1 h.2 (fun _ hat => hat) habs)

theorem not_found_applyAll (h : ∀ r' ∈ rules, r'.Keeps r)
    (hr : ¬ Found word r.pattern text) : ¬ Found word r.pattern (applyAll word rules text) := by
  induction rules generalizing text with
  | nil => exact hr
  | cons r' rules ih =>
    obtain ⟨hfirst, hrest⟩ := List.forall_mem_cons.mp h
    exact ih hrest (hfirst.not_found_sub (Or.inr hr))

/-- **After all the rules** none has a match left. -/
theorem applyAll_absent (h : Rule.Compatible rules) :
    ∀ r ∈ rules, ¬ Found word r.pattern (applyAll word rules text) := by
  induction rules generalizing text with
  | nil => exact List.forall_mem_nil _
  | cons r rules ih =>
    obtain ⟨hself, hpair⟩ := h
    obtain ⟨hr, hrest⟩ := List.forall_mem_cons.mp hself
    obtain ⟨hlater, hpair⟩ := List.pairwise_cons.mp hpair
    refine List.forall_mem_cons.mpr ⟨?_, ih ⟨hrest, hpair⟩⟩
    change ¬ Found word r.pattern (applyAll word rules (sub word r.pattern r.marker.text text))
    exact not_found_applyAll hlater (hr.not_found_sub (Or.inl rfl))

theorem applyAll_eq_self (h : ∀ r ∈ rules, ¬ Found word r.pattern text) :
    applyAll word rules text = text := by
  induction rules with
  | nil => rfl
  | cons r rules ih =>
    obtain ⟨hr, hrest⟩ := List.forall_mem_cons.mp h
    have hsub : sub word r.pattern r.marker.text text = text :=
      subFrom_eq_self (absent_start_iff.mpr hr)
    change applyAll word rules (sub word r.pattern r.marker.text text) = text
    rw [hsub]
    exact ih hrest

/-- **A second round** of the rules changes nothing. -/
theorem applyAll_applyAll (h : Rule.Compatible rules) :
    applyAll word rules (applyAll word rules text) = applyAll word rules text :=
  applyAll_eq_self (applyAll_absent h)

end Rules

end RefundOps.Substitution
