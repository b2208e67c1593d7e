import RefundOps.Lib.EventLoop

/-!
# Protocols, and handlers that keep them

Proving an invariant of an event loop directly over its handlers means going through every
suspension of every handler once for each invariant. This module does that walk once. A
*protocol* says what one action of a loop may do: from which *phase* of the loop, to which,
how the shared state changes and what an observer sees. A handler *conforms* when each of its
uninterrupted stretches is a sequence of actions. Then every run of the event loop is a run of
the protocol (`Coupled.step`), and an invariant is proved over the actions alone
(`Coupled.invariant`).

A loop's phase is a ghost: it is what the handler has promised so far (it owns a case, it has a
decision to publish). While a loop is suspended the others act, so what a handler knows when it
resumes is what their actions leave alone: `Rely` is the closure of the others' actions, and
`wp` lets a resumed handler assume no more than that and the protocol's own invariant.
-/

set_option autoImplicit false

namespace RefundOps

/-- What the loops may do to the shared state. `Waits p x` says that a loop in phase `p` may be
    suspended on the request `x`. -/
structure Protocol (ι σ ω q φ : Type) where
  quiet : φ
  Act : ι → φ → σ → List ω → φ → σ → Prop
  Waits : φ → q → Prop
  Inv : σ → Prop
  Env : σ → σ → Prop
  inv_act : ∀ {i p s os p' s'}, Inv s → Act i p s os p' s' → Inv s'
  inv_env : ∀ {s s'}, Inv s → Env s s' → Inv s'

namespace Protocol

variable {ι σ ω q φ : Type} (P : Protocol ι σ ω q φ)

/-- A sequence of actions of one loop, with everything it shows. -/
inductive Acts (i : ι) (p : φ) (s : σ) : List ω → φ → σ → Prop where
  | refl : Acts i p s [] p s
  | tail {p' p'' : φ} {s' s'' : σ} {os os' : List ω} (h : Acts i p s os p' s')
      (ha : P.Act i p' s' os' p'' s'') : Acts i p s (os ++ os') p'' s''

/-- What can happen to the state while loop `i` is suspended. -/
def Rely (i : ι) : σ → σ → Prop :=
  Relation.ReflTransGen fun s s' =>
    P.Inv s ∧ ((∃ j, j ≠ i ∧ ∃ p os p', P.Act j p s os p' s') ∨ P.Env s s')

variable {P}

theorem Acts.single {i : ι} {p p' : φ} {s s' : σ} {os : List ω} (h : P.Act i p s os p' s') :
    P.Acts i p s os p' s' := by
  simpa using (Acts.refl (p := p) (s := s)).tail h

theorem Acts.trans {i : ι} {p p' p'' : φ} {s s' s'' : σ} {os os' : List ω}
    (h : P.Acts i p s os p' s') (h' : P.Acts i p' s' os' p'' s'') :
    P.Acts i p s (os ++ os') p'' s'' := by
  induction h' with
  | refl => simpa using h
  | tail _ ha ih => rw [← List.append_assoc]; exact ih.tail ha

theorem Acts.inv {i : ι} {p p' : φ} {s s' : σ} {os : List ω} (h : P.Acts i p s os p' s')
    (hs : P.Inv s) : P.Inv s' := by
  induction h with
  | refl => exact hs
  | tail _ ha ih => exact P.inv_act ih ha

/-- The actions of another loop are among what a suspended loop has to expect. -/
theorem Acts.rely {i j : ι} {p p' : φ} {s s' : σ} {os : List ω} (hj : j ≠ i)
    (h : P.Acts j p s os p' s') (hs : P.Inv s) : P.Rely i s s' := by
  induction h with
  | refl => exact .refl
  | tail h ha ih => exact ih.tail ⟨h.inv hs, .inl ⟨j, hj, _, _, _, ha⟩⟩

/-- A property that every action of the others keeps survives a suspension. -/
theorem Rely.stable {i : ι} {s s' : σ} {A : σ → Prop} (h : P.Rely i s s') (hA : A s)
    (hact : ∀ {j p t os p' t'}, j ≠ i → P.Inv t → P.Act j p t os p' t' → A t → A t')
    (henv : ∀ {t t'}, P.Env t t' → A t → A t') : A s' := by
  induction h with
  | refl => exact hA
  | tail _ hstep ih =>
    obtain ⟨hinv, ⟨j, hj, _, _, _, ha⟩ | he⟩ := hstep
    · exact hact hj hinv ha ih
    · exact henv he ih

end Protocol

/-! ## Conformance

A stretch is checked against the protocol when it ends; until then `Seg` keeps where it began
and what it has shown. -/

/-- A stretch under way: the phase and state at its last accounted point, what it has shown
    since, and the state now. -/
structure Seg (σ ω φ : Type) where
  phase : φ
  base : σ
  obs : List ω
  cur : σ

namespace Coro

variable {ι σ ω q φ : Type} {r : q → Type} {ε α β : Type}

/-- The weakest precondition of a handler of loop `i` under the protocol: every stretch is a
    sequence of actions, and on the way out `Q` holds of the result, or `E` of the
    exception. -/
def wp (P : Protocol ι σ ω q φ) (i : ι) (Q : α → Seg σ ω φ → Prop) (E : ε → Seg σ ω φ → Prop) :
    Coro σ ω q r ε α → Seg σ ω φ → Prop
  | .pure a, g => Q a g
  | .raise e, g => E e g
  | .get k, g => wp P i Q E (k g.cur) g
  | .commit s os k, g => wp P i Q E k { g with obs := g.obs ++ os, cur := s }
  | .await x k, g =>
      ∃ p', P.Acts i g.phase g.base g.obs p' g.cur ∧ P.Waits p' x ∧
        ∀ s', P.Rely i g.cur s' → P.Inv s' → ∀ y, wp P i Q E (k y) ⟨p', s', [], s'⟩

variable {P : Protocol ι σ ω q φ} {i : ι}

section Rules

variable {Q : α → Seg σ ω φ → Prop} {E : ε → Seg σ ω φ → Prop} {g : Seg σ ω φ}

@[simp] theorem wp_pure {a : α} :
    wp (r := r) P i Q E (Pure.pure a : Coro σ ω q r ε α) g ↔ Q a g := Iff.rfl

@[simp] theorem wp_read {Q : σ → Seg σ ω φ → Prop} :
    wp (r := r) P i Q E (read : Coro σ ω q r ε σ) g ↔ Q g.cur g := Iff.rfl

@[simp] theorem wp_write {s : σ} {Q : Unit → Seg σ ω φ → Prop} :
    wp (r := r) P i Q E (write s : Coro σ ω q r ε Unit) g ↔ Q () { g with cur := s } := by
  simp [write, wp]

@[simp] theorem wp_observe {o : ω} {Q : Unit → Seg σ ω φ → Prop} :
    wp (r := r) P i Q E (observe o : Coro σ ω q r ε Unit) g ↔
      Q () { g with obs := g.obs ++ [o] } := Iff.rfl

@[simp] theorem wp_ofExcept_ok {a : α} :
    wp (r := r) P i Q E (ofExcept (.ok a) : Coro σ ω q r ε α) g ↔ Q a g := Iff.rfl

theorem wp_request {x : q} {Q : r x → Seg σ ω φ → Prop} :
    wp (r := r) P i Q E (request x : Coro σ ω q r ε (r x)) g ↔
      ∃ p', P.Acts i g.phase g.base g.obs p' g.cur ∧ P.Waits p' x ∧
        ∀ s', P.Rely i g.cur s' → P.Inv s' → ∀ y, Q y ⟨p', s', [], s'⟩ := Iff.rfl

theorem wp_bind {p : Coro σ ω q r ε α} {f : α → Coro σ ω q r ε β}
    {Q : β → Seg σ ω φ → Prop} :
    wp P i Q E (p >>= f) g ↔ wp P i (fun a g' => wp P i Q E (f a) g') E p g := by
  show wp P i Q E (p.bind f) g ↔ _
  induction p generalizing g with
  | pure a => exact Iff.rfl
  | raise e => exact Iff.rfl
  | get k ih => exact ih g.cur
  | commit s os k ih => exact ih
  | await x k ih =>
    simp only [Coro.bind, wp]
    exact exists_congr fun p' => and_congr_right fun _ => and_congr_right fun _ =>
      forall_congr' fun s' => forall_congr' fun _ => forall_congr' fun _ =>
        forall_congr' fun y => ih y

theorem wp_tryCatch {p : Coro σ ω q r ε α} {h : ε → Coro σ ω q r ε α} :
    wp P i Q E (tryCatch p h) g ↔ wp P i Q (fun e g' => wp P i Q E (h e) g') p g := by
  show wp P i Q E (p.handle h) g ↔ _
  induction p generalizing g with
  | pure a => exact Iff.rfl
  | raise e => exact Iff.rfl
  | get k ih => exact ih g.cur
  | commit s os k ih => exact ih
  | await x k ih =>
    simp only [Coro.handle, wp]
    exact exists_congr fun p' => and_congr_right fun _ => and_congr_right fun _ =>
      forall_congr' fun s' => forall_congr' fun _ => forall_congr' fun _ =>
        forall_congr' fun y => ih y

theorem wp_mono {p : Coro σ ω q r ε α} {Q' : α → Seg σ ω φ → Prop} {E' : ε → Seg σ ω φ → Prop}
    (hQ : ∀ a g, Q a g → Q' a g) (hE : ∀ e g, E e g → E' e g) (h : wp P i Q E p g) :
    wp P i Q' E' p g := by
  induction p generalizing g with
  | pure a => exact hQ a g h
  | raise e => exact hE e g h
  | get k ih => exact ih g.cur h
  | commit s os k ih => exact ih h
  | await x k ih =>
    obtain ⟨p', hacts, hw, hk⟩ := h
    exact ⟨p', hacts, hw, fun s' hr hi y => ih y (hk s' hr hi y)⟩

end Rules

/-- What a conforming handler leaves behind: its last stretch is accounted for and the loop has
    no promise left. -/
def Settled (P : Protocol ι σ ω q φ) (i : ι) (g : Seg σ ω φ) : Prop :=
  P.Acts i g.phase g.base g.obs P.quiet g.cur

/-- A handler of loop `i` keeps the protocol, whatever the state it is started in. -/
def Conforms (P : Protocol ι σ ω q φ) (i : ι) (os : List ω) (p : Coro σ ω q r ε Unit) : Prop :=
  ∀ s, P.Inv s → wp P i (fun _ => Settled P i) (fun _ => Settled P i) p ⟨P.quiet, s, os, s⟩

/-- `wp` speaks about `segment`: the stretch that is run is the stretch that was checked. -/
theorem wp_segment {Q : α → Seg σ ω φ → Prop} {E : ε → Seg σ ω φ → Prop}
    {p : Coro σ ω q r ε α} {g : Seg σ ω φ} (h : wp P i Q E p g) :
    match p.segment g.cur with
    | (os, s', .done (.ok a)) => Q a ⟨g.phase, g.base, g.obs ++ os, s'⟩
    | (os, s', .done (.error e)) => E e ⟨g.phase, g.base, g.obs ++ os, s'⟩
    | (os, s', .parked x k) =>
        ∃ p', P.Acts i g.phase g.base (g.obs ++ os) p' s' ∧ P.Waits p' x ∧
          ∀ s'', P.Rely i s' s'' → P.Inv s'' → ∀ y, wp P i Q E (k y) ⟨p', s'', [], s''⟩ := by
  induction p generalizing g with
  | pure a => simpa [segment, wp] using h
  | raise e => simpa [segment, wp] using h
  | get k ih => exact ih g.cur h
  | commit s os k ih =>
    have := ih (g := { g with obs := g.obs ++ os, cur := s }) h
    simp only [segment]
    rcases hseg : k.segment s with ⟨os', s', (a | e) | ⟨x, k'⟩⟩ <;>
      simp only [hseg] at this ⊢ <;> simpa using this
  | await x k ih =>
    simp only [segment, List.append_nil]
    exact h

end Coro

/-! ## Every run is a run of the protocol -/

section Refinement

variable {ι μ σ ω q φ : Type} {r : q → Type} {ε τ : Type}

/-- The event loop keeps the protocol: every handler conforms and the environment does only
    what the protocol lets it do. -/
structure Implements (L : EventLoop ι μ σ ω q r ε τ) (P : Protocol ι σ ω q φ) : Prop where
  handler : ∀ m, (L.handler m).Conforms P (L.target m) (L.received m)
  env : ∀ t s, P.Env s (L.env t s)

/-- A loop and its phase agree: an idle loop is quiet, and a suspended one goes on conforming
    from whatever the others leave. -/
def LoopOk (P : Protocol ι σ ω q φ) (i : ι) (s : σ) (p : φ) :
    Option (Parked σ ω q r ε) → Prop
  | none => p = P.quiet
  | some pk => P.Waits p pk.req ∧ ∀ s', P.Rely i s s' → P.Inv s' → ∀ y,
      (pk.resume y).wp P i (fun _ => Coro.Settled P i) (fun _ => Coro.Settled P i) ⟨p, s', [], s'⟩

/-- The configuration and the phases of its loops. -/
structure Coupled (P : Protocol ι σ ω q φ) (c : Config ι σ ω q r ε) (ph : ι → φ) : Prop where
  inv : P.Inv c.world
  loop : ∀ i, LoopOk P i c.world (ph i) (c.loops i)

variable {L : EventLoop ι μ σ ω q r ε τ} {P : Protocol ι σ ω q φ}

theorem LoopOk.weaken {i : ι} {s s' : σ} {p : φ} {o : Option (Parked σ ω q r ε)}
    (h : LoopOk P i s p o) (hr : P.Rely i s s') : LoopOk P i s' p o := by
  cases o with
  | none => exact h
  | some pk => exact ⟨h.1, fun s'' hr' => h.2 s'' (hr.trans hr')⟩

theorem Coupled.init {c : Config ι σ ω q r ε} (hc : c.Quiescent) (hi : P.Inv c.world) :
    Coupled P c fun _ => P.quiet :=
  ⟨hi, fun i => by rw [hc i]; rfl⟩

/-- An idle loop has no promise left. -/
theorem Coupled.quiet {c : Config ι σ ω q r ε} {ph : ι → φ} (h : Coupled P c ph)
    (hc : c.Quiescent) (i : ι) : ph i = P.quiet := by
  have := h.loop i
  rwa [hc i] at this

/-- What the other loops wait for is what their phases allow. -/
theorem Coupled.waits {c : Config ι σ ω q r ε} {ph : ι → φ} (h : Coupled P c ph) (i : ι) :
    (c.waiting i = none ∧ ph i = P.quiet) ∨ ∃ x, c.waiting i = some x ∧ P.Waits (ph i) x := by
  have := h.loop i
  cases hl : c.loops i with
  | none => rw [hl] at this; exact .inl ⟨by simp [Config.waiting, hl], this⟩
  | some pk => rw [hl] at this; exact .inr ⟨pk.req, by simp [Config.waiting, hl], this.1⟩

variable [DecidableEq ι]

/-- A stretch that was checked, settled into the configuration. -/
theorem Coupled.settle {c : Config ι σ ω q r ε} {ph : ι → φ} (h : Coupled P c ph) {i : ι}
    {p : Coro σ ω q r ε Unit} {os : List ω}
    (hwp : p.wp P i (fun _ => Coro.Settled P i) (fun _ => Coro.Settled P i)
      ⟨ph i, c.world, os, c.world⟩) :
    ∃ p', P.Acts i (ph i) c.world (os ++ (p.segment c.world).1) p' (p.segment c.world).2.1 ∧
      Coupled P (c.settle i (os ++ (p.segment c.world).1, (p.segment c.world).2)).2
        (Function.update ph i p') := by
  have hseg := Coro.wp_segment hwp
  -- the other loops: their rely absorbs the stretch
  have hothers : ∀ p' s', P.Acts i (ph i) c.world (os ++ (p.segment c.world).1) p' s' →
      ∀ j, j ≠ i → LoopOk P j s' (ph j) (c.loops j) := fun p' s' hacts j hj =>
    (h.loop j).weaken (hacts.rely (Ne.symm hj) h.inv)
  rcases hs : p.segment c.world with ⟨os', s', (a | e) | ⟨x, k⟩⟩
  all_goals simp only [hs] at hseg hothers ⊢
  · refine ⟨P.quiet, hseg, ⟨hseg.inv h.inv, fun j => ?_⟩⟩
    by_cases hj : j = i
    · subst hj; simp [Config.settle, LoopOk]
    · simpa [Config.settle, hj] using hothers _ _ hseg j hj
  · refine ⟨P.quiet, hseg, ⟨hseg.inv h.inv, fun j => ?_⟩⟩
    by_cases hj : j = i
    · subst hj; simp [Config.settle, LoopOk]
    · simpa [Config.settle, hj] using hothers _ _ hseg j hj
  · obtain ⟨p', hacts, hw, hk⟩ := hseg
    refine ⟨p', hacts, ⟨hacts.inv h.inv, fun j => ?_⟩⟩
    by_cases hj : j = i
    · subst hj
      simpa [Config.settle, LoopOk] using ⟨hw, hk⟩
    · simpa [Config.settle, hj] using hothers _ _ hacts j hj

/-- **Every step of the event loop is a sequence of actions of one loop, or a move of the
    environment.** -/
theorem Coupled.step (hL : Implements L P) {c c' : Config ι σ ω q r ε} {ph : ι → φ}
    {ch : Choice ι μ q r τ} {os : List (ι × ω)} (h : Coupled P c ph)
    (hs : L.step ch c = some (os, c')) :
    (∃ i os' p', L.mover ch = some i ∧ os = os'.map (i, ·) ∧
        P.Acts i (ph i) c.world os' p' c'.world ∧ Coupled P c' (Function.update ph i p')) ∨
      (L.mover ch = none ∧ os = [] ∧ P.Env c.world c'.world ∧ Coupled P c' ph) := by
  cases ch with
  | deliver m =>
    simp only [EventLoop.step] at hs
    cases hl : c.loops (L.target m) with
    | some pk => rw [hl] at hs; exact absurd hs (by simp)
    | none =>
      rw [hl] at hs
      simp only [Option.some.injEq] at hs
      have hq : ph (L.target m) = P.quiet := by
        have := h.loop (L.target m)
        rwa [hl] at this
      have hwp := hL.handler m c.world h.inv
      rw [← hq] at hwp
      obtain ⟨p', hacts, hc⟩ := h.settle hwp
      rw [hs] at hc
      have h1 := congrArg (·.1) hs
      have h2 := congrArg (·.2.world) hs
      simp only [Config.settle] at h1 h2
      exact .inl ⟨L.target m, _, p', rfl, h1.symm, h2 ▸ hacts, hc⟩
  | answer i y =>
    simp only [EventLoop.step] at hs
    cases hl : c.loops i with
    | none => rw [hl] at hs; exact absurd hs (by simp)
    | some pk =>
      rw [hl] at hs
      simp only [Option.some.injEq] at hs
      have hwp := h.loop i
      rw [hl] at hwp
      obtain ⟨p', hacts, hc⟩ := h.settle (hwp.2 c.world .refl h.inv (y pk.req))
      simp only [List.nil_append] at hacts hc
      rw [hs] at hc
      have h1 := congrArg (·.1) hs
      have h2 := congrArg (·.2.world) hs
      simp only [Config.settle] at h1 h2
      exact .inl ⟨i, _, p', rfl, h1.symm, h2 ▸ hacts, hc⟩
  | env t =>
    simp only [EventLoop.step, Option.some.injEq, Prod.mk.injEq] at hs
    obtain ⟨rfl, rfl⟩ := hs
    refine .inr ⟨rfl, rfl, hL.env t c.world, P.inv_env h.inv (hL.env t c.world), fun i => ?_⟩
    exact (h.loop i).weaken (.single ⟨h.inv, .inr (hL.env t c.world)⟩)

/-- **The invariant rule.** What every action keeps, over the trace, the state and the phases,
    holds along every run. An action is told what the other loops are suspended on and that
    what it shows passed the guard. -/
theorem Coupled.invariant (hL : Implements L P) {G : (ι → Option q) → ι × ω → Prop}
    {J : List (ι × ω) → σ → (ι → φ) → Prop}
    (hact : ∀ tr s ph i os p' s' (w : ι → Option q), J tr s ph → P.Inv s →
      P.Act i (ph i) s os p' s' →
      (∀ j, j ≠ i → (w j = none ∧ ph j = P.quiet) ∨ ∃ x, w j = some x ∧ P.Waits (ph j) x) →
      (∀ o ∈ os, G w (i, o)) → J (tr ++ os.map (i, ·)) s' (Function.update ph i p'))
    (henv : ∀ tr s s' ph, J tr s ph → P.Env s s' → J tr s' ph)
    {c c' : Config ι σ ω q r ε} {ph : ι → φ} {tr tr' : List (ι × ω)} (hc : Coupled P c ph)
    (hJ : J tr c.world ph) (hrun : L.Run G c tr' c') :
    ∃ ph', Coupled P c' ph' ∧ J (tr ++ tr') c'.world ph' := by
  induction hrun with
  | nil => exact ⟨ph, hc, by simpa using hJ⟩
  | @step tr' os c₁ c₂ _ ch hs hg ih =>
    obtain ⟨ph₁, hc₁, hJ₁⟩ := ih
    rcases hc₁.step hL hs with ⟨i, os', p', -, rfl, hacts, hc₂⟩ | ⟨-, rfl, he, hc₂⟩
    · refine ⟨_, hc₂, ?_⟩
      have hg' : ∀ o ∈ os', G c₁.waiting (i, o) := fun o ho =>
        hg (i, o) (List.mem_map_of_mem ho)
      rw [← List.append_assoc]
      clear hs hg hc₂
      generalize c₂.world = s₂ at hacts
      -- along the actions of the stretch: only loop `i` moves, the others stay as they were
      induction hacts with
      | refl => simpa using hJ₁
      | @tail p' p'' s' s'' os₁ os₂ h ha ih =>
        have hpre := ih fun o ho => hg' o (List.mem_append_left _ ho)
        have := hact _ _ (Function.update ph₁ i p') i _ _ _ c₁.waiting hpre (h.inv hc₁.inv)
          (by simpa using ha) (fun j hj => by simpa [hj] using hc₁.waits j)
          (fun o ho => hg' o (List.mem_append_right _ ho))
        simpa using this
    · exact ⟨ph₁, hc₂, by simpa using henv _ _ _ _ hJ₁ he⟩

end Refinement

end RefundOps
