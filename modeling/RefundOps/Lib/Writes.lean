import RefundOps.Lib.Protocol

/-!
# Watching every write

A protocol is checked where a stretch ends; some properties are about each assignment on the
way. `Coro.writes` lists the assignments of a stretch. A *watch* says what one of them may do, in
terms of a ghost that the handler carries along and of the stretch so far, and what the handler
may suspend on; `obeys` walks a handler like `wp` does and checks every write. A resumed handler
may assume what the protocol lets it assume, so a watch is kept on top of a protocol that is kept
already.

A handler that obeys the watch obeys it in every run: `Watched.step` is about one step of the
event loop, write by write (`Chained`), and `Watched.invariant` follows the ghosts along a run.
-/

set_option autoImplicit false

namespace RefundOps

/-- What a loop may write, given the stretch so far, what it may suspend on, and what its ghost
    is when it is done. -/
structure Watch (ι σ ω q ψ : Type) where
  Write : ι → Seg σ ω ψ → List ω → σ → ψ → Prop
  Ask : ψ → q → Prop
  Ends : ψ → Prop

namespace Coro

variable {ι σ ω q φ ψ : Type} {r : q → Type} {ε α β : Type}

/-- The writes of the first stretch, each with what it shows. -/
def writes : Coro σ ω q r ε α → σ → List (List ω × σ)
  | .pure _, _ => []
  | .raise _, _ => []
  | .get k, s => (k s).writes s
  | .commit s' os k, _ => (os, s') :: k.writes s'
  | .await _ _, _ => []

/-- The handler of loop `i` keeps to the watch; `Q` holds where it returns, `E` where it
    raises. -/
def obeys (P : Protocol ι σ ω q φ) (W : Watch ι σ ω q ψ) (i : ι) (Q : α → Seg σ ω ψ → Prop)
    (E : ε → Seg σ ω ψ → Prop) : Coro σ ω q r ε α → Seg σ ω ψ → Prop
  | .pure a, g => Q a g
  | .raise e, g => E e g
  | .get k, g => obeys P W i Q E (k g.cur) g
  | .commit s os k, g =>
      ∃ p, W.Write i g os s p ∧ obeys P W i Q E k ⟨p, g.base, g.obs ++ os, s⟩
  | .await x k, g =>
      W.Ask g.phase x ∧
        ∀ s, P.Rely i g.cur s → P.Inv s → ∀ y, obeys P W i Q E (k y) ⟨g.phase, s, [], s⟩

variable {P : Protocol ι σ ω q φ} {W : Watch ι σ ω q ψ} {i : ι}
variable {Q : α → Seg σ ω ψ → Prop} {E : ε → Seg σ ω ψ → Prop} {g : Seg σ ω ψ}

theorem obeys_bind {p : Coro σ ω q r ε α} {f : α → Coro σ ω q r ε β} {Q : β → Seg σ ω ψ → Prop} :
    obeys P W i Q E (p >>= f) g ↔ obeys P W i (fun a g' => obeys P W i Q E (f a) g') E p g := by
  show obeys P W i Q E (p.bind f) g ↔ _
  induction p generalizing g with
  | pure a => exact Iff.rfl
  | raise e => exact Iff.rfl
  | get k ih => exact ih g.cur
  | commit s os k ih => exact exists_congr fun p' => and_congr_right fun _ => ih
  | await x k ih =>
    exact and_congr_right fun _ => forall_congr' fun s => forall_congr' fun _ =>
      forall_congr' fun _ => forall_congr' fun y => ih y

theorem obeys_tryCatch {p : Coro σ ω q r ε α} {h : ε → Coro σ ω q r ε α} :
    obeys P W i Q E (tryCatch p h) g ↔ obeys P W i Q (fun e g' => obeys P W i Q E (h e) g') p g := by
  show obeys P W i Q E (p.handle h) g ↔ _
  induction p generalizing g with
  | pure a => exact Iff.rfl
  | raise e => exact Iff.rfl
  | get k ih => exact ih g.cur
  | commit s os k ih => exact exists_congr fun p' => and_congr_right fun _ => ih
  | await x k ih =>
    exact and_congr_right fun _ => forall_congr' fun s => forall_congr' fun _ =>
      forall_congr' fun _ => forall_congr' fun y => ih y

theorem obeys_mono {p : Coro σ ω q r ε α} {Q' : α → Seg σ ω ψ → Prop}
    {E' : ε → Seg σ ω ψ → Prop} (hQ : ∀ a g, Q a g → Q' a g) (hE : ∀ e g, E e g → E' e g)
    (h : obeys P W i Q E p g) : obeys P W i Q' E' p g := by
  induction p generalizing g with
  | pure a => exact hQ a g h
  | raise e => exact hE e g h
  | get k ih => exact ih g.cur h
  | commit s os k ih =>
    obtain ⟨p', hw, hk⟩ := h
    exact ⟨p', hw, ih hk⟩
  | await x k ih => exact ⟨h.1, fun s hr hi y => ih y (h.2 s hr hi y)⟩

/-! ### Programs that stay within an assertion

What such a program does in between has no part in it, so its parts are put together without
another look at the watch. -/

/-- Started within `R`, the program obeys and ends within `R`, however it ends. -/
def Within (P : Protocol ι σ ω q φ) (W : Watch ι σ ω q ψ) (i : ι) (R : Seg σ ω ψ → Prop)
    (p : Coro σ ω q r ε α) : Prop :=
  ∀ g, R g → obeys P W i (fun _ => R) (fun _ => R) p g

variable {R : Seg σ ω ψ → Prop}

theorem within_pure (a : α) : Within P W i R (Pure.pure a : Coro σ ω q r ε α) := fun _ h => h

theorem within_throw (e : ε) : Within P W i R (throw e : Coro σ ω q r ε α) := fun _ h => h

theorem within_ofExcept (x : Except ε α) : Within P W i R (ofExcept x : Coro σ ω q r ε α) := by
  intro g h
  cases x with
  | ok a => exact h
  | error e => exact h

theorem Within.bind {p : Coro σ ω q r ε α} {f : α → Coro σ ω q r ε β} (hp : Within P W i R p)
    (hf : ∀ a, Within P W i R (f a)) : Within P W i R (p >>= f) := by
  intro g hg
  exact obeys_bind.mpr (obeys_mono (fun a g' h' => hf a g' h') (fun _ _ h' => h') (hp g hg))

theorem Within.tryCatch {p : Coro σ ω q r ε α} {h : ε → Coro σ ω q r ε α}
    (hp : Within P W i R p) (hh : ∀ e, Within P W i R (h e)) :
    Within P W i R (MonadExcept.tryCatch p h) := by
  intro g hg
  exact obeys_tryCatch.mpr (obeys_mono (fun _ _ h' => h') (fun e g' h' => hh e g' h') (hp g hg))

theorem Within.forM {α : Type} {f : α → Coro σ ω q r ε Unit} (l : List α)
    (hf : ∀ a ∈ l, Within P W i R (f a)) : Within P W i R (l.forM f) := by
  induction l with
  | nil => exact within_pure ()
  | cons a l ih =>
    show Within P W i R (f a >>= fun _ => l.forM f)
    exact (hf a List.mem_cons_self).bind fun _ => ih fun b hb => hf b (List.mem_cons_of_mem a hb)

end Coro

/-! ## Stretches -/

section Stretches

variable {ι σ ω q φ ψ : Type} {r : q → Type} {ε α : Type}

/-- The state after the writes. -/
def lastState : σ → List (List ω × σ) → σ
  | s, [] => s
  | _, (_, s') :: ws => lastState s' ws

/-- What the writes show. -/
def shownBy : List (List ω × σ) → List ω
  | [] => []
  | (os, _) :: ws => os ++ shownBy ws

theorem shownBy_append (ws₁ ws₂ : List (List ω × σ)) :
    shownBy (ws₁ ++ ws₂) = shownBy ws₁ ++ shownBy ws₂ := by
  induction ws₁ with
  | nil => rfl
  | cons w ws₁ ih => simp [shownBy, ih]

theorem Coro.segment_eq_writes (p : Coro σ ω q r ε α) (s : σ) :
    (p.segment s).1 = shownBy (p.writes s) ∧ (p.segment s).2.1 = lastState s (p.writes s) := by
  induction p generalizing s with
  | pure a => exact ⟨rfl, rfl⟩
  | raise e => exact ⟨rfl, rfl⟩
  | get k ih => exact ih s s
  | commit s' os k ih =>
    obtain ⟨hos, hs⟩ := ih s'
    exact ⟨congrArg (os ++ ·) hos, hs⟩
  | await x k ih => exact ⟨rfl, rfl⟩

/-- Writes that were all checked, from the stretch `g` to the ghost `p`. -/
inductive Chained (W : Watch ι σ ω q ψ) (i : ι) : Seg σ ω ψ → List (List ω × σ) → ψ → Prop where
  | nil {g : Seg σ ω ψ} : Chained W i g [] g.phase
  | cons {g : Seg σ ω ψ} {os : List ω} {s : σ} {p p' : ψ} {ws : List (List ω × σ)}
      (hw : W.Write i g os s p) (h : Chained W i ⟨p, g.base, g.obs ++ os, s⟩ ws p') :
      Chained W i g ((os, s) :: ws) p'

namespace Chained

variable {W : Watch ι σ ω q ψ} {i : ι} {g : Seg σ ω ψ} {p' : ψ}

/-- What every write keeps holds where the writes end. -/
theorem keeps {J : Seg σ ω ψ → Prop} {ws : List (List ω × σ)}
    (hJ : ∀ g os s p, J g → W.Write i g os s p → J ⟨p, g.base, g.obs ++ os, s⟩)
    (h : Chained W i g ws p') (hg : J g) :
    J ⟨p', g.base, g.obs ++ shownBy ws, lastState g.cur ws⟩ := by
  induction h with
  | nil => simpa [shownBy, lastState] using hg
  | @cons g os s p p' ws hw _ ih =>
    have := ih (hJ g os s p hg hw)
    simpa [shownBy, lastState] using this

/-- **One of the writes**, with what led to it. -/
theorem split {J : Seg σ ω ψ → Prop} {ws₁ ws₂ : List (List ω × σ)} {os : List ω} {s : σ}
    (hJ : ∀ g os s p, J g → W.Write i g os s p → J ⟨p, g.base, g.obs ++ os, s⟩)
    (h : Chained W i g (ws₁ ++ (os, s) :: ws₂) p') (hg : J g) :
    ∃ g₁ p₁, g₁.base = g.base ∧ g₁.obs = g.obs ++ shownBy ws₁ ∧
      g₁.cur = lastState g.cur ws₁ ∧ J g₁ ∧ W.Write i g₁ os s p₁ ∧
      Chained W i ⟨p₁, g.base, g₁.obs ++ os, s⟩ ws₂ p' := by
  induction ws₁ generalizing g with
  | nil =>
    cases h with
    | @cons _ _ _ p₁ _ _ hw hrest =>
      exact ⟨g, p₁, rfl, by simp [shownBy], rfl, hg, hw, hrest⟩
  | cons w ws₁ ih =>
    cases h with
    | @cons _ os₀ s₀ p₀ _ _ hw hrest =>
      obtain ⟨g₁, p₁, hbase, hobs, hcur, hJ₁, hw₁, hrest₁⟩ := ih hrest (hJ _ _ _ _ hg hw)
      exact ⟨g₁, p₁, hbase, by rw [hobs]; simp [shownBy], hcur, hJ₁, hw₁, hrest₁⟩

end Chained

/-- How a stretch that obeys ends. -/
theorem Coro.obeys_segment {P : Protocol ι σ ω q φ} {W : Watch ι σ ω q ψ} {i : ι}
    {Q : α → Seg σ ω ψ → Prop} {E : ε → Seg σ ω ψ → Prop} {p : Coro σ ω q r ε α}
    {g : Seg σ ω ψ} (h : p.obeys P W i Q E g) :
    ∃ p', Chained W i g (p.writes g.cur) p' ∧
      match p.segment g.cur with
      | (os, s, .done (.ok a)) => Q a ⟨p', g.base, g.obs ++ os, s⟩
      | (os, s, .done (.error e)) => E e ⟨p', g.base, g.obs ++ os, s⟩
      | (_, s, .parked x k) => W.Ask p' x ∧
          ∀ s', P.Rely i s s' → P.Inv s' → ∀ y, (k y).obeys P W i Q E ⟨p', s', [], s'⟩ := by
  induction p generalizing g with
  | pure a => exact ⟨g.phase, .nil, by simpa [Coro.segment, obeys] using h⟩
  | raise e => exact ⟨g.phase, .nil, by simpa [Coro.segment, obeys] using h⟩
  | get k ih => exact ih g.cur h
  | commit s os k ih =>
    obtain ⟨p₁, hw, hk⟩ := h
    obtain ⟨p', hc, hstop⟩ := ih hk
    refine ⟨p', .cons hw hc, ?_⟩
    simp only [Coro.segment]
    rcases hseg : k.segment s with ⟨os', s', (a | e) | ⟨x, k'⟩⟩ <;>
      simp only [hseg] at hstop ⊢ <;> simpa using hstop
  | await x k ih => exact ⟨g.phase, .nil, h⟩

end Stretches

/-! ## Runs -/

section Runs

variable {ι μ σ ω q φ ψ : Type} {r : q → Type} {ε τ : Type}

namespace EventLoop

variable (L : EventLoop ι μ σ ω q r ε τ)

/-- The writes of one step. -/
def writes : Choice ι μ q r τ → Config ι σ ω q r ε → List (List ω × σ)
  | .deliver m, c =>
      match c.loops (L.target m) with
      | some _ => []
      | none => (L.handler m).writes c.world
  | .answer i y, c =>
      match c.loops i with
      | none => []
      | some p => (p.resume (y p.req)).writes c.world
  | .env _, _ => []

/-- Where the stretch of a step begins, and the loop that runs it. A message is given a new
    ghost. -/
def opening (init : μ → σ → ψ) (gh : ι → ψ) (s : σ) :
    Choice ι μ q r τ → Option (ι × Seg σ ω ψ)
  | .deliver m => some (L.target m, ⟨init m s, s, L.received m, s⟩)
  | .answer i _ => some (i, ⟨gh i, s, [], s⟩)
  | .env _ => none

end EventLoop

variable {P : Protocol ι σ ω q φ} {W : Watch ι σ ω q ψ} {L : EventLoop ι μ σ ω q r ε τ}
  {init : μ → σ → ψ}

/-- A loop and its ghost agree: an idle loop is done, a suspended one goes on obeying. -/
def WatchOk (P : Protocol ι σ ω q φ) (W : Watch ι σ ω q ψ) (i : ι) (s : σ) (p : ψ) :
    Option (Parked σ ω q r ε) → Prop
  | none => W.Ends p
  | some pk => W.Ask p pk.req ∧ ∀ s', P.Rely i s s' → P.Inv s' → ∀ y,
      (pk.resume y).obeys P W i (fun _ g => W.Ends g.phase) (fun _ g => W.Ends g.phase)
        ⟨p, s', [], s'⟩

theorem WatchOk.weaken {i : ι} {s s' : σ} {p : ψ} {o : Option (Parked σ ω q r ε)}
    (h : WatchOk P W i s p o) (hr : P.Rely i s s') : WatchOk P W i s' p o := by
  cases o with
  | none => exact h
  | some pk => exact ⟨h.1, fun s'' hr' => h.2 s'' (hr.trans hr')⟩

/-- The loops of a configuration and their ghosts. -/
def Watched (P : Protocol ι σ ω q φ) (W : Watch ι σ ω q ψ) (c : Config ι σ ω q r ε)
    (gh : ι → ψ) : Prop :=
  ∀ i, WatchOk P W i c.world (gh i) (c.loops i)

/-- Every handler obeys the watch from the ghost it starts with. -/
def Watches (P : Protocol ι σ ω q φ) (W : Watch ι σ ω q ψ) (L : EventLoop ι μ σ ω q r ε τ)
    (init : μ → σ → ψ) : Prop :=
  ∀ m s, P.Inv s → (L.handler m).obeys P W (L.target m) (fun _ g => W.Ends g.phase)
    (fun _ g => W.Ends g.phase) ⟨init m s, s, L.received m, s⟩

variable [DecidableEq ι]

/-- A stretch that was checked, settled into the configuration. The other loops have to expect
    what it did. -/
theorem Watched.settle {c : Config ι σ ω q r ε} {gh : ι → ψ} {i : ι} {p : Coro σ ω q r ε Unit}
    {ph : ψ} {os : List ω} (h : Watched P W c gh)
    (hob : p.obeys P W i (fun _ g => W.Ends g.phase) (fun _ g => W.Ends g.phase)
      ⟨ph, c.world, os, c.world⟩)
    (hr : ∀ j, j ≠ i → P.Rely j c.world (p.segment c.world).2.1) :
    ∃ p', Chained W i ⟨ph, c.world, os, c.world⟩ (p.writes c.world) p' ∧
      Watched P W (c.settle i (os ++ (p.segment c.world).1, (p.segment c.world).2)).2
        (Function.update gh i p') := by
  obtain ⟨p', hc, hstop⟩ := Coro.obeys_segment hob
  refine ⟨p', hc, fun j => ?_⟩
  by_cases hj : j = i
  · subst hj
    simp only [Config.settle, Function.update_self]
    rcases hs : p.segment c.world with ⟨os', s', (a | e) | ⟨x, k⟩⟩ <;>
      simp only [hs] at hstop ⊢ <;> exact hstop
  · have := (h j).weaken (hr j hj)
    simpa [Config.settle, hj] using this

/-- **Every write of every step was checked.** -/
theorem Watched.step (hL : Implements L P) (hW : Watches P W L init) {c c' : Config ι σ ω q r ε}
    {ph : ι → φ} {gh : ι → ψ} {ch : Choice ι μ q r τ} {os : List (ι × ω)}
    (hc : Coupled P c ph) (h : Watched P W c gh) (hs : L.step ch c = some (os, c')) :
    (∃ i g p', L.opening init gh c.world ch = some (i, g) ∧ Chained W i g (L.writes ch c) p' ∧
        os = (g.obs ++ shownBy (L.writes ch c)).map (i, ·) ∧
        c'.world = lastState c.world (L.writes ch c) ∧
        Watched P W c' (Function.update gh i p')) ∨
      (L.opening init gh c.world ch = none ∧ os = [] ∧ L.writes ch c = [] ∧
        Watched P W c' gh) := by
  -- what a step did is what the loops that did not move are prepared for
  have hrely : ∀ j, L.mover ch ≠ some j → P.Rely j c.world c'.world := by
    intro j hj
    rcases hc.step hL hs with ⟨i, os', p', hi, -, hacts, -⟩ | ⟨-, -, he, -⟩
    · exact hacts.rely (fun hij => hj (hij ▸ hi)) hc.inv
    · exact .single ⟨hc.inv, .inr he⟩
  cases ch with
  | deliver m =>
    simp only [EventLoop.step] at hs
    cases hl : c.loops (L.target m) with
    | some pk => rw [hl] at hs; exact absurd hs (by simp)
    | none =>
      rw [hl] at hs
      obtain ⟨rfl, rfl⟩ := Prod.mk.inj (Option.some.inj hs)
      obtain ⟨hos, hw⟩ := Coro.segment_eq_writes (L.handler m) c.world
      obtain ⟨p', hch, hwat⟩ := h.settle (hW m c.world hc.inv)
        (fun j hj => hrely j fun hm => hj (Option.some.inj hm).symm)
      refine .inl ⟨L.target m, _, p', rfl, ?_, ?_, ?_, hwat⟩
      · simpa only [EventLoop.writes, hl] using hch
      · simp only [EventLoop.writes, hl, hos]
      · simpa only [EventLoop.writes, hl, Config.settle] using hw
  | answer i y =>
    simp only [EventLoop.step] at hs
    cases hl : c.loops i with
    | none => rw [hl] at hs; exact absurd hs (by simp)
    | some pk =>
      rw [hl] at hs
      obtain ⟨rfl, rfl⟩ := Prod.mk.inj (Option.some.inj hs)
      obtain ⟨hos, hw⟩ := Coro.segment_eq_writes (pk.resume (y pk.req)) c.world
      have hpk := h i
      rw [hl] at hpk
      obtain ⟨p', hch, hwat⟩ := h.settle (hpk.2 c.world .refl hc.inv (y pk.req))
        (fun j hj => hrely j fun hm => hj (Option.some.inj hm).symm)
      refine .inl ⟨i, _, p', rfl, ?_, ?_, ?_, hwat⟩
      · simpa only [EventLoop.writes, hl] using hch
      · simp only [EventLoop.writes, hl, hos, List.nil_append]
      · simpa only [EventLoop.writes, hl, Config.settle] using hw
  | env t =>
    simp only [EventLoop.step, Option.some.injEq, Prod.mk.injEq] at hs
    obtain ⟨rfl, rfl⟩ := hs
    exact .inr ⟨rfl, rfl, rfl, fun j => (h j).weaken (hrely j (by simp [EventLoop.mover]))⟩

/-- **The invariant rule for ghosts.** What the writes of every stretch keep, over the trace and
    the ghosts, holds along every run. -/
theorem Watched.invariant (hL : Implements L P) (hW : Watches P W L init)
    {G : (ι → Option q) → ι × ω → Prop} {J : List (ι × ω) → (ι → ψ) → Prop}
    (hJ : ∀ tr gh s (ch : Choice ι μ q r τ) i g ws p', J tr gh → P.Inv s →
      L.opening init gh s ch = some (i, g) → Chained W i g ws p' →
      J (tr ++ (g.obs ++ shownBy ws).map (i, ·)) (Function.update gh i p'))
    {c c' : Config ι σ ω q r ε} {ph : ι → φ} {gh : ι → ψ} {tr : List (ι × ω)}
    (hc : Coupled P c ph) (hw : Watched P W c gh) (hinit : J [] gh) (hrun : L.Run G c tr c') :
    ∃ ph' gh', Coupled P c' ph' ∧ Watched P W c' gh' ∧ J tr gh' := by
  induction hrun with
  | nil => exact ⟨ph, gh, hc, hw, hinit⟩
  | @step tr os c₁ c₂ _ ch hs _ ih =>
    obtain ⟨ph₁, gh₁, hc₁, hw₁, hJ₁⟩ := ih
    have hc₂ : ∃ ph₂, Coupled P c₂ ph₂ := by
      rcases hc₁.step hL hs with ⟨i, os', p', -, -, -, hc₂⟩ | ⟨-, -, -, hc₂⟩
      · exact ⟨_, hc₂⟩
      · exact ⟨_, hc₂⟩
    obtain ⟨ph₂, hc₂⟩ := hc₂
    rcases hw₁.step hL hW hc₁ hs with ⟨i, g, p', hopen, hch, rfl, -, hw₂⟩ | ⟨-, rfl, -, hw₂⟩
    · exact ⟨ph₂, _, hc₂, hw₂, hJ tr gh₁ c₁.world ch i g _ p' hJ₁ hc₁.inv hopen hch⟩
    · exact ⟨ph₂, gh₁, hc₂, hw₂, by simpa using hJ₁⟩

end Runs

end RefundOps
