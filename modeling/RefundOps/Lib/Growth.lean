import RefundOps.Lib.EventLoop

/-!
# What only grows

Some facts about the shared state are never lost again: a record is there, a field has the value
it was given. For such facts a handler needs no protocol and no ghosts. A *growth* names an
invariant of the state, the order in which the state grows, what a handler may ask and what it
may show — both judged by the state at that moment, and both kept when the state grows on.

`Grows` is about one handler; `Grown` is about a configuration, with everything shown so far
judged by the state it has now. The rules are the usual ones, and `Keeps` is the form in which a
program that needs one fact from its caller, and gives it back, is put together.
-/

set_option autoImplicit false

namespace RefundOps

structure Growth (σ ω q : Type) where
  Inv : σ → Prop
  Le : σ → σ → Prop
  Ask : σ → q → Prop
  Show : σ → ω → Prop
  refl : ∀ s, Le s s
  trans : ∀ {s s' s''}, Le s s' → Le s' s'' → Le s s''
  ask_le : ∀ {s s' x}, Ask s x → Le s s' → Ask s' x
  show_le : ∀ {s s' o}, Show s o → Le s s' → Show s' o

namespace Coro

variable {σ ω q : Type} {r : q → Type} {ε α β : Type}

/-- Every assignment keeps the invariant and lets the state grow, every question and every
    observation is allowed where it stands; `Q` holds where the handler returns and `E` where it
    raises. -/
def Grows (G : Growth σ ω q) (Q : α → σ → Prop) (E : ε → σ → Prop) :
    Coro σ ω q r ε α → σ → Prop
  | .pure a, s => Q a s
  | .raise e, s => E e s
  | .get k, s => (k s).Grows G Q E s
  | .commit s' os k, s =>
      G.Inv s' ∧ G.Le s s' ∧ (∀ o ∈ os, G.Show s' o) ∧ k.Grows G Q E s'
  | .await x k, s =>
      G.Ask s x ∧ ∀ s', G.Le s s' → G.Inv s' → ∀ y, (k y).Grows G Q E s'

variable {G : Growth σ ω q} {Q : α → σ → Prop} {E : ε → σ → Prop} {s : σ}

theorem grows_bind {p : Coro σ ω q r ε α} {f : α → Coro σ ω q r ε β} {Q : β → σ → Prop} :
    (p >>= f).Grows G Q E s ↔ p.Grows G (fun a s' => (f a).Grows G Q E s') E s := by
  show (p.bind f).Grows G Q E s ↔ _
  induction p generalizing s with
  | pure a => exact Iff.rfl
  | raise e => exact Iff.rfl
  | get k ih => exact ih s
  | commit s' os k ih =>
    exact and_congr_right fun _ => and_congr_right fun _ => and_congr_right fun _ => ih
  | await x k ih =>
    exact and_congr_right fun _ => forall_congr' fun s' => forall_congr' fun _ =>
      forall_congr' fun _ => forall_congr' fun y => ih y

theorem grows_tryCatch {p : Coro σ ω q r ε α} {h : ε → Coro σ ω q r ε α} :
    (tryCatch p h).Grows G Q E s ↔ p.Grows G Q (fun e s' => (h e).Grows G Q E s') s := by
  show (p.handle h).Grows G Q E s ↔ _
  induction p generalizing s with
  | pure a => exact Iff.rfl
  | raise e => exact Iff.rfl
  | get k ih => exact ih s
  | commit s' os k ih =>
    exact and_congr_right fun _ => and_congr_right fun _ => and_congr_right fun _ => ih
  | await x k ih =>
    exact and_congr_right fun _ => forall_congr' fun s' => forall_congr' fun _ =>
      forall_congr' fun _ => forall_congr' fun y => ih y

theorem Grows.mono {p : Coro σ ω q r ε α} {Q' : α → σ → Prop} {E' : ε → σ → Prop}
    (h : p.Grows G Q E s) (hQ : ∀ a s', Q a s' → Q' a s') (hE : ∀ e s', E e s' → E' e s') :
    p.Grows G Q' E' s := by
  induction p generalizing s with
  | pure a => exact hQ a s h
  | raise e => exact hE e s h
  | get k ih => exact ih s h
  | commit s' os k ih =>
    obtain ⟨hinv, hle, hos, hk⟩ := h
    exact ⟨hinv, hle, hos, ih hk⟩
  | await x k ih => exact ⟨h.1, fun s' hle hinv y => ih y (h.2 s' hle hinv y)⟩

/-- Where a handler ends, the state has grown from where it started. -/
theorem Grows.frame {p : Coro σ ω q r ε α} {s₀ : σ} (hle : G.Le s₀ s) (hinv : G.Inv s)
    (h : p.Grows G Q E s) :
    p.Grows G (fun a s' => Q a s' ∧ G.Le s₀ s' ∧ G.Inv s')
      (fun e s' => E e s' ∧ G.Le s₀ s' ∧ G.Inv s') s := by
  induction p generalizing s with
  | pure a => exact ⟨h, hle, hinv⟩
  | raise e => exact ⟨h, hle, hinv⟩
  | get k ih => exact ih s hle hinv h
  | commit s' os k ih =>
    obtain ⟨hinv', hle', hos, hk⟩ := h
    exact ⟨hinv', hle', hos, ih (G.trans hle hle') hinv' hk⟩
  | await x k ih =>
    exact ⟨h.1, fun s' hle' hinv' y => ih y (G.trans hle hle') hinv' (h.2 s' hle' hinv' y)⟩

/-! ## Programs that need one fact and give it back -/

/-- A fact that is not lost when the state grows. -/
def Lasting (G : Growth σ ω q) (R : σ → Prop) : Prop := ∀ {s s'}, R s → G.Le s s' → R s'

/-- Started where `R` holds, the program keeps to the growth, and its result is in `Q`. -/
def Keeps (G : Growth σ ω q) (R : σ → Prop) (Q : α → σ → Prop) (p : Coro σ ω q r ε α) : Prop :=
  ∀ s, G.Inv s → R s → p.Grows G Q (fun _ _ => True) s

variable {R : σ → Prop}

theorem keeps_pure {a : α} (h : ∀ s, R s → Q a s) :
    Keeps G R Q (Pure.pure a : Coro σ ω q r ε α) := fun s _ hR => h s hR

theorem keeps_throw {e : ε} : Keeps G R Q (throw e : Coro σ ω q r ε α) := fun _ _ _ => trivial

theorem keeps_ofExcept {x : Except ε α} (h : ∀ a s, R s → Q a s) :
    Keeps G R Q (ofExcept x : Coro σ ω q r ε α) := by
  intro s _ hR
  cases x with
  | ok a => exact h a s hR
  | error e => trivial

theorem keeps_observe {o : ω} {Q : Unit → σ → Prop} (hQ : ∀ s, R s → Q () s)
    (h : ∀ s, G.Inv s → R s → G.Show s o) : Keeps G R Q (observe o : Coro σ ω q r ε Unit) := by
  intro s hinv hR
  refine ⟨hinv, G.refl s, ?_, hQ s hR⟩
  intro o' ho'
  obtain rfl := List.mem_singleton.mp ho'
  exact h s hinv hR

theorem keeps_request {x : q} {Q : r x → σ → Prop} (hR : Lasting G R) (hQ : ∀ a s, R s → Q a s)
    (h : ∀ s, G.Inv s → R s → G.Ask s x) : Keeps G R Q (request x : Coro σ ω q r ε (r x)) :=
  fun s hinv hs => ⟨h s hinv hs, fun s' hle _ y => hQ y s' (hR hs hle)⟩

/-- What the first part gives is there, with what the caller gave, for the second. -/
theorem Keeps.bind {p : Coro σ ω q r ε α} {f : α → Coro σ ω q r ε β} {Q' : β → σ → Prop}
    (hR : Lasting G R) (hp : Keeps G R Q p)
    (hf : ∀ a, Keeps G (fun s => R s ∧ Q a s) Q' (f a)) : Keeps G R Q' (p >>= f) := by
  intro s hinv hs
  have hframe := (hp s hinv hs).frame (G.refl s) hinv
  refine grows_bind.mpr (hframe.mono ?_ fun _ _ _ => trivial)
  intro a s' h
  obtain ⟨hq, hle, hinv'⟩ := h
  exact hf a s' hinv' ⟨hR hs hle, hq⟩

theorem Keeps.tryCatch {p : Coro σ ω q r ε α} {h : ε → Coro σ ω q r ε α} (hR : Lasting G R)
    (hp : Keeps G R Q p) (hh : ∀ e, Keeps G R Q (h e)) :
    Keeps G R Q (MonadExcept.tryCatch p h) := by
  intro s hinv hs
  have hframe := (hp s hinv hs).frame (G.refl s) hinv
  refine grows_tryCatch.mpr (hframe.mono (fun _ _ h' => h'.1) ?_)
  intro e s' h'
  exact hh e s' h'.2.2 (hR hs h'.2.1)

theorem Keeps.weaken {p : Coro σ ω q r ε α} {R' : σ → Prop} {Q' : α → σ → Prop}
    (hp : Keeps G R Q p) (hR : ∀ s, R' s → R s) (hQ : ∀ a s, Q a s → Q' a s) :
    Keeps G R' Q' p :=
  fun s hinv hs => (hp s hinv (hR s hs)).mono hQ fun _ _ h => h

theorem Keeps.forM {γ : Type} {f : γ → Coro σ ω q r ε Unit} {l : List γ} (hR : Lasting G R)
    (hf : ∀ a ∈ l, Keeps G R (fun _ _ => True) (f a)) :
    Keeps G R (fun _ _ => True) (l.forM f) := by
  induction l with
  | nil => exact keeps_pure fun _ _ => trivial
  | cons a l ih =>
    rw [show (a :: l).forM f = (f a >>= fun _ => l.forM f) from rfl]
    refine Keeps.bind hR (hf a List.mem_cons_self) fun _ => ?_
    exact (ih fun b hb => hf b (List.mem_cons_of_mem _ hb)).weaken (fun _ h => h.1)
      fun _ _ h => h

/-- One uninterrupted stretch. -/
theorem Grows.segment {p : Coro σ ω q r ε α} (h : p.Grows G (fun _ _ => True) (fun _ _ => True) s)
    (hinv : G.Inv s) :
    G.Inv (p.segment s).2.1 ∧ G.Le s (p.segment s).2.1 ∧
      (∀ o ∈ (p.segment s).1, G.Show (p.segment s).2.1 o) ∧
      ∀ x k, (p.segment s).2.2 = .parked x k →
        G.Ask (p.segment s).2.1 x ∧
          ∀ s', G.Le (p.segment s).2.1 s' → G.Inv s' → ∀ y,
            (k y).Grows G (fun _ _ => True) (fun _ _ => True) s' := by
  induction p generalizing s with
  | pure a => exact ⟨hinv, G.refl s, by simp [Coro.segment], by simp [Coro.segment]⟩
  | raise e => exact ⟨hinv, G.refl s, by simp [Coro.segment], by simp [Coro.segment]⟩
  | get k ih => exact ih s h hinv
  | commit s' os k ih =>
    obtain ⟨hinv', hle, hos, hk⟩ := h
    obtain ⟨h₁, h₂, h₃, h₄⟩ := ih hk hinv'
    refine ⟨h₁, G.trans hle h₂, ?_, h₄⟩
    intro o ho
    -- what was shown before this assignment is judged by the state the stretch ends in
    rcases List.mem_append.mp ho with ho | ho
    · exact G.show_le (hos o ho) h₂
    · exact h₃ o ho
  | await x k ih =>
    refine ⟨hinv, G.refl s, by simp [Coro.segment], ?_⟩
    intro x' k' heq
    simp only [Coro.segment, Stop.parked.injEq] at heq
    obtain ⟨rfl, heq⟩ := heq
    obtain rfl := eq_of_heq heq
    exact h

/-- A handler that runs alone. -/
theorem Grows.runSync {p : Coro σ ω q r ε α} (answer : ∀ x, r x) (h : p.Grows G Q E s)
    (hinv : G.Inv s) :
    G.Inv (p.runSync answer s).2.1 ∧ G.Le s (p.runSync answer s).2.1 ∧
      ∀ o ∈ (p.runSync answer s).1, G.Show (p.runSync answer s).2.1 o := by
  induction p generalizing s with
  | pure a => exact ⟨hinv, G.refl s, by simp [Coro.runSync]⟩
  | raise e => exact ⟨hinv, G.refl s, by simp [Coro.runSync]⟩
  | get k ih => exact ih s h hinv
  | commit s' os k ih =>
    obtain ⟨hinv', hle, hos, hk⟩ := h
    obtain ⟨h₁, h₂, h₃⟩ := ih hk hinv'
    refine ⟨h₁, G.trans hle h₂, ?_⟩
    intro o ho
    rcases List.mem_append.mp ho with ho | ho
    · exact G.show_le (hos o ho) h₂
    · exact h₃ o ho
  | await x k ih => exact ih (answer x) (h.2 s (G.refl s) hinv (answer x)) hinv

/-- What is known of a handler that runs alone, with what keeping to the growth adds. -/
theorem Returns.grows {answer : ∀ x, r x} {p : Coro σ ω q r ε α} {P : α → List ω → σ → Prop}
    (h : p.Returns answer s P) (hg : p.Grows G Q E s) (hinv : G.Inv s) :
    p.Returns answer s fun a os s' => P a os s' ∧ G.Inv s' ∧ G.Le s s' ∧ ∀ o ∈ os, G.Show s' o := by
  obtain ⟨a, os, s', hrun, hP⟩ := h
  have hgrown := hg.runSync answer hinv
  rw [hrun] at hgrown
  exact ⟨a, os, s', hrun, hP, hgrown⟩

end Coro

/-! ## Along a run -/

section Runs

variable {ι μ σ ω q : Type} {r : q → Type} {ε τ : Type}

/-- The configuration keeps to the growth, and what has been shown may be shown of its state. -/
structure Grown (G : Growth σ ω q) (c : Config ι σ ω q r ε) (tr : List (ι × ω)) : Prop where
  inv : G.Inv c.world
  parked : ∀ i p, c.loops i = some p → G.Ask c.world p.req ∧
    ∀ s', G.Le c.world s' → G.Inv s' → ∀ y,
      (p.resume y).Grows G (fun _ _ => True) (fun _ _ => True) s'
  shown : ∀ o ∈ tr, G.Show c.world o.2

theorem Grown.init {G : Growth σ ω q} {c : Config ι σ ω q r ε} (hc : c.Quiescent)
    (h : G.Inv c.world) : Grown G c [] where
  inv := h
  parked := fun i p hp => by
    rw [hc i] at hp
    cases hp
  shown := fun o ho => absurd ho List.not_mem_nil

variable [DecidableEq ι]

/-- A stretch, settled into the configuration. -/
theorem Grown.settle {G : Growth σ ω q} {c : Config ι σ ω q r ε} {tr : List (ι × ω)}
    (h : Grown G c tr) (i : ι) {p : Coro σ ω q r ε Unit} {os : List ω}
    (hos : ∀ o ∈ os, G.Show c.world o)
    (hp : p.Grows G (fun _ _ => True) (fun _ _ => True) c.world) :
    Grown G (c.settle i (os ++ (p.segment c.world).1, (p.segment c.world).2)).2
        (tr ++ (c.settle i (os ++ (p.segment c.world).1, (p.segment c.world).2)).1) ∧
      G.Le c.world (p.segment c.world).2.1 := by
  obtain ⟨hinv, hle, hshown, hstop⟩ := hp.segment h.inv
  refine ⟨⟨hinv, ?_, ?_⟩, hle⟩
  · intro j pk hj
    by_cases hji : j = i
    · subst hji
      simp only [Config.settle, Function.update_self] at hj
      cases hs : (p.segment c.world).2.2 with
      | done a =>
        rw [hs] at hj
        cases hj
      | parked x k =>
        rw [hs] at hj
        cases hj
        exact hstop x k hs
    · simp only [Config.settle, Function.update_of_ne hji] at hj
      obtain ⟨hask, hresume⟩ := h.parked j pk hj
      exact ⟨G.ask_le hask hle, fun s' hle' => hresume s' (G.trans hle hle')⟩
  · intro o ho
    rcases List.mem_append.mp ho with ho | ho
    · exact G.show_le (h.shown o ho) hle
    · obtain ⟨o', ho', rfl⟩ := List.mem_map.mp ho
      rcases List.mem_append.mp ho' with ho' | ho'
      · exact G.show_le (hos o' ho') hle
      · exact hshown o' ho'

variable {L : EventLoop ι μ σ ω q r ε τ} {G : Growth σ ω q}

/-- **One step**, of a loop whose handlers of the messages in `D` keep to the growth. -/
theorem Grown.step {D : μ → Prop}
    (hhandler : ∀ m, D m → ∀ s, G.Inv s → (∀ o ∈ L.received m, G.Show s o) ∧
      (L.handler m).Grows G (fun _ _ => True) (fun _ _ => True) s)
    (henv : ∀ t s, G.Inv s → G.Inv (L.env t s) ∧ G.Le s (L.env t s))
    {c c' : Config ι σ ω q r ε} {tr os : List (ι × ω)} {ch : Choice ι μ q r τ}
    (h : Grown G c tr) (hD : ∀ m, ch = .deliver m → D m) (hs : L.step ch c = some (os, c')) :
    Grown G c' (tr ++ os) ∧ G.Le c.world c'.world := by
  cases ch with
  | deliver m =>
    obtain ⟨hrec, hgrows⟩ := hhandler m (hD m rfl) c.world h.inv
    simp only [EventLoop.step] at hs
    split at hs
    · cases hs
    · simp only [Option.some.injEq] at hs
      cases hs
      exact h.settle (L.target m) hrec hgrows
  | answer i y =>
    simp only [EventLoop.step] at hs
    cases hl : c.loops i with
    | none =>
      rw [hl] at hs
      cases hs
    | some p =>
      rw [hl] at hs
      obtain ⟨-, hresume⟩ := h.parked i p hl
      have hnone : ∀ o ∈ ([] : List ω), G.Show c.world o := fun o ho => absurd ho List.not_mem_nil
      have hset := h.settle i hnone
        (hresume c.world (G.refl _) h.inv (y p.req))
      simp only [List.nil_append] at hset
      simp only [Option.some.injEq] at hs
      rw [hs] at hset
      have hworld := congrArg (·.2.world) hs
      exact ⟨hset.1, hworld ▸ hset.2⟩
  | env t =>
    simp only [EventLoop.step, Option.some.injEq, Prod.mk.injEq] at hs
    obtain ⟨rfl, rfl⟩ := hs
    obtain ⟨hinv, hle⟩ := henv t c.world h.inv
    refine ⟨⟨hinv, ?_, ?_⟩, hle⟩
    · intro i p hp
      obtain ⟨hask, hresume⟩ := h.parked i p hp
      exact ⟨G.ask_le hask hle, fun s' hle' => hresume s' (G.trans hle hle')⟩
    · intro o ho
      rw [List.append_nil] at ho
      exact G.show_le (h.shown o ho) hle

/-- **Every run keeps to the growth**, and its state grows. -/
theorem Grown.run {D : μ → Prop}
    (hhandler : ∀ m, D m → ∀ s, G.Inv s → (∀ o ∈ L.received m, G.Show s o) ∧
      (L.handler m).Grows G (fun _ _ => True) (fun _ _ => True) s)
    (henv : ∀ t s, G.Inv s → G.Inv (L.env t s) ∧ G.Le s (L.env t s))
    {c c' : Config ι σ ω q r ε} {tr tr' : List (ι × ω)} (h : Grown G c tr)
    (hrun : L.RunIf (fun ch _ => ∀ m, ch = .deliver m → D m) c tr' c') :
    Grown G c' (tr ++ tr') ∧ G.Le c.world c'.world := by
  induction hrun with
  | nil => exact ⟨by simpa using h, G.refl _⟩
  | step _ ch hD hs ih =>
    obtain ⟨hg, hle⟩ := ih
    obtain ⟨hg', hle'⟩ := hg.step hhandler henv hD hs
    rw [← List.append_assoc]
    exact ⟨hg', G.trans hle hle'⟩

/-- What a run delivers, it shows to have received. -/
theorem EventLoop.Run.received {Gd : (ι → Option q) → ι × ω → Prop} {c c' : Config ι σ ω q r ε}
    {tr : List (ι × ω)} (hrun : L.Run Gd c tr c') :
    L.RunIf (fun ch _ => ∀ m, ch = .deliver m → ∀ o ∈ L.received m, (L.target m, o) ∈ tr)
      c tr c' := by
  induction hrun with
  | nil => exact .nil
  | @step tr os c₁ c₂ h ch hs hg ih =>
    -- the condition is about the whole trace, so the run so far has to be looked at again
    have hlonger : L.RunIf (fun ch _ => ∀ m, ch = .deliver m → ∀ o ∈ L.received m,
        (L.target m, o) ∈ tr ++ os) c tr c₁ :=
      ih.mono fun _ _ ha m hm o ho => List.mem_append_left _ (ha m hm o ho)
    refine hlonger.step ch ?_ hs
    intro m hm o ho
    subst hm
    simp only [EventLoop.step] at hs
    split at hs
    · cases hs
    · simp only [Option.some.injEq] at hs
      cases hs
      refine List.mem_append_right _ ?_
      exact List.mem_map_of_mem (List.mem_append_left _ ho)

end Runs

end RefundOps
