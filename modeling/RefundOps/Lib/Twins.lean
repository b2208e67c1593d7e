import Mathlib.Data.List.Forall2
import RefundOps.Lib.EventLoop

/-!
# Two runs of one event loop

Two runs that differ only in what no handler looks at go the same way. `R` relates the states the two
are in, `O` what they show. Two handlers are twins if from any two related states they do the same
reads and writes, suspend on the same requests, and end alike; `Twin.bind` and `Twin.tryCatch` put that
together from the parts of a handler, and `Twins.step` carries it through one step of the loop.
-/

set_option autoImplicit false

namespace RefundOps

variable {ι μ σ ω q : Type} {r : q → Type} {ε α β τ : Type}

namespace Coro

section Twin

variable (R : σ → σ → Prop) (O : ω → ω → Prop)

inductive Twin : Coro σ ω q r ε α → Coro σ ω q r ε α → Prop where
  | pure (a : α) : Twin (.pure a) (.pure a)
  | raise (e : ε) : Twin (.raise e) (.raise e)
  | get {k k' : σ → Coro σ ω q r ε α} (h : ∀ s s', R s s' → Twin (k s) (k' s')) :
      Twin (.get k) (.get k')
  | commit {s s' : σ} {os os' : List ω} {k k' : Coro σ ω q r ε α} (hs : R s s')
      (ho : List.Forall₂ O os os') (h : Twin k k') : Twin (.commit s os k) (.commit s' os' k')
  | await (x : q) {k k' : r x → Coro σ ω q r ε α} (h : ∀ y, Twin (k y) (k' y)) :
      Twin (.await x k) (.await x k')

/-- Two stretches that end alike. -/
inductive StopTwin : Stop σ ω q r ε α → Stop σ ω q r ε α → Prop where
  | done (a : Except ε α) : StopTwin (.done a) (.done a)
  | parked (x : q) {k k' : r x → Coro σ ω q r ε α} (h : ∀ y, Twin R O (k y) (k' y)) :
      StopTwin (.parked x k) (.parked x k')

end Twin

variable {R : σ → σ → Prop} {O : ω → ω → Prop}

theorem Twin.bind {p p' : Coro σ ω q r ε α} {f f' : α → Coro σ ω q r ε β} (h : Twin R O p p')
    (hf : ∀ a, Twin R O (f a) (f' a)) : Twin R O (p >>= f) (p' >>= f') := by
  show Twin R O (p.bind f) (p'.bind f')
  induction h with
  | pure a => exact hf a
  | raise e => exact .raise e
  | get _ ih => exact .get fun s s' hs => ih s s' hs
  | commit hs ho _ ih => exact .commit hs ho ih
  | await x _ ih => exact .await x fun y => ih y

theorem Twin.tryCatch {p p' : Coro σ ω q r ε α} {f f' : ε → Coro σ ω q r ε α} (h : Twin R O p p')
    (hf : ∀ e, Twin R O (f e) (f' e)) :
    Twin R O (MonadExcept.tryCatch p f) (MonadExcept.tryCatch p' f') := by
  show Twin R O (p.handle f) (p'.handle f')
  induction h with
  | pure a => exact .pure a
  | raise e => exact hf e
  | get _ ih => exact .get fun s s' hs => ih s s' hs
  | commit hs ho _ ih => exact .commit hs ho ih
  | await x _ ih => exact .await x fun y => ih y

theorem Twin.forM {f f' : β → Coro σ ω q r ε Unit} (hf : ∀ b, Twin R O (f b) (f' b)) (bs : List β) :
    Twin R O (bs.forM f) (bs.forM f') := by
  induction bs with
  | nil => exact .pure ()
  | cons b bs ih => exact (hf b).bind fun _ => ih

theorem twin_observe {o o' : ω} (ho : O o o') :
    Twin R O (observe o : Coro σ ω q r ε Unit) (observe o') :=
  .get fun _ _ hs => .commit hs (.cons ho .nil) (.pure ())

theorem twin_request (x : q) : Twin R O (request x : Coro σ ω q r ε (r x)) (request x) :=
  .await x fun y => .pure y

theorem twin_ofExcept (a : Except ε α) : Twin R O (ofExcept a : Coro σ ω q r ε α) (ofExcept a) := by
  cases a with
  | ok a => exact .pure a
  | error e => exact .raise e

/-- **One stretch.** -/
theorem Twin.segment {p p' : Coro σ ω q r ε α} (h : Twin R O p p') {s s' : σ} (hs : R s s') :
    List.Forall₂ O (p.segment s).1 (p'.segment s').1 ∧
      R (p.segment s).2.1 (p'.segment s').2.1 ∧
      StopTwin R O (p.segment s).2.2 (p'.segment s').2.2 := by
  induction h generalizing s s' with
  | pure a => exact ⟨.nil, hs, .done _⟩
  | raise e => exact ⟨.nil, hs, .done _⟩
  | get _ ih => exact ih s s' hs hs
  | commit hs' ho _ ih =>
    obtain ⟨ho', hs'', hstop⟩ := ih hs'
    exact ⟨List.rel_append ho ho', hs'', hstop⟩
  | await x h _ => exact ⟨.nil, hs, .parked x h⟩

end Coro

/-! ## The loop -/

section Twins

variable (R : σ → σ → Prop) (O : ω → ω → Prop)

inductive LoopTwin : Option (Parked σ ω q r ε) → Option (Parked σ ω q r ε) → Prop where
  | idle : LoopTwin none none
  | parked (x : q) {k k' : r x → Coro σ ω q r ε Unit} (h : ∀ y, Coro.Twin R O (k y) (k' y)) :
      LoopTwin (some ⟨x, k⟩) (some ⟨x, k'⟩)

structure Twins (c c' : Config ι σ ω q r ε) : Prop where
  world : R c.world c'.world
  loops : ∀ i, LoopTwin R O (c.loops i) (c'.loops i)

/-- What two loops show at one moment. -/
def ShownAlike (o o' : ι × ω) : Prop := o.1 = o'.1 ∧ O o.2 o'.2

/-- Messages that are handled alike. -/
structure MessageTwin (L : EventLoop ι μ σ ω q r ε τ) (m m' : μ) : Prop where
  target : L.target m = L.target m'
  received : List.Forall₂ O (L.received m) (L.received m')
  handler : Coro.Twin R O (L.handler m) (L.handler m')

/-- The same choice, but for what a message says that is not looked at. -/
inductive ChoiceTwin (L : EventLoop ι μ σ ω q r ε τ) :
    Choice ι μ q r τ → Choice ι μ q r τ → Prop where
  | deliver {m m' : μ} (h : MessageTwin R O L m m') : ChoiceTwin L (.deliver m) (.deliver m')
  | answer (i : ι) (y : ∀ x, r x) : ChoiceTwin L (.answer i y) (.answer i y)
  | env (t : τ) : ChoiceTwin L (.env t) (.env t)

variable {R O}

theorem LoopTwin.waiting {l l' : Option (Parked σ ω q r ε)} (h : LoopTwin R O l l') :
    l.map (·.req) = l'.map (·.req) := by
  cases h with
  | idle => rfl
  | parked x _ => rfl

variable [DecidableEq ι]

theorem Twins.settle {c c' : Config ι σ ω q r ε} (h : Twins R O c c') (i : ι) {os os' : List ω}
    {w w' : σ} {stop stop' : Coro.Stop σ ω q r ε Unit} (ho : List.Forall₂ O os os') (hw : R w w')
    (hstop : Coro.StopTwin R O stop stop') :
    List.Forall₂ (ShownAlike O) (c.settle i (os, w, stop)).1 (c'.settle i (os', w', stop')).1 ∧
      Twins R O (c.settle i (os, w, stop)).2 (c'.settle i (os', w', stop')).2 := by
  refine ⟨?_, hw, fun j => ?_⟩
  · simp only [Config.settle]
    rw [List.forall₂_map_left_iff, List.forall₂_map_right_iff]
    exact ho.imp fun _ _ ho => ⟨rfl, ho⟩
  · simp only [Config.settle]
    by_cases hj : j = i
    · subst hj
      rw [Function.update_self, Function.update_self]
      cases hstop with
      | done a => exact .idle
      | parked x hk => exact .parked x hk
    · rw [Function.update_of_ne hj, Function.update_of_ne hj]
      exact h.loops j

/-- **One step.** If the one run can take it, so can the other, and they stay alike. -/
theorem Twins.step {L : EventLoop ι μ σ ω q r ε τ}
    (henv : ∀ t s s', R s s' → R (L.env t s) (L.env t s')) {c c' d : Config ι σ ω q r ε}
    {ch ch' : Choice ι μ q r τ} {os : List (ι × ω)} (h : Twins R O c c')
    (hch : ChoiceTwin R O L ch ch') (hs : L.step ch c = some (os, d)) :
    ∃ os' d', L.step ch' c' = some (os', d') ∧ List.Forall₂ (ShownAlike O) os os' ∧
      Twins R O d d' := by
  cases hch with
  | @deliver m m' hm =>
    simp only [EventLoop.step] at hs ⊢
    rw [← hm.target]
    have hloop := h.loops (L.target m)
    split at hs
    · cases hs
    rename_i hidle
    rw [hidle] at hloop
    generalize c'.loops (L.target m) = l' at hloop
    cases hloop
    obtain ⟨ho, hw, hstop⟩ := hm.handler.segment h.world
    cases hs
    exact ⟨_, _, rfl, h.settle _ (List.rel_append hm.received ho) hw hstop⟩
  | answer i y =>
    simp only [EventLoop.step] at hs ⊢
    have hloop := h.loops i
    generalize hl : c.loops i = l at hloop hs
    generalize c'.loops i = l' at hloop
    cases hloop with
    | idle => cases hs
    | parked x hk =>
      obtain ⟨ho, hw, hstop⟩ := (hk (y x)).segment h.world
      cases hs
      exact ⟨_, _, rfl, h.settle i ho hw hstop⟩
  | env t =>
    cases hs
    exact ⟨_, _, rfl, .nil, henv t _ _ h.world, h.loops⟩

end Twins

end RefundOps
