import Mathlib.Logic.Relation
import Mathlib.Logic.Function.Basic

/-!
# Cooperative coroutines

A single-threaded event loop runs a handler without interruption up to its next suspension
point, and only there lets another handler run. `Coro` is the syntax of such a handler: a
tree of reads and writes of the shared state, observations, suspensions and a result or an
exception. It is a free monad, so a handler is written in `do` notation, line by line beside
the program it embeds, and it is *executable*: `segment` runs one uninterrupted stretch and
`runSync` runs a whole handler with every suspension answered at once.

The parameters: `σ` the shared state, `ω` the observations (what an outside observer can see
happening), `q` the requests a handler can suspend on, `r x` the answers to the request `x`,
`ε` the exceptions. Requests are dependent in their answers so that no handler has to match on
an answer of the wrong kind.
-/

set_option autoImplicit false

namespace RefundOps

/-- A handler of the event loop. `commit` is an assignment to the shared state together with
    what an observer sees of it; `await` is the only constructor at which another handler can
    run. -/
inductive Coro (σ ω q : Type) (r : q → Type) (ε α : Type) : Type where
  | pure (a : α)
  | raise (e : ε)
  | get (k : σ → Coro σ ω q r ε α)
  | commit (s : σ) (os : List ω) (k : Coro σ ω q r ε α)
  | await (x : q) (k : r x → Coro σ ω q r ε α)

namespace Coro

variable {σ ω q : Type} {r : q → Type} {ε α β : Type}

/-! ## The monad -/

protected def bind : Coro σ ω q r ε α → (α → Coro σ ω q r ε β) → Coro σ ω q r ε β
  | .pure a, f => f a
  | .raise e, _ => .raise e
  | .get k, f => .get fun s => (k s).bind f
  | .commit s os k, f => .commit s os (k.bind f)
  | .await x k, f => .await x fun y => (k y).bind f

/-- `try p except e: h e`. What `p` did before it raised stays done. -/
protected def handle : Coro σ ω q r ε α → (ε → Coro σ ω q r ε α) → Coro σ ω q r ε α
  | .pure a, _ => .pure a
  | .raise e, h => h e
  | .get k, h => .get fun s => (k s).handle h
  | .commit s os k, h => .commit s os (k.handle h)
  | .await x k, h => .await x fun y => (k y).handle h

instance : Monad (Coro σ ω q r ε) where
  pure := .pure
  bind := .bind

instance : MonadExceptOf ε (Coro σ ω q r ε) where
  throw := .raise
  tryCatch := .handle

/-- Read the shared state. -/
def read : Coro σ ω q r ε σ := .get .pure

/-- Overwrite the shared state, silently. -/
def write (s : σ) : Coro σ ω q r ε Unit := .commit s [] (.pure ())

/-- Show an observation, leaving the state alone. -/
def observe (o : ω) : Coro σ ω q r ε Unit := .get fun s => .commit s [o] (.pure ())

/-- Suspend on a request and return its answer. -/
def request (x : q) : Coro σ ω q r ε (r x) := .await x .pure

/-- Answers that carry an exception raise it in the handler that asked. -/
def ofExcept : Except ε α → Coro σ ω q r ε α
  | .ok a => .pure a
  | .error e => .raise e

/-! ## One stretch

`segment` is what the event loop runs before it can look at anything else: everything up to
the next suspension, or to the end. -/

/-- Where an uninterrupted stretch ends. -/
inductive Stop (σ ω q : Type) (r : q → Type) (ε α : Type) : Type where
  | done (a : Except ε α)
  | parked (x : q) (k : r x → Coro σ ω q r ε α)

def segment : Coro σ ω q r ε α → σ → List ω × σ × Stop σ ω q r ε α
  | .pure a, s => ([], s, .done (.ok a))
  | .raise e, s => ([], s, .done (.error e))
  | .get k, s => (k s).segment s
  | .commit s' os k, _ => let out := k.segment s'; (os ++ out.1, out.2)
  | .await x k, s => ([], s, .parked x k)

/-- The whole handler, alone: every request is answered by `answer` and nothing else runs in
    between. -/
def runSync (answer : ∀ x, r x) : Coro σ ω q r ε α → σ → List ω × σ × Except ε α
  | .pure a, s => ([], s, .ok a)
  | .raise e, s => ([], s, .error e)
  | .get k, s => (k s).runSync answer s
  | .commit s' os k, _ => let out := k.runSync answer s'; (os ++ out.1, out.2)
  | .await x k, s => (k (answer x)).runSync answer s

theorem runSync_bind (answer : ∀ x, r x) (p : Coro σ ω q r ε α) (f : α → Coro σ ω q r ε β) (s : σ) :
    (p >>= f).runSync answer s =
      match p.runSync answer s with
      | (os, s', .ok a) => (os ++ ((f a).runSync answer s').1, ((f a).runSync answer s').2)
      | (os, s', .error e) => (os, s', .error e) := by
  show (p.bind f).runSync answer s = _
  induction p generalizing s with
  | pure a => simp [Coro.bind, runSync]
  | raise e => simp [Coro.bind, runSync]
  | get k ih => simpa [Coro.bind, runSync] using ih s s
  | commit s' os k ih =>
    simp only [Coro.bind, runSync, ih]
    rcases k.runSync answer s' with ⟨os', s'', a | e⟩ <;> simp
  | await x k ih => simpa [Coro.bind, runSync] using ih (answer x) s

theorem runSync_tryCatch (answer : ∀ x, r x) (p : Coro σ ω q r ε α)
    (h : ε → Coro σ ω q r ε α) (s : σ) :
    (tryCatch p h).runSync answer s =
      match p.runSync answer s with
      | (os, s', .ok a) => (os, s', .ok a)
      | (os, s', .error e) => (os ++ ((h e).runSync answer s').1, ((h e).runSync answer s').2) := by
  show (p.handle h).runSync answer s = _
  induction p generalizing s with
  | pure a => simp [Coro.handle, runSync]
  | raise e => simp [Coro.handle, runSync]
  | get k ih => simpa [Coro.handle, runSync] using ih s s
  | commit s' os k ih =>
    simp only [Coro.handle, runSync, ih]
    rcases k.runSync answer s' with ⟨os', s'', a | e⟩ <;> simp
  | await x k ih => simpa [Coro.handle, runSync] using ih (answer x) s

/-! ### Another observer -/

/-- A handler as part of one that shows more: its observations are some of those. -/
def relabel {ω' : Type} (f : ω → ω') : Coro σ ω q r ε α → Coro σ ω' q r ε α
  | .pure a => .pure a
  | .raise e => .raise e
  | .get k => .get fun s => (k s).relabel f
  | .commit s os k => .commit s (os.map f) (k.relabel f)
  | .await x k => .await x fun y => (k y).relabel f

/-- It does what it did. -/
theorem runSync_relabel {ω' : Type} (f : ω → ω') (answer : ∀ x, r x) (p : Coro σ ω q r ε α)
    (s : σ) :
    (p.relabel f).runSync answer s = ((p.runSync answer s).1.map f, (p.runSync answer s).2) := by
  induction p generalizing s with
  | pure a => rfl
  | raise e => rfl
  | get k ih => exact ih s s
  | commit s' os k ih =>
    unfold relabel runSync
    dsimp only
    rw [ih, List.map_append]
  | await x k ih => exact ih (answer x) s

/-! ### Where the first stretch ends -/

/-- The first stretch of a handler either returns, and then `Q` holds of the result and the state,
    or it ends otherwise, and then `R` holds of the state. -/
def Pauses (R : σ → Prop) (Q : α → σ → Prop) : Coro σ ω q r ε α → σ → Prop
  | .pure a, s => Q a s
  | .raise _, s => R s
  | .get k, s => (k s).Pauses R Q s
  | .commit s' _ k, _ => k.Pauses R Q s'
  | .await _ _, s => R s

theorem Pauses.pure {R : σ → Prop} {Q : α → σ → Prop} {a : α} {s : σ} (h : Q a s) :
    (Pure.pure a : Coro σ ω q r ε α).Pauses R Q s := h

theorem Pauses.bind {R : σ → Prop} {Q : β → σ → Prop} {p : Coro σ ω q r ε α}
    {f : α → Coro σ ω q r ε β} {s : σ}
    (h : p.Pauses R (fun a s' => (f a).Pauses R Q s') s) : (p >>= f).Pauses R Q s := by
  show (p.bind f).Pauses R Q s
  induction p generalizing s with
  | pure a => exact h
  | raise e => exact h
  | get k ih => exact ih s h
  | commit s' os k ih => exact ih h
  | await x k ih => exact h

theorem Pauses.segment {R : σ → Prop} {p : Coro σ ω q r ε α} {s : σ}
    (h : p.Pauses R (fun _ => R) s) : R (p.segment s).2.1 := by
  induction p generalizing s with
  | pure a => exact h
  | raise e => exact h
  | get k ih => exact ih s h
  | commit s' os k ih => exact ih h
  | await x k ih => exact h

/-! ### Handlers that return -/

/-- Run alone from `s`, the handler returns, and `Q` holds of its result, of what it showed and
    of the state it left. -/
def Returns (answer : ∀ x, r x) (p : Coro σ ω q r ε α) (s : σ) (Q : α → List ω → σ → Prop) :
    Prop :=
  ∃ a os s', p.runSync answer s = (os, s', .ok a) ∧ Q a os s'

namespace Returns

variable {answer : ∀ x, r x} {s : σ}

theorem pure {a : α} {Q : α → List ω → σ → Prop} (h : Q a [] s) :
    Returns answer (Pure.pure a : Coro σ ω q r ε α) s Q :=
  ⟨a, [], s, rfl, h⟩

theorem bind {p : Coro σ ω q r ε α} {f : α → Coro σ ω q r ε β} {Q : β → List ω → σ → Prop}
    (h : Returns answer p s fun a os s' =>
      Returns answer (f a) s' fun b os' s'' => Q b (os ++ os') s'') :
    Returns answer (p >>= f) s Q := by
  obtain ⟨a, os, s', hp, b, os', s'', hf, hQ⟩ := h
  refine ⟨b, os ++ os', s'', ?_, hQ⟩
  rw [runSync_bind, hp]
  dsimp only
  rw [hf]

/-- A body that does not raise. -/
theorem tryCatch {p : Coro σ ω q r ε α} {h : ε → Coro σ ω q r ε α} {Q : α → List ω → σ → Prop}
    (hp : Returns answer p s Q) : Returns answer (MonadExcept.tryCatch p h) s Q := by
  obtain ⟨a, os, s', hp, hQ⟩ := hp
  refine ⟨a, os, s', ?_, hQ⟩
  rw [runSync_tryCatch, hp]

/-- A body that raises `e`. -/
theorem tryCatch_raised {p : Coro σ ω q r ε α} {h : ε → Coro σ ω q r ε α}
    {Q : α → List ω → σ → Prop} {os : List ω} {s' : σ} {e : ε}
    (hp : p.runSync answer s = (os, s', .error e))
    (hh : Returns answer (h e) s' fun a os' s'' => Q a (os ++ os') s'') :
    Returns answer (MonadExcept.tryCatch p h) s Q := by
  obtain ⟨a, os', s'', hrun, hQ⟩ := hh
  refine ⟨a, os ++ os', s'', ?_, hQ⟩
  rw [runSync_tryCatch, hp]
  dsimp only
  rw [hrun]

theorem mono {p : Coro σ ω q r ε α} {Q Q' : α → List ω → σ → Prop} (h : Returns answer p s Q)
    (hQ : ∀ a os s', Q a os s' → Q' a os s') : Returns answer p s Q' := by
  obtain ⟨a, os, s', hp, hq⟩ := h
  exact ⟨a, os, s', hp, hQ a os s' hq⟩

end Returns

end Coro

end RefundOps
