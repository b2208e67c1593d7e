import RefundOps.Lib.EventLoop

/-!
# What a handler asks for

The requests that a handler run alone suspends on, in order. A program in two parts asks for what its
first part asks for, and, if that returns, for what the second one does then; so to find a request one
goes to the part that makes it. Nothing else that might have been answered matters (`runSync_congr`).
-/

set_option autoImplicit false

namespace RefundOps.Coro

variable {σ ω q : Type} {r : q → Type} {ε α β : Type}

def asked (answer : ∀ x, r x) : Coro σ ω q r ε α → σ → List q
  | .pure _, _ => []
  | .raise _, _ => []
  | .get k, s => (k s).asked answer s
  | .commit s' _ k, _ => k.asked answer s'
  | .await x k, s => x :: (k (answer x)).asked answer s

/-- **A program goes by the answers to what it asks for**, and by no others. -/
theorem runSync_congr {answer answer' : ∀ x, r x} {p : Coro σ ω q r ε α} {s : σ}
    (h : ∀ x ∈ p.asked answer s, answer x = answer' x) :
    p.runSync answer s = p.runSync answer' s := by
  induction p generalizing s with
  | pure a => rfl
  | raise e => rfl
  | get k ih => exact ih s h
  | commit s' os k ih =>
    simp only [runSync]
    rw [ih (s := s') h]
  | await x k ih =>
    have hx : answer x = answer' x := h x List.mem_cons_self
    simp only [runSync]
    rw [ih (answer x) fun y hy => h y (List.mem_cons_of_mem x hy), hx]

section Parts

variable {answer : ∀ x, r x} {p : Coro σ ω q r ε α} {f : α → Coro σ ω q r ε β} {s : σ} {x : q}

theorem mem_asked_first (hx : x ∈ p.asked answer s) : x ∈ (p >>= f).asked answer s := by
  show x ∈ (p.bind f).asked answer s
  induction p generalizing s with
  | pure a => cases hx
  | raise e => cases hx
  | get k ih => exact ih s hx
  | commit s' os k ih => exact ih (s := s') hx
  | await y k ih =>
    rcases List.mem_cons.mp hx with rfl | hx
    · exact List.mem_cons_self
    · exact List.mem_cons_of_mem y (ih (answer y) hx)

theorem mem_asked_later (h : Returns answer p s fun a _ s' => x ∈ (f a).asked answer s') :
    x ∈ (p >>= f).asked answer s := by
  show x ∈ (p.bind f).asked answer s
  obtain ⟨a, os, s', hrun, hx⟩ := h
  induction p generalizing s os with
  | pure b =>
    cases hrun
    exact hx
  | raise e => cases hrun
  | get k ih => exact ih s os hrun
  | commit s₁ os₁ k ih =>
    exact ih (s := s₁) (k.runSync answer s₁).1 (Prod.ext rfl (Prod.mk.inj hrun).2)
  | await y k ih => exact List.mem_cons_of_mem y (ih (answer y) os hrun)

/-- The body of a `try` asks for what it asks for alone. -/
theorem mem_asked_tryCatch {h : ε → Coro σ ω q r ε α} (hx : x ∈ p.asked answer s) :
    x ∈ (tryCatch p h : Coro σ ω q r ε α).asked answer s := by
  show x ∈ (p.handle h).asked answer s
  induction p generalizing s with
  | pure a => cases hx
  | raise e => cases hx
  | get k ih => exact ih s hx
  | commit s' os k ih => exact ih (s := s') hx
  | await y k ih =>
    rcases List.mem_cons.mp hx with rfl | hx
    · exact List.mem_cons_self
    · exact List.mem_cons_of_mem y (ih (answer y) hx)

end Parts

end RefundOps.Coro
