import RefundOps.Lib.Coro

/-!
# The event loop

Several loops share one state. Each loop handles one message at a time: `deliver` starts the
handler of a message in a loop that is idle and runs it to its first suspension, `answer`
resumes a suspended loop, `env` is a move of the outside world (the clock). Nothing else is
assumed: any idle loop may be given any message at any time, the same one again included, and
any suspended loop may be resumed next, with any answer.

`step` is a function, so that a schedule — a list of choices — can be executed; `Run` is the
relation the theorems are about. A run carries a *guard* on what it shows: a theorem about
every run takes the guard that is always true, a theorem about the runs that avoid one kind of
step takes a guard that rules that step out, stated over what the other loops are suspended on
at that moment and over the observation itself. `RunIf` restricts what may be chosen instead, by the
state the choice is made in.
-/

set_option autoImplicit false

namespace RefundOps

/-- A suspended handler: what it waits for and how it goes on. -/
structure Parked (σ ω q : Type) (r : q → Type) (ε : Type) where
  req : q
  resume : r req → Coro σ ω q r ε Unit

/-- The loops `ι`, the messages `μ` each with the loop it is for, and the moves `τ` of the
    environment. -/
structure EventLoop (ι μ σ ω q : Type) (r : q → Type) (ε τ : Type) where
  target : μ → ι
  received : μ → List ω
  handler : μ → Coro σ ω q r ε Unit
  env : τ → σ → σ

structure Config (ι σ ω q : Type) (r : q → Type) (ε : Type) where
  world : σ
  loops : ι → Option (Parked σ ω q r ε)

namespace Config

variable {ι σ ω q : Type} {r : q → Type} {ε : Type}

/-- No handler invocation is in progress. -/
def Quiescent (c : Config ι σ ω q r ε) : Prop := ∀ i, c.loops i = none

/-- What each loop is suspended on. -/
def waiting (c : Config ι σ ω q r ε) (i : ι) : Option q := (c.loops i).map (·.req)

/-- Loop `i` ran a stretch that ended like this. -/
def settle [DecidableEq ι] (c : Config ι σ ω q r ε) (i : ι)
    (out : List ω × σ × Coro.Stop σ ω q r ε Unit) : List (ι × ω) × Config ι σ ω q r ε :=
  (out.1.map (i, ·),
    { world := out.2.1
      loops := Function.update c.loops i <|
        match out.2.2 with
        | .done _ => none
        | .parked x k => some ⟨x, k⟩ })

end Config

/-- What a scheduler can choose to do next. The answer is given as a function of the request,
    so that a schedule can be written down without naming the suspended handler. -/
inductive Choice (ι μ q : Type) (r : q → Type) (τ : Type) : Type where
  | deliver (m : μ)
  | answer (i : ι) (y : ∀ x, r x)
  | env (t : τ)

namespace EventLoop

variable {ι μ σ ω q : Type} {r : q → Type} {ε τ : Type} [DecidableEq ι]
variable (L : EventLoop ι μ σ ω q r ε τ)

/-- One choice, executed; `none` when it is not possible (the loop is busy, or idle). -/
def step : Choice ι μ q r τ → Config ι σ ω q r ε → Option (List (ι × ω) × Config ι σ ω q r ε)
  | .deliver m, c =>
      match c.loops (L.target m) with
      | some _ => none
      | none =>
          let out := (L.handler m).segment c.world
          some (c.settle (L.target m) (L.received m ++ out.1, out.2))
  | .answer i y, c =>
      match c.loops i with
      | none => none
      | some p => some (c.settle i ((p.resume (y p.req)).segment c.world))
  | .env t, c => some ([], { c with world := L.env t c.world })

/-- The loop a choice is about. -/
def mover : Choice ι μ q r τ → Option ι
  | .deliver m => some (L.target m)
  | .answer i _ => some i
  | .env _ => none

/-- A schedule, executed. -/
def exec : List (Choice ι μ q r τ) → Config ι σ ω q r ε →
    Option (List (ι × ω) × Config ι σ ω q r ε)
  | [], c => some ([], c)
  | ch :: chs, c =>
      match L.step ch c with
      | none => none
      | some (os, c') => (exec chs c').map fun out => (os ++ out.1, out.2)

/-- The runs all of whose steps show only what the guard lets through. -/
inductive Run (G : (ι → Option q) → ι × ω → Prop) (c₀ : Config ι σ ω q r ε) :
    List (ι × ω) → Config ι σ ω q r ε → Prop where
  | nil : Run G c₀ [] c₀
  | step {tr os : List (ι × ω)} {c c' : Config ι σ ω q r ε} (h : Run G c₀ tr c)
      (ch : Choice ι μ q r τ) (hs : L.step ch c = some (os, c'))
      (hg : ∀ o ∈ os, G c.waiting o) : Run G c₀ (tr ++ os) c'

/-- The guard that rules out nothing. -/
def anyStep : (ι → Option q) → ι × ω → Prop := fun _ _ => True

/-- The runs all of whose choices meet a condition, each in the configuration it is made in. -/
inductive RunIf (A : Choice ι μ q r τ → Config ι σ ω q r ε → Prop) (c₀ : Config ι σ ω q r ε) :
    List (ι × ω) → Config ι σ ω q r ε → Prop where
  | nil : RunIf A c₀ [] c₀
  | step {tr os : List (ι × ω)} {c c' : Config ι σ ω q r ε} (h : RunIf A c₀ tr c)
      (ch : Choice ι μ q r τ) (ha : A ch c) (hs : L.step ch c = some (os, c')) :
      RunIf A c₀ (tr ++ os) c'

/-- A schedule, executed as long as its choices meet the condition. -/
def execIf (A : Choice ι μ q r τ → Config ι σ ω q r ε → Prop) [∀ ch c, Decidable (A ch c)] :
    List (Choice ι μ q r τ) → Config ι σ ω q r ε → Option (List (ι × ω) × Config ι σ ω q r ε)
  | [], c => some ([], c)
  | ch :: chs, c =>
      if A ch c then
        match L.step ch c with
        | none => none
        | some (os, c') => (execIf A chs c').map fun out => (os ++ out.1, out.2)
      else none

variable {L}

theorem RunIf.trans {A : Choice ι μ q r τ → Config ι σ ω q r ε → Prop}
    {c₀ c₁ c₂ : Config ι σ ω q r ε} {tr tr' : List (ι × ω)} (h : L.RunIf A c₀ tr c₁)
    (h' : L.RunIf A c₁ tr' c₂) : L.RunIf A c₀ (tr ++ tr') c₂ := by
  induction h' with
  | nil => simpa using h
  | step _ ch ha hs ih => rw [← List.append_assoc]; exact ih.step ch ha hs

theorem RunIf.of_execIf {A : Choice ι μ q r τ → Config ι σ ω q r ε → Prop}
    [∀ ch c, Decidable (A ch c)] {chs : List (Choice ι μ q r τ)} {c c' : Config ι σ ω q r ε}
    {tr : List (ι × ω)} (h : L.execIf A chs c = some (tr, c')) : L.RunIf A c tr c' := by
  induction chs generalizing c tr with
  | nil =>
    simp only [execIf, Option.some.injEq, Prod.mk.injEq] at h
    obtain ⟨rfl, rfl⟩ := h
    exact .nil
  | cons ch chs ih =>
    simp only [execIf] at h
    split at h
    · rename_i ha
      split at h
      · cases h
      · rename_i os c₁ hs
        obtain ⟨⟨tr', c''⟩, hrest, heq⟩ := Option.map_eq_some_iff.mp h
        simp only [Prod.mk.injEq] at heq
        obtain ⟨rfl, rfl⟩ := heq
        exact (RunIf.nil.step ch ha hs).trans (ih hrest)
    · cases h

theorem RunIf.run {A : Choice ι μ q r τ → Config ι σ ω q r ε → Prop} {c₀ c : Config ι σ ω q r ε}
    {tr : List (ι × ω)} (h : L.RunIf A c₀ tr c) : L.Run anyStep c₀ tr c := by
  induction h with
  | nil => exact .nil
  | step _ ch _ hs ih => exact ih.step ch hs fun _ _ => trivial

theorem RunIf.mono {A A' : Choice ι μ q r τ → Config ι σ ω q r ε → Prop} {c₀ c : Config ι σ ω q r ε}
    {tr : List (ι × ω)} (hA : ∀ ch c, A ch c → A' ch c) (h : L.RunIf A c₀ tr c) :
    L.RunIf A' c₀ tr c := by
  induction h with
  | nil => exact .nil
  | step _ ch ha hs ih => exact ih.step ch (hA ch _ ha) hs

theorem Run.trans {G : (ι → Option q) → ι × ω → Prop} {c₀ c₁ c₂ : Config ι σ ω q r ε}
    {tr tr' : List (ι × ω)} (h : L.Run G c₀ tr c₁) (h' : L.Run G c₁ tr' c₂) :
    L.Run G c₀ (tr ++ tr') c₂ := by
  induction h' with
  | nil => simpa using h
  | step _ ch hs hg ih => rw [← List.append_assoc]; exact ih.step ch hs hg

theorem Run.mono {G G' : (ι → Option q) → ι × ω → Prop} {c₀ c : Config ι σ ω q r ε}
    {tr : List (ι × ω)} (hG : ∀ w o, G w o → G' w o) (h : L.Run G c₀ tr c) :
    L.Run G' c₀ tr c := by
  induction h with
  | nil => exact .nil
  | step _ ch hs hg ih => exact ih.step ch hs fun o ho => hG _ o (hg o ho)

/-- **Executing a schedule is a run**, so a concrete schedule is a witness for the relation; a
    guard that lets all of its trace through, whatever the loops wait for, keeps it a run. -/
theorem Run.of_exec {G : (ι → Option q) → ι × ω → Prop} {chs : List (Choice ι μ q r τ)}
    {c c' : Config ι σ ω q r ε} {tr : List (ι × ω)} (h : L.exec chs c = some (tr, c'))
    (hG : ∀ w, ∀ o ∈ tr, G w o) : L.Run G c tr c' := by
  induction chs generalizing c tr with
  | nil =>
    simp only [exec, Option.some.injEq, Prod.mk.injEq] at h
    obtain ⟨rfl, rfl⟩ := h
    exact .nil
  | cons ch chs ih =>
    simp only [exec] at h
    split at h
    · exact absurd h (by simp)
    · rename_i os c₁ hs
      obtain ⟨⟨tr', c''⟩, hrest, heq⟩ := Option.map_eq_some_iff.mp h
      simp only [Prod.mk.injEq] at heq
      obtain ⟨rfl, rfl⟩ := heq
      exact (Run.nil.step ch hs fun o ho => hG _ o (List.mem_append_left _ ho)).trans
        (ih hrest fun w o ho => hG w o (List.mem_append_right _ ho))

/-! ## A handler alone

`runSync` runs a handler with nothing else in between; the loop can do the same, by answering
only the loop of that handler until it is done. -/

/-- The schedule that delivers a message and then answers its loop `n` times, the others staying
    where they are. -/
def alone (L : EventLoop ι μ σ ω q r ε τ) (y : ∀ x, r x) (m : μ) (n : Nat) :
    List (Choice ι μ q r τ) :=
  .deliver m :: List.replicate n (.answer (L.target m) y)

/-- The stretches of a handler of loop `i`, one after the other: `os` is what the first of them
    had shown before it got here. -/
theorem exec_segment (y : ∀ x, r x) (i : ι) (p : Coro σ ω q r ε Unit) (os : List ω) (s : σ)
    (c : Config ι σ ω q r ε) :
    ∃ n tr, L.exec (List.replicate n (.answer i y))
        (c.settle i (os ++ (p.segment s).1, (p.segment s).2)).2 =
          some (tr, { world := (p.runSync y s).2.1, loops := Function.update c.loops i none }) ∧
      (c.settle i (os ++ (p.segment s).1, (p.segment s).2)).1 ++ tr =
        (os ++ (p.runSync y s).1).map (i, ·) := by
  induction p generalizing os s c with
  | pure a => exact ⟨0, [], rfl, by simp [Config.settle, Coro.segment, Coro.runSync]⟩
  | raise e => exact ⟨0, [], rfl, by simp [Config.settle, Coro.segment, Coro.runSync]⟩
  | get k ih => exact ih s os s c
  | commit s' os' k ih =>
    obtain ⟨n, tr, hexec, htr⟩ := ih (os ++ os') s' c
    simp only [List.append_assoc] at hexec htr
    exact ⟨n, tr, hexec, htr⟩
  | await x k ih =>
    -- the loop is parked on `x`; answering it settles the next stretch
    let c₁ : Config ι σ ω q r ε :=
      { world := s, loops := Function.update c.loops i (some ⟨x, k⟩) }
    obtain ⟨n, tr, hexec, htr⟩ := ih (y x) [] s c₁
    have hparked : c₁.loops i = some ⟨x, k⟩ := Function.update_self ..
    have hstep : L.step (.answer i y) c₁ =
        some (c₁.settle i ([] ++ ((k (y x)).segment s).1, ((k (y x)).segment s).2)) := by
      simp only [EventLoop.step, hparked, List.nil_append]
      rfl
    have hloops : Function.update c₁.loops i none = Function.update c.loops i none := by
      simp [c₁]
    rw [hloops] at hexec
    refine ⟨n + 1, (c₁.settle i ([] ++ ((k (y x)).segment s).1, ((k (y x)).segment s).2)).1 ++ tr,
      ?_, ?_⟩
    · show L.exec (.answer i y :: List.replicate n (.answer i y)) c₁ = _
      simp only [exec, hstep]
      rw [hexec]
      rfl
    · simp only [Config.settle, List.nil_append] at htr
      simp only [Config.settle, Coro.segment, Coro.runSync, List.nil_append, List.append_nil,
        List.map_append, htr]

/-- **A handler run alone is a schedule** of the loop, from every state in which its loop is idle. -/
theorem exec_alone (y : ∀ x, r x) (m : μ) {c : Config ι σ ω q r ε}
    (hidle : c.loops (L.target m) = none) :
    ∃ n, L.exec (L.alone y m n) c =
      some ((L.received m ++ ((L.handler m).runSync y c.world).1).map (L.target m, ·),
        { c with world := ((L.handler m).runSync y c.world).2.1 }) := by
  obtain ⟨n, tr, hexec, htr⟩ := exec_segment (L := L) y (L.target m) (L.handler m) (L.received m)
    c.world c
  have hstep : L.step (.deliver m) c = some (c.settle (L.target m)
      (L.received m ++ ((L.handler m).segment c.world).1, ((L.handler m).segment c.world).2)) := by
    simp only [EventLoop.step, hidle]
  have hloops : Function.update c.loops (L.target m) none = c.loops := by
    rw [← hidle, Function.update_eq_self]
  rw [hloops] at hexec
  refine ⟨n, ?_⟩
  simp only [alone, exec, hstep]
  rw [hexec, ← htr]
  rfl

end EventLoop

end RefundOps
