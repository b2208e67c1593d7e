import RefundOps.Resolution.Protocol.Invariant

/-!
# What survives a suspension

`act_case` says once what an action can do to one given record; everything about the fate of a
record is read off its eight constructors. Two facts are what a handler may rely on when it is
resumed: a record never loses its tasks (`Grows`), and a record that the intake loop is still
triaging is touched by no other loop (`fresh_rely`).
-/

set_option autoImplicit false

namespace RefundOps.Resolution

/-- How an action of loop `i` can change the record under `k`. -/
inductive Moved (S : Settings) (k : UUID) : LoopId → ResolutionCase → ResolutionCase → Prop where
  | classified {c : ResolutionCase} {t : Triage}
      (hs : c.status = .received ∨ c.status = .classified) :
      Moved S k .intake c { c with triage := some t, status := .classified }
  | delegated {c : ResolutionCase} {t : Triage} {deadline : Time} (hs : c.status = .classified)
      (ht : c.triage = some t) (hn : t.needsRefundReview = true) :
      Moved S k .intake c (delegatedCase S k deadline c)
  | attachedBilling {c : ResolutionCase} {t : UUID} {f : BillingFinding}
      (hu : undecided c.status = true) (ht : c.billingTaskId = some t)
      (hp : t ∈ c.pendingTasks) : Moved S k .billing c (attachedCase c t (.billing f))
  | attachedRisk {c : ResolutionCase} {t : UUID} {f : RiskFinding}
      (hu : undecided c.status = true) (ht : c.riskTaskId = some t)
      (hp : t ∈ c.pendingTasks) : Moved S k .risk c (attachedCase c t (.risk f))
  | slotFailed {c : ResolutionCase} {t : UUID} (hu : undecided c.status = true)
      (ht : c.billingTaskId = some t ∨ c.riskTaskId = some t) :
      Moved S k .result c (slotFailedCase c t (c.billingTaskId == some t))
  | claimed {i : LoopId} {c : ResolutionCase} (hu : undecided c.status = true)
      (hb : c.billingTaskId.isSome) : Moved S k i c { c with status := .decided }
  | highRisk {c : ResolutionCase} {t : UUID} {f : RiskFinding} (hu : undecided c.status = true)
      (ht : c.riskTaskId = some t) :
      Moved S k .risk c { c with status := .decided, riskResult := some f }
  | closed {c : ResolutionCase} (hs : c.status = .classified) :
      Moved S k .intake c { c with status := .closed }
  | finished {i : LoopId} {c : ResolutionCase} {s : CaseStatus} (hb : c.billingTaskId.isSome)
      (hs : s = .decided ∨ s = .escalated) : Moved S k i c { c with status := s }

section Records

variable {S : Settings} {i : LoopId} {p p' : Phase} {V V' : View} {os : List Obs} {k : UUID}
  {c : ResolutionCase}

/-- A record under `k`, after the record under `j` was replaced. -/
theorem put_case {j : UUID} {x x' : ResolutionCase} (hj : V.cases j = some x)
    (hc : V.cases k = some c) (hm : Moved S j i x x') :
    (V.put j x').cases k = some c ∨ ∃ c', (V.put j x').cases k = some c' ∧ Moved S k i c c' := by
  by_cases hk : k = j
  · subst hk
    have hx : x = c := Option.some.inj (hj.symm.trans hc)
    subst hx
    exact .inr ⟨x', View.put_cases_self V k x', hm⟩
  · left
    rw [View.put_cases_ne V x' hk]
    exact hc

/-- **What an action does to a record: nothing, or one of the moves.** -/
theorem act_case (ha : Act S i p V os p' V') (hc : V.cases k = some c) :
    V'.cases k = some c ∨ ∃ c', V'.cases k = some c' ∧ Moved S k i c c' := by
  cases ha with
  | minor | reopen | abandon | direct | delegated | delegationFailed | release | published
  | publishFailed | draftFailed => exact .inl hc
  | @create _ j x hnone hnew =>
    left
    have hk : k ≠ j := by
      rintro rfl
      rw [hnone] at hc
      exact absurd hc (by simp)
    show (V.put j x).cases k = some c
    rw [View.put_cases_ne V x hk]
    exact hc
  | classify hx hs => exact put_case hx hc (.classified hs)
  | delegate hx hs ht hn => exact put_case hx hc (.delegated hs ht hn)
  | attachBilling hx hu ht hp he hk => exact put_case hx hc (.attachedBilling hu ht hp)
  | attachRisk hx hu ht hp he hk => exact put_case hx hc (.attachedRisk hu ht hp)
  | slotFailed hx hu ht he hs => exact put_case hx hc (.slotFailed hu ht)
  | claim _ hp hx hb hu hs => exact put_case hx hc (.claimed hu hb)
  | claimHighRisk hx hu ht he hk => exact put_case hx hc (.highRisk hu ht)
  | close hx hs => exact put_case hx hc (.closed hs)
  | @finish _ _ _ _ _ m hm hx hb =>
    refine put_case hx hc (.finished hb ?_)
    cases m with
    | direct => exact absurd rfl hm
    | fallback => exact .inr rfl
    | claimed => exact .inl rfl
    | highRisk => exact .inr rfl

/-- A move keeps the tasks a record has. -/
theorem Moved.tasks {x : ResolutionCase} (hok : CaseOk S k c) (h : Moved S k i c x) :
    (∀ t, c.billingTaskId = some t → x.billingTaskId = some t) ∧
      (∀ t, c.riskTaskId = some t → x.riskTaskId = some t) := by
  cases h with
  | delegated hs ht hn =>
    have hf := hok.fresh_of_status (.inr hs)
    rw [hf.billingTaskId, hf.riskTaskId]
    exact ⟨fun t h => absurd h (by simp), fun t h => absurd h (by simp)⟩
  | classified | attachedBilling | attachedRisk | slotFailed | claimed | highRisk | closed
  | finished => exact ⟨fun _ => id, fun _ => id⟩

end Records

/-! ## Growth -/

/-- No record disappears, and none loses a task. -/
def Grows (V V' : View) : Prop :=
  ∀ k c, V.cases k = some c → ∃ c', V'.cases k = some c' ∧
    (∀ t, c.billingTaskId = some t → c'.billingTaskId = some t) ∧
    (∀ t, c.riskTaskId = some t → c'.riskTaskId = some t)

theorem Grows.refl (V : View) : Grows V V :=
  fun _ c hc => ⟨c, hc, fun _ => id, fun _ => id⟩

theorem Grows.trans {V V' V'' : View} (h : Grows V V') (h' : Grows V' V'') : Grows V V'' := by
  intro k c hc
  obtain ⟨c', hc', hb, hr⟩ := h k c hc
  obtain ⟨c'', hc'', hb', hr'⟩ := h' k c' hc'
  exact ⟨c'', hc'', fun t ht => hb' t (hb t ht), fun t ht => hr' t (hr t ht)⟩

theorem grows_act {S : Settings} {i : LoopId} {p p' : Phase} {V V' : View} {os : List Obs}
    (hok : ViewOk S V) (ha : Act S i p V os p' V') : Grows V V' := by
  intro k c hc
  rcases act_case ha hc with h | ⟨c', h, hm⟩
  · exact ⟨c, h, fun _ => id, fun _ => id⟩
  · exact ⟨c', h, hm.tasks (hok.case k c hc)⟩

theorem grows_rely {S : Settings} {i : LoopId} {w w' : World}
    (h : (protocol S).Rely i w w') : Grows w.view w'.view := by
  refine Protocol.Rely.stable (A := fun v => Grows w.view v.view) h (.refl _) ?_ ?_
  · intro j p t os p' t' _ hinv hact hg
    exact hg.trans (grows_act hinv hact)
  · intro t t' he hg
    have he' : t'.view = t.view := he
    rw [he']
    exact hg

/-! ## Fresh records -/

/-- Only the intake loop touches a record it may still be triaging. -/
theorem fresh_rely {S : Settings} {w w' : World} {k : UUID} {c : ResolutionCase}
    (h : (protocol S).Rely .intake w w') (hc : w.view.cases k = some c)
    (hs : c.status = .received ∨ c.status = .classified) : w'.view.cases k = some c := by
  refine Protocol.Rely.stable (A := fun v => v.view.cases k = some c) h hc ?_ ?_
  · intro j p t os p' t' hj hinv hact hcase
    rcases act_case hact hcase with h | ⟨c', -, hm⟩
    · exact h
    · exfalso
      have hf := (ViewOk.case hinv k c hcase).fresh_of_status hs
      have hb := hf.billingTaskId
      have hr := hf.riskTaskId
      cases hm with
      | classified | delegated | closed => exact hj rfl
      | attachedBilling _ ht => rw [hb] at ht; exact absurd ht (by simp)
      | attachedRisk _ ht => rw [hr] at ht; exact absurd ht (by simp)
      | slotFailed _ ht => rw [hb, hr] at ht; simp at ht
      | claimed _ hbs => rw [hb] at hbs; exact absurd hbs (by simp)
      | highRisk _ ht => rw [hr] at ht; exact absurd ht (by simp)
      | finished hbs => rw [hb] at hbs; exact absurd hbs (by simp)
  · intro t t' he hcase
    have he' : t'.view = t.view := he
    rw [he']
    exact hcase

/-- A step that the view does not show is one the suspended loops expect. -/
theorem rely_of_view {S : Settings} {i : LoopId} {w w' : World} (hok : ViewOk S w.view)
    (h : w'.view = w.view) : (protocol S).Rely i w w' :=
  .single ⟨hok, .inr h⟩

end RefundOps.Resolution
