import RefundOps.Resolution.Properties.Decisions

/-!
# At most one decision per case

The result loops and the reaper claim a case before they decide it; the intake loop does not. It
emits on its own in two places, the direct response and the escalation after a failed delegation,
and there a second decision can come from three things, each a branch of the run: its draft cannot
be published, so that the status it would have set is never set; it enters the escalation for a
case that another loop has already decided; another loop claims the case while the intake loop is
suspended in its emission. `singleDecision` is the guard that no step takes one of these branches.

**Under the guard no correlation id ever has two decisions** (`at_most_one_decision`). Without it
there can be two: `two_direct_responses` is a schedule with one failed draft and one redelivered
ticket.
-/

set_option autoImplicit false

namespace RefundOps.Resolution

/-! ## The guard -/

/-- None of the three branches of the intake loop that lead to a second decision is taken. -/
def singleDecision (waiting : LoopId → Option Request) (o : LoopId × Obs) : Prop :=
  match o.2 with
  | .publishFailed ev => o.1 = .intake → ∀ p, ev.payload ≠ .responseDrafted p
  | .delegationFailed _ status => undecided status = true
  | .claimed k => ∀ x, waiting .intake = some x → ¬ x.emits k
  | _ => True

/-! ## The invariant -/

/-- The emission a loop is in: for which case, on which path, and whether the decision is out. -/
def Phase.emission : Phase → Option (UUID × Emission × Bool)
  | .emitting k _ m => some (k, m, false)
  | .emitted k _ m => some (k, m, true)
  | _ => none

/-- The paths that begin with a claim. -/
def Emission.claims : Emission → Bool
  | .claimed => true
  | .highRisk => true
  | _ => false

/-- The emissions of one case. At most one loop is in one; a decision that is out is covered by
    the loop that published it or by the status of the case. -/
structure Single (k : UUID) (tr : Trace) (V : View) (ph : LoopId → Phase) : Prop where
  unique : ∀ i j m n b b', (ph i).emission = some (k, m, b) → (ph j).emission = some (k, n, b') →
    i = j
  intake : ∀ i m b, (ph i).emission = some (k, m, b) → m.claims = false → i = .intake
  held : ∀ i m b, (ph i).emission = some (k, m, b) → m.claims = true → Final V k
  silent : ∀ i m, (ph i).emission = some (k, m, false) → decidedFor k tr = []
  shown : decidedFor k tr ≠ [] → (∃ i m, (ph i).emission = some (k, m, true)) ∨ Final V k
  count : (decidedFor k tr).length ≤ 1

namespace Single

variable {k : UUID} {tr : Trace} {V V' : View} {ph : LoopId → Phase} {i : LoopId} {p' : Phase}
  {os : List Obs}

/-- A step that shows no decision and leaves every emission of `k` as it is. -/
theorem frame (h : Single k tr V ph) (hfinal : Final V k → Final V' k)
    (hos : decidedFor k (os.map (i, ·)) = [])
    (hph : ∀ j m b, (Function.update ph i p' j).emission = some (k, m, b) ↔
      (ph j).emission = some (k, m, b)) :
    Single k (tr ++ os.map (i, ·)) V' (Function.update ph i p') where
  unique := fun a b m n x y ha hb => h.unique a b m n x y ((hph ..).mp ha) ((hph ..).mp hb)
  intake := fun a m b ha => h.intake a m b ((hph ..).mp ha)
  held := fun a m b ha hm => hfinal (h.held a m b ((hph ..).mp ha) hm)
  silent := by
    intro a m ha
    rw [decidedFor_append, hos, List.append_nil]
    exact h.silent a m ((hph ..).mp ha)
  shown := by
    intro hne
    rw [decidedFor_append, hos, List.append_nil] at hne
    rcases h.shown hne with ⟨a, m, ha⟩ | hf
    · exact .inl ⟨a, m, (hph ..).mpr ha⟩
    · exact .inr (hfinal hf)
  count := by
    rw [decidedFor_append, hos, List.append_nil]
    exact h.count

/-- The emissions of `k` are untouched when the acting loop is in none before and after. -/
theorem emission_update {p : Phase} (hp : ph i = p) (hbefore : ∀ m b, p.emission ≠ some (k, m, b))
    (hafter : ∀ m b, p'.emission ≠ some (k, m, b)) (j : LoopId) (m : Emission) (b : Bool) :
    (Function.update ph i p' j).emission = some (k, m, b) ↔ (ph j).emission = some (k, m, b) := by
  by_cases hj : j = i
  · subst hj
    rw [Function.update_self, hp]
    exact ⟨fun h => absurd h (hafter m b), fun h => absurd h (hbefore m b)⟩
  · rw [Function.update_of_ne hj]

/-- A case that is undecided while the intake loop is in no emission of it is in none at all, and
    has no decision. -/
theorem free (h : Single k tr V ph) (hu : ¬ Final V k)
    (hintake : ∀ m b, (ph .intake).emission ≠ some (k, m, b)) :
    (∀ j m b, (ph j).emission ≠ some (k, m, b)) ∧ decidedFor k tr = [] := by
  have hnone : ∀ j m b, (ph j).emission ≠ some (k, m, b) := by
    intro j m b hj
    cases hm : m.claims with
    | true => exact hu (h.held j m b hj hm)
    | false =>
      obtain rfl := h.intake j m b hj hm
      exact hintake m b hj
  refine ⟨hnone, ?_⟩
  by_contra hne
  rcases h.shown hne with ⟨j, m, hj⟩ | hf
  · exact hnone j m true hj
  · exact hu hf

/-- Beginning an emission of a free case. -/
theorem enter {d : CustomerResponseDecisionPayload} {m : Emission}
    (hfree : ∀ j n b, (ph j).emission ≠ some (k, n, b)) (hnil : decidedFor k tr = [])
    (hos : decidedFor k (os.map (i, ·)) = []) (hintake : m.claims = false → i = .intake)
    (hclaim : m.claims = true → Final V' k) :
    Single k (tr ++ os.map (i, ·)) V' (Function.update ph i (.emitting k d m)) := by
  have honly : ∀ j n b, (Function.update ph i (.emitting k d m) j).emission = some (k, n, b) →
      j = i ∧ n = m := by
    intro j n b hj
    by_cases hji : j = i
    · subst hji
      rw [Function.update_self] at hj
      simp only [Phase.emission, Option.some.injEq, Prod.mk.injEq, true_and] at hj
      exact ⟨rfl, hj.1.symm⟩
    · rw [Function.update_of_ne hji] at hj
      exact absurd hj (hfree j n b)
  refine ⟨?_, ?_, ?_, ?_, ?_, ?_⟩
  · intro a b _ _ _ _ ha hb
    exact (honly a _ _ ha).1.trans (honly b _ _ hb).1.symm
  · intro a n b ha hn
    obtain ⟨rfl, rfl⟩ := honly a n b ha
    exact hintake hn
  · intro a n b ha hn
    obtain ⟨rfl, rfl⟩ := honly a n b ha
    exact hclaim hn
  · intro _ _ _
    rw [decidedFor_append, hnil, hos, List.append_nil]
  · intro hne
    rw [decidedFor_append, hnil, hos, List.append_nil] at hne
    exact absurd rfl hne
  · rw [decidedFor_append, hnil, hos, List.append_nil]
    exact Nat.zero_le 1

/-- The decision is published. -/
theorem publish (h : Single k tr V ph) {d : CustomerResponseDecisionPayload} {m : Emission}
    (hp : ph i = .emitting k d m) (hos : decidedFor k (os.map (i, ·)) = [d]) :
    Single k (tr ++ os.map (i, ·)) V (Function.update ph i (.emitted k d m)) := by
  have hi : (ph i).emission = some (k, m, false) := by rw [hp]; rfl
  have hnil := h.silent i m hi
  have honly : ∀ j n b, (Function.update ph i (.emitted k d m) j).emission = some (k, n, b) →
      j = i ∧ n = m ∧ b = true := by
    intro j n b hj
    by_cases hji : j = i
    · subst hji
      rw [Function.update_self] at hj
      simp only [Phase.emission, Option.some.injEq, Prod.mk.injEq, true_and] at hj
      exact ⟨rfl, hj.1.symm, hj.2.symm⟩
    · rw [Function.update_of_ne hji] at hj
      exact absurd (h.unique j i n m b false hj hi) hji
  refine ⟨?_, ?_, ?_, ?_, ?_, ?_⟩
  · intro a b _ _ _ _ ha hb
    exact (honly a _ _ ha).1.trans (honly b _ _ hb).1.symm
  · intro a n b ha hn
    obtain ⟨rfl, rfl, -⟩ := honly a n b ha
    exact h.intake a n false hi hn
  · intro a n b ha hn
    obtain ⟨rfl, rfl, -⟩ := honly a n b ha
    exact h.held a n false hi hn
  · intro a n ha
    exact absurd (honly a n false ha).2.2 (by simp)
  · intro _
    exact .inl ⟨i, m, by rw [Function.update_self]; rfl⟩
  · rw [decidedFor_append, hnil, hos]
    exact Nat.le_refl 1

/-- The loop leaves its emission; if the decision is out, the status has to say so. -/
theorem leave (h : Single k tr V ph) {m : Emission} {b : Bool}
    (hi : (ph i).emission = some (k, m, b)) (hos : decidedFor k (os.map (i, ·)) = [])
    (hafter : p'.emission = none) (hout : b = true → Final V' k) :
    Single k (tr ++ os.map (i, ·)) V' (Function.update ph i p') := by
  have hnone : ∀ j n c, (Function.update ph i p' j).emission ≠ some (k, n, c) := by
    intro j n c hj
    by_cases hji : j = i
    · subst hji
      rw [Function.update_self, hafter] at hj
      exact absurd hj (by simp)
    · rw [Function.update_of_ne hji] at hj
      exact hji (h.unique j i n m c b hj hi)
  refine ⟨?_, ?_, ?_, ?_, ?_, ?_⟩
  · intro a _ n _ c _ ha
    exact absurd ha (hnone a n c)
  · intro a n c ha
    exact absurd ha (hnone a n c)
  · intro a n c ha
    exact absurd ha (hnone a n c)
  · intro a n ha
    exact absurd ha (hnone a n false)
  · intro hne
    rw [decidedFor_append, hos, List.append_nil] at hne
    right
    cases b with
    | true => exact hout rfl
    | false => exact absurd (h.silent i m hi) hne
  · rw [decidedFor_append, hos, List.append_nil]
    exact h.count

end Single

/-- What the guard gives a loop that claims: the intake loop is not emitting the case. -/
theorem intake_elsewhere {i : LoopId} {ph : LoopId → Phase}
    {waiting : LoopId → Option Request} {k : UUID} (hi : i ≠ .intake) (hw : Others i ph waiting)
    (hg : ∀ x, waiting .intake = some x → ¬ x.emits k) (m : Emission) (b : Bool) :
    (ph .intake).emission ≠ some (k, m, b) := by
  intro hph
  rcases hw .intake (Ne.symm hi) with ⟨-, hq⟩ | ⟨x, hx, hwaits⟩
  · rw [hq] at hph
    exact absurd hph (by simp [Phase.emission])
  · refine hg x hx ?_
    cases hp : ph .intake with
    | emitting j d n =>
      rw [hp] at hph hwaits
      simp only [Phase.emission, Option.some.injEq, Prod.mk.injEq] at hph
      exact hph.1 ▸ hwaits
    | emitted j d n =>
      rw [hp] at hph hwaits
      simp only [Phase.emission, Option.some.injEq, Prod.mk.injEq] at hph
      exact hph.1 ▸ hwaits
    | quiet | triaging | delegating | owing =>
      rw [hp] at hph
      exact absurd hph (by simp [Phase.emission])

/-- An action about another case. -/
theorem Single.elsewhere {S : Settings} {k j : UUID} {tr : Trace} {V V' : View}
    {ph : LoopId → Phase} {i : LoopId} {p p' : Phase} {os : List Obs} (h : Single k tr V ph)
    (hp : ph i = p) (ha : Act S i p V os p' V') (hos : decidedFor k (os.map (i, ·)) = [])
    (hk : k ≠ j) (hbefore : ∀ m b, p.emission = some (k, m, b) → k = j)
    (hafter : ∀ m b, p'.emission = some (k, m, b) → k = j) :
    Single k (tr ++ os.map (i, ·)) V' (Function.update ph i p') :=
  h.frame (fun hf => hf.act ha) hos
    (Single.emission_update hp (fun m b he => hk (hbefore m b he)) fun m b he => hk (hafter m b he))

/-- **Every action the guard lets through keeps the emissions of every case single.** -/
theorem single_inductive (S : Settings) :
    Inductive S singleDecision fun tr V ph => ∀ k, Single k tr V ph := by
  intro tr V ph i os p' V' waiting h hok ha hw hg k
  have hk := h k
  have hfinal : Final V k → Final V' k := fun hf => hf.act ha
  generalize hp : ph i = p at ha
  have hact := ha
  cases ha with
  | minor hos =>
    refine hk.frame hfinal (decidedFor_nil_of_minor hos k) ?_
    intro j m b
    rw [← hp, Function.update_eq_self]
  | create | reopen | classify | abandon | delegate | delegated | attachBilling | attachRisk
  | slotFailed | release =>
    exact hk.frame hfinal rfl (Single.emission_update hp (by simp [Phase.emission])
      (by simp [Phase.emission]))
  | @direct _ j c d hc hs hd =>
    -- an answer without a review: the case is not decided, so nobody else is emitting it
    by_cases hkj : k = j
    · subst hkj
      have hu : ¬ Final V k := not_final_of_undecided hc (by rw [hs]; rfl)
      obtain ⟨hfree, hnil⟩ := hk.free hu (by rw [hp]; simp [Phase.emission])
      exact .enter hfree hnil rfl (fun _ => rfl) (by simp [Emission.claims])
    · exact hk.elsewhere hp hact rfl hkj (by simp [Phase.emission])
        (by simp [Phase.emission, eq_comm])
  | @delegationFailed _ j c d hc hb hd hr =>
    -- the guard: the case was not decided while the delegation was on its way
    by_cases hkj : k = j
    · subst hkj
      have hu : ¬ Final V k := not_final_of_undecided hc (hg _ List.mem_cons_self)
      obtain ⟨hfree, hnil⟩ := hk.free hu (by rw [hp]; simp [Phase.emission])
      exact .enter hfree hnil rfl (fun _ => rfl) (by simp [Emission.claims])
    · exact hk.elsewhere hp hact rfl hkj (by simp [Phase.emission])
        (by simp [Phase.emission, eq_comm])
  | @claim _ _ _ j c snapshot now hi hph hc hb hu hs =>
    -- the claim keeps the result loops out, the guard the intake loop
    have hbefore : ∀ m b, p.emission ≠ some (k, m, b) := by
      rcases hph with rfl | rfl <;> simp [Phase.emission]
    by_cases hkj : k = j
    · subst hkj
      have helse := intake_elsewhere (k := k) hi hw (hg _ List.mem_cons_self)
      obtain ⟨hfree, hnil⟩ := hk.free (not_final_of_undecided hc hu) helse
      exact .enter hfree hnil rfl (by simp [Emission.claims]) fun _ => final_put rfl
    · exact hk.elsewhere hp hact rfl hkj (fun m b he => absurd he (hbefore m b))
        (by simp [Phase.emission, eq_comm])
  | @claimHighRisk _ j t c snapshot e payload hc hu ht he hcorr =>
    by_cases hkj : k = j
    · subst hkj
      have helse := intake_elsewhere (i := .risk) (k := k) (by decide) hw
        (hg _ (List.mem_cons_of_mem _ List.mem_cons_self))
      obtain ⟨hfree, hnil⟩ := hk.free (not_final_of_undecided hc hu) helse
      exact .enter hfree hnil rfl (by simp [Emission.claims]) fun _ => final_put rfl
    · exact hk.elsewhere hp hact rfl hkj (by simp [Phase.emission])
        (by simp [Phase.emission, eq_comm])
  | @published _ _ j d m ev hpay hev =>
    -- the only action that shows a decision
    by_cases hkj : k = j
    · subst hkj
      refine hk.publish hp ?_
      rw [List.map_cons, List.map_nil, decidedFor_published hpay, if_pos hev]
    · refine hk.elsewhere hp hact ?_ hkj (by simp [Phase.emission, eq_comm])
        (by simp [Phase.emission, eq_comm])
      rw [List.map_cons, List.map_nil, decidedFor_published hpay,
        if_neg fun he => hkj (he.symm.trans hev)]
  | @publishFailed _ _ j d m ev hpay hev =>
    by_cases hkj : k = j
    · subst hkj
      exact hk.leave (by rw [hp]; rfl) rfl rfl (by simp)
    · exact hk.elsewhere hp hact rfl hkj (by simp [Phase.emission, eq_comm])
        (by simp [Phase.emission])
  | @draftFailed _ _ j d m ev draft hpay hev =>
    by_cases hkj : k = j
    · subst hkj
      have hem : (ph i).emission = some (k, m, true) := by rw [hp]; rfl
      -- the guard: the draft of an unclaimed emission does not fail
      have hclaims : m.claims = true := by
        cases hm : m.claims with
        | true => rfl
        | false =>
          obtain rfl := hk.intake i m true hem hm
          exact absurd hpay (hg _ List.mem_cons_self rfl draft)
      exact hk.leave hem rfl rfl fun _ => hk.held i m true hem hclaims
    · exact hk.elsewhere hp hact rfl hkj (by simp [Phase.emission, eq_comm])
        (by simp [Phase.emission])
  | @close _ j c d hc hs =>
    by_cases hkj : k = j
    · subst hkj
      exact hk.leave (by rw [hp]; rfl) rfl rfl fun _ => final_put rfl
    · exact hk.elsewhere hp hact rfl hkj (by simp [Phase.emission, eq_comm])
        (by simp [Phase.emission])
  | @finish _ _ j c d m hm hc hb =>
    by_cases hkj : k = j
    · subst hkj
      refine hk.leave (by rw [hp]; rfl) rfl rfl fun _ => final_put ?_
      cases m <;> rfl
    · exact hk.elsewhere hp hact rfl hkj (by simp [Phase.emission, eq_comm])
        (by simp [Phase.emission])

/-! ## Runs -/

/-- **At most one decision is published per correlation id**, in every run none of whose steps
    takes one of the three branches. -/
theorem at_most_one_decision {S : Settings} {now : Time} {nextId : UUID} {tr : Trace} {c : State}
    (hrun : (service S).Run singleDecision (start now nextId) tr c) (k : UUID) :
    (decidedFor k tr).length ≤ 1 := by
  have hinit : ∀ k, Single k [] emptyView fun _ => .quiet := by
    intro k
    refine ⟨?_, ?_, ?_, ?_, ?_, ?_⟩ <;> simp [Phase.emission, decidedFor]
  obtain ⟨ph, -, hk⟩ := run_invariant (single_inductive S) hinit hrun
  exact (hk k).count

/-- A ticket that is answered directly, every publication granted: the handler suspends on the
    first audit, the classification, the decision, its audit and the draft. -/
def directSchedule : Schedule :=
  .deliver (ticketMessage "hello") :: List.replicate 5 (.answer .intake grant)

/-- No step of `directSchedule` needs the guard. -/
def plainObs : LoopId × Obs → Bool
  | (_, .publishFailed _) => false
  | (_, .delegationFailed _ _) => false
  | (_, .claimed _) => false
  | _ => true

theorem at_most_one_decision_direct :
    ∃ tr c, (service sampleSettings).Run singleDecision (start 0 1000) tr c ∧
      (decidedFor 1 tr).length = 1 ∧ (decidedFor 1 tr).length ≤ 1 := by
  have hexec : (((service sampleSettings).exec directSchedule (start 0 1000)).map fun out =>
      ((decidedFor 1 out.1).length, out.1.all plainObs)) = some (1, true) := by decide +kernel
  obtain ⟨⟨tr, c⟩, hout, heq⟩ := Option.map_eq_some_iff.mp hexec
  simp only [Prod.mk.injEq] at heq
  have hrun : (service sampleSettings).Run singleDecision (start 0 1000) tr c := by
    refine .of_exec hout ?_
    rintro w ⟨i, o⟩ ho
    have hplain := List.all_eq_true.mp heq.2 _ ho
    cases o with
    | publishFailed | delegationFailed | claimed => exact absurd hplain (by simp [plainObs])
    | received | published | attached | slotFailed | decisionTaken => trivial
  exact ⟨tr, c, hrun, heq.1, at_most_one_decision hrun 1⟩

/-- The draft is refused after the decision went out, and the ticket is delivered again. -/
def redeliverySchedule : Schedule :=
  .deliver (ticketMessage "hello") :: List.replicate 4 (.answer .intake grant) ++
    .answer .intake refuse :: directSchedule.take 4

/-- Without the guard a correlation id can have two decisions. -/
theorem two_direct_responses :
    ¬ ∀ (S : Settings) (now : Time) (nextId : UUID) (tr : Trace) (c : State) (k : UUID),
      (service S).Run EventLoop.anyStep (start now nextId) tr c →
      (decidedFor k tr).length ≤ 1 := by
  intro h
  have hexec : (((service sampleSettings).exec redeliverySchedule (start 0 1000)).map fun out =>
      (decidedFor 1 out.1).length) = some 2 := by decide +kernel
  obtain ⟨⟨tr, c⟩, hout, heq⟩ := Option.map_eq_some_iff.mp hexec
  have hle := h sampleSettings 0 1000 tr c 1 (.of_exec hout fun _ _ _ => trivial)
  rw [heq] at hle
  exact absurd hle (by decide)

end RefundOps.Resolution
