import RefundOps.Resolution.Service

/-!
# Risk words outside the vocabulary

A risk opinion is a word. `normalize_risk_result` and `risk_result_handler` each hold a copy of the
vocabulary, and each leaves a word outside it to a number.

In the handler both numbers are the confidence: the level is low only below one half, and the
engine refuses what is below 0.6. So an unknown word is never approved. The dict may carry a score
beside the confidence, or neither, and then nothing ties the level to the certainty. Its numbers may
also be strings, and so NaN, which no comparison holds of. `FailsOpen` lists the dicts that come
through as low risk with nothing against them, and `unknown_words_iff` says that there are no others.
-/

set_option autoImplicit false

namespace RefundOps.Resolution

/-! ## What can be approved -/

/-- Nothing in the finding stands against an approval. -/
structure RiskFinding.Approvable (f : RiskFinding) : Prop where
  low : f.level = .low
  unreviewed : f.requiresHumanReview = false
  certain : ∀ s, f.score = some s → ¬ .fin (4 / 10) < s

theorem confident_score {triage : Triage} {b : BillingFinding} {r : RiskFinding} {s : Floating ℚ}
    (h : confidenceThreshold ≤ computeConfidence (some triage) (some b) (some r))
    (hs : r.score = some s) : ¬ .fin (4 / 10) < s := by
  intro hlt
  rw [← one_sub_threshold] at hlt
  have hbelow : computeConfidence (some triage) (some b) (some r) < confidenceThreshold :=
    (computeConfidence_lt threshold_pos threshold_le_one).mpr (.inr (.inr ⟨s, hs, hlt⟩))
  exact absurd h (not_le.mpr hbelow)

/-- A ticket that is plainly about a refund. -/
def certainRefund : Triage where
  needsRefundReview := true
  ambiguous := false
  rationale := "refund"

def plainlyEligible : BillingFinding where
  eligibility := .eligible

/-- **The engine approves on a risk finding exactly when nothing in it stands against it**, for
    some triage and billing finding. -/
theorem never_approved_iff (risk : Option RiskFinding) :
    (∀ triage billing status caseId ticketId customerId,
      (decide triage billing risk status caseId ticketId customerId).outcome ≠ .approveRefund) ↔
      ∀ r, risk = some r → ¬ r.Approvable := by
  constructor
  · rintro h r rfl hok
    refine h certainRefund (some plainlyEligible) none none "" "" ?_
    rw [decide_outcome_of rfl]
    have hconf : ¬ computeConfidence (some certainRefund) (some plainlyEligible) (some r) <
        confidenceThreshold := by
      rw [computeConfidence_lt threshold_pos threshold_le_one, one_sub_threshold]
      rintro (hone | ⟨x, hx, -⟩ | ⟨s, hs, hlt⟩)
      · exact absurd hone (not_lt.mpr threshold_le_one)
      · cases hx
      · exact hok.certain s hs hlt
    show jointOutcome certainRefund plainlyEligible r = _
    unfold jointOutcome
    rw [if_neg (by simp [hok.unreviewed, plainlyEligible]), if_neg hconf, hok.low]
    rfl
  · intro h triage billing status caseId ticketId customerId happ
    cases hn : triage.needsRefundReview with
    | false => simp [decide, hn] at happ
    | true =>
      rw [decide_outcome_of hn] at happ
      split at happ
      · cases happ
      · split at happ
        · rename_i b r
          obtain ⟨-, hlow, -, hunreviewed, hconf⟩ := jointOutcome_approve happ
          exact h r rfl ⟨hlow, hunreviewed, fun s hs => confident_score hconf hs⟩
        · cases happ

/-! ## The words -/

/-- The vocabulary of both copies. -/
def riskWords : List String := ["low", "approve", "acceptable", "elevated", "high", "deny", "block"]

theorem levelOf_eq_none_iff {word : String} : levelOf word = none ↔ word ∉ riskWords := by
  unfold levelOf riskWords
  grind

/-- The word of a risk result, in lower case: the recommendation, or else the risk. What is no
    string is printed, and nothing printed is in the vocabulary. -/
inductive UnknownWord (data : Json) : Prop where
  | recommendation (word : String) (h : data.get? "recommendation" = some (.str word))
      (hword : Text.lower word ∉ riskWords)
  | notAWord (j : Json) (h : data.get? "recommendation" = some j) (hj : ∀ word, j ≠ .str word)
  | risk (word : String) (hnone : data.get? "recommendation" = none)
      (h : data.get? "risk" = some (.str word)) (hword : Text.lower word ∉ riskWords)
  | printedRisk (j : Json) (hnone : data.get? "recommendation" = none)
      (h : data.get? "risk" = some j) (hj : ∀ word, j ≠ .str word)

/-- A field that is absent, or null, or a number with the property. -/
def NullOr (S : Settings) (P : Floating ℚ → Prop) (field : Option Json) : Prop :=
  field = none ∨ field = some .null ∨ ∃ j x, field = some j ∧ jsonFloat S j = some x ∧ P x

/-- The dicts that are read as low risk with nothing against them. -/
inductive FailsOpen (S : Settings) (data : Json) : Prop where
  /-- A word without a number: the level falls back to the score zero. -/
  | unscored (word : String) (h : data.get? "recommendation" = some (.str word))
      (hsummary : (jsonSummary (data.get? "reasoning_summary")).isSome = true)
      (hreview : jsonFlag (data.get? "requires_human_review") = false)
      (hscore : data.get? "score" = none) (hconf : data.get? "confidence" = none)
  /-- A score that is not at least one half, as NaN is not, and a confidence that is not low. -/
  | scored (word : String) (j : Json) (x : Floating ℚ) (h : data.get? "recommendation" = some (.str word))
      (hsummary : (jsonSummary (data.get? "reasoning_summary")).isSome = true)
      (hreview : jsonFlag (data.get? "requires_human_review") = false)
      (hscore : data.get? "score" = some j) (hx : jsonFloat S j = some x)
      (hlow : ¬ .fin (5 / 10) ≤ x) (hconf : NullOr S (.fin (6 / 10) ≤ ·) (data.get? "confidence"))
  /-- The stub shape: every word but two is low. -/
  | stub (hnone : data.get? "recommendation" = none)
      (hscore : NullOr S (¬ .fin (4 / 10) < ·) (data.get? "score"))

/-! ## The dicts -/

section Dicts

variable {S : Settings} {data : Json}

theorem riskLevelFromScore_eq_low_iff {x : Floating ℚ} :
    riskLevelFromScore x (5 / 10) (8 / 10) = .low ↔ ¬ .fin (5 / 10) ≤ x := by
  unfold riskLevelFromScore
  constructor
  · intro h
    split at h
    · cases h
    · split at h
      · cases h
      · rename_i hx
        exact hx
  · intro h
    have hhigh : ¬ .fin (8 / 10) ≤ x := fun hx => h (Floating.fin_le_trans (by norm_num) hx)
    rw [if_neg hhigh, if_neg h]

theorem uncertainty_iff {x : Floating ℚ} :
    ¬ .fin (4 / 10) < Floating.fin (uncertaintyFromConfidence x) ↔ .fin (6 / 10) ≤ x := by
  rw [← one_sub_threshold]
  exact certain_iff threshold_pos threshold_le_one

/-- What is low is not certain. -/
theorem not_low_and_certain {x : Floating ℚ} (hlow : ¬ .fin (5 / 10) ≤ x) : ¬ .fin (6 / 10) ≤ x :=
  fun hhigh => hlow (Floating.fin_le_trans (by norm_num) hhigh)

/-- The number that an unknown word leaves the level to. -/
def levelScore (S : Settings) (data : Json) : Option (Floating ℚ) :=
  match data.get? "score", data.get? "confidence" with
  | some j, _ => jsonFloat S j
  | none, some j => jsonFloat S j
  | none, none => some (.fin 0)

/-- The score that is stored: the confidence, turned round. -/
def storedScore (S : Settings) (data : Json) : Option (Option (Floating ℚ)) :=
  match data.get? "confidence" with
  | none => some none
  | some .null => some none
  | some j => (jsonFloat S j).map fun x => some (.fin (uncertaintyFromConfidence x))

/-- What is read off a dict with an unknown recommendation. -/
theorem normalizeRiskResult_unknown {word : String} (taskId : UUID) (performer : String)
    (h : data.get? "recommendation" = some (.str word)) (hword : Text.lower word ∉ riskWords) :
    normalizeRiskResult S taskId performer data =
      (levelScore S data).bind fun x => (storedScore S data).bind fun score =>
        (jsonSummary (data.get? "reasoning_summary")).bind fun summary => some
          { level := riskLevelFromScore x (5 / 10) (8 / 10)
            requiresHumanReview := jsonFlag (data.get? "requires_human_review")
            score, summary
            performerAgentId := performer
            taskId := some taskId } := by
  unfold normalizeRiskResult levelScore storedScore
  rw [h]
  dsimp only
  rw [levelOf_eq_none_iff.mpr hword]
  cases data.get? "score" with
  | none =>
    cases data.get? "confidence" with
    | none => rfl
    | some conf =>
      dsimp only
      cases jsonFloat S conf with
      | none => rfl
      | some x => cases conf <;> rfl
  | some score =>
    dsimp only
    cases jsonFloat S score with
    | none => rfl
    | some x =>
      cases data.get? "confidence" with
      | none => rfl
      | some conf => cases conf <;> rfl

/-- What is read off the stub shape with an unknown risk. -/
theorem normalizeRiskResult_stub {risk : Json} (taskId : UUID) (performer : String)
    (hnone : data.get? "recommendation" = none) (h : data.get? "risk" = some risk)
    (hrisk : ∀ word, risk = .str word → Text.lower word ∉ riskWords) :
    normalizeRiskResult S taskId performer data =
      (jsonOptFloat S (data.get? "score")).bind fun score => some
        { level := .low, score, performerAgentId := performer, taskId := some taskId } := by
  unfold normalizeRiskResult
  rw [hnone, h]
  cases risk with
  | str word =>
    have hword := hrisk word rfl
    have helevated : Text.lower word ≠ "elevated" := fun he => hword (by rw [he]; decide)
    have hhigh : Text.lower word ≠ "high" := fun he => hword (by rw [he]; decide)
    simp only [if_neg helevated, if_neg hhigh]
    rfl
  | null | bool | num | arr | obj => rfl

theorem jsonOptFloat_of_ne_null {j : Json} (hj : j ≠ .null) :
    jsonOptFloat S (some j) = (jsonFloat S j).map some := by
  cases j with
  | null => exact absurd rfl hj
  | bool | num | str | arr | obj => rfl

/-- A number that is read as it stands. -/
theorem nullOr_iff_jsonOptFloat {P : Floating ℚ → Prop} {field : Option Json} :
    NullOr S P field ↔
      ∃ score, jsonOptFloat S field = some score ∧ ∀ s, score = some s → P s := by
  constructor
  · rintro (rfl | rfl | ⟨j, x, rfl, hx, hP⟩)
    · exact ⟨none, rfl, nofun⟩
    · exact ⟨none, rfl, nofun⟩
    · have hj : j ≠ .null := by
        rintro rfl
        cases hx
      refine ⟨some x, ?_, fun s hs => Option.some.inj hs ▸ hP⟩
      rw [jsonOptFloat_of_ne_null hj, hx]
      rfl
  · rintro ⟨score, hscore, hP⟩
    cases field with
    | none => exact .inl rfl
    | some j =>
      by_cases hj : j = .null
      · exact .inr (.inl (congrArg some hj))
      · rw [jsonOptFloat_of_ne_null hj] at hscore
        obtain ⟨x, hx, rfl⟩ := Option.map_eq_some_iff.mp hscore
        exact .inr (.inr ⟨j, x, rfl, hx, hP x rfl⟩)

theorem storedScore_eq :
    storedScore S data =
      (jsonOptFloat S (data.get? "confidence")).map
        (·.map fun x => .fin (uncertaintyFromConfidence x)) := by
  unfold storedScore
  cases data.get? "confidence" with
  | none => rfl
  | some j =>
    by_cases hj : j = .null
    · rw [hj]
      rfl
    · rw [jsonOptFloat_of_ne_null hj, Option.map_map]
      split
      · rename_i heq
        cases heq
      · rename_i heq
        exact absurd (Option.some.inj heq) hj
      · rename_i heq
        rw [Option.some.inj heq]
        rfl

/-- The confidence, turned round, is small where the confidence is not. -/
theorem nullOr_iff_storedScore :
    NullOr S (.fin (6 / 10) ≤ ·) (data.get? "confidence") ↔
      ∃ score, storedScore S data = some score ∧ ∀ s, score = some s → ¬ .fin (4 / 10) < s := by
  rw [nullOr_iff_jsonOptFloat, storedScore_eq]
  constructor
  · rintro ⟨conf, hconf, hP⟩
    refine ⟨conf.map fun x => .fin (uncertaintyFromConfidence x), by rw [hconf]; rfl, ?_⟩
    intro s hs
    obtain ⟨x, rfl, rfl⟩ := Option.map_eq_some_iff.mp hs
    exact uncertainty_iff.mpr (hP x rfl)
  · rintro ⟨score, hscore, hP⟩
    obtain ⟨conf, hconf, rfl⟩ := Option.map_eq_some_iff.mp hscore
    refine ⟨conf, hconf, ?_⟩
    rintro x rfl
    exact uncertainty_iff.mp (hP _ rfl)

/-- A level from a score that is not at least one half, and a certainty of at least 0.6. -/
theorem scores_open_iff :
    ((∃ x, levelScore S data = some x ∧ ¬ .fin (5 / 10) ≤ x) ∧
        NullOr S (.fin (6 / 10) ≤ ·) (data.get? "confidence")) ↔
      (data.get? "score" = none ∧ data.get? "confidence" = none) ∨
        ∃ j x, data.get? "score" = some j ∧ jsonFloat S j = some x ∧ ¬ .fin (5 / 10) ≤ x ∧
          NullOr S (.fin (6 / 10) ≤ ·) (data.get? "confidence") := by
  unfold levelScore
  cases data.get? "score" with
  | some j =>
    simp only [Option.some.injEq, reduceCtorEq, false_and, false_or]
    constructor
    · rintro ⟨⟨x, hx, hlow⟩, hconf⟩
      exact ⟨j, x, rfl, hx, hlow, hconf⟩
    · rintro ⟨_, x, rfl, hx, hlow, hconf⟩
      exact ⟨⟨x, hx, hlow⟩, hconf⟩
  | none =>
    cases data.get? "confidence" with
    | none => norm_num [NullOr]
    | some conf =>
      -- the level and the certainty read the same number
      refine iff_of_false ?_ (by simp)
      rintro ⟨⟨x, hx, hlow⟩, hnone | hnull | ⟨j, y, hj, hy, hhigh⟩⟩
      · cases hnone
      · cases hnull
        cases hx
      · obtain rfl := Option.some.inj hj
        obtain rfl := Option.some.inj (hx.symm.trans hy)
        exact not_low_and_certain hlow hhigh

theorem approvable_of_recommendation {word : String} (taskId : UUID) (performer : String)
    (h : data.get? "recommendation" = some (.str word)) (hword : Text.lower word ∉ riskWords) :
    (∃ r, normalizeRiskResult S taskId performer data = some r ∧ r.Approvable) ↔
      ((∃ x, levelScore S data = some x ∧ ¬ .fin (5 / 10) ≤ x) ∧
        NullOr S (.fin (6 / 10) ≤ ·) (data.get? "confidence")) ∧
      (jsonSummary (data.get? "reasoning_summary")).isSome = true ∧
      jsonFlag (data.get? "requires_human_review") = false := by
  rw [normalizeRiskResult_unknown taskId performer h hword, nullOr_iff_storedScore]
  constructor
  · rintro ⟨r, hr, hok⟩
    obtain ⟨x, hx, hr⟩ := Option.bind_eq_some_iff.mp hr
    obtain ⟨score, hscore, hr⟩ := Option.bind_eq_some_iff.mp hr
    obtain ⟨summary, hsummary, hr⟩ := Option.bind_eq_some_iff.mp hr
    obtain rfl := Option.some.inj hr
    exact ⟨⟨⟨x, hx, riskLevelFromScore_eq_low_iff.mp hok.low⟩, score, hscore, hok.certain⟩,
      by rw [hsummary]; rfl, hok.unreviewed⟩
  · rintro ⟨⟨⟨x, hx, hlow⟩, score, hscore, hcertain⟩, hsummary, hreview⟩
    obtain ⟨summary, hsummary⟩ := Option.isSome_iff_exists.mp hsummary
    rw [hx, hscore, hsummary]
    exact ⟨_, rfl, riskLevelFromScore_eq_low_iff.mpr hlow, hreview, hcertain⟩

theorem approvable_of_stub {risk : Json} (taskId : UUID) (performer : String)
    (hnone : data.get? "recommendation" = none) (h : data.get? "risk" = some risk)
    (hrisk : ∀ word, risk = .str word → Text.lower word ∉ riskWords) :
    (∃ r, normalizeRiskResult S taskId performer data = some r ∧ r.Approvable) ↔
      NullOr S (¬ .fin (4 / 10) < ·) (data.get? "score") := by
  rw [normalizeRiskResult_stub taskId performer hnone h hrisk, nullOr_iff_jsonOptFloat]
  constructor
  · rintro ⟨r, hr, hok⟩
    obtain ⟨score, hscore, hr⟩ := Option.bind_eq_some_iff.mp hr
    obtain rfl := Option.some.inj hr
    exact ⟨score, hscore, hok.certain⟩
  · rintro ⟨score, hscore, hcertain⟩
    rw [hscore]
    exact ⟨_, rfl, rfl, rfl, hcertain⟩

theorem failsOpen_recommendation {word : String}
    (h : data.get? "recommendation" = some (.str word)) :
    FailsOpen S data ↔
      ((∃ x, levelScore S data = some x ∧ ¬ .fin (5 / 10) ≤ x) ∧
        NullOr S (.fin (6 / 10) ≤ ·) (data.get? "confidence")) ∧
      (jsonSummary (data.get? "reasoning_summary")).isSome = true ∧
      jsonFlag (data.get? "requires_human_review") = false := by
  rw [scores_open_iff]
  constructor
  · intro hopen
    cases hopen with
    | unscored word _ hsummary hreview hscore hconf =>
      exact ⟨.inl ⟨hscore, hconf⟩, hsummary, hreview⟩
    | scored word j x _ hsummary hreview hscore hx hlow hconf =>
      exact ⟨.inr ⟨j, x, hscore, hx, hlow, hconf⟩, hsummary, hreview⟩
    | stub hnone =>
      rw [hnone] at h
      cases h
  · rintro ⟨⟨hscore, hconf⟩ | ⟨j, x, hscore, hx, hlow, hconf⟩, hsummary, hreview⟩
    · exact .unscored word h hsummary hreview hscore hconf
    · exact .scored word j x h hsummary hreview hscore hx hlow hconf

theorem failsOpen_stub (hnone : data.get? "recommendation" = none) :
    FailsOpen S data ↔ NullOr S (¬ .fin (4 / 10) < ·) (data.get? "score") := by
  constructor
  · intro hopen
    cases hopen with
    | unscored word h | scored word _ _ h =>
      rw [hnone] at h
      cases h
    | stub _ hscore => exact hscore
  · exact .stub hnone

/-- **The dicts that come through as low risk with nothing against them.** -/
theorem failsOpen_iff (taskId : UUID) (performer : String) (h : UnknownWord data) :
    (∃ r, normalizeRiskResult S taskId performer data = some r ∧ r.Approvable) ↔
      FailsOpen S data := by
  cases h with
  | recommendation word h hword =>
    rw [approvable_of_recommendation taskId performer h hword, failsOpen_recommendation h]
  | notAWord j h hj =>
    have hnone : normalizeRiskResult S taskId performer data = none := by
      unfold normalizeRiskResult
      rw [h]
      cases j with
      | str word => exact absurd rfl (hj word)
      | null | bool | num | arr | obj => rfl
    refine iff_of_false (by simp [hnone]) ?_
    intro hopen
    cases hopen with
    | unscored word h' | scored word _ _ h' => exact hj word (Option.some.inj (h.symm.trans h'))
    | stub hnone =>
      rw [hnone] at h
      cases h
  | risk word hnone h hword =>
    rw [approvable_of_stub taskId performer hnone h (fun _ hw => Json.str.inj hw ▸ hword),
      failsOpen_stub hnone]
  | printedRisk j hnone h hj =>
    rw [approvable_of_stub taskId performer hnone h (fun word hw => absurd hw (hj word)),
      failsOpen_stub hnone]

end Dicts

/-! ## The payloads -/

/-- An unknown word in a payload is never cleared: what is low is not certain. -/
theorem riskFinding_unknown {payload : RiskReviewCompletedPayload} (taskId : UUID)
    (hword : Text.lower payload.recommendation ∉ riskWords) :
    ¬ (riskFinding payload taskId).Approvable := by
  intro hok
  have hlow : ¬ .fin (5 / 10) ≤ Floating.fin payload.confidence.val := by
    have hlevel := hok.low
    unfold riskFinding at hlevel
    rw [levelOf_eq_none_iff.mpr hword] at hlevel
    exact riskLevelFromScore_eq_low_iff.mp hlevel
  exact not_low_and_certain hlow (uncertainty_iff.mp (hok.certain _ rfl))

/-- A word nobody knows, with a confidence of 0.9 and no score: the level comes out high. -/
def confidentDict : Json :=
  .obj [("recommendation", .str "suspicious"), ("confidence", .num (9 / 10))]

/-- The same word alone. -/
def bareDict : Json := .obj [("recommendation", .str "suspicious")]

theorem suspicious_not_mem : Text.lower "suspicious" ∉ riskWords := by decide +kernel

/-- A score that is no number is as good as none. -/
example {S : Settings} (h : S.floatOfStr "nan" = some .nan) :
    FailsOpen S (.obj [("recommendation", .str "suspicious"), ("score", .str "nan")]) :=
  .scored "suspicious" (.str "nan") .nan rfl rfl rfl rfl h Floating.not_le_nan (.inl rfl)

end RefundOps.Resolution
