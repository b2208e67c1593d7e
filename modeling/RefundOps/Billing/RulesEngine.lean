import Mathlib.Algebra.Order.Field.Rat
import RefundOps.Billing.Models

/-!
# The refund rules

`entitlement_checker.py` and `rules_engine.py`. `evaluate` is a chain of gates, each of which
may return: missing facts, contradictory facts, the hard denials RP-001 and RP-002, heavy usage
RP-004, then the approval, and a review by a human when no rule applies. The recommendation of
each gate is a definition of its own.

`Ruling` lists the ways through the chain, each with the guards that lead there, and
`evaluate_ruling` says that there are no others. What is proved about `evaluate` is proved by
cases on it.
-/

set_option autoImplicit false

namespace RefundOps.Billing

/-! ## Entitlement -/

structure EntitlementCheck where
  granted : Bool
  used : Bool
  featureEnabled : Bool
  hasAccess : Bool
  mismatch : Bool
  summary : String

/-- The three ways in which an entitlement can contradict itself or its subscription. -/
def entitlementConflicts (entitlement : Entitlement) (subscription : Option Subscription) :
    List String :=
  (if entitlement.accessGranted = false ∧ entitlement.accessUsed = true then
    ["access_granted=False but access_used=True"] else []) ++
  (match subscription with
    | some s =>
        if entitlement.accountActive = true ∧ s.status = .cancelled then
          ["account_active=True but subscription.status='" ++ s.status.value ++ "'"] else []
    | none => []) ++
  (if entitlement.status = .revoked ∧ entitlement.featureEnabled = true then
    ["entitlement.status='revoked' but feature_enabled=True"] else [])

def checkEntitlement (facts : BillingFacts) : EntitlementCheck :=
  match facts.entitlement with
  | none =>
      { granted := false, used := false, featureEnabled := false, hasAccess := false
        mismatch := false
        summary := "No entitlement record found" }
  | some entitlement =>
      let granted := entitlement.accessGranted
      let used := entitlement.accessUsed
      let conflicts := entitlementConflicts entitlement facts.subscription
      { granted, used
        featureEnabled := entitlement.featureEnabled
        hasAccess := entitlement.accountActive
        mismatch := !conflicts.isEmpty
        summary :=
          if !conflicts.isEmpty then "Entitlement mismatch: " ++ Text.join "; " conflicts
          else if used && granted then "Access granted and used (value delivered)"
          else if granted && !used then "Access granted but not used (value not consumed)"
          else if !granted && !used then "Access not granted and not used (not delivered)"
          else "Entitlement state normal" }

def buildEntitlementEvidence (check : EntitlementCheck) : EvidenceItem :=
  { source := "entitlement"
    description := check.summary
    value := .obj
      [("granted", .bool check.granted), ("used", .bool check.used),
        ("feature_enabled", .bool check.featureEnabled), ("has_access", .bool check.hasAccess),
        ("mismatch", .bool check.mismatch)] }

/-! ## What the rules measure -/

/-- `(now - invoice.issued_at).days`. -/
def daysSinceInvoice (now : Time) (invoice : Invoice) : Int :=
  (now - invoice.issuedAt) / microsPerDay

def withinWindow (now : Time) (invoice : Invoice) : Bool :=
  daysSinceInvoice now invoice ≤ refundWindowDays

def borderlineWindow (now : Time) (invoice : Invoice) : Bool :=
  daysSinceInvoice now invoice = refundWindowDays

/-- The share of the allotment that was used; `0` where there is no positive allotment. -/
def usageRatio (usage : Option ProductUsage) : ℚ :=
  match usage with
  | some u => if u.allotmentUnits > 0 then u.usageUnits / u.allotmentUnits else 0
  | none => 0

def isHeavyUsage (usage : Option ProductUsage) : Bool := usageRatio usage > usageHeavyThreshold

def borderlineUsage (usage : Option ProductUsage) : Bool :=
  usage.isSome && |usageRatio usage - usageHeavyThreshold| < 1 / 10 ^ 9

/-- `_usage_level`. -/
def usageLevel (usageRatio : ℚ) : String :=
  if usageRatio > usageHeavyThreshold then "heavy"
  else if usageRatio ≥ 5 / 10 then "moderate"
  else "light"

/-- `delivered`: an absent entitlement counts as not delivered. -/
def delivered (facts : BillingFacts) : Bool :=
  match facts.entitlement with
  | some e => e.delivered
  | none => false

/-- Reversed in part, on a paid invoice. -/
def partlyReversed (invoice : Invoice) (payment : Payment) : Bool :=
  payment.reversedAmount > 0 && invoice.paid && payment.reversedAmount < payment.amount

def fullyReversed (payment : Payment) : Bool :=
  payment.reversedAmount ≥ payment.amount && payment.amount > 0

def contradictions (facts : BillingFacts) (invoice : Invoice) (payment : Payment) :
    List String :=
  (if partlyReversed invoice payment then
    ["payment.reversed_amount=" ++ Text.floatStr payment.reversedAmount ++ " > 0 " ++
      "on a paid invoice (partial reversal already applied)"] else []) ++
  (if facts.entitlement.isSome && (checkEntitlement facts).mismatch then
    [(checkEntitlement facts).summary] else [])

/-! ## Evidence -/

def entitlementEvidence (facts : BillingFacts) : List EvidenceItem :=
  if facts.entitlement.isSome then [buildEntitlementEvidence (checkEntitlement facts)] else []

def policyEvidence (description : String) (value : List (String × Json)) : EvidenceItem :=
  { source := "refund_policy", description, value := .obj value }

/-- The evidence at hand once the facts are complete and consistent. -/
def baseEvidence (now : Time) (facts : BillingFacts) (invoice : Invoice) (payment : Payment) :
    List EvidenceItem :=
  entitlementEvidence facts ++
  [{ source := "invoice"
     description := "Invoice issued " ++ toString (daysSinceInvoice now invoice) ++ " days ago"
     value := .obj
       [("invoice_id", .str invoice.invoiceId), ("issued_at", .str (isoformat invoice.issuedAt)),
         ("paid", .bool invoice.paid), ("days_since_issued", .num (daysSinceInvoice now invoice)),
         ("window_days", .num refundWindowDays)] },
   { source := "payment"
     description := "Payment capture and reversal status"
     value := .obj
       [("payment_id", .str payment.paymentId), ("captured", .bool payment.captured),
         ("amount", .num payment.amount), ("reversed_amount", .num payment.reversedAmount)] }] ++
  (match facts.subscription with
    | some s =>
        [{ source := "subscription"
           description := "Subscription status"
           value := .obj
             [("subscription_id", .str s.subscriptionId), ("status", .str s.status.value),
               ("term", .str s.term.value)] }]
    | none => []) ++
  (match facts.usage with
    | some u =>
        [{ source := "product_usage"
           description := "Usage ratio: " ++ Text.fixed 3 (usageRatio facts.usage) ++
             " (threshold=" ++ Text.floatStr usageHeavyThreshold ++ ")"
           value := .obj
             [("usage_units", .num u.usageUnits), ("allotment_units", .num u.allotmentUnits),
               ("usage_ratio", .num (Text.roundTo 6 (usageRatio facts.usage))),
               ("heavy_threshold", .num usageHeavyThreshold)] }]
    | none => [])

/-! ## The recommendation of each gate -/

/-- The data-completeness gate. -/
def missingFacts (facts : BillingFacts) : EligibilityRecommendation :=
  let missing := (if facts.invoice.isNone then ["invoice"] else []) ++
    (if facts.payment.isNone then ["payment"] else [])
  { recommendation := .requestMoreInformation
    confidence := ⟨2 / 10, by norm_num⟩
    evidence :=
      [policyEvidence "Data-completeness gate: missing required billing facts"
        [("missing", .arr (missing.map .str))]]
    policyReferences := []
    reasoningSummary := "Missing required billing facts: " ++ Text.join ", " missing ++ "."
    requiresHumanReview := true
    eligibleRefundAmount := 0
    subscriptionStatus := facts.subscriptionStatus
    invoiceStatus := "unknown"
    paymentStatus := "unknown"
    entitlementStatus := facts.entitlementStatus
    usageLevel := "unknown"
    refundWindowStatus := "unknown" }

/-- `"paid" if invoice.paid else "unpaid"`. -/
def invoiceStatus (invoice : Invoice) : String := if invoice.paid then "paid" else "unpaid"

/-- `"captured" if payment.captured else "uncaptured"`. -/
def paymentStatus (payment : Payment) : String :=
  if payment.captured then "captured" else "uncaptured"

/-- The contradiction gate. -/
def contradictory (now : Time) (facts : BillingFacts) (invoice : Invoice) (payment : Payment) :
    EligibilityRecommendation :=
  let conflicts := contradictions facts invoice payment
  { recommendation := .manualReview
    confidence := ⟨3 / 10, threeTenths_inBounds⟩
    evidence := entitlementEvidence facts ++
      conflicts.map fun c => policyEvidence "Contradiction gate" [("conflict", .str c)]
    policyReferences := ["contradiction-gate"]
    reasoningSummary :=
      "Contradictory billing signals detected: " ++ Text.join "; " conflicts ++ "."
    requiresHumanReview := true
    eligibleRefundAmount := 0
    subscriptionStatus := facts.subscriptionStatus
    invoiceStatus := invoiceStatus invoice
    paymentStatus := paymentStatus payment
    entitlementStatus := facts.entitlementStatus
    usageLevel := usageLevel (usageRatio facts.usage)
    refundWindowStatus := if withinWindow now invoice then "within" else "expired" }

/-- What the five denials have in common. -/
def denial (facts : BillingFacts) (confidence : Confidence) (evidence : List EvidenceItem)
    (policyReferences : List String)
    (reasoningSummary invoiceStatus paymentStatus usageLevel refundWindowStatus : String) :
    EligibilityRecommendation :=
  { recommendation := .denyRefund
    confidence, evidence, policyReferences, reasoningSummary
    requiresHumanReview := false
    eligibleRefundAmount := 0
    subscriptionStatus := facts.subscriptionStatus
    invoiceStatus, paymentStatus
    entitlementStatus := facts.entitlementStatus
    usageLevel, refundWindowStatus }

section Gates

variable (now : Time) (facts : BillingFacts) (invoice : Invoice) (payment : Payment)

/-- RP-001: outside the refund window. -/
def denyExpired : EligibilityRecommendation :=
  denial facts ⟨9 / 10, nineTenths_inBounds⟩
    (baseEvidence now facts invoice payment ++
      [policyEvidence "RP-001: outside refund window"
        [("days_since_invoice", .num (daysSinceInvoice now invoice)),
          ("window_days", .num refundWindowDays)]])
    ["RP-001"]
    ("Refund window expired: " ++ toString (daysSinceInvoice now invoice) ++
      " days since invoice (limit: " ++ toString refundWindowDays ++ " days — RP-001).")
    (invoiceStatus invoice) (paymentStatus payment) (usageLevel (usageRatio facts.usage)) "expired"

/-- RP-002: the invoice is unpaid. The payment is reported uncaptured whatever the record says. -/
def denyUnpaid : EligibilityRecommendation :=
  denial facts ⟨9 / 10, nineTenths_inBounds⟩
    (baseEvidence now facts invoice payment ++
      [policyEvidence "RP-002: invoice not paid"
        [("invoice_id", .str invoice.invoiceId), ("paid", .bool invoice.paid)]])
    ["RP-002"]
    "Invoice is unpaid; no refundable payment exists (RP-002)."
    "unpaid" "uncaptured" (usageLevel (usageRatio facts.usage)) "within"

/-- RP-002: the payment was not captured. -/
def denyUncaptured : EligibilityRecommendation :=
  denial facts ⟨9 / 10, nineTenths_inBounds⟩
    (baseEvidence now facts invoice payment ++
      [policyEvidence "RP-002: payment not captured"
        [("payment_id", .str payment.paymentId), ("captured", .bool payment.captured)]])
    ["RP-002"]
    "Payment not captured; no refundable charge exists (RP-002)."
    "paid" "uncaptured" (usageLevel (usageRatio facts.usage)) "within"

/-- RP-002: the payment was reversed in full. -/
def denyReversed : EligibilityRecommendation :=
  denial facts ⟨9 / 10, nineTenths_inBounds⟩
    (baseEvidence now facts invoice payment ++
      [policyEvidence "RP-002: payment already fully reversed"
        [("reversed_amount", .num payment.reversedAmount), ("amount", .num payment.amount)]])
    ["RP-002"]
    "Payment already fully reversed; refund already applied (RP-002)."
    "paid" "reversed" (usageLevel (usageRatio facts.usage)) "within"

/-- The active subscription that RP-005 cites beside heavy usage. -/
def activeSubscription : Option Subscription :=
  match facts.subscription with
  | some s => if s.status = .active then some s else none
  | none => none

/-- RP-004: heavy usage. -/
def denyHeavyUsage : EligibilityRecommendation :=
  denial facts (if borderlineUsage facts.usage then ⟨6 / 10, sixTenths_inBounds⟩ else ⟨9 / 10, nineTenths_inBounds⟩)
    (baseEvidence now facts invoice payment ++
      [policyEvidence "RP-004: heavy usage — materially weakens refund claim"
        [("usage_ratio", .num (Text.roundTo 6 (usageRatio facts.usage))),
          ("threshold", .num usageHeavyThreshold)]] ++
      (match activeSubscription facts with
        | some s =>
            [policyEvidence "RP-005: active subscription with heavy usage"
              [("status", .str s.status.value)]]
        | none => []))
    (["RP-004"] ++ if (activeSubscription facts).isSome then ["RP-005"] else [])
    ("Heavy usage (" ++ Text.fixed 3 (usageRatio facts.usage) ++ " > " ++
      Text.floatStr usageHeavyThreshold ++ ") materially weakens the refund claim (RP-004).")
    "paid" "captured" "heavy" "within"

/-- The evidence of the last two paths: RP-003 is cited wherever there is an entitlement. -/
def deliveryEvidence : List EvidenceItem :=
  baseEvidence now facts invoice payment ++
    if facts.entitlement.isSome then
      [policyEvidence ("RP-003: entitlement delivered=" ++ Text.boolStr (delivered facts))
        [("delivered", .bool (delivered facts)), ("approve_supporting", .bool !(delivered facts))]]
    else []

def deliveryReferences : List String := if facts.entitlement.isSome then ["RP-003"] else []

/-- The approval: full, of what has not been reversed yet. -/
def approve : EligibilityRecommendation :=
  let refs := ["RP-001", "RP-002"] ++ (if facts.entitlement.isSome then ["RP-003"] else []) ++
    (if facts.usage.isSome then ["RP-004"] else []) ++
    (if facts.subscription.isSome then ["RP-005"] else [])
  let parts :=
    ["Within refund window (" ++ toString (daysSinceInvoice now invoice) ++ "d ≤ " ++
        toString refundWindowDays ++ "d — RP-001)",
      "Invoice paid and payment captured (RP-002)"] ++
    (if facts.entitlement.isNone then ["No entitlement record (approve-supporting — RP-003)"]
      else ["Product not delivered (approve-supporting — RP-003)"]) ++
    (if facts.usage.isSome then
      ["Light usage (" ++ Text.fixed 3 (usageRatio facts.usage) ++ " — RP-004 does not fire)"]
      else []) ++
    (if borderlineWindow now invoice then
      ["Borderline: exactly " ++ toString refundWindowDays ++ " days since invoice " ++
        "(inclusive boundary — confidence lowered to 0.6)"] else [])
  { recommendation := .approveFullRefund
    confidence :=
      if borderlineWindow now invoice || borderlineUsage facts.usage then ⟨6 / 10, sixTenths_inBounds⟩
      else ⟨9 / 10, nineTenths_inBounds⟩
    evidence := deliveryEvidence now facts invoice payment
    policyReferences :=
      (deliveryReferences facts ++ refs.filter (· ∉ deliveryReferences facts)).eraseDups
    reasoningSummary := Text.join ". " parts ++ "."
    requiresHumanReview := false
    eligibleRefundAmount := Text.roundTo 2 (payment.amount - payment.reversedAmount)
    subscriptionStatus := facts.subscriptionStatus
    invoiceStatus := "paid"
    paymentStatus := "captured"
    entitlementStatus := facts.entitlementStatus
    usageLevel := usageLevel (usageRatio facts.usage)
    refundWindowStatus := if borderlineWindow now invoice then "within-borderline" else "within" }

/-- No rule applies: the product was delivered and nothing denies the refund. -/
def noApplicableRule : EligibilityRecommendation :=
  { recommendation := .manualReview
    confidence := ⟨2 / 10, by norm_num⟩
    evidence := deliveryEvidence now facts invoice payment ++
      [policyEvidence "No applicable policy rule resolved this case to a confident verdict"
        [("entitlement_delivered", .bool (delivered facts)),
          ("usage_ratio", .num (Text.roundTo 6 (usageRatio facts.usage))),
          ("within_window", .bool (withinWindow now invoice)),
          ("invoice_paid", .bool invoice.paid)]]
    policyReferences := (deliveryReferences facts).eraseDups
    reasoningSummary := "No applicable policy rule resolved the case to a confident verdict."
    requiresHumanReview := true
    eligibleRefundAmount := 0
    subscriptionStatus := facts.subscriptionStatus
    invoiceStatus := "paid"
    paymentStatus := "captured"
    entitlementStatus := facts.entitlementStatus
    usageLevel := usageLevel (usageRatio facts.usage)
    refundWindowStatus := "within" }

end Gates

/-! ## The chain -/

/-- `evaluate`. The request and the policy it is given are not looked at; `now` is the clock it
    reads. -/
def evaluate (now : Time) (facts : BillingFacts) (_request : RefundEligibilityRequest) :
    EligibilityRecommendation :=
  match facts.invoice, facts.payment with
  | some invoice, some payment =>
      if contradictions facts invoice payment ≠ [] then contradictory now facts invoice payment
      else if !withinWindow now invoice then denyExpired now facts invoice payment
      else if !invoice.paid then denyUnpaid now facts invoice payment
      else if !payment.captured then denyUncaptured now facts invoice payment
      else if fullyReversed payment then denyReversed now facts invoice payment
      else if isHeavyUsage facts.usage then denyHeavyUsage now facts invoice payment
      else if !delivered facts then approve now facts invoice payment
      else noApplicableRule now facts invoice payment
  | _, _ => missingFacts facts

/-! ## The ways through the chain -/

/-- The facts are complete and do not contradict one another. -/
structure Consistent (facts : BillingFacts) (invoice : Invoice) (payment : Payment) : Prop where
  hasInvoice : facts.invoice = some invoice
  hasPayment : facts.payment = some payment
  agree : contradictions facts invoice payment = []

/-- Neither RP-001 nor RP-002 denies the refund. -/
structure Refundable (now : Time) (invoice : Invoice) (payment : Payment) : Prop where
  within : withinWindow now invoice = true
  paid : invoice.paid = true
  captured : payment.captured = true
  kept : fullyReversed payment = false

inductive Ruling (now : Time) (facts : BillingFacts) : EligibilityRecommendation → Prop where
  | missing (h : facts.invoice = none ∨ facts.payment = none) : Ruling now facts (missingFacts facts)
  | contradictory {i : Invoice} {p : Payment} (hi : facts.invoice = some i)
      (hp : facts.payment = some p) (h : contradictions facts i p ≠ []) :
      Ruling now facts (contradictory now facts i p)
  | expired {i : Invoice} {p : Payment} (hc : Consistent facts i p)
      (h : withinWindow now i = false) : Ruling now facts (denyExpired now facts i p)
  | unpaid {i : Invoice} {p : Payment} (hc : Consistent facts i p)
      (hw : withinWindow now i = true) (h : i.paid = false) :
      Ruling now facts (denyUnpaid now facts i p)
  | uncaptured {i : Invoice} {p : Payment} (hc : Consistent facts i p)
      (hw : withinWindow now i = true) (hpaid : i.paid = true) (h : p.captured = false) :
      Ruling now facts (denyUncaptured now facts i p)
  | reversed {i : Invoice} {p : Payment} (hc : Consistent facts i p)
      (hw : withinWindow now i = true) (hpaid : i.paid = true) (hcap : p.captured = true)
      (h : fullyReversed p = true) : Ruling now facts (denyReversed now facts i p)
  | heavyUsage {i : Invoice} {p : Payment} (hc : Consistent facts i p)
      (hr : Refundable now i p) (h : isHeavyUsage facts.usage = true) :
      Ruling now facts (denyHeavyUsage now facts i p)
  | approve {i : Invoice} {p : Payment} (hc : Consistent facts i p) (hr : Refundable now i p)
      (hlight : isHeavyUsage facts.usage = false) (h : delivered facts = false) :
      Ruling now facts (approve now facts i p)
  | noRule {i : Invoice} {p : Payment} (hc : Consistent facts i p) (hr : Refundable now i p)
      (hlight : isHeavyUsage facts.usage = false) (h : delivered facts = true) :
      Ruling now facts (noApplicableRule now facts i p)

/-- **Every evaluation takes one of these ways.** -/
theorem evaluate_ruling (now : Time) (facts : BillingFacts) (request : RefundEligibilityRequest) :
    Ruling now facts (evaluate now facts request) := by
  unfold evaluate
  split
  · rename_i i p hi hp
    split
    · rename_i h
      exact .contradictory hi hp h
    rename_i hcontra
    have hc : Consistent facts i p := ⟨hi, hp, not_not.mp hcontra⟩
    split
    · rename_i h
      exact .expired hc (by simpa using h)
    rename_i hw
    have hw : withinWindow now i = true := by simpa using hw
    split
    · rename_i h
      exact .unpaid hc hw (by simpa using h)
    rename_i hpaid
    have hpaid : i.paid = true := by simpa using hpaid
    split
    · rename_i h
      exact .uncaptured hc hw hpaid (by simpa using h)
    rename_i hcap
    have hcap : p.captured = true := by simpa using hcap
    split
    · rename_i h
      exact .reversed hc hw hpaid hcap h
    rename_i hkept
    have hr : Refundable now i p := ⟨hw, hpaid, hcap, by simpa using hkept⟩
    split
    · rename_i h
      exact .heavyUsage hc hr h
    rename_i hlight
    have hlight : isHeavyUsage facts.usage = false := by simpa using hlight
    split
    · rename_i h
      exact .approve hc hr hlight (by simpa using h)
    · rename_i h
      exact .noRule hc hr hlight (by simpa using h)
  · rename_i hnone
    refine .missing ?_
    cases hi : facts.invoice with
    | none => exact .inl rfl
    | some i =>
      cases hp : facts.payment with
      | none => exact .inr rfl
      | some p => exact absurd hp (hnone i p hi)

/-! ## Approvals and denials -/

variable {now : Time} {facts : BillingFacts} {request : RefundEligibilityRequest}

/-- What an approval by the rules guarantees. -/
structure Approvable (now : Time) (facts : BillingFacts) (i : Invoice) (p : Payment) : Prop where
  consistent : Consistent facts i p
  refundable : Refundable now i p
  light : usageRatio facts.usage ≤ usageHeavyThreshold
  undelivered : delivered facts = false

/-- Of a positive payment on a paid invoice, neither reversed in part nor in full, nothing is
    reversed. -/
theorem Approvable.unreversed {i : Invoice} {p : Payment} (h : Approvable now facts i p)
    (hpos : 0 < p.amount) : p.reversedAmount ≤ 0 := by
  have hpart : partlyReversed i p = false := by
    have hagree := (List.append_eq_nil_iff.mp h.consistent.agree).1
    by_contra hp
    rw [if_pos (by simpa using hp)] at hagree
    cases hagree
  have hfull := h.refundable.kept
  simp only [partlyReversed, h.refundable.paid, Bool.and_true, Bool.and_eq_false_iff,
    decide_eq_false_iff_not, not_lt, gt_iff_lt] at hpart
  simp only [fullyReversed, ge_iff_le, gt_iff_lt, Bool.and_eq_false_iff, decide_eq_false_iff_not,
    not_le] at hfull
  rcases hpart with hpart | hpart
  · exact hpart
  · rcases hfull with hfull | hfull
    · exact absurd hpart (not_le.mpr hfull)
    · exact absurd hpos hfull

theorem Approvable.matched {i : Invoice} {p : Payment} (h : Approvable now facts i p) :
    (checkEntitlement facts).mismatch = false := by
  have hagree := (List.append_eq_nil_iff.mp h.consistent.agree).2
  cases he : facts.entitlement with
  | none =>
    unfold checkEntitlement
    rw [he]
  | some e =>
    by_contra hm
    rw [if_pos (by simpa [he] using hm)] at hagree
    cases hagree

theorem evaluate_approve
    (h : (evaluate now facts request).recommendation = .approveFullRefund) :
    ∃ i p, Approvable now facts i p := by
  have hruling := evaluate_ruling now facts request
  generalize evaluate now facts request = r at h hruling
  cases hruling with
  | @approve i p hc hr hlight hd =>
    refine ⟨i, p, hc, hr, ?_, hd⟩
    simpa [isHeavyUsage] using hlight
  | missing | contradictory | expired | unpaid | uncaptured | reversed | heavyUsage | noRule =>
    cases h

/-- The rules never recommend a partial refund. -/
theorem evaluate_ne_partial :
    (evaluate now facts request).recommendation ≠ .approvePartialRefund := by
  have hruling := evaluate_ruling now facts request
  intro h
  generalize evaluate now facts request = r at h hruling
  cases hruling <;> cases h

/-- RP-001 or RP-002 denies the refund: the facts pass the first two gates and not the next. -/
def HardDenied (now : Time) (facts : BillingFacts) : Prop :=
  ∃ i p, Consistent facts i p ∧ ¬ Refundable now i p

theorem Consistent.unique {i i' : Invoice} {p p' : Payment} (h : Consistent facts i p)
    (h' : Consistent facts i' p') : i = i' ∧ p = p' :=
  ⟨Option.some.inj (h.hasInvoice.symm.trans h'.hasInvoice),
    Option.some.inj (h.hasPayment.symm.trans h'.hasPayment)⟩

/-- A hard denial reports the usage as it is. It does not cite RP-004, however heavy the usage. -/
theorem evaluate_hardDenied (request : RefundEligibilityRequest) (h : HardDenied now facts) :
    let r := evaluate now facts request
    r.recommendation = .denyRefund ∧ r.usageLevel = usageLevel (usageRatio facts.usage) ∧
      "RP-004" ∉ r.policyReferences := by
  obtain ⟨i, p, hc, hdenied⟩ := h
  have hruling := evaluate_ruling now facts request
  generalize evaluate now facts request = r at hruling
  cases hruling with
  | missing h =>
    rw [hc.hasInvoice, hc.hasPayment] at h
    simp at h
  | @contradictory i' p' hi hp h =>
    obtain rfl := Option.some.inj (hc.hasInvoice.symm.trans hi)
    obtain rfl := Option.some.inj (hc.hasPayment.symm.trans hp)
    exact absurd hc.agree h
  | expired | unpaid | uncaptured | reversed =>
    exact ⟨rfl, rfl, by simp [denyExpired, denyUnpaid, denyUncaptured, denyReversed, denial]⟩
  | heavyUsage hc' hr | approve hc' hr | noRule hc' hr =>
    obtain ⟨rfl, rfl⟩ := hc.unique hc'
    exact absurd hr hdenied

/-- A denial asks for nobody, and is made with sufficient confidence. -/
theorem evaluate_deny (hdeny : (evaluate now facts request).recommendation = .denyRefund) :
    (evaluate now facts request).requiresHumanReview = false ∧
      6 / 10 ≤ (evaluate now facts request).confidence.val := by
  have hruling := evaluate_ruling now facts request
  generalize evaluate now facts request = r at hdeny hruling
  cases hruling with
  | expired => exact ⟨rfl, by norm_num [denyExpired, denial]⟩
  | unpaid => exact ⟨rfl, by norm_num [denyUnpaid, denial]⟩
  | uncaptured => exact ⟨rfl, by norm_num [denyUncaptured, denial]⟩
  | reversed => exact ⟨rfl, by norm_num [denyReversed, denial]⟩
  | heavyUsage =>
    refine ⟨rfl, ?_⟩
    simp only [denyHeavyUsage, denial]
    split <;> norm_num
  | missing | contradictory | approve | noRule => cases hdeny

/-- A denial that is not a hard one cites RP-004, and neither RP-001 nor RP-002. -/
theorem evaluate_deny_usage (hdeny : (evaluate now facts request).recommendation = .denyRefund)
    (hsoft : ¬ HardDenied now facts) :
    "RP-004" ∈ (evaluate now facts request).policyReferences ∧
      "RP-001" ∉ (evaluate now facts request).policyReferences ∧
      "RP-002" ∉ (evaluate now facts request).policyReferences := by
  have hruling := evaluate_ruling now facts request
  generalize evaluate now facts request = r at hdeny hruling
  cases hruling with
  | @expired i p hc h => exact absurd ⟨i, p, hc, fun hr => by simp [hr.within] at h⟩ hsoft
  | @unpaid i p hc _ h => exact absurd ⟨i, p, hc, fun hr => by simp [hr.paid] at h⟩ hsoft
  | @uncaptured i p hc _ _ h => exact absurd ⟨i, p, hc, fun hr => by simp [hr.captured] at h⟩ hsoft
  | @reversed i p hc _ _ _ h => exact absurd ⟨i, p, hc, fun hr => by simp [hr.kept] at h⟩ hsoft
  | heavyUsage =>
    simp only [denyHeavyUsage, denial]
    split <;> simp
  | missing | contradictory | approve | noRule => cases hdeny

theorem usageLevel_eq_heavy_iff {ratio : ℚ} :
    usageLevel ratio = "heavy" ↔ usageHeavyThreshold < ratio := by
  unfold usageLevel
  split
  · rename_i h
    exact iff_of_true rfl h
  · rename_i h
    refine iff_of_false ?_ h
    split <;> simp

end RefundOps.Billing
