import RefundOps.Resolution.Properties.EndToEnd
import RefundOps.Workflow.Invariant

/-!
# Approvals of the whole workflow

The three agents together, with nothing assumed about what the peers send: a case is resolved without
a human only on what the two datasets have on record for the ticket that opened it, and approved only
if it is safe to. Loss, duplication and reordering of any message, failures of the broker that are
none, restarts of the peers and whatever the language models say cannot change that.

The resolution agent alone is sound on the results it has received (`published_soundly`). Those are
entries of the topics (`Run.received_before`), and the entries are what the peers said of that ticket
(`Run.faithful`).
-/

set_option autoImplicit false

namespace RefundOps.Workflow

open Resolution (LoopId billingPeer riskPeer billingFinding riskFinding jointOutcome reviewRequest
  OpeningsKept openingOf SafeApproval)

section Verdicts

variable {D : Deployment} {clock : Time} {r : Billing.RefundEligibilityRequest}
  {rr : Risk.RiskAssessmentRequest} {n : Option Billing.BillingNarrative}
  {rn : Option Risk.RiskNarrative} {u : UUID}

/-- Without a record the billing agent wants a human to look. -/
theorem facts_of_unreviewed
    (h : (billingFinding (billingVerdict D clock r n) u).requiresHumanReview = false) :
    ∃ facts, D.loadFacts r.purchaseReference r.customerId = some facts ∧
      billingVerdict D clock r n = Billing.analysis clock facts r n := by
  unfold billingVerdict at h ⊢
  split at h
  · cases h
  · rename_i facts hfacts
    exact ⟨facts, hfacts, rfl⟩

theorem signals_of_unreviewed
    (h : (riskFinding (riskVerdict D rr rn) u).requiresHumanReview = false) :
    ∃ signals, D.loadSignals rr.customerId = some signals ∧
      riskVerdict D rr rn = Risk.review signals rr none rn := by
  unfold riskVerdict at h ⊢
  split at h
  · cases h
  · rename_i signals hsignals
    exact ⟨signals, hsignals, rfl⟩

theorem unreviewed_of_automatic {triage : Resolution.Triage} {b : Resolution.BillingFinding}
    {f : Resolution.RiskFinding} (h : jointOutcome triage b f ≠ .escalateHuman) :
    b.requiresHumanReview = false ∧ f.requiresHumanReview = false := by
  unfold jointOutcome at h
  split at h
  · exact absurd rfl h
  · rename_i hreview
    simpa using hreview

end Verdicts

/-- What the datasets have on record for the ticket `t` of the case `k`, and that the peers were
    asked about it before. -/
structure OnRecord (D : Deployment) (before : List Event) (k : UUID)
    (t : SupportTicketCreatedPayload) (clock : Time) (facts : Billing.BillingFacts)
    (signals : Risk.RiskSignals) (r : Billing.RefundEligibilityRequest)
    (rr : Risk.RiskAssessmentRequest) : Prop where
  received : Resolution.TicketReceived (agentTrace before) k t
  facts : D.loadFacts t.ticketId t.customerId = some facts
  signals : D.loadSignals t.customerId = some signals
  purchase : AboutPurchase k t r
  customer : AboutCustomer k t rr
  billingAsked : .billing clock (.handlerCalled (reviewRequest D.settings billingPeer k t)) ∈ before
  riskAsked : ∃ clock', .risk clock' (.handlerCalled (reviewRequest D.settings riskPeer k t)) ∈ before

section Runs

variable {D : Deployment} {now : Time} {nextId : UUID} {tr : List Event} {s : State}
  {before after : List Event}

/-- A billing result that was received was the peer's, on a ticket whose record is still there. -/
theorem billingReviewed_of_received (hrun : Run D now nextId tr s) (hpre : before <+: tr)
    {e : Inbound BillingRefundAnalysisCompletedPayload}
    (he : (LoopId.billing, Resolution.Obs.received (.billingResult e)) ∈ agentTrace before) :
    BillingReviewed D before s.store e := by
  obtain ⟨b, a, rfl⟩ := List.append_of_mem (mem_agentTrace.mp he)
  obtain ⟨os, htr⟩ := hpre
  rw [List.append_assoc, List.cons_append] at htr
  obtain ⟨tr₀, s₀, hrun₀, ⟨l, rfl⟩, hon, hkept⟩ := hrun.received_before htr.symm
  have h := (hrun₀.faithful.billingResults e hon).mono
    (l ++ .agent .billing (.received (.billingResult e)) :: a) hkept
  rwa [← List.append_assoc] at h

theorem riskReviewed_of_received (hrun : Run D now nextId tr s) (hpre : before <+: tr)
    {e : Inbound RiskReviewCompletedPayload}
    (he : (LoopId.risk, Resolution.Obs.received (.riskResult e)) ∈ agentTrace before) :
    RiskReviewed D before s.store e := by
  obtain ⟨b, a, rfl⟩ := List.append_of_mem (mem_agentTrace.mp he)
  obtain ⟨os, htr⟩ := hpre
  rw [List.append_assoc, List.cons_append] at htr
  obtain ⟨tr₀, s₀, hrun₀, ⟨l, rfl⟩, hon, hkept⟩ := hrun.received_before htr.symm
  have h := (hrun₀.faithful.riskResults e hon).mono
    (l ++ .agent .risk (.received (.riskResult e)) :: a) hkept
  rwa [← List.append_assoc] at h

/-- Two tickets that opened one case are alike in all that a peer is told. -/
theorem CaseOpened.openingOf_eq {st : Resolution.InMemoryCaseStateStore} {k : UUID}
    {t t' : SupportTicketCreatedPayload} (h : CaseOpened tr st k t) (h' : CaseOpened tr st k t') :
    openingOf k t = openingOf k t' := by
  obtain ⟨c, hc, hop⟩ := h.stored
  obtain ⟨c', hc', hop'⟩ := h'.stored
  obtain rfl := Option.some.inj (hc.symm.trans hc')
  exact hop.symm.trans hop'

theorem AboutCustomer.of_openingOf {k : UUID} {t t' : SupportTicketCreatedPayload}
    {rr : Risk.RiskAssessmentRequest} (heq : openingOf k t = openingOf k t')
    (h : AboutCustomer k t' rr) : AboutCustomer k t rr := by
  simp only [openingOf, Resolution.Opening.mk.injEq, true_and] at heq
  obtain ⟨hticket, hcustomer, hamount, -⟩ := heq
  exact ⟨h.caseId, h.ticketId.trans hticket.symm, h.customerId.trans hcustomer.symm,
    h.amount.trans (congrArg some hamount.symm), h.metadata⟩

theorem reviewRequest_of_openingOf {k : UUID} {t t' : SupportTicketCreatedPayload}
    (heq : openingOf k t = openingOf k t') :
    reviewRequest D.settings riskPeer k t = reviewRequest D.settings riskPeer k t' := by
  have hop : (Resolution.openedCase k t).opening = (Resolution.openedCase k t').opening := heq
  exact Resolution.taskRequestFor_opening (.inr rfl) hop _

/-- What an automatic resolution was made of: the verdicts of the two peers on a ticket that is on
    record. -/
theorem onRecord_of_automatic (hrun : Run D now nextId tr s) {i : LoopId}
    {ev : Resolution.OutEvent} {d : CustomerResponseDecisionPayload}
    (htr : tr = before ++ .agent i (.published ev) :: after)
    (hd : ev.payload = .resolutionDecided d) (hauto : Resolution.Automatic d.outcome) :
    ∃ t clock facts signals r rr, OnRecord D before ev.correlationId t clock facts signals r rr ∧
      ∃ triage n rn bt rt, d.outcome = jointOutcome triage
        (billingFinding (Billing.analysis clock facts r n) bt)
        (riskFinding (Risk.review signals rr none rn) rt) := by
  have hagent : agentTrace tr = agentTrace before ++ (i, .published ev) :: agentTrace after := by
    rw [htr, agentTrace_append]
    rfl
  have hpre : before <+: tr := ⟨_, htr.symm⟩
  obtain ⟨earlier, later, c, at_, triage, b, f, hbefore, hsound⟩ :=
    Resolution.published_soundly hrun.agentRun hagent hd hauto
  have hearlier : earlier ⊆ agentTrace before := hbefore ▸ List.subset_append_left _ _
  -- the two findings are those of results on the topics
  obtain ⟨bt, -, -, -, eb, pb, heb, hkb, rfl, hrecb, -⟩ := hsound.billing
  obtain ⟨rt, -, -, -, er, pr, her, hkr, rfl, hrecr, -⟩ := hsound.risk
  obtain ⟨t, clock, r, n, hopened, hcalled, habout, hpb⟩ :=
    billingReviewed_of_received hrun hpre (hearlier hrecb)
  obtain ⟨t', clock', rr, rn, hopened', hcalled', habout', hpr⟩ :=
    riskReviewed_of_received hrun hpre (hearlier hrecr)
  obtain rfl := Option.some.inj (heb.symm.trans hpb)
  obtain rfl := Option.some.inj (her.symm.trans hpr)
  rw [hkb] at hopened hcalled habout
  rw [hkr] at hopened' hcalled' habout'
  -- both were asked about one ticket
  have hsame := hopened.openingOf_eq hopened'
  replace habout' := habout'.of_openingOf hsame
  rw [← reviewRequest_of_openingOf hsame] at hcalled'
  have hnothuman : d.outcome ≠ .escalateHuman := by
    intro heq
    rw [heq] at hauto
    simp [Resolution.Automatic] at hauto
  obtain ⟨hb, hr⟩ := unreviewed_of_automatic (hsound.outcome ▸ hnothuman)
  obtain ⟨facts, hfacts, hanalysis⟩ := facts_of_unreviewed hb
  obtain ⟨signals, hsignals, hreview⟩ := signals_of_unreviewed hr
  have houtcome := hsound.outcome
  rw [hanalysis, hreview] at houtcome
  rw [habout.purchaseReference, habout.customerId] at hfacts
  rw [habout'.customerId] at hsignals
  exact ⟨t, clock, facts, signals, r, rr,
    ⟨hopened.received, hfacts, hsignals, habout, habout', hcalled, clock', hcalled'⟩,
    triage, n, rn, bt, rt, houtcome⟩

/-- **Resolutions are on record.** In every run of the three agents, whenever a case is resolved
    without a human: a ticket was received for it, both datasets have a record for that ticket, both
    peers were asked about it before, and the outcome is the one of the refund rules on those facts
    and of the fraud score on those signals. If it is an approval, it is safe. -/
theorem resolutions_are_on_record (hrun : Run D now nextId tr s) {i : LoopId}
    {ev : Resolution.OutEvent} {d : CustomerResponseDecisionPayload}
    (htr : tr = before ++ .agent i (.published ev) :: after)
    (hd : ev.payload = .resolutionDecided d) (hauto : Resolution.Automatic d.outcome) :
    ∃ t clock facts signals r rr, OnRecord D before ev.correlationId t clock facts signals r rr ∧
      (∃ triage n rn bt rt, d.outcome = jointOutcome triage
        (billingFinding (Billing.analysis clock facts r n) bt)
        (riskFinding (Risk.review signals rr none rn) rt)) ∧
      (d.outcome = .approveRefund → SafeApproval clock facts signals rr) := by
  obtain ⟨t, clock, facts, signals, r, rr, hon, triage, n, rn, bt, rt, houtcome⟩ :=
    onRecord_of_automatic hrun htr hd hauto
  refine ⟨t, clock, facts, signals, r, rr, hon, ⟨triage, n, rn, bt, rt, houtcome⟩,
    fun happroved => ?_⟩
  obtain ⟨heligible, hlow, -, hquiet, -⟩ :=
    Resolution.jointOutcome_approve (houtcome.symm.trans happroved)
  obtain ⟨invoice, payment, happrovable⟩ :=
    Billing.evaluate_approve (Resolution.billingFinding_eligible heligible)
  have hcalm : (riskFinding (Risk.review signals rr none rn) rt).highRisk = false := by
    simp [Resolution.RiskFinding.highRisk, hlow, hquiet]
  exact Resolution.safeApproval_of_verdicts happrovable
    (Resolution.riskFinding_highRisk_iff.mp hcalm)

end Runs

/-! ### One refund -/

theorem sampleUuid5_lt (k : UUID) (name : String) :
    Resolution.sampleSettings.uuid5 k name < 2 ^ 128 := by
  simp only [Resolution.sampleSettings]
  split
  · norm_num
  split
  · norm_num
  · norm_num

/-- One purchase and one customer on record. -/
def sampleDeployment : Deployment where
  settings := Resolution.sampleSettings
  parsers := { floatOfStr := fun _ => none, decimalOfStr := fun _ => none, intOfStr := fun _ => none }
  validationError := fun _ => "ValidationError"
  loadFacts := fun reference customerId =>
    if reference = "T-1" ∧ customerId = "C-1" then some (Resolution.sampleFacts 10) else none
  loadSignals := fun customerId =>
    if customerId = "C-1" then some Resolution.sampleSignals else none
  uuid5_lt := sampleUuid5_lt

/-- Everything a peer sends arrives. -/
def smooth {Services : Type} (services : Services) (eventId : UUID) : Handling Services where
  now := 5 * microsPerDay
  services
  eventId
  arrives := true
  sendResult := fun _ => .ok ()
  sendAudit := fun _ _ => .ok ()
  persist := fun _ => .ok ()

def smoothBilling : Handling Billing.Services :=
  smooth { narrative := fun _ _ _ => none, publish := fun _ _ _ => .ok () } 200

def smoothRisk : Handling Risk.Services :=
  smooth { narrative := fun _ _ _ => none, publish := fun _ _ _ => .ok () } 300

def refundTicket : Inbound SupportTicketCreatedPayload :=
  { eventId := 100, correlationId := 1, payload := some (Resolution.sampleTicket "refund") }

/-- A ticket, its delegation, the two reviews, and the decision. -/
def refundSchedule : List Choice :=
  [.open refundTicket, .deliverTicket 0] ++
    List.replicate 3 (.answer .intake Resolution.grant) ++
    [.arrive .intake, .answer .intake Resolution.grant, .answer .intake Resolution.grant,
      .arrive .intake, .answer .intake Resolution.grant, .answer .intake Resolution.grant,
      .handleBilling 0 smoothBilling, .handleRisk 0 smoothRisk,
      .deliverRisk 0, .answer .risk Resolution.grant,
      .deliverBilling 0, .answer .billing Resolution.grant, .answer .billing Resolution.grant]

def approves : Event → Bool
  | .agent i o => Resolution.decides .approveRefund (i, o)
  | _ => false

theorem resolutions_are_on_record_sample :
    ∃ tr s before i ev d, Run sampleDeployment 0 1000 tr s ∧
      tr = before ++ [.agent i (.published ev)] ∧ ev.payload = .resolutionDecided d ∧
      d.outcome = .approveRefund ∧
      ∃ t clock facts signals r rr,
        OnRecord sampleDeployment before ev.correlationId t clock facts signals r rr ∧
        SafeApproval clock facts signals rr := by
  have hexec : ((exec sampleDeployment refundSchedule (start 0 1000)).map fun out =>
      out.1.getLast?.map approves) = some (some true) := by decide +kernel
  obtain ⟨⟨tr, s⟩, hout, heq⟩ := Option.map_eq_some_iff.mp hexec
  obtain ⟨x, hlast, hx⟩ := Option.map_eq_some_iff.mp heq
  obtain ⟨before, rfl⟩ := List.getLast?_eq_some_iff.mp hlast
  have hrun : Run sampleDeployment 0 1000 (before ++ [x]) s := by
    simpa using Run.nil.of_exec hout
  cases x with
  | agent i o =>
    obtain ⟨j, ev, d, heq, hd, happroved⟩ := Resolution.exists_of_decides hx
    cases heq
    obtain ⟨t, clock, facts, signals, r, rr, hrecord, -, hsafe⟩ :=
      resolutions_are_on_record hrun rfl hd (by simp [Resolution.Automatic, happroved])
    exact ⟨_, s, before, i, ev, d, hrun, rfl, hd, happroved, t, clock, facts, signals, r, rr,
      hrecord, hsafe happroved⟩
  | billing | risk => cases hx

end RefundOps.Workflow
