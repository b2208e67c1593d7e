import RefundOps.Foundation.Client
import RefundOps.Foundation.Exchange
import RefundOps.Lib.Lists

/-!
# The answer to a call

A call of `A2AClient.submit` from end to end: over any run of the agents that are there, with any
arrivals from the topic of their results, in both of its attempts. A call that returns at all returns
what its target made of its request, and there is no other answer on the topic
(`submit_returns_the_answer`), although the request may be sent twice and handled any number of times.
-/

set_option autoImplicit false

namespace RefundOps.Exchange

open RefundOps.Runtime (AgentRuntime answerTo calledFor)

/-! ## What a call returns -/

section Returned

open RefundOps.Client (Call Trial Arrival scan matching doSubmit submit doSubmit_cases)

variable {Raw : Type} {taskResult : Raw → Option TaskResult} {call : Call} {t t' : Trial Raw}
  {result : TaskResult}

/-- A result that matches is among what arrives. -/
def Came (taskResult : Raw → Option TaskResult) (call : Call) (t : Trial Raw) (result : TaskResult) :
    Prop :=
  ∃ time raw, (time, .message raw) ∈ t.arrivals ∧ matching taskResult call raw = some result

theorem scan_answered {deadline now : Int} {arrivals : List (Int × Arrival Raw)}
    (h : scan taskResult call deadline arrivals now = .answered result) :
    ∃ time raw, (time, .message raw) ∈ arrivals ∧ matching taskResult call raw = some result := by
  induction arrivals generalizing now with
  | nil => cases h
  | cons a rest ih =>
    have hlater : ∀ {now : Int}, scan taskResult call deadline rest now = .answered result →
        ∃ time raw, (time, .message raw) ∈ a :: rest ∧
          matching taskResult call raw = some result := by
      intro now h
      obtain ⟨time, raw, hmem, hmatch⟩ := ih h
      exact ⟨time, raw, List.mem_cons_of_mem _ hmem, hmatch⟩
    obtain ⟨time, arrival⟩ := a
    unfold scan at h
    split at h
    · cases h
    cases arrival with
    | message raw =>
      dsimp only at h
      cases hmatch : matching taskResult call raw with
      | some r =>
        rw [hmatch] at h
        cases h
        exact ⟨time, raw, List.mem_cons_self, hmatch⟩
      | none =>
        rw [hmatch] at h
        exact hlater h
    | fault exc =>
      cases exc with
      | timeoutError msg => exact hlater h
      | other msg => cases h

theorem came_of_doSubmit (h : (doSubmit taskResult call t).2 = .ok result) :
    Came taskResult call t result := by
  rcases doSubmit_cases taskResult call t with ⟨exc, -, hout⟩ | ⟨-, -, exc, hout⟩ | ⟨-, hout⟩
  · rw [hout] at h
    cases h
  · rw [hout] at h
    cases h
  · rw [hout] at h
    dsimp only at h
    cases hstopped : t.consumerStopped with
    | error exc =>
      rw [hstopped] at h
      cases h
    | ok _ =>
      rw [hstopped] at h
      cases hverdict : t.verdict taskResult call with
      | answered r =>
        rw [hverdict] at h
        cases h
        exact scan_answered hverdict
      | expired | broken =>
        rw [hverdict] at h
        cases h

/-- **A call returns what came**, in one of its attempts. -/
theorem came_of_submit {span : Bool} (h : (submit taskResult call span t t').2 = .ok result) :
    Came taskResult call t result ∨ Came taskResult call t' result := by
  by_cases hretry : Client.Retried taskResult call span t
  · rw [Client.submit_of_retried hretry] at h
    exact .inr (came_of_doSubmit h)
  · rw [Client.submit_of_not_retried hretry] at h
    exact .inl (came_of_doSubmit h)

end Returned

/-! ## From end to end -/

section EndToEnd

open RefundOps.Client (Call Trial submit)

variable {ι : Type} {A : Agents ι} {tr : List (Turn ι)} {s : State ι} {i : ι}
  {call : Call} {t t' : Trial Runtime.Envelope} {result : TaskResult}

/-- The envelope of a result. -/
def resultEnvelope (ev : Runtime.ResultEvent) : Runtime.Envelope :=
  { eventId := ev.eventId, correlationId := ev.correlationId, payload := ev.result.modelDump }

/-- `TaskResult.model_validate(envelope.payload)`. -/
def readResult (e : Runtime.Envelope) : Option TaskResult := TaskResult.modelValidate e.payload

/-- What the client is handed is from the topic of results, or is none. -/
def Hears (s : State ι) (t : Trial Runtime.Envelope) : Prop :=
  ∀ time e, (time, .message e) ∈ t.arrivals →
    readResult e = none ∨ ∃ ev ∈ s.results, e = resultEnvelope ev

/-- The task of a call is that of no other request. -/
def Own (A : Agents ι) (s : State ι) (call : Call) : Prop :=
  ∀ i, ∀ e ∈ s.requests i, ∀ req, A.requestOf i e = some req →
    req.taskId = call.request.taskId → req = call.request

/-- Results are read as they were sent. -/
theorem Accounted.came (h : Accounted A tr s) (hears : Hears s t)
    (hcame : Came readResult call t result) :
    ∃ ev ∈ s.results, ev.result = result ∧ result.taskId = call.request.taskId := by
  obtain ⟨time, e, hmem, hmatch⟩ := hcame
  obtain ⟨hread, hid⟩ := Option.filter_eq_some_iff.mp hmatch
  rcases hears time e hmem with hnone | ⟨ev, hev, rfl⟩
  · rw [hnone] at hread
    cases hread
  · obtain ⟨turn, -, req, hanswers⟩ := h.results ev hev
    have hback : readResult (resultEnvelope ev) = some ev.result :=
      TaskResult.modelValidate_modelDump hanswers.onWire
    rw [hback] at hread
    exact ⟨ev, hev, Option.some.inj hread, beq_iff_eq.mp hid⟩

/-- A result for the task of a call is the answer of a turn of its target to its request. -/
theorem Accounted.answers (h : Accounted A tr s) (hown : Own A s call)
    (htarget : (A.runtime i).agentId = call.request.targetAgentId) {ev : Runtime.ResultEvent}
    (hev : ev ∈ s.results) (hid : ev.result.taskId = call.request.taskId) :
    ∃ turn ∈ tr, turn.agent = i ∧ Answers A turn call.request ev.result := by
  obtain ⟨turn, hturn, req, hanswers⟩ := h.results ev hev
  have hreq := hown _ _ (h.turns turn hturn) req hanswers.asked (hanswers.taskId.symm.trans hid)
  subst hreq
  refine ⟨turn, hturn, A.idsDiffer _ _ ?_, hanswers⟩
  exact (target_of_requestOf hanswers.asked).symm.trans htarget.symm

variable [DecidableEq ι]

/-- A task stays its own while nobody sends another request with its id. -/
theorem Own.step {turns : List (Turn ι)} {s' : State ι} {ch : Choice ι} (h : Own A s call)
    (hs : Stepped A s ch turns s')
    (hsub : ∀ sub, ch = .submit sub → sub.request.taskId = call.request.taskId →
      sub.request = call.request) : Own A s' call := by
  cases hs with
  | submitted sub =>
    intro i e he req hreq hid
    dsimp only at he
    split at he
    · rename_i htarget
      rcases List.mem_append.mp he with hold | hnew
      · exact h i e hold req hreq hid
      · obtain rfl := List.mem_singleton.mp hnew
        rw [requestOf_envelope htarget] at hreq
        obtain rfl := Option.some.inj hreq
        exact hsub sub rfl hid
    · exact h i e he req hreq hid
  | handled | restarted => exact h

theorem Own.of_exec {chs : List (Choice ι)} {tr' : List (Turn ι)} {s' : State ι} (h : Own A s call)
    (hsub : ∀ sub, .submit sub ∈ chs → sub.request.taskId = call.request.taskId →
      sub.request = call.request) (hexec : exec A chs s = some (tr', s')) : Own A s' call :=
  exec_induction (P := fun _ s => Own A s call) []
    (fun _ hch _ _ _ _ h hs => h.step (stepped_of_step hs) fun sub heq => hsub sub (heq ▸ hch))
    h hexec

/-- What a turn calls, its agent calls. -/
theorem mem_calls {turn : Turn ι} (hagent : turn.agent = i)
    (hcalled : turn.seen.filterMap calledFor = [call.request]) :
    call.request ∈ if turn.agent = i then turn.seen.filterMap calledFor else [] := by
  rw [if_pos hagent, hcalled]
  exact List.mem_singleton_self _

/-- Two turns that answer a request give it the same answer: they are one, or there is no handler. -/
theorem Answers.unique {turn turn' : Turn ι} {result result' : TaskResult}
    (honce : (callsOf tr i).countP (·.taskId == call.request.taskId) ≤ 1) (hturn : turn ∈ tr)
    (hturn' : turn' ∈ tr) (hagent : turn.agent = i) (hagent' : turn'.agent = i)
    (h : Answers A turn call.request result) (h' : Answers A turn' call.request result') :
    result = result' := by
  rw [h.result_eq, h'.result_eq]
  by_cases hhandler : call.request.capability ∈ (A.runtime i).handlers
  · have hcalled := h.called (by rwa [hagent])
    have hcalled' := h'.called (by rwa [hagent'])
    have hsame : turn = turn' := eq_of_flatMap_countP_le_one honce hturn hturn'
      (mem_calls hagent hcalled) (mem_calls hagent' hcalled') (beq_self_eq_true _)
      (beq_self_eq_true _)
    rw [hsame]
  · rw [hagent, hagent']
    exact answerTo_of_unhandled hhandler _

/-- **A call returns the one answer.** Where the target has room for the tasks it is asked to do and no
    agent that is started again misses a mark: a call that returns, in whichever attempt, returns what
    its target made of its request in one of its turns; every result for the task is that one; and a
    handler of the capability was called for the task in that turn and in no other. -/
theorem submit_returns_the_answer (h : Run A tr s)
    (htarget : (A.runtime i).agentId = call.request.targetAgentId)
    (hroom : (State.tasksOf A s i).card ≤ Runtime.trackerSize) (hown : Own A s call)
    (hears : Hears s t) (hears' : Hears s t') {span : Bool}
    (hreturned : (submit readResult call span t t').2 = .ok result) :
    (∃ turn ∈ tr, turn.agent = i ∧ Answers A turn call.request result) ∧
      (∀ ev ∈ s.results, ev.result.taskId = call.request.taskId → ev.result = result) ∧
      (call.request.capability ∈ (A.runtime i).handlers →
        (callsOf tr i).countP (·.taskId == call.request.taskId) = 1) := by
  have hacc := h.accounted
  have honce := (h.atMostOnce hroom fun e he req hreq => mem_tasksOf he hreq).once
    call.request.taskId
  have hcame : ∃ ev ∈ s.results, ev.result = result ∧ result.taskId = call.request.taskId :=
    (came_of_submit hreturned).elim (hacc.came hears) (hacc.came hears')
  obtain ⟨ev, hev, rfl, hid⟩ := hcame
  obtain ⟨turn, hturn, hagent, hanswers⟩ := hacc.answers hown htarget hev hid
  refine ⟨⟨turn, hturn, hagent, hanswers⟩, fun ev' hev' hid' => ?_, fun hhandler => ?_⟩
  · obtain ⟨turn', hturn', hagent', hanswers'⟩ := hacc.answers hown htarget hev' hid'
    exact hanswers'.unique honce hturn' hturn hagent' hagent hanswers
  · refine le_antisymm honce (List.countP_pos_iff.mpr ⟨call.request, ?_, beq_self_eq_true _⟩)
    have hcalled := hanswers.called (by rwa [hagent])
    exact List.mem_flatMap.mpr ⟨turn, hturn, mem_calls hagent hcalled⟩

end EndToEnd

/-! ### A request that is sent twice, and an agent that starts again between -/

open RefundOps.Client (Call Trial submit doSubmit publishRequest awaitResult awaitLoop_eq andFinally noResult scan
  matching)

theorem echo_declared : ∀ c ∈ ["billing.refund.analysis"], c ∈ ["billing.refund.analysis"] := by simp

def echoRuntime : AgentRuntime where
  agentId := "billing.agent"
  capabilityIds := ["billing.refund.analysis"]
  handlers := ["billing.refund.analysis"]
  declared := echo_declared

def echoAgents : Agents Unit where
  runtime := fun _ => echoRuntime
  validationError := fun _ => "validation error"
  idsDiffer := fun _ _ _ => rfl

theorem sampleCall_onWire : Client.sampleCall.request.OnWire := by
  refine ⟨by decide, fun p hp d hd => ?_, by simp [Client.sampleCall, Call.resolve]⟩
  obtain rfl := List.mem_singleton.mp hp
  cases hd

def sampleSubmission (eventId : UUID) : Submission where
  request := Client.sampleCall.request
  eventId
  correlationId := 2
  onWire := sampleCall_onWire

/-- The handler answers with what it was sent; the publication of the first result raises. -/
def echoing (sent : Except String Unit) (arrives : Bool) : Handling where
  now := 0
  answer := fun
    | .sendResult _ => sent
    | .sendAudit _ _ => .ok ()
    | .callHandler _ => .ok Client.sampleCall.request.input
    | .persist _ => .ok ()
  arrives
  onWire := fun _ _ h => Except.ok.inj h ▸ sampleCall_onWire.2

def echoBack : Runtime.World := { tracker := Runtime.rebuilt [1], now := 0, nextId := 7 }

/-- Sent and handled; then a restart, and sent and handled again. -/
def firstSchedule : List (Choice Unit) :=
  [.submit (sampleSubmission 10), .handle () 0 (echoing (.error "no acknowledgement") true)]

def secondSchedule : List (Choice Unit) :=
  [.submit (sampleSubmission 11), .handle () 1 (echoing (.ok ()) true)]

/-- A client that is handed everything on the topic of results, from the beginning. -/
def hearing (results : List Runtime.ResultEvent) : Trial Runtime.Envelope where
  producerStarted := .ok ()
  publication := .sent
  producerStopped := .ok ()
  consumerStarted := .ok ()
  opens := 0
  arrivals := results.map fun ev => (0, .message (resultEnvelope ev))
  consumerStopped := .ok ()

theorem hears_hearing {s : State Unit} : Hears s (hearing s.results) := by
  intro time e hmem
  obtain ⟨ev, hev, heq⟩ := List.mem_map.mp hmem
  cases heq
  exact .inr ⟨ev, hev, rfl⟩

/-- The first window passes in silence; the second attempt returns what it hears. -/
theorem submit_hearing {ev : Runtime.ResultEvent}
    (hread : readResult (resultEnvelope ev) = some ev.result) (hid : ev.result.taskId = 1) :
    (submit readResult Client.sampleCall true (hearing []) (hearing [ev])).2 = .ok ev.result := by
  have hmatch : matching readResult Client.sampleCall (resultEnvelope ev) = some ev.result := by
    unfold matching
    rw [hread, Option.filter_some, hid]
    rfl
  have hsilent : (doSubmit readResult Client.sampleCall (hearing [])).2 =
      .error (noResult Client.sampleCall) := by
    simp only [doSubmit, publishRequest, hearing, andFinally, awaitResult, awaitLoop_eq]
    rfl
  have hheard : (doSubmit readResult Client.sampleCall (hearing [ev])).2 = .ok ev.result := by
    simp only [doSubmit, publishRequest, hearing, andFinally, awaitResult, awaitLoop_eq,
      List.map_cons, List.map_nil]
    unfold scan
    rw [if_neg (by decide)]
    dsimp only
    rw [hmatch]
    rfl
  unfold submit
  rcases hout : doSubmit readResult Client.sampleCall (hearing []) with ⟨seen, out⟩
  rw [hout] at hsilent
  obtain rfl : out = _ := hsilent
  exact hheard

theorem submit_returns_the_answer_sample :
    ∃ tr s result, Run echoAgents tr s ∧ (s.requests ()).length = 2 ∧
      (submit readResult Client.sampleCall true (hearing []) (hearing s.results)).2 = .ok result ∧
      (callsOf tr ()).countP (·.taskId == 1) = 1 := by
  have hexec : ((exec echoAgents firstSchedule start).bind fun out =>
      (exec echoAgents secondSchedule
        { out.2 with worlds := Function.update out.2.worlds () echoBack }).map fun out' =>
          (marksOf out.1 (), (out'.2.requests ()).length,
            out'.2.results.map (·.result.taskId))) = some ([1], 2, [1]) := by
    decide +kernel
  obtain ⟨⟨tr, s⟩, hout, hrest⟩ := Option.bind_eq_some_iff.mp hexec
  obtain ⟨⟨tr', s'⟩, hout', heq⟩ := Option.map_eq_some_iff.mp hrest
  simp only [Prod.mk.injEq] at heq
  obtain ⟨hmarks, hrequests, hresults⟩ := heq
  obtain ⟨ev, hev, hid⟩ := List.map_eq_singleton_iff.mp hresults
  have hback : Choice.FindsMarks tr (.restart () echoBack) := by
    refine ⟨_, .refl _, ?_⟩
    rw [hmarks]
    rfl
  have hfirst : Run echoAgents tr s := by
    refine Run.nil.of_exec ?_ hout
    simp [firstSchedule, Choice.FindsMarks]
  have hagain : Run echoAgents tr
      { s with worlds := Function.update s.worlds () echoBack } := by
    simpa using hfirst.step _ hback rfl
  have hrun : Run echoAgents (tr ++ tr') s' := by
    refine hagain.of_exec ?_ hout'
    simp [secondSchedule, Choice.FindsMarks]
  have hown : Own echoAgents s Client.sampleCall := by
    refine Own.of_exec (s := start) ?_ ?_ hout
    · simp [Own, start]
    · simp [firstSchedule, sampleSubmission]
  have hown' : Own echoAgents s' Client.sampleCall := by
    refine Own.of_exec (s := { s with worlds := Function.update s.worlds () echoBack }) hown ?_ hout'
    simp [secondSchedule, sampleSubmission]
  have hroom : (State.tasksOf echoAgents s' ()).card ≤ Runtime.trackerSize := by
    refine (List.toFinset_card_le _).trans ((List.length_filterMap_le _ _).trans ?_)
    rw [hrequests]
    decide
  have hmem : ev ∈ s'.results := hev ▸ List.mem_singleton_self ev
  obtain ⟨turn, -, req, hanswers⟩ := hrun.accounted.results ev hmem
  have hreturned : (submit readResult Client.sampleCall true (hearing []) (hearing s'.results)).2 =
      .ok ev.result := by
    rw [hev]
    exact submit_hearing (TaskResult.modelValidate_modelDump hanswers.onWire) hid
  have hsilent : Hears s' (hearing []) := by
    intro time e hnone
    cases hnone
  exact ⟨_, s', _, hrun, hrequests, hreturned,
    (submit_returns_the_answer (i := ()) hrun rfl hroom hown' hsilent hears_hearing
      hreturned).2.2 (by decide)⟩

end RefundOps.Exchange
