import RefundOps.Foundation.Envelope
import RefundOps.Foundation.Task

/-!
# The client

`A2AClient.submit`: publish a task request to the endpoint topic of an agent and wait for the result
that carries its task id, for `timeout_s` and no longer. A `Trial` is how the broker behaves during
one attempt: whether the producer starts, what comes of the publication, what arrives on the result
topic and when.

The wait polls, a second at a time at most. `awaitLoop_eq` says that the polling does not show: the
wait is one scan of what arrives up to the deadline.

The whole attempt runs inside a span. The span passes every exception on, the handler around it takes
every exception for one of the span, and the attempt is made again. **So a call sends its request
twice, and waits twice, whenever the first attempt fails after its request was sent**
(`submit_sends_once_iff` has the exact condition).
-/

set_option autoImplicit false

namespace RefundOps.Client

/-! ## The broker, during one attempt -/

inductive Exc where
  | timeoutError (msg : String)
  | other (msg : String)
  deriving DecidableEq, Repr

/-- What comes of a publication. The request can be on the topic although `publish` raises: an
    acknowledgement can be lost. -/
inductive Publication where
  | sent
  | raisedAfter (exc : Exc)
  | raisedBefore (exc : Exc)

inductive Arrival (Raw : Type) where
  | message (raw : Raw)
  | fault (exc : Exc)

structure Trial (Raw : Type) where
  producerStarted : Except Exc Unit
  publication : Publication
  producerStopped : Except Exc Unit
  consumerStarted : Except Exc Unit
  /-- When the wait begins. -/
  opens : Time
  /-- What `getone` yields, in order, each with the time from which it is there. -/
  arrivals : List (Time × Arrival Raw)
  consumerStopped : Except Exc Unit

/-! ## One attempt -/

/-- A call of `submit`, with the ids resolved. -/
structure Call where
  request : TaskRequest
  correlationId : UUID
  causationId : UUID
  topic : String
  timeout : Time

/-- The arguments of `submit`, and the ids that `uuid4` gives where one is missing. A request that
    has no cause is its own: it is caused by its correlation. -/
def Call.resolve (env requester targetAgentId capability : String) (input : A2AMessage)
    (correlationId causationId taskId : Option UUID) (timeout : Time) (newTaskId newId : UUID) :
    Call :=
  let resolvedCorrelationId := correlationId.getD newId
  { request :=
      { taskId := taskId.getD newTaskId, capability, requesterAgentId := requester, targetAgentId
        input }
    correlationId := resolvedCorrelationId
    causationId := causationId.getD resolvedCorrelationId
    topic := resolveTopic env "agent" targetAgentId "task.requested"
    timeout }

inductive Obs where
  | requestSent (request : TaskRequest) (correlationId causationId : UUID) (topic : String)
  | windowOpened (deadline : Time)
  | windowExpired

/-- `finally`: what is raised there replaces what was returned or raised before. -/
def andFinally {α : Type} (last : Except Exc Unit) (r : Except Exc α) : Except Exc α :=
  match last with
  | .ok () => r
  | .error exc => .error exc

section Attempt

variable {Raw : Type} (taskResult : Raw → Option TaskResult) (call : Call)

/-- The request is published, between the start and the stop of a producer. -/
def publishRequest (t : Trial Raw) : List Obs × Except Exc Unit :=
  let sent := Obs.requestSent call.request call.correlationId call.causationId call.topic
  match t.producerStarted with
  | .error exc => ([], .error exc)
  | .ok () =>
      match t.publication with
      | .raisedBefore exc => ([], andFinally t.producerStopped (.error exc))
      | .raisedAfter exc => ([sent], andFinally t.producerStopped (.error exc))
      | .sent => ([sent], andFinally t.producerStopped (.ok ()))

def noResult : Exc :=
  .timeoutError ("No result for task_id=" ++ uuidStr call.request.taskId ++ " within " ++
    Text.floatStr (call.timeout / microsPerSecond) ++ "s")

/-- The result in a message, if it is the one that is waited for. What cannot be parsed is passed
    over. -/
def matching (raw : Raw) : Option TaskResult :=
  (taskResult raw).filter fun result => result.taskId == call.request.taskId

/-- When a wait that begins at `now` is due: after a second, or at the deadline if that is sooner. -/
def due (deadline now : Int) : Int := now + min (deadline - now) microsPerSecond

theorem due_spec {deadline now : Int} (h : ¬ deadline - now ≤ 0) :
    now < due deadline now ∧ due deadline now ≤ deadline := by
  unfold due microsPerSecond
  omega

/-- The loop of `_await_result`, at the time `now`. A wait for the next message ends when the message
    is there, or else when it is due. -/
def awaitLoop (deadline : Int) (arrivals : List (Int × Arrival Raw)) (now : Int) :
    List Obs × Except Exc TaskResult :=
  if _ : deadline - now ≤ 0 then ([.windowExpired], .error (noResult call))
  else
    match arrivals with
    | [] =>
        if due deadline now ≥ deadline then ([.windowExpired], .error (noResult call))
        else awaitLoop deadline [] (due deadline now)
    | (time, arrival) :: rest =>
        if time ≤ due deadline now then
          match arrival with
          | .message raw =>
              match matching taskResult call raw with
              | some result => ([], .ok result)
              | none => awaitLoop deadline rest (max now time)
          | .fault (.timeoutError _) =>
              if max now time ≥ deadline then ([.windowExpired], .error (noResult call))
              else awaitLoop deadline rest (max now time)
          | .fault exc => ([], .error exc)
        else if due deadline now ≥ deadline then ([.windowExpired], .error (noResult call))
        else awaitLoop deadline ((time, arrival) :: rest) (due deadline now)
  termination_by (deadline - now).toNat + arrivals.length
  decreasing_by
    all_goals
      have hdue := due_spec ‹¬ deadline - now ≤ 0›
      simp only [List.length_cons, List.length_nil]
      omega

/-- `_await_result`. -/
def awaitResult (t : Trial Raw) : List Obs × Except Exc TaskResult :=
  match t.consumerStarted with
  | .error exc => ([], .error exc)
  | .ok () =>
      let deadline := t.opens + call.timeout
      let out := awaitLoop taskResult call deadline t.arrivals t.opens
      (.windowOpened deadline :: out.1, andFinally t.consumerStopped out.2)

/-- `_do_submit`. -/
def doSubmit (t : Trial Raw) : List Obs × Except Exc TaskResult :=
  match publishRequest call t with
  | (seen, .error exc) => (seen, .error exc)
  | (seen, .ok ()) =>
      let out := awaitResult taskResult call t
      (seen ++ out.1, out.2)

/-- `submit`, over the trials of a first and of a second attempt. The span is there unless its module
    cannot be imported. It runs its body and passes on what the body raises. -/
def submit (span : Bool) (t t' : Trial Raw) : List Obs × Except Exc TaskResult :=
  match doSubmit taskResult call t with
  | (seen, .ok result) => (seen, .ok result)
  | (seen, .error exc) =>
      if span then
        let out := doSubmit taskResult call t'
        (seen ++ out.1, out.2)
      else (seen, .error exc)

end Attempt

/-! ## The wait, without the polling -/

section Wait

variable {Raw : Type} {taskResult : Raw → Option TaskResult} {call : Call}

/-- How a wait ends. -/
inductive Verdict where
  | answered (result : TaskResult)
  | expired
  | broken (exc : Exc)

/-- What can be seen of a wait, and what it returns. -/
def Verdict.out (call : Call) : Verdict → List Obs × Except Exc TaskResult
  | .answered result => ([], .ok result)
  | .expired => ([.windowExpired], .error (noResult call))
  | .broken exc => ([], .error exc)

/-- The wait as one scan: the first result that matches, if nothing breaks before it and it is there
    by the deadline. -/
def scan (taskResult : Raw → Option TaskResult) (call : Call) (deadline : Int) :
    List (Int × Arrival Raw) → Int → Verdict
  | [], _ => .expired
  | (time, arrival) :: rest, now =>
      if deadline ≤ now ∨ deadline < time then .expired
      else
        match arrival with
        | .message raw =>
            match matching taskResult call raw with
            | some result => .answered result
            | none => scan taskResult call deadline rest (max now time)
        | .fault (.timeoutError _) => scan taskResult call deadline rest (max now time)
        | .fault exc => .broken exc

theorem scan_of_late {deadline now : Int} (arrivals : List (Int × Arrival Raw))
    (h : deadline ≤ now) : scan taskResult call deadline arrivals now = .expired := by
  cases arrivals with
  | nil => rfl
  | cons a rest => exact if_pos (.inl h)

/-- A wait that is not answered in time can as well begin when it was due. -/
theorem scan_due {deadline now time : Int} {arrival : Arrival Raw}
    {rest : List (Int × Arrival Raw)} (hopen : ¬ deadline - now ≤ 0)
    (hlate : ¬ time ≤ due deadline now) :
    scan taskResult call deadline ((time, arrival) :: rest) (due deadline now) =
      scan taskResult call deadline ((time, arrival) :: rest) now := by
  obtain ⟨hnow, hdue⟩ := due_spec hopen
  have hmax : max (due deadline now) time = max now time := by omega
  unfold scan
  rw [hmax]
  by_cases hout : deadline < time
  · rw [if_pos (.inr hout), if_pos (.inr hout)]
  · have hneither : ¬ (deadline ≤ due deadline now ∨ deadline < time) := by omega
    have hneither' : ¬ (deadline ≤ now ∨ deadline < time) := by omega
    rw [if_neg hneither, if_neg hneither']

/-- **The polling does not show.** -/
theorem awaitLoop_eq (deadline : Int) (arrivals : List (Int × Arrival Raw)) (now : Int) :
    awaitLoop taskResult call deadline arrivals now =
      (scan taskResult call deadline arrivals now).out call := by
  -- an arrival that a wait can still see is there by the deadline
  have hseen : ∀ {now time : Int}, ¬ deadline - now ≤ 0 → time ≤ due deadline now →
      ¬ (deadline ≤ now ∨ deadline < time) := by
    intro now time hopen htime
    obtain ⟨-, hdue⟩ := due_spec hopen
    omega
  fun_induction awaitLoop taskResult call deadline arrivals now with
  | case1 arrivals now hclosed =>
    rw [scan_of_late arrivals (by omega)]
    rfl
  | case2 => rfl
  | case3 now _ _ ih =>
    rw [ih]
    rfl
  | case4 now hopen time rest htime raw result hmatch =>
    unfold scan
    rw [if_neg (hseen hopen htime)]
    dsimp only
    rw [hmatch]
    rfl
  | case5 now hopen time rest htime raw hmatch ih =>
    rw [ih]
    conv => rhs; unfold scan
    rw [if_neg (hseen hopen htime)]
    dsimp only
    rw [hmatch]
  | case6 now hopen time rest htime msg hlate =>
    unfold scan
    rw [if_neg (hseen hopen htime)]
    dsimp only
    rw [scan_of_late rest hlate]
    rfl
  | case7 now hopen time rest htime msg hlate ih =>
    rw [ih]
    conv => rhs; unfold scan
    rw [if_neg (hseen hopen htime)]
  | case8 now hopen time rest htime exc hexc =>
    unfold scan
    rw [if_neg (hseen hopen htime)]
    cases exc with
    | timeoutError msg => exact absurd rfl (hexc msg)
    | other msg => rfl
  | case9 now hopen time arrival rest htime hlate =>
    unfold scan
    rw [if_pos (.inr (by omega))]
    rfl
  | case10 now hopen time arrival rest htime hlate ih => rw [ih, scan_due hopen htime]

end Wait

/-! ## What an attempt comes to -/

section Attempts

variable {Raw : Type}

/-- What keeps the request from being sent. -/
def Trial.refusal (t : Trial Raw) : Option Exc :=
  match t.producerStarted with
  | .error exc => some exc
  | .ok () =>
      match t.publication with
      | .raisedBefore exc =>
          match t.producerStopped with
          | .ok () => some exc
          | .error exc' => some exc'
      | _ => none

/-- The attempt comes to waiting for a result. -/
structure Trial.Waits (t : Trial Raw) : Prop where
  started : t.producerStarted = .ok ()
  sent : t.publication = .sent
  stopped : t.producerStopped = .ok ()
  listens : t.consumerStarted = .ok ()

/-- How the wait ends, if there is one. -/
def Trial.verdict (taskResult : Raw → Option TaskResult) (call : Call) (t : Trial Raw) : Verdict :=
  scan taskResult call (t.opens + call.timeout) t.arrivals t.opens

/-- The window passes without a result. -/
def Trial.Expires (taskResult : Raw → Option TaskResult) (call : Call) (t : Trial Raw) : Prop :=
  t.Waits ∧ t.verdict taskResult call = .expired

/-- The attempt gets its result. -/
def Trial.Answered (taskResult : Raw → Option TaskResult) (call : Call) (t : Trial Raw) : Prop :=
  t.Waits ∧ (∃ result, t.verdict taskResult call = .answered result) ∧ t.consumerStopped = .ok ()

def Exc.IsTimeout (exc : Exc) : Prop := ∃ msg, exc = .timeoutError msg

/-- An expired window is reported as such: the stop of the consumer does not raise something else. -/
def Trial.Reports (taskResult : Raw → Option TaskResult) (call : Call) (t : Trial Raw) : Prop :=
  t.Expires taskResult call → ∀ exc, t.consumerStopped = .error exc → exc.IsTimeout

def Obs.isRequest : Obs → Bool
  | .requestSent _ _ _ _ => true
  | _ => false

def Obs.isWindow : Obs → Bool
  | .windowOpened _ => true
  | _ => false

variable {taskResult : Raw → Option TaskResult} {call : Call} {t : Trial Raw}

theorem Trial.Waits.refusal (h : t.Waits) : t.refusal = none := by
  unfold Trial.refusal
  rw [h.started, h.sent]

/-- The request, as an observation. -/
def Call.sent (call : Call) : Obs :=
  .requestSent call.request call.correlationId call.causationId call.topic

/-- The three things an attempt can come to: the request is not sent, it is sent and nothing is waited
    for, or it is sent and waited for. -/
theorem doSubmit_cases (taskResult : Raw → Option TaskResult) (call : Call) (t : Trial Raw) :
    (∃ exc, t.refusal = some exc ∧ doSubmit taskResult call t = ([], .error exc)) ∨
    (t.refusal = none ∧ ¬ t.Waits ∧ ∃ exc, doSubmit taskResult call t = ([call.sent], .error exc)) ∨
    (t.Waits ∧ doSubmit taskResult call t =
      (call.sent :: .windowOpened (t.opens + call.timeout) ::
          ((t.verdict taskResult call).out call).1,
        andFinally t.consumerStopped ((t.verdict taskResult call).out call).2)) := by
  unfold doSubmit publishRequest Trial.refusal
  cases hstarted : t.producerStarted with
  | error exc => exact .inl ⟨exc, rfl, rfl⟩
  | ok _ =>
    cases hpub : t.publication with
    | raisedBefore exc =>
      cases hstopped : t.producerStopped with
      | ok _ => exact .inl ⟨exc, rfl, rfl⟩
      | error exc' => exact .inl ⟨exc', rfl, rfl⟩
    | raisedAfter exc =>
      have hnot : ¬ t.Waits := fun h => by
        rw [h.sent] at hpub
        cases hpub
      cases hstopped : t.producerStopped with
      | ok _ => exact .inr (.inl ⟨rfl, hnot, exc, rfl⟩)
      | error exc' => exact .inr (.inl ⟨rfl, hnot, exc', rfl⟩)
    | sent =>
      cases hstopped : t.producerStopped with
      | error exc =>
        have hnot : ¬ t.Waits := fun h => by
          rw [h.stopped] at hstopped
          cases hstopped
        exact .inr (.inl ⟨rfl, hnot, exc, rfl⟩)
      | ok _ =>
        cases hlistens : t.consumerStarted with
        | error exc =>
          have hnot : ¬ t.Waits := fun h => by
            rw [h.listens] at hlistens
            cases hlistens
          refine .inr (.inl ⟨rfl, hnot, exc, ?_⟩)
          simp only [andFinally, awaitResult, hlistens]
          rfl
        | ok _ =>
          refine .inr (.inr ⟨⟨hstarted, hpub, hstopped, hlistens⟩, ?_⟩)
          simp only [andFinally, awaitResult, hlistens, awaitLoop_eq]
          rfl

theorem Verdict.quiet (call : Call) (v : Verdict) :
    (v.out call).1.countP Obs.isRequest = 0 ∧ (v.out call).1.countP Obs.isWindow = 0 := by
  cases v <;> exact ⟨rfl, rfl⟩

theorem Verdict.expired_mem_iff (call : Call) (v : Verdict) :
    .windowExpired ∈ (v.out call).1 ↔ v = .expired := by
  cases v <;> simp [Verdict.out]

theorem Verdict.ok_iff {call : Call} {v : Verdict} :
    (∃ result, (v.out call).2 = .ok result) ↔ ∃ result, v = .answered result := by
  cases v <;> simp [Verdict.out]

theorem andFinally_ok_iff {α : Type} {last : Except Exc Unit} {r : Except Exc α} :
    (∃ a, andFinally last r = .ok a) ↔ last = .ok () ∧ ∃ a, r = .ok a := by
  cases last <;> simp [andFinally]

/-- What can be seen of an attempt. -/
structure Attempted (taskResult : Raw → Option TaskResult) (call : Call) (t : Trial Raw)
    (out : List Obs × Except Exc TaskResult) : Prop where
  requests : t.refusal = none → out.1.countP Obs.isRequest = 1
  refused : ∀ exc, t.refusal = some exc → out = ([], .error exc)
  windows : .windowExpired ∈ out.1 → out.1.countP Obs.isWindow = 1
  expired_iff : .windowExpired ∈ out.1 ↔ t.Expires taskResult call
  expired_out : t.Expires taskResult call →
    out.2 = andFinally t.consumerStopped (.error (noResult call))
  ok_iff : (∃ result, out.2 = .ok result) ↔ t.Answered taskResult call

theorem doSubmit_spec (taskResult : Raw → Option TaskResult) (call : Call) (t : Trial Raw) :
    Attempted taskResult call t (doSubmit taskResult call t) := by
  rcases doSubmit_cases taskResult call t with ⟨exc, href, hout⟩ | ⟨href, hnot, exc, hout⟩ |
      ⟨hwaits, hout⟩
  · have hnot : ¬ t.Waits := fun h => by
      rw [h.refusal] at href
      cases href
    rw [hout]
    refine ⟨fun h => ?_, fun exc' h => ?_, fun h => ?_, ?_, fun h => absurd h.1 hnot, ?_⟩
    · rw [href] at h
      cases h
    · rw [href] at h
      cases h
      rfl
    · cases h
    · exact iff_of_false List.not_mem_nil fun h => hnot h.1
    · refine iff_of_false ?_ fun h => hnot h.1
      rintro ⟨result, h⟩
      cases h
  · rw [hout]
    refine ⟨fun _ => rfl, fun exc' h => ?_, fun h => ?_, ?_, fun h => absurd h.1 hnot, ?_⟩
    · rw [href] at h
      cases h
    · cases List.mem_singleton.mp h
    · refine iff_of_false (fun h => ?_) fun h => hnot h.1
      cases List.mem_singleton.mp h
    · refine iff_of_false ?_ fun h => hnot h.1
      rintro ⟨result, h⟩
      cases h
  · have href := hwaits.refusal
    rw [hout]
    refine ⟨fun _ => ?_, fun exc' h => ?_, fun _ => ?_, ?_, fun h => ?_, ?_⟩
    · show (_ :: _ :: ((t.verdict taskResult call).out call).1).countP Obs.isRequest = 1
      rw [List.countP_cons_of_pos rfl, List.countP_cons_of_neg Bool.false_ne_true,
        (Verdict.quiet call _).1]
    · rw [href] at h
      cases h
    · show (_ :: _ :: ((t.verdict taskResult call).out call).1).countP Obs.isWindow = 1
      rw [List.countP_cons_of_neg Bool.false_ne_true, List.countP_cons_of_pos rfl,
        (Verdict.quiet call _).2]
    · have hmem := (Verdict.expired_mem_iff call (t.verdict taskResult call))
      constructor
      · intro h
        rcases List.mem_cons.mp h with h | h
        · cases h
        · rcases List.mem_cons.mp h with h | h
          · cases h
          · exact ⟨hwaits, hmem.mp h⟩
      · rintro ⟨-, hv⟩
        exact List.mem_cons_of_mem _ (List.mem_cons_of_mem _ (hmem.mpr hv))
    · rw [h.2]
      rfl
    · rw [andFinally_ok_iff, Verdict.ok_iff]
      exact ⟨fun h => ⟨hwaits, h.2, h.1⟩, fun h => ⟨h.2.2, h.2.1⟩⟩

/-- What a call should come to: one request at most, and an expired window is the only one and is
    reported. -/
def SendsOnce (out : List Obs × Except Exc TaskResult) : Prop :=
  out.1.countP Obs.isRequest ≤ 1 ∧
    (.windowExpired ∈ out.1 →
      (∃ exc, out.2 = .error exc ∧ exc.IsTimeout) ∧ out.1.countP Obs.isWindow = 1)

theorem andFinally_timeout_iff {α : Type} {last : Except Exc Unit} {exc : Exc}
    (hexc : exc.IsTimeout) :
    (∃ exc', (andFinally last (.error exc) : Except Exc α) = .error exc' ∧ exc'.IsTimeout) ↔
      ∀ exc', last = .error exc' → exc'.IsTimeout := by
  cases last with
  | ok _ =>
    refine iff_of_true ⟨exc, rfl, hexc⟩ fun exc' h => ?_
    cases h
  | error e =>
    constructor
    · rintro ⟨exc', h, ht⟩ exc'' h'
      cases h
      cases h'
      exact ht
    · intro h
      exact ⟨e, rfl, h e rfl⟩

/-- **A single attempt** sends once, and reports an expired window unless the stop of the consumer
    raises something else. -/
theorem sendsOnce_doSubmit_iff :
    SendsOnce (doSubmit taskResult call t) ↔ t.Reports taskResult call := by
  have h := doSubmit_spec taskResult call t
  have hone : (doSubmit taskResult call t).1.countP Obs.isRequest ≤ 1 := by
    cases href : t.refusal with
    | none => exact (h.requests href).le
    | some exc =>
      rw [h.refused exc href]
      exact Nat.zero_le 1
  have htimeout : t.Expires taskResult call →
      ((∃ exc, (doSubmit taskResult call t).2 = .error exc ∧ exc.IsTimeout) ↔
        ∀ exc, t.consumerStopped = .error exc → exc.IsTimeout) := by
    intro hexp
    rw [h.expired_out hexp]
    exact andFinally_timeout_iff ⟨_, rfl⟩
  constructor
  · rintro ⟨-, hreport⟩ hexp
    exact (htimeout hexp).mp (hreport (h.expired_iff.mpr hexp)).1
  · intro hreport
    refine ⟨hone, fun hmem => ?_⟩
    have hexp := h.expired_iff.mp hmem
    exact ⟨(htimeout hexp).mpr (hreport hexp), h.windows hmem⟩

/-- The attempt is made again. -/
def Retried (taskResult : Raw → Option TaskResult) (call : Call) (span : Bool) (t : Trial Raw) :
    Prop :=
  span = true ∧ ¬ t.Answered taskResult call

theorem submit_of_retried {span : Bool} (h : Retried taskResult call span t) (t' : Trial Raw) :
    submit taskResult call span t t' =
      ((doSubmit taskResult call t).1 ++ (doSubmit taskResult call t').1,
        (doSubmit taskResult call t').2) := by
  obtain ⟨hspan, hnot⟩ := h
  rw [← (doSubmit_spec taskResult call t).ok_iff] at hnot
  unfold submit
  rcases hout : doSubmit taskResult call t with ⟨seen, exc | result⟩
  · dsimp only
    rw [if_pos hspan]
  · rw [hout] at hnot
    exact absurd ⟨result, rfl⟩ hnot

theorem submit_of_not_retried {span : Bool} (h : ¬ Retried taskResult call span t)
    (t' : Trial Raw) : submit taskResult call span t t' = doSubmit taskResult call t := by
  unfold submit
  rcases hout : doSubmit taskResult call t with ⟨seen, exc | result⟩
  · dsimp only
    refine if_neg fun hspan => h ⟨hspan, ?_⟩
    rw [← (doSubmit_spec taskResult call t).ok_iff, hout]
    rintro ⟨result, hresult⟩
    cases hresult
  · rfl

end Attempts

/-- **When a call sends once.** If the attempt is made again, its request was not sent the first time,
    or it is not sent the second time and the second failure is a timeout if the first window had
    expired; and in the attempt that counts, an expired window is reported as such. -/
theorem submit_sends_once_iff {Raw : Type} (taskResult : Raw → Option TaskResult) (call : Call)
    (span : Bool) (t t' : Trial Raw) :
    SendsOnce (submit taskResult call span t t') ↔
      (Retried taskResult call span t →
        (t.refusal = none → ∃ exc, t'.refusal = some exc ∧
          (t.Expires taskResult call → exc.IsTimeout)) ∧ t'.Reports taskResult call) ∧
      (¬ Retried taskResult call span t → t.Reports taskResult call) := by
  by_cases hretry : Retried taskResult call span t
  · have h := doSubmit_spec taskResult call t
    have h' := doSubmit_spec taskResult call t'
    rw [submit_of_retried hretry]
    cases href : t.refusal with
    | some exc =>
      -- nothing was sent or waited for before, so the second attempt is the only one
      rw [h.refused exc href, List.nil_append]
      have hsecond := @sendsOnce_doSubmit_iff Raw taskResult call t'
      constructor
      · intro hsends
        exact ⟨fun _ => ⟨fun hc => absurd hc (Option.some_ne_none exc), hsecond.mp hsends⟩,
          fun hc => absurd hretry hc⟩
      · intro hcond
        exact hsecond.mpr (hcond.1 hretry).2
    | none =>
      cases href' : t'.refusal with
      | none =>
        refine iff_of_false (fun hsends => ?_) fun hcond => ?_
        · have hcount := hsends.1
          dsimp only at hcount
          rw [List.countP_append, h.requests href, h'.requests href'] at hcount
          exact absurd hcount (by decide)
        · obtain ⟨exc, hexc, -⟩ := (hcond.1 hretry).1 rfl
          cases hexc
      | some exc =>
        have hreports : t'.Reports taskResult call := by
          intro hexp
          rw [hexp.1.refusal] at href'
          cases href'
        rw [h'.refused exc href', List.append_nil]
        constructor
        · intro hsends
          refine ⟨fun _ => ⟨fun _ => ⟨exc, rfl, fun hexp => ?_⟩, hreports⟩, fun hc => absurd hretry hc⟩
          obtain ⟨⟨exc', hexc', htimeout⟩, -⟩ := hsends.2 (h.expired_iff.mpr hexp)
          cases hexc'
          exact htimeout
        · intro hcond
          obtain ⟨exc', hexc', htimeout⟩ := (hcond.1 hretry).1 rfl
          cases hexc'
          refine ⟨(h.requests href).le, fun hmem => ?_⟩
          exact ⟨⟨exc, rfl, htimeout (h.expired_iff.mp hmem)⟩, h.windows hmem⟩
  · rw [submit_of_not_retried hretry]
    constructor
    · intro hsends
      exact ⟨fun hc => absurd hc hretry, fun _ => sendsOnce_doSubmit_iff.mp hsends⟩
    · intro hcond
      exact sendsOnce_doSubmit_iff.mpr (hcond.2 hretry)

/-! ## A request without an answer -/

def sampleCall : Call :=
  .resolve "local" "customer.resolution" "billing.agent" "billing.refund.analysis"
    { role := .user
      parts := [{ type := .text, text := some "refund?", validateConditionalFields := rfl }]
      validatePartsNonempty := List.cons_ne_nil _ _ }
    none none none (30 * microsPerSecond) 1 2

/-- The broker works, and nobody answers. -/
def silentTrial : Trial Unit where
  producerStarted := .ok ()
  publication := .sent
  producerStopped := .ok ()
  consumerStarted := .ok ()
  opens := 0
  arrivals := []
  consumerStopped := .ok ()

theorem doSubmit_silent :
    doSubmit (fun _ => none) sampleCall silentTrial =
      ([sampleCall.sent, .windowOpened (30 * microsPerSecond), .windowExpired],
        .error (noResult sampleCall)) := by
  have hwait : awaitResult (fun _ => none) sampleCall silentTrial =
      ([.windowOpened (30 * microsPerSecond), .windowExpired], .error (noResult sampleCall)) := by
    unfold awaitResult
    simp only [silentTrial, awaitLoop_eq]
    rfl
  unfold doSubmit
  rw [hwait]
  rfl

/-- **It is sent again, and waited for again.** -/
theorem unanswered_request_is_sent_twice :
    let out := submit (fun _ => none) sampleCall true silentTrial silentTrial
    out.1.countP Obs.isRequest = 2 ∧ out.1.countP Obs.isWindow = 2 ∧ ¬ SendsOnce out := by
  intro out
  have hout : out = ([sampleCall.sent, .windowOpened (30 * microsPerSecond), .windowExpired,
      sampleCall.sent, .windowOpened (30 * microsPerSecond), .windowExpired],
      .error (noResult sampleCall)) := by
    show submit (fun _ => none) sampleCall true silentTrial silentTrial = _
    unfold submit
    rw [doSubmit_silent]
    rfl
  rw [hout]
  refine ⟨rfl, rfl, fun hsends => ?_⟩
  exact absurd hsends.1 (by decide)

end RefundOps.Client
