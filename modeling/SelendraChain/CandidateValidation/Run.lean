import SelendraChain.CandidateValidation.FromChainState

/-!
# The candidate-validation subsystem's loop

Source: `src/node/core/candidate-validation/src/lib.rs`, lines 88-161 (`run`) and 474-502
(`Metrics::on_validation_event`).

`run` takes one message at a time from the overseer with `ctx.recv().await?`. It ignores
`ActiveLeaves` and `BlockFinalized`, returns `Ok(())` at `Conclude`, and serves a
`ValidateFromChainState` or `ValidateFromExhaustive` request by awaiting its validation,
counting the verdict in the metrics and sending it on the request's `response_sender`. When
`recv` fails (the overseer's channel is gone) `?` returns its `Err`. When the validation itself
returns `Err` (a dropped runtime-API reply, a refused `spawn_blocking`, or a blocking task that
sent nothing) the loop returns that `Err`, and the request's sender is dropped unanswered. The
loop is modelled over what `recv` has yielded so far, messages and errors alike:
`LoopOutcome.waiting` means it is all handled and the next `recv` has not completed.

* service in order — whatever the inbox and the answers, the loop serves the requests before
  the first `Conclude` or `recv` error one after another, each validation on the trace the
  previous one left, and sends one response per served request, in arrival order; it stops at
  `Conclude`, at a failed `recv`, or at the first request whose validation returns `Err`, which
  gets no response; nothing after the stop is sent or answered (`run_answers_in_order`).
* failure — the loop returns `Err` only when `recv` yielded it, or when one of the last
  request's runtime-API replies was dropped or its blocking task sent nothing (`Canceled`), or
  its blocking task was refused (`run_failed_stoppedAt`).
* metrics — registered counters grow, label by label, by exactly the responses sent with that
  validity; a request that ends the loop is counted nowhere (`run_counts_responses`).

The response channels are named by their requester; whether a requester still listens only
decides whether `send` is delivered, and the loop goes on either way. The timers of
`Metrics` and the logging are left out.
-/

set_option autoImplicit false

namespace SelendraChain.CandidateValidation
open Cv

/-- `OverseerSignal`; the loop reads no payload of `ActiveLeaves` or `BlockFinalized`. -/
inductive OverseerSignal where
  | activeLeaves
  | blockFinalized
  | conclude
  deriving DecidableEq, Repr

/-- `CandidateValidationMessage`; `responseSender` names the request's oneshot sender. -/
inductive CandidateValidationMessage where
  | validateFromChainState (descriptor : CandidateDescriptor) (pov : PoV) (responseSender : Nat)
  | validateFromExhaustive (persistedValidationData : PersistedValidationData)
      (validationCode : ValidationCode) (descriptor : CandidateDescriptor) (pov : PoV)
      (responseSender : Nat)
  deriving DecidableEq, Repr

def CandidateValidationMessage.responseSender : CandidateValidationMessage → Nat
  | .validateFromChainState _ _ responseSender => responseSender
  | .validateFromExhaustive _ _ _ _ responseSender => responseSender

inductive FromOverseer where
  | signal (signal : OverseerSignal)
  | communication (msg : CandidateValidationMessage)
  deriving DecidableEq, Repr

/-- The counter vector `validation_requests`, by its `validity` label. -/
structure MetricsInner where
  validationRequests : String → Nat

/-- `with_label_values(&[label]).inc()`. -/
def MetricsInner.inc (inner : MetricsInner) (label : String) : MetricsInner :=
  ⟨fun l => if l = label then inner.validationRequests l + 1 else inner.validationRequests l⟩

/-- `Metrics(Option<MetricsInner>)`: `None` when no registry was given. -/
structure Metrics where
  inner : Option MetricsInner

/-- The label `on_validation_event` counts a verdict under. -/
def validationLabel : Except ValidationFailed ValidationResult → String
  | .ok (.valid _ _) => "valid"
  | .ok (.invalid _) => "invalid"
  | .error _ => "validation failure"

def Metrics.onValidationEvent (metrics : Metrics)
    (event : Except ValidationFailed ValidationResult) : Metrics :=
  ⟨metrics.inner.map (·.inc (validationLabel event))⟩

/-- The validation a request's arm of the loop awaits. -/
def handleRequest (prims : Primitives) :
    CandidateValidationMessage → Cv (Except ValidationFailed ValidationResult)
  | .validateFromChainState descriptor pov _ => spawnValidateFromChainState prims descriptor pov
  | .validateFromExhaustive persistedValidationData validationCode descriptor pov _ =>
    spawnValidateExhaustive prims persistedValidationData validationCode descriptor pov

/-- What the loop has done: the trace of its requests to the runtime API, its blocking tasks
and their backend calls, the responses it sent, in order, with their requesters, and its
metrics. -/
structure LoopState where
  sent : List Effect
  responses : List (Nat × Except ValidationFailed ValidationResult)
  metrics : Metrics

/-- `SubsystemResult<()>` once the loop returns, or `waiting` for the next message. -/
inductive LoopOutcome where
  | returned (result : Except SubsystemError Unit)
  | waiting
  deriving Repr

/-- The loop over `inbox`, what successive `ctx.recv().await` calls yield: a message, or the
`Err` that `?` returns. -/
def run (prims : Primitives) (env : Collaborators) :
    List (SubsystemResult FromOverseer) → LoopState → LoopOutcome × LoopState
  | [], s => (.waiting, s)
  | .error e :: _, s => (.returned (.error e), s)
  | .ok (.signal .activeLeaves) :: inbox, s => run prims env inbox s
  | .ok (.signal .blockFinalized) :: inbox, s => run prims env inbox s
  | .ok (.signal .conclude) :: _, s => (.returned (.ok ()), s)
  | .ok (.communication request) :: inbox, s =>
    match handleRequest prims request env s.sent with
    | (.ok x, sent) =>
      run prims env inbox
        { sent, responses := s.responses ++ [(request.responseSender, x)]
          metrics := s.metrics.onValidationEvent x }
    | (.error e, sent) => (.returned (.error e), { s with sent })

/-- The requests among `messages`, in order. -/
def requestsOf (messages : List FromOverseer) : List CandidateValidationMessage :=
  messages.filterMap fun
    | .communication request => some request
    | .signal _ => none

@[simp] theorem requestsOf_nil : requestsOf [] = [] := rfl

@[simp] theorem requestsOf_signal (signal : OverseerSignal) (messages : List FromOverseer) :
    requestsOf (.signal signal :: messages) = requestsOf messages := rfl

@[simp] theorem requestsOf_communication (request : CandidateValidationMessage)
    (messages : List FromOverseer) :
    requestsOf (.communication request :: messages) = request :: requestsOf messages := rfl

/-! ### One message -/

section Step

variable (prims : Primitives) (env : Collaborators) (inbox : List (SubsystemResult FromOverseer))
  (s : LoopState)

theorem run_recvFailed (e : SubsystemError) :
    run prims env (.error e :: inbox) s = (.returned (.error e), s) :=
  rfl

theorem run_activeLeaves :
    run prims env (.ok (.signal .activeLeaves) :: inbox) s = run prims env inbox s :=
  rfl

theorem run_blockFinalized :
    run prims env (.ok (.signal .blockFinalized) :: inbox) s = run prims env inbox s :=
  rfl

theorem run_conclude :
    run prims env (.ok (.signal .conclude) :: inbox) s = (.returned (.ok ()), s) :=
  rfl

variable {prims env inbox s}

theorem run_served {request : CandidateValidationMessage}
    {x : Except ValidationFailed ValidationResult} {sent : List Effect}
    (validated : handleRequest prims request env s.sent = (.ok x, sent)) :
    run prims env (.ok (.communication request) :: inbox) s =
      run prims env inbox
        { sent, responses := s.responses ++ [(request.responseSender, x)]
          metrics := s.metrics.onValidationEvent x } := by
  simp only [run, validated]

theorem run_stopped {request : CandidateValidationMessage} {e : SubsystemError}
    {sent : List Effect} (failed : handleRequest prims request env s.sent = (.error e, sent)) :
    run prims env (.ok (.communication request) :: inbox) s =
      (.returned (.error e), { s with sent }) := by
  simp only [run, failed]

end Step

/-! ### A request's validation -/

section Request

variable (prims : Primitives) (env : Collaborators)

theorem handleRequest_grows (request : CandidateValidationMessage) :
    Grows (handleRequest prims request) := by
  cases request with
  | validateFromChainState descriptor pov _ =>
    exact spawnValidateFromChainState_grows prims descriptor pov
  | validateFromExhaustive data code descriptor pov _ =>
    exact spawnValidateExhaustive_grows prims descriptor data code pov

variable {prims env}

/-- A request's validation returns `Err` only at a dropped runtime-API reply, a blocking task
that sent nothing or a refused `spawn_blocking` of its own part of the trace. -/
theorem handleRequest_error {request : CandidateValidationMessage} {sent sent' : List Effect}
    {e : SubsystemError} (failed : handleRequest prims request env sent = (.error e, sent')) :
    ∃ i, sent.length ≤ i ∧ StoppedAt env sent' i e := by
  cases request with
  | validateFromChainState descriptor pov _ => exact spawnValidateFromChainState_error failed
  | validateFromExhaustive data code descriptor pov _ =>
    obtain ⟨rfl, stopped⟩ := spawnValidateExhaustive_error failed
    exact ⟨sent.length, le_refl _, stopped⟩

end Request

/-- `requests` served one after another from the trace `sent`: each validation runs on the
trace the previous one left and returns `Ok`, and its verdict goes to its requester. -/
inductive Served (prims : Primitives) (env : Collaborators) :
    List Effect → List CandidateValidationMessage →
      List (Nat × Except ValidationFailed ValidationResult) → List Effect → Prop
  | nil (sent : List Effect) : Served prims env sent [] [] sent
  | cons {sent sent' sent'' : List Effect} {request : CandidateValidationMessage}
      {verdict : Except ValidationFailed ValidationResult}
      {requests : List CandidateValidationMessage}
      {responses : List (Nat × Except ValidationFailed ValidationResult)}
      (validated : handleRequest prims request env sent = (.ok verdict, sent'))
      (rest : Served prims env sent' requests responses sent'') :
      Served prims env sent (request :: requests)
        ((request.responseSender, verdict) :: responses) sent''

namespace Served

variable {prims : Primitives} {env : Collaborators} {sent sent' : List Effect}
  {requests : List CandidateValidationMessage}
  {responses : List (Nat × Except ValidationFailed ValidationResult)}

/-- Each served request is answered once, on its own sender, in order. -/
theorem senders (served : Served prims env sent requests responses sent') :
    responses.map Prod.fst = requests.map CandidateValidationMessage.responseSender := by
  induction served with
  | nil => rfl
  | cons _ _ ih => simp only [List.map_cons, ih]

theorem grows (served : Served prims env sent requests responses sent') :
    ∃ more, sent' = sent ++ more := by
  induction served with
  | nil sent => exact ⟨[], (List.append_nil sent).symm⟩
  | @cons sent sent₁ _ request _ _ _ validated _ ih =>
    obtain ⟨more, rfl⟩ := ih
    obtain ⟨first, extended⟩ := handleRequest_grows prims request env sent
    rw [validated] at extended
    exact ⟨first ++ more, by rw [show sent₁ = sent ++ first from extended, List.append_assoc]⟩

end Served

/-! ### Whole runs -/

section Runs

variable (prims : Primitives) (env : Collaborators)

/-- How a run over `inbox` ended after serving the messages `pre`, whose requests left the
trace `sent`: it waits at the end of the inbox, returned `Ok(())` at the `Conclude` right after
`pre`, returned the `Err` that `recv` yielded right after `pre`, or returned the `Err` of the
request right after `pre`. -/
def Ended (inbox : List (SubsystemResult FromOverseer)) (pre : List FromOverseer)
    (sent : List Effect) (out : LoopOutcome × LoopState) : Prop :=
  out.1 = .waiting ∧ inbox = pre.map .ok ∧ out.2.sent = sent ∨
    (∃ post, out.1 = .returned (.ok ()) ∧ inbox = pre.map .ok ++ .ok (.signal .conclude) :: post ∧
      out.2.sent = sent) ∨
    (∃ e post, out.1 = .returned (.error e) ∧ inbox = pre.map .ok ++ .error e :: post ∧
      out.2.sent = sent) ∨
    ∃ request e post, out.1 = .returned (.error e) ∧
      inbox = pre.map .ok ++ .ok (.communication request) :: post ∧
      handleRequest prims request env sent = (.error e, out.2.sent)

variable {prims env}

theorem Ended.cons {inbox : List (SubsystemResult FromOverseer)} {pre : List FromOverseer}
    {sent : List Effect} {out : LoopOutcome × LoopState} (msg : FromOverseer)
    (ended : Ended prims env inbox pre sent out) :
    Ended prims env (.ok msg :: inbox) (msg :: pre) sent out := by
  rcases ended with ⟨waits, rfl, traced⟩ | ⟨post, concludes, rfl, traced⟩ |
    ⟨e, post, fails, rfl, traced⟩ | ⟨request, e, post, fails, rfl, failed⟩
  · exact .inl ⟨waits, rfl, traced⟩
  · exact .inr (.inl ⟨post, concludes, rfl, traced⟩)
  · exact .inr (.inr (.inl ⟨e, post, fails, rfl, traced⟩))
  · exact .inr (.inr (.inr ⟨request, e, post, fails, rfl, failed⟩))

variable (prims env)

/-- The loop serves the requests of a prefix `pre` of the inbox that holds no `Conclude`, and
then ends as `Ended` says. -/
theorem run_decompose (inbox : List (SubsystemResult FromOverseer)) (s : LoopState) :
    ∃ (pre : List FromOverseer)
      (responses : List (Nat × Except ValidationFailed ValidationResult)) (sent : List Effect),
      FromOverseer.signal .conclude ∉ pre ∧ Served prims env s.sent (requestsOf pre) responses sent ∧
      (run prims env inbox s).2.responses = s.responses ++ responses ∧
      Ended prims env inbox pre sent (run prims env inbox s) := by
  induction inbox generalizing s with
  | nil => exact ⟨[], [], s.sent, nofun, .nil _, (List.append_nil _).symm, .inl ⟨rfl, rfl, rfl⟩⟩
  | cons received inbox ih =>
    rcases received with e | msg
    · exact ⟨[], [], s.sent, nofun, .nil _, (List.append_nil _).symm,
        .inr (.inr (.inl ⟨e, inbox, rfl, rfl, rfl⟩))⟩
    cases msg with
    | signal signal =>
      cases signal
      case conclude =>
        exact ⟨[], [], s.sent, nofun, .nil _, (List.append_nil _).symm,
          .inr (.inl ⟨inbox, rfl, rfl, rfl⟩)⟩
      -- `ActiveLeaves` and `BlockFinalized` are skipped: the served prefix grows by them
      all_goals
        obtain ⟨pre, responses, sent, noConclude, served, responded, ended⟩ := ih s
        refine ⟨.signal _ :: pre, responses, sent, ?_, served, responded, ended.cons _⟩
        rintro (_ | ⟨_, mem⟩)
        exact noConclude mem
    | communication request =>
      rcases validated : handleRequest prims request env s.sent with ⟨_ | verdict, sent₁⟩
      · rw [run_stopped validated]
        exact ⟨[], [], s.sent, nofun, .nil _, (List.append_nil _).symm,
          .inr (.inr (.inr ⟨request, _, inbox, rfl, rfl, validated⟩))⟩
      rw [run_served validated]
      obtain ⟨pre, responses, sent, noConclude, served, responded, ended⟩ := ih
        { sent := sent₁, responses := s.responses ++ [(request.responseSender, verdict)]
          metrics := s.metrics.onValidationEvent verdict }
      refine ⟨.communication request :: pre, (request.responseSender, verdict) :: responses, sent,
        ?_, .cons validated served, by rw [responded, List.append_assoc]; rfl, ended.cons _⟩
      rintro (_ | ⟨_, mem⟩)
      exact noConclude mem

/-- Whatever `recv` yields and whatever the runtime API, the spawner, the tasks and the backend
answer, the loop serves the requests before the first `Conclude` or `recv` error one after
another, each validation on the trace the previous one left, and sends one response per served
request, on that request's sender, in arrival order. It stops at `Conclude`, at the end of what
`recv` yielded, at a `recv` error, or at the first request whose validation returns `Err`: that
request gets no response, and nothing after the stop is validated or answered. -/
theorem run_answers_in_order (inbox : List (SubsystemResult FromOverseer)) (s : LoopState) :
    ∃ (pre : List FromOverseer)
      (responses : List (Nat × Except ValidationFailed ValidationResult)) (sent : List Effect),
      FromOverseer.signal .conclude ∉ pre ∧ Served prims env s.sent (requestsOf pre) responses sent ∧
      responses.map Prod.fst = (requestsOf pre).map CandidateValidationMessage.responseSender ∧
      (run prims env inbox s).2.responses = s.responses ++ responses ∧
      ((run prims env inbox s).1 = .waiting ∧ inbox = pre.map .ok ∧
          (run prims env inbox s).2.sent = sent ∨
        (∃ post, (run prims env inbox s).1 = .returned (.ok ()) ∧
          inbox = pre.map .ok ++ .ok (.signal .conclude) :: post ∧
          (run prims env inbox s).2.sent = sent) ∨
        (∃ e post, (run prims env inbox s).1 = .returned (.error e) ∧
          inbox = pre.map .ok ++ .error e :: post ∧ (run prims env inbox s).2.sent = sent) ∨
        ∃ request e post, (run prims env inbox s).1 = .returned (.error e) ∧
          inbox = pre.map .ok ++ .ok (.communication request) :: post ∧
          handleRequest prims request env sent = (.error e, (run prims env inbox s).2.sent)) := by
  obtain ⟨pre, responses, sent, noConclude, served, responded, ended⟩ :=
    run_decompose prims env inbox s
  exact ⟨pre, responses, sent, noConclude, served, served.senders, responded, ended⟩

/-- The loop returns `Err` only when `recv` yielded that `Err` after a run of messages, or when,
in the part of the trace this run sent, a runtime-API reply was dropped or a spawned blocking
task sent nothing (`Canceled`), or `spawn_blocking` was refused (the context's error). -/
theorem run_failed_stoppedAt (inbox : List (SubsystemResult FromOverseer)) (s : LoopState)
    {e : SubsystemError} (failed : (run prims env inbox s).1 = .returned (.error e)) :
    (∃ (pre : List FromOverseer) (post : List (SubsystemResult FromOverseer)),
        inbox = pre.map .ok ++ .error e :: post) ∨
      ∃ i, s.sent.length ≤ i ∧ StoppedAt env (run prims env inbox s).2.sent i e := by
  obtain ⟨pre, responses, sent, -, served, -, ended⟩ := run_decompose prims env inbox s
  rcases ended with ⟨waits, -, -⟩ | ⟨post, concludes, -, -⟩ | ⟨e', post, received, yielded, -⟩ |
    ⟨request, e', post, fails, -, stopped⟩
  · nomatch waits.symm.trans failed
  · nomatch concludes.symm.trans failed
  · cases received.symm.trans failed
    exact .inl ⟨pre, post, yielded⟩
  · cases fails.symm.trans failed
    obtain ⟨i, later, stoppedAt⟩ := handleRequest_error stopped
    obtain ⟨more, rfl⟩ := served.grows
    exact .inr ⟨i, by simp only [List.length_append] at later; omega, stoppedAt⟩

/-- With registered metrics, each counter of `validation_requests` grows by exactly the number
of responses the loop sent whose verdict carries its label (`valid`, `invalid` or `validation
failure`); a request whose validation ends the loop is counted under no label. -/
theorem run_counts_responses (inbox : List (SubsystemResult FromOverseer)) (s : LoopState)
    (inner : MetricsInner)
    (registered : s.metrics.inner = some inner) :
    ∃ (responses : List (Nat × Except ValidationFailed ValidationResult)) (inner' : MetricsInner),
      (run prims env inbox s).2.responses = s.responses ++ responses ∧
      (run prims env inbox s).2.metrics.inner = some inner' ∧
      ∀ label, inner'.validationRequests label = inner.validationRequests label +
        responses.countP fun response => validationLabel response.2 = label := by
  induction inbox generalizing s inner with
  | nil => exact ⟨[], inner, (List.append_nil _).symm, registered, fun _ => rfl⟩
  | cons received inbox ih =>
    rcases received with e | msg
    · exact ⟨[], inner, (List.append_nil _).symm, registered, fun _ => rfl⟩
    cases msg with
    | signal signal =>
      cases signal
      case conclude => exact ⟨[], inner, (List.append_nil _).symm, registered, fun _ => rfl⟩
      all_goals exact ih s inner registered
    | communication request =>
      rcases validated : handleRequest prims request env s.sent with ⟨_ | verdict, sent₁⟩
      · rw [run_stopped validated]
        exact ⟨[], inner, (List.append_nil _).symm, registered, fun _ => rfl⟩
      rw [run_served validated]
      obtain ⟨responses, inner', responded, counted, counts⟩ :=
        ih { sent := sent₁, responses := s.responses ++ [(request.responseSender, verdict)]
             metrics := s.metrics.onValidationEvent verdict }
          (inner.inc (validationLabel verdict)) (by
            simp only [Metrics.onValidationEvent, registered, Option.map_some'])
      refine ⟨(request.responseSender, verdict) :: responses, inner',
        by rw [responded, List.append_assoc]; rfl, counted, fun label => ?_⟩
      rw [counts label, List.countP_cons]
      by_cases same : label = validationLabel verdict
      · subst same
        simp only [MetricsInner.inc, if_true, decide_True, if_true]
        omega
      · simp only [MetricsInner.inc, if_neg same, Ne.symm same, decide_False,
          Bool.false_eq_true, if_false]
        omega

/-- A chain-state request for the candidate built on block 5, answered on sender 3. -/
def validateBuiltOnFive : CandidateValidationMessage :=
  .validateFromChainState builtOnFive ⟨[1, 2]⟩ 3

/-- A runtime that drops every reply. -/
def repliesDropped : Collaborators :=
  { timedOutServing with persistedValidationData := fun _ _ _ _ => .closed }

/-- A spawner whose blocking tasks are all dropped before they send. -/
def tasksDropped : Collaborators :=
  { timedOutServing with taskSends := fun _ => false }

/-- Three ways the loop fails: the first data request's reply is dropped (`Canceled` at
position 0); the blocking task sends nothing (`Canceled` at the spawn, position 2); `recv`
fails after an `ActiveLeaves`. -/
theorem run_failed_stoppedAt_dropped :
    ((run hashIsNumber repliesDropped [.ok (.communication validateBuiltOnFive)]
        ⟨[], [], ⟨none⟩⟩).1 = .returned (.error .canceled) ∧
      ((∃ (pre : List FromOverseer) (post : List (SubsystemResult FromOverseer)),
          [.ok (.communication validateBuiltOnFive)] = pre.map .ok ++ .error .canceled :: post) ∨
        ∃ i, ([] : List Effect).length ≤ i ∧ StoppedAt repliesDropped
          (run hashIsNumber repliesDropped [.ok (.communication validateBuiltOnFive)]
            ⟨[], [], ⟨none⟩⟩).2.sent i .canceled)) ∧
    ((run hashIsNumber tasksDropped [.ok (.communication validateBuiltOnFive)]
        ⟨[], [], ⟨none⟩⟩).1 = .returned (.error .canceled) ∧
      ((∃ (pre : List FromOverseer) (post : List (SubsystemResult FromOverseer)),
          [.ok (.communication validateBuiltOnFive)] = pre.map .ok ++ .error .canceled :: post) ∨
        ∃ i, ([] : List Effect).length ≤ i ∧ StoppedAt tasksDropped
          (run hashIsNumber tasksDropped [.ok (.communication validateBuiltOnFive)]
            ⟨[], [], ⟨none⟩⟩).2.sent i .canceled)) ∧
    ((run hashIsNumber timedOutServing [.ok (.signal .activeLeaves), .error .context]
        ⟨[], [], ⟨none⟩⟩).1 = .returned (.error .context) ∧
      ((∃ (pre : List FromOverseer) (post : List (SubsystemResult FromOverseer)),
          [.ok (.signal .activeLeaves), .error .context] = pre.map .ok ++ .error .context :: post) ∨
        ∃ i, ([] : List Effect).length ≤ i ∧ StoppedAt timedOutServing
          (run hashIsNumber timedOutServing [.ok (.signal .activeLeaves), .error .context]
            ⟨[], [], ⟨none⟩⟩).2.sent i .context)) :=
  have dropped : (run hashIsNumber repliesDropped [.ok (.communication validateBuiltOnFive)]
      ⟨[], [], ⟨none⟩⟩).1 = .returned (.error .canceled) := rfl
  have unsent : (run hashIsNumber tasksDropped [.ok (.communication validateBuiltOnFive)]
      ⟨[], [], ⟨none⟩⟩).1 = .returned (.error .canceled) := rfl
  have closed : (run hashIsNumber timedOutServing [.ok (.signal .activeLeaves), .error .context]
      ⟨[], [], ⟨none⟩⟩).1 = .returned (.error .context) := rfl
  ⟨⟨dropped, run_failed_stoppedAt hashIsNumber repliesDropped _ _ dropped⟩,
    ⟨unsent, run_failed_stoppedAt hashIsNumber tasksDropped _ _ unsent⟩,
    ⟨closed, run_failed_stoppedAt hashIsNumber timedOutServing _ _ closed⟩⟩

/-- From zeroed counters, one chain-state request served and then `Conclude`: one `valid`. -/
theorem run_counts_responses_one_valid :
    (⟨some ⟨fun _ => 0⟩⟩ : Metrics).inner = some ⟨fun _ => 0⟩ ∧
    ∃ (responses : List (Nat × Except ValidationFailed ValidationResult)) (inner' : MetricsInner),
      (run hashIsNumber timedOutServing
          [.ok (.communication validateBuiltOnFive), .ok (.signal .conclude)]
          ⟨[], [], ⟨some ⟨fun _ => 0⟩⟩⟩).2.responses = [] ++ responses ∧
      (run hashIsNumber timedOutServing
          [.ok (.communication validateBuiltOnFive), .ok (.signal .conclude)]
          ⟨[], [], ⟨some ⟨fun _ => 0⟩⟩⟩).2.metrics.inner = some inner' ∧
      ∀ label, inner'.validationRequests label = 0 +
        responses.countP fun response => validationLabel response.2 = label :=
  ⟨rfl, run_counts_responses hashIsNumber timedOutServing _ ⟨[], [], ⟨some ⟨fun _ => 0⟩⟩⟩ _ rfl⟩

end Runs

end SelendraChain.CandidateValidation
