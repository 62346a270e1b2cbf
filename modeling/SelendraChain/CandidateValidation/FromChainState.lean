import SelendraChain.CandidateValidation.Subsystem

/-!
# Validation from chain state: what a `Valid` verdict rests on

Source: `src/node/core/candidate-validation/src/lib.rs`, lines 178-472.

`spawn_validate_from_chain_state` looks for the persisted validation data the descriptor was
built on, asking the runtime under `OccupiedCoreAssumption::Included` and then `TimedOut` and
comparing hashes (`find_assumed_validation_data`). It then validates the candidate on a
blocking task (`validate_candidate_exhaustive`: the basic checks of the PoV and the
descriptor, then the backend) and, for a `Valid` result, asks the runtime whether it accepts
the outputs (`CheckValidationOutputs`).

* stages — one lemma per stage says which answers give its outcome and what it sent:
  `checkAssumptionValidationData_matches`, `checkAssumptionValidationData_doesNotMatch`,
  `checkAssumptions_matches` (the `for` over the assumptions), `performBasicChecks_ok`,
  `validateCandidateExhaustive_valid`, `spawnValidateExhaustive_run`.
* a `Valid` verdict — whatever the runtime, the spawner and the backend answer,
  `Ok(Ok(Valid(commitments, pvd)))` means: `pvd` is the runtime's data for the first assumption
  of `[Included, TimedOut]` whose hash is the descriptor's, the code given to the backend is
  the runtime's code under that assumption, the basic checks hold, the backend returned
  exactly these commitments, and the runtime accepted them; and the run sent exactly those
  requests (`spawnValidateFromChainState_valid`).
* `Err` — a validation returns `Err` only at a dropped runtime-API reply or a refused
  `spawn_blocking` of its own trace (`StoppedAt`, `spawnValidateFromChainState_error`); the
  backend's own failures are verdicts (`validateCandidateExhaustive_ok`).
* a `BadParent` verdict — it comes exactly from data of another hash under both assumptions,
  never from the backend, and then nothing past the two data requests is sent
  (`spawnValidateFromChainState_badParent_iff`).

The hashes of the persisted validation data and of the PoV, the PoV's SCALE encoding and the
collator signature check belong to the primitives crates; they enter as `Primitives`. Metrics
and the isolation strategy are not modelled.
-/

set_option autoImplicit false

namespace SelendraChain.CandidateValidation
open Cv

/-- The functions of the primitives crates that the code calls. -/
structure Primitives where
  /-- `PersistedValidationData::hash`. -/
  persistedValidationDataHash : PersistedValidationData → Hash
  /-- `pov.encode().len()`. -/
  encodedLength : PoV → Nat
  /-- `pov.hash()`. -/
  povHash : PoV → Hash
  /-- Whether `descriptor.check_collator_signature()` is `Ok`. -/
  checkCollatorSignature : CandidateDescriptor → Bool

inductive AssumptionCheckOutcome where
  | matches (persistedValidationData : PersistedValidationData) (validationCode : ValidationCode)
  | doesNotMatch
  | badRequest
  deriving DecidableEq, Repr

/-- `ASSUMPTIONS` of `find_assumed_validation_data`, in the order they are tried. -/
def assumptions : List OccupiedCoreAssumption := [.included, .timedOut]

/-- The `ValidationParams` that `validate_candidate_exhaustive` hands to the backend. -/
def validationParams (persistedValidationData : PersistedValidationData) (pov : PoV) :
    ValidationParams where
  parentHead := persistedValidationData.parentHead
  blockData := pov.blockData
  relayChainHeight := persistedValidationData.blockNumber
  dmqMqcHead := persistedValidationData.dmqMqcHead
  hrmpMqcHeads := persistedValidationData.hrmpMqcHeads

/-- The `CandidateCommitments` that `validate_candidate_exhaustive` builds from the backend's
result. -/
def candidateCommitments (res : WasmValidationResult) : CandidateCommitments where
  headData := res.headData
  upwardMessages := res.upwardMessages
  horizontalMessages := res.horizontalMessages
  newValidationCode := res.newValidationCode
  processedDownwardMessages := res.processedDownwardMessages
  hrmpWatermark := res.hrmpWatermark

section Validation

variable (prims : Primitives)

def checkAssumptionValidationData (descriptor : CandidateDescriptor)
    (assumption : OccupiedCoreAssumption) : Cv AssumptionCheckOutcome := do
  match ← requestPersistedValidationData descriptor.relayParent descriptor.paraId assumption with
  | .closed => abort .canceled
  | .ok none | .error _ => pure .badRequest
  | .ok (some validationData) =>
    let persistedValidationDataHash := prims.persistedValidationDataHash validationData
    if descriptor.persistedValidationDataHash = persistedValidationDataHash then
      match ← requestValidationCode descriptor.relayParent descriptor.paraId assumption with
      | .closed => abort .canceled
      | .ok none | .error _ => pure .badRequest
      | .ok (some validationCode) => pure (.matches validationData validationCode)
    else pure .doesNotMatch

/-- The `for` of `find_assumed_validation_data` over the given assumptions. -/
def checkAssumptions (descriptor : CandidateDescriptor) :
    List OccupiedCoreAssumption → Cv AssumptionCheckOutcome
  | [] => pure .doesNotMatch
  | assumption :: rest => do
    let outcome ← checkAssumptionValidationData prims descriptor assumption
    match outcome with
    | .matches _ _ | .badRequest => pure outcome
    | .doesNotMatch => checkAssumptions descriptor rest

def findAssumedValidationData (descriptor : CandidateDescriptor) : Cv AssumptionCheckOutcome :=
  checkAssumptions prims descriptor assumptions

def performBasicChecks (candidate : CandidateDescriptor) (maxPovSize : Nat) (pov : PoV) :
    Except InvalidCandidate Unit :=
  let encodedPovLength := prims.encodedLength pov
  let hash := prims.povHash pov
  if encodedPovLength > maxPovSize then .error (.paramsTooLarge encodedPovLength)
  else if hash ≠ candidate.povHash then .error .hashMismatch
  else if !prims.checkCollatorSignature candidate then .error .badSignature
  else .ok ()

/-- Run on the blocking task; the backend call is its only effect. -/
def validateCandidateExhaustive (persistedValidationData : PersistedValidationData)
    (validationCode : ValidationCode) (descriptor : CandidateDescriptor) (pov : PoV) :
    Cv (Except ValidationFailed ValidationResult) := do
  match performBasicChecks prims descriptor persistedValidationData.maxPovSize pov with
  | .error e => pure (.ok (.invalid e))
  | .ok () =>
    match ← validate validationCode (validationParams persistedValidationData pov) with
    | .error (.invalidCandidate .timeout) => pure (.ok (.invalid .timeout))
    | .error (.invalidCandidate (.paramsTooLarge l)) => pure (.ok (.invalid (.paramsTooLarge l)))
    | .error (.invalidCandidate (.codeTooLarge l)) => pure (.ok (.invalid (.codeTooLarge l)))
    | .error (.invalidCandidate .badReturn) => pure (.ok (.invalid .badReturn))
    | .error (.invalidCandidate (.wasmExecutor e)) => pure (.ok (.invalid (.executionError e)))
    | .error (.invalidCandidate (.externalWasmExecutor e)) =>
      pure (.ok (.invalid (.executionError e)))
    | .error (.internal e) => pure (.error ⟨e⟩)
    | .ok res => pure (.ok (.valid (candidateCommitments res) persistedValidationData))

/-- `spawn_blocking(..).await?`, then `rx.await`: the task's result, or `Canceled` when the
task sends nothing. -/
def spawnValidateExhaustive (persistedValidationData : PersistedValidationData)
    (validationCode : ValidationCode) (descriptor : CandidateDescriptor) (pov : PoV) :
    Cv (Except ValidationFailed ValidationResult) := do
  let (spawned, sends) ← spawnBlocking
  if spawned then
    if sends then
      validateCandidateExhaustive prims persistedValidationData validationCode descriptor pov
    else abort .canceled
  else abort .context

def spawnValidateFromChainState (descriptor : CandidateDescriptor) (pov : PoV) :
    Cv (Except ValidationFailed ValidationResult) := do
  match ← findAssumedValidationData prims descriptor with
  | .doesNotMatch => pure (.ok (.invalid .badParent))
  | .badRequest => pure (.error ⟨"Assumption Check: Bad request"⟩)
  | .matches validationData validationCode =>
    let validationResult ←
      spawnValidateExhaustive prims validationData validationCode descriptor pov
    match validationResult with
    | .ok (.valid outputs _) =>
      match ← requestCheckValidationOutputs descriptor.relayParent descriptor.paraId outputs with
      | .closed => abort .canceled
      | .ok true => pure validationResult
      | .ok false => pure (.ok (.invalid .invalidOutputs))
      | .error _ => pure (.error ⟨"Check Validation Outputs: Bad request"⟩)
    | _ => pure validationResult

end Validation

/-! ### What each stage's outcome says about the answers -/

section Stages

variable (prims : Primitives) (env : Collaborators) (descriptor : CandidateDescriptor)

/-- At trace position `pos`, the runtime answers the data request under `assumption` with
data whose hash is not the descriptor's. -/
def DataDoesNotMatch (pos : Nat) (assumption : OccupiedCoreAssumption) : Prop :=
  ∃ data, env.persistedValidationData pos descriptor.relayParent descriptor.paraId assumption =
      .ok (some data) ∧
    descriptor.persistedValidationDataHash ≠ prims.persistedValidationDataHash data

/-- At trace position `pos`, the runtime answers the data request under `assumption` with
`data`, whose hash is the descriptor's, and the code request right after it with `code`. -/
def DataMatches (pos : Nat) (assumption : OccupiedCoreAssumption)
    (data : PersistedValidationData) (code : ValidationCode) : Prop :=
  env.persistedValidationData pos descriptor.relayParent descriptor.paraId assumption =
      .ok (some data) ∧
    prims.persistedValidationDataHash data = descriptor.persistedValidationDataHash ∧
    env.validationCode (pos + 1) descriptor.relayParent descriptor.paraId assumption =
      .ok (some code)

variable {prims env descriptor}

theorem checkAssumptionValidationData_matches {assumption : OccupiedCoreAssumption}
    {sent sent' : List Effect} {data : PersistedValidationData} {code : ValidationCode}
    (ran : checkAssumptionValidationData prims descriptor assumption env sent =
      (.ok (.matches data code), sent')) :
    DataMatches prims env descriptor sent.length assumption data code ∧
      sent' = sent ++ [.persistedValidationData descriptor.relayParent descriptor.paraId assumption,
        .validationCode descriptor.relayParent descriptor.paraId assumption] := by
  simp only [checkAssumptionValidationData, requestPersistedValidationData,
    requestValidationCode, run_bind, run_ask] at ran
  rcases answered : env.persistedValidationData sent.length descriptor.relayParent
    descriptor.paraId assumption with _ | _ | _ | data' <;>
    simp only [answered, run_abort, run_pure, Prod.mk.injEq, reduceCtorEq, false_and,
      Except.ok.injEq] at ran
  split_ifs at ran with same
  · simp only [run_bind, run_ask, List.length_append, List.length_singleton] at ran
    rcases coded : env.validationCode (sent.length + 1) descriptor.relayParent
      descriptor.paraId assumption with _ | _ | _ | code' <;>
      simp only [coded, run_abort, run_pure, Prod.mk.injEq, reduceCtorEq, false_and,
        Except.ok.injEq, AssumptionCheckOutcome.matches.injEq] at ran
    obtain ⟨⟨rfl, rfl⟩, rfl⟩ := ran
    exact ⟨⟨answered, same.symm, coded⟩, by simp⟩
  · simp at ran

theorem checkAssumptionValidationData_doesNotMatch {assumption : OccupiedCoreAssumption}
    {sent sent' : List Effect}
    (ran : checkAssumptionValidationData prims descriptor assumption env sent =
      (.ok .doesNotMatch, sent')) :
    DataDoesNotMatch prims env descriptor sent.length assumption ∧
      sent' = sent ++ [.persistedValidationData descriptor.relayParent descriptor.paraId
        assumption] := by
  simp only [checkAssumptionValidationData, requestPersistedValidationData,
    requestValidationCode, run_bind, run_ask] at ran
  rcases answered : env.persistedValidationData sent.length descriptor.relayParent
    descriptor.paraId assumption with _ | _ | _ | data <;>
    simp only [answered, run_abort, run_pure, Prod.mk.injEq, reduceCtorEq, false_and,
      Except.ok.injEq] at ran
  split_ifs at ran with same
  · simp only [run_bind, run_ask, List.length_append, List.length_singleton] at ran
    rcases coded : env.validationCode (sent.length + 1) descriptor.relayParent descriptor.paraId
      assumption with _ | _ | _ | _ <;> simp [coded] at ran
  · simp only [run_pure, Prod.mk.injEq, true_and] at ran
    exact ⟨⟨data, answered, same⟩, ran.symm⟩

/-- The loop returns `Matches` for the first assumption whose data matches: every assumption
before it was answered with data of another hash. -/
theorem checkAssumptions_matches {data : PersistedValidationData} {code : ValidationCode} :
    ∀ (tried : List OccupiedCoreAssumption) (sent sent' : List Effect),
      checkAssumptions prims descriptor tried env sent = (.ok (.matches data code), sent') →
      ∃ skipped assumption rest, tried = skipped ++ assumption :: rest ∧
        (∀ i a, skipped[i]? = some a →
          DataDoesNotMatch prims env descriptor (sent.length + i) a) ∧
        DataMatches prims env descriptor (sent.length + skipped.length) assumption data code ∧
        sent' = sent ++ skipped.map (.persistedValidationData descriptor.relayParent
            descriptor.paraId) ++
          [.persistedValidationData descriptor.relayParent descriptor.paraId assumption,
            .validationCode descriptor.relayParent descriptor.paraId assumption] := by
  intro tried
  induction tried with
  | nil => intro sent sent' ran; simp [checkAssumptions] at ran
  | cons assumption rest ih =>
    intro sent sent' ran
    simp only [checkAssumptions, run_bind] at ran
    rcases checked : checkAssumptionValidationData prims descriptor assumption env sent with
      ⟨_ | (⟨data', code'⟩ | _ | _), sent₁⟩ <;> rw [checked] at ran
    · simp at ran
    · simp only [run_pure, Prod.mk.injEq, Except.ok.injEq,
        AssumptionCheckOutcome.matches.injEq] at ran
      obtain ⟨⟨rfl, rfl⟩, rfl⟩ := ran
      obtain ⟨matched, sent₁⟩ := checkAssumptionValidationData_matches checked
      exact ⟨[], assumption, rest, rfl, nofun, matched, by simpa using sent₁⟩
    · obtain ⟨missed, rfl⟩ := checkAssumptionValidationData_doesNotMatch checked
      obtain ⟨skipped, found, rest', rfl, earlier, matched, rfl⟩ := ih _ _ ran
      refine ⟨assumption :: skipped, found, rest', rfl, ?_, ?_, by simp⟩
      · intro i a listed
        cases i with
        | zero =>
          simp only [List.getElem?_cons_zero, Option.some.injEq] at listed
          subst listed
          simpa using missed
        | succ i =>
          simp only [List.getElem?_cons_succ] at listed
          simpa [Nat.add_assoc, Nat.add_comm 1] using earlier i a listed
      · simpa [Nat.add_assoc, Nat.add_comm 1] using matched
    · simp at ran

theorem performBasicChecks_ok {candidate : CandidateDescriptor} {maxPovSize : Nat} {pov : PoV} :
    performBasicChecks prims candidate maxPovSize pov = .ok () ↔
      prims.encodedLength pov ≤ maxPovSize ∧ prims.povHash pov = candidate.povHash ∧
        prims.checkCollatorSignature candidate = true := by
  unfold performBasicChecks
  by_cases fits : prims.encodedLength pov ≤ maxPovSize
  · rw [if_neg (Nat.not_lt.2 fits)]
    by_cases same : prims.povHash pov = candidate.povHash
    · cases prims.checkCollatorSignature candidate <;> simp [fits, same]
    · simp [same]
  · simp [Nat.lt_of_not_le fits, fits]

theorem validateCandidateExhaustive_valid {data pvd : PersistedValidationData}
    {code : ValidationCode} {pov : PoV} {sent sent' : List Effect}
    {commitments : CandidateCommitments}
    (ran : validateCandidateExhaustive prims data code descriptor pov env sent =
      (.ok (.ok (.valid commitments pvd)), sent')) :
    pvd = data ∧ performBasicChecks prims descriptor data.maxPovSize pov = .ok () ∧
      ∃ res, env.validate sent.length code (validationParams data pov) = .ok res ∧
        candidateCommitments res = commitments ∧
        sent' = sent ++ [.validate code (validationParams data pov)] := by
  unfold validateCandidateExhaustive at ran
  rcases checks : performBasicChecks prims descriptor data.maxPovSize pov with _ | ⟨⟩ <;>
    simp only [checks, run_pure, run_bind, validate, run_ask, Prod.mk.injEq] at ran
  · simp at ran
  rcases answer : env.validate sent.length code (validationParams data pov) with
    ((_ | _ | _ | _ | _ | _) | _) | res <;> simp only [answer] at ran <;>
    simp only [run_pure, Prod.mk.injEq, reduceCtorEq, false_and, Except.ok.injEq,
      ValidationResult.valid.injEq] at ran
  obtain ⟨⟨rfl, rfl⟩, rfl⟩ := ran
  exact ⟨rfl, rfl, res, rfl, rfl, rfl⟩

theorem spawnValidateExhaustive_run (data : PersistedValidationData) (code : ValidationCode)
    (pov : PoV) (sent : List Effect) :
    spawnValidateExhaustive prims data code descriptor pov env sent =
      if env.spawnBlocking sent.length then
        if env.taskSends sent.length then
          validateCandidateExhaustive prims data code descriptor pov env (sent ++ [.spawnBlocking])
        else (.error .canceled, sent ++ [.spawnBlocking])
      else (.error .context, sent ++ [.spawnBlocking]) := by
  simp only [spawnValidateExhaustive, spawnBlocking, run_bind, run_ask]
  split_ifs <;> rfl

end Stages

/-! ### A `Valid` verdict -/

section Verdict

variable (prims : Primitives)

/-- Whatever the runtime API, the spawner and the backend answer, a `Valid` verdict of
`spawn_validate_from_chain_state` rests on all of its checks: the data and code are the
runtime's for the first assumption of `[Included, TimedOut]` whose data hash is the
descriptor's, the PoV passed the basic checks, the backend returned exactly these commitments,
and the runtime accepted them; the run sent exactly these requests, in this order. -/
theorem spawnValidateFromChainState_valid {descriptor : CandidateDescriptor} {pov : PoV}
    {env : Collaborators} {sent : List Effect} {commitments : CandidateCommitments}
    {pvd : PersistedValidationData}
    (valid : (spawnValidateFromChainState prims descriptor pov env sent).1 =
      .ok (.ok (.valid commitments pvd))) :
    ∃ (skipped : List OccupiedCoreAssumption) (assumption : OccupiedCoreAssumption)
      (code : ValidationCode) (res : WasmValidationResult),
      List.IsPrefix (skipped ++ [assumption]) assumptions ∧
      (∀ i a, skipped[i]? = some a →
        DataDoesNotMatch prims env descriptor (sent.length + i) a) ∧
      DataMatches prims env descriptor (sent.length + skipped.length) assumption pvd code ∧
      (prims.encodedLength pov ≤ pvd.maxPovSize ∧ prims.povHash pov = descriptor.povHash ∧
        prims.checkCollatorSignature descriptor = true) ∧
      env.spawnBlocking (sent.length + skipped.length + 2) = true ∧
      env.validate (sent.length + skipped.length + 3) code (validationParams pvd pov) = .ok res ∧
      candidateCommitments res = commitments ∧
      env.checkValidationOutputs (sent.length + skipped.length + 4) descriptor.relayParent
        descriptor.paraId commitments = .ok true ∧
      (spawnValidateFromChainState prims descriptor pov env sent).2 =
        sent ++ skipped.map (.persistedValidationData descriptor.relayParent descriptor.paraId) ++
          [.persistedValidationData descriptor.relayParent descriptor.paraId assumption,
            .validationCode descriptor.relayParent descriptor.paraId assumption, .spawnBlocking,
            .validate code (validationParams pvd pov),
            .checkValidationOutputs descriptor.relayParent descriptor.paraId commitments] := by
  simp only [spawnValidateFromChainState, findAssumedValidationData, run_bind] at valid ⊢
  rcases found : checkAssumptions prims descriptor assumptions env sent with
    ⟨_ | (⟨data, code⟩ | _ | _), sent₁⟩ <;>
    simp only [found, run_pure, run_bind, reduceCtorEq, Except.ok.injEq] at valid ⊢
  obtain ⟨skipped, assumption, rest, split, earlier, matched, trace₁⟩ :=
    checkAssumptions_matches _ _ _ found
  rw [spawnValidateExhaustive_run] at valid ⊢
  by_cases spawned : env.spawnBlocking sent₁.length
  swap
  · simp [spawned] at valid
  by_cases sends : env.taskSends sent₁.length
  swap
  · simp [spawned, sends] at valid
  simp only [spawned, sends, if_true] at valid ⊢
  rcases validated : validateCandidateExhaustive prims data code descriptor pov env
    (sent₁ ++ [.spawnBlocking]) with ⟨_ | _ | ⟨outputs, pvd'⟩ | _, sent₂⟩ <;>
    simp only [validated, run_pure, reduceCtorEq, Except.ok.injEq] at valid ⊢
  obtain ⟨rfl, checks, res, answered, rfl, rfl⟩ := validateCandidateExhaustive_valid validated
  simp only [requestCheckValidationOutputs, run_bind, run_ask] at valid ⊢
  rcases accepted : env.checkValidationOutputs _ descriptor.relayParent descriptor.paraId
    (candidateCommitments res) with _ | _ | _ | _ | _ <;>
    simp only [accepted, run_abort, run_pure, reduceCtorEq, Except.ok.injEq,
      ValidationResult.valid.injEq] at valid
  obtain ⟨rfl, rfl⟩ := valid
  subst trace₁
  simp only [List.length_append, List.length_map, List.length_cons, List.length_nil,
    Nat.zero_add, Nat.reduceAdd] at spawned answered accepted
  refine ⟨skipped, assumption, code, res, ⟨rest, by simp [split]⟩, earlier, matched,
    performBasicChecks_ok.1 checks, spawned, ?_, rfl, ?_, by simp⟩
  · simpa [Nat.add_assoc] using answered
  · simpa [Nat.add_assoc] using accepted

/-- Hashes that are lengths and block numbers: the data's hash is its block number, the PoV's
is the length of its block data, its encoding is one byte longer, and a signature verifies
when it equals the collator's key. -/
def hashIsNumber : Primitives where
  persistedValidationDataHash data := data.blockNumber
  encodedLength pov := pov.blockData.length + 1
  povHash pov := pov.blockData.length
  checkCollatorSignature descriptor := descriptor.signature == descriptor.collator

/-- A candidate of para 100 at relay parent 7, built on the data of block 5. -/
def builtOnFive : CandidateDescriptor :=
  ⟨100, 7, 1, 5, 2, 1⟩

/-- A runtime whose `Included` data is of block 4 and whose `TimedOut` data is of block 5,
both with `max_pov_size` 10; a spawner that takes every task, tasks that send their result and
a backend that succeeds; and a runtime that accepts every output. -/
def timedOutServing : Collaborators where
  persistedValidationData _ _ _ assumption :=
    .ok (some ⟨[], if assumption = .included then 4 else 5, [], 0, 10⟩)
  validationCode _ _ _ _ := .ok (some ⟨[0]⟩)
  checkValidationOutputs _ _ _ _ := .ok true
  spawnBlocking _ := true
  taskSends _ := true
  validate _ _ _ := .ok ⟨[9], none, [], [], 0, 5⟩

theorem spawnValidateFromChainState_valid_timedOut :
    (spawnValidateFromChainState hashIsNumber builtOnFive ⟨[1, 2]⟩ timedOutServing []).1 =
      .ok (.ok (.valid ⟨[], [], none, [9], 0, 5⟩ ⟨[], 5, [], 0, 10⟩)) ∧
    ∃ (skipped : List OccupiedCoreAssumption) (assumption : OccupiedCoreAssumption)
      (code : ValidationCode) (res : WasmValidationResult),
      List.IsPrefix (skipped ++ [assumption]) assumptions ∧
      (∀ i a, skipped[i]? = some a →
        DataDoesNotMatch hashIsNumber timedOutServing builtOnFive (0 + i) a) ∧
      DataMatches hashIsNumber timedOutServing builtOnFive (0 + skipped.length) assumption
        ⟨[], 5, [], 0, 10⟩ code ∧
      (hashIsNumber.encodedLength ⟨[1, 2]⟩ ≤ 10 ∧
        hashIsNumber.povHash ⟨[1, 2]⟩ = builtOnFive.povHash ∧
        hashIsNumber.checkCollatorSignature builtOnFive = true) ∧
      timedOutServing.spawnBlocking (0 + skipped.length + 2) = true ∧
      timedOutServing.validate (0 + skipped.length + 3) code
        (validationParams ⟨[], 5, [], 0, 10⟩ ⟨[1, 2]⟩) = .ok res ∧
      candidateCommitments res = ⟨[], [], none, [9], 0, 5⟩ ∧
      timedOutServing.checkValidationOutputs (0 + skipped.length + 4) 7 100
        ⟨[], [], none, [9], 0, 5⟩ = .ok true ∧
      (spawnValidateFromChainState hashIsNumber builtOnFive ⟨[1, 2]⟩ timedOutServing []).2 =
        [] ++ skipped.map (.persistedValidationData 7 100) ++
          [.persistedValidationData 7 100 assumption, .validationCode 7 100 assumption,
            .spawnBlocking, .validate code (validationParams ⟨[], 5, [], 0, 10⟩ ⟨[1, 2]⟩),
            .checkValidationOutputs 7 100 ⟨[], [], none, [9], 0, 5⟩] :=
  have valid : (spawnValidateFromChainState hashIsNumber builtOnFive ⟨[1, 2]⟩ timedOutServing
      []).1 = .ok (.ok (.valid ⟨[], [], none, [9], 0, 5⟩ ⟨[], 5, [], 0, 10⟩)) := rfl
  ⟨valid, spawnValidateFromChainState_valid hashIsNumber valid⟩

end Verdict

/-! ### Traces and the `Err`s of a validation -/

section Errors

variable (prims : Primitives) (descriptor : CandidateDescriptor)

theorem checkAssumptionValidationData_grows (assumption : OccupiedCoreAssumption) :
    Grows (checkAssumptionValidationData prims descriptor assumption) := by
  unfold checkAssumptionValidationData
  refine grows_bind (grows_ask _ _) fun reply => ?_
  rcases reply with _ | _ | _ | data
  iterate 3 first | exact grows_abort _ | exact grows_pure _
  dsimp only
  split_ifs
  · refine grows_bind (grows_ask _ _) fun reply => ?_
    rcases reply with _ | _ | _ | code <;> first | exact grows_abort _ | exact grows_pure _
  · exact grows_pure _

theorem checkAssumptions_grows (tried : List OccupiedCoreAssumption) :
    Grows (checkAssumptions prims descriptor tried) := by
  induction tried with
  | nil => exact grows_pure _
  | cons assumption rest ih =>
    refine grows_bind (checkAssumptionValidationData_grows prims descriptor assumption)
      fun outcome => ?_
    cases outcome
    case doesNotMatch => exact ih
    all_goals exact grows_pure _

theorem validateCandidateExhaustive_grows (data : PersistedValidationData)
    (code : ValidationCode) (pov : PoV) :
    Grows (validateCandidateExhaustive prims data code descriptor pov) := by
  unfold validateCandidateExhaustive
  split
  · exact grows_pure _
  · refine grows_bind (grows_ask _ _) fun answer => ?_
    split <;> exact grows_pure _

theorem spawnValidateExhaustive_grows (data : PersistedValidationData) (code : ValidationCode)
    (pov : PoV) : Grows (spawnValidateExhaustive prims data code descriptor pov) := by
  refine grows_bind (grows_ask _ _) fun ⟨spawned, sends⟩ => ?_
  cases spawned
  · exact grows_abort _
  cases sends
  · exact grows_abort _
  · exact validateCandidateExhaustive_grows prims descriptor data code pov

theorem spawnValidateFromChainState_grows (pov : PoV) :
    Grows (spawnValidateFromChainState prims descriptor pov) := by
  refine grows_bind (checkAssumptions_grows prims descriptor assumptions) fun outcome => ?_
  rcases outcome with ⟨data, code⟩ | _ | _
  · refine grows_bind (spawnValidateExhaustive_grows prims descriptor data code pov)
      fun result => ?_
    rcases result with _ | (⟨outputs, _⟩ | _)
    · exact grows_pure _
    · refine grows_bind (grows_ask _ _) fun reply => ?_
      rcases reply with _ | _ | _ | _ <;> first | exact grows_abort _ | exact grows_pure _
    · exact grows_pure _
  all_goals exact grows_pure _

/-- The backend's own errors are verdicts: the blocking task always returns `Ok`. -/
theorem validateCandidateExhaustive_ok (data : PersistedValidationData) (code : ValidationCode)
    (pov : PoV) (env : Collaborators) (sent : List Effect) :
    ∃ verdict, (validateCandidateExhaustive prims data code descriptor pov env sent).1 =
      .ok verdict := by
  unfold validateCandidateExhaustive
  rcases performBasicChecks prims descriptor data.maxPovSize pov with _ | ⟨⟩
  · exact ⟨_, rfl⟩
  · simp only [validate, run_bind, run_ask]
    rcases env.validate sent.length code (validationParams data pov) with
      ((_ | _ | _ | _ | _ | _) | _) | _ <;> exact ⟨_, rfl⟩

/-- The answer at position `i` of the trace `sent` that makes a validation return `e`: a
dropped runtime-API reply, or a blocking task that was spawned and sent nothing, for
`Canceled`; a refused `spawn_blocking` for the context's error. -/
def StoppedAt (env : Collaborators) (sent : List Effect) (i : Nat) : SubsystemError → Prop
  | .canceled =>
    match sent[i]? with
    | some (.persistedValidationData relayParent paraId assumption) =>
      env.persistedValidationData i relayParent paraId assumption = .closed
    | some (.validationCode relayParent paraId assumption) =>
      env.validationCode i relayParent paraId assumption = .closed
    | some (.checkValidationOutputs relayParent paraId outputs) =>
      env.checkValidationOutputs i relayParent paraId outputs = .closed
    | some .spawnBlocking => env.spawnBlocking i = true ∧ env.taskSends i = false
    | _ => False
  | .context => sent[i]? = some .spawnBlocking ∧ env.spawnBlocking i = false

variable {prims descriptor} {env : Collaborators}

theorem checkAssumptionValidationData_error {assumption : OccupiedCoreAssumption}
    {sent sent' : List Effect} {e : SubsystemError}
    (ran : checkAssumptionValidationData prims descriptor assumption env sent = (.error e, sent')) :
    ∃ i, sent.length ≤ i ∧ StoppedAt env sent' i e := by
  simp only [checkAssumptionValidationData, requestPersistedValidationData,
    requestValidationCode, run_bind, run_ask] at ran
  rcases answered : env.persistedValidationData sent.length descriptor.relayParent
    descriptor.paraId assumption with _ | _ | _ | data <;>
    simp only [answered, run_abort, run_pure, Prod.mk.injEq, reduceCtorEq, false_and,
      Except.error.injEq] at ran
  · obtain ⟨rfl, rfl⟩ := ran
    exact ⟨sent.length, le_refl _, by simp [StoppedAt, answered]⟩
  split_ifs at ran
  · simp only [run_bind, run_ask, List.length_append, List.length_singleton] at ran
    rcases coded : env.validationCode (sent.length + 1) descriptor.relayParent descriptor.paraId
      assumption with _ | _ | _ | code <;>
      simp only [coded, run_abort, run_pure, Prod.mk.injEq, reduceCtorEq, false_and,
        Except.error.injEq] at ran
    obtain ⟨rfl, rfl⟩ := ran
    exact ⟨sent.length + 1, Nat.le_succ _, by
      rw [StoppedAt, List.append_assoc, List.getElem?_append_right (Nat.le_succ _)]
      simpa using coded⟩
  · simp at ran

theorem checkAssumptions_error {e : SubsystemError} :
    ∀ (tried : List OccupiedCoreAssumption) (sent sent' : List Effect),
      checkAssumptions prims descriptor tried env sent = (.error e, sent') →
      ∃ i, sent.length ≤ i ∧ StoppedAt env sent' i e := by
  intro tried
  induction tried with
  | nil => intro sent sent' ran; simp [checkAssumptions] at ran
  | cons assumption rest ih =>
    intro sent sent' ran
    simp only [checkAssumptions, run_bind] at ran
    rcases checked : checkAssumptionValidationData prims descriptor assumption env sent with
      ⟨_ | (⟨_, _⟩ | _ | _), sent₁⟩ <;> rw [checked] at ran
    · simp only [Prod.mk.injEq, Except.error.injEq] at ran
      obtain ⟨rfl, rfl⟩ := ran
      exact checkAssumptionValidationData_error checked
    · simp at ran
    · obtain ⟨-, rfl⟩ := checkAssumptionValidationData_doesNotMatch checked
      obtain ⟨i, later, stopped⟩ := ih _ _ ran
      exact ⟨i, by simp only [List.length_append] at later; omega, stopped⟩
    · simp at ran

theorem spawnValidateExhaustive_error {data : PersistedValidationData} {code : ValidationCode}
    {pov : PoV} {sent sent' : List Effect} {e : SubsystemError}
    (ran : spawnValidateExhaustive prims data code descriptor pov env sent = (.error e, sent')) :
    sent' = sent ++ [.spawnBlocking] ∧ StoppedAt env sent' sent.length e := by
  rw [spawnValidateExhaustive_run] at ran
  by_cases spawned : env.spawnBlocking sent.length
  · by_cases sends : env.taskSends sent.length
    · rw [if_pos spawned, if_pos sends] at ran
      obtain ⟨verdict, validated⟩ := validateCandidateExhaustive_ok prims descriptor data code pov
        env (sent ++ [.spawnBlocking])
      rw [ran] at validated
      cases validated
    · rw [if_pos spawned, if_neg sends] at ran
      simp only [Prod.mk.injEq, Except.error.injEq] at ran
      obtain ⟨rfl, rfl⟩ := ran
      exact ⟨rfl, by simpa [StoppedAt, spawned] using sends⟩
  · rw [if_neg spawned] at ran
    simp only [Prod.mk.injEq, Except.error.injEq] at ran
    obtain ⟨rfl, rfl⟩ := ran
    exact ⟨rfl, by simpa [StoppedAt] using spawned⟩

/-- A validation from chain state returns `Err` only at a dropped runtime-API reply or a
refused `spawn_blocking` of its own trace. -/
theorem spawnValidateFromChainState_error {pov : PoV} {sent sent' : List Effect}
    {e : SubsystemError}
    (ran : spawnValidateFromChainState prims descriptor pov env sent = (.error e, sent')) :
    ∃ i, sent.length ≤ i ∧ StoppedAt env sent' i e := by
  simp only [spawnValidateFromChainState, findAssumedValidationData, run_bind] at ran
  obtain ⟨more, found_sent⟩ := checkAssumptions_grows prims descriptor assumptions env sent
  rcases found : checkAssumptions prims descriptor assumptions env sent with
    ⟨_ | (⟨data, code⟩ | _ | _), sent₁⟩ <;> rw [found] at ran found_sent <;>
    simp only [run_pure, Prod.mk.injEq, reduceCtorEq, false_and,
      Except.error.injEq] at ran found_sent
  · obtain ⟨rfl, rfl⟩ := ran
    exact checkAssumptions_error _ _ _ found
  simp only [run_bind] at ran
  rcases spawned : spawnValidateExhaustive prims data code descriptor pov env sent₁ with
    ⟨_ | (_ | (⟨outputs, _⟩ | _)), sent₂⟩ <;> rw [spawned] at ran
  · simp only [Prod.mk.injEq, Except.error.injEq] at ran
    obtain ⟨rfl, rfl⟩ := ran
    obtain ⟨rfl, stopped⟩ := spawnValidateExhaustive_error spawned
    exact ⟨sent₁.length, by rw [found_sent, List.length_append]; omega, stopped⟩
  · simp at ran
  · simp only [requestCheckValidationOutputs, run_bind, run_ask] at ran
    obtain ⟨more₂, spawned_sent⟩ :=
      spawnValidateExhaustive_grows prims descriptor data code pov env sent₁
    rw [spawned] at spawned_sent
    rcases checked : env.checkValidationOutputs sent₂.length descriptor.relayParent
      descriptor.paraId outputs with _ | _ | _ | _ <;>
      simp only [checked, run_abort, run_pure, Prod.mk.injEq, reduceCtorEq, false_and,
        Except.error.injEq] at ran
    obtain ⟨rfl, rfl⟩ := ran
    refine ⟨sent₂.length, ?_, by simp [StoppedAt, checked]⟩
    rw [show sent₂ = sent₁ ++ more₂ from spawned_sent, found_sent]
    simp only [List.length_append]
    omega
  · simp at ran

end Errors

/-! ### A `BadParent` verdict -/

section BadParent

variable {prims : Primitives} {descriptor : CandidateDescriptor} {env : Collaborators}

theorem checkAssumptionValidationData_of_doesNotMatch {assumption : OccupiedCoreAssumption}
    {sent : List Effect} (missed : DataDoesNotMatch prims env descriptor sent.length assumption) :
    checkAssumptionValidationData prims descriptor assumption env sent =
      (.ok .doesNotMatch,
        sent ++ [.persistedValidationData descriptor.relayParent descriptor.paraId assumption]) := by
  obtain ⟨data, answered, other⟩ := missed
  simp only [checkAssumptionValidationData, requestPersistedValidationData, run_bind, run_ask,
    answered, if_neg other, run_pure]

/-- The loop finds no match when the data of every assumption, asked in turn, has another
hash; it then asked for the data only. -/
theorem checkAssumptions_of_doesNotMatch :
    ∀ (tried : List OccupiedCoreAssumption) (sent : List Effect),
      (∀ i a, tried[i]? = some a → DataDoesNotMatch prims env descriptor (sent.length + i) a) →
      checkAssumptions prims descriptor tried env sent =
        (.ok .doesNotMatch,
          sent ++ tried.map (.persistedValidationData descriptor.relayParent descriptor.paraId)) := by
  intro tried
  induction tried with
  | nil => exact fun sent _ => by simp [checkAssumptions]
  | cons assumption rest ih =>
    intro sent missed
    have missedRest : ∀ i a, rest[i]? = some a → DataDoesNotMatch prims env descriptor
        ((sent ++ [Effect.persistedValidationData descriptor.relayParent descriptor.paraId
          assumption]).length + i) a := fun i a listed => by
      simpa [Nat.add_assoc, Nat.add_comm 1] using missed (i + 1) a (by simpa using listed)
    simp only [checkAssumptions, run_bind,
      checkAssumptionValidationData_of_doesNotMatch (missed 0 assumption (by simp)), ih _ missedRest]
    simp

/-- The loop returns `DoesNotMatch` only when the data of every assumption has another hash. -/
theorem checkAssumptions_doesNotMatch :
    ∀ (tried : List OccupiedCoreAssumption) (sent sent' : List Effect),
      checkAssumptions prims descriptor tried env sent = (.ok .doesNotMatch, sent') →
      (∀ i a, tried[i]? = some a → DataDoesNotMatch prims env descriptor (sent.length + i) a) ∧
        sent' = sent ++ tried.map (.persistedValidationData descriptor.relayParent
          descriptor.paraId) := by
  intro tried
  induction tried with
  | nil =>
    intro sent sent' ran
    simp only [checkAssumptions, run_pure, Prod.mk.injEq] at ran
    exact ⟨nofun, by simp [ran.2]⟩
  | cons assumption rest ih =>
    intro sent sent' ran
    simp only [checkAssumptions, run_bind] at ran
    rcases checked : checkAssumptionValidationData prims descriptor assumption env sent with
      ⟨_ | (⟨_, _⟩ | _ | _), sent₁⟩ <;> rw [checked] at ran
    · simp at ran
    · simp at ran
    · obtain ⟨missed, rfl⟩ := checkAssumptionValidationData_doesNotMatch checked
      obtain ⟨missedRest, rfl⟩ := ih _ _ ran
      refine ⟨fun i a listed => ?_, by simp⟩
      cases i with
      | zero =>
        simp only [List.getElem?_cons_zero, Option.some.injEq] at listed
        subst listed
        simpa using missed
      | succ i =>
        simp only [List.getElem?_cons_succ] at listed
        simpa [Nat.add_assoc, Nat.add_comm 1] using missedRest i a listed
    · simp at ran

/-- The backend's verdicts and the basic checks' never say `BadParent`. -/
theorem validateCandidateExhaustive_ne_badParent (data : PersistedValidationData)
    (code : ValidationCode) (pov : PoV) (sent : List Effect) :
    (validateCandidateExhaustive prims data code descriptor pov env sent).1 ≠
      .ok (.ok (.invalid .badParent)) := by
  have basic : performBasicChecks prims descriptor data.maxPovSize pov ≠ .error .badParent := by
    simp only [performBasicChecks]
    split_ifs <;> simp
  unfold validateCandidateExhaustive
  rcases checks : performBasicChecks prims descriptor data.maxPovSize pov with e | ⟨⟩
  · simp only [run_pure, ne_eq, Except.ok.injEq, ValidationResult.invalid.injEq]
    rintro rfl
    exact basic checks
  simp only [validate, run_bind, run_ask]
  rcases env.validate sent.length code (validationParams data pov) with
    ((_ | _ | _ | _ | _ | _) | _) | _ <;> simp

/-- Whatever the runtime API, the spawner and the backend answer, a validation from chain state
says `Invalid(BadParent)` exactly when the runtime answers the data requests under `Included`
and then `TimedOut` with data of another hash than the descriptor's; the run then sent these
two requests and nothing else: no code request, no blocking task, no validation. -/
theorem spawnValidateFromChainState_badParent_iff (pov : PoV) (sent : List Effect) :
    (spawnValidateFromChainState prims descriptor pov env sent).1 =
        .ok (.ok (.invalid .badParent)) ↔
      DataDoesNotMatch prims env descriptor sent.length .included ∧
        DataDoesNotMatch prims env descriptor (sent.length + 1) .timedOut ∧
        (spawnValidateFromChainState prims descriptor pov env sent).2 =
          sent ++ [.persistedValidationData descriptor.relayParent descriptor.paraId .included,
            .persistedValidationData descriptor.relayParent descriptor.paraId .timedOut] := by
  constructor
  · intro badParent
    simp only [spawnValidateFromChainState, findAssumedValidationData, run_bind] at badParent ⊢
    rcases found : checkAssumptions prims descriptor assumptions env sent with
      ⟨_ | (⟨data, code⟩ | _ | _), sent₁⟩ <;> rw [found] at badParent
    · cases badParent
    · -- past a match the verdict is the backend's, `InvalidOutputs` or an error
      exfalso
      simp only [run_bind, spawnValidateExhaustive_run] at badParent
      -- a refused `spawn_blocking` aborts; otherwise the backend runs
      split_ifs at badParent
      · have backend : (validateCandidateExhaustive prims data code descriptor pov env
            (sent₁ ++ [.spawnBlocking])).1 ≠ _ :=
          validateCandidateExhaustive_ne_badParent data code pov _
        rcases validated : validateCandidateExhaustive prims data code descriptor pov env
          (sent₁ ++ [.spawnBlocking]) with ⟨_ | (_ | (⟨outputs, _⟩ | _)), sent₂⟩ <;>
          rw [validated] at badParent backend
        · cases badParent
        · cases badParent
        · simp only [requestCheckValidationOutputs, run_bind, run_ask] at badParent
          rcases checked : env.checkValidationOutputs sent₂.length descriptor.relayParent
            descriptor.paraId outputs with _ | _ | (_ | _) <;> simp [checked] at badParent
        · exact backend badParent
    · obtain ⟨missed, rfl⟩ := checkAssumptions_doesNotMatch _ _ _ found
      exact ⟨by simpa using missed 0 .included rfl, missed 1 .timedOut rfl, rfl⟩
    · cases badParent
  · rintro ⟨included, timedOut, -⟩
    have missed : ∀ i a, assumptions[i]? = some a →
        DataDoesNotMatch prims env descriptor (sent.length + i) a
      | 0, _, listed => by cases listed; exact included
      | 1, _, listed => by cases listed; exact timedOut
      | _ + 2, _, listed => by cases listed
    simp only [spawnValidateFromChainState, findAssumedValidationData, run_bind,
      checkAssumptions_of_doesNotMatch _ _ missed, run_pure]

end BadParent

end SelendraChain.CandidateValidation
