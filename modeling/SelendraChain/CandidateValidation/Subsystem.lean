import Mathlib

/-!
# Candidate validation: data and the overseer interaction

Source: `src/node/core/candidate-validation/src/lib.rs`.

Validation "from chain state" learns what it needs from the runtime API by messages: it
sends a request at the candidate's relay parent and awaits the answer on a oneshot channel
(`runtime_api_request`). The validation proper runs on a blocking task
(`spawn_blocking`) and calls the Wasm validation backend; it sends its result back on a
oneshot channel, and a task dropped or panicking before it sends leaves `Canceled`. A run is modelled as a function of
the answers: each request, the spawn and each backend call is answered by `Collaborators` at
its position in the trace of everything the run has sent, so the same request may be
answered differently at different times, and the trace records every request in order.

The data types come from the primitives crates, which are not under `src/`; they keep the
fields this code reads or builds. Byte payloads (head data, block data, messages, code) are
`List UInt8`; hashes, para ids, block numbers, the collator's key and its signature are `Nat`.
-/

set_option autoImplicit false

namespace SelendraChain.CandidateValidation

abbrev Hash := Nat
abbrev ParaId := Nat
abbrev BlockNumber := Nat
abbrev HeadData := List UInt8

inductive OccupiedCoreAssumption where
  | included
  | timedOut
  | free
  deriving DecidableEq, Repr

structure PersistedValidationData where
  parentHead : HeadData
  blockNumber : BlockNumber
  hrmpMqcHeads : List (ParaId × Hash)
  dmqMqcHead : Hash
  /-- `u32`; it is only compared with a length. -/
  maxPovSize : Nat
  deriving DecidableEq, Repr

structure ValidationCode where
  code : List UInt8
  deriving DecidableEq, Repr

structure PoV where
  blockData : List UInt8
  deriving DecidableEq, Repr

structure CandidateDescriptor where
  paraId : ParaId
  relayParent : Hash
  collator : Nat
  persistedValidationDataHash : Hash
  povHash : Hash
  signature : Nat
  deriving DecidableEq, Repr

structure OutboundHrmpMessage where
  recipient : ParaId
  data : List UInt8
  deriving DecidableEq, Repr

structure CandidateCommitments where
  upwardMessages : List (List UInt8)
  horizontalMessages : List OutboundHrmpMessage
  newValidationCode : Option ValidationCode
  headData : HeadData
  processedDownwardMessages : Nat
  hrmpWatermark : BlockNumber
  deriving DecidableEq, Repr

/-- The backend's `ValidationResult` (`indracore_parachain::primitives`). -/
structure WasmValidationResult where
  headData : HeadData
  newValidationCode : Option ValidationCode
  upwardMessages : List (List UInt8)
  horizontalMessages : List OutboundHrmpMessage
  processedDownwardMessages : Nat
  hrmpWatermark : BlockNumber
  deriving DecidableEq, Repr

structure ValidationParams where
  parentHead : HeadData
  blockData : List UInt8
  relayChainHeight : BlockNumber
  dmqMqcHead : Hash
  hrmpMqcHeads : List (ParaId × Hash)
  deriving DecidableEq, Repr

/-- The backend's `InvalidCandidate`; an executor error is its `to_string()`. -/
inductive WasmInvalidCandidate where
  | timeout
  | paramsTooLarge (size : Nat)
  | codeTooLarge (size : Nat)
  | badReturn
  | wasmExecutor (e : String)
  | externalWasmExecutor (e : String)
  deriving DecidableEq, Repr

inductive ValidationError where
  | invalidCandidate (e : WasmInvalidCandidate)
  | internal (e : String)
  deriving DecidableEq, Repr

/-- The node's `InvalidCandidate`, with the variants this code builds. -/
inductive InvalidCandidate where
  | executionError (e : String)
  | invalidOutputs
  | timeout
  | paramsTooLarge (size : Nat)
  | codeTooLarge (size : Nat)
  | badReturn
  | badParent
  | hashMismatch
  | badSignature
  deriving DecidableEq, Repr

inductive ValidationResult where
  | valid (outputs : CandidateCommitments) (persistedValidationData : PersistedValidationData)
  | invalid (e : InvalidCandidate)
  deriving DecidableEq, Repr

structure ValidationFailed where
  message : String
  deriving DecidableEq, Repr

/-- What a oneshot receiver yields for a runtime-API request:
`Err(Canceled)`, `Ok(Err(e))` or `Ok(Ok(value))`. -/
inductive Reply (α : Type) where
  | closed
  | error (message : String)
  | ok (value : α)
  deriving DecidableEq, Repr

/-- Everything a run sends: runtime-API requests, the blocking task, and the backend call the
task makes. -/
inductive Effect where
  | persistedValidationData (relayParent : Hash) (paraId : ParaId)
      (assumption : OccupiedCoreAssumption)
  | validationCode (relayParent : Hash) (paraId : ParaId) (assumption : OccupiedCoreAssumption)
  | checkValidationOutputs (relayParent : Hash) (paraId : ParaId)
      (outputs : CandidateCommitments)
  | spawnBlocking
  | validate (validationCode : ValidationCode) (params : ValidationParams)
  deriving DecidableEq, Repr

/-- The answers of the runtime API, of the spawner and of the validation backend, by the
position of the effect in the run's trace. -/
structure Collaborators where
  persistedValidationData :
    Nat → Hash → ParaId → OccupiedCoreAssumption → Reply (Option PersistedValidationData)
  validationCode :
    Nat → Hash → ParaId → OccupiedCoreAssumption → Reply (Option ValidationCode)
  checkValidationOutputs : Nat → Hash → ParaId → CandidateCommitments → Reply Bool
  /-- Whether `spawn_blocking` takes the task. -/
  spawnBlocking : Nat → Bool
  /-- Whether the task spawned at that position sends its result on `tx`: `false` when it is
  dropped or panics first, and `rx.await` then yields `Canceled`. -/
  taskSends : Nat → Bool
  validate :
    Nat → ValidationCode → ValidationParams → Except ValidationError WasmValidationResult

inductive SubsystemError where
  /-- `oneshot::Canceled` converted by `?`. -/
  | canceled
  /-- The error of `ctx.spawn_blocking`. -/
  | context
  deriving DecidableEq, Repr

/-- `SubsystemResult<T>`. -/
abbrev SubsystemResult (α : Type) : Type := Except SubsystemError α

/-- A computation of the subsystem: from the collaborators and the trace so far, its result
or the `Err` propagated by `?`, and the trace after it. -/
def Cv (α : Type) : Type :=
  Collaborators → List Effect → Except SubsystemError α × List Effect

namespace Cv

variable {α β : Type}

protected def pure (a : α) : Cv α := fun _ sent => (.ok a, sent)

protected def bind (x : Cv α) (f : α → Cv β) : Cv β := fun env sent =>
  match x env sent with
  | (.ok a, sent') => f a env sent'
  | (.error e, sent') => (.error e, sent')

instance : Monad Cv where
  pure := Cv.pure
  bind := Cv.bind

def abort (e : SubsystemError) : Cv α := fun _ sent => (.error e, sent)

/-- Send `effect` and receive the collaborators' answer to it. -/
def ask (effect : Effect) (answer : Collaborators → Nat → β) : Cv β := fun env sent =>
  (.ok (answer env sent.length), sent ++ [effect])

@[simp] theorem run_pure (a : α) (env : Collaborators) (sent : List Effect) :
    (pure a : Cv α) env sent = (.ok a, sent) := rfl

@[simp] theorem run_bind (x : Cv α) (f : α → Cv β) (env : Collaborators) (sent : List Effect) :
    (x >>= f) env sent = match x env sent with
      | (.ok a, sent') => f a env sent'
      | (.error e, sent') => (.error e, sent') := rfl

@[simp] theorem run_abort (e : SubsystemError) (env : Collaborators) (sent : List Effect) :
    (abort e : Cv α) env sent = (.error e, sent) := rfl

@[simp] theorem run_ask (effect : Effect) (answer : Collaborators → Nat → β)
    (env : Collaborators) (sent : List Effect) :
    ask effect answer env sent = (.ok (answer env sent.length), sent ++ [effect]) := rfl

/-- A computation that only appends to the trace, whatever the answers. -/
def Grows (x : Cv α) : Prop :=
  ∀ env sent, ∃ more, (x env sent).2 = sent ++ more

theorem grows_pure (a : α) : Grows (pure a : Cv α) :=
  fun _ sent => ⟨[], (List.append_nil sent).symm⟩

theorem grows_abort (e : SubsystemError) : Grows (abort e : Cv α) :=
  fun _ sent => ⟨[], (List.append_nil sent).symm⟩

theorem grows_ask (effect : Effect) (answer : Collaborators → Nat → β) :
    Grows (ask effect answer) :=
  fun _ _ => ⟨[effect], rfl⟩

theorem grows_bind {x : Cv α} {f : α → Cv β} (grows : Grows x) (next : ∀ a, Grows (f a)) :
    Grows (x >>= f) := by
  intro env sent
  obtain ⟨more, extended⟩ := grows env sent
  rw [run_bind]
  rcases ran : x env sent with ⟨_ | a, sent'⟩ <;> rw [ran] at extended
  · exact ⟨more, extended⟩
  · obtain ⟨more', extended'⟩ := next a env sent'
    exact ⟨more ++ more', by rw [extended', show sent' = sent ++ more from extended,
      List.append_assoc]⟩

end Cv

open Cv

def requestPersistedValidationData (relayParent : Hash) (paraId : ParaId)
    (assumption : OccupiedCoreAssumption) : Cv (Reply (Option PersistedValidationData)) :=
  ask (.persistedValidationData relayParent paraId assumption) fun env n =>
    env.persistedValidationData n relayParent paraId assumption

def requestValidationCode (relayParent : Hash) (paraId : ParaId)
    (assumption : OccupiedCoreAssumption) : Cv (Reply (Option ValidationCode)) :=
  ask (.validationCode relayParent paraId assumption) fun env n =>
    env.validationCode n relayParent paraId assumption

def requestCheckValidationOutputs (relayParent : Hash) (paraId : ParaId)
    (outputs : CandidateCommitments) : Cv (Reply Bool) :=
  ask (.checkValidationOutputs relayParent paraId outputs) fun env n =>
    env.checkValidationOutputs n relayParent paraId outputs

/-- `ctx.spawn_blocking(..).await`, answered by whether the spawner takes the task and whether
the task then sends its result. -/
def spawnBlocking : Cv (Bool × Bool) :=
  ask .spawnBlocking fun env n => (env.spawnBlocking n, env.taskSends n)

/-- `B::validate(backend_arg, &validation_code, params, spawn)`. -/
def validate (validationCode : ValidationCode) (params : ValidationParams) :
    Cv (Except ValidationError WasmValidationResult) :=
  ask (.validate validationCode params) fun env n => env.validate n validationCode params

end SelendraChain.CandidateValidation
