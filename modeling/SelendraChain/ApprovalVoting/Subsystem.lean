import Mathlib

/-!
# Approval voting: data and the overseer interaction

Source: `src/node/core/approval-voting/src/import.rs`.

The import logic talks to the rest of the node only by messages: it sends a request to
the overseer and awaits the answer on a oneshot channel. A run is modelled as a
function of the collaborators' answers. Each request is answered by `Collaborators`
at its position in the trace of everything the run has sent, so the same request may be
answered differently at different times, and the trace records every request, every
`NewBlocks` message and every approval-DB write in order. The only mutable subsystem
state the import logic touches is the rolling session window; it is carried beside the
trace, so that an aborted run still shows the window it left.

Three predicates on computations compose along `>>=`, so that a property of a whole call is
assembled from its parts: `KeepsWindow` (the window is left alone however the computation
ends), `Grows` (the trace is only appended to) and `Ensures` (every value it returns with `Ok`
satisfies a postcondition).

`SessionIndex` is `u32`. It is `Fin (2 ^ 32)`, whose `+` and `-` wrap as the release build
does. Block numbers are only compared and saturating-subtracted, so they are `Nat`.
Hashes, receipts and other opaque payloads are `Nat`; the cryptography reading them
(VRF, candidate hashing, assignment criteria) is out of scope and enters as parameters.
-/

set_option autoImplicit false

namespace SelendraChain.ApprovalVoting

abbrev Hash := Nat
abbrev CandidateHash := Nat
abbrev CandidateReceipt := Nat
abbrev CoreIndex := Nat
abbrev GroupIndex := Nat
abbrev Slot := Nat
abbrev Tick := Nat
abbrev RelayVRFStory := Nat
abbrev OurAssignment := Nat
abbrev CandidateEntry := Nat

/-- `u32`, wrapping modulo `2 ^ 32`. -/
abbrev SessionIndex := Fin (2 ^ 32)

/-- Rust's `u32::saturating_sub`. -/
def saturatingSub (a b : SessionIndex) : SessionIndex :=
  ⟨a.val - b.val, Nat.lt_of_le_of_lt (Nat.sub_le _ _) a.isLt⟩

/-- Rust's `usize as u32`, which keeps the low 32 bits. -/
def asSessionIndex (n : Nat) : SessionIndex :=
  ⟨n % 2 ^ 32, Nat.mod_lt _ (Nat.two_pow_pos 32)⟩

@[simp] theorem saturatingSub_val (a b : SessionIndex) : (saturatingSub a b).val = a.val - b.val :=
  rfl

theorem asSessionIndex_val {n : Nat} (fits : n < 2 ^ 32) : (asSessionIndex n).val = n :=
  Nat.mod_eq_of_lt fits

structure Header where
  parentHash : Hash
  number : Nat
  digest : List Nat
  deriving DecidableEq, Repr

/-- The fields of `SessionInfo` the import reads: the validator set and `no_show_slots`. -/
structure SessionInfo where
  validators : List Nat
  noShowSlots : Nat
  deriving DecidableEq, Repr

inductive CandidateEvent where
  | candidateBacked (receipt : CandidateReceipt) (headData : Nat) (core : CoreIndex)
      (group : GroupIndex)
  | candidateIncluded (receipt : CandidateReceipt) (headData : Nat) (core : CoreIndex)
      (group : GroupIndex)
  | candidateTimedOut (receipt : CandidateReceipt) (headData : Nat) (core : CoreIndex)
  deriving DecidableEq, Repr

/-- The fields of BABE's `Epoch` that `compute_randomness` reads. -/
structure BabeEpoch where
  epochIndex : Nat
  authorities : List Nat
  randomness : Nat
  deriving DecidableEq, Repr

/-- `approval_db::v1::BlockEntry` as `handle_new_head` builds it. -/
structure BlockEntry where
  blockHash : Hash
  session : SessionIndex
  slot : Slot
  relayVrfStory : RelayVRFStory
  candidates : List (CoreIndex × CandidateHash)
  approvedBitfield : List Bool
  children : List Hash
  deriving DecidableEq, Repr

/-- `approval_db::v1::NewCandidateInfo`, the answer of the `candidate_info` closure. -/
structure NewCandidateInfo where
  candidate : CandidateReceipt
  backingGroup : GroupIndex
  ourAssignment : Option OurAssignment
  deriving DecidableEq, Repr

structure BlockApprovalMeta where
  hash : Hash
  number : Nat
  parentHash : Hash
  candidates : List CandidateHash
  slot : Slot
  deriving DecidableEq, Repr

/-- A rolling window of sessions. -/
structure RollingSessionWindow where
  earliestSession : Option SessionIndex
  sessionInfo : List SessionInfo
  deriving DecidableEq, Repr

instance : Inhabited RollingSessionWindow := ⟨⟨none, []⟩⟩

namespace RollingSessionWindow

def getSessionInfo (w : RollingSessionWindow) (index : SessionIndex) : Option SessionInfo :=
  w.earliestSession.bind fun earliest =>
    if index < earliest then none else w.sessionInfo.get? (index - earliest).val

def latestSession (w : RollingSessionWindow) : Option SessionIndex :=
  w.earliestSession.map fun earliest =>
    earliest + saturatingSub (asSessionIndex w.sessionInfo.length) 1

end RollingSessionWindow

/-- What a oneshot receiver yields for a chain- or runtime-API request:
`Err(Canceled)`, `Ok(Err(e))` or `Ok(Ok(value))`. -/
inductive Reply (α : Type) where
  | closed
  | error (message : String)
  | ok (value : α)
  deriving DecidableEq, Repr

/-- An error answer or a closed channel. -/
def Reply.Failed {α : Type} : Reply α → Prop
  | .ok _ => False
  | _ => True

instance Reply.decidableFailed {α : Type} : (r : Reply α) → Decidable r.Failed
  | .closed => isTrue trivial
  | .error _ => isTrue trivial
  | .ok _ => isFalse id

/-- Everything a run sends: overseer requests, approval-DB writes and `NewBlocks`. -/
inductive Effect where
  | blockHeader (hash : Hash)
  | ancestors (hash : Hash) (k : Nat)
  | sessionIndexForChild (relayParent : Hash)
  | sessionInfo (relayParent : Hash) (index : SessionIndex)
  | candidateEvents (relayParent : Hash)
  | currentBabeEpoch (relayParent : Hash)
  | addBlockEntry (parentHash : Hash) (number : Nat) (entry : BlockEntry)
      (nValidators : Nat) (candidateInfo : List (CandidateHash × NewCandidateInfo))
  | newBlocks (metas : List BlockApprovalMeta)
  deriving DecidableEq, Repr

/-- A request to another subsystem, as against an approval-DB write or a `NewBlocks`. -/
def Effect.isRequest : Effect → Bool
  | .addBlockEntry .. | .newBlocks _ => false
  | _ => true

/-- The answers of the other subsystems and of the approval-DB writer, by the position of
the request in the run's trace. -/
structure Collaborators where
  blockHeader : Nat → Hash → Reply (Option Header)
  ancestors : Nat → Hash → Nat → Reply (List Hash)
  sessionIndexForChild : Nat → Hash → Reply SessionIndex
  sessionInfo : Nat → Hash → SessionIndex → Reply (Option SessionInfo)
  candidateEvents : Nat → Hash → Reply (List CandidateEvent)
  currentBabeEpoch : Nat → Hash → Reply BabeEpoch
  addBlockEntry : Nat → Except String (List (CandidateHash × CandidateEntry))

inductive SubsystemError where
  /-- `oneshot::Canceled` converted by `?`. -/
  | canceled
  /-- `SubsystemError::with_origin(origin, e)`. -/
  | withOrigin (origin : String) (message : String)
  /-- `SubsystemError::with_origin(origin, e)` where `e` is itself a `SubsystemError`. -/
  | withOriginError (origin : String) (source : SubsystemError)
  deriving DecidableEq, Repr

/-- Results are compared by `decide` in the runs on fixed chains. -/
instance instDecidableEqExcept {ε α : Type} [DecidableEq ε] [DecidableEq α] :
    DecidableEq (Except ε α)
  | .error a, .error b => decidable_of_iff (a = b) ⟨congrArg _, Except.error.inj⟩
  | .ok a, .ok b => decidable_of_iff (a = b) ⟨congrArg _, Except.ok.inj⟩
  | .error _, .ok _ => isFalse nofun
  | .ok _, .error _ => isFalse nofun

/-- How a run ends early: an `Err` propagated by `?`, a panic, or more loop iterations than
its fuel allows. -/
inductive Abort where
  | error (e : SubsystemError)
  | panic (message : String)
  | outOfFuel
  deriving DecidableEq, Repr

/-- The approval DB as `determine_new_blocks` reads it: whether `load_block_entry` finds an
entry, or the reader's error. -/
structure DbReader where
  loadBlockEntry : Hash → Except SubsystemError Bool

structure Machine where
  sessionWindow : RollingSessionWindow
  sent : List Effect
  deriving DecidableEq, Repr

def Machine.send (m : Machine) (effect : Effect) : Machine :=
  { m with sent := m.sent ++ [effect] }

@[simp] theorem Machine.send_sessionWindow (m : Machine) (effect : Effect) :
    (m.send effect).sessionWindow = m.sessionWindow := rfl

@[simp] theorem Machine.send_sent (m : Machine) (effect : Effect) :
    (m.send effect).sent = m.sent ++ [effect] := rfl

/-- An async subsystem computation. -/
def Sub (α : Type) : Type := Collaborators → Machine → Except Abort α × Machine

namespace Sub

variable {α β : Type}

protected def pure (a : α) : Sub α := fun _ m => (.ok a, m)

protected def bind (x : Sub α) (f : α → Sub β) : Sub β := fun env m =>
  match x env m with
  | (.ok a, m') => f a env m'
  | (.error e, m') => (.error e, m')

instance : Monad Sub where
  pure := Sub.pure
  bind := Sub.bind

def abort (reason : Abort) : Sub α := fun _ m => (.error reason, m)

/-- `?` on a `SubsystemResult`. -/
def ofResult (r : Except SubsystemError α) : Sub α := fun _ m =>
  match r with
  | .ok a => (.ok a, m)
  | .error e => (.error (.error e), m)

/-- Send `effect` and receive the collaborators' answer to it. -/
def ask (effect : Effect) (answer : Collaborators → Nat → β) : Sub β := fun env m =>
  (.ok (answer env m.sent.length), m.send effect)

def tell (effect : Effect) : Sub Unit := fun _ m => (.ok (), m.send effect)

def window : Sub RollingSessionWindow := fun _ m => (.ok m.sessionWindow, m)

def setWindow (w : RollingSessionWindow) : Sub Unit := fun _ m =>
  (.ok (), { m with sessionWindow := w })

def requestBlockHeader (hash : Hash) : Sub (Reply (Option Header)) :=
  ask (.blockHeader hash) fun env n => env.blockHeader n hash

def requestAncestors (hash : Hash) (k : Nat) : Sub (Reply (List Hash)) :=
  ask (.ancestors hash k) fun env n => env.ancestors n hash k

def requestSessionIndexForChild (relayParent : Hash) : Sub (Reply SessionIndex) :=
  ask (.sessionIndexForChild relayParent) fun env n => env.sessionIndexForChild n relayParent

def requestSessionInfo (relayParent : Hash) (index : SessionIndex) :
    Sub (Reply (Option SessionInfo)) :=
  ask (.sessionInfo relayParent index) fun env n => env.sessionInfo n relayParent index

def requestCandidateEvents (relayParent : Hash) : Sub (Reply (List CandidateEvent)) :=
  ask (.candidateEvents relayParent) fun env n => env.candidateEvents n relayParent

def requestCurrentBabeEpoch (relayParent : Hash) : Sub (Reply BabeEpoch) :=
  ask (.currentBabeEpoch relayParent) fun env n => env.currentBabeEpoch n relayParent

@[simp] theorem run_pure (a : α) (env : Collaborators) (m : Machine) :
    (pure a : Sub α) env m = (.ok a, m) := rfl

@[simp] theorem run_bind (x : Sub α) (f : α → Sub β) (env : Collaborators) (m : Machine) :
    (x >>= f) env m = match x env m with
      | (.ok a, m') => f a env m'
      | (.error e, m') => (.error e, m') := rfl

@[simp] theorem run_abort (reason : Abort) (env : Collaborators) (m : Machine) :
    (abort reason : Sub α) env m = (.error reason, m) := rfl

@[simp] theorem run_ask (effect : Effect) (answer : Collaborators → Nat → β)
    (env : Collaborators) (m : Machine) :
    ask effect answer env m = (.ok (answer env m.sent.length), m.send effect) := rfl

@[simp] theorem run_requestSessionInfo (relayParent : Hash) (index : SessionIndex)
    (env : Collaborators) (m : Machine) :
    requestSessionInfo relayParent index env m =
      (.ok (env.sessionInfo m.sent.length relayParent index),
        m.send (.sessionInfo relayParent index)) := rfl

@[simp] theorem run_requestSessionIndexForChild (relayParent : Hash) (env : Collaborators)
    (m : Machine) :
    requestSessionIndexForChild relayParent env m =
      (.ok (env.sessionIndexForChild m.sent.length relayParent),
        m.send (.sessionIndexForChild relayParent)) := rfl

@[simp] theorem run_tell (effect : Effect) (env : Collaborators) (m : Machine) :
    tell effect env m = (.ok (), m.send effect) := rfl

@[simp] theorem run_window (env : Collaborators) (m : Machine) :
    window env m = (.ok m.sessionWindow, m) := rfl

@[simp] theorem run_setWindow (w : RollingSessionWindow) (env : Collaborators) (m : Machine) :
    setWindow w env m = (.ok (), { m with sessionWindow := w }) := rfl

@[simp] theorem run_ofResult_ok (a : α) (env : Collaborators) (m : Machine) :
    ofResult (.ok a : Except SubsystemError α) env m = (.ok a, m) := rfl

@[simp] theorem run_ofResult_error (e : SubsystemError) (env : Collaborators) (m : Machine) :
    ofResult (.error e : Except SubsystemError α) env m = (.error (.error e), m) := rfl

/-- A computation that leaves the session window alone, whatever the answers and however it
ends. -/
def KeepsWindow (x : Sub α) : Prop :=
  ∀ env m, (x env m).2.sessionWindow = m.sessionWindow

theorem keepsWindow_pure (a : α) : KeepsWindow (pure a : Sub α) := fun _ _ => rfl

theorem keepsWindow_abort (reason : Abort) : KeepsWindow (abort reason : Sub α) := fun _ _ => rfl

theorem keepsWindow_ofResult (r : Except SubsystemError α) : KeepsWindow (ofResult r) := by
  intro env m
  cases r <;> rfl

theorem keepsWindow_ask (effect : Effect) (answer : Collaborators → Nat → β) :
    KeepsWindow (ask effect answer) := fun _ _ => rfl

theorem keepsWindow_tell (effect : Effect) : KeepsWindow (tell effect) := fun _ _ => rfl

theorem keepsWindow_window : KeepsWindow window := fun _ _ => rfl

theorem keepsWindow_bind {x : Sub α} {f : α → Sub β} (keeps : KeepsWindow x)
    (next : ∀ a, KeepsWindow (f a)) : KeepsWindow (x >>= f) := by
  intro env m
  rw [run_bind]
  have first := keeps env m
  rcases ran : x env m with ⟨_ | a, m'⟩ <;> rw [ran] at first
  · exact first
  · exact (next a env m').trans first

/-- A computation that only appends to the trace, whatever the answers and however it ends. -/
def Grows (x : Sub α) : Prop :=
  ∀ env m, ∃ more, (x env m).2.sent = m.sent ++ more

theorem grows_pure (a : α) : Grows (pure a : Sub α) :=
  fun _ m => ⟨[], (List.append_nil m.sent).symm⟩

theorem grows_abort (reason : Abort) : Grows (abort reason : Sub α) :=
  fun _ m => ⟨[], (List.append_nil m.sent).symm⟩

theorem grows_ask (effect : Effect) (answer : Collaborators → Nat → β) :
    Grows (ask effect answer) :=
  fun _ _ => ⟨[effect], rfl⟩

theorem grows_tell (effect : Effect) : Grows (tell effect) := fun _ _ => ⟨[effect], rfl⟩

theorem grows_window : Grows window := fun _ m => ⟨[], (List.append_nil m.sent).symm⟩

theorem grows_bind {x : Sub α} {f : α → Sub β} (grows : Grows x) (next : ∀ a, Grows (f a)) :
    Grows (x >>= f) := by
  intro env m
  obtain ⟨more, extended⟩ := grows env m
  rw [run_bind]
  rcases ran : x env m with ⟨_ | a, m'⟩ <;> rw [ran] at extended
  · exact ⟨more, extended⟩
  · obtain ⟨more', extended'⟩ := next a env m'
    exact ⟨more ++ more', by rw [extended', extended, List.append_assoc]⟩

/-- Every value the computation returns with `Ok` satisfies `post`, whatever the answers. -/
def Ensures (x : Sub α) (post : α → Prop) : Prop :=
  ∀ env m a, (x env m).1 = .ok a → post a

theorem ensures_true (x : Sub α) : Ensures x fun _ => True := fun _ _ _ _ => trivial

theorem ensures_pure {a : α} {post : α → Prop} (holds : post a) : Ensures (pure a) post :=
  fun _ _ _ returned => Except.ok.inj returned ▸ holds

theorem ensures_abort (reason : Abort) (post : α → Prop) : Ensures (abort reason) post :=
  fun _ _ _ returned => nomatch returned

theorem ensures_ofResult (r : Except SubsystemError α) :
    Ensures (ofResult r) fun a => r = .ok a := by
  intro env m a returned
  cases r
  · cases returned
  · exact congrArg _ (Except.ok.inj returned)

theorem ensures_bind {x : Sub α} {f : α → Sub β} {mid : α → Prop} {post : β → Prop}
    (first : Ensures x mid) (next : ∀ a, mid a → Ensures (f a) post) :
    Ensures (x >>= f) post := by
  intro env m b returned
  rw [run_bind] at returned
  rcases ran : x env m with ⟨_ | a, m'⟩ <;> rw [ran] at returned
  · cases returned
  · exact next a (first env m a (by rw [ran])) env m' b returned

end Sub

end SelendraChain.ApprovalVoting
