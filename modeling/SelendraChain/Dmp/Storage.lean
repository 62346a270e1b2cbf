import Mathlib

/-!
# Downward message passing: storage and routines

Source: `src/runtime/parachains/src/dmp.rs`.

The module's storage is three items: `OutgoingParas`, the per-para
`DownwardMessageQueues` and the per-para MQC heads `DownwardMessageQueueHeads`. Storage maps
are `ValueQuery` maps: reading an absent key gives the default, `mutate` stores, `remove`
deletes. Para ids are only compared, so they are `Nat`; hashes are `Nat` and the two hash
functions are parameters. The weights the routines return are not modelled.

`slice::binary_search` belongs to the standard library. It is modelled by its documented
contract on a slice sorted ascending, which is what `OutgoingParas` is (see
`run_outgoingTracks`): `Ok` at the position of the element, or `Err` at the position where
it would be inserted to keep the slice sorted.
-/

set_option autoImplicit false

namespace SelendraChain.Dmp

abbrev ParaId := Nat
abbrev BlockNumber := Nat
abbrev Hash := Nat
abbrev DownwardMessage := List UInt8

structure InboundDownwardMessage where
  msg : DownwardMessage
  sentAt : BlockNumber
  deriving DecidableEq, Repr

/-- The field of `HostConfiguration` the module reads. -/
structure HostConfiguration where
  maxDownwardMessageSize : Nat
  deriving DecidableEq, Repr

/-- `T::Hashing::hash_of` on a message and `BlakeTwo256::hash_of` on a link
`(prev_head, sent_at, message hash)`. -/
structure MqcHashing where
  hashOfMessage : DownwardMessage → Hash
  hashOfLink : Hash → BlockNumber → Hash → Hash

/-- A `ValueQuery` storage map keyed by para. -/
def StorageMap (α : Type) : Type := ParaId → Option α

namespace StorageMap

variable {α : Type}

def empty : StorageMap α := fun _ => none

def remove (map : StorageMap α) (key : ParaId) : StorageMap α :=
  fun k => if k = key then none else map k

@[simp] theorem remove_self (map : StorageMap α) (key : ParaId) : map.remove key key = none := by
  simp [remove]

@[simp] theorem remove_ne (map : StorageMap α) {key k : ParaId} (other : k ≠ key) :
    map.remove key k = map k := by
  simp [remove, other]

variable [Inhabited α]

def get (map : StorageMap α) (key : ParaId) : α := (map key).getD default

def mutate (map : StorageMap α) (key : ParaId) (f : α → α) : StorageMap α :=
  fun k => if k = key then some (f (map.get key)) else map k

@[simp] theorem get_empty (key : ParaId) : (empty : StorageMap α).get key = default := rfl

@[simp] theorem get_mutate_self (map : StorageMap α) (key : ParaId) (f : α → α) :
    (map.mutate key f).get key = f (map.get key) := by
  simp [get, mutate]

@[simp] theorem get_mutate_ne (map : StorageMap α) {key k : ParaId} (f : α → α)
    (other : k ≠ key) : (map.mutate key f).get k = map.get k := by
  simp [get, mutate, other]

@[simp] theorem get_remove_self (map : StorageMap α) (key : ParaId) :
    (map.remove key).get key = default := by
  simp [get]

@[simp] theorem get_remove_ne (map : StorageMap α) {key k : ParaId} (other : k ≠ key) :
    (map.remove key).get k = map.get k := by
  simp [get, other]

end StorageMap

structure DmpState where
  outgoingParas : List ParaId
  downwardMessageQueues : StorageMap (List InboundDownwardMessage)
  downwardMessageQueueHeads : StorageMap Hash

/-- Storage at genesis: nothing stored. -/
def DmpState.initial : DmpState := ⟨[], .empty, .empty⟩

inductive QueueDownwardMessageError where
  | exceedsMaxMessageSize
  deriving DecidableEq, Repr

inductive ProcessedDownwardMessagesAcceptanceErr where
  | advancementRule
  | underflow (processedDownwardMessages dmqLength : Nat)
  deriving DecidableEq, Repr

/-- `slice::binary_search` on a slice sorted ascending: `Ok` (here `.ok`) with the position
of `x`, or `Err` (here `.error`) with the position that keeps the slice sorted. -/
def binarySearch (x : ParaId) : List ParaId → Except Nat Nat
  | [] => .error 0
  | y :: ys =>
    if x = y then .ok 0
    else if x < y then .error 0
    else match binarySearch x ys with
      | .ok i => .ok (i + 1)
      | .error i => .error (i + 1)

section Routines

variable (hashing : MqcHashing)

def cleanDmpAfterOutgoing (s : DmpState) (outgoingPara : ParaId) : DmpState :=
  { s with
    downwardMessageQueues := s.downwardMessageQueues.remove outgoingPara
    downwardMessageQueueHeads := s.downwardMessageQueueHeads.remove outgoingPara }

/-- `OutgoingParas::take()`, then cleanup of every para taken. -/
def performOutgoingParaCleanup (s : DmpState) : DmpState :=
  s.outgoingParas.foldl cleanDmpAfterOutgoing { s with outgoingParas := [] }

def initializerOnNewSession (s : DmpState) : DmpState :=
  performOutgoingParaCleanup s

/-- The closure `schedule_para_cleanup` hands to `OutgoingParas::mutate`. -/
def insertOutgoing (id : ParaId) (v : List ParaId) : List ParaId :=
  match binarySearch id v with
  | .error i => v.insertIdx i id
  | .ok _ => v

def scheduleParaCleanup (s : DmpState) (id : ParaId) : DmpState :=
  { s with outgoingParas := insertOutgoing id s.outgoingParas }

/-- `msg.len() as u32`. -/
def serializedLen (msg : DownwardMessage) : Nat := msg.length % 2 ^ 32

def queueDownwardMessage (config : HostConfiguration) (now : BlockNumber) (s : DmpState)
    (para : ParaId) (msg : DownwardMessage) : Except QueueDownwardMessageError DmpState :=
  if serializedLen msg > config.maxDownwardMessageSize then .error .exceedsMaxMessageSize
  else
    let inbound : InboundDownwardMessage := ⟨msg, now⟩
    .ok { s with
      downwardMessageQueueHeads := s.downwardMessageQueueHeads.mutate para fun head =>
        hashing.hashOfLink head inbound.sentAt (hashing.hashOfMessage inbound.msg)
      downwardMessageQueues := s.downwardMessageQueues.mutate para (· ++ [inbound]) }

def dmqMqcHead (s : DmpState) (para : ParaId) : Hash := s.downwardMessageQueueHeads.get para

/-- `decode_len(..).unwrap_or(0).saturated_into::<u32>()`. -/
def dmqLength (s : DmpState) (para : ParaId) : Nat :=
  min (s.downwardMessageQueues.get para).length (2 ^ 32 - 1)

def dmqContents (s : DmpState) (recipient : ParaId) : List InboundDownwardMessage :=
  s.downwardMessageQueues.get recipient

def checkProcessedDownwardMessages (s : DmpState) (para : ParaId)
    (processedDownwardMessages : Nat) : Except ProcessedDownwardMessagesAcceptanceErr Unit :=
  let dmqLength := dmqLength s para
  if dmqLength > 0 ∧ processedDownwardMessages = 0 then .error .advancementRule
  else if dmqLength < processedDownwardMessages then
    .error (.underflow processedDownwardMessages dmqLength)
  else .ok ()

/-- `split_off` keeps the messages from `processed` on; more than the queue holds is the
defensive `clear()`. -/
def pruneDmq (s : DmpState) (para : ParaId) (processedDownwardMessages : Nat) : DmpState :=
  { s with downwardMessageQueues := s.downwardMessageQueues.mutate para fun q =>
      if processedDownwardMessages > q.length then [] else q.drop processedDownwardMessages }

end Routines

/-- The calls other modules make into this one. -/
inductive Op where
  | queueDownwardMessage (config : HostConfiguration) (now : BlockNumber) (para : ParaId)
      (msg : DownwardMessage)
  | pruneDmq (para : ParaId) (processedDownwardMessages : Nat)
  | scheduleParaCleanup (id : ParaId)
  | initializerOnNewSession
  deriving DecidableEq, Repr

/-- A rejected message changes nothing. -/
def step (hashing : MqcHashing) (s : DmpState) : Op → DmpState
  | .queueDownwardMessage config now para msg =>
    match queueDownwardMessage hashing config now s para msg with
    | .ok s' => s'
    | .error _ => s
  | .pruneDmq para n => pruneDmq s para n
  | .scheduleParaCleanup id => scheduleParaCleanup s id
  | .initializerOnNewSession => initializerOnNewSession s

def run (hashing : MqcHashing) (s : DmpState) (ops : List Op) : DmpState :=
  ops.foldl (step hashing) s

end SelendraChain.Dmp
