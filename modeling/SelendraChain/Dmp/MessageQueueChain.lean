import SelendraChain.Dmp.OutgoingParas

/-!
# The downward message queue against the history of what was sent

Source: `src/runtime/parachains/src/dmp.rs`, lines 67-84 and 101-201.

The storage keeps, per para, only the unpruned messages and one hash. What they stand for
is a history: every message accepted for the para since its last cleanup, and how many of
them prunes have taken off the front. `AbstractDmp` is that history for every para, with
the paras scheduled for cleanup; `abstractStep` says what each call does to it. `Refines`
ties the storage to it: the queue is the history with the pruned prefix dropped, and the MQC
head is the left fold of the link hash over the whole history, pruned messages included.
Every call keeps `Refines` (`step_refines`), hence so does every run (`run_refines`); the
storage at genesis stands for the empty history, so every run from genesis ends in storage
that stands for its history (`dmqContents_history`).

`queue_downward_message` stamps each message with the current block number and appends it; the
other calls only drop messages. So when the block numbers of the calls never decrease, each
history is in `sent_at` order (`SentBy`, `foldl_sentBy`), and through the refinement so is every
para's queue (`dmqContents_sentAt_sorted`).
-/

set_option autoImplicit false

namespace SelendraChain.Dmp

/-- The MQC head of a message sequence: the link hash folded from the zero hash. -/
def mqcHead (hashing : MqcHashing) (messages : List InboundDownwardMessage) : Hash :=
  messages.foldl (fun head m => hashing.hashOfLink head m.sentAt (hashing.hashOfMessage m.msg)) 0

/-- The messages accepted for one para since its last cleanup, and how many of them prunes
have removed. -/
structure ParaHistory where
  accepted : List InboundDownwardMessage
  pruned : Nat
  pruned_le : pruned ≤ accepted.length

namespace ParaHistory

def empty : ParaHistory := ⟨[], 0, le_refl 0⟩

def accept (h : ParaHistory) (m : InboundDownwardMessage) : ParaHistory :=
  ⟨h.accepted ++ [m], h.pruned, by simp only [List.length_append]; have := h.pruned_le; omega⟩

/-- A prune of `n` removes the `min(n, length)` oldest messages still queued. -/
def prune (h : ParaHistory) (n : Nat) : ParaHistory :=
  ⟨h.accepted, h.pruned + min n (h.accepted.length - h.pruned), by have := h.pruned_le; omega⟩

/-- What the queue should hold. -/
def queued (h : ParaHistory) : List InboundDownwardMessage := h.accepted.drop h.pruned

@[simp] theorem accept_accepted (h : ParaHistory) (m : InboundDownwardMessage) :
    (h.accept m).accepted = h.accepted ++ [m] := rfl

@[simp] theorem prune_accepted (h : ParaHistory) (n : Nat) : (h.prune n).accepted = h.accepted :=
  rfl

@[simp] theorem empty_accepted : empty.accepted = [] := rfl

@[simp] theorem empty_queued : empty.queued = [] := rfl

end ParaHistory

structure AbstractDmp where
  history : ParaId → ParaHistory
  scheduled : List ParaId

namespace AbstractDmp

def initial : AbstractDmp := ⟨fun _ => .empty, []⟩

def update (a : AbstractDmp) (para : ParaId) (f : ParaHistory → ParaHistory) : AbstractDmp :=
  { a with history := fun p => if p = para then f (a.history p) else a.history p }

end AbstractDmp

/-- What each call does to the history. -/
def abstractStep (a : AbstractDmp) : Op → AbstractDmp
  | .queueDownwardMessage config now para msg =>
    if serializedLen msg > config.maxDownwardMessageSize then a
    else a.update para (·.accept ⟨msg, now⟩)
  | .pruneDmq para n => a.update para (·.prune n)
  | .scheduleParaCleanup id => { a with scheduled := a.scheduled ++ [id] }
  | .initializerOnNewSession =>
    ⟨fun p => if p ∈ a.scheduled then .empty else a.history p, []⟩

def abstractRun (ops : List Op) : AbstractDmp := ops.foldl abstractStep .initial

/-- The storage stands for the history. -/
structure Refines (hashing : MqcHashing) (s : DmpState) (a : AbstractDmp) : Prop where
  queue : ∀ p, dmqContents s p = (a.history p).queued
  head : ∀ p, dmqMqcHead s p = mqcHead hashing (a.history p).accepted
  outgoing : ∀ p, p ∈ s.outgoingParas ↔ p ∈ a.scheduled

theorem mqcHead_append (hashing : MqcHashing) (messages : List InboundDownwardMessage)
    (m : InboundDownwardMessage) :
    mqcHead hashing (messages ++ [m]) =
      hashing.hashOfLink (mqcHead hashing messages) m.sentAt (hashing.hashOfMessage m.msg) := by
  simp [mqcHead]

theorem queued_accept (h : ParaHistory) (m : InboundDownwardMessage) :
    (h.accept m).queued = h.queued ++ [m] :=
  List.drop_append_of_le_length h.pruned_le

/-- Both branches of `prune_dmq` drop the processed prefix of what is queued. -/
theorem queued_prune (h : ParaHistory) (n : Nat) :
    (h.prune n).queued = if n > h.queued.length then [] else h.queued.drop n := by
  have := h.pruned_le
  simp only [ParaHistory.queued, ParaHistory.prune, List.drop_drop, List.length_drop]
  split
  · exact List.drop_eq_nil_of_le (by omega)
  · congr 1
    omega

section Step

variable (hashing : MqcHashing) (s : DmpState) (a : AbstractDmp)

theorem step_refines_queue (refines : Refines hashing s a) (config : HostConfiguration)
    (now : BlockNumber) (para : ParaId) (msg : DownwardMessage) :
    Refines hashing (step hashing s (.queueDownwardMessage config now para msg))
      (abstractStep a (.queueDownwardMessage config now para msg)) := by
  by_cases oversize : serializedLen msg > config.maxDownwardMessageSize
  · simpa [step, abstractStep, queueDownwardMessage, oversize] using refines
  have queue : ∀ p, s.downwardMessageQueues.get p = (a.history p).queued := refines.queue
  have head : ∀ p, s.downwardMessageQueueHeads.get p = mqcHead hashing (a.history p).accepted :=
    refines.head
  simp only [step, abstractStep, queueDownwardMessage, oversize, if_false]
  refine ⟨fun p => ?_, fun p => ?_, refines.outgoing⟩ <;> by_cases same : p = para <;>
    simp [AbstractDmp.update, dmqContents, dmqMqcHead, same, queued_accept, mqcHead_append,
      queue, head]

theorem step_refines_prune (refines : Refines hashing s a) (para : ParaId) (n : Nat) :
    Refines hashing (step hashing s (.pruneDmq para n)) (abstractStep a (.pruneDmq para n)) := by
  have queue : ∀ p, s.downwardMessageQueues.get p = (a.history p).queued := refines.queue
  have head : ∀ p, s.downwardMessageQueueHeads.get p = mqcHead hashing (a.history p).accepted :=
    refines.head
  refine ⟨fun p => ?_, fun p => ?_, refines.outgoing⟩ <;> by_cases same : p = para <;>
    simp [step, abstractStep, pruneDmq, AbstractDmp.update, dmqContents, dmqMqcHead, same,
      queued_prune, queue, head]

theorem step_refines_newSession (refines : Refines hashing s a) :
    Refines hashing (step hashing s .initializerOnNewSession)
      (abstractStep a .initializerOnNewSession) := by
  refine ⟨fun p => ?_, fun p => ?_, fun p => ?_⟩ <;>
    obtain ⟨emptied, queues, heads⟩ := initializerOnNewSession_cleans p s
  · have queue : s.downwardMessageQueues.get p = (a.history p).queued := refines.queue p
    by_cases held : p ∈ a.scheduled <;>
      simp_all [step, abstractStep, dmqContents, StorageMap.get, refines.outgoing p]
    rfl
  · have head : s.downwardMessageQueueHeads.get p = mqcHead hashing (a.history p).accepted :=
      refines.head p
    by_cases held : p ∈ a.scheduled <;>
      simp_all [step, abstractStep, dmqMqcHead, StorageMap.get, refines.outgoing p]
    rfl
  · simp [step, abstractStep, emptied]

theorem step_refines (refines : Refines hashing s a) (op : Op) :
    Refines hashing (step hashing s op) (abstractStep a op) := by
  cases op with
  | queueDownwardMessage config now para msg =>
    exact step_refines_queue hashing s a refines config now para msg
  | pruneDmq para n => exact step_refines_prune hashing s a refines para n
  | scheduleParaCleanup id =>
    refine ⟨refines.queue, refines.head, fun p => ?_⟩
    simp only [step, abstractStep, scheduleParaCleanup, mem_insertOutgoing, refines.outgoing,
      List.mem_append, List.mem_singleton]
    tauto
  | initializerOnNewSession => exact step_refines_newSession hashing s a refines

end Step

theorem run_refines (hashing : MqcHashing) (ops : List Op) (s : DmpState) (a : AbstractDmp)
    (refines : Refines hashing s a) :
    Refines hashing (run hashing s ops) (ops.foldl abstractStep a) := by
  induction ops generalizing s a with
  | nil => exact refines
  | cons op ops ih => exact ih _ _ (step_refines hashing s a refines op)

theorem initial_refines (hashing : MqcHashing) :
    Refines hashing DmpState.initial AbstractDmp.initial :=
  ⟨fun _ => rfl, fun _ => rfl, fun _ => Iff.rfl⟩

/-- The para a call is addressed to; a session change is addressed to none. -/
def Op.addressee : Op → Option ParaId
  | .queueDownwardMessage _ _ para _ => some para
  | .pruneDmq para _ => some para
  | .scheduleParaCleanup id => some id
  | .initializerOnNewSession => none

theorem step_oversize (hashing : MqcHashing) (s : DmpState) (config : HostConfiguration)
    (now : BlockNumber) (para : ParaId) (msg : DownwardMessage)
    (oversize : serializedLen msg > config.maxDownwardMessageSize) :
    queueDownwardMessage hashing config now s para msg = .error .exceedsMaxMessageSize ∧
      step hashing s (.queueDownwardMessage config now para msg) = s := by
  simp [step, queueDownwardMessage, oversize]

theorem step_other_para (hashing : MqcHashing) (s : DmpState) (op : Op) {q p : ParaId}
    (addressed : op.addressee = some q) (other : q ≠ p) :
    dmqContents (step hashing s op) p = dmqContents s p ∧
      dmqMqcHead (step hashing s op) p = dmqMqcHead s p := by
  have other : p ≠ q := other.symm
  cases op with
  | queueDownwardMessage config now para msg =>
    cases Option.some.inj addressed
    by_cases oversize : serializedLen msg > config.maxDownwardMessageSize <;>
      simp [step, queueDownwardMessage, dmqContents, dmqMqcHead, oversize, other]
  | pruneDmq para n =>
    cases Option.some.inj addressed
    simp [step, pruneDmq, dmqContents, dmqMqcHead, other]
  | scheduleParaCleanup id => exact ⟨rfl, rfl⟩
  | initializerOnNewSession => cases addressed

/-- After any interleaving of calls from genesis, each para's queue is the history of messages
accepted for it since its last cleanup with the pruned prefix dropped, and its MQC head is the
link-hash fold over that whole history; a rejected oversize message changes nothing, and a call
addressed to another para leaves the para's queue and head as they were. -/
theorem dmqContents_history (hashing : MqcHashing) (ops : List Op) (p : ParaId) :
    let s := run hashing DmpState.initial ops
    let h := (abstractRun ops).history p
    dmqContents s p = h.queued ∧ dmqMqcHead s p = mqcHead hashing h.accepted ∧
      (∀ (s : DmpState) config now q msg, serializedLen msg > config.maxDownwardMessageSize →
        queueDownwardMessage hashing config now s q msg = .error .exceedsMaxMessageSize ∧
          step hashing s (.queueDownwardMessage config now q msg) = s) ∧
      ∀ (s : DmpState) (op : Op) q, op.addressee = some q → q ≠ p →
        dmqContents (step hashing s op) p = dmqContents s p ∧
          dmqMqcHead (step hashing s op) p = dmqMqcHead s p := by
  have refines := run_refines hashing ops _ _ (initial_refines hashing)
  exact ⟨refines.queue p, refines.head p, fun s config now q msg =>
    step_oversize hashing s config now q msg, fun s op _ => step_other_para hashing s op⟩

/-- One message to para 1 that a prune then takes off: the queue is empty again while the head
still links the message; an oversize message to para 1 is rejected, and a prune of para 2
leaves para 1 alone. -/
theorem dmqContents_history_prune_one :
    let hashing : MqcHashing := ⟨List.length, fun head sentAt msg => head + sentAt + msg + 1⟩
    let ops := [.queueDownwardMessage ⟨4⟩ 5 1 [7, 7], .pruneDmq 1 1]
    let s := run hashing DmpState.initial ops
    dmqContents s 1 = [] ∧ dmqMqcHead s 1 = 8 ∧
      queueDownwardMessage hashing ⟨1⟩ 5 s 1 [7, 7] = .error .exceedsMaxMessageSize ∧
      dmqContents (step hashing s (.pruneDmq 2 1)) 1 = dmqContents s 1 := by
  intro hashing ops s
  have facts := dmqContents_history hashing ops 1
  refine ⟨facts.1.trans rfl, facts.2.1.trans rfl,
    (facts.2.2.1 s ⟨1⟩ 5 1 [7, 7] (by decide)).1,
    (facts.2.2.2 s (.pruneDmq 2 1) 2 rfl (by decide)).1⟩

/-! ### The order of the queues -/

/-- The block numbers at which a run calls `queue_downward_message`, rejected messages
included. -/
def queueTimes (ops : List Op) : List BlockNumber :=
  ops.filterMap fun
    | .queueDownwardMessage _ now _ _ => some now
    | _ => none

/-- Every history is in `sent_at` order, and holds no message sent after block `now`. -/
def SentBy (a : AbstractDmp) (now : BlockNumber) : Prop :=
  ∀ p, (a.history p).accepted.Pairwise (·.sentAt ≤ ·.sentAt) ∧
    ∀ m ∈ (a.history p).accepted, m.sentAt ≤ now

namespace SentBy

variable {a : AbstractDmp} {now : BlockNumber}

theorem initial (now : BlockNumber) : SentBy .initial now := fun _ => ⟨.nil, nofun⟩

theorem mono (sent : SentBy a now) {later : BlockNumber} (le : now ≤ later) : SentBy a later :=
  fun p => ⟨(sent p).1, fun m mem => ((sent p).2 m mem).trans le⟩

/-- A message queued at a block no earlier than every message before it keeps the order. -/
theorem queue (sent : SentBy a now) {later : BlockNumber} (le : now ≤ later)
    (config : HostConfiguration) (para : ParaId) (msg : DownwardMessage) :
    SentBy (abstractStep a (.queueDownwardMessage config later para msg)) later := by
  simp only [abstractStep]
  split_ifs with oversize
  · exact sent.mono le
  intro p
  obtain ⟨sorted, before⟩ := sent.mono le p
  simp only [AbstractDmp.update]
  split_ifs with same
  · simp only [ParaHistory.accept_accepted, List.pairwise_append, List.pairwise_singleton,
      List.mem_singleton, List.mem_append]
    refine ⟨⟨sorted, trivial, fun m mem _ queued => queued ▸ before m mem⟩, ?_⟩
    rintro m (mem | rfl)
    · exact before m mem
    · exact le_rfl
  · exact ⟨sorted, before⟩

/-- A prune, a cleanup scheduled and a session change only drop messages. -/
theorem quiet (sent : SentBy a now) (op : Op)
    (quiet : ∀ config later para msg, op ≠ .queueDownwardMessage config later para msg) :
    SentBy (abstractStep a op) now := by
  cases op with
  | queueDownwardMessage config later para msg => exact absurd rfl (quiet config later para msg)
  | pruneDmq para n =>
    intro p
    simp only [abstractStep, AbstractDmp.update]
    split_ifs
    · exact sent p
    · exact sent p
  | scheduleParaCleanup id => exact sent
  | initializerOnNewSession =>
    intro p
    simp only [abstractStep]
    split_ifs
    · exact ⟨.nil, nofun⟩
    · exact sent p

end SentBy

/-- Calls whose queued messages are sent no earlier than block `now`, and in block order, keep
`SentBy`. -/
theorem foldl_sentBy (ops : List Op) :
    ∀ (a : AbstractDmp) (now : BlockNumber), SentBy a now → (∀ t ∈ queueTimes ops, now ≤ t) →
      (queueTimes ops).Pairwise (· ≤ ·) → ∃ last, SentBy (ops.foldl abstractStep a) last := by
  induction ops with
  | nil => exact fun a now sent _ _ => ⟨now, sent⟩
  | cons op ops ih =>
    intro a now sent after advancing
    cases op
    case queueDownwardMessage config later para msg =>
      simp only [queueTimes, List.filterMap_cons, List.mem_cons,
        List.pairwise_cons] at after advancing
      exact ih _ later (sent.queue (after later (.inl rfl)) config para msg) advancing.1 advancing.2
    all_goals
      exact ih _ now (sent.quiet _ fun _ _ _ _ => nofun) after advancing

/-- When messages are queued at block numbers that never decrease, as a chain's block numbers
do, every para's queue is in `sent_at` order after any interleaving of calls from genesis,
whichever messages were rejected, pruned or cleaned up on the way. -/
theorem dmqContents_sentAt_sorted (hashing : MqcHashing) (ops : List Op) (p : ParaId)
    (advancing : (queueTimes ops).Pairwise (· ≤ ·)) :
    (dmqContents (run hashing DmpState.initial ops) p).Pairwise (·.sentAt ≤ ·.sentAt) := by
  obtain ⟨_, sent⟩ := foldl_sentBy ops .initial 0 (.initial 0) (fun _ _ => Nat.zero_le _)
    advancing
  rw [(run_refines hashing ops _ _ (initial_refines hashing)).queue p]
  exact (sent p).1.sublist (List.drop_sublist _ _)

/-- Messages to para 1 at blocks 3 and 5, with a prune and a session change between them. -/
theorem dmqContents_sentAt_sorted_three_five :
    let ops := [.queueDownwardMessage ⟨4⟩ 3 1 [7], .pruneDmq 1 0, .initializerOnNewSession,
      .queueDownwardMessage ⟨4⟩ 5 1 [8]]
    (queueTimes ops).Pairwise (· ≤ ·) ∧
      (dmqContents (run ⟨List.length, fun _ _ _ => 0⟩ DmpState.initial ops) 1).Pairwise
        (·.sentAt ≤ ·.sentAt) :=
  ⟨by decide, dmqContents_sentAt_sorted _ _ 1 (by decide)⟩

end SelendraChain.Dmp
