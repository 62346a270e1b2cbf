import SelendraChain.Dmp.Storage

/-!
# `OutgoingParas`: sorted, and the paras scheduled since the last session change

Source: `src/runtime/parachains/src/dmp.rs`, lines 69-71 and 101-129.

`schedule_para_cleanup` inserts an id at the position `binary_search` reports, unless it is
there already; `initializer_on_new_session` takes the whole list and removes the queue and
MQC head of every para in it. `OutgoingTracks` relates the stored list to the ids scheduled
since the last session change; every call keeps it (`step_outgoingTracks`), hence so does
every run (`run_outgoingTracks`).
-/

set_option autoImplicit false

namespace SelendraChain.Dmp

theorem insertOutgoing_cons_of_lt {id y : ParaId} (ys : List ParaId) (lt : y < id) :
    insertOutgoing id (y :: ys) = y :: insertOutgoing id ys := by
  simp only [insertOutgoing, binarySearch, Nat.ne_of_gt lt, Nat.not_lt.2 lt.le, if_false]
  cases binarySearch id ys <;> simp [List.insertIdx_succ_cons]

theorem mem_insertOutgoing (id : ParaId) (v : List ParaId) (p : ParaId) :
    p ∈ insertOutgoing id v ↔ p = id ∨ p ∈ v := by
  induction v with
  | nil => simp [insertOutgoing, binarySearch]
  | cons y ys ih =>
    rcases Nat.lt_trichotomy id y with lt | rfl | gt
    · simp [insertOutgoing, binarySearch, Nat.ne_of_lt lt, lt]
    · simp [insertOutgoing, binarySearch]
    · rw [insertOutgoing_cons_of_lt ys gt, List.mem_cons, ih, List.mem_cons]
      exact or_left_comm

theorem insertOutgoing_sorted (id : ParaId) {v : List ParaId} (sorted : v.Pairwise (· < ·)) :
    (insertOutgoing id v).Pairwise (· < ·) := by
  induction v with
  | nil => simp [insertOutgoing, binarySearch]
  | cons y ys ih =>
    rcases Nat.lt_trichotomy id y with lt | rfl | gt
    · simp only [insertOutgoing, binarySearch, Nat.ne_of_lt lt, lt, if_true, if_false,
        List.insertIdx_zero]
      exact sorted.cons fun z mem =>
        (List.mem_cons.1 mem).elim (· ▸ lt) fun later => lt.trans (List.rel_of_pairwise_cons sorted later)
    · simpa [insertOutgoing, binarySearch] using sorted
    · rw [insertOutgoing_cons_of_lt ys gt]
      exact (ih sorted.of_cons).cons fun z mem =>
        ((mem_insertOutgoing id ys z).1 mem).elim (· ▸ gt) (List.rel_of_pairwise_cons sorted)

section Cleanup

variable (p : ParaId)

theorem foldl_cleanDmpAfterOutgoing (paras : List ParaId) (s : DmpState) :
    let s' := paras.foldl cleanDmpAfterOutgoing s
    s'.outgoingParas = s.outgoingParas ∧
      s'.downwardMessageQueues p = (if p ∈ paras then none else s.downwardMessageQueues p) ∧
      s'.downwardMessageQueueHeads p =
        (if p ∈ paras then none else s.downwardMessageQueueHeads p) := by
  induction paras generalizing s with
  | nil => simp
  | cons q paras ih =>
    obtain ⟨outgoing, queues, heads⟩ := ih (cleanDmpAfterOutgoing s q)
    simp only [List.foldl_cons, outgoing, queues, heads, List.mem_cons]
    by_cases same : p = q <;>
      simp only [same, cleanDmpAfterOutgoing, StorageMap.remove_self, StorageMap.remove_ne, ne_eq,
        not_false_eq_true, true_or, false_or, if_true, ite_self, and_self]

/-- A session change empties `OutgoingParas` and removes the entries of exactly the paras
it held. -/
theorem initializerOnNewSession_cleans (s : DmpState) :
    let s' := initializerOnNewSession s
    s'.outgoingParas = [] ∧
      s'.downwardMessageQueues p =
        (if p ∈ s.outgoingParas then none else s.downwardMessageQueues p) ∧
      s'.downwardMessageQueueHeads p =
        (if p ∈ s.outgoingParas then none else s.downwardMessageQueueHeads p) :=
  foldl_cleanDmpAfterOutgoing p s.outgoingParas { s with outgoingParas := [] }

end Cleanup

/-- The ids a run has scheduled since its last session change, in call order. -/
def noteScheduled (scheduled : List ParaId) : Op → List ParaId
  | .scheduleParaCleanup id => scheduled ++ [id]
  | .initializerOnNewSession => []
  | _ => scheduled

def scheduledSinceSessionChange (ops : List Op) : List ParaId := ops.foldl noteScheduled []

/-- `OutgoingParas` is strictly increasing and holds exactly `scheduled`. -/
structure OutgoingTracks (s : DmpState) (scheduled : List ParaId) : Prop where
  sorted : s.outgoingParas.Pairwise (· < ·)
  exact : ∀ p, p ∈ s.outgoingParas ↔ p ∈ scheduled

theorem OutgoingTracks.of_outgoingParas_eq {s s' : DmpState} {scheduled : List ParaId}
    (same : s'.outgoingParas = s.outgoingParas) (tracks : OutgoingTracks s scheduled) :
    OutgoingTracks s' scheduled :=
  ⟨same ▸ tracks.sorted, same ▸ tracks.exact⟩

theorem step_outgoingParas_of_queue (hashing : MqcHashing) (s : DmpState)
    (config : HostConfiguration) (now : BlockNumber) (para : ParaId) (msg : DownwardMessage) :
    (step hashing s (.queueDownwardMessage config now para msg)).outgoingParas =
      s.outgoingParas := by
  by_cases oversize : serializedLen msg > config.maxDownwardMessageSize <;>
    simp [step, queueDownwardMessage, oversize]

theorem step_outgoingTracks (hashing : MqcHashing) (s : DmpState) (scheduled : List ParaId)
    (op : Op) (tracks : OutgoingTracks s scheduled) :
    OutgoingTracks (step hashing s op) (noteScheduled scheduled op) := by
  cases op with
  | queueDownwardMessage config now para msg =>
    exact tracks.of_outgoingParas_eq (step_outgoingParas_of_queue hashing s config now para msg)
  | pruneDmq para n =>
    exact tracks.of_outgoingParas_eq
      (show (step hashing s (.pruneDmq para n)).outgoingParas = s.outgoingParas from rfl)
  | scheduleParaCleanup id =>
    refine ⟨insertOutgoing_sorted id tracks.sorted, fun p => ?_⟩
    simp only [step, scheduleParaCleanup, noteScheduled, mem_insertOutgoing, tracks.exact,
      List.mem_append, List.mem_singleton]
    tauto
  | initializerOnNewSession =>
    have emptied := (initializerOnNewSession_cleans 0 s).1
    exact ⟨by simp [step, emptied], by simp [step, noteScheduled, emptied]⟩

theorem run_outgoingTracks (hashing : MqcHashing) (ops : List Op) (s : DmpState)
    (scheduled : List ParaId) (tracks : OutgoingTracks s scheduled) :
    OutgoingTracks (run hashing s ops) (ops.foldl noteScheduled scheduled) := by
  induction ops generalizing s scheduled with
  | nil => exact tracks
  | cons op ops ih => exact ih _ _ (step_outgoingTracks hashing s scheduled op tracks)

/-- After any sequence of calls from genesis, `OutgoingParas` is strictly increasing and holds
exactly the ids scheduled since the last session change, and the next session change removes
the queues and MQC heads of exactly those paras, keeps every other para's, and empties the
list. -/
theorem outgoingParas_sorted_scheduled (hashing : MqcHashing) (ops : List Op) :
    let s := run hashing DmpState.initial ops
    s.outgoingParas.Pairwise (· < ·) ∧
      (∀ p, p ∈ s.outgoingParas ↔ p ∈ scheduledSinceSessionChange ops) ∧
      (initializerOnNewSession s).outgoingParas = [] ∧
      ∀ p, (initializerOnNewSession s).downwardMessageQueues p =
          (if p ∈ scheduledSinceSessionChange ops then none else s.downwardMessageQueues p) ∧
        (initializerOnNewSession s).downwardMessageQueueHeads p =
          (if p ∈ scheduledSinceSessionChange ops then none
            else s.downwardMessageQueueHeads p) := by
  intro s
  have tracks := run_outgoingTracks hashing ops DmpState.initial [] ⟨.nil, by simp [DmpState.initial]⟩
  refine ⟨tracks.sorted, tracks.exact, (initializerOnNewSession_cleans 0 s).1, fun p => ?_⟩
  obtain ⟨-, queues, heads⟩ := initializerOnNewSession_cleans p s
  simp only [queues, heads, tracks.exact p, scheduledSinceSessionChange, and_self]

end SelendraChain.Dmp
