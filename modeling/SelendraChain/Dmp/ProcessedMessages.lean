import SelendraChain.Dmp.Storage

/-!
# Accepting a count of processed downward messages, then pruning it

Source: `src/runtime/parachains/src/dmp.rs`, lines 168-216.

Another module asks `check_processed_downward_messages` whether a candidate may claim to have
processed `n` of its para's downward messages, and later takes them off with `prune_dmq`. The
check reads the queue's length through `dmq_length`, which saturates at `u32::MAX`; the prune
reads the vector itself, and has a defensive `q.clear()` for a count past its end.

* the check — `Ok` exactly when `n` is at most the saturated length and is not zero while the
  queue holds messages (`checkProcessedDownwardMessages_ok_iff`).
* the saturated length — never above the real one, and positive exactly when the queue holds
  messages (`dmqLength_le`, `dmqLength_pos_iff`).
* the prune — the para's queue from `n` on, or nothing past its end (`dmqContents_pruneDmq`).
* together — in every state, after an `Ok` check the prune takes the `split_off` branch,
  removes exactly the `n` oldest messages, keeps the rest in order, and removes at least one
  message from a queue that holds any, whatever the queue's length, saturated or not
  (`pruneDmq_of_checked`).
-/

set_option autoImplicit false

namespace SelendraChain.Dmp

section Check

variable (s : DmpState) (para : ParaId)

theorem dmqLength_le : dmqLength s para ≤ (dmqContents s para).length :=
  min_le_left _ _

theorem dmqLength_pos_iff : 0 < dmqLength s para ↔ dmqContents s para ≠ [] := by
  rw [dmqLength, dmqContents, Ne, ← List.length_eq_zero]
  omega

theorem checkProcessedDownwardMessages_ok_iff (n : Nat) :
    checkProcessedDownwardMessages s para n = .ok () ↔
      (0 < dmqLength s para → n ≠ 0) ∧ n ≤ dmqLength s para := by
  unfold checkProcessedDownwardMessages
  by_cases advancement : dmqLength s para > 0 ∧ n = 0
  · simp only [if_pos advancement, reduceCtorEq, false_iff]
    omega
  by_cases underflow : dmqLength s para < n
  · simp only [if_neg advancement, if_pos underflow, reduceCtorEq, false_iff]
    omega
  · simp only [if_neg advancement, if_neg underflow, true_iff]
    omega

end Check

section Prune

variable (s : DmpState) (para : ParaId) (n : Nat)

theorem dmqContents_pruneDmq :
    dmqContents (pruneDmq s para n) para =
      if n > (dmqContents s para).length then [] else (dmqContents s para).drop n := by
  simp [pruneDmq, dmqContents]

/-- In every state, and so in every reachable one, a count that
`check_processed_downward_messages` accepts makes `prune_dmq` take its `split_off` branch:
it removes exactly the `n` oldest messages, keeps the others in order, and removes at least
one from a queue that holds any. The check's length saturates at `u32::MAX` and so is at most
the real one, which is why this holds at every queue length. -/
theorem pruneDmq_of_checked (accepted : checkProcessedDownwardMessages s para n = .ok ()) :
    ¬ n > (dmqContents s para).length ∧
      (dmqContents s para).take n ++ dmqContents (pruneDmq s para n) para = dmqContents s para ∧
      ((dmqContents s para).take n).length = n ∧
      dmqContents (pruneDmq s para n) para = (dmqContents s para).drop n ∧
      (dmqContents s para ≠ [] →
        (dmqContents (pruneDmq s para n) para).length < (dmqContents s para).length) := by
  obtain ⟨advances, bounded⟩ := (checkProcessedDownwardMessages_ok_iff s para n).1 accepted
  have fits : n ≤ (dmqContents s para).length := bounded.trans (dmqLength_le s para)
  have kept : dmqContents (pruneDmq s para n) para = (dmqContents s para).drop n := by
    rw [dmqContents_pruneDmq, if_neg (Nat.not_lt.2 fits)]
  refine ⟨Nat.not_lt.2 fits, by rw [kept, List.take_append_drop], List.length_take_of_le fits,
    kept, fun queued => ?_⟩
  have positive := advances ((dmqLength_pos_iff s para).2 queued)
  have nonempty := List.length_pos.2 queued
  rw [kept, List.length_drop]
  omega

/-- Two messages queued for para 1 and one of them processed: the check accepts the count,
and the prune takes off the older message. -/
theorem pruneDmq_of_checked_two :
    let s := run ⟨List.length, fun head sentAt msg => head + sentAt + msg + 1⟩ DmpState.initial
      [.queueDownwardMessage ⟨4⟩ 5 1 [7], .queueDownwardMessage ⟨4⟩ 6 1 [8]]
    checkProcessedDownwardMessages s 1 1 = .ok () ∧
      ¬ 1 > (dmqContents s 1).length ∧
      (dmqContents s 1).take 1 ++ dmqContents (pruneDmq s 1 1) 1 = dmqContents s 1 ∧
      ((dmqContents s 1).take 1).length = 1 ∧
      dmqContents (pruneDmq s 1 1) 1 = (dmqContents s 1).drop 1 ∧
      (dmqContents s 1 ≠ [] →
        (dmqContents (pruneDmq s 1 1) 1).length < (dmqContents s 1).length) :=
  ⟨rfl, pruneDmq_of_checked _ 1 1 rfl⟩

end Prune

end SelendraChain.Dmp
