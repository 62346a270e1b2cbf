import SelendraChain.ApprovalVoting.HandleNewHead

/-!
# `handle_new_head`: what it announces when it fails

Source: `src/node/core/approval-voting/src/import.rs`, lines 604-700.

`handle_new_head` writes each new block's entry to the approval DB inside its loop, with `?`
on the write, and sends the one `NewBlocks` message to approval distribution only after the
loop. A DB writer that fails a later write therefore ends the call with `Err` after earlier
entries were stored, and those entries are never announced.

* nothing before the message — the loop, the walk and the cache send no `NewBlocks`, whatever
  their outcome (`importBlock_announces_nothing`, `importBlocks_announces_nothing`).
* an aborted run — whatever the collaborators and the DB answer, a run that returns `Err`
  (or panics, or runs out of loop iterations) sends no `NewBlocks` at all
  (`handleNewHead_aborted_unannounced`).
* a failed second write — on the chain `0 ← 1 ← 2`, a DB writer that fails its second write
  leaves block 2's entry stored and unannounced (`handleNewHead_second_write_fails`).
-/

set_option autoImplicit false

namespace SelendraChain.ApprovalVoting
open Sub

/-- The block numbers of the `add_block_entry` calls of a trace that the DB writer carried
out, those `env` answered `Ok` at their position, in call order. -/
def entriesStored (env : Collaborators) (sent : List Effect) : List Nat :=
  sent.enum.filterMap fun
    | (i, .addBlockEntry _ number _ _ _) =>
      if (env.addBlockEntry i).isOk then some number else none
    | _ => none

section Quiet

variable (caps : Capabilities) (slotDurationMillis : Nat) (env : Collaborators)

/-- A block's import sends its `add_block_entry` and nothing else, whatever the writer
answers. -/
theorem importBlock_announces_nothing (blockHash : Hash) (blockHeader : Header)
    (info : ImportedBlockInfo) (m : Machine) :
    newBlocksSent (importBlock caps slotDurationMillis blockHash blockHeader info env m).2.sent =
      newBlocksSent m.sent := by
  simp only [importBlock, addBlockEntry, run_bind, run_ask, run_window]
  rcases env.addBlockEntry m.sent.length with _ | _
  · exact newBlocksSent_append_quiet _ _ nofun
  simp only [run_pure]
  rw [Machine.send_sessionWindow]
  rcases m.sessionWindow.getSessionInfo info.sessionIndex with _ | _ <;>
    exact newBlocksSent_append_quiet _ _ nofun

/-- The loop sends no `NewBlocks`, whatever its outcome. -/
theorem importBlocks_announces_nothing (blocks : List (Hash × Header)) :
    ∀ (approvalMeta : List BlockApprovalMeta) (importedCandidates : List BlockImportedCandidates)
      (m : Machine),
      newBlocksSent (importBlocks caps slotDurationMillis approvalMeta importedCandidates blocks
        env m).2.sent = newBlocksSent m.sent := by
  induction blocks with
  | nil => intro approvalMeta importedCandidates m; rfl
  | cons block rest ih =>
    intro approvalMeta importedCandidates m
    obtain ⟨blockHash, blockHeader⟩ := block
    obtain ⟨info, requests, asked, planned, -⟩ :=
      importedBlockInfo_run caps env m.sessionWindow blockHash blockHeader m
    have quiet := (written_append_asks m.sent requests fun e mem => by
      rcases List.mem_cons.1 (planned.subset mem) with rfl | mem
      · rfl
      rcases List.mem_cons.1 mem with rfl | mem
      · rfl
      rcases List.mem_singleton.1 mem with rfl
      rfl).2
    simp only [importBlocks, run_bind, run_window, asked]
    rcases info with _ | info
    · rw [ih, quiet]
    simp only [run_bind]
    have written := importBlock_announces_nothing caps slotDurationMillis env blockHash
      blockHeader info ⟨m.sessionWindow, m.sent ++ requests⟩
    rcases run : importBlock caps slotDurationMillis blockHash blockHeader info env
      ⟨m.sessionWindow, m.sent ++ requests⟩ with ⟨_ | _, m₁⟩ <;> rw [run] at written
    · simpa [quiet] using written
    · rw [ih, written, quiet]

end Quiet

section Aborted

variable (caps : Capabilities) (slotDurationMillis : Nat) (approvalSessions : ApprovalSessions)
  (db : DbReader) (head : Hash) (finalizedNumber : Option Nat) (fuel : Nat) (env : Collaborators)
  (m : Machine)

/-- Whatever the collaborators and the DB answer, a run of `handle_new_head` that does not
return `Ok` sends no `NewBlocks`: the message is sent after the loop, and only if every write
of the loop succeeded. Every entry such a run stored stays unannounced. -/
theorem handleNewHead_aborted_unannounced {reason : Abort}
    (aborted : (handleNewHead caps slotDurationMillis approvalSessions db head finalizedNumber
      fuel env m).1 = .error reason) :
    newBlocksSent (handleNewHead caps slotDurationMillis approvalSessions db head finalizedNumber
      fuel env m).2.sent = newBlocksSent m.sent := by
  rcases answered : env.blockHeader m.sent.length head with _ | _ | _ | header
  iterate 2
    simp only [handleNewHead, requestBlockHeader, run_bind, run_ask, answered, run_abort]
    exact newBlocksSent_append_quiet _ _ nofun
  · simp only [handleNewHead, requestBlockHeader, run_bind, run_ask, answered, run_pure,
      reduceCtorEq] at aborted
  rw [handleNewHead_of_header caps slotDurationMillis approvalSessions db head finalizedNumber fuel
    env m answered] at aborted ⊢
  -- the cache, the walk and the loop each send no `NewBlocks`, whatever their outcome
  have cacheQuiet : newBlocksSent (cacheSessionInfoForHead approvalSessions head header env
      (m.send (.blockHeader head))).2.sent = newBlocksSent m.sent := by
    obtain ⟨requests, cacheSent, asks⟩ :=
      cacheSessionInfoForHead_asks approvalSessions head env m header
    rw [cacheSent, (written_append_asks _ _ asks).2]
  have walkQuiet (m' : Machine) : newBlocksSent (mapErrWithOrigin (determineNewBlocks db head
      header (finalizedNumber.getD (header.number - 1)) fuel) env m').2.sent =
      newBlocksSent m'.sent := by
    obtain ⟨requests, walkSent, asks, -⟩ := determineNewBlocks_ends db
      (finalizedNumber.getD (header.number - 1)) head header fuel env m'
    rw [mapErrWithOrigin_snd, walkSent, (written_append_asks _ _ asks).2]
  rcases cached : cacheSessionInfoForHead approvalSessions head header env
    (m.send (.blockHeader head)) with ⟨_ | (_ | ⟨⟩), m'⟩ <;>
    rw [cached] at cacheQuiet aborted <;> simp only [] at aborted ⊢
  · exact cacheQuiet
  · cases aborted
  simp only [run_bind] at aborted ⊢
  have walked := walkQuiet m'
  rcases walk : mapErrWithOrigin (determineNewBlocks db head header
    (finalizedNumber.getD (header.number - 1)) fuel) env m' with ⟨_ | newBlocks, m''⟩ <;>
    rw [walk] at walked aborted <;> simp only [] at walked aborted ⊢
  · rw [walked, cacheQuiet]
  have looped := importBlocks_announces_nothing caps slotDurationMillis env newBlocks.reverse
    [] [] m''
  rcases imported : importBlocks caps slotDurationMillis [] [] newBlocks.reverse env m'' with
    ⟨_ | _, m'''⟩ <;> rw [imported] at looped aborted <;> simp only [] at looped aborted ⊢
  · rw [looped, walked, cacheQuiet]
  · cases aborted

end Aborted

/-- The collaborators of the chain `0 ← 1 ← 2` with every request answered, but a DB writer
that fails its second write, at trace position 13. -/
def secondWriteFails : Collaborators :=
  { lineServing with addBlockEntry := fun n => if n = 13 then .error "write failed" else .ok [] }

/-- On the chain `0 ← 1 ← 2`, with a DB writer that fails its second write, `handle_new_head`
writes block 2's entry, fails on block 1's and returns `Err`: block 2's entry is stored and
no `NewBlocks` is ever sent for it. -/
theorem handleNewHead_second_write_fails :
    (handleNewHead slotIsNumber 6000 oneSession DbReader.empty 2 (some 0) 5 secondWriteFails
      ⟨default, []⟩).1 = .error (.error (.withOrigin "approval-voting" "write failed")) ∧
    entriesWritten (handleNewHead slotIsNumber 6000 oneSession DbReader.empty 2 (some 0) 5
      secondWriteFails ⟨default, []⟩).2.sent = [2, 1] ∧
    entriesStored secondWriteFails (handleNewHead slotIsNumber 6000 oneSession DbReader.empty 2
      (some 0) 5 secondWriteFails ⟨default, []⟩).2.sent = [2] ∧
    newBlocksSent (handleNewHead slotIsNumber 6000 oneSession DbReader.empty 2 (some 0) 5
      secondWriteFails ⟨default, []⟩).2.sent = [] :=
  ⟨rfl, rfl, rfl, rfl⟩

theorem handleNewHead_aborted_unannounced_second_write :
    (handleNewHead slotIsNumber 6000 oneSession DbReader.empty 2 (some 0) 5 secondWriteFails
      ⟨default, []⟩).1 = .error (.error (.withOrigin "approval-voting" "write failed")) ∧
    newBlocksSent (handleNewHead slotIsNumber 6000 oneSession DbReader.empty 2 (some 0) 5
      secondWriteFails ⟨default, []⟩).2.sent = newBlocksSent [] :=
  have aborted : (handleNewHead slotIsNumber 6000 oneSession DbReader.empty 2 (some 0) 5
      secondWriteFails ⟨default, []⟩).1 =
      .error (.error (.withOrigin "approval-voting" "write failed")) := rfl
  ⟨aborted, handleNewHead_aborted_unannounced slotIsNumber 6000 oneSession DbReader.empty 2
    (some 0) 5 secondWriteFails ⟨default, []⟩ aborted⟩

end SelendraChain.ApprovalVoting
