import SelendraChain.ApprovalVoting.Import
import SelendraChain.ApprovalVoting.ChainWalk

/-!
# `handle_new_head`: where its `Err` comes from, what a failed cache leaves, and the order of
its writes

Source: `src/node/core/approval-voting/src/import.rs`, lines 555-698.

* `Err` sources — with a DB reader and a DB writer that never fail, `handle_new_head` returns
  `Err` only when the head's `BlockHeader` request fails, the head's `SessionIndexForChild`
  request fails, or one of the `SessionInfo` lookups of `load_all_sessions` answers an error or
  has its channel closed (`handleNewHead_err_sources`). Every other failed answer only skips a
  block (`imported_block_info` returns `None`), ends the walk early, or returns an empty list.
* a failed cache — when `cache_session_info_for_head` does not return `Ok(Ok(()))`, the window
  is the one before the call, and the run of `handle_new_head` sends nothing past the cache's
  requests: no `add_block_entry`, no `NewBlocks` (`handleNewHead_sessions_unavailable`).
* write order — `determine_new_blocks` already returns its blocks oldest first, and the loop
  walks them with `.rev()`, so the entries are written newest first
  (`handleNewHead_writes_newest_first`). On every chain, every run that returns `Ok` writes in
  strictly decreasing block number, and returns and announces its blocks in that order
  (`handleNewHead_writes_decreasing`).
* panics — a panic of `handle_new_head` is one of `cache_session_info_for_head`: the `expect`s
  of the walk and of the loop always hold (`handleNewHead_panics_in_cache`).
-/

set_option autoImplicit false

namespace SelendraChain.ApprovalVoting
open Sub

/-- The block numbers of the `add_block_entry` calls of a trace, in call order. -/
def entriesWritten (sent : List Effect) : List Nat :=
  sent.filterMap fun
    | .addBlockEntry _ number _ _ _ => some number
    | _ => none

/-- The block numbers of the metadata of each `NewBlocks` message of a trace. -/
def newBlocksSent (sent : List Effect) : List (List Nat) :=
  sent.filterMap fun
    | .newBlocks metas => some (metas.map (·.number))
    | _ => none

section Run

variable (caps : Capabilities) (slotDurationMillis : Nat) (approvalSessions : ApprovalSessions)
  (db : DbReader) (head : Hash) (finalizedNumber : Option Nat) (fuel : Nat) (env : Collaborators)
  (m : Machine)

/-- Past an answered header, the run is the cache's, then the import if the cache succeeded. -/
theorem handleNewHead_of_header {header : Header}
    (answered : env.blockHeader m.sent.length head = .ok (some header)) :
    handleNewHead caps slotDurationMillis approvalSessions db head finalizedNumber fuel env m =
      match cacheSessionInfoForHead approvalSessions head header env (m.send (.blockHeader head)) with
      | (.error reason, m') => (.error reason, m')
      | (.ok (.error _), m') => (.ok [], m')
      | (.ok (.ok ()), m') =>
        (do
          let newBlocks ← mapErrWithOrigin (determineNewBlocks db head header
            (finalizedNumber.getD (header.number - 1)) fuel)
          let (approvalMeta, importedCandidates) ←
            importBlocks caps slotDurationMillis [] [] newBlocks.reverse
          tell (.newBlocks approvalMeta)
          pure importedCandidates) env m' := by
  simp only [handleNewHead, requestBlockHeader, run_bind, run_ask, answered]
  rcases cacheSessionInfoForHead approvalSessions head header env (m.send (.blockHeader head)) with
    ⟨_ | _ | _, _⟩ <;> rfl

/-- With a DB reader and a DB writer that never fail, an `Err` of `handle_new_head` comes from
the head's `BlockHeader` answer, the head's `SessionIndexForChild` answer, or a `SessionInfo`
answer, each an error or a closed channel. -/
theorem handleNewHead_err_sources (total : db.Total)
    (writes : ∀ n, ∃ entries, env.addBlockEntry n = .ok entries) {e : SubsystemError}
    (failed : (handleNewHead caps slotDurationMillis approvalSessions db head finalizedNumber fuel
      env m).1 = .error (.error e)) :
    (env.blockHeader m.sent.length head).Failed ∨
      (∃ header, env.blockHeader m.sent.length head = .ok (some header) ∧
        (env.sessionIndexForChild (m.sent.length + 1) (sessionIndexRelayParent head header)).Failed) ∨
      ∃ i relayParent index,
        (handleNewHead caps slotDurationMillis approvalSessions db head finalizedNumber fuel
          env m).2.sent[i]? = some (.sessionInfo relayParent index) ∧
        (env.sessionInfo i relayParent index).Failed := by
  rcases answered : env.blockHeader m.sent.length head with _ | _ | _ | header
  case closed | error => exact .inl trivial
  · simp only [handleNewHead, requestBlockHeader, run_bind, run_ask, answered, run_pure,
      reduceCtorEq] at failed
  right
  rw [handleNewHead_of_header caps slotDurationMillis approvalSessions db head finalizedNumber fuel
    env m answered] at failed ⊢
  rcases cached : cacheSessionInfoForHead approvalSessions head header env
    (m.send (.blockHeader head)) with ⟨reason | (_ | ⟨⟩), m'⟩ <;> simp only [cached] at failed ⊢
  · cases failed
    rcases cacheSessionInfoForHead_error approvalSessions head header env (m.send (.blockHeader head))
      (by rw [cached]) with asked | ⟨i, index, sent, lookup⟩
    · exact .inl ⟨header, rfl, by simpa using asked⟩
    · rw [cached] at sent
      exact .inr ⟨i, head, index, sent, lookup⟩
  · cases failed
  · exfalso
    simp only [run_bind, mapErrWithOrigin_of_noError _ env m' (determineNewBlocks_noError db _ total
      head header fuel env m')] at failed
    rcases walked : determineNewBlocks db head header (finalizedNumber.getD (header.number - 1)) fuel
      env m' with ⟨reason | newBlocks, m''⟩
    · simp only [walked, Except.error.injEq] at failed
      subst failed
      exact determineNewBlocks_noError db _ total head header fuel env m' e
        (congrArg Prod.fst walked)
    rw [walked] at failed
    simp only [run_bind] at failed
    rcases imported : importBlocks caps slotDurationMillis [] [] newBlocks.reverse env m'' with
      ⟨reason | _, m'''⟩
    · simp only [imported, Except.error.injEq] at failed
      subst failed
      exact importBlocks_noError caps env slotDurationMillis writes newBlocks.reverse [] [] m'' e
        (congrArg Prod.fst imported)
    · rw [imported] at failed
      cases failed

/-- When `cache_session_info_for_head` does not return `Ok(Ok(()))` it leaves the window as it
was, from any window, and the run of `handle_new_head` for that head then stops with the
cache: past the header request it sends only the cache's requests, so no `add_block_entry`
and no `NewBlocks`. -/
theorem handleNewHead_sessions_unavailable :
    (∀ blockHash blockHeader (m' : Machine),
      (cacheSessionInfoForHead approvalSessions blockHash blockHeader env m').1 ≠ .ok (.ok ()) →
      (cacheSessionInfoForHead approvalSessions blockHash blockHeader env m').2.sessionWindow =
        m'.sessionWindow) ∧
    ∀ header, env.blockHeader m.sent.length head = .ok (some header) →
      (cacheSessionInfoForHead approvalSessions head header env (m.send (.blockHeader head))).1 ≠
        .ok (.ok ()) →
      (handleNewHead caps slotDurationMillis approvalSessions db head finalizedNumber fuel env
        m).2.sessionWindow = m.sessionWindow ∧
      ∃ sessions : List SessionIndex,
        (handleNewHead caps slotDurationMillis approvalSessions db head finalizedNumber fuel env
          m).2.sent = m.sent ++ .blockHeader head ::
            .sessionIndexForChild (sessionIndexRelayParent head header) ::
              sessions.map (.sessionInfo head) := by
  refine ⟨fun blockHash blockHeader m' notCached =>
    (cacheSessionInfoForHead_unchanged approvalSessions blockHash blockHeader env m').resolve_left
      notCached, fun header answered notCached => ?_⟩
  have kept := (cacheSessionInfoForHead_unchanged approvalSessions head header env
    (m.send (.blockHeader head))).resolve_left notCached
  obtain ⟨sessions, sent⟩ := cacheSessionInfoForHead_sent approvalSessions head header env
    (m.send (.blockHeader head))
  rw [handleNewHead_of_header caps slotDurationMillis approvalSessions db head finalizedNumber fuel
    env m answered]
  rcases cached : cacheSessionInfoForHead approvalSessions head header env
    (m.send (.blockHeader head)) with ⟨_ | (_ | ⟨⟩), m'⟩ <;>
    simp only [cached] at kept sent notCached
  all_goals first
    | exact absurd rfl notCached
    | exact ⟨kept, sessions, by simp [sent]⟩

end Run

/-! ### The order of the writes -/

@[simp] theorem entriesWritten_append (sent sent' : List Effect) :
    entriesWritten (sent ++ sent') = entriesWritten sent ++ entriesWritten sent' :=
  List.filterMap_append ..

@[simp] theorem newBlocksSent_append (sent sent' : List Effect) :
    newBlocksSent (sent ++ sent') = newBlocksSent sent ++ newBlocksSent sent' :=
  List.filterMap_append ..

@[simp] theorem entriesWritten_newBlocks (metas : List BlockApprovalMeta) :
    entriesWritten [.newBlocks metas] = [] := rfl

@[simp] theorem newBlocksSent_newBlocks (metas : List BlockApprovalMeta) :
    newBlocksSent [.newBlocks metas] = [metas.map (·.number)] := rfl

/-- An effect other than `NewBlocks` adds no announcement to a trace. -/
theorem newBlocksSent_append_quiet (sent : List Effect) (e : Effect)
    (quiet : ∀ metas, e ≠ .newBlocks metas) : newBlocksSent (sent ++ [e]) = newBlocksSent sent := by
  rw [newBlocksSent_append]
  cases e
  case newBlocks metas => exact absurd rfl (quiet metas)
  all_goals exact List.append_nil _

/-- Requests write nothing and send no `NewBlocks`. -/
theorem written_append_asks (sent requests : List Effect)
    (asks : ∀ e ∈ requests, e.isRequest) :
    entriesWritten (sent ++ requests) = entriesWritten sent ∧
      newBlocksSent (sent ++ requests) = newBlocksSent sent := by
  have none : entriesWritten requests = [] ∧ newBlocksSent requests = [] := by
    simp only [entriesWritten, newBlocksSent, List.filterMap_eq_nil_iff]
    constructor <;> intro e mem <;> have := asks e mem <;> cases e <;>
      first | rfl | cases this
  simp [none]

section Writes

variable (caps : Capabilities) (slotDurationMillis : Nat) (env : Collaborators)

/-- A block's import writes its entry and yields its metadata and candidates, all under the
block's number. -/
theorem importBlock_written {blockHash : Hash} {blockHeader : Header} {info : ImportedBlockInfo}
    {m m' : Machine} {approvalMeta : BlockApprovalMeta} {imported : BlockImportedCandidates}
    (returns : importBlock caps slotDurationMillis blockHash blockHeader info env m =
      (.ok (approvalMeta, imported), m')) :
    entriesWritten m'.sent = entriesWritten m.sent ++ [blockHeader.number] ∧
      newBlocksSent m'.sent = newBlocksSent m.sent ∧
      approvalMeta.number = blockHeader.number ∧ imported.blockNumber = blockHeader.number := by
  simp only [importBlock, addBlockEntry, run_bind, run_ask, run_window] at returns
  rcases written : env.addBlockEntry m.sent.length with _ | _ <;>
    simp only [written, run_abort, run_pure] at returns
  · simp at returns
  rw [Machine.send_sessionWindow] at returns
  rcases found : m.sessionWindow.getSessionInfo info.sessionIndex with _ | _ <;>
    simp only [found, run_abort, run_pure, Prod.mk.injEq, reduceCtorEq, false_and,
      Except.ok.injEq] at returns
  obtain ⟨⟨rfl, rfl⟩, rfl⟩ := returns
  exact ⟨by rw [Machine.send_sent, entriesWritten_append]; rfl, newBlocksSent_append_quiet _ _ nofun,
    rfl, rfl⟩

/-- The loop writes the entries of a sublist of its blocks, in their order, and pushes the
metadata and the candidates of the same blocks in the same order. -/
theorem importBlocks_written (blocks : List (Hash × Header)) :
    ∀ (approvalMeta : List BlockApprovalMeta) (importedCandidates : List BlockImportedCandidates)
      (m : Machine) {metas : List BlockApprovalMeta} {imported : List BlockImportedCandidates}
      {m' : Machine},
      importBlocks caps slotDurationMillis approvalMeta importedCandidates blocks env m =
        (.ok (metas, imported), m') →
      ∃ written : List Nat, List.Sublist written (blocks.map (·.2.number)) ∧
        entriesWritten m'.sent = entriesWritten m.sent ++ written ∧
        newBlocksSent m'.sent = newBlocksSent m.sent ∧
        metas.map (·.number) = approvalMeta.map (·.number) ++ written ∧
        imported.map (·.blockNumber) = importedCandidates.map (·.blockNumber) ++ written := by
  induction blocks with
  | nil =>
    intro approvalMeta importedCandidates m metas imported m' returns
    simp only [importBlocks, run_pure, Prod.mk.injEq, Except.ok.injEq] at returns
    obtain ⟨⟨rfl, rfl⟩, rfl⟩ := returns
    exact ⟨[], List.nil_sublist _, by simp, rfl, by simp, by simp⟩
  | cons block rest ih =>
    intro approvalMeta importedCandidates m metas imported m' returns
    obtain ⟨blockHash, blockHeader⟩ := block
    obtain ⟨info, requests, asked, planned, -⟩ :=
      importedBlockInfo_run caps env m.sessionWindow blockHash blockHeader m
    have quiet := written_append_asks m.sent requests fun e mem => by
      rcases List.mem_cons.1 (planned.subset mem) with rfl | mem
      · rfl
      rcases List.mem_cons.1 mem with rfl | mem
      · rfl
      rcases List.mem_singleton.1 mem with rfl
      rfl
    simp only [importBlocks, run_bind, run_window, asked] at returns
    rcases info with _ | info
    · obtain ⟨written, sub, writes, sends, metasEq, importedEq⟩ := ih _ _ _ returns
      exact ⟨written, sub.cons _, by rw [writes, quiet.1], by rw [sends, quiet.2], metasEq,
        importedEq⟩
    simp only [run_bind] at returns
    rcases run : importBlock caps slotDurationMillis blockHash blockHeader info env
      ⟨m.sessionWindow, m.sent ++ requests⟩ with ⟨_ | ⟨approvalMeta₁, imported₁⟩, m₁⟩ <;>
      rw [run] at returns
    · simp at returns
    obtain ⟨writes₁, sends₁, metaNumber, importedNumber⟩ :=
      importBlock_written caps slotDurationMillis env run
    obtain ⟨written, sub, writes, sends, metasEq, importedEq⟩ := ih _ _ _ returns
    refine ⟨blockHeader.number :: written, sub.cons₂ _, ?_, ?_, ?_, ?_⟩
    · rw [writes, writes₁, quiet.1]
      simp
    · rw [sends, sends₁, quiet.2]
    · simp [metasEq, metaNumber]
    · simp [importedEq, importedNumber]

end Writes

section Order

variable (caps : Capabilities) (slotDurationMillis : Nat) (approvalSessions : ApprovalSessions)
  (db : DbReader) (head : Hash) (finalizedNumber : Option Nat) (fuel : Nat) (env : Collaborators)
  (m : Machine)

/-- The head's `BlockHeader` request and the cache's requests only ask. -/
theorem cacheSessionInfoForHead_asks (header : Header) :
    ∃ requests, (cacheSessionInfoForHead approvalSessions head header env
        (m.send (.blockHeader head))).2.sent = m.sent ++ requests ∧
      ∀ e ∈ requests, e.isRequest := by
  obtain ⟨sessions, sent⟩ := cacheSessionInfoForHead_sent approvalSessions head header env
    (m.send (.blockHeader head))
  refine ⟨.blockHeader head :: .sessionIndexForChild (sessionIndexRelayParent head header) ::
    sessions.map (.sessionInfo head), by rw [sent, Machine.send_sent, List.append_assoc]; rfl, ?_⟩
  simp only [List.mem_cons, List.mem_map]
  rintro e (rfl | rfl | ⟨_, -, rfl⟩) <;> rfl

/-- On any chain, with a chain API whose answers are the chain's or failures, a run of
`handle_new_head` that returns `Ok` writes its approval-DB entries in strictly decreasing block
number, newest first, and returns its imported candidates and sends its `NewBlocks` metadata in
that same order, or writes nothing and sends no `NewBlocks`. -/
theorem handleNewHead_writes_decreasing (c : Chain) (answers : AnswersOrFails c env)
    {imported : List BlockImportedCandidates}
    (returns : (handleNewHead caps slotDurationMillis approvalSessions db head finalizedNumber fuel
      env m).1 = .ok imported) :
    ∃ written : List Nat, written.Pairwise (· > ·) ∧
      entriesWritten (handleNewHead caps slotDurationMillis approvalSessions db head
        finalizedNumber fuel env m).2.sent = entriesWritten m.sent ++ written ∧
      imported.map (·.blockNumber) = written ∧
      (newBlocksSent (handleNewHead caps slotDurationMillis approvalSessions db head
          finalizedNumber fuel env m).2.sent = newBlocksSent m.sent ∧ written = [] ∨
        newBlocksSent (handleNewHead caps slotDurationMillis approvalSessions db head
          finalizedNumber fuel env m).2.sent = newBlocksSent m.sent ++ [written]) := by
  rcases answered : env.blockHeader m.sent.length head with _ | _ | _ | header
  iterate 2 simp only [handleNewHead, requestBlockHeader, run_bind, run_ask, answered, run_abort,
    reduceCtorEq] at returns
  · simp only [handleNewHead, requestBlockHeader, run_bind, run_ask, answered, run_pure,
      Except.ok.injEq] at returns ⊢
    have quiet := written_append_asks m.sent [.blockHeader head]
      fun _ mem => by rw [List.mem_singleton.1 mem]; rfl
    exact ⟨[], .nil, by rw [Machine.send_sent, quiet.1, List.append_nil], by simp [← returns],
      .inl ⟨by rw [Machine.send_sent, quiet.2], rfl⟩⟩
  have inChain : c.header head = some header := (answers.blockHeader _ _ _ answered).symm
  rw [handleNewHead_of_header caps slotDurationMillis approvalSessions db head finalizedNumber fuel
    env m answered] at returns ⊢
  -- the header and cache requests, then the walk's, ask only
  obtain ⟨cacheRequests, cacheSent, cacheAsks⟩ :=
    cacheSessionInfoForHead_asks approvalSessions head env m header
  rcases cached : cacheSessionInfoForHead approvalSessions head header env
    (m.send (.blockHeader head)) with ⟨_ | (_ | ⟨⟩), m₁⟩ <;>
    simp only [cached] at returns cacheSent ⊢
  · simp at returns
  · have quiet := written_append_asks m.sent _ cacheAsks
    exact ⟨[], .nil, by rw [cacheSent, quiet.1, List.append_nil],
      by simp [← Except.ok.inj returns], .inl ⟨by rw [cacheSent, quiet.2], rfl⟩⟩
  simp only [run_bind] at returns ⊢
  obtain ⟨requests, walkSent, walkAsks, -⟩ := determineNewBlocks_ends db
    (finalizedNumber.getD (header.number - 1)) head header fuel env m₁
  rcases walked : determineNewBlocks db head header (finalizedNumber.getD (header.number - 1)) fuel
    env m₁ with ⟨_ | newBlocks, m₂⟩
  · obtain ⟨_, failed, -⟩ := mapErrWithOrigin_error walked
    rw [failed] at returns
    simp at returns
  have decreasing := determineNewBlocks_reverse_decreasing db _ c answers inChain fuel m₁
    (congrArg Prod.fst walked)
  rw [walked] at walkSent
  rw [mapErrWithOrigin_ok walked] at returns ⊢
  simp only [run_bind] at returns ⊢
  rcases run : importBlocks caps slotDurationMillis [] [] newBlocks.reverse env m₂ with
    ⟨_ | ⟨metas, imported'⟩, m₃⟩ <;> rw [run] at returns
  · simp at returns
  obtain ⟨written, sub, writes, sends, metasEq, importedEq⟩ :=
    importBlocks_written caps slotDurationMillis env newBlocks.reverse [] [] m₂ run
  simp only [run, run_tell, run_pure, Except.ok.injEq] at returns ⊢
  subst returns
  have quiet := written_append_asks m.sent (cacheRequests ++ requests)
    fun e mem => (List.mem_append.1 mem).elim (cacheAsks e) (walkAsks e)
  have walkSent : m₂.sent = m.sent ++ (cacheRequests ++ requests) := by
    rw [walkSent, cacheSent, List.append_assoc]
  refine ⟨written, decreasing.sublist sub, ?_, by simpa using importedEq, .inr ?_⟩
  · rw [Machine.send_sent, entriesWritten_append, writes, walkSent, quiet.1]
    simp
  · rw [Machine.send_sent, newBlocksSent_append, sends, walkSent, quiet.2, newBlocksSent_newBlocks,
      metasEq]
    simp

/-- A panic of `handle_new_head` is a panic of `cache_session_info_for_head` on the head: the
`expect`s of `determine_new_blocks` and of the loop over the new blocks always hold. -/
theorem handleNewHead_panics_in_cache {message : String}
    (panics : (handleNewHead caps slotDurationMillis approvalSessions db head finalizedNumber fuel
      env m).1 = .error (.panic message)) :
    ∃ header, env.blockHeader m.sent.length head = .ok (some header) ∧
      (cacheSessionInfoForHead approvalSessions head header env
        (m.send (.blockHeader head))).1 = .error (.panic message) := by
  rcases answered : env.blockHeader m.sent.length head with _ | _ | _ | header
  iterate 3 simp only [handleNewHead, requestBlockHeader, run_bind, run_ask, answered, run_abort,
    run_pure, reduceCtorEq, Except.error.injEq, Abort.panic.injEq, Abort.error.injEq] at panics
  refine ⟨header, rfl, ?_⟩
  rw [handleNewHead_of_header caps slotDurationMillis approvalSessions db head finalizedNumber fuel
    env m answered] at panics
  rcases cached : cacheSessionInfoForHead approvalSessions head header env
    (m.send (.blockHeader head)) with ⟨_ | (_ | ⟨⟩), m₁⟩ <;>
    simp only [cached, Except.error.injEq] at panics ⊢
  · exact panics
  · simp at panics
  exfalso
  simp only [run_bind] at panics
  obtain ⟨-, -, -, ends⟩ := determineNewBlocks_ends db (finalizedNumber.getD (header.number - 1))
    head header fuel env m₁
  rcases walked : determineNewBlocks db head header (finalizedNumber.getD (header.number - 1)) fuel
    env m₁ with ⟨_ | newBlocks, m₂⟩
  · obtain ⟨_, mapped, same⟩ := mapErrWithOrigin_error walked
    simp only [mapped, Except.error.injEq] at panics
    rw [walked, same message panics] at ends
    exact ends
  rw [mapErrWithOrigin_ok walked] at panics
  simp only [run_bind] at panics
  rcases run : importBlocks caps slotDurationMillis [] [] newBlocks.reverse env m₂ with
    ⟨_ | _, m₃⟩ <;> simp only [run, Except.error.injEq] at panics
  · subst panics
    exact importBlocks_noPanic caps env slotDurationMillis newBlocks.reverse [] [] m₂ message
      (congrArg Prod.fst run)
  · simp at panics

end Order

/-! ### Runs on the chain `0 ← 1 ← 2` -/

/-- Capabilities that find every block's VRF output and randomness: the slot is the block's
number, and no assignment is ours. -/
def slotIsNumber : Capabilities where
  candidateHash := id
  babeUnsafeVrfInfo h := some ⟨h.number, 0⟩
  computeRandomness _ _ _ _ := some 0
  computeAssignments _ _ _ := []
  slotNumberToTick _ slot := slot

/-- The collaborators of the chain `0 ← 1 ← 2` with every request answered: every block is in
session 0, and every write succeeds. -/
def lineServing : Collaborators :=
  { (Chain.line 2).answering with
    sessionIndexForChild := fun _ _ => .ok 0
    sessionInfo := fun _ _ _ => .ok (some ⟨[7], 3⟩)
    candidateEvents := fun _ _ => .ok []
    currentBabeEpoch := fun _ _ => .ok ⟨0, [], 0⟩
    addBlockEntry := fun _ => .ok [] }

/-- `APPROVAL_SESSIONS = 1`. -/
def oneSession : ApprovalSessions := ⟨1, by decide⟩

/-- The same collaborators, but the chain API answers the head's header with an error. -/
def headerUnavailable : Collaborators :=
  { lineServing with blockHeader := fun _ _ => .error "unavailable" }

/-- The same collaborators, but the runtime API has no `SessionInfo`. -/
def sessionsMissing : Collaborators :=
  { lineServing with sessionInfo := fun _ _ _ => .ok none }

/-- The same collaborators, but the runtime API answers `SessionIndexForChild` with an error. -/
def sessionIndexUnavailable : Collaborators :=
  { lineServing with sessionIndexForChild := fun _ _ => .error "unavailable" }

/-- The same collaborators, but the runtime API answers `SessionInfo` with an error. -/
def sessionInfoUnavailable : Collaborators :=
  { lineServing with sessionInfo := fun _ _ _ => .error "unavailable" }

/-- The same collaborators, but every block is in session 100. -/
def sessionHundred : Collaborators :=
  { lineServing with sessionIndexForChild := fun _ _ => .ok 100 }

/-- A DB reader and a DB writer that never fail, and yet `handle_new_head` returns `Err`: the
head's header request is answered with an error. -/
theorem handleNewHead_header_error :
    DbReader.empty.Total ∧ (∀ n, ∃ entries, headerUnavailable.addBlockEntry n = .ok entries) ∧
    (handleNewHead slotIsNumber 6000 oneSession DbReader.empty 2 (some 0) 5 headerUnavailable
      ⟨default, []⟩).1 = .error (.error (.withOrigin "approval-voting" "unavailable")) :=
  ⟨DbReader.empty_total, fun _ => ⟨[], rfl⟩, rfl⟩

/-- Each source in turn: the head's header answered with an error; then the head's session
index; then the `SessionInfo` of session 0, asked third (position 2). -/
theorem handleNewHead_err_sources_unavailable :
    DbReader.empty.Total ∧
    ((∀ n, ∃ entries, headerUnavailable.addBlockEntry n = .ok entries) ∧
      (handleNewHead slotIsNumber 6000 oneSession DbReader.empty 2 (some 0) 5 headerUnavailable
        ⟨default, []⟩).1 = .error (.error (.withOrigin "approval-voting" "unavailable")) ∧
      ((headerUnavailable.blockHeader 0 2).Failed ∨
        (∃ header, headerUnavailable.blockHeader 0 2 = .ok (some header) ∧
          (headerUnavailable.sessionIndexForChild 1 (sessionIndexRelayParent 2 header)).Failed) ∨
        ∃ i relayParent index,
          (handleNewHead slotIsNumber 6000 oneSession DbReader.empty 2 (some 0) 5 headerUnavailable
            ⟨default, []⟩).2.sent[i]? = some (.sessionInfo relayParent index) ∧
          (headerUnavailable.sessionInfo i relayParent index).Failed)) ∧
    ((∀ n, ∃ entries, sessionIndexUnavailable.addBlockEntry n = .ok entries) ∧
      (handleNewHead slotIsNumber 6000 oneSession DbReader.empty 2 (some 0) 5
        sessionIndexUnavailable ⟨default, []⟩).1 =
        .error (.error (.withOrigin "approval-voting" "unavailable")) ∧
      ((sessionIndexUnavailable.blockHeader 0 2).Failed ∨
        (∃ header, sessionIndexUnavailable.blockHeader 0 2 = .ok (some header) ∧
          (sessionIndexUnavailable.sessionIndexForChild 1
            (sessionIndexRelayParent 2 header)).Failed) ∨
        ∃ i relayParent index,
          (handleNewHead slotIsNumber 6000 oneSession DbReader.empty 2 (some 0) 5
            sessionIndexUnavailable ⟨default, []⟩).2.sent[i]? = some (.sessionInfo relayParent index) ∧
          (sessionIndexUnavailable.sessionInfo i relayParent index).Failed)) ∧
    ((∀ n, ∃ entries, sessionInfoUnavailable.addBlockEntry n = .ok entries) ∧
      (handleNewHead slotIsNumber 6000 oneSession DbReader.empty 2 (some 0) 5
        sessionInfoUnavailable ⟨default, []⟩).1 =
        .error (.error (.withOrigin "approval-voting" "unavailable")) ∧
      ((sessionInfoUnavailable.blockHeader 0 2).Failed ∨
        (∃ header, sessionInfoUnavailable.blockHeader 0 2 = .ok (some header) ∧
          (sessionInfoUnavailable.sessionIndexForChild 1
            (sessionIndexRelayParent 2 header)).Failed) ∨
        ∃ i relayParent index,
          (handleNewHead slotIsNumber 6000 oneSession DbReader.empty 2 (some 0) 5
            sessionInfoUnavailable ⟨default, []⟩).2.sent[i]? = some (.sessionInfo relayParent index) ∧
          (sessionInfoUnavailable.sessionInfo i relayParent index).Failed)) :=
  have header : (handleNewHead slotIsNumber 6000 oneSession DbReader.empty 2 (some 0) 5
      headerUnavailable ⟨default, []⟩).1 =
      .error (.error (.withOrigin "approval-voting" "unavailable")) := rfl
  have index : (handleNewHead slotIsNumber 6000 oneSession DbReader.empty 2 (some 0) 5
      sessionIndexUnavailable ⟨default, []⟩).1 =
      .error (.error (.withOrigin "approval-voting" "unavailable")) := rfl
  have info : (handleNewHead slotIsNumber 6000 oneSession DbReader.empty 2 (some 0) 5
      sessionInfoUnavailable ⟨default, []⟩).1 =
      .error (.error (.withOrigin "approval-voting" "unavailable")) := rfl
  ⟨DbReader.empty_total,
    ⟨fun _ => ⟨[], rfl⟩, header, handleNewHead_err_sources slotIsNumber 6000 oneSession
      DbReader.empty 2 (some 0) 5 headerUnavailable ⟨default, []⟩ DbReader.empty_total
      (fun _ => ⟨[], rfl⟩) header⟩,
    ⟨fun _ => ⟨[], rfl⟩, index, handleNewHead_err_sources slotIsNumber 6000 oneSession
      DbReader.empty 2 (some 0) 5 sessionIndexUnavailable ⟨default, []⟩ DbReader.empty_total
      (fun _ => ⟨[], rfl⟩) index⟩,
    ⟨fun _ => ⟨[], rfl⟩, info, handleNewHead_err_sources slotIsNumber 6000 oneSession
      DbReader.empty 2 (some 0) 5 sessionInfoUnavailable ⟨default, []⟩ DbReader.empty_total
      (fun _ => ⟨[], rfl⟩) info⟩⟩

theorem handleNewHead_sessions_unavailable_line :
    sessionsMissing.blockHeader 0 2 = .ok (some ⟨1, 2, []⟩) ∧
    (cacheSessionInfoForHead oneSession 2 ⟨1, 2, []⟩ sessionsMissing
      ((⟨default, []⟩ : Machine).send (.blockHeader 2))).1 ≠ .ok (.ok ()) ∧
    (handleNewHead slotIsNumber 6000 oneSession DbReader.empty 2 (some 0) 5 sessionsMissing
      ⟨default, []⟩).2.sessionWindow = default ∧
    ∃ sessions : List SessionIndex,
      (handleNewHead slotIsNumber 6000 oneSession DbReader.empty 2 (some 0) 5 sessionsMissing
        ⟨default, []⟩).2.sent = [] ++ .blockHeader 2 ::
          .sessionIndexForChild (sessionIndexRelayParent 2 ⟨1, 2, []⟩) ::
            sessions.map (.sessionInfo 2) :=
  have answered : sessionsMissing.blockHeader 0 2 = .ok (some ⟨1, 2, []⟩) := rfl
  have notCached : (cacheSessionInfoForHead oneSession 2 ⟨1, 2, []⟩ sessionsMissing
      ((⟨default, []⟩ : Machine).send (.blockHeader 2))).1 ≠ .ok (.ok ()) := by decide
  ⟨answered, notCached, (handleNewHead_sessions_unavailable slotIsNumber 6000 oneSession
    DbReader.empty 2 (some 0) 5 sessionsMissing ⟨default, []⟩).2 ⟨1, 2, []⟩ answered notCached⟩

/-- On the chain `0 ← 1 ← 2` with block 0 finalized and nothing in the approval DB,
`determine_new_blocks` returns the new blocks oldest first, `[1, 2]`; the loop of
`handle_new_head` walks them with `.rev()`, so it writes block 2's entry before block 1's, and
sends the metadata and returns the imported candidates in that order too. -/
theorem handleNewHead_writes_newest_first :
    (determineNewBlocks DbReader.empty 2 ⟨1, 2, []⟩ 0 5 lineServing ⟨default, []⟩).1 =
      .ok [(1, ⟨0, 1, []⟩), (2, ⟨1, 2, []⟩)] ∧
    (handleNewHead slotIsNumber 6000 oneSession DbReader.empty 2 (some 0) 5 lineServing
      ⟨default, []⟩).1 = .ok [⟨2, 2, 2, 3, []⟩, ⟨1, 1, 1, 3, []⟩] ∧
    entriesWritten (handleNewHead slotIsNumber 6000 oneSession DbReader.empty 2 (some 0) 5
      lineServing ⟨default, []⟩).2.sent = [2, 1] ∧
    newBlocksSent (handleNewHead slotIsNumber 6000 oneSession DbReader.empty 2 (some 0) 5
      lineServing ⟨default, []⟩).2.sent = [[2, 1]] :=
  ⟨rfl, rfl, rfl, rfl⟩

theorem handleNewHead_writes_decreasing_line :
    AnswersOrFails (Chain.line 2) lineServing ∧
    (handleNewHead slotIsNumber 6000 oneSession DbReader.empty 2 (some 0) 5 lineServing
      ⟨default, []⟩).1 = .ok [⟨2, 2, 2, 3, []⟩, ⟨1, 1, 1, 3, []⟩] ∧
    ∃ written : List Nat, written.Pairwise (· > ·) ∧
      entriesWritten (handleNewHead slotIsNumber 6000 oneSession DbReader.empty 2 (some 0) 5
        lineServing ⟨default, []⟩).2.sent = entriesWritten [] ++ written ∧
      ([⟨2, 2, 2, 3, []⟩, ⟨1, 1, 1, 3, []⟩] : List BlockImportedCandidates).map (·.blockNumber) =
        written ∧
      (newBlocksSent (handleNewHead slotIsNumber 6000 oneSession DbReader.empty 2 (some 0) 5
          lineServing ⟨default, []⟩).2.sent = newBlocksSent [] ∧ written = [] ∨
        newBlocksSent (handleNewHead slotIsNumber 6000 oneSession DbReader.empty 2 (some 0) 5
          lineServing ⟨default, []⟩).2.sent = newBlocksSent [] ++ [written]) :=
  have answers : AnswersOrFails (Chain.line 2) lineServing :=
    Answers.answersOrFails ⟨fun _ _ _ => rfl, fun _ _ => rfl⟩
  have returns : (handleNewHead slotIsNumber 6000 oneSession DbReader.empty 2 (some 0) 5
      lineServing ⟨default, []⟩).1 = .ok [⟨2, 2, 2, 3, []⟩, ⟨1, 1, 1, 3, []⟩] := rfl
  ⟨answers, returns, handleNewHead_writes_decreasing slotIsNumber 6000 oneSession DbReader.empty 2
    (some 0) 5 lineServing ⟨default, []⟩ (Chain.line 2) answers returns⟩

theorem handleNewHead_panics_in_cache_jump :
    (handleNewHead slotIsNumber 6000 sixSessions DbReader.empty 2 (some 0) 5 sessionHundred
      ⟨⟨some 0, [⟨[7], 3⟩]⟩, []⟩).1 = .error (.panic "range end index out of range for slice") ∧
    ∃ header, sessionHundred.blockHeader 0 2 = .ok (some header) ∧
      (cacheSessionInfoForHead sixSessions 2 header sessionHundred
        (Machine.send ⟨⟨some 0, [⟨[7], 3⟩]⟩, []⟩ (.blockHeader 2))).1 =
        .error (.panic "range end index out of range for slice") :=
  have panics : (handleNewHead slotIsNumber 6000 sixSessions DbReader.empty 2 (some 0) 5
      sessionHundred ⟨⟨some 0, [⟨[7], 3⟩]⟩, []⟩).1 =
      .error (.panic "range end index out of range for slice") := by decide
  ⟨panics, handleNewHead_panics_in_cache slotIsNumber 6000 sixSessions DbReader.empty 2 (some 0) 5
    sessionHundred ⟨⟨some 0, [⟨[7], 3⟩]⟩, []⟩ panics⟩

end SelendraChain.ApprovalVoting
