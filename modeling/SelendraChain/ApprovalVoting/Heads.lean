import SelendraChain.ApprovalVoting.Announcements
import SelendraChain.ApprovalVoting.SessionWindow

/-!
# The session window and the approval DB across new heads

Source: `src/node/core/approval-voting/src/import.rs`, lines 555-698, 237-354 and
373-539.

The subsystem keeps one `RollingSessionWindow` in its `State` and calls `handle_new_head` for
each new head on the window the previous call left. Only `cache_session_info_for_head` writes
the window: the walk of `determine_new_blocks` and the import loop read it at most
(`determineNewBlocks_keepsWindow`, `importBlocks_keepsWindow`), so a call leaves the window
the cache left, or the one it found when the head's header is not answered
(`handleNewHead_window`). The `DBReader` of `State` and the `db_writer` are views of one
approval DB (their construction is in the subsystem's `lib.rs`, not under `src/`): a call reads
the entries the calls before it stored (`handleNewHeads`). What else writes that DB between
heads (approvals, pruning at finality) is left out.

* one call — every call of `handle_new_head` on a valid window leaves a valid window, whatever
  the collaborators answer and whatever the call returns: `Ok`, `Err`, a panic, or a walk out
  of fuel (`handleNewHead_valid`).
* entries — every approval-DB entry a call writes, whatever the call returns, is for a block
  the DB reader reported unknown and above the finalized number (`determineNewBlocks_fresh`),
  and for a session whose `SessionInfo` the window the call leaves holds: `imported_block_info`
  answers only for sessions of the window, and nothing after the cache writes the window
  (`handleNewHead_writes_fresh`). Every block a call announces in `NewBlocks` is one the reader
  reported unknown too (`handleNewHead_announces_fresh`).
* runs — over every sequence of heads, each call on the window the previous call left, the
  window is valid after every call, from the empty window at start-up
  (`handleNewHeads_valid`), and it only moves forward: the session info it held at the start
  is still held, unchanged, at the end unless the start has passed the session
  (`handleNewHeads_advances`). That the window is valid does not mean the calls return: a head
  more than one session past the window's end makes the cache panic.
* stored blocks — from any point of a run on, no entry is written and no `NewBlocks` names a
  block the approval DB held at that point (`handleNewHeads_skips_stored`). A block whose entry
  a call stored without announcing it, when a later write of the call fails, stays
  unannounced for the rest of the run.
-/

set_option autoImplicit false

namespace SelendraChain.ApprovalVoting
open Sub

/-! ### The entries written -/

/-- The block number and the entry of each `add_block_entry` call of a trace, in call order. -/
def entryWrites (sent : List Effect) : List (Nat × BlockEntry) :=
  sent.filterMap fun
    | .addBlockEntry _ number entry _ _ => some (number, entry)
    | _ => none

@[simp] theorem entryWrites_append (sent sent' : List Effect) :
    entryWrites (sent ++ sent') = entryWrites sent ++ entryWrites sent' :=
  List.filterMap_append ..

/-- Requests write no entry. -/
theorem entryWrites_asks {requests : List Effect} (asks : ∀ e ∈ requests, e.isRequest) :
    entryWrites requests = [] := by
  simp only [entryWrites, List.filterMap_eq_nil_iff]
  intro e mem
  have := asks e mem
  cases e <;> first | rfl | cases this

section Entries

variable (caps : Capabilities) (slotDurationMillis : Nat) (env : Collaborators)

/-- A block's import writes one entry, for the block and the session of its info, whatever the
approval DB answers. -/
theorem importBlock_entryWrites (blockHash : Hash) (blockHeader : Header)
    (info : ImportedBlockInfo) (m : Machine) :
    ∃ entry : BlockEntry,
      entryWrites (importBlock caps slotDurationMillis blockHash blockHeader info env m).2.sent =
        entryWrites m.sent ++ [(blockHeader.number, entry)] ∧
      entry.blockHash = blockHash ∧ entry.session = info.sessionIndex := by
  simp only [importBlock, addBlockEntry, run_bind, run_ask, run_window]
  rcases env.addBlockEntry m.sent.length with _ | _
  · simp only [run_abort, Machine.send_sent, entryWrites_append]
    exact ⟨_, rfl, rfl, rfl⟩
  simp only [run_pure, Machine.send_sessionWindow]
  rcases m.sessionWindow.getSessionInfo info.sessionIndex with _ | _ <;>
    simp only [run_abort, run_pure, Machine.send_sent, entryWrites_append] <;>
    exact ⟨_, rfl, rfl, rfl⟩

/-- The import loop writes entries only for its own blocks, under their numbers, and only for
sessions whose `SessionInfo` the window it runs on holds, whatever the runtime API and the
approval DB answer: `imported_block_info` answers a block only when the window holds its
session. -/
theorem importBlocks_entryWrites (blocks : List (Hash × Header)) :
    ∀ (approvalMeta : List BlockApprovalMeta) (importedCandidates : List BlockImportedCandidates)
      (m : Machine), ∃ written,
      entryWrites (importBlocks caps slotDurationMillis approvalMeta importedCandidates blocks
        env m).2.sent = entryWrites m.sent ++ written ∧
      ∀ w ∈ written, (∃ header, (w.2.blockHash, header) ∈ blocks ∧ header.number = w.1) ∧
        ∃ sessionInfo, m.sessionWindow.getSessionInfo w.2.session = some sessionInfo := by
  induction blocks with
  | nil => exact fun _ _ _ => ⟨[], by simp [importBlocks], nofun⟩
  | cons block rest ih =>
    intro approvalMeta importedCandidates m
    obtain ⟨blockHash, blockHeader⟩ := block
    obtain ⟨info, requests, asked, planned, found⟩ :=
      importedBlockInfo_run caps env m.sessionWindow blockHash blockHeader m
    have quiet : entryWrites requests = [] := entryWrites_asks fun e mem => by
      have := planned.subset mem
      simp only [List.mem_cons, List.mem_singleton, List.not_mem_nil, or_false] at this
      rcases this with rfl | rfl | rfl <;> rfl
    -- a write of the rest of the loop stands for a block of the whole list
    have later : ∀ w : Nat × BlockEntry, (∃ header, (w.2.blockHash, header) ∈ rest ∧
        header.number = w.1) → ∃ header, (w.2.blockHash, header) ∈ (blockHash, blockHeader) :: rest ∧
          header.number = w.1 :=
      fun _ ⟨header, mem, numbered⟩ => ⟨header, List.mem_cons_of_mem _ mem, numbered⟩
    simp only [importBlocks, run_bind, run_window, asked]
    rcases info with _ | info
    · obtain ⟨written, writes, held⟩ := ih approvalMeta importedCandidates
        ⟨m.sessionWindow, m.sent ++ requests⟩
      exact ⟨written, by rw [writes, entryWrites_append, quiet, List.append_nil],
        fun w mem => ⟨later w (held w mem).1, (held w mem).2⟩⟩
    obtain ⟨sessionInfo, found⟩ := found info rfl
    simp only [run_bind]
    have keeps := importBlock_keepsWindow caps slotDurationMillis blockHash blockHeader info env
      ⟨m.sessionWindow, m.sent ++ requests⟩
    obtain ⟨entry, writes, hashed, session⟩ := importBlock_entryWrites caps slotDurationMillis env
      blockHash blockHeader info ⟨m.sessionWindow, m.sent ++ requests⟩
    rw [entryWrites_append, quiet, List.append_nil] at writes
    have first : (∃ header, (entry.blockHash, header) ∈ (blockHash, blockHeader) :: rest ∧
        header.number = blockHeader.number) ∧
        ∃ sessionInfo, m.sessionWindow.getSessionInfo entry.session = some sessionInfo :=
      ⟨⟨blockHeader, by rw [hashed]; exact List.mem_cons_self _ _, rfl⟩, sessionInfo, session ▸ found⟩
    rcases run : importBlock caps slotDurationMillis blockHash blockHeader info env
      ⟨m.sessionWindow, m.sent ++ requests⟩ with ⟨_ | ⟨approvalMeta₁, imported₁⟩, m₁⟩ <;>
      rw [run] at keeps writes
    · exact ⟨[(blockHeader.number, entry)], writes, fun w mem => List.mem_singleton.1 mem ▸ first⟩
    obtain ⟨written, writes', held⟩ := ih _ _ m₁
    refine ⟨(blockHeader.number, entry) :: written, by rw [writes', writes, List.append_assoc]; rfl,
      ?_⟩
    rintro w (_ | ⟨_, mem⟩)
    · exact first
    · rw [← keeps]
      exact ⟨later w (held w mem).1, (held w mem).2⟩

end Entries

/-! ### The blocks announced -/

/-- The hashes of the blocks of each `NewBlocks` message of a trace, in order. -/
def blocksAnnounced (sent : List Effect) : List Hash :=
  (sent.filterMap fun
    | .newBlocks metas => some (metas.map (·.hash))
    | _ => none).flatten

@[simp] theorem blocksAnnounced_append (sent sent' : List Effect) :
    blocksAnnounced (sent ++ sent') = blocksAnnounced sent ++ blocksAnnounced sent' := by
  simp only [blocksAnnounced, List.filterMap_append, List.flatten_append]

@[simp] theorem blocksAnnounced_newBlocks (metas : List BlockApprovalMeta) :
    blocksAnnounced [.newBlocks metas] = metas.map (·.hash) := by
  simp [blocksAnnounced]

/-- A part of a trace that adds no `NewBlocks` announces no block. -/
theorem blocksAnnounced_quiet {sent more : List Effect}
    (quiet : newBlocksSent (sent ++ more) = newBlocksSent sent) : blocksAnnounced more = [] := by
  rw [newBlocksSent_append, List.append_right_eq_self, newBlocksSent,
    List.filterMap_eq_nil_iff] at quiet
  rw [blocksAnnounced, List.filterMap_eq_nil_iff.2 fun e mem => ?_, List.flatten_nil]
  have := quiet e mem
  cases e <;> first | rfl | cases this

section Metas

variable (caps : Capabilities) (slotDurationMillis : Nat) (env : Collaborators)

theorem importBlock_meta {blockHash : Hash} {blockHeader : Header} {info : ImportedBlockInfo}
    {m m' : Machine} {approvalMeta : BlockApprovalMeta} {imported : BlockImportedCandidates}
    (returns : importBlock caps slotDurationMillis blockHash blockHeader info env m =
      (.ok (approvalMeta, imported), m')) :
    approvalMeta.hash = blockHash := by
  simp only [importBlock, addBlockEntry, run_bind, run_ask, run_window] at returns
  rcases written : env.addBlockEntry m.sent.length with _ | _ <;>
    simp only [written, run_abort, run_pure] at returns
  · simp at returns
  rw [Machine.send_sessionWindow] at returns
  rcases found : m.sessionWindow.getSessionInfo info.sessionIndex with _ | _ <;>
    simp only [found, run_abort, run_pure, Prod.mk.injEq, reduceCtorEq, false_and,
      Except.ok.injEq] at returns
  obtain ⟨⟨rfl, -⟩, -⟩ := returns
  rfl

/-- The metadata the loop pushes is of its own blocks. -/
theorem importBlocks_metas (blocks : List (Hash × Header)) :
    ∀ (approvalMeta : List BlockApprovalMeta) (importedCandidates : List BlockImportedCandidates)
      (m : Machine) {metas : List BlockApprovalMeta} {imported : List BlockImportedCandidates}
      {m' : Machine},
      importBlocks caps slotDurationMillis approvalMeta importedCandidates blocks env m =
        (.ok (metas, imported), m') →
      ∀ meta ∈ metas, meta ∈ approvalMeta ∨ ∃ header, (meta.hash, header) ∈ blocks := by
  induction blocks with
  | nil =>
    intro approvalMeta importedCandidates m metas imported m' returns
    simp only [importBlocks, run_pure, Prod.mk.injEq, Except.ok.injEq] at returns
    obtain ⟨⟨rfl, -⟩, -⟩ := returns
    exact fun _ => .inl
  | cons block rest ih =>
    intro approvalMeta importedCandidates m metas imported m' returns meta listed
    obtain ⟨blockHash, blockHeader⟩ := block
    -- a metadata of the rest of the loop stands for a block of the whole list
    have later : (∃ header, (meta.hash, header) ∈ rest) →
        ∃ header, (meta.hash, header) ∈ (blockHash, blockHeader) :: rest :=
      fun ⟨header, mem⟩ => ⟨header, List.mem_cons_of_mem _ mem⟩
    obtain ⟨info, requests, asked, -, -⟩ :=
      importedBlockInfo_run caps env m.sessionWindow blockHash blockHeader m
    simp only [importBlocks, run_bind, run_window, asked] at returns
    rcases info with _ | info
    · exact (ih _ _ _ returns meta listed).imp id later
    simp only [run_bind] at returns
    rcases run : importBlock caps slotDurationMillis blockHash blockHeader info env
      ⟨m.sessionWindow, m.sent ++ requests⟩ with ⟨_ | ⟨approvalMeta₁, imported₁⟩, m₁⟩ <;>
      rw [run] at returns
    · simp at returns
    rcases ih _ _ _ returns meta listed with old | fromRest
    · rcases List.mem_append.1 old with old | new
      · exact .inl old
      · rw [List.mem_singleton.1 new, importBlock_meta caps slotDurationMillis env run]
        exact .inr ⟨blockHeader, List.mem_cons_self _ _⟩
    · exact .inr (later fromRest)

end Metas

/-! ### The trace only grows -/

section Grows

variable (caps : Capabilities) (slotDurationMillis : Nat)

theorem importedBlockInfo_grows (window : RollingSessionWindow) (blockHash : Hash)
    (blockHeader : Header) : Grows (importedBlockInfo caps window blockHash blockHeader) :=
  fun env m => by
    obtain ⟨_, requests, ran, -⟩ := importedBlockInfo_run caps env window blockHash blockHeader m
    exact ⟨requests, by rw [ran]⟩

theorem addBlockEntry_grows (parentHash : Hash) (number : Nat) (entry : BlockEntry)
    (nValidators : Nat) (candidateInfo : List (CandidateHash × NewCandidateInfo)) :
    Grows (addBlockEntry parentHash number entry nValidators candidateInfo) := by
  refine grows_bind (grows_ask _ _) fun written => ?_
  cases written
  · exact grows_abort _
  · exact grows_pure _

theorem importBlock_grows (blockHash : Hash) (blockHeader : Header) (info : ImportedBlockInfo) :
    Grows (importBlock caps slotDurationMillis blockHash blockHeader info) := by
  refine grows_bind (addBlockEntry_grows _ _ _ _ _) fun _ => grows_bind grows_window fun w => ?_
  dsimp only
  split
  · exact grows_abort _
  · exact grows_pure _

theorem importBlocks_grows (blocks : List (Hash × Header)) :
    ∀ (approvalMeta : List BlockApprovalMeta) (importedCandidates : List BlockImportedCandidates),
      Grows (importBlocks caps slotDurationMillis approvalMeta importedCandidates blocks) := by
  induction blocks with
  | nil => exact fun _ _ => grows_pure _
  | cons block rest ih =>
    intro approvalMeta importedCandidates
    refine grows_bind grows_window fun w =>
      grows_bind (importedBlockInfo_grows caps w _ _) fun info => ?_
    cases info with
    | none => exact ih _ _
    | some info =>
      exact grows_bind (importBlock_grows caps slotDurationMillis _ _ info) fun _ => ih _ _

/-- A call of `handle_new_head` only appends to the trace, however it ends. -/
theorem handleNewHead_grows (approvalSessions : ApprovalSessions) (db : DbReader) (head : Hash)
    (finalizedNumber : Option Nat) (fuel : Nat) :
    Grows (handleNewHead caps slotDurationMillis approvalSessions db head finalizedNumber fuel) := by
  refine grows_bind (grows_ask _ _) fun answer => ?_
  rcases answer with _ | _ | _ | header
  iterate 2 exact grows_abort _
  · exact grows_pure _
  refine grows_bind (fun env m => ?_) fun cached => ?_
  · obtain ⟨sessions, sent⟩ := cacheSessionInfoForHead_sent approvalSessions head header env m
    exact ⟨_, sent⟩
  rcases cached with _ | ⟨⟩
  · exact grows_pure _
  refine grows_bind (fun env m => ?_) fun newBlocks =>
    grows_bind (importBlocks_grows caps slotDurationMillis _ [] []) fun _ =>
      grows_bind (grows_tell _) fun _ => grows_pure _
  obtain ⟨requests, sent, -, -⟩ := determineNewBlocks_ends db
    (finalizedNumber.getD (header.number - 1)) head header fuel env m
  exact ⟨requests, by rw [mapErrWithOrigin_snd, sent]⟩

end Grows

/-! ### One call, and runs of calls -/

section Call

variable (caps : Capabilities) (slotDurationMillis : Nat) (approvalSessions : ApprovalSessions)
  (db : DbReader) (head : Hash) (finalizedNumber : Option Nat) (fuel : Nat) (env : Collaborators)
  (m : Machine)

/-- A call leaves the window it found, or the window the cache left for the head. -/
theorem handleNewHead_window :
    (handleNewHead caps slotDurationMillis approvalSessions db head finalizedNumber fuel env
        m).2.sessionWindow = m.sessionWindow ∨
      ∃ header, env.blockHeader m.sent.length head = .ok (some header) ∧
        (handleNewHead caps slotDurationMillis approvalSessions db head finalizedNumber fuel env
            m).2.sessionWindow =
          (cacheSessionInfoForHead approvalSessions head header env
            (m.send (.blockHeader head))).2.sessionWindow := by
  rcases answered : env.blockHeader m.sent.length head with _ | _ | _ | header
  iterate 3
    left
    simp only [handleNewHead, requestBlockHeader, run_bind, run_ask, answered, run_abort,
      run_pure, Machine.send_sessionWindow]
  refine .inr ⟨header, rfl, ?_⟩
  rw [handleNewHead_of_header caps slotDurationMillis approvalSessions db head finalizedNumber fuel
    env m answered]
  rcases cacheSessionInfoForHead approvalSessions head header env (m.send (.blockHeader head)) with
    ⟨_ | (_ | ⟨⟩), m'⟩
  · rfl
  · rfl
  -- past a successful cache, the walk, the import loop and `NewBlocks` leave the window alone
  exact keepsWindow_bind (mapErrWithOrigin_keepsWindow (determineNewBlocks_keepsWindow db _ head
    header fuel)) (fun newBlocks => keepsWindow_bind (importBlocks_keepsWindow caps
      slotDurationMillis newBlocks.reverse [] []) fun ⟨approvalMeta, _⟩ =>
        keepsWindow_bind (keepsWindow_tell _) fun _ => keepsWindow_pure _) env m'

theorem handleNewHead_valid (valid : m.sessionWindow.Valid approvalSessions) :
    (handleNewHead caps slotDurationMillis approvalSessions db head finalizedNumber fuel env
      m).2.sessionWindow.Valid approvalSessions := by
  rcases handleNewHead_window caps slotDurationMillis approvalSessions db head finalizedNumber
    fuel env m with same | ⟨header, -, cached⟩
  · exact same ▸ valid
  · rw [cached]
    exact cacheSessionInfoForHead_valid approvalSessions head env header _ valid

/-- A call, stage by stage: it ends after requests only, or its walk returns blocks the DB reader
reported unknown, after requests only, and the call is then the import loop on them, followed
by `NewBlocks` when the loop returns. -/
theorem handleNewHead_stages :
    (∃ requests, (handleNewHead caps slotDurationMillis approvalSessions db head finalizedNumber
        fuel env m).2.sent = m.sent ++ requests ∧ ∀ e ∈ requests, e.isRequest) ∨
    ∃ (header : Header) (newBlocks : List (Hash × Header)) (m₂ : Machine) (requests : List Effect),
      env.blockHeader m.sent.length head = .ok (some header) ∧
      (∀ b ∈ newBlocks, Fresh db (finalizedNumber.getD (header.number - 1)) b) ∧
      m₂.sent = m.sent ++ requests ∧ (∀ e ∈ requests, e.isRequest) ∧
      handleNewHead caps slotDurationMillis approvalSessions db head finalizedNumber fuel env m =
        match importBlocks caps slotDurationMillis [] [] newBlocks.reverse env m₂ with
        | (.ok (metas, imported), m₃) => (.ok imported, m₃.send (.newBlocks metas))
        | (.error e, m₃) => (.error e, m₃) := by
  rcases answered : env.blockHeader m.sent.length head with _ | _ | _ | header
  iterate 3
    refine .inl ⟨[.blockHeader head], ?_, fun e mem => by rw [List.mem_singleton.1 mem]; rfl⟩
    simp only [handleNewHead, requestBlockHeader, run_bind, run_ask, answered, run_abort,
      run_pure, Machine.send_sent]
  rw [handleNewHead_of_header caps slotDurationMillis approvalSessions db head finalizedNumber fuel
    env m answered]
  obtain ⟨cacheRequests, cacheSent, cacheAsks⟩ :=
    cacheSessionInfoForHead_asks approvalSessions head env m header
  rcases cached : cacheSessionInfoForHead approvalSessions head header env
    (m.send (.blockHeader head)) with ⟨_ | (_ | ⟨⟩), m₁⟩ <;> rw [cached] at cacheSent <;>
    dsimp only at cacheSent
  iterate 2 exact .inl ⟨cacheRequests, cacheSent, cacheAsks⟩
  obtain ⟨requests, walkSent, walkAsks, -⟩ := determineNewBlocks_ends db
    (finalizedNumber.getD (header.number - 1)) head header fuel env m₁
  have fresh := determineNewBlocks_fresh db (finalizedNumber.getD (header.number - 1)) head header
    fuel env m₁
  have asks : ∀ e ∈ cacheRequests ++ requests, e.isRequest :=
    fun e mem => (List.mem_append.1 mem).elim (cacheAsks e) (walkAsks e)
  simp only [run_bind]
  rcases walked : determineNewBlocks db head header (finalizedNumber.getD (header.number - 1)) fuel
    env m₁ with ⟨_ | newBlocks, m₂⟩ <;> rw [walked] at walkSent fresh <;> dsimp only at walkSent
  · obtain ⟨_, failed, -⟩ := mapErrWithOrigin_error walked
    rw [failed]
    exact .inl ⟨_, by rw [walkSent, cacheSent, List.append_assoc], asks⟩
  rw [mapErrWithOrigin_ok walked]
  refine .inr ⟨header, newBlocks, m₂, _, rfl, fresh newBlocks rfl,
    by rw [walkSent, cacheSent, List.append_assoc], asks, ?_⟩
  simp only [run_bind]
  rcases importBlocks caps slotDurationMillis [] [] newBlocks.reverse env m₂ with
    ⟨_ | ⟨metas, imported⟩, m₃⟩ <;> rfl

/-- Every entry a call writes is for a block the DB reader reported unknown, numbered above the
finalized number the walk used, and for a session of the window the call leaves. -/
theorem handleNewHead_entryWrites_fresh :
    ∃ written, entryWrites (handleNewHead caps slotDurationMillis approvalSessions db head
        finalizedNumber fuel env m).2.sent = entryWrites m.sent ++ written ∧
      ∀ w ∈ written, db.loadBlockEntry w.2.blockHash = .ok false ∧
        (∃ header, env.blockHeader m.sent.length head = .ok (some header) ∧
          finalizedNumber.getD (header.number - 1) < w.1) ∧
        ∃ sessionInfo, (handleNewHead caps slotDurationMillis approvalSessions db head
          finalizedNumber fuel env m).2.sessionWindow.getSessionInfo w.2.session =
            some sessionInfo := by
  rcases handleNewHead_stages caps slotDurationMillis approvalSessions db head finalizedNumber fuel
    env m with ⟨requests, sent, asks⟩ | ⟨header, newBlocks, m₂, requests, answered, fresh, sent,
      asks, call⟩
  · exact ⟨[], by rw [sent, entryWrites_append, entryWrites_asks asks], nofun⟩
  rw [call]
  -- the loop writes for the walk's blocks and the sessions of the window it keeps
  obtain ⟨written, writes, held⟩ :=
    importBlocks_entryWrites caps slotDurationMillis env newBlocks.reverse [] [] m₂
  have importKeeps := importBlocks_keepsWindow caps slotDurationMillis newBlocks.reverse [] [] env m₂
  rw [sent, entryWrites_append, entryWrites_asks asks, List.append_nil] at writes
  have written_fresh : ∀ w ∈ written, db.loadBlockEntry w.2.blockHash = .ok false ∧
      (∃ header', env.blockHeader m.sent.length head = .ok (some header') ∧
        finalizedNumber.getD (header'.number - 1) < w.1) ∧
      ∃ sessionInfo, m₂.sessionWindow.getSessionInfo w.2.session = some sessionInfo := by
    intro w mem
    obtain ⟨⟨block, listed, numbered⟩, held⟩ := held w mem
    obtain ⟨unknown, above⟩ := fresh _ (List.mem_reverse.1 listed)
    exact ⟨unknown, ⟨header, answered, numbered ▸ above⟩, held⟩
  rcases run : importBlocks caps slotDurationMillis [] [] newBlocks.reverse env m₂ with
    ⟨_ | ⟨metas, imported⟩, m₃⟩ <;> rw [run] at writes importKeeps
  · exact ⟨written, writes, by rw [importKeeps]; exact written_fresh⟩
  · refine ⟨written, ?_, by rw [Machine.send_sessionWindow, importKeeps]; exact written_fresh⟩
    rw [Machine.send_sent, entryWrites_append, writes]
    exact List.append_nil _

/-- Every block a call announces in `NewBlocks` is one the DB reader reported unknown: the
message carries the metadata of the loop's blocks, which the walk found untracked. -/
theorem handleNewHead_announces_fresh :
    ∃ announced, blocksAnnounced (handleNewHead caps slotDurationMillis approvalSessions db head
        finalizedNumber fuel env m).2.sent = blocksAnnounced m.sent ++ announced ∧
      ∀ hash ∈ announced, db.loadBlockEntry hash = .ok false := by
  rcases handleNewHead_stages caps slotDurationMillis approvalSessions db head finalizedNumber fuel
    env m with ⟨requests, sent, asks⟩ | ⟨header, newBlocks, m₂, requests, -, fresh, sent, asks,
      call⟩
  · exact ⟨[], by rw [sent, blocksAnnounced_append,
      blocksAnnounced_quiet (written_append_asks m.sent _ asks).2], nofun⟩
  rw [call]
  -- the loop announces nothing; the message after it names the loop's blocks
  have quiet := blocksAnnounced_quiet (written_append_asks m.sent _ asks).2
  have looped := importBlocks_announces_nothing caps slotDurationMillis env newBlocks.reverse [] []
    m₂
  obtain ⟨more, grown⟩ := importBlocks_grows caps slotDurationMillis newBlocks.reverse [] [] env m₂
  rcases run : importBlocks caps slotDurationMillis [] [] newBlocks.reverse env m₂ with
    ⟨_ | ⟨metas, imported⟩, m₃⟩ <;> rw [run] at looped grown <;> dsimp only at grown <;>
    rw [grown] at looped
  · exact ⟨[], by simp only [grown, sent, blocksAnnounced_append, blocksAnnounced_quiet looped,
      quiet, List.append_nil], nofun⟩
  refine ⟨metas.map (·.hash), ?_, fun hash mem => ?_⟩
  · simp only [Machine.send_sent, blocksAnnounced_append, grown, blocksAnnounced_quiet looped, sent,
      quiet, blocksAnnounced_newBlocks, List.append_nil]
  obtain ⟨meta, listed, rfl⟩ := List.mem_map.1 mem
  rcases importBlocks_metas caps slotDurationMillis env newBlocks.reverse [] [] m₂ run meta
    listed with old | ⟨block, found⟩
  · cases old
  · exact (fresh _ (List.mem_reverse.1 found)).1

/-- Whatever the chain API, the runtime API and the approval DB answer, and whatever the call
returns, every approval-DB entry a call of `handle_new_head` writes is for a block the DB
reader reported unknown, numbered above the finalized number the walk used, and for a session
whose `SessionInfo` the window the call leaves holds. -/
theorem handleNewHead_writes_fresh :
    ∃ written, entryWrites (handleNewHead caps slotDurationMillis approvalSessions db head
        finalizedNumber fuel env m).2.sent = entryWrites m.sent ++ written ∧
      ∀ w ∈ written, db.loadBlockEntry w.2.blockHash = .ok false ∧
        (∃ header, env.blockHeader m.sent.length head = .ok (some header) ∧
          finalizedNumber.getD (header.number - 1) < w.1) ∧
        ∃ sessionInfo, (handleNewHead caps slotDurationMillis approvalSessions db head
          finalizedNumber fuel env m).2.sessionWindow.getSessionInfo w.2.session =
            some sessionInfo :=
  handleNewHead_entryWrites_fresh caps slotDurationMillis approvalSessions db head finalizedNumber
    fuel env m

end Call

/-! ### The approval DB across calls -/

/-- The hash of each `add_block_entry` call of a trace that the DB writer carried out, those
`env` answered `Ok` at their position, in call order: the blocks the trace stored. -/
def blocksStored (env : Collaborators) (sent : List Effect) : List Hash :=
  sent.enum.filterMap fun
    | (i, .addBlockEntry _ _ entry _ _) =>
      if (env.addBlockEntry i).isOk then some entry.blockHash else none
    | _ => none

/-- What a trace stored stays stored as the trace grows. -/
theorem blocksStored_append (env : Collaborators) (sent more : List Effect) :
    ∃ later, blocksStored env (sent ++ more) = blocksStored env sent ++ later := by
  simp only [blocksStored, List.enum_append, List.filterMap_append]
  exact ⟨_, rfl⟩

/-- The approval DB once the blocks `stored` have entries: it finds those, and reads every other
block as `db` does. -/
def DbReader.withStored (db : DbReader) (stored : List Hash) : DbReader :=
  ⟨fun hash => if hash ∈ stored then .ok true else db.loadBlockEntry hash⟩

theorem DbReader.withStored_unknown {db : DbReader} {stored : List Hash} {hash : Hash} :
    (db.withStored stored).loadBlockEntry hash = .ok false ↔
      hash ∉ stored ∧ db.loadBlockEntry hash = .ok false := by
  by_cases mem : hash ∈ stored <;> simp [DbReader.withStored, mem]

/-- A block unknown to the DB with more stored is unknown with less. -/
theorem DbReader.withStored_unknown_append {db : DbReader} {stored later : List Hash}
    {hash : Hash} (unknown : (db.withStored (stored ++ later)).loadBlockEntry hash = .ok false) :
    (db.withStored stored).loadBlockEntry hash = .ok false := by
  rw [DbReader.withStored_unknown, List.mem_append, not_or] at unknown
  exact DbReader.withStored_unknown.2 ⟨unknown.1.1, unknown.2⟩

section Runs

variable (caps : Capabilities) (slotDurationMillis : Nat) (approvalSessions : ApprovalSessions)
  (db : DbReader) (fuel : Nat)

/-- Successive calls of `handle_new_head`, one per new head with the finalized number known at
the time, each on the state the previous call left, whatever it returned; a panic ends the
run. The subsystem's DB reader and its DB writer are views of one approval DB: each call reads
it as `db`, the DB before the trace began, with the entries the trace has stored since. -/
def handleNewHeads : List (Hash × Option Nat) → Sub Unit
  | [] => pure ()
  | (head, finalizedNumber) :: heads => fun env m =>
    match handleNewHead caps slotDurationMillis approvalSessions
        (db.withStored (blocksStored env m.sent)) head finalizedNumber fuel env m with
    | (.error (.panic message), m') => (.error (.panic message), m')
    | (_, m') => handleNewHeads heads env m'

/-- The window of a subsystem that has just started holds no session. -/
theorem valid_default : (default : RollingSessionWindow).Valid approvalSessions := rfl

/-- Over every sequence of new heads and whatever the chain API, the runtime API and the
approval DB answer, the session window stays valid after every call of `handle_new_head`,
each call on the window the previous call left, whatever it returned, a panic included: empty,
or between one and `APPROVAL_SESSIONS` contiguous sessions ending at its latest session. -/
theorem handleNewHeads_valid (heads : List (Hash × Option Nat)) (env : Collaborators)
    (m : Machine) (valid : m.sessionWindow.Valid approvalSessions) :
    (handleNewHeads caps slotDurationMillis approvalSessions db fuel heads env
      m).2.sessionWindow.Valid approvalSessions := by
  induction heads generalizing m with
  | nil => exact valid
  | cons call heads ih =>
    obtain ⟨head, finalizedNumber⟩ := call
    have step := handleNewHead_valid caps slotDurationMillis approvalSessions
      (db.withStored (blocksStored env m.sent)) head finalizedNumber fuel env m valid
    simp only [handleNewHeads]
    generalize handleNewHead caps slotDurationMillis approvalSessions
      (db.withStored (blocksStored env m.sent)) head finalizedNumber fuel env m = out at step ⊢
    obtain ⟨((_ | _ | _) | _), m'⟩ := out
    all_goals first | exact step | exact ih _ step

/-- A run over `before ++ after` is the run over `before`, then, unless a call panicked, the run
over `after` from where it stopped. -/
theorem handleNewHeads_append (before after : List (Hash × Option Nat)) :
    handleNewHeads caps slotDurationMillis approvalSessions db fuel (before ++ after) =
      handleNewHeads caps slotDurationMillis approvalSessions db fuel before >>= fun _ =>
        handleNewHeads caps slotDurationMillis approvalSessions db fuel after := by
  induction before with
  | nil => rfl
  | cons call before ih =>
    obtain ⟨head, finalizedNumber⟩ := call
    funext env m
    simp only [List.cons_append, handleNewHeads, run_bind, List.append_eq]
    generalize handleNewHead caps slotDurationMillis approvalSessions
      (db.withStored (blocksStored env m.sent)) head finalizedNumber fuel env m = out
    obtain ⟨((_ | _ | _) | _), m'⟩ := out
    all_goals first | rfl | rw [ih]; rfl

/-- A projection of the trace to which each call adds only items for blocks its DB reader reports
unknown: over a run, every item added is for a block the approval DB, as the run found it, did
not hold, since each later call reads the blocks stored before it. -/
theorem handleNewHeads_fresh {α : Type} (project : List Effect → List α) (key : α → Hash)
    (env : Collaborators)
    (call : ∀ (reader : DbReader) (head : Hash) (finalizedNumber : Option Nat) (m : Machine),
      ∃ new, project (handleNewHead caps slotDurationMillis approvalSessions reader head
          finalizedNumber fuel env m).2.sent = project m.sent ++ new ∧
        ∀ x ∈ new, reader.loadBlockEntry (key x) = .ok false)
    (heads : List (Hash × Option Nat)) :
    ∀ m : Machine, ∃ new,
      project (handleNewHeads caps slotDurationMillis approvalSessions db fuel heads env
        m).2.sent = project m.sent ++ new ∧
      ∀ x ∈ new, (db.withStored (blocksStored env m.sent)).loadBlockEntry (key x) = .ok false := by
  induction heads with
  | nil => exact fun m => ⟨[], (List.append_nil _).symm, nofun⟩
  | cons head heads ih =>
    intro m
    obtain ⟨head, finalizedNumber⟩ := head
    obtain ⟨new, added, fresh⟩ :=
      call (db.withStored (blocksStored env m.sent)) head finalizedNumber m
    obtain ⟨more, grown⟩ := handleNewHead_grows caps slotDurationMillis approvalSessions
      (db.withStored (blocksStored env m.sent)) head finalizedNumber fuel env m
    simp only [handleNewHeads]
    generalize handleNewHead caps slotDurationMillis approvalSessions
      (db.withStored (blocksStored env m.sent)) head finalizedNumber fuel env m = out
      at added grown ⊢
    obtain ⟨result, m'⟩ := out
    -- the next call reads what this one stored on top of what this one read
    have continues : ∃ new, project (handleNewHeads caps slotDurationMillis approvalSessions db
          fuel heads env m').2.sent = project m.sent ++ new ∧
        ∀ x ∈ new, (db.withStored (blocksStored env m.sent)).loadBlockEntry (key x) =
          .ok false := by
      obtain ⟨new', added', fresh'⟩ := ih m'
      obtain ⟨later, stored⟩ := blocksStored_append env m.sent more
      refine ⟨new ++ new', by rw [added', added, List.append_assoc], fun x mem => ?_⟩
      rcases List.mem_append.1 mem with mem | mem
      · exact fresh x mem
      · have unknown := fresh' x mem
        rw [grown, stored] at unknown
        exact DbReader.withStored_unknown_append unknown
    rcases result with ((_ | _ | _) | _)
    all_goals first | exact ⟨new, added, fresh⟩ | exact continues

/-- Over every run of new heads, each call reading the approval DB as the calls before it left
it, and whatever the chain API, the runtime API and the DB writer answer: from any point of the
run on, no `add_block_entry` is made and no `NewBlocks` names a block the approval DB held at
that point, neither a block stored before the run nor one a call of the run stored. A block
stored and not announced by one call, as when a later write of that call fails, is never
announced by the rest of the run. -/
theorem handleNewHeads_skips_stored (before after : List (Hash × Option Nat))
    (env : Collaborators) (m : Machine) :
    (∃ written,
      entryWrites (handleNewHeads caps slotDurationMillis approvalSessions db fuel (before ++ after)
        env m).2.sent =
        entryWrites (handleNewHeads caps slotDurationMillis approvalSessions db fuel before env
          m).2.sent ++ written ∧
      ∀ w ∈ written, w.2.blockHash ∉ blocksStored env (handleNewHeads caps slotDurationMillis
          approvalSessions db fuel before env m).2.sent ∧
        db.loadBlockEntry w.2.blockHash = .ok false) ∧
    ∃ announced,
      blocksAnnounced (handleNewHeads caps slotDurationMillis approvalSessions db fuel
        (before ++ after) env m).2.sent =
        blocksAnnounced (handleNewHeads caps slotDurationMillis approvalSessions db fuel before env
          m).2.sent ++ announced ∧
      ∀ hash ∈ announced, hash ∉ blocksStored env (handleNewHeads caps slotDurationMillis
          approvalSessions db fuel before env m).2.sent ∧
        db.loadBlockEntry hash = .ok false := by
  rw [handleNewHeads_append, run_bind]
  generalize handleNewHeads caps slotDurationMillis approvalSessions db fuel before env m = out
  obtain ⟨_ | _, m'⟩ := out
  · exact ⟨⟨[], (List.append_nil _).symm, nofun⟩, [], (List.append_nil _).symm, nofun⟩
  obtain ⟨written, writes, unknown⟩ := handleNewHeads_fresh caps slotDurationMillis
    approvalSessions db fuel entryWrites (·.2.blockHash) env
    (fun reader head finalizedNumber m => by
      obtain ⟨written, writes, fresh⟩ := handleNewHead_entryWrites_fresh caps slotDurationMillis
        approvalSessions reader head finalizedNumber fuel env m
      exact ⟨written, writes, fun w mem => (fresh w mem).1⟩) after m'
  obtain ⟨announced, announces, unknown'⟩ := handleNewHeads_fresh caps slotDurationMillis
    approvalSessions db fuel blocksAnnounced id env
    (handleNewHead_announces_fresh caps slotDurationMillis approvalSessions · · · fuel env ·)
    after m'
  exact ⟨⟨written, writes, fun w mem => DbReader.withStored_unknown.1 (unknown w mem)⟩,
    announced, announces, fun hash mem => DbReader.withStored_unknown.1 (unknown' hash mem)⟩

/-- The chain `0 ← 1 ← 2` with head 2 twice, from start-up. -/
theorem handleNewHeads_valid_line :
    (⟨default, []⟩ : Machine).sessionWindow.Valid oneSession ∧
      (handleNewHeads slotIsNumber 6000 oneSession DbReader.empty 5 [(2, some 0), (2, some 0)]
        lineServing ⟨default, []⟩).2.sessionWindow.Valid oneSession :=
  ⟨rfl, by apply handleNewHeads_valid; rfl⟩

end Runs

end SelendraChain.ApprovalVoting
