import SelendraChain.ApprovalVoting.SessionCache
import SelendraChain.ApprovalVoting.DetermineNewBlocks

/-!
# `imported_block_info` and `handle_new_head`

Source: `src/node/core/approval-voting/src/import.rs`, lines 355-698.

`handle_new_head` fetches the head's header, moves the session window to the head's session
(`cache_session_info_for_head`), walks back to the new blocks (`determine_new_blocks`), and
then, for each new block in the order of `new_blocks.into_iter().rev()`, extracts its info
(`imported_block_info`), writes its approval-DB entry and collects its metadata; last it
sends `NewBlocks`. The approval-DB writer `add_block_entry` is not under `src`: its write is
an effect of the trace and its answer comes from `Collaborators.addBlockEntry`. The
cryptography and the clock the import reads (candidate hashing, BABE's VRF, the assignment
criteria with the keystore, `slot_number_to_tick`) are not under `src` either and enter as
`Capabilities`. Logging is left out.
-/

set_option autoImplicit false

namespace SelendraChain.ApprovalVoting
open Sub

/-- What `babe_unsafe_vrf_info` yields that the import reads: the slot, and the VRF output
that `compute_randomness` turns into the relay VRF story. -/
structure UnsafeVRFOutput where
  slot : Slot
  vrfOutput : Nat
  deriving DecidableEq, Repr

/-- The functions the import calls that are not under `src`. -/
structure Capabilities where
  candidateHash : CandidateReceipt → CandidateHash
  babeUnsafeVrfInfo : Header → Option UnsafeVRFOutput
  /-- `compute_randomness(authorities, randomness, epoch_index)`; `none` for its `Err`. -/
  computeRandomness : UnsafeVRFOutput → List Nat → Nat → Nat → Option RelayVRFStory
  /-- `compute_assignments` with the keystore, on the criteria config of the session and the
  `(core, group)` of each included candidate. -/
  computeAssignments : RelayVRFStory → SessionInfo → List (CoreIndex × GroupIndex) →
    List (CoreIndex × OurAssignment)
  /-- `slot_number_to_tick(slot_duration_millis, slot)`. -/
  slotNumberToTick : Nat → Slot → Tick

structure ImportedBlockInfo where
  includedCandidates : List (CandidateHash × CandidateReceipt × CoreIndex × GroupIndex)
  sessionIndex : SessionIndex
  assignments : List (CoreIndex × OurAssignment)
  nValidators : Nat
  relayVrfStory : RelayVRFStory
  slot : Slot
  deriving DecidableEq, Repr

structure BlockImportedCandidates where
  blockHash : Hash
  blockNumber : Nat
  blockTick : Tick
  noShowDuration : Tick
  importedCandidates : List (CandidateHash × CandidateEntry)
  deriving DecidableEq, Repr

section ImportedBlockInfo

variable (caps : Capabilities)

def includedCandidatesOf (events : List CandidateEvent) :
    List (CandidateHash × CandidateReceipt × CoreIndex × GroupIndex) :=
  events.filterMap fun
    | .candidateIncluded receipt _ core group => some (caps.candidateHash receipt, receipt, core, group)
    | _ => none

/-- `session_window.earliest_session.map_or(true, |e| &session_index < e)`. -/
def ancientSession (window : RollingSessionWindow) (sessionIndex : SessionIndex) : Bool :=
  match window.earliestSession with
  | none => true
  | some earliest => decide (sessionIndex < earliest)

/-- The part of `imported_block_info` after its three requests. -/
def blockInfoOf (window : RollingSessionWindow) (blockHeader : Header)
    (includedCandidates : List (CandidateHash × CandidateReceipt × CoreIndex × GroupIndex))
    (sessionIndex : SessionIndex) (babeEpoch : BabeEpoch) : Option ImportedBlockInfo :=
  match window.getSessionInfo sessionIndex with
  | none => none
  | some sessionInfo =>
    match caps.babeUnsafeVrfInfo blockHeader with
    | none => none
    | some unsafeVrf =>
      match caps.computeRandomness unsafeVrf babeEpoch.authorities babeEpoch.randomness
          babeEpoch.epochIndex with
      | none => none
      | some relayVrf => some
        { includedCandidates, sessionIndex
          assignments := caps.computeAssignments relayVrf sessionInfo
            (includedCandidates.map fun (_, _, core, group) => (core, group))
          nValidators := sessionInfo.validators.length
          relayVrfStory := relayVrf
          slot := unsafeVrf.slot }

/-- Every failure answer, and a session before the window, is `Ok(None)`. -/
def importedBlockInfo (window : RollingSessionWindow) (blockHash : Hash) (blockHeader : Header) :
    Sub (Option ImportedBlockInfo) := do
  match ← requestCandidateEvents blockHash with
  | .closed | .error _ => pure none
  | .ok events =>
    let includedCandidates := includedCandidatesOf caps events
    match ← requestSessionIndexForChild blockHeader.parentHash with
    | .closed | .error _ => pure none
    | .ok sessionIndex =>
      if ancientSession window sessionIndex then pure none else
      match ← requestCurrentBabeEpoch blockHash with
      | .closed | .error _ => pure none
      | .ok babeEpoch =>
        pure (blockInfoOf caps window blockHeader includedCandidates sessionIndex babeEpoch)

end ImportedBlockInfo

/-- `approval_db::v1::add_block_entry` through the DB writer, with `?` on its error. -/
def addBlockEntry (parentHash : Hash) (number : Nat) (entry : BlockEntry) (nValidators : Nat)
    (candidateInfo : List (CandidateHash × NewCandidateInfo)) :
    Sub (List (CandidateHash × CandidateEntry)) := do
  match ← ask (.addBlockEntry parentHash number entry nValidators candidateInfo)
      fun env n => env.addBlockEntry n with
  | .ok entries => pure entries
  | .error e => abort (.error (.withOrigin "approval-voting" e))

/-- `.map_err(|e| SubsystemError::with_origin("approval-voting", e))`. -/
def mapErrWithOrigin {α : Type} (x : Sub α) : Sub α := fun env m =>
  match x env m with
  | (.error (.error e), m') => (.error (.error (.withOriginError "approval-voting" e)), m')
  | other => other

section HandleNewHead

variable (caps : Capabilities) (slotDurationMillis : Nat)

/-- The body of the loop of `handle_new_head` for a block whose info was found. -/
def importBlock (blockHash : Hash) (blockHeader : Header) (info : ImportedBlockInfo) :
    Sub (BlockApprovalMeta × BlockImportedCandidates) := do
  let entry : BlockEntry :=
    { blockHash
      session := info.sessionIndex
      slot := info.slot
      relayVrfStory := info.relayVrfStory
      candidates := info.includedCandidates.map fun (hash, _, core, _) => (core, hash)
      approvedBitfield := List.replicate info.includedCandidates.length false
      children := [] }
  let candidateInfo := info.includedCandidates.map fun (hash, receipt, core, backingGroup) =>
    (hash, ⟨receipt, backingGroup, info.assignments.lookup core⟩)
  let candidateEntries ← addBlockEntry blockHeader.parentHash blockHeader.number entry
    info.nValidators candidateInfo
  let approvalMeta : BlockApprovalMeta :=
    { hash := blockHash
      number := blockHeader.number
      parentHash := blockHeader.parentHash
      candidates := info.includedCandidates.map (·.1)
      slot := info.slot }
  let w ← window
  match w.getSessionInfo info.sessionIndex with
  | none => abort (.panic "imported_block_info requires session to be available; qed")
  | some sessionInfo =>
    pure (approvalMeta,
      { blockHash
        blockNumber := blockHeader.number
        blockTick := caps.slotNumberToTick slotDurationMillis info.slot
        noShowDuration := caps.slotNumberToTick slotDurationMillis sessionInfo.noShowSlots
        importedCandidates := candidateEntries })

/-- The `for` over the new blocks, in the order it is given them; `approvalMeta` and
`importedCandidates` are the two vectors pushed so far. -/
def importBlocks (approvalMeta : List BlockApprovalMeta)
    (importedCandidates : List BlockImportedCandidates) :
    List (Hash × Header) → Sub (List BlockApprovalMeta × List BlockImportedCandidates)
  | [] => pure (approvalMeta, importedCandidates)
  | (blockHash, blockHeader) :: rest => do
    let w ← window
    match ← importedBlockInfo caps w blockHash blockHeader with
    | none => importBlocks approvalMeta importedCandidates rest
    | some info =>
      let (meta, imported) ← importBlock caps slotDurationMillis blockHash blockHeader info
      importBlocks (approvalMeta ++ [meta]) (importedCandidates ++ [imported]) rest

def handleNewHead (approvalSessions : ApprovalSessions) (db : DbReader) (head : Hash)
    (finalizedNumber : Option Nat) (fuel : Nat) : Sub (List BlockImportedCandidates) := do
  match ← requestBlockHeader head with
  | .closed => abort (.error .canceled)
  | .error e => abort (.error (.withOrigin "approval-voting" e))
  | .ok none => pure []
  | .ok (some header) =>
    match ← cacheSessionInfoForHead approvalSessions head header with
    | .error _ => pure []
    | .ok () =>
      let finalizedNumber := finalizedNumber.getD (header.number - 1)
      let newBlocks ← mapErrWithOrigin (determineNewBlocks db head header finalizedNumber fuel)
      let (approvalMeta, importedCandidates) ←
        importBlocks caps slotDurationMillis [] [] newBlocks.reverse
      tell (.newBlocks approvalMeta)
      pure importedCandidates

end HandleNewHead

/-! ### What each part sends, and where it can fail -/

section Parts

variable (caps : Capabilities) (env : Collaborators)

theorem blockInfoOf_session {window : RollingSessionWindow} {blockHeader : Header}
    {includedCandidates : List (CandidateHash × CandidateReceipt × CoreIndex × GroupIndex)}
    {sessionIndex : SessionIndex} {babeEpoch : BabeEpoch} {info : ImportedBlockInfo}
    (found : blockInfoOf caps window blockHeader includedCandidates sessionIndex babeEpoch =
      some info) :
    ∃ sessionInfo, window.getSessionInfo info.sessionIndex = some sessionInfo := by
  unfold blockInfoOf at found
  rcases available : window.getSessionInfo sessionIndex with _ | sessionInfo <;>
    simp only [available, reduceCtorEq] at found
  repeat' split at found
  all_goals cases found
  exact ⟨sessionInfo, available⟩

/-- `imported_block_info` only asks: it never fails, sends a prefix of its three requests and
leaves the window alone, and the info it finds is for a session the window holds. -/
theorem importedBlockInfo_run (window : RollingSessionWindow) (blockHash : Hash)
    (blockHeader : Header) (m : Machine) :
    ∃ info requests, importedBlockInfo caps window blockHash blockHeader env m =
        (.ok info, ⟨m.sessionWindow, m.sent ++ requests⟩) ∧
      requests <+: [.candidateEvents blockHash, .sessionIndexForChild blockHeader.parentHash,
        .currentBabeEpoch blockHash] ∧
      ∀ found, info = some found →
        ∃ sessionInfo, window.getSessionInfo found.sessionIndex = some sessionInfo := by
  simp only [importedBlockInfo, requestCandidateEvents, requestSessionIndexForChild,
    requestCurrentBabeEpoch, run_bind, run_ask]
  -- in each of the three matches, the closed and the error answer end the same way
  rcases env.candidateEvents m.sent.length blockHash with _ | _ | events
  iterate 2
    exact ⟨none, [.candidateEvents blockHash], rfl, List.prefix_append _ [_, _], fun _ => nofun⟩
  simp only [run_bind, run_ask]
  rcases env.sessionIndexForChild (m.send _).sent.length blockHeader.parentHash with
    _ | _ | sessionIndex
  iterate 2
    exact ⟨none, [.candidateEvents blockHash, .sessionIndexForChild blockHeader.parentHash],
      by simp [Machine.send], List.prefix_append _ [_], fun _ => nofun⟩
  by_cases ancient : ancientSession window sessionIndex
  · exact ⟨none, [.candidateEvents blockHash, .sessionIndexForChild blockHeader.parentHash],
      by simp [ancient, Machine.send], List.prefix_append _ [_], fun _ => nofun⟩
  simp only [ancient, Bool.false_eq_true, if_false, run_bind, run_ask]
  rcases env.currentBabeEpoch ((m.send _).send _).sent.length blockHash with _ | _ | babeEpoch
  iterate 2
    exact ⟨none, [.candidateEvents blockHash, .sessionIndexForChild blockHeader.parentHash,
      .currentBabeEpoch blockHash], by simp [Machine.send], List.prefix_refl _, fun _ => nofun⟩
  exact ⟨blockInfoOf caps window blockHeader (includedCandidatesOf caps events) sessionIndex
    babeEpoch, [.candidateEvents blockHash, .sessionIndexForChild blockHeader.parentHash,
    .currentBabeEpoch blockHash], by simp [Machine.send], List.prefix_refl _,
    fun _ found => blockInfoOf_session caps found⟩

/-- The import of a block whose session the window holds never panics: writing the entry
leaves the window, so the `expect` on the session holds. -/
theorem importBlock_noPanic (slotDurationMillis : Nat) (blockHash : Hash) (blockHeader : Header)
    (info : ImportedBlockInfo) (m : Machine) {sessionInfo : SessionInfo}
    (found : m.sessionWindow.getSessionInfo info.sessionIndex = some sessionInfo)
    (message : String) :
    (importBlock caps slotDurationMillis blockHash blockHeader info env m).1 ≠
      .error (.panic message) := by
  simp only [importBlock, addBlockEntry, run_bind, run_ask, run_window]
  rcases env.addBlockEntry m.sent.length with _ | _
  · simp
  simp only [run_pure]
  rw [Machine.send_sessionWindow, found]
  simp

/-- The loop over the new blocks never panics: `imported_block_info` finds only blocks whose
session the window holds. -/
theorem importBlocks_noPanic (slotDurationMillis : Nat) (blocks : List (Hash × Header))
    (approvalMeta : List BlockApprovalMeta) (importedCandidates : List BlockImportedCandidates)
    (m : Machine) (message : String) :
    (importBlocks caps slotDurationMillis approvalMeta importedCandidates blocks env m).1 ≠
      .error (.panic message) := by
  induction blocks generalizing approvalMeta importedCandidates m with
  | nil => simp [importBlocks]
  | cons block rest ih =>
    obtain ⟨blockHash, blockHeader⟩ := block
    obtain ⟨info, requests, asked, -, available⟩ :=
      importedBlockInfo_run caps env m.sessionWindow blockHash blockHeader m
    simp only [importBlocks, run_bind, run_window, asked]
    rcases info with _ | info
    · exact ih _ _ _
    obtain ⟨sessionInfo, found⟩ := available info rfl
    have quiet := importBlock_noPanic caps env slotDurationMillis blockHash blockHeader info
      ⟨m.sessionWindow, m.sent ++ requests⟩ found message
    simp only [run_bind]
    rcases run : importBlock caps slotDurationMillis blockHash blockHeader info env
      ⟨m.sessionWindow, m.sent ++ requests⟩ with ⟨reason | ⟨_, _⟩, m'⟩
    · simpa [run] using quiet
    · exact ih _ _ _

variable (slotDurationMillis : Nat) (writes : ∀ n, ∃ entries, env.addBlockEntry n = .ok entries)
include writes

theorem importBlock_noError (blockHash : Hash) (blockHeader : Header) (info : ImportedBlockInfo)
    (m : Machine) (e : SubsystemError) :
    (importBlock caps slotDurationMillis blockHash blockHeader info env m).1 ≠ .error (.error e) := by
  obtain ⟨entries, written⟩ := writes m.sent.length
  simp only [importBlock, addBlockEntry, run_bind, run_ask, written, run_pure, run_window,
    Machine.send_sessionWindow]
  cases m.sessionWindow.getSessionInfo info.sessionIndex <;> simp

/-- With a DB writer that never fails, the loop over the new blocks never returns `Err`. -/
theorem importBlocks_noError (blocks : List (Hash × Header))
    (approvalMeta : List BlockApprovalMeta) (importedCandidates : List BlockImportedCandidates)
    (m : Machine) (e : SubsystemError) :
    (importBlocks caps slotDurationMillis approvalMeta importedCandidates blocks env m).1 ≠
      .error (.error e) := by
  induction blocks generalizing approvalMeta importedCandidates m with
  | nil => simp [importBlocks]
  | cons block rest ih =>
    obtain ⟨blockHash, blockHeader⟩ := block
    obtain ⟨info, requests, asked, -, -⟩ :=
      importedBlockInfo_run caps env m.sessionWindow blockHash blockHeader m
    simp only [importBlocks, run_bind, run_window, asked]
    rcases info with _ | info
    · exact ih _ _ _
    have quiet := importBlock_noError caps env slotDurationMillis writes blockHash blockHeader info
      ⟨m.sessionWindow, m.sent ++ requests⟩ e
    simp only [run_bind]
    rcases imported : importBlock caps slotDurationMillis blockHash blockHeader info env
      ⟨m.sessionWindow, m.sent ++ requests⟩ with ⟨reason | ⟨_, _⟩, m'⟩
    · simpa [imported] using quiet
    · exact ih _ _ _

end Parts

/-! ### How the walk ends, and what it sends -/

/-- How a walk can end: with its result, out of fuel, or with an error of the DB reader; never
with a panic. -/
def WalkEnds (db : DbReader) {α : Type} : Except Abort α → Prop
  | .ok _ | .error .outOfFuel => True
  | .error (.error e) => ∃ hash, db.loadBlockEntry hash = .error e
  | .error (.panic _) => False

theorem walkEnds_of_read {db : DbReader} {α : Type} {hash : Hash} {e : SubsystemError}
    (read : db.loadBlockEntry hash = .error e) :
    WalkEnds db (.error (.error e) : Except Abort α) :=
  ⟨hash, read⟩

section Walk

variable (db : DbReader) (finalizedNumber : Nat)

/-- A walk from a non-empty ancestry only asks, and ends as `WalkEnds` allows: the inner loop
only pushes, so the `expect` on the ancestry's last block always holds. -/
theorem walkAncestry_ends (fuel : Nat) (ancestry : List (Hash × Header))
    (nonempty : ancestry ≠ []) (env : Collaborators) (m : Machine) :
    ∃ requests, (walkAncestry db finalizedNumber fuel ancestry env m).2.sent = m.sent ++ requests ∧
      (∀ e ∈ requests, e.isRequest) ∧
      WalkEnds db (walkAncestry db finalizedNumber fuel ancestry env m).1 := by
  induction fuel generalizing ancestry m with
  | zero => exact ⟨[], by simp [walkAncestry], nofun, trivial⟩
  | succ fuel ih =>
    obtain ⟨⟨lastHash, lastHeader⟩, last⟩ :=
      Option.ne_none_iff_exists'.1 (mt List.getLast?_eq_none_iff.1 nonempty)
    simp only [walkAncestry, last]
    by_cases short : lastHeader.number ≤ 1
    · simp only [if_pos short, run_pure]
      exact ⟨[], by simp, nofun, trivial⟩
    simp only [if_neg short, run_bind, requestAncestors, run_ask]
    rcases env.ancestors m.sent.length lastHash ancestryStep with _ | _ | hashes
    iterate 2 exact ⟨[.ancestors lastHash ancestryStep], by simp,
      fun _ mem => by rw [List.mem_singleton.1 mem]; rfl, trivial⟩
    simp only [run_bind, fetchHeaders_run]
    have asked : ∀ e ∈ .ancestors lastHash ancestryStep :: hashes.map .blockHeader,
        Effect.isRequest e := by
      simp only [List.mem_cons, List.mem_map]
      rintro e (rfl | ⟨_, -, rfl⟩) <;> rfl
    split_ifs
    · exact ⟨_, by simp, asked, trivial⟩
    rcases pushBatch_result finalizedNumber ancestry (hashes.zip (headersAnswered env
      (m.send (.ancestors lastHash ancestryStep)).sent.length hashes)) with
      ⟨more, pushed⟩ | ⟨hash, e, read, pushed⟩ <;> rw [pushed] <;>
      simp only [run_bind, run_ofResult_ok, run_ofResult_error, Machine.send_sessionWindow,
        Machine.send_sent, List.append_assoc, List.singleton_append]
    · obtain ⟨rest, sent, asks, ends⟩ := ih (ancestry ++ more) (by simp [nonempty])
        ⟨m.sessionWindow, m.sent ++ .ancestors lastHash ancestryStep :: hashes.map .blockHeader⟩
      refine ⟨(.ancestors lastHash ancestryStep :: hashes.map .blockHeader) ++ rest,
        by simpa using sent, fun e mem => ?_, ends⟩
      rcases List.mem_append.1 mem with early | late
      exacts [asked e early, asks e late]
    · exact ⟨_, rfl, asked, walkEnds_of_read read⟩

/-- `determine_new_blocks` only asks, and ends as `WalkEnds` allows. -/
theorem determineNewBlocks_ends (head : Hash) (header : Header) (fuel : Nat)
    (env : Collaborators) (m : Machine) :
    ∃ requests, (determineNewBlocks db head header finalizedNumber fuel env m).2.sent =
        m.sent ++ requests ∧ (∀ e ∈ requests, e.isRequest) ∧
      WalkEnds db (determineNewBlocks db head header finalizedNumber fuel env m).1 := by
  obtain ⟨requests, sent, asks, ends⟩ :=
    walkAncestry_ends db finalizedNumber fuel [(head, header)] (List.cons_ne_nil _ _) env m
  simp only [determineNewBlocks, run_bind]
  rcases read : db.loadBlockEntry head with _ | known
  · exact ⟨[], by simp, nofun, walkEnds_of_read read⟩
  simp only [run_ofResult_ok]
  split_ifs
  · exact ⟨[], by simp, nofun, trivial⟩
  simp only [run_bind]
  rcases parentRead : db.loadBlockEntry header.parentHash with _ | parentKnown
  · exact ⟨[], by simp, nofun, walkEnds_of_read parentRead⟩
  cases parentKnown
  · simp only [run_ofResult_ok, Bool.false_eq_true, if_false, run_bind]
    revert sent ends
    rcases walkAncestry db finalizedNumber fuel [(head, header)] env m with ⟨_ | _, m'⟩ <;>
      exact fun sent ends => ⟨requests, sent, asks, ends⟩
  · exact ⟨[], by simp, nofun, trivial⟩

/-- With a DB reader that never fails, `determine_new_blocks` never returns `Err`. -/
theorem determineNewBlocks_noError (total : db.Total) (head : Hash) (header : Header)
    (fuel : Nat) (env : Collaborators) (m : Machine) (e : SubsystemError) :
    (determineNewBlocks db head header finalizedNumber fuel env m).1 ≠ .error (.error e) :=
  fun failed => by
    obtain ⟨-, -, -, ends⟩ := determineNewBlocks_ends db finalizedNumber head header fuel env m
    rw [failed] at ends
    obtain ⟨hash, read⟩ := ends
    rw [total.loadBlockEntry] at read
    cases read

end Walk

theorem mapErrWithOrigin_ok {α : Type} {x : Sub α} {env : Collaborators} {m m' : Machine} {a : α}
    (ok : x env m = (.ok a, m')) : mapErrWithOrigin x env m = (.ok a, m') := by
  simp only [mapErrWithOrigin, ok]

/-- An error stays an error, and a panic stays the same panic. -/
theorem mapErrWithOrigin_error {α : Type} {x : Sub α} {env : Collaborators} {m m' : Machine}
    {reason : Abort} (failed : x env m = (.error reason, m')) :
    ∃ reason', mapErrWithOrigin x env m = (.error reason', m') ∧
      ∀ message, reason' = .panic message → reason = .panic message := by
  simp only [mapErrWithOrigin, failed]
  rcases reason with _ | _ | _ <;> exact ⟨_, rfl, by simp⟩

theorem mapErrWithOrigin_of_noError {α : Type} (x : Sub α) (env : Collaborators) (m : Machine)
    (quiet : ∀ e, (x env m).1 ≠ .error (.error e)) : mapErrWithOrigin x env m = x env m := by
  unfold mapErrWithOrigin
  rcases result : x env m with ⟨(_ | _ | _) | _, _⟩
  all_goals first | rfl | exact absurd (congrArg Prod.fst result) (quiet _)

/-- The mapping changes only the error: the machine, trace included, is the one `x` left. -/
theorem mapErrWithOrigin_snd {α : Type} (x : Sub α) (env : Collaborators) (m : Machine) :
    (mapErrWithOrigin x env m).2 = (x env m).2 := by
  unfold mapErrWithOrigin
  rcases x env m with ⟨(_ | _ | _) | _, _⟩ <;> rfl

/-! ### The import leaves the session window alone -/

section Window

variable (caps : Capabilities) (slotDurationMillis : Nat)

theorem mapErrWithOrigin_keepsWindow {α : Type} {x : Sub α} (keeps : KeepsWindow x) :
    KeepsWindow (mapErrWithOrigin x) := fun env m => by
  rw [mapErrWithOrigin_snd]
  exact keeps env m

theorem importedBlockInfo_keepsWindow (window : RollingSessionWindow) (blockHash : Hash)
    (blockHeader : Header) : KeepsWindow (importedBlockInfo caps window blockHash blockHeader) :=
  fun env m => by
    obtain ⟨_, _, ran, -⟩ := importedBlockInfo_run caps env window blockHash blockHeader m
    rw [ran]

theorem addBlockEntry_keepsWindow (parentHash : Hash) (number : Nat) (entry : BlockEntry)
    (nValidators : Nat) (candidateInfo : List (CandidateHash × NewCandidateInfo)) :
    KeepsWindow (addBlockEntry parentHash number entry nValidators candidateInfo) := by
  refine keepsWindow_bind (keepsWindow_ask _ _) fun written => ?_
  cases written
  · exact keepsWindow_abort _
  · exact keepsWindow_pure _

theorem importBlock_keepsWindow (blockHash : Hash) (blockHeader : Header)
    (info : ImportedBlockInfo) :
    KeepsWindow (importBlock caps slotDurationMillis blockHash blockHeader info) := by
  refine keepsWindow_bind (addBlockEntry_keepsWindow _ _ _ _ _) fun _ =>
    keepsWindow_bind keepsWindow_window fun w => ?_
  dsimp only
  split
  · exact keepsWindow_abort _
  · exact keepsWindow_pure _

theorem importBlocks_keepsWindow (blocks : List (Hash × Header)) :
    ∀ (approvalMeta : List BlockApprovalMeta) (importedCandidates : List BlockImportedCandidates),
      KeepsWindow (importBlocks caps slotDurationMillis approvalMeta importedCandidates blocks) := by
  induction blocks with
  | nil => exact fun _ _ => keepsWindow_pure _
  | cons block rest ih =>
    intro approvalMeta importedCandidates
    refine keepsWindow_bind keepsWindow_window fun w =>
      keepsWindow_bind (importedBlockInfo_keepsWindow caps w _ _) fun info => ?_
    cases info with
    | none => exact ih _ _
    | some info =>
      exact keepsWindow_bind (importBlock_keepsWindow caps slotDurationMillis _ _ info)
        fun _ => ih _ _

end Window

end SelendraChain.ApprovalVoting
