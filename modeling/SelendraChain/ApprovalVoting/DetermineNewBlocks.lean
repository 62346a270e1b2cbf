import SelendraChain.ApprovalVoting.Subsystem

/-!
# `determine_new_blocks`: the walk back from a new head

Source: `src/node/core/approval-voting/src/import.rs`, lines 85-197.

The model keeps the source's vector `ancestry` in push order, the head first, and reverses it
on return as the source does. The source's outer `loop` has no bound; here it is allowed
`fuel` iterations and stops with `Abort.outOfFuel` when they run out, so that "the walk
returns" is a statement about some fuel and "the walk never returns" one about every fuel.
The inner `for`'s `break` leaves only the `for`, as in the source. The batch of header
requests is sent before any answer is awaited; since an answer depends only on its
request's position in the trace, the order of awaiting does not show.

The second half says what the walk is measured against. A `Chain` is a block tree given by
its headers, carrying the fact that numbers fall by one along parent links. `Answers` and
`AnswersOrFails` say that the chain API answers from the chain, always or unless a request
fails. `relevantAncestry` follows parent links back from a block while the blocks are
untracked and above the finalized number; with the head in front and reversed it is
`relevantRun`, the run the walk should return. `pushBatch_ancestorBlocks` gives one batch of
the inner loop in closed form against it, and `relevantAncestry_take_getLast` says where the
walk stands after it.

Whatever the chain API answers, the walk returns only blocks the DB reader reports unknown
and above the finalized number (`Fresh`, `determineNewBlocks_fresh`), since the head and each
pushed block pass that check first.
-/

set_option autoImplicit false

namespace SelendraChain.ApprovalVoting
open Sub

/-- `ANCESTRY_STEP`. -/
def ancestryStep : Nat := 4

/-- The batch header fetch: a `BlockHeader` request per hash, in order, keeping the
`Ok(Ok(Some(header)))` answers and dropping every other. -/
def fetchHeaders : List Hash → Sub (List Header)
  | [] => pure []
  | hash :: rest => do
    let reply ← requestBlockHeader hash
    let headers ← fetchHeaders rest
    pure (match reply with
      | .ok (some header) => header :: headers
      | _ => headers)

/-- The inner `for` over `batch_hashes.zip(batch_headers)`: push each block until one is
known to the DB or not above `finalized_number`. -/
def pushBatch (db : DbReader) (finalizedNumber : Nat) (ancestry : List (Hash × Header)) :
    List (Hash × Header) → Except SubsystemError (List (Hash × Header))
  | [] => .ok ancestry
  | (hash, header) :: rest => do
    let isKnown ← db.loadBlockEntry hash
    let isRelevant := decide (header.number > finalizedNumber)
    if isKnown || !isRelevant then .ok ancestry
    else pushBatch db finalizedNumber (ancestry ++ [(hash, header)]) rest

/-- The outer `loop`, allowed `fuel` more iterations. -/
def walkAncestry (db : DbReader) (finalizedNumber : Nat) :
    Nat → List (Hash × Header) → Sub (List (Hash × Header))
  | 0, _ => abort .outOfFuel
  | fuel + 1, ancestry =>
    match ancestry.getLast? with
    | none => abort (.panic "ancestry has length 1 at initialization and is only added to; qed")
    | some (lastHash, lastHeader) =>
      if lastHeader.number ≤ 1 then pure ancestry else do
      match ← requestAncestors lastHash ancestryStep with
      | .closed | .error _ => pure ancestry
      | .ok batchHashes =>
        let batchHeaders ← fetchHeaders batchHashes
        if batchHeaders.length ≠ batchHashes.length then pure ancestry else do
        let ancestry ← ofResult
          (pushBatch db finalizedNumber ancestry (batchHashes.zip batchHeaders))
        walkAncestry db finalizedNumber fuel ancestry

def determineNewBlocks (db : DbReader) (head : Hash) (header : Header)
    (finalizedNumber : Nat) (fuel : Nat) : Sub (List (Hash × Header)) := do
  let alreadyKnown ← ofResult (db.loadBlockEntry head)
  let beforeRelevant := decide (header.number ≤ finalizedNumber)
  if alreadyKnown || beforeRelevant then pure [] else do
  let ancestry := [(head, header)]
  if ← ofResult (db.loadBlockEntry header.parentHash) then pure ancestry else do
  let ancestry ← walkAncestry db finalizedNumber fuel ancestry
  pure ancestry.reverse

/-! ### The header fetch -/

/-- The headers a batch fetch keeps when its first answer comes at trace position `pos`. -/
def headersAnswered (env : Collaborators) (pos : Nat) : List Hash → List Header
  | [] => []
  | hash :: rest =>
    match env.blockHeader pos hash with
    | .ok (some header) => header :: headersAnswered env (pos + 1) rest
    | _ => headersAnswered env (pos + 1) rest

theorem fetchHeaders_run (env : Collaborators) (hashes : List Hash) (m : Machine) :
    fetchHeaders hashes env m =
      (.ok (headersAnswered env m.sent.length hashes),
        ⟨m.sessionWindow, m.sent ++ hashes.map .blockHeader⟩) := by
  induction hashes generalizing m with
  | nil => simp [fetchHeaders, headersAnswered]
  | cons hash rest ih =>
    simp only [fetchHeaders, requestBlockHeader, headersAnswered, run_bind, run_ask, ih, run_pure,
      Machine.send_sessionWindow, Machine.send_sent, List.length_append, List.length_singleton,
      List.map_cons, List.append_assoc, List.singleton_append]

theorem headersAnswered_length_le (env : Collaborators) (pos : Nat) (hashes : List Hash) :
    (headersAnswered env pos hashes).length ≤ hashes.length := by
  induction hashes generalizing pos with
  | nil => simp [headersAnswered]
  | cons hash rest ih =>
    have := ih (pos + 1)
    simp only [headersAnswered]
    split <;> simp only [List.length_cons] <;> omega

/-! ### The chain the walk is measured against -/

/-- A block tree given by its headers: every block numbered above 0 has a parent numbered
one less, so every path back by `parent_hash` ends at a genesis numbered 0. -/
structure Chain where
  header : Hash → Option Header
  parent_numbered : ∀ hash h, header hash = some h → 0 < h.number →
    ∃ p, header h.parentHash = some p ∧ p.number + 1 = h.number

namespace Chain

variable (c : Chain)

/-- The first `k` ancestors of a block with header `h`, newest first, with their headers. -/
def ancestorBlocks (h : Header) : Nat → List (Hash × Header)
  | 0 => []
  | k + 1 =>
    if h.number = 0 then [] else
    match c.header h.parentHash with
    | some p => (h.parentHash, p) :: ancestorBlocks p k
    | none => []

/-- The right answer to `Ancestors { hash, k }`: the first `min(k, number)` ancestors of the
block, newest first. -/
def ancestorHashes (hash : Hash) (k : Nat) : List Hash :=
  match c.header hash with
  | some h => (c.ancestorBlocks h k).map Prod.fst
  | none => []

theorem ancestorBlocks_succ {h p : Header} (parent : c.header h.parentHash = some p)
    (pos : 0 < h.number) (k : Nat) :
    c.ancestorBlocks h (k + 1) = (h.parentHash, p) :: c.ancestorBlocks p k := by
  simp [ancestorBlocks, Nat.pos_iff_ne_zero.1 pos, parent]

theorem mem_ancestorBlocks {h : Header} {k : Nat} {b : Hash × Header}
    (mem : b ∈ c.ancestorBlocks h k) : c.header b.1 = some b.2 := by
  induction k generalizing h with
  | zero => simp [ancestorBlocks] at mem
  | succ k ih =>
    simp only [ancestorBlocks] at mem
    split_ifs at mem
    · simp at mem
    · split at mem
      · rcases List.mem_cons.1 mem with rfl | later
        · assumption
        · exact ih later
      · simp at mem

theorem ancestorHashes_of_header {hash : Hash} {h : Header} (inChain : c.header hash = some h)
    (k : Nat) : c.ancestorHashes hash k = (c.ancestorBlocks h k).map Prod.fst := by
  simp [ancestorHashes, inChain]

end Chain

/-- Collaborators whose every `Ok` answer to `Ancestors` and `BlockHeader` is the chain's;
any of those requests may still fail with an error or a closed channel. -/
structure AnswersOrFails (c : Chain) (env : Collaborators) : Prop where
  ancestors : ∀ n hash k hashes, env.ancestors n hash k = .ok hashes →
    hashes = c.ancestorHashes hash k
  blockHeader : ∀ n hash header, env.blockHeader n hash = .ok header → header = c.header hash

/-- Collaborators that answer every `Ancestors` and `BlockHeader` request from the chain. -/
structure Answers (c : Chain) (env : Collaborators) : Prop where
  ancestors : ∀ n hash k, env.ancestors n hash k = .ok (c.ancestorHashes hash k)
  blockHeader : ∀ n hash, env.blockHeader n hash = .ok (c.header hash)

theorem Answers.answersOrFails {c : Chain} {env : Collaborators} (answers : Answers c env) :
    AnswersOrFails c env :=
  ⟨fun n hash k _ ok => by rw [answers.ancestors n hash k] at ok; exact (Reply.ok.inj ok).symm,
    fun n hash _ ok => by rw [answers.blockHeader n hash] at ok; exact (Reply.ok.inj ok).symm⟩

/-- Collaborators that answer the chain API from the chain, and fail every other request. -/
def Chain.answering (c : Chain) : Collaborators where
  blockHeader _ hash := .ok (c.header hash)
  ancestors _ hash k := .ok (c.ancestorHashes hash k)
  sessionIndexForChild _ _ := .closed
  sessionInfo _ _ _ := .closed
  candidateEvents _ _ := .closed
  currentBabeEpoch _ _ := .closed
  addBlockEntry _ := .error "closed"

theorem Chain.answering_answers (c : Chain) : Answers c c.answering :=
  ⟨fun _ _ _ => rfl, fun _ _ => rfl⟩

section Headers

variable {c : Chain} {env : Collaborators}

/-- When no header request of a batch of chain blocks failed, the fetch paired every hash
with its block's header. -/
theorem zip_headersAnswered (answers : AnswersOrFails c env) (blocks : List (Hash × Header))
    (inChain : ∀ b ∈ blocks, c.header b.1 = some b.2) (pos : Nat)
    (complete : (headersAnswered env pos (blocks.map Prod.fst)).length = blocks.length) :
    (blocks.map Prod.fst).zip (headersAnswered env pos (blocks.map Prod.fst)) = blocks := by
  induction blocks generalizing pos with
  | nil => rfl
  | cons b rest ih =>
    have shorter := headersAnswered_length_le env (pos + 1) (rest.map Prod.fst)
    rw [List.length_map] at shorter
    simp only [List.map_cons, headersAnswered, List.length_cons, List.length_map] at complete ⊢
    rcases reply : env.blockHeader pos b.1 with _ | _ | _ | header <;>
      simp only [reply, List.length_cons] at complete <;> try omega
    have found := (answers.blockHeader pos b.1 _ reply).trans (inChain b (List.mem_cons_self _ _))
    cases found
    rw [List.zip_cons_cons, ih (fun b' mem => inChain b' (List.mem_cons_of_mem _ mem)) (pos + 1)
      (by omega)]

theorem headersAnswered_of_answers (answers : Answers c env) (blocks : List (Hash × Header))
    (inChain : ∀ b ∈ blocks, c.header b.1 = some b.2) (pos : Nat) :
    headersAnswered env pos (blocks.map Prod.fst) = blocks.map Prod.snd := by
  induction blocks generalizing pos with
  | nil => rfl
  | cons b rest ih =>
    simp only [List.map_cons, headersAnswered, answers.blockHeader,
      inChain b (List.mem_cons_self _ _),
      ih (fun b' mem => inChain b' (List.mem_cons_of_mem _ mem))]

end Headers

/-! ### The run the walk should return -/

/-- Whether the approval DB holds an entry for the block; an unreadable entry counts as
none. -/
def DbReader.tracked (db : DbReader) (hash : Hash) : Bool :=
  match db.loadBlockEntry hash with
  | .ok known => known
  | .error _ => false

/-- A DB reader that never fails. -/
def DbReader.Total (db : DbReader) : Prop := ∀ hash, ∃ known, db.loadBlockEntry hash = .ok known

theorem DbReader.tracked_of_ok {db : DbReader} {hash : Hash} {known : Bool}
    (read : db.loadBlockEntry hash = .ok known) : db.tracked hash = known := by
  simp [DbReader.tracked, read]

theorem DbReader.Total.loadBlockEntry {db : DbReader} (total : db.Total) (hash : Hash) :
    db.loadBlockEntry hash = .ok (db.tracked hash) := by
  obtain ⟨known, read⟩ := total hash
  rw [read, DbReader.tracked_of_ok read]

section Relevant

variable (c : Chain) (db : DbReader) (finalizedNumber : Nat)

/-- The blocks behind a block with header `h`, newest first, followed back by `parent_hash`
while they are untracked and numbered above `finalizedNumber`. The recursion is bounded by
`h.number`, which bounds every path back in a `Chain`. -/
def relevantAncestry : Nat → Header → List (Hash × Header)
  | 0, _ => []
  | n + 1, h =>
    match c.header h.parentHash with
    | some p =>
      if db.tracked h.parentHash ∨ p.number ≤ finalizedNumber then []
      else (h.parentHash, p) :: relevantAncestry n p
    | none => []

/-- `R`: the longest parent-linked run ending at `head` of untracked blocks numbered above
`finalizedNumber`, oldest first. -/
def relevantRun (head : Hash) (header : Header) : List (Hash × Header) :=
  if db.tracked head ∨ header.number ≤ finalizedNumber then []
  else ((head, header) :: relevantAncestry c db finalizedNumber header.number header).reverse

theorem relevantAncestry_parent {h p : Header} (parent : c.header h.parentHash = some p)
    (numbered : p.number + 1 = h.number) :
    relevantAncestry c db finalizedNumber h.number h =
      if db.tracked h.parentHash ∨ p.number ≤ finalizedNumber then []
      else (h.parentHash, p) :: relevantAncestry c db finalizedNumber p.number p := by
  rw [← numbered, relevantAncestry, parent]

/-- Block 1's parent is a genesis, which no finalized number is below. -/
theorem relevantAncestry_of_le_one {hash : Hash} {h : Header} (inChain : c.header hash = some h)
    (low : h.number ≤ 1) : relevantAncestry c db finalizedNumber h.number h = [] := by
  rcases Nat.eq_zero_or_pos h.number with zero | pos
  · rw [zero, relevantAncestry]
  · obtain ⟨p, parent, numbered⟩ := c.parent_numbered hash h inChain pos
    have genesis : p.number ≤ finalizedNumber := by omega
    rw [relevantAncestry_parent c db finalizedNumber parent numbered, if_pos (.inr genesis)]

/-- Every block of a run is in the chain, untracked and above `finalizedNumber`. -/
theorem mem_relevantAncestry {n : Nat} {h : Header} {b : Hash × Header}
    (mem : b ∈ relevantAncestry c db finalizedNumber n h) :
    c.header b.1 = some b.2 ∧ db.tracked b.1 = false ∧ finalizedNumber < b.2.number := by
  induction n generalizing h with
  | zero => simp [relevantAncestry] at mem
  | succ n ih =>
    simp only [relevantAncestry] at mem
    split at mem
    · split_ifs at mem with stop
      · simp at mem
      · rcases List.mem_cons.1 mem with rfl | later
        · push_neg at stop
          exact ⟨‹_›, by simpa using stop.1, stop.2⟩
        · exact ih later
    · simp at mem

/-- A run goes back from its block by parent links, one number down at a time. -/
theorem relevantAncestry_chain {hash : Hash} {h : Header} (inChain : c.header hash = some h) :
    (relevantAncestry c db finalizedNumber h.number h).Chain
      (fun b b' => b.2.parentHash = b'.1 ∧ b'.2.number + 1 = b.2.number) (hash, h) := by
  suffices ∀ n hash h, c.header hash = some h → h.number = n →
      (relevantAncestry c db finalizedNumber n h).Chain
        (fun b b' => b.2.parentHash = b'.1 ∧ b'.2.number + 1 = b.2.number) (hash, h) from
    this _ _ _ inChain rfl
  intro n
  induction n with
  | zero => intro _ _ _ _; exact .nil
  | succ n ih =>
    intro hash h inChain numbered
    obtain ⟨p, parent, pnum⟩ := c.parent_numbered hash h inChain (by omega)
    simp only [relevantAncestry, parent]
    split_ifs
    · exact .nil
    · exact .cons ⟨rfl, pnum⟩ (ih _ _ parent (by omega))

/-- After a prefix of a run, the walk stands at the prefix's last block, and the run behind
that block is the rest. -/
theorem relevantAncestry_take_getLast (k : Nat) {hash : Hash} {h : Header}
    (inChain : c.header hash = some h) {b : Hash × Header}
    (last : ((relevantAncestry c db finalizedNumber h.number h).take k).getLast? = some b) :
    c.header b.1 = some b.2 ∧
      (relevantAncestry c db finalizedNumber h.number h).take k ++
          relevantAncestry c db finalizedNumber b.2.number b.2 =
        relevantAncestry c db finalizedNumber h.number h := by
  induction k generalizing hash h with
  | zero => simp at last
  | succ k ih =>
    rcases Nat.eq_zero_or_pos h.number with zero | pos
    · simp [zero, relevantAncestry] at last
    obtain ⟨p, parent, numbered⟩ := c.parent_numbered hash h inChain pos
    rw [relevantAncestry_parent c db finalizedNumber parent numbered] at last ⊢
    split_ifs at last ⊢
    · simp at last
    rw [List.take_succ_cons, List.getLast?_cons] at last
    rcases inner : ((relevantAncestry c db finalizedNumber p.number p).take k).getLast? with
      _ | b'
    · simp only [inner, Option.getD_none, Option.some.injEq] at last
      subst last
      simp [List.getLast?_eq_none_iff.1 inner, parent]
    · simp only [inner, Option.getD_some, Option.some.injEq] at last
      subst last
      obtain ⟨found, completes⟩ := ih parent inner
      exact ⟨found, by rw [List.take_succ_cons, List.cons_append, completes]⟩

theorem pushBatch_cons {hash : Hash} {known : Bool} (read : db.loadBlockEntry hash = .ok known)
    (ancestry rest : List (Hash × Header)) (header : Header) :
    pushBatch db finalizedNumber ancestry ((hash, header) :: rest) =
      if known ∨ header.number ≤ finalizedNumber then .ok ancestry
      else pushBatch db finalizedNumber (ancestry ++ [(hash, header)]) rest := by
  simp only [pushBatch, read, bind, Except.bind, gt_iff_lt, Bool.or_eq_true, Bool.not_eq_true',
    decide_eq_false_iff_not, not_lt]

/-- One batch of the inner loop over the first `k` ancestors of the walk's last block pushes
the first `k` blocks of the run behind it. -/
theorem pushBatch_ancestorBlocks (k : Nat) {hash : Hash} {h : Header}
    (inChain : c.header hash = some h) {ancestry result : List (Hash × Header)}
    (returns : pushBatch db finalizedNumber ancestry (c.ancestorBlocks h k) = .ok result) :
    result = ancestry ++ (relevantAncestry c db finalizedNumber h.number h).take k := by
  induction k generalizing hash h ancestry with
  | zero => simpa [Chain.ancestorBlocks, pushBatch] using returns.symm
  | succ k ih =>
    rcases Nat.eq_zero_or_pos h.number with zero | pos
    · simpa [Chain.ancestorBlocks, zero, pushBatch, relevantAncestry] using returns.symm
    obtain ⟨p, parent, numbered⟩ := c.parent_numbered hash h inChain pos
    rw [c.ancestorBlocks_succ parent pos] at returns
    rw [relevantAncestry_parent c db finalizedNumber parent numbered]
    rcases read : db.loadBlockEntry h.parentHash with e | known
    · simp [pushBatch, read, bind, Except.bind] at returns
    rw [pushBatch_cons db finalizedNumber read] at returns
    rw [DbReader.tracked_of_ok read]
    split_ifs at returns ⊢
    · simpa using returns.symm
    · rw [ih parent returns, List.take_succ_cons, List.append_assoc, List.singleton_append]

theorem pushBatch_ok {db : DbReader} (total : db.Total) (ancestry batch : List (Hash × Header)) :
    ∃ result, pushBatch db finalizedNumber ancestry batch = .ok result := by
  induction batch generalizing ancestry with
  | nil => exact ⟨ancestry, rfl⟩
  | cons b rest ih =>
    rw [pushBatch_cons db finalizedNumber (total.loadBlockEntry b.1)]
    split_ifs
    · exact ⟨ancestry, rfl⟩
    · exact ih _

/-- The inner loop only pushes, and fails only with an error of the DB reader. -/
theorem pushBatch_result {db : DbReader} (ancestry batch : List (Hash × Header)) :
    (∃ more, pushBatch db finalizedNumber ancestry batch = .ok (ancestry ++ more)) ∨
      ∃ hash e, db.loadBlockEntry hash = .error e ∧
        pushBatch db finalizedNumber ancestry batch = .error e := by
  induction batch generalizing ancestry with
  | nil => exact .inl ⟨[], by simp [pushBatch]⟩
  | cons b rest ih =>
    obtain ⟨hash, header⟩ := b
    rcases read : db.loadBlockEntry hash with e | known
    · exact .inr ⟨hash, e, read, by simp [pushBatch, read, bind, Except.bind]⟩
    rw [pushBatch_cons db finalizedNumber read]
    split_ifs
    · exact .inl ⟨[], by simp⟩
    rcases ih (ancestry ++ [(hash, header)]) with ⟨more, pushed⟩ | failed
    · exact .inl ⟨(hash, header) :: more, by simp [pushed]⟩
    · exact .inr failed

end Relevant

/-! ### The walk leaves the session window alone -/

section Window

variable (db : DbReader) (finalizedNumber : Nat)

theorem fetchHeaders_keepsWindow (hashes : List Hash) : KeepsWindow (fetchHeaders hashes) := by
  induction hashes with
  | nil => exact keepsWindow_pure _
  | cons hash rest ih =>
    exact keepsWindow_bind (keepsWindow_ask _ _) fun _ =>
      keepsWindow_bind ih fun _ => keepsWindow_pure _

theorem walkAncestry_keepsWindow (fuel : Nat) (ancestry : List (Hash × Header)) :
    KeepsWindow (walkAncestry db finalizedNumber fuel ancestry) := by
  induction fuel generalizing ancestry with
  | zero => exact keepsWindow_abort _
  | succ fuel ih =>
    unfold walkAncestry
    rcases ancestry.getLast? with _ | ⟨lastHash, lastHeader⟩
    · exact keepsWindow_abort _
    dsimp only
    split_ifs
    · exact keepsWindow_pure _
    refine keepsWindow_bind (keepsWindow_ask _ _) fun reply => ?_
    rcases reply with _ | _ | batchHashes
    iterate 2 exact keepsWindow_pure _
    refine keepsWindow_bind (fetchHeaders_keepsWindow _) fun batchHeaders => ?_
    dsimp only
    split_ifs
    · exact keepsWindow_pure _
    · exact keepsWindow_bind (keepsWindow_ofResult _) ih

theorem determineNewBlocks_keepsWindow (head : Hash) (header : Header) (fuel : Nat) :
    KeepsWindow (determineNewBlocks db head header finalizedNumber fuel) := by
  unfold determineNewBlocks
  refine keepsWindow_bind (keepsWindow_ofResult _) fun alreadyKnown => ?_
  dsimp only
  split_ifs
  · exact keepsWindow_pure _
  refine keepsWindow_bind (keepsWindow_ofResult _) fun parentKnown => ?_
  dsimp only
  split_ifs
  · exact keepsWindow_pure _
  · exact keepsWindow_bind (walkAncestry_keepsWindow db finalizedNumber fuel _) fun _ =>
      keepsWindow_pure _

end Window

/-! ### The walk returns only blocks new to the DB -/

section Fresh

variable (db : DbReader) (finalizedNumber : Nat)

/-- A block the walk may return: the DB reader reports it unknown, and it is above the
finalized number. -/
def Fresh (block : Hash × Header) : Prop :=
  db.loadBlockEntry block.1 = .ok false ∧ finalizedNumber < block.2.number

theorem pushBatch_fresh (batch : List (Hash × Header)) :
    ∀ ancestry, (∀ b ∈ ancestry, Fresh db finalizedNumber b) → ∀ {result},
      pushBatch db finalizedNumber ancestry batch = .ok result →
      ∀ b ∈ result, Fresh db finalizedNumber b := by
  induction batch with
  | nil =>
    intro ancestry fresh result pushed
    cases pushed
    exact fresh
  | cons b rest ih =>
    intro ancestry fresh result pushed
    obtain ⟨hash, header⟩ := b
    rcases read : db.loadBlockEntry hash with e | known
    · simp [pushBatch, read, bind, Except.bind] at pushed
    rw [pushBatch_cons db finalizedNumber read] at pushed
    split_ifs at pushed with stop
    · cases pushed
      exact fresh
    obtain ⟨unknown, above⟩ := not_or.1 stop
    refine ih _ ?_ pushed
    simp only [List.mem_append, List.mem_singleton]
    rintro b (mem | rfl)
    · exact fresh b mem
    · exact ⟨by simpa [read] using unknown, Nat.lt_of_not_le above⟩

theorem walkAncestry_fresh (fuel : Nat) :
    ∀ ancestry, (∀ b ∈ ancestry, Fresh db finalizedNumber b) →
      Ensures (walkAncestry db finalizedNumber fuel ancestry) fun result =>
        ∀ b ∈ result, Fresh db finalizedNumber b := by
  induction fuel with
  | zero => exact fun _ _ => ensures_abort _ _
  | succ fuel ih =>
    intro ancestry fresh
    unfold walkAncestry
    rcases ancestry.getLast? with _ | ⟨lastHash, lastHeader⟩
    · exact ensures_abort _ _
    dsimp only
    split_ifs
    · exact ensures_pure fresh
    refine ensures_bind (ensures_true _) fun reply _ => ?_
    rcases reply with _ | _ | batchHashes
    iterate 2 exact ensures_pure fresh
    refine ensures_bind (ensures_true _) fun batchHeaders _ => ?_
    dsimp only
    split_ifs
    · exact ensures_pure fresh
    · exact ensures_bind (ensures_ofResult _) fun pushed ok =>
        ih pushed (pushBatch_fresh db finalizedNumber _ ancestry fresh ok)

/-- Whatever the chain API answers, every block the walk returns is one the DB reader reports
unknown, above the finalized number. -/
theorem determineNewBlocks_fresh (head : Hash) (header : Header) (fuel : Nat) :
    Ensures (determineNewBlocks db head header finalizedNumber fuel) fun list =>
      ∀ b ∈ list, Fresh db finalizedNumber b := by
  unfold determineNewBlocks
  refine ensures_bind (ensures_ofResult _) fun alreadyKnown read => ?_
  dsimp only
  split_ifs with early
  · exact ensures_pure nofun
  simp only [Bool.or_eq_true, decide_eq_true_eq, not_or, Bool.not_eq_true, not_le] at early
  obtain ⟨rfl, above⟩ := early
  have fresh : ∀ b ∈ [(head, header)], Fresh db finalizedNumber b := by
    rintro b (_ | ⟨_, ⟨⟩⟩)
    exact ⟨read, above⟩
  refine ensures_bind (ensures_true _) fun parentKnown _ => ?_
  dsimp only
  split_ifs
  · exact ensures_pure fresh
  · exact ensures_bind (walkAncestry_fresh db finalizedNumber fuel _ fresh) fun ancestry fresh =>
      ensures_pure fun b mem => fresh b (List.mem_reverse.1 mem)

end Fresh

end SelendraChain.ApprovalVoting
