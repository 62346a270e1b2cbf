import SelendraChain.ApprovalVoting.DetermineNewBlocks

/-!
# The chain walk: what `determine_new_blocks` returns, and whether it returns

Source: `src/node/core/approval-voting/src/import.rs`, lines 93-197.

`Walked` is the loop invariant: the vector's last block is in the chain, and the relevant
run behind that block completes the vector to the run from the head. Every iteration keeps
it whatever the collaborators answer (`walkAncestry_walked`). So whatever the walk returns is
a prefix of the run from the head, and the whole run when no request fails
(`determineNewBlocks_relevantRun`).

When no request fails, an iteration at a block above 1 asks for its ancestors and their
headers and pushes the first `ANCESTRY_STEP` blocks of the run behind it
(`walkAncestry_step`). Once that run is empty the iteration pushes nothing: the inner `break`
leaves only the `for`, and the `loop` asks for the same ancestors again
(`walkAncestry_stuck`). So the walk returns the whole run when the run reaches block 1 or
the head's parent is tracked (`determineNewBlocks_returns`), and otherwise never returns,
whatever the fuel (`determineNewBlocks_diverges`). The chain of the test
`determine_new_blocks_back_to_finalized` is such a case
(`determineNewBlocks_back_to_finalized_loops`).
-/

set_option autoImplicit false

namespace SelendraChain.ApprovalVoting
open Sub

section Run

variable (c : Chain) (db : DbReader) (finalizedNumber : Nat)

/-- Numbers fall along a run, so each block of it is below every block before it. -/
theorem relevantAncestry_pairwise {hash : Hash} {h : Header} (inChain : c.header hash = some h) :
    ((hash, h) :: relevantAncestry c db finalizedNumber h.number h).Pairwise
      (fun b b' => b'.2.number < b.2.number) := by
  have : IsTrans (Hash × Header) (fun b b' => b'.2.number < b.2.number) :=
    ⟨fun _ _ _ first second => Nat.lt_trans second first⟩
  exact ((relevantAncestry_chain c db finalizedNumber inChain).imp fun _ _ link => by
    omega).pairwise

theorem relevantRun_of_relevant {head : Hash} {header : Header}
    (relevant : ¬(db.tracked head ∨ header.number ≤ finalizedNumber)) :
    relevantRun c db finalizedNumber head header =
      ((head, header) :: relevantAncestry c db finalizedNumber header.number header).reverse := by
  rw [relevantRun, if_neg relevant]

/-- The run is parent-linked, oldest first, one number up at a time. -/
theorem relevantRun_chain' {head : Hash} {header : Header} (inChain : c.header head = some header) :
    (relevantRun c db finalizedNumber head header).Chain'
      (fun b b' => b'.2.parentHash = b.1 ∧ b.2.number + 1 = b'.2.number) := by
  by_cases relevant : db.tracked head ∨ header.number ≤ finalizedNumber
  · rw [relevantRun, if_pos relevant]
    exact List.chain'_nil
  · rw [relevantRun_of_relevant c db finalizedNumber relevant, List.chain'_reverse]
    exact relevantAncestry_chain c db finalizedNumber inChain

theorem mem_relevantRun {head : Hash} {header : Header} (inChain : c.header head = some header)
    {b : Hash × Header} (mem : b ∈ relevantRun c db finalizedNumber head header) :
    c.header b.1 = some b.2 ∧ db.tracked b.1 = false ∧ finalizedNumber < b.2.number := by
  by_cases relevant : db.tracked head ∨ header.number ≤ finalizedNumber
  · simp [relevantRun, relevant] at mem
  · rw [relevantRun_of_relevant c db finalizedNumber relevant, List.mem_reverse] at mem
    rcases List.mem_cons.1 mem with rfl | behind
    · push_neg at relevant
      exact ⟨inChain, by simpa using relevant.1, relevant.2⟩
    · exact mem_relevantAncestry c db finalizedNumber behind

end Run

section Walk

variable (c : Chain) (db : DbReader) (finalizedNumber : Nat)

/-- The walk's vector so far: its last block is in the chain, and the run behind that block
completes the vector to `run`. -/
def Walked (run ancestry : List (Hash × Header)) : Prop :=
  ∃ hash h, ancestry.getLast? = some (hash, h) ∧ c.header hash = some h ∧
    ancestry ++ relevantAncestry c db finalizedNumber h.number h = run

/-- Pushing a prefix of the run behind the last block keeps the walk on the run. -/
theorem walked_append_take {run ancestry : List (Hash × Header)} {hash : Hash} {h : Header}
    (last : ancestry.getLast? = some (hash, h)) (inChain : c.header hash = some h)
    (completes : ancestry ++ relevantAncestry c db finalizedNumber h.number h = run) (k : Nat) :
    Walked c db finalizedNumber run
      (ancestry ++ (relevantAncestry c db finalizedNumber h.number h).take k) := by
  rcases pushed : ((relevantAncestry c db finalizedNumber h.number h).take k).getLast? with
    _ | b
  · rw [List.getLast?_eq_none_iff.1 pushed, List.append_nil]
    exact ⟨hash, h, last, inChain, completes⟩
  · obtain ⟨found, rest⟩ := relevantAncestry_take_getLast c db finalizedNumber k inChain pushed
    exact ⟨b.1, b.2, by rw [List.getLast?_append, pushed]; rfl, found,
      by rw [List.append_assoc, rest, completes]⟩

/-- Whatever the collaborators answer, what the walk returns is on the run, and is the whole
run when no request fails. -/
theorem walkAncestry_walked {env : Collaborators} (answers : AnswersOrFails c env)
    {run : List (Hash × Header)} (fuel : Nat) (ancestry : List (Hash × Header)) (m : Machine)
    (walked : Walked c db finalizedNumber run ancestry) {result : List (Hash × Header)}
    (returns : (walkAncestry db finalizedNumber fuel ancestry env m).1 = .ok result) :
    Walked c db finalizedNumber run result ∧ (Answers c env → result = run) := by
  induction fuel generalizing ancestry m with
  | zero => simp [walkAncestry] at returns
  | succ fuel ih =>
    obtain ⟨hash, h, last, inChain, completes⟩ := walked
    have stays : Walked c db finalizedNumber run ancestry := ⟨hash, h, last, inChain, completes⟩
    simp only [walkAncestry, last] at returns
    split_ifs at returns with low
    · simp only [run_pure, Except.ok.injEq] at returns
      subst returns
      refine ⟨stays, fun _ => ?_⟩
      rwa [relevantAncestry_of_le_one c db finalizedNumber inChain low, List.append_nil]
        at completes
    simp only [run_bind, requestAncestors, run_ask] at returns
    rcases reply : env.ancestors m.sent.length hash ancestryStep with _ | _ | hashes <;>
      simp only [reply, run_pure, Except.ok.injEq] at returns
    · subst returns
      exact ⟨stays, fun all => by simp [all.ancestors] at reply⟩
    · subst returns
      exact ⟨stays, fun all => by simp [all.ancestors] at reply⟩
    rw [answers.ancestors _ _ _ _ reply, c.ancestorHashes_of_header inChain] at returns
    simp only [run_bind, fetchHeaders_run] at returns
    split_ifs at returns with short
    · simp only [run_pure, Except.ok.injEq] at returns
      subst returns
      refine ⟨stays, fun all => absurd ?_ short⟩
      rw [headersAnswered_of_answers all _ (fun _ => c.mem_ancestorBlocks), List.length_map,
        List.length_map]
    rw [List.length_map, ne_eq, not_not] at short
    rw [zip_headersAnswered answers _ (fun _ => c.mem_ancestorBlocks) _ short] at returns
    rcases pushed : pushBatch db finalizedNumber ancestry (c.ancestorBlocks h ancestryStep) with
      e | next
    · simp [pushed] at returns
    simp only [pushed, run_bind, run_ofResult_ok] at returns
    rw [pushBatch_ancestorBlocks c db finalizedNumber ancestryStep inChain pushed] at returns
    exact ih _ _ (walked_append_take c db finalizedNumber last inChain completes _) returns

/-- When no request fails and the DB reads succeed, an iteration at a block above 1 asks for
its ancestors and their headers, and pushes the first `ANCESTRY_STEP` blocks of the run
behind it. -/
theorem walkAncestry_step {env : Collaborators} (answers : Answers c env) (total : db.Total)
    {ancestry : List (Hash × Header)} {hash : Hash} {h : Header}
    (last : ancestry.getLast? = some (hash, h)) (inChain : c.header hash = some h)
    (far : 1 < h.number) (fuel : Nat) (m : Machine) :
    walkAncestry db finalizedNumber (fuel + 1) ancestry env m =
      walkAncestry db finalizedNumber fuel
        (ancestry ++ (relevantAncestry c db finalizedNumber h.number h).take ancestryStep) env
        ⟨m.sessionWindow, m.sent ++ .ancestors hash ancestryStep ::
          (c.ancestorHashes hash ancestryStep).map .blockHeader⟩ := by
  obtain ⟨next, pushed⟩ := pushBatch_ok finalizedNumber total ancestry
    (c.ancestorBlocks h ancestryStep)
  have headers := headersAnswered_of_answers answers (c.ancestorBlocks h ancestryStep)
    (fun _ => c.mem_ancestorBlocks) (m.sent.length + 1)
  simp only [walkAncestry, last, if_neg (show ¬h.number ≤ 1 by omega), run_bind,
    requestAncestors, run_ask, answers.ancestors, c.ancestorHashes_of_header inChain,
    fetchHeaders_run, Machine.send_sent, Machine.send_sessionWindow, List.length_append,
    List.length_singleton, headers, List.length_map, ne_eq, not_true_eq_false, if_false]
  rw [← List.unzip_fst, ← List.unzip_snd, List.zip_unzip, pushed]
  simp only [run_ofResult_ok, pushBatch_ancestorBlocks c db finalizedNumber ancestryStep inChain
    pushed, List.unzip_fst, List.append_assoc, List.singleton_append, List.map_map]

/-- At a block above 1 with nothing of the run behind it, every iteration asks for the same
ancestors and headers again and pushes nothing, until the fuel runs out. -/
theorem walkAncestry_stuck {env : Collaborators} (answers : Answers c env) (total : db.Total)
    {ancestry : List (Hash × Header)} {hash : Hash} {h : Header}
    (last : ancestry.getLast? = some (hash, h)) (inChain : c.header hash = some h)
    (far : 1 < h.number) (stuck : relevantAncestry c db finalizedNumber h.number h = [])
    (fuel : Nat) (m : Machine) :
    walkAncestry db finalizedNumber fuel ancestry env m =
      (.error .outOfFuel, ⟨m.sessionWindow, m.sent ++ (List.replicate fuel
        (.ancestors hash ancestryStep ::
          (c.ancestorHashes hash ancestryStep).map .blockHeader)).flatten⟩) := by
  induction fuel generalizing m with
  | zero => simp [walkAncestry]
  | succ fuel ih =>
    rw [walkAncestry_step c db finalizedNumber answers total last inChain far, stuck,
      List.take_nil, List.append_nil, ih]
    simp [List.replicate_succ, List.append_assoc]

/-- When no request fails and the DB reads succeed, a walk on a run that reaches block 1
returns the whole run, given as much fuel as the number of its last block. -/
theorem walkAncestry_returns {env : Collaborators} (answers : Answers c env) (total : db.Total)
    {head : Hash} {header : Header} (headInChain : c.header head = some header)
    (reaches : ∃ b ∈ (head, header) :: relevantAncestry c db finalizedNumber header.number header,
      b.2.number ≤ 1) (fuel : Nat) :
    ∀ ancestry m hash h, ancestry.getLast? = some (hash, h) → c.header hash = some h →
      ancestry ++ relevantAncestry c db finalizedNumber h.number h =
        (head, header) :: relevantAncestry c db finalizedNumber header.number header →
      0 < h.number → h.number ≤ fuel →
      (walkAncestry db finalizedNumber fuel ancestry env m).1 =
        .ok ((head, header) :: relevantAncestry c db finalizedNumber header.number header) := by
  induction fuel with
  | zero => intros; omega
  | succ fuel ih =>
    intro ancestry m hash h last inChain completes pos enough
    by_cases low : h.number ≤ 1
    · simp only [walkAncestry, last, if_pos low, run_pure]
      rw [← completes, relevantAncestry_of_le_one c db finalizedNumber inChain low,
        List.append_nil]
    rw [walkAncestry_step c db finalizedNumber answers total last inChain (by omega)]
    by_cases stuck : relevantAncestry c db finalizedNumber h.number h = []
    · -- Then the vector is the whole run, and its last block is its lowest.
      exfalso
      rw [stuck, List.append_nil] at completes
      obtain ⟨b, mem, small⟩ := reaches
      obtain ⟨init, rfl⟩ := List.getLast?_eq_some_iff.1 last
      have falling := relevantAncestry_pairwise c db finalizedNumber headInChain
      rw [← completes, List.pairwise_append] at falling
      rw [← completes, List.mem_append, List.mem_singleton] at mem
      rcases mem with before | rfl
      · have above : h.number < b.2.number := falling.2.2 b before (hash, h) (List.mem_singleton_self _)
        omega
      · exact absurd small (by simp only; omega)
    have pushedSome : ((relevantAncestry c db finalizedNumber h.number h).take ancestryStep) ≠ [] :=
      by simp [List.take_eq_nil_iff, ancestryStep, stuck]
    obtain ⟨b, pushed⟩ := Option.ne_none_iff_exists'.1 (mt List.getLast?_eq_none_iff.1 pushedSome)
    obtain ⟨found, rest⟩ := relevantAncestry_take_getLast c db finalizedNumber _ inChain pushed
    have mem := List.mem_of_mem_take (List.mem_of_getLast?_eq_some pushed)
    have below : b.2.number < h.number :=
      (List.pairwise_cons.1 (relevantAncestry_pairwise c db finalizedNumber inChain)).1 b mem
    have above := (mem_relevantAncestry c db finalizedNumber mem).2.2
    exact ih _ _ b.1 b.2 (by rw [List.getLast?_append, pushed]; rfl) found
      (by rw [List.append_assoc, rest, completes]) (by omega) (by omega)

/-- When no request fails and the DB reads succeed, a walk on a run none of whose blocks is
numbered 1 or below runs out of every fuel. -/
theorem walkAncestry_diverges {env : Collaborators} (answers : Answers c env) (total : db.Total)
    {run : List (Hash × Header)} (far : ∀ b ∈ run, 1 < b.2.number) (fuel : Nat) :
    ∀ ancestry m, Walked c db finalizedNumber run ancestry →
      (walkAncestry db finalizedNumber fuel ancestry env m).1 = .error .outOfFuel := by
  induction fuel with
  | zero => intros; rfl
  | succ fuel ih =>
    rintro ancestry m ⟨hash, h, last, inChain, completes⟩
    have onRun : (hash, h) ∈ run :=
      completes ▸ List.mem_append_left _ (List.mem_of_getLast?_eq_some last)
    rw [walkAncestry_step c db finalizedNumber answers total last inChain (far _ onRun)]
    exact ih _ _ (walked_append_take c db finalizedNumber last inChain completes _)

end Walk

/-- The blocks `0..=n` of one line, each block's hash its number. -/
def Chain.line (n : Nat) : Chain where
  header hash := if hash ≤ n then some ⟨hash - 1, hash, []⟩ else none
  parent_numbered hash h found pos := by
    dsimp only at found ⊢
    split_ifs at found with within
    cases found
    exact ⟨⟨hash - 1 - 1, hash - 1, []⟩, if_pos (Nat.le_trans (Nat.sub_le hash 1) within),
      Nat.sub_add_cancel pos⟩

/-- An approval DB without entries. -/
def DbReader.empty : DbReader := ⟨fun _ => .ok false⟩

theorem DbReader.empty_total : DbReader.empty.Total := fun _ => ⟨false, rfl⟩

section Determine

variable (db : DbReader) (finalizedNumber : Nat)

theorem determineNewBlocks_early {head : Hash} {header : Header} {known : Bool}
    (read : db.loadBlockEntry head = .ok known) (early : known ∨ header.number ≤ finalizedNumber)
    (fuel : Nat) (env : Collaborators) (m : Machine) :
    determineNewBlocks db head header finalizedNumber fuel env m = (.ok [], m) := by
  simp [determineNewBlocks, read, early]

/-- Past the early exits, the head's parent decides between the fast path and the walk. -/
theorem determineNewBlocks_of_relevant {head : Hash} {header : Header}
    (read : db.loadBlockEntry head = .ok false) (relevant : finalizedNumber < header.number)
    {parentKnown : Bool} (parentRead : db.loadBlockEntry header.parentHash = .ok parentKnown)
    (fuel : Nat) (env : Collaborators) (m : Machine) :
    determineNewBlocks db head header finalizedNumber fuel env m =
      if parentKnown then (.ok [(head, header)], m)
      else match walkAncestry db finalizedNumber fuel [(head, header)] env m with
        | (.ok ancestry, m') => (.ok ancestry.reverse, m')
        | (.error e, m') => (.error e, m') := by
  simp only [determineNewBlocks, run_bind, read, parentRead, run_ofResult_ok, Bool.false_or,
    decide_eq_true_eq, Nat.not_le.2 relevant, if_false]
  cases parentKnown
  · simp only [Bool.false_eq_true, if_false, run_bind, run_pure]
    rcases walkAncestry db finalizedNumber fuel [(head, header)] env m with ⟨_ | _, _⟩ <;> rfl
  · rfl

variable (c : Chain)

/-- What `determine_new_blocks` returns: nothing for a head that is tracked or not above the
finalized number, and otherwise the reverse of a walk on the run from the head. -/
theorem determineNewBlocks_walked {env : Collaborators} (answers : AnswersOrFails c env)
    {head : Hash} {header : Header} (inChain : c.header head = some header) (fuel : Nat)
    (m : Machine) {list : List (Hash × Header)}
    (returns : (determineNewBlocks db head header finalizedNumber fuel env m).1 = .ok list) :
    (db.tracked head ∨ header.number ≤ finalizedNumber) ∧ list = [] ∨
      ¬(db.tracked head ∨ header.number ≤ finalizedNumber) ∧
        Walked c db finalizedNumber
          ((head, header) :: relevantAncestry c db finalizedNumber header.number header)
          list.reverse ∧
        (Answers c env → list = relevantRun c db finalizedNumber head header) := by
  rcases read : db.loadBlockEntry head with e | known
  · simp [determineNewBlocks, read] at returns
  rw [← DbReader.tracked_of_ok read] at read
  by_cases early : db.tracked head ∨ header.number ≤ finalizedNumber
  · rw [determineNewBlocks_early db finalizedNumber read early] at returns
    exact .inl ⟨early, (Except.ok.inj returns).symm⟩
  refine .inr ⟨early, ?_⟩
  rw [relevantRun_of_relevant c db finalizedNumber early]
  push_neg at early
  simp only [Bool.not_eq_true] at early
  obtain ⟨p, parent, numbered⟩ := c.parent_numbered head header inChain (by omega)
  rcases parentRead : db.loadBlockEntry header.parentHash with e | parentKnown
  · simp [determineNewBlocks, read, early.1, Nat.not_le.2 early.2, parentRead] at returns
  rw [early.1] at read
  rw [determineNewBlocks_of_relevant db finalizedNumber read early.2 parentRead] at returns
  split_ifs at returns with fast
  · have alone : relevantAncestry c db finalizedNumber header.number header = [] := by
      rw [relevantAncestry_parent c db finalizedNumber parent numbered,
        if_pos (.inl (by rw [DbReader.tracked_of_ok parentRead, fast]))]
    cases Except.ok.inj returns
    rw [alone]
    exact ⟨⟨head, header, rfl, inChain, by rw [alone]; rfl⟩, fun _ => rfl⟩
  rcases walk : walkAncestry db finalizedNumber fuel [(head, header)] env m with
    ⟨_ | result, m'⟩ <;> simp only [walk, Except.ok.injEq] at returns
  · cases returns
  subst returns
  obtain ⟨walked, all⟩ := walkAncestry_walked c db finalizedNumber answers fuel [(head, header)] m
    ⟨head, header, rfl, inChain, rfl⟩ (by rw [walk])
  exact ⟨by rwa [List.reverse_reverse], fun a => by rw [all a]; rfl⟩

/-- Whatever the chain API answers, a list `determine_new_blocks` returns is in strictly
increasing block number: its reverse decreases. -/
theorem determineNewBlocks_reverse_decreasing {env : Collaborators}
    (answers : AnswersOrFails c env) {head : Hash} {header : Header}
    (inChain : c.header head = some header) (fuel : Nat) (m : Machine)
    {list : List (Hash × Header)}
    (returns : (determineNewBlocks db head header finalizedNumber fuel env m).1 = .ok list) :
    (list.reverse.map (·.2.number)).Pairwise (· > ·) := by
  rw [List.pairwise_map]
  rcases determineNewBlocks_walked db finalizedNumber c answers inChain fuel m returns with
    ⟨-, rfl⟩ | ⟨-, ⟨hash, h, -, -, completes⟩, -⟩
  · exact List.Pairwise.nil
  · exact (relevantAncestry_pairwise c db finalizedNumber inChain).sublist
      (completes ▸ List.sublist_append_left _ _)

/-- Whatever the chain API answers, a list `determine_new_blocks` returns is empty when the
head is tracked or not above `finalized_number`, and otherwise ends at the head and is a
suffix of the relevant run: oldest first, each block the parent of the next and one number
below it, every block in the chain, untracked and above `finalized_number`. It is the whole
run when no request fails. -/
theorem determineNewBlocks_relevantRun {env : Collaborators} (answers : AnswersOrFails c env)
    {head : Hash} {header : Header} (inChain : c.header head = some header) (fuel : Nat)
    (m : Machine) {list : List (Hash × Header)}
    (returns : (determineNewBlocks db head header finalizedNumber fuel env m).1 = .ok list) :
    (db.tracked head ∨ header.number ≤ finalizedNumber → list = []) ∧
      (¬(db.tracked head ∨ header.number ≤ finalizedNumber) →
        list.getLast? = some (head, header) ∧ list <:+ relevantRun c db finalizedNumber head header) ∧
      list.Chain' (fun b b' => b'.2.parentHash = b.1 ∧ b.2.number + 1 = b'.2.number) ∧
      (∀ b ∈ list, c.header b.1 = some b.2 ∧ db.tracked b.1 = false ∧
        finalizedNumber < b.2.number) ∧
      (Answers c env → list = relevantRun c db finalizedNumber head header) := by
  rcases determineNewBlocks_walked db finalizedNumber c answers inChain fuel m returns with
    ⟨early, rfl⟩ | ⟨relevant, ⟨hash, h, last, -, completes⟩, all⟩
  · exact ⟨fun _ => rfl, fun relevant => absurd early relevant, List.chain'_nil, by simp,
      fun _ => by simp [relevantRun, early]⟩
  have onRun : list <:+ relevantRun c db finalizedNumber head header := by
    rw [relevantRun_of_relevant c db finalizedNumber relevant, ← List.reverse_reverse list,
      List.reverse_suffix]
    exact ⟨_, completes⟩
  have atHead : list.getLast? = some (head, header) := by
    rw [← List.head?_reverse]
    rcases reversed : list.reverse with _ | ⟨first, rest⟩
    · simp [reversed] at last
    · rw [reversed, List.cons_append, List.cons.injEq] at completes
      rw [completes.1]
      rfl
  exact ⟨fun early => absurd early relevant, fun _ => ⟨atHead, onRun⟩,
    (relevantRun_chain' c db finalizedNumber inChain).suffix onRun,
    fun b mem => mem_relevantRun c db finalizedNumber inChain (onRun.subset mem), all⟩

/-- Blocks 0 to 3, none tracked, nothing finalized past genesis: the walk returns blocks 1 to
3, which is the relevant run. -/
theorem determineNewBlocks_relevantRun_line :
    (determineNewBlocks DbReader.empty 3 ⟨2, 3, []⟩ 0 3 (Chain.line 3).answering
        ⟨default, []⟩).1 = .ok [(1, ⟨0, 1, []⟩), (2, ⟨1, 2, []⟩), (3, ⟨2, 3, []⟩)] ∧
      [(1, ⟨0, 1, []⟩), (2, ⟨1, 2, []⟩), (3, ⟨2, 3, []⟩)] =
        relevantRun (Chain.line 3) DbReader.empty 0 3 ⟨2, 3, []⟩ := by
  have returns : (determineNewBlocks DbReader.empty 3 ⟨2, 3, []⟩ 0 3 (Chain.line 3).answering
      ⟨default, []⟩).1 = .ok [(1, ⟨0, 1, []⟩), (2, ⟨1, 2, []⟩), (3, ⟨2, 3, []⟩)] := rfl
  exact ⟨returns, (determineNewBlocks_relevantRun DbReader.empty 0 (Chain.line 3)
    (Chain.line 3).answering_answers.answersOrFails
    (show (Chain.line 3).header 3 = some ⟨2, 3, []⟩ from rfl) 3 _ returns).2.2.2.2
      (Chain.line 3).answering_answers⟩

/-- When no request fails and the DB reads succeed, `determine_new_blocks` returns the whole
relevant run, given as much fuel as the head's number, when the head is tracked or not above
the finalized number (the run is then empty), when the head's parent is tracked, or when the
run reaches block 1. -/
theorem determineNewBlocks_returns {env : Collaborators} (answers : Answers c env)
    (total : db.Total) {head : Hash} {header : Header} (inChain : c.header head = some header)
    (reaches : (db.tracked head ∨ header.number ≤ finalizedNumber) ∨
      db.tracked header.parentHash ∨
      ∃ b ∈ relevantRun c db finalizedNumber head header, b.2.number ≤ 1)
    (fuel : Nat) (enough : header.number ≤ fuel) (m : Machine) :
    (determineNewBlocks db head header finalizedNumber fuel env m).1 =
      .ok (relevantRun c db finalizedNumber head header) := by
  by_cases early : db.tracked head ∨ header.number ≤ finalizedNumber
  · rw [determineNewBlocks_early db finalizedNumber (total.loadBlockEntry head) early]
    simp [relevantRun, early]
  replace reaches := reaches.resolve_left early
  rw [relevantRun_of_relevant c db finalizedNumber early]
  push_neg at early
  simp only [Bool.not_eq_true] at early
  obtain ⟨p, parent, numbered⟩ := c.parent_numbered head header inChain (by omega)
  rw [determineNewBlocks_of_relevant db finalizedNumber
    (by rw [total.loadBlockEntry, early.1]) early.2 (total.loadBlockEntry _)]
  split_ifs with fast
  · rw [relevantAncestry_parent c db finalizedNumber parent numbered, if_pos (.inl fast)]
    rfl
  have reachesOne := reaches.resolve_left fast
  rw [relevantRun_of_relevant c db finalizedNumber (by simp [early.1, early.2])] at reachesOne
  simp only [List.mem_reverse] at reachesOne
  have walk := walkAncestry_returns c db finalizedNumber answers total inChain reachesOne fuel
    [(head, header)] m head header rfl inChain rfl (by omega) enough
  rcases result : walkAncestry db finalizedNumber fuel [(head, header)] env m with ⟨_ | _, _⟩ <;>
    simp only [result] at walk ⊢ <;> cases walk
  rfl

/-- Head 3 over blocks 0 to 3: with genesis finalized the walk reaches block 1, and with block 3
finalized the head is not above it and the run is empty. -/
theorem determineNewBlocks_returns_line :
    (determineNewBlocks DbReader.empty 3 ⟨2, 3, []⟩ 0 3 (Chain.line 3).answering
        ⟨default, []⟩).1 = .ok (relevantRun (Chain.line 3) DbReader.empty 0 3 ⟨2, 3, []⟩) ∧
      (determineNewBlocks DbReader.empty 3 ⟨2, 3, []⟩ 3 3 (Chain.line 3).answering
        ⟨default, []⟩).1 = .ok (relevantRun (Chain.line 3) DbReader.empty 3 3 ⟨2, 3, []⟩) :=
  ⟨determineNewBlocks_returns DbReader.empty 0 (Chain.line 3) (Chain.line 3).answering_answers
    DbReader.empty_total (show (Chain.line 3).header 3 = some ⟨2, 3, []⟩ from rfl)
    (.inr (.inr ⟨(1, ⟨0, 1, []⟩), by decide, le_refl 1⟩)) 3 (le_refl 3) _,
  determineNewBlocks_returns DbReader.empty 3 (Chain.line 3) (Chain.line 3).answering_answers
    DbReader.empty_total (show (Chain.line 3).header 3 = some ⟨2, 3, []⟩ from rfl)
    (.inl (.inr (le_refl 3))) 3 (le_refl 3) _⟩

/-- When no request fails and the DB reads succeed, `determine_new_blocks` on a head that is
untracked and above the finalized number, with an untracked parent, never returns when no
block of the relevant run is numbered 1 or below: it runs out of every fuel. -/
theorem determineNewBlocks_diverges {env : Collaborators} (answers : Answers c env)
    (total : db.Total) {head : Hash} {header : Header} (inChain : c.header head = some header)
    (relevant : db.tracked head = false ∧ finalizedNumber < header.number)
    (parentUntracked : db.tracked header.parentHash = false)
    (far : ∀ b ∈ relevantRun c db finalizedNumber head header, 1 < b.2.number)
    (fuel : Nat) (m : Machine) :
    (determineNewBlocks db head header finalizedNumber fuel env m).1 = .error .outOfFuel := by
  rw [determineNewBlocks_of_relevant db finalizedNumber (by rw [total.loadBlockEntry, relevant.1])
    relevant.2 (by rw [total.loadBlockEntry, parentUntracked]), if_neg Bool.false_ne_true]
  rw [relevantRun_of_relevant c db finalizedNumber (by simp [relevant.1, relevant.2])] at far
  have walk := walkAncestry_diverges c db finalizedNumber answers total
    (fun b mem => far b (List.mem_reverse.2 mem)) fuel [(head, header)] m
    ⟨head, header, rfl, inChain, rfl⟩
  rcases result : walkAncestry db finalizedNumber fuel [(head, header)] env m with
    ⟨_ | _, _⟩ <;> simp only [result] at walk ⊢ <;> cases walk
  rfl

/-- Head 13 over blocks 0 to 13 with block 12 finalized: the run is the head alone, and the
walk never returns. -/
theorem determineNewBlocks_diverges_line :
    (determineNewBlocks DbReader.empty 13 ⟨12, 13, []⟩ 12 7 (Chain.line 13).answering
      ⟨default, []⟩).1 = .error .outOfFuel :=
  determineNewBlocks_diverges DbReader.empty 12 (Chain.line 13) (Chain.line 13).answering_answers
    DbReader.empty_total (show (Chain.line 13).header 13 = some ⟨12, 13, []⟩ from rfl)
    ⟨rfl, by decide⟩ rfl (by decide) 7 _

/-- The test `determine_new_blocks_back_to_finalized`: blocks up to 18, head 18, block 12
finalized, nothing tracked, and a chain API that always answers. Two batches take the walk to
block 13, whose parent is finalized; from then on every iteration asks for block 13's
ancestors and their headers again, and no fuel is enough. -/
theorem determineNewBlocks_back_to_finalized_loops (fuel : Nat) :
    (determineNewBlocks DbReader.empty 18 ⟨17, 18, []⟩ 12 fuel (Chain.line 18).answering
        ⟨default, []⟩).1 = .error .outOfFuel ∧
      (determineNewBlocks DbReader.empty 18 ⟨17, 18, []⟩ 12 (fuel + 2) (Chain.line 18).answering
        ⟨default, []⟩).2.sent =
        [.ancestors 18 4, .blockHeader 17, .blockHeader 16, .blockHeader 15, .blockHeader 14,
          .ancestors 14 4, .blockHeader 13, .blockHeader 12, .blockHeader 11, .blockHeader 10] ++
        (List.replicate fuel [.ancestors 13 4, .blockHeader 12, .blockHeader 11,
          .blockHeader 10, .blockHeader 9]).flatten := by
  have answers := (Chain.line 18).answering_answers
  let head : Header := ⟨17, 18, []⟩
  let afterFirst := [(18, head)] ++
    (relevantAncestry (Chain.line 18) DbReader.empty 12 head.number head).take ancestryStep
  let block14 : Header := ⟨13, 14, []⟩
  have first := @walkAncestry_step (Chain.line 18) DbReader.empty 12 _ answers
    DbReader.empty_total [(18, head)] 18 head rfl rfl (by decide)
  have second := @walkAncestry_step (Chain.line 18) DbReader.empty 12 _ answers
    DbReader.empty_total afterFirst 14 block14 rfl rfl (by decide)
  have stuck := @walkAncestry_stuck (Chain.line 18) DbReader.empty 12 _ answers
    DbReader.empty_total (afterFirst ++
      (relevantAncestry (Chain.line 18) DbReader.empty 12 block14.number block14).take ancestryStep)
    13 ⟨12, 13, []⟩ rfl rfl (by decide) rfl
  have loops : ∀ fuel, determineNewBlocks DbReader.empty 18 ⟨17, 18, []⟩ 12 (fuel + 2)
      (Chain.line 18).answering ⟨default, []⟩ =
      (.error .outOfFuel, ⟨default,
        [.ancestors 18 4, .blockHeader 17, .blockHeader 16, .blockHeader 15, .blockHeader 14,
          .ancestors 14 4, .blockHeader 13, .blockHeader 12, .blockHeader 11, .blockHeader 10] ++
        (List.replicate fuel [.ancestors 13 4, .blockHeader 12, .blockHeader 11,
          .blockHeader 10, .blockHeader 9]).flatten⟩) := by
    intro fuel
    rw [determineNewBlocks_of_relevant DbReader.empty 12 rfl (by decide) rfl,
      if_neg Bool.false_ne_true, first, second, stuck]
    rfl
  refine ⟨?_, by rw [loops]⟩
  rcases fuel with _ | _ | fuel
  · rfl
  · rfl
  · rw [loops]

end Determine

end SelendraChain.ApprovalVoting
