import SelendraChain.ApprovalVoting.Subsystem

/-!
# Caching session info: `load_all_sessions` and `cache_session_info_for_head`

Source: `src/node/core/approval-voting/src/import.rs`, lines 199-354.

`cache_session_info_for_head` asks the runtime for the session governing the head and
then moves the rolling window so that it ends at that session, loading every session it
lacks one `SessionInfo` request at a time. The model keeps the source's two halves apart:
`sessionIndexForHead` is the request, `rollSessionWindow` the `match` on the window.
The window is read once; nothing but the final assignment writes it.
`APPROVAL_SESSIONS` is declared outside `src` and enters as `ApprovalSessions`.
-/

set_option autoImplicit false

namespace SelendraChain.ApprovalVoting
open Sub

/-- `APPROVAL_SESSIONS`. `APPROVAL_SESSIONS - 1` is a constant expression, so rustc rejects
a zero window at compile time. -/
structure ApprovalSessions where
  value : SessionIndex
  positive : 0 < value.val

/-- `start..=end_inclusive` over `u32`: empty when `start > end_inclusive`. -/
def rangeInclusive (start endInclusive : SessionIndex) : List SessionIndex :=
  (List.range' start.val (endInclusive.val + 1 - start.val)).filterMap fun n =>
    if h : n < 2 ^ 32 then some ⟨n, h⟩ else none

/-- The loop of `load_all_sessions`; `v` holds the sessions pushed so far. -/
def loadSessions (blockHash : Hash) (v : List SessionInfo) :
    List SessionIndex → Sub (Option (List SessionInfo))
  | [] => pure (some v)
  | i :: rest => do
    match ← requestSessionInfo blockHash i with
    | .ok (some s) => loadSessions blockHash (v ++ [s]) rest
    | .ok none => pure none
    | .error e => abort (.error (.withOrigin "approval-voting" e))
    | .closed => abort (.error (.withOrigin "approval-voting" "oneshot canceled"))

def loadAllSessions (blockHash : Hash) (start endInclusive : SessionIndex) :
    Sub (Option (List SessionInfo)) :=
  loadSessions blockHash [] (rangeInclusive start endInclusive)

/-- Sessions unavailable in state to cache. -/
structure SessionsUnavailable where
  deriving DecidableEq, Repr

/-- The genesis has no parent state, so its own state is asked. -/
def sessionIndexRelayParent (blockHash : Hash) (blockHeader : Header) : Hash :=
  if blockHeader.number = 0 then blockHash else blockHeader.parentHash

def sessionIndexForHead (blockHash : Hash) (blockHeader : Header) : Sub SessionIndex := do
  match ← requestSessionIndexForChild (sessionIndexRelayParent blockHash blockHeader) with
  | .ok s => pure s
  | .error e => abort (.error (.withOrigin "approval-voting" e))
  | .closed => abort (.error .canceled)

/-- The window's start for a head in `sessionIndex`. -/
def windowStartFor (approvalSessions : ApprovalSessions) (sessionIndex : SessionIndex) :
    SessionIndex :=
  saturatingSub sessionIndex (approvalSessions.value - 1)

def installWindow (windowStart : SessionIndex) (sessionInfo : List SessionInfo) :
    Sub (Except SessionsUnavailable Unit) := do
  setWindow ⟨some windowStart, sessionInfo⟩
  pure (.ok ())

/-- Both arms of the `match` load `fresh_start..=session_index` and install the result only
if every session came back; a `None` answer is `SessionsUnavailable`. -/
def loadThenInstall (blockHash : Hash) (freshStart sessionIndex : SessionIndex)
    (install : List SessionInfo → Sub (Except SessionsUnavailable Unit)) :
    Sub (Except SessionsUnavailable Unit) := do
  match ← loadAllSessions blockHash freshStart sessionIndex with
  | none => pure (.error ⟨⟩)
  | some s => install s

/-- The `match session_window.earliest_session` of `cache_session_info_for_head`. -/
def rollSessionWindow (approvalSessions : ApprovalSessions) (blockHash : Hash)
    (sessionIndex : SessionIndex) : Sub (Except SessionsUnavailable Unit) := do
  let w ← window
  match w.earliestSession with
  | none =>
    let windowStart := windowStartFor approvalSessions sessionIndex
    loadThenInstall blockHash windowStart sessionIndex (installWindow windowStart)
  | some oldWindowStart =>
    match w.latestSession with
    | none => abort (.panic "latest always exists if earliest does; qed")
    | some latest =>
      if sessionIndex ≤ latest then pure (.ok ()) else
      let windowStart := windowStartFor approvalSessions sessionIndex
      let overlapStart := windowStart - oldWindowStart
      let freshStart := if latest < windowStart then windowStart else latest + 1
      loadThenInstall blockHash freshStart sessionIndex fun s =>
        -- `drain(..overlap_start)` checks its range before it removes anything.
        if w.sessionInfo.length < overlapStart.val then
          abort (.panic "range end index out of range for slice")
        else
          installWindow windowStart (w.sessionInfo.drop overlapStart.val ++ s)

def cacheSessionInfoForHead (approvalSessions : ApprovalSessions) (blockHash : Hash)
    (blockHeader : Header) : Sub (Except SessionsUnavailable Unit) := do
  let sessionIndex ← sessionIndexForHead blockHash blockHeader
  rollSessionWindow approvalSessions blockHash sessionIndex

/-! ### Loading -/

/-- The sessions a load of `sessions` requests when its first answer comes at trace
position `pos`: each in turn, through the first one not answered with a `SessionInfo`. -/
def sessionsRequested (env : Collaborators) (blockHash : Hash) (pos : Nat) :
    List SessionIndex → List SessionIndex
  | [] => []
  | i :: rest => i :: match env.sessionInfo pos blockHash i with
    | .ok (some _) => sessionsRequested env blockHash (pos + 1) rest
    | _ => []

/-- The lookups of `sessions`, answered from trace position `pos` on, return `infos`. -/
def LookupsAnswer (env : Collaborators) (blockHash : Hash) :
    Nat → List SessionIndex → List SessionInfo → Prop
  | _, [], [] => True
  | pos, i :: rest, s :: infos =>
    env.sessionInfo pos blockHash i = .ok (some s) ∧ LookupsAnswer env blockHash (pos + 1) rest infos
  | _, _, _ => False

section Loading

variable (blockHash : Hash) (env : Collaborators)

theorem loadSessions_sessionWindow (v : List SessionInfo) (sessions : List SessionIndex)
    (m : Machine) : (loadSessions blockHash v sessions env m).2.sessionWindow = m.sessionWindow := by
  induction sessions generalizing v m with
  | nil => rfl
  | cons i rest ih =>
    simp only [loadSessions, run_bind, run_requestSessionInfo]
    rcases env.sessionInfo m.sent.length blockHash i with _ | _ | _ | _ <;> simp [ih]

theorem loadSessions_sent (v : List SessionInfo) (sessions : List SessionIndex) (m : Machine) :
    (loadSessions blockHash v sessions env m).2.sent =
      m.sent ++ (sessionsRequested env blockHash m.sent.length sessions).map
        (.sessionInfo blockHash) := by
  induction sessions generalizing v m with
  | nil => simp [loadSessions, sessionsRequested]
  | cons i rest ih =>
    simp only [loadSessions, run_bind, run_requestSessionInfo, sessionsRequested]
    rcases env.sessionInfo m.sent.length blockHash i with _ | _ | _ | _ <;> simp [ih]

theorem loadSessions_of_answers (v infos : List SessionInfo) (sessions : List SessionIndex)
    (m : Machine) (answers : LookupsAnswer env blockHash m.sent.length sessions infos) :
    loadSessions blockHash v sessions env m =
      (.ok (some (v ++ infos)), { m with sent := m.sent ++ sessions.map (.sessionInfo blockHash) }) := by
  induction sessions generalizing v infos m with
  | nil =>
    cases infos with
    | nil => simp [loadSessions]
    | cons => exact absurd answers id
  | cons i rest ih =>
    cases infos with
    | nil => exact absurd answers id
    | cons s infos =>
      obtain ⟨first, later⟩ := answers
      simp only [loadSessions, run_bind, run_requestSessionInfo, first]
      rw [ih _ _ _ (by simpa using later)]
      simp [Machine.send]

theorem loadSessions_some (v loaded : List SessionInfo) (sessions : List SessionIndex)
    (m : Machine) (success : (loadSessions blockHash v sessions env m).1 = .ok (some loaded)) :
    ∃ infos, loaded = v ++ infos ∧ LookupsAnswer env blockHash m.sent.length sessions infos := by
  induction sessions generalizing v m with
  | nil =>
    simp only [loadSessions, run_pure, Except.ok.injEq, Option.some.injEq] at success
    exact ⟨[], by simp [success], trivial⟩
  | cons i rest ih =>
    simp only [loadSessions, run_bind, run_requestSessionInfo] at success
    rcases answer : env.sessionInfo m.sent.length blockHash i with _ | _ | _ | s <;>
      simp only [answer, run_abort, run_pure, reduceCtorEq, Except.ok.injEq,
        Option.some.injEq] at success
    obtain ⟨infos, rfl, later⟩ := ih _ _ success
    exact ⟨s :: infos, by simp, answer, by simpa using later⟩

/-- A load fails with an error only at a lookup of its trace that was answered with an error
or a closed channel. -/
theorem loadSessions_error (v : List SessionInfo) (sessions : List SessionIndex) (m : Machine)
    {e : SubsystemError} (failed : (loadSessions blockHash v sessions env m).1 = .error (.error e)) :
    ∃ i index, (loadSessions blockHash v sessions env m).2.sent[i]? =
      some (.sessionInfo blockHash index) ∧ (env.sessionInfo i blockHash index).Failed := by
  induction sessions generalizing v m with
  | nil => simp [loadSessions] at failed
  | cons index rest ih =>
    simp only [loadSessions, run_bind, run_requestSessionInfo] at failed ⊢
    rcases reply : env.sessionInfo m.sent.length blockHash index with _ | _ | _ | s <;>
      simp only [reply, run_abort, run_pure, reduceCtorEq] at failed ⊢
    · exact ⟨m.sent.length, index, by simp, by rw [reply]; trivial⟩
    · exact ⟨m.sent.length, index, by simp, by rw [reply]; trivial⟩
    · exact ih _ _ failed

end Loading

private theorem map_val_filterMap (l : List Nat) (bound : ∀ n ∈ l, n < 2 ^ 32) :
    (l.filterMap fun n => if h : n < 2 ^ 32 then some (⟨n, h⟩ : SessionIndex) else none).map
      Fin.val = l := by
  induction l with
  | nil => rfl
  | cons n l ih =>
    have fits := bound n (List.mem_cons_self n l)
    rw [List.filterMap_cons, dif_pos fits]
    exact congrArg (n :: ·) (ih fun k mem => bound k (List.mem_cons_of_mem n mem))

theorem rangeInclusive_val (start endInclusive : SessionIndex) :
    (rangeInclusive start endInclusive).map Fin.val =
      List.range' start.val (endInclusive.val + 1 - start.val) :=
  map_val_filterMap _ fun n mem => by
    rw [List.mem_range'_1] at mem
    have := endInclusive.isLt
    omega

/-! ### Load, then install -/

section Install

variable (blockHash : Hash) (freshStart sessionIndex : SessionIndex)
  (install : List SessionInfo → Sub (Except SessionsUnavailable Unit)) (env : Collaborators)

/-- The trace of a load, whatever happens, when installing sends nothing. -/
theorem loadThenInstall_sent (m : Machine)
    (quiet : ∀ infos m', (install infos env m').2.sent = m'.sent) :
    (loadThenInstall blockHash freshStart sessionIndex install env m).2.sent =
      m.sent ++ (sessionsRequested env blockHash m.sent.length
        (rangeInclusive freshStart sessionIndex)).map (.sessionInfo blockHash) := by
  have sent := loadSessions_sent blockHash env [] (rangeInclusive freshStart sessionIndex) m
  simp only [loadThenInstall, loadAllSessions, run_bind] at sent ⊢
  generalize loadSessions blockHash [] (rangeInclusive freshStart sessionIndex) env m = out at sent ⊢
  rcases out with ⟨_ | _ | _, m'⟩ <;> simp_all

/-- A failed load leaves the window; so does an install that does not succeed. -/
theorem loadThenInstall_unchanged (m : Machine)
    (settles : ∀ infos m', (install infos env m').1 = .ok (.ok ()) ∨
      (install infos env m').2.sessionWindow = m'.sessionWindow) :
    (loadThenInstall blockHash freshStart sessionIndex install env m).1 = .ok (.ok ()) ∨
      (loadThenInstall blockHash freshStart sessionIndex install env m).2.sessionWindow =
        m.sessionWindow := by
  have kept := loadSessions_sessionWindow blockHash env [] (rangeInclusive freshStart sessionIndex) m
  simp only [loadThenInstall, loadAllSessions, run_bind] at kept ⊢
  generalize loadSessions blockHash [] (rangeInclusive freshStart sessionIndex) env m = out at kept ⊢
  rcases out with ⟨_ | _ | infos, m'⟩
  · exact .inr kept
  · exact .inr kept
  · exact (settles infos m').imp id (·.trans kept)

theorem loadThenInstall_of_answers (m : Machine) (infos : List SessionInfo)
    (answers : LookupsAnswer env blockHash m.sent.length (rangeInclusive freshStart sessionIndex)
      infos) :
    loadThenInstall blockHash freshStart sessionIndex install env m =
      install infos env { m with sent := m.sent ++
        (rangeInclusive freshStart sessionIndex).map (.sessionInfo blockHash) } := by
  simp [loadThenInstall, loadAllSessions, loadSessions_of_answers _ _ _ _ _ _ answers]

/-- An install that ran saw the answers of every lookup of the range. -/
theorem loadThenInstall_installed (m : Machine)
    (success : (loadThenInstall blockHash freshStart sessionIndex install env m).1 = .ok (.ok ())) :
    ∃ infos, LookupsAnswer env blockHash m.sent.length (rangeInclusive freshStart sessionIndex)
      infos ∧ loadThenInstall blockHash freshStart sessionIndex install env m =
        install infos env { m with sent := m.sent ++
          (rangeInclusive freshStart sessionIndex).map (.sessionInfo blockHash) } := by
  simp only [loadThenInstall, loadAllSessions, run_bind] at success
  rcases loaded : loadSessions blockHash [] (rangeInclusive freshStart sessionIndex) env m
    with ⟨_ | _ | infos, m'⟩ <;>
    simp only [loaded, run_pure, reduceCtorEq, Except.ok.injEq] at success
  obtain ⟨infos, rfl, answers⟩ := loadSessions_some blockHash env [] infos _ m (by rw [loaded])
  exact ⟨infos, answers, loadThenInstall_of_answers _ _ _ _ _ _ _ answers⟩

/-- When installing never fails with an error, a load-then-install fails with one only in
its load. -/
theorem loadThenInstall_error (m : Machine)
    (quiet : ∀ infos m' e, (install infos env m').1 ≠ .error (.error e)) {e : SubsystemError}
    (failed : (loadThenInstall blockHash freshStart sessionIndex install env m).1 =
      .error (.error e)) :
    ∃ i index, (loadThenInstall blockHash freshStart sessionIndex install env m).2.sent[i]? =
      some (.sessionInfo blockHash index) ∧ (env.sessionInfo i blockHash index).Failed := by
  simp only [loadThenInstall, loadAllSessions, run_bind] at failed ⊢
  rcases loaded : loadSessions blockHash [] (rangeInclusive freshStart sessionIndex) env m
    with ⟨reason | _ | infos, m'⟩ <;> simp only [loaded, run_pure, reduceCtorEq] at failed ⊢
  · cases failed
    have found := loadSessions_error blockHash env [] _ m (by rw [loaded])
    rwa [loaded] at found
  · exact absurd failed (quiet infos m' e)

end Install

theorem val_add_one_of_lt {a b : SessionIndex} (below : a < b) : (a + 1).val = a.val + 1 := by
  have := b.isLt
  have := Fin.lt_def.1 below
  rw [Fin.val_add, show (1 : SessionIndex).val = 1 from rfl]
  exact Nat.mod_eq_of_lt (by omega)

/-! ### What a call does to the window and what it sends -/

section Roll

variable (approvalSessions : ApprovalSessions) (blockHash : Hash) (env : Collaborators)

theorem rollSessionWindow_unchanged (sessionIndex : SessionIndex) (m : Machine) :
    (rollSessionWindow approvalSessions blockHash sessionIndex env m).1 = .ok (.ok ()) ∨
      (rollSessionWindow approvalSessions blockHash sessionIndex env m).2.sessionWindow =
        m.sessionWindow := by
  simp only [rollSessionWindow, run_bind, run_window]
  rcases earliest : m.sessionWindow.earliestSession with _ | old
  · exact loadThenInstall_unchanged _ _ _ _ _ _ fun _ _ => .inl rfl
  · simp only [RollingSessionWindow.latestSession, earliest, Option.map_some']
    generalize old + _ = latest
    generalize windowStartFor approvalSessions sessionIndex = windowStart
    by_cases cached : sessionIndex ≤ latest
    · exact .inl (by simp [cached])
    simp only [cached, if_false]
    exact loadThenInstall_unchanged _ _ _ _ _ _ fun _ _ => by split <;> simp [installWindow]

/-- The sessions a call requests: a range ending at the head's session and starting at the
window start, or just past the cached latest session. -/
theorem rollSessionWindow_sent (sessionIndex : SessionIndex) (m : Machine) :
    ∃ planned : List SessionIndex,
      (rollSessionWindow approvalSessions blockHash sessionIndex env m).2.sent =
        m.sent ++ (sessionsRequested env blockHash m.sent.length planned).map
          (.sessionInfo blockHash) ∧
      planned.map Fin.val =
        let windowStart := (windowStartFor approvalSessions sessionIndex).val
        match m.sessionWindow.latestSession with
        | none => List.range' windowStart (sessionIndex.val + 1 - windowStart)
        | some latest =>
          if sessionIndex ≤ latest then []
          else if latest.val < windowStart then
            List.range' windowStart (sessionIndex.val + 1 - windowStart)
          else List.range' (latest.val + 1) (sessionIndex.val - latest.val) := by
  simp only [rollSessionWindow, run_bind, run_window]
  rcases earliest : m.sessionWindow.earliestSession with _ | old
  · refine ⟨_, loadThenInstall_sent _ _ _ _ env m fun _ _ => rfl, ?_⟩
    simp only [RollingSessionWindow.latestSession, earliest, Option.map_none']
    exact rangeInclusive_val _ _
  · simp only [RollingSessionWindow.latestSession, earliest, Option.map_some']
    generalize old + _ = latest
    generalize windowStartFor approvalSessions sessionIndex = windowStart
    by_cases cached : sessionIndex ≤ latest
    · exact ⟨[], by simp [cached, sessionsRequested], by simp [cached]⟩
    · refine ⟨_, by simpa only [cached, if_false] using
        loadThenInstall_sent _ _ _ _ env m fun _ _ => by split <;> rfl, ?_⟩
      rw [rangeInclusive_val]
      simp only [cached, if_false, Fin.lt_def]
      split
      · rfl
      · rw [val_add_one_of_lt (Fin.not_le.mp cached)]
        congr 1
        omega

theorem rollSessionWindow_error (sessionIndex : SessionIndex) (m : Machine) {e : SubsystemError}
    (failed : (rollSessionWindow approvalSessions blockHash sessionIndex env m).1 =
      .error (.error e)) :
    ∃ i index, (rollSessionWindow approvalSessions blockHash sessionIndex env m).2.sent[i]? =
      some (.sessionInfo blockHash index) ∧ (env.sessionInfo i blockHash index).Failed := by
  simp only [rollSessionWindow, run_bind, run_window] at failed ⊢
  rcases earliest : m.sessionWindow.earliestSession with _ | old <;>
    simp only [earliest] at failed ⊢
  · exact loadThenInstall_error _ _ _ _ env m (fun _ _ _ => by simp [installWindow]) failed
  · simp only [RollingSessionWindow.latestSession, earliest, Option.map_some'] at failed ⊢
    generalize old + _ = latest at failed ⊢
    generalize windowStartFor approvalSessions sessionIndex = windowStart at failed ⊢
    by_cases cached : sessionIndex ≤ latest
    · simp [cached] at failed
    simp only [cached, if_false] at failed ⊢
    refine loadThenInstall_error _ _ _ _ env m (fun _ _ _ => ?_) failed
    split <;> simp [installWindow]

end Roll

section Cache

variable (approvalSessions : ApprovalSessions) (blockHash : Hash) (blockHeader : Header)
  (env : Collaborators) (m : Machine)

theorem cacheSessionInfoForHead_unchanged :
    (cacheSessionInfoForHead approvalSessions blockHash blockHeader env m).1 = .ok (.ok ()) ∨
      (cacheSessionInfoForHead approvalSessions blockHash blockHeader env m).2.sessionWindow =
        m.sessionWindow := by
  simp only [cacheSessionInfoForHead, sessionIndexForHead, run_bind,
    run_requestSessionIndexForChild]
  rcases env.sessionIndexForChild m.sent.length (sessionIndexRelayParent blockHash blockHeader)
    with _ | _ | s
  · exact .inr rfl
  · exact .inr rfl
  · exact rollSessionWindow_unchanged approvalSessions blockHash env s _

/-- A call sends its `SessionIndexForChild` request and then only `SessionInfo` requests. -/
theorem cacheSessionInfoForHead_sent : ∃ sessions : List SessionIndex,
    (cacheSessionInfoForHead approvalSessions blockHash blockHeader env m).2.sent =
      m.sent ++ .sessionIndexForChild (sessionIndexRelayParent blockHash blockHeader) ::
        sessions.map (.sessionInfo blockHash) := by
  simp only [cacheSessionInfoForHead, sessionIndexForHead, run_bind,
    run_requestSessionIndexForChild]
  rcases env.sessionIndexForChild m.sent.length (sessionIndexRelayParent blockHash blockHeader)
    with _ | _ | s
  · exact ⟨[], by simp⟩
  · exact ⟨[], by simp⟩
  · obtain ⟨planned, sent, -⟩ := rollSessionWindow_sent approvalSessions blockHash env s
      (m.send (.sessionIndexForChild (sessionIndexRelayParent blockHash blockHeader)))
    exact ⟨_, by simpa using sent⟩

/-- For a head in session `s`, the call requests the sessions `fresh..=s` in increasing
order, each once, through the first lookup that fails: `fresh` is the window start
`s.saturating_sub(N - 1)` for an empty window or one whose latest session is below it,
the successor of the latest session when that lies in `[windowStart, s)`, and nothing is
requested when `s` is at most the latest session. -/
theorem cacheSessionInfoForHead_requests (s : SessionIndex)
    (governed : env.sessionIndexForChild m.sent.length
      (sessionIndexRelayParent blockHash blockHeader) = .ok s) :
    ∃ planned : List SessionIndex,
      (cacheSessionInfoForHead approvalSessions blockHash blockHeader env m).2.sent =
        m.sent ++ .sessionIndexForChild (sessionIndexRelayParent blockHash blockHeader) ::
          (sessionsRequested env blockHash (m.sent.length + 1) planned).map
            (.sessionInfo blockHash) ∧
      planned.map Fin.val =
        let windowStart := (saturatingSub s (approvalSessions.value - 1)).val
        match m.sessionWindow.latestSession with
        | none => List.range' windowStart (s.val + 1 - windowStart)
        | some latest =>
          if s ≤ latest then []
          else if latest.val < windowStart then List.range' windowStart (s.val + 1 - windowStart)
          else List.range' (latest.val + 1) (s.val - latest.val) := by
  simp only [cacheSessionInfoForHead, sessionIndexForHead, run_bind,
    run_requestSessionIndexForChild, governed, run_pure]
  obtain ⟨planned, sent, range⟩ := rollSessionWindow_sent approvalSessions blockHash env s
    (m.send (.sessionIndexForChild (sessionIndexRelayParent blockHash blockHeader)))
  refine ⟨planned, ?_, range⟩
  rw [sent, Machine.send_sent, List.append_assoc, List.length_append, List.length_singleton]
  rfl

/-- A call fails with an error only when its `SessionIndexForChild` request fails or one of
its `SessionInfo` lookups is answered with an error or a closed channel. -/
theorem cacheSessionInfoForHead_error {e : SubsystemError}
    (failed : (cacheSessionInfoForHead approvalSessions blockHash blockHeader env m).1 =
      .error (.error e)) :
    (env.sessionIndexForChild m.sent.length (sessionIndexRelayParent blockHash blockHeader)).Failed ∨
      ∃ i index, (cacheSessionInfoForHead approvalSessions blockHash blockHeader env m).2.sent[i]? =
        some (.sessionInfo blockHash index) ∧ (env.sessionInfo i blockHash index).Failed := by
  simp only [cacheSessionInfoForHead, sessionIndexForHead, run_bind,
    run_requestSessionIndexForChild] at failed ⊢
  rcases reply : env.sessionIndexForChild m.sent.length
    (sessionIndexRelayParent blockHash blockHeader) with _ | _ | s
  · exact .inl trivial
  · exact .inl trivial
  · simp only [reply, run_pure] at failed ⊢
    exact .inr (rollSessionWindow_error approvalSessions blockHash env s _ failed)

end Cache

/-- A window of six sessions. -/
def sixSessions : ApprovalSessions := ⟨6, by decide⟩

/-- Collaborators that put every head in session `s` and answer every `SessionInfo`
lookup; session `i`'s info is told apart by its `no_show_slots`. -/
def answeringAll (s : SessionIndex) : Collaborators where
  blockHeader _ _ := .closed
  ancestors _ _ _ := .closed
  sessionIndexForChild _ _ := .ok s
  sessionInfo _ _ i := .ok (some ⟨[], i.val⟩)
  candidateEvents _ _ := .closed
  currentBabeEpoch _ _ := .closed
  addBlockEntry _ := .error "unused"

/-- A first load for a head in session 100 plans the sessions `95..=100`. -/
theorem cacheSessionInfoForHead_requests_first_load :
    (answeringAll 100).sessionIndexForChild 0 (sessionIndexRelayParent 1 ⟨0, 5, []⟩) = .ok 100 ∧
    ∃ planned : List SessionIndex,
      (cacheSessionInfoForHead sixSessions 1 ⟨0, 5, []⟩ (answeringAll 100) ⟨default, []⟩).2.sent =
        .sessionIndexForChild 0 :: (sessionsRequested (answeringAll 100) 1 1 planned).map
          (.sessionInfo 1) ∧
      planned.map Fin.val = List.range' 95 6 :=
  ⟨rfl, cacheSessionInfoForHead_requests sixSessions 1 ⟨0, 5, []⟩ (answeringAll 100)
    ⟨default, []⟩ 100 rfl⟩

end SelendraChain.ApprovalVoting
