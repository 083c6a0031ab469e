import DirectTransfer.Core.History
import DirectTransfer.Library.Transition

/-! The completion times that runtime updates store. One update, which holds the
history lock from its start to its end, stores the greatest completion time of
the files of a transfer whatever the status it stores, and a row keeps the first
time it was given. -/

set_option autoImplicit false

namespace DirectTransfer

open Library

/-! ## Runtime updates -/

/-- What records of one file have in common. -/
def TransferInfo.fileKey (item : TransferInfo) : PyStr × TransferDirection :=
  ((truthy item.fileId).getD item.filename, item.direction)

/-- One record for each file. -/
def resolveFiles (rawInfos : List TransferInfo) : List TransferInfo :=
  (Dict.group TransferInfo.fileKey rawInfos).values.filterMap fun items =>
    match items with
    | [] => none
    | first :: rest => some (resolveAuthoritativeFileInfo first rest)

/-- One call of `_persist_runtime_transfers`: when it is made, the name of each
peer, and for which transfers the database answers. -/
structure PersistCall where
  now : Time
  hostname : PyStr → Option PyStr
  ok : PyStr → Bool

/-- The records of the runtime, and the history they are stored in. -/
structure RuntimeHistory where
  infos : List TransferInfo
  store : TransferHistoryStore
  persisted : Dict PyStr PersistedProgress

namespace PersistCall

variable (call : PersistCall) (history : RuntimeHistory) (transferId : PyStr)
  (rawInfos : List TransferInfo)

/-- The row the loop reads. -/
def existing : Option TransferRecord :=
  if call.ok transferId then history.store.getTransfer transferId else none

def turn (first : TransferInfo) (rest : List TransferInfo) : PersistTurn where
  transferId
  first
  rest
  aggregate := aggregateStatus ((first :: rest).map TransferInfo.status)
  now := call.now
  hostname := call.hostname transferId
  existing := call.existing history transferId

/-- The status the loop computes for a transfer; every transfer has a record. -/
def status : TransferStatus :=
  match resolveFiles rawInfos with
  | [] => .complete
  | first :: rest => (call.turn history transferId first rest).status

def flushes : Bool :=
  match resolveFiles rawInfos with
  | [] => true
  | first :: rest => (call.turn history transferId first rest).flushes history.persisted

/-- The body of the loop, for the records of one transfer. -/
def persistTransfer : RuntimeHistory :=
  match resolveFiles rawInfos with
  | [] => history
  | first :: rest =>
      let turn := call.turn history transferId first rest
      if turn.flushes history.persisted then { history with
        store := turn.write history.store (call.ok transferId)
        persisted := turn.remember history.persisted }
      else history

/-- `_persist_runtime_transfers` -/
def perform : RuntimeHistory :=
  (Dict.group TransferInfo.transferId history.infos).entries.foldl
    (fun history (transferId, rawInfos) => call.persistTransfer history transferId rawInfos) history

end PersistCall

/-! ## Runs -/

inductive RuntimeMove where
  | register (info : TransferInfo)
  | setStatus (index : Nat) (status : TransferStatus) (error : Option PyStr) (now : Time)
  | progress (index : Nat) (info : TransferInfo)
  | request (request : IncomingTransferRequest) (ok : Bool)
  | decided (request : IncomingTransferRequest) (now : Time) (ok : Bool)
  | persist (call : PersistCall)
  | restart

namespace RuntimeHistory

def step (history : RuntimeHistory) : RuntimeMove → Option RuntimeHistory
  | .register info =>
      if info.completedAt = none ∧ isTerminal info.status = false then
        some { history with infos := history.infos ++ [info] }
      else none
  | .setStatus index status error now => do
      let info ← history.infos[index]?
      if now ≤ 0 then none
      match transition info status error now with
      | .error _ => return history
      | .ok next => return { history with infos := history.infos.set index next }
  | .progress index info => do
      let old ← history.infos[index]?
      if info.status = old.status ∧ info.completedAt = old.completedAt ∧
          info.transferId = old.transferId then
        return { history with infos := history.infos.set index info }
      none
  | .request request ok => some { history with
      store := if ok then handleIncomingRequest history.store request else history.store }
  | .decided request now ok => some { history with
      store := if ok then handleRequestDecision history.store request now else history.store }
  | .persist call => some (call.perform history)
  | .restart => some ⟨[], history.store.migrate, Dict.empty⟩

def start : RuntimeHistory := ⟨[], ⟨Dict.empty, Dict.empty⟩, Dict.empty⟩

/-- The records of a transfer. -/
def infosOf (history : RuntimeHistory) (transferId : PyStr) : List TransferInfo :=
  history.infos.filter fun info => decide (info.transferId = transferId)

/-- A row has a completion time exactly when its status is terminal. -/
def RowTimed (row : TransferRecord) : Prop := row.completedAt.isSome = isTerminal row.status

/-- A completion time of a complete row is not earlier than one of its files. -/
def Latest (row : TransferRecord) (rawInfos : List TransferInfo) : Prop :=
  row.status = .complete → ∀ info ∈ rawInfos, ∀ time, info.completedAt = some time →
    ∃ stored, row.completedAt = some stored ∧ time ≤ stored

/-- The completion times of the rows are those of the whole transfers. -/
def CompletionTimes (history : RuntimeHistory) : Prop :=
  ∀ transferId row, history.store.getTransfer transferId = some row →
    RowTimed row ∧ Latest row (history.infosOf transferId)

/-- What a call needs of one transfer: a status that is not terminal is stored
before any file has completed, and a row that is or becomes complete has no
completion time from before. -/
structure Timely (history : RuntimeHistory) (call : PersistCall) (transferId : PyStr)
    (rawInfos : List TransferInfo) : Prop where
  unfinished : call.ok transferId = true → call.flushes history transferId rawInfos = true →
    isTerminal (call.status history transferId rawInfos) = false →
    (∀ info ∈ rawInfos, info.completedAt = none) ∧
    ∀ row, history.store.getTransfer transferId = some row → row.completedAt = none
  latest : ∀ row stored, history.store.getTransfer transferId = some row →
    row.completedAt = some stored →
    (row.status = .complete ∨
      call.ok transferId = true ∧ call.status history transferId rawInfos = .complete) →
    ∀ info ∈ rawInfos, ∀ time, info.completedAt = some time → time ≤ stored

/-- The condition on a step. A request is stored over no row that has ended,
unless it is complete. -/
def Timed (history : RuntimeHistory) : RuntimeMove → Prop
  | .persist call => ∀ info ∈ history.infos,
      Timely history call info.transferId (history.infosOf info.transferId)
  | .request request _ => ∀ row, history.store.getTransfer request.transferId = some row →
      row.completedAt ≠ none → row.status = .complete
  | _ => True

end RuntimeHistory

/-! ## Completion times of files -/

/-- A record has a completion time exactly when it has ended. -/
structure TransferInfo.Clocked (info : TransferInfo) : Prop where
  positive : ∀ time, info.completedAt = some time → 0 < time
  ended : info.completedAt.isSome = isTerminal info.status

theorem le_latest_of (times : List (Option Time)) (from_ : Time) :
    from_ ≤ times.foldl (fun latest time => max latest (time.getD 0)) from_ := by
  induction times generalizing from_ with
  | nil => exact le_refl from_
  | cons time times ih =>
      have here : from_ ≤ max from_ (time.getD 0) := le_max_left from_ (time.getD 0)
      exact le_trans here (ih (max from_ (time.getD 0)))

theorem le_latest {times : List (Option Time)} {time : Time} (member : some time ∈ times) :
    time ≤ latest times := by
  have later : ∀ from_ : Time,
      time ≤ times.foldl (fun latest time => max latest (time.getD 0)) from_ := by
    induction times with
    | nil => cases member
    | cons head times ih =>
        intro from_
        cases List.mem_cons.mp member with
        | inl same =>
            subst same
            have here : time ≤ max from_ time := le_max_right from_ time
            exact le_trans here (le_latest_of times (max from_ time))
        | inr member => exact ih member (max from_ (head.getD 0))
  exact later 0

theorem latest_of_none {times : List (Option Time)} (running : ∀ time ∈ times, time = none) :
    latest times = 0 := by
  unfold latest
  induction times with
  | nil => rfl
  | cons head times ih =>
      rw [List.foldl_cons, running head List.mem_cons_self]
      exact ih fun time member => running time (List.mem_cons_of_mem _ member)

theorem truthyTime_latest {times : List (Option Time)} {time : Time} (member : some time ∈ times)
    (positive : 0 < time) : truthyTime (some (latest times)) = some (latest times) := by
  have after : 0 < latest times := lt_of_lt_of_le positive (le_latest member)
  simp [truthyTime, Option.filter, ne_of_gt after]

theorem outranks_rank {item best : TransferInfo} :
    (outranks item best = true → fileStatusRank best.status ≤ fileStatusRank item.status) ∧
    (outranks item best = false → fileStatusRank item.status ≤ fileStatusRank best.status) := by
  unfold outranks
  constructor
  · intro wins
    simp only [Bool.or_eq_true, Bool.and_eq_true, decide_eq_true_eq] at wins
    omega
  · intro loses
    simp only [Bool.or_eq_false_iff, decide_eq_false_iff_not] at loses
    omega

theorem bestInfo_mem (first : TransferInfo) (rest : List TransferInfo) :
    bestInfo first rest ∈ first :: rest := by
  unfold bestInfo
  induction rest generalizing first with
  | nil => exact List.mem_cons_self
  | cons item rest ih =>
      rw [List.foldl_cons]
      split
      · exact List.mem_cons_of_mem _ (ih item)
      · cases List.mem_cons.mp (ih first) with
        | inl same =>
            rw [same]
            exact List.mem_cons_self
        | inr later => exact List.mem_cons_of_mem _ (List.mem_cons_of_mem _ later)

theorem bestInfo_rank (first : TransferInfo) (rest : List TransferInfo) :
    ∀ item ∈ first :: rest,
      fileStatusRank item.status ≤ fileStatusRank (bestInfo first rest).status := by
  unfold bestInfo
  induction rest generalizing first with
  | nil =>
      intro item member
      cases List.mem_singleton.mp member
      exact Nat.le_refl _
  | cons head rest ih =>
      intro item member
      rw [List.foldl_cons]
      cases wins : outranks head first with
      | true =>
          rw [if_pos rfl]
          cases List.mem_cons.mp member with
          | inl same =>
              subst same
              exact Nat.le_trans (outranks_rank.1 wins) (ih head head List.mem_cons_self)
          | inr later => exact ih head item later
      | false =>
          rw [if_neg (by simp)]
          cases List.mem_cons.mp member with
          | inl same =>
              subst same
              exact ih item item List.mem_cons_self
          | inr later =>
              cases List.mem_cons.mp later with
              | inl same =>
                  subst same
                  exact Nat.le_trans (outranks_rank.2 wins) (ih first first List.mem_cons_self)
              | inr last => exact ih first item (List.mem_cons_of_mem _ last)

theorem terminal_of_rank {left right : TransferStatus} (terminal : isTerminal left = true)
    (le : fileStatusRank left ≤ fileStatusRank right) : isTerminal right = true := by
  revert terminal le
  cases left <;> cases right <;> decide

section Resolved

variable {first : TransferInfo} {rest : List TransferInfo}

theorem resolved_status :
    (resolveAuthoritativeFileInfo first rest).status = (bestInfo first rest).status := by
  unfold resolveAuthoritativeFileInfo
  split
  · next alone =>
      subst alone
      rfl
  · rfl

theorem resolved_completedAt (several : rest ≠ []) :
    (resolveAuthoritativeFileInfo first rest).completedAt =
      if isTerminal (bestInfo first rest).status then
        truthyTime (some (latest ((first :: rest).map TransferInfo.completedAt)))
      else none := by
  rw [resolveAuthoritativeFileInfo, if_neg several]

/-- A record of a file that has ended leaves the file ended. -/
theorem resolved_ended {item : TransferInfo} (member : item ∈ first :: rest)
    (ended : isTerminal item.status = true) :
    isTerminal (resolveAuthoritativeFileInfo first rest).status = true := by
  rw [resolved_status]
  exact terminal_of_rank ended (bestInfo_rank first rest item member)

theorem resolved_clocked (clocked : ∀ item ∈ first :: rest, item.Clocked) :
    (resolveAuthoritativeFileInfo first rest).Clocked := by
  by_cases several : rest = []
  · subst several
    exact clocked first List.mem_cons_self
  have best := clocked _ (bestInfo_mem first rest)
  have times := @resolved_completedAt first rest several
  rw [← resolved_status] at times
  cases ended : isTerminal (resolveAuthoritativeFileInfo first rest).status with
  | false =>
      rw [ended, if_neg (by simp)] at times
      constructor
      · intro time found
        rw [times] at found
        cases found
      · rw [times, ended]
        rfl
  | true =>
      have isSome := best.ended
      rw [← resolved_status, ended] at isSome
      obtain ⟨time, found⟩ := Option.isSome_iff_exists.mp isSome
      have member : some time ∈ (first :: rest).map TransferInfo.completedAt :=
        List.mem_map.mpr ⟨_, bestInfo_mem first rest, found⟩
      have positive := best.positive time found
      rw [ended, if_pos rfl, truthyTime_latest member positive] at times
      constructor
      · intro stored same
        rw [times] at same
        cases same
        exact lt_of_lt_of_le positive (le_latest member)
      · rw [times, ended]
        rfl

/-- The completion time of a file is none of its records' earlier. -/
theorem resolved_latest (clocked : ∀ item ∈ first :: rest, item.Clocked) {item : TransferInfo}
    (member : item ∈ first :: rest) {time : Time} (found : item.completedAt = some time) :
    ∃ stored, (resolveAuthoritativeFileInfo first rest).completedAt = some stored ∧
      time ≤ stored := by
  by_cases several : rest = []
  · subst several
    cases List.mem_singleton.mp member
    exact ⟨time, found, le_refl time⟩
  have here := clocked item member
  have ended : isTerminal item.status = true := by
    rw [← here.ended, found]
    rfl
  have whole := resolved_ended member ended
  rw [resolved_status] at whole
  have listed : some time ∈ (first :: rest).map TransferInfo.completedAt :=
    List.mem_map.mpr ⟨item, member, found⟩
  refine ⟨_, ?_, le_latest listed⟩
  rw [resolved_completedAt several, if_pos whole,
    truthyTime_latest listed (here.positive time found)]

end Resolved

/-! ## Files of a transfer -/

theorem mem_resolveFiles {rawInfos : List TransferInfo} {file : TransferInfo}
    (member : file ∈ resolveFiles rawInfos) :
    ∃ first rest, file = resolveAuthoritativeFileInfo first rest ∧
      ∀ item ∈ first :: rest, item ∈ rawInfos := by
  unfold resolveFiles at member
  obtain ⟨items, grouped, same⟩ := List.mem_filterMap.mp member
  obtain ⟨⟨key, held⟩, entry, rfl⟩ := List.mem_map.mp grouped
  cases held with
  | nil => cases same
  | cons first rest =>
      cases same
      refine ⟨first, rest, rfl, ?_⟩
      intro item here
      have filtered := Dict.get_group_eq (Dict.get_eq_some_iff.mpr entry)
      rw [filtered] at here
      exact (List.mem_filter.mp here).1

theorem resolveFiles_of_mem {rawInfos : List TransferInfo} {item : TransferInfo}
    (member : item ∈ rawInfos) :
    ∃ first rest, item ∈ first :: rest ∧ (∀ other ∈ first :: rest, other ∈ rawInfos) ∧
      resolveAuthoritativeFileInfo first rest ∈ resolveFiles rawInfos := by
  have found := @Dict.get_group_of_mem _ _ _ TransferInfo.fileKey _ _ member
  cases filtered : rawInfos.filter fun other => decide (other.fileKey = item.fileKey) with
  | nil =>
      have here : item ∈ rawInfos.filter fun other => decide (other.fileKey = item.fileKey) := by
        simp [member]
      rw [filtered] at here
      cases here
  | cons first rest =>
      rw [filtered] at found
      refine ⟨first, rest, ?_, ?_, ?_⟩
      · rw [← filtered]
        simp [member]
      · intro other here
        rw [← filtered] at here
        exact (List.mem_filter.mp here).1
      · have grouped : (first :: rest) ∈ (Dict.group TransferInfo.fileKey rawInfos).values :=
          List.mem_map.mpr ⟨_, Dict.get_eq_some_iff.mp found, rfl⟩
        exact List.mem_filterMap.mpr ⟨first :: rest, grouped, rfl⟩

section Files

variable {rawInfos : List TransferInfo}

theorem resolveFiles_clocked (clocked : ∀ info ∈ rawInfos, info.Clocked) :
    ∀ file ∈ resolveFiles rawInfos, file.Clocked := by
  intro file member
  obtain ⟨first, rest, same, raw⟩ := mem_resolveFiles member
  rw [same]
  exact resolved_clocked fun item here => clocked item (raw item here)

theorem resolveFiles_latest (clocked : ∀ info ∈ rawInfos, info.Clocked) {info : TransferInfo}
    (member : info ∈ rawInfos) {time : Time} (found : info.completedAt = some time) :
    time ≤ latest ((resolveFiles rawInfos).map TransferInfo.completedAt) := by
  obtain ⟨first, rest, here, raw, listed⟩ := resolveFiles_of_mem member
  obtain ⟨stored, same, le⟩ :=
    resolved_latest (fun item member => clocked item (raw item member)) here found
  exact le_trans le (le_latest (List.mem_map.mpr ⟨_, listed, same⟩))

/-- No file has ended before its records have. -/
theorem resolveFiles_none (clocked : ∀ info ∈ rawInfos, info.Clocked)
    (running : ∀ info ∈ rawInfos, info.completedAt = none) :
    ∀ file ∈ resolveFiles rawInfos, file.completedAt = none := by
  intro file member
  obtain ⟨first, rest, same, raw⟩ := mem_resolveFiles member
  have best := raw _ (bestInfo_mem first rest)
  have standing := (clocked _ best).ended
  rw [running _ best, ← resolved_status, ← same] at standing
  have ended := (resolveFiles_clocked clocked file member).ended
  rw [← standing] at ended
  exact Option.not_isSome_iff_eq_none.mp (by simp [ended])

theorem resolveFiles_ne_nil {info : TransferInfo} (member : info ∈ rawInfos) :
    resolveFiles rawInfos ≠ [] := by
  obtain ⟨_, _, _, _, listed⟩ := resolveFiles_of_mem member
  exact List.ne_nil_of_mem listed

end Files

/-! ## Statuses -/

theorem aggregateStatus_mem {statuses : List TransferStatus}
    (other : aggregateStatus statuses ≠ .complete) : aggregateStatus statuses ∈ statuses := by
  unfold aggregateStatus at other ⊢
  cases found : aggregatePriorities.find? fun status => statuses.contains status with
  | none =>
      rw [found] at other
      exact absurd rfl other
  | some status => simpa using List.find?_some found

theorem aggregateStatus_complete {statuses : List TransferStatus}
    (complete : aggregateStatus statuses = .complete) : ∀ status ∈ statuses, status = .complete := by
  intro status member
  unfold aggregateStatus at complete
  cases found : aggregatePriorities.find? fun status => statuses.contains status with
  | some first =>
      rw [found] at complete
      have listed := List.mem_of_find?_eq_some found
      cases (show first = .complete from complete)
      simp [aggregatePriorities] at listed
  | none =>
      have absent := List.find?_eq_none.mp found status
      cases status with
      | complete => rfl
      | _ => exact absurd (by simpa using member) (absent (by decide))

/-- A terminal status is that of a row that is complete or of a file that has ended. -/
theorem persistedStatus_terminal {files : List TransferInfo} {existing : Option TransferRecord}
    (some : files ≠ [])
    (terminal : isTerminal (persistedStatus (aggregateStatus (files.map TransferInfo.status))
      files.length existing) = true) :
    (∃ row, existing = .some row ∧ row.status = .complete) ∨
      ∃ file ∈ files, isTerminal file.status = true := by
  have aggregate : isTerminal (aggregateStatus (files.map TransferInfo.status)) = true →
      ∃ file ∈ files, isTerminal file.status = true := by
    intro ended
    by_cases complete : aggregateStatus (files.map TransferInfo.status) = .complete
    · obtain ⟨file, member⟩ := List.exists_mem_of_ne_nil files some
      have same := aggregateStatus_complete complete _ (List.mem_map_of_mem member)
      exact ⟨file, member, by rw [same]; rfl⟩
    · obtain ⟨file, member, same⟩ := List.mem_map.mp (aggregateStatus_mem complete)
      exact ⟨file, member, by rw [same]; exact ended⟩
  cases existing with
  | none => exact .inr (aggregate terminal)
  | some row =>
      simp only [persistedStatus] at terminal
      split at terminal
      · next complete => exact .inl ⟨row, rfl, complete⟩
      · split at terminal
        · cases terminal
        · exact .inr (aggregate terminal)

/-! ## One transfer -/

namespace PersistCall

open RuntimeHistory (RowTimed Latest Timely)

variable {call : PersistCall} {history : RuntimeHistory} {transferId : PyStr}
  {rawInfos : List TransferInfo}

/-- The time a stored row has: the one it had, or the latest of the files. -/
def storedTime (existing : Option TransferRecord) (files : List TransferInfo) : Option Time :=
  (existing.bind TransferRecord.completedAt).orElse fun _ =>
    truthyTime (some (latest (files.map TransferInfo.completedAt)))

section Turn

variable {first : TransferInfo} {rest : List TransferInfo}

theorem status_cons (files : resolveFiles rawInfos = first :: rest) :
    call.status history transferId rawInfos =
      (call.turn history transferId first rest).status := by
  rw [status, files]

theorem flushes_cons (files : resolveFiles rawInfos = first :: rest) :
    call.flushes history transferId rawInfos =
      (call.turn history transferId first rest).flushes history.persisted := by
  rw [flushes, files]

theorem persistTransfer_cons (files : resolveFiles rawInfos = first :: rest) :
    call.persistTransfer history transferId rawInfos =
      if (call.turn history transferId first rest).flushes history.persisted then { history with
        store := (call.turn history transferId first rest).write history.store (call.ok transferId)
        persisted := (call.turn history transferId first rest).remember history.persisted }
      else history := by
  rw [persistTransfer, files]

end Turn

/-- The row that a call which flushes leaves. -/
theorem persistTransfer_flushed {info : TransferInfo} (member : info ∈ rawInfos)
    (ok : call.ok transferId = true) (flushes : call.flushes history transferId rawInfos = true) :
    ∃ row, (call.persistTransfer history transferId rawInfos).store.getTransfer transferId =
        some row ∧
      row.status = call.status history transferId rawInfos ∧
      row.completedAt = storedTime (history.store.getTransfer transferId) (resolveFiles rawInfos) := by
  cases files : resolveFiles rawInfos with
  | nil => exact absurd files (resolveFiles_ne_nil member)
  | cons first rest =>
      rw [flushes_cons files] at flushes
      rw [persistTransfer_cons files, status_cons files, if_pos flushes, ok]
      generalize same : call.turn history transferId first rest = turn
      have read : turn.existing = history.store.transfers.get transferId := by
        rw [← same]
        exact if_pos ok
      have own : turn.transferId = transferId := by rw [← same]; rfl
      have resolved : turn.infos = first :: rest := by rw [← same]; rfl
      have written := TransferHistoryStore.createTransfer_row history.store turn.record turn.files
      rw [show turn.record.transferId = transferId from own] at written
      refine ⟨_, written, ?_⟩
      rw [TransferHistoryStore.getTransfer, ← resolved]
      cases found : history.store.transfers.get transferId with
      | none =>
          rw [found] at read
          constructor
          · rfl
          · simp only [PersistTurn.record, runtimeRecord, read, storedTime, Option.bind_none]
            change (truthyTime (some (latest (turn.infos.map _)))).orElse _ = _
            cases truthyTime (some (latest (turn.infos.map TransferInfo.completedAt))) <;> rfl
      | some old =>
          rw [found] at read
          constructor
          · simp only [TransferHistoryStore.mergeTransfer]
            split
            · next keeps =>
                have complete : turn.status = .complete := by
                  rw [PersistTurn.status, read]
                  simp [persistedStatus, keeps.1]
                rw [complete, keeps.1]
            · rfl
          · simp only [TransferHistoryStore.mergeTransfer, storedTime, Option.bind_some]
            cases known : old.completedAt with
            | none =>
                simp only [PersistTurn.record, runtimeRecord, read, Option.bind_some, known]
                change (truthyTime (some (latest (turn.infos.map _)))).orElse _ = _
                simp [truthyTime]
            | some time => rfl

/-- A call that the database does not answer, or that does not flush, stores nothing. -/
theorem persistTransfer_unchanged
    (quiet : call.ok transferId = false ∨ call.flushes history transferId rawInfos = false) :
    (call.persistTransfer history transferId rawInfos).store = history.store := by
  cases files : resolveFiles rawInfos with
  | nil => rw [persistTransfer, files]
  | cons first rest =>
      rw [persistTransfer_cons files]
      cases quiet with
      | inl refused =>
          rw [refused]
          split <;> rfl
      | inr still =>
          rw [flushes_cons files] at still
          rw [still, if_neg (by simp)]

theorem flushes_of_terminal (terminal : isTerminal (call.status history transferId rawInfos) = true) :
    call.flushes history transferId rawInfos = true := by
  cases files : resolveFiles rawInfos with
  | nil => rw [flushes, files]
  | cons first rest =>
      rw [status_cons files] at terminal
      rw [flushes_cons files]
      unfold PersistTurn.flushes shouldFlush
      split
      · rfl
      · simp [terminal]

section Times

variable {existing : Option TransferRecord}

theorem storedTime_of_row {row : TransferRecord} {stored : Time} (found : existing = some row)
    (known : row.completedAt = some stored) (files : List TransferInfo) :
    storedTime existing files = some stored := by
  simp [storedTime, found, known]

theorem storedTime_of_info (clocked : ∀ info ∈ rawInfos, info.Clocked) {info : TransferInfo}
    (member : info ∈ rawInfos) {time : Time} (found : info.completedAt = some time)
    (unknown : existing.bind TransferRecord.completedAt = none) :
    ∃ stored, storedTime existing (resolveFiles rawInfos) = some stored ∧ time ≤ stored := by
  have le := resolveFiles_latest clocked member found
  have after := lt_of_lt_of_le ((clocked info member).positive time found) le
  refine ⟨_, ?_, le⟩
  simp [storedTime, unknown, truthyTime, Option.filter, ne_of_gt after]

theorem storedTime_eq_none_iff (clocked : ∀ info ∈ rawInfos, info.Clocked) :
    storedTime existing (resolveFiles rawInfos) = none ↔
      (∀ info ∈ rawInfos, info.completedAt = none) ∧
      ∀ row, existing = some row → row.completedAt = none := by
  constructor
  · intro empty
    have unknown : existing.bind TransferRecord.completedAt = none := by
      cases known : existing.bind TransferRecord.completedAt with
      | none => rfl
      | some time =>
          rw [storedTime, known] at empty
          cases empty
    constructor
    · intro info member
      cases found : info.completedAt with
      | none => rfl
      | some time =>
          obtain ⟨stored, same, _⟩ := storedTime_of_info clocked member found unknown
          rw [empty] at same
          cases same
    · intro row found
      rw [found, Option.bind_some] at unknown
      exact unknown
  · intro running
    obtain ⟨running, unknown⟩ := running
    have none := resolveFiles_none clocked running
    have zero : latest ((resolveFiles rawInfos).map TransferInfo.completedAt) = 0 := by
      apply latest_of_none
      intro time member
      obtain ⟨file, listed, same⟩ := List.mem_map.mp member
      rw [← same]
      exact none file listed
    cases existing with
    | none => simp [storedTime, zero, truthyTime]
    | some row => simp [storedTime, unknown row rfl, zero, truthyTime]

end Times

theorem status_of_complete {row : TransferRecord} (ok : call.ok transferId = true)
    (found : history.store.getTransfer transferId = some row) (complete : row.status = .complete) :
    call.status history transferId rawInfos = .complete := by
  cases files : resolveFiles rawInfos with
  | nil => rw [status, files]
  | cons first rest =>
      have read : (call.turn history transferId first rest).existing = some row :=
        (if_pos ok).trans found
      rw [status_cons files, PersistTurn.status, read]
      simp [persistedStatus, complete]

theorem status_terminal {info : TransferInfo} (member : info ∈ rawInfos)
    (terminal : isTerminal (call.status history transferId rawInfos) = true) :
    (∃ row, call.existing history transferId = some row ∧ row.status = .complete) ∨
      ∃ file ∈ resolveFiles rawInfos, isTerminal file.status = true := by
  cases files : resolveFiles rawInfos with
  | nil => exact absurd files (resolveFiles_ne_nil member)
  | cons first rest =>
      rw [status_cons files] at terminal
      exact persistedStatus_terminal (List.cons_ne_nil first rest) terminal

/-- Storing a terminal status stores a completion time. -/
theorem storedTime_of_terminal (clocked : ∀ info ∈ rawInfos, info.Clocked)
    (timed : ∀ row, history.store.getTransfer transferId = some row → RowTimed row)
    {info : TransferInfo} (member : info ∈ rawInfos) (ok : call.ok transferId = true)
    (terminal : isTerminal (call.status history transferId rawInfos) = true) :
    ∃ stored, storedTime (history.store.getTransfer transferId) (resolveFiles rawInfos) =
      some stored := by
  cases empty : storedTime (history.store.getTransfer transferId) (resolveFiles rawInfos) with
  | some stored => exact ⟨stored, rfl⟩
  | none =>
      obtain ⟨running, unknown⟩ := (storedTime_eq_none_iff clocked).mp empty
      cases status_terminal member terminal with
      | inl known =>
          obtain ⟨row, found, complete⟩ := known
          rw [PersistCall.existing, if_pos ok] at found
          have isSome : row.completedAt.isSome = isTerminal row.status := timed row found
          rw [unknown row found, complete] at isSome
          cases isSome
      | inr ended =>
          obtain ⟨file, listed, ended⟩ := ended
          have isSome := (resolveFiles_clocked clocked file listed).ended
          rw [resolveFiles_none clocked running file listed, ended] at isSome
          cases isSome

/-- What one call leaves of a transfer is right exactly when the call is timely. -/
theorem persistTransfer_iff (clocked : ∀ info ∈ rawInfos, info.Clocked)
    (timed : ∀ row, history.store.getTransfer transferId = some row → RowTimed row)
    {info : TransferInfo} (member : info ∈ rawInfos) :
    (∀ row, (call.persistTransfer history transferId rawInfos).store.getTransfer transferId =
      some row → RowTimed row ∧ Latest row rawInfos) ↔ Timely history call transferId rawInfos := by
  by_cases stores : call.ok transferId = true ∧ call.flushes history transferId rawInfos = true
  · obtain ⟨ok, flushes⟩ := stores
    obtain ⟨row, found, sameStatus, sameTime⟩ := @persistTransfer_flushed call history transferId
      rawInfos info member ok flushes
    constructor
    · intro right
      obtain ⟨rowTimed, isLatest⟩ := right row found
      constructor
      · intro _ _ unfinished
        have empty : row.completedAt.isSome = false := by
          rw [show row.completedAt.isSome = isTerminal row.status from rowTimed, sameStatus]
          exact unfinished
        rw [sameTime] at empty
        exact (storedTime_eq_none_iff clocked).mp (Option.not_isSome_iff_eq_none.mp (by simp [empty]))
      · intro old stored known time completes other listed finished here
        have complete : row.status = .complete := by
          rw [sameStatus]
          cases completes with
          | inl before => exact status_of_complete ok known before
          | inr becomes => exact becomes.2
        obtain ⟨last, same, le⟩ := isLatest complete other listed finished here
        rw [sameTime, storedTime_of_row known time] at same
        cases same
        exact le
    · intro timely other listed
      cases found.symm.trans listed
      constructor
      · change row.completedAt.isSome = isTerminal row.status
        rw [sameTime, sameStatus]
        cases terminal : isTerminal (call.status history transferId rawInfos) with
        | true =>
            obtain ⟨stored, same⟩ := storedTime_of_terminal clocked timed member ok terminal
            rw [same]
            rfl
        | false =>
            rw [(storedTime_eq_none_iff clocked).mpr (timely.unfinished ok flushes terminal)]
            rfl
      · intro complete item here time finished
        rw [sameStatus] at complete
        cases known : (history.store.getTransfer transferId).bind TransferRecord.completedAt with
        | none =>
            rw [sameTime]
            exact storedTime_of_info clocked here finished known
        | some stored =>
            obtain ⟨old, present, stamped⟩ := Option.bind_eq_some_iff.mp known
            refine ⟨stored, ?_, ?_⟩
            · rw [sameTime]
              exact storedTime_of_row present stamped _
            · exact timely.latest old stored present stamped (.inr ⟨ok, complete⟩) item here time
                finished
  · have quiet : call.ok transferId = false ∨ call.flushes history transferId rawInfos = false := by
      cases ok : call.ok transferId with
      | false => exact .inl rfl
      | true => exact .inr (Bool.not_eq_true _ ▸ fun flushes => stores ⟨ok, flushes⟩)
    rw [persistTransfer_unchanged quiet]
    constructor
    · intro right
      constructor
      · intro ok flushes
        exact absurd ⟨ok, flushes⟩ stores
      · intro row stored found stamped completes item here time finished
        cases completes with
        | inl complete =>
            obtain ⟨last, same, le⟩ := (right row found).2 complete item here time finished
            rw [stamped] at same
            cases same
            exact le
        | inr becomes =>
            have flushes : call.flushes history transferId rawInfos = true := by
              apply flushes_of_terminal
              rw [becomes.2]
              rfl
            exact absurd ⟨becomes.1, flushes⟩ stores
    · intro timely row found
      have rowTimed : row.completedAt.isSome = isTerminal row.status := timed row found
      constructor
      · exact rowTimed
      · intro complete item here time finished
        rw [complete] at rowTimed
        obtain ⟨stored, stamped⟩ := Option.isSome_iff_exists.mp rowTimed
        exact ⟨stored, stamped, timely.latest row stored found stamped (.inl complete) item here time
          finished⟩

/-! ## The loop over the transfers -/

/-- Two histories hold the same of a transfer. -/
structure Alike (transferId : PyStr) (left right : RuntimeHistory) : Prop where
  row : left.store.getTransfer transferId = right.store.getTransfer transferId
  progress : left.persisted.get transferId = right.persisted.get transferId

theorem Alike.trans {left middle right : RuntimeHistory} (first : Alike transferId left middle)
    (second : Alike transferId middle right) : Alike transferId left right :=
  ⟨first.row.trans second.row, first.progress.trans second.progress⟩

theorem persistTransfer_other {other : PyStr} (apart : transferId ≠ other) :
    Alike transferId (call.persistTransfer history other rawInfos) history := by
  cases files : resolveFiles rawInfos with
  | nil =>
      rw [persistTransfer, files]
      exact ⟨rfl, rfl⟩
  | cons first rest =>
      rw [persistTransfer_cons files]
      split
      · constructor
        · simp only [TransferHistoryStore.getTransfer, PersistTurn.write]
          split
          · exact TransferHistoryStore.createTransfer_other apart
          · rfl
        · exact Dict.get_set_ne apart
      · exact ⟨rfl, rfl⟩

theorem persistTransfer_alike {left right : RuntimeHistory} (alike : Alike transferId left right) :
    Alike transferId (call.persistTransfer left transferId rawInfos)
      (call.persistTransfer right transferId rawInfos) := by
  cases files : resolveFiles rawInfos with
  | nil =>
      rw [persistTransfer, persistTransfer, files]
      exact alike
  | cons first rest =>
      have turns : call.turn left transferId first rest = call.turn right transferId first rest := by
        rw [turn, turn, existing, existing, alike.row]
      rw [persistTransfer_cons files, persistTransfer_cons files, turns]
      generalize same : call.turn right transferId first rest = turn
      have own : turn.transferId = transferId := by rw [← same]; rfl
      have decides : turn.flushes left.persisted = turn.flushes right.persisted := by
        rw [PersistTurn.flushes, PersistTurn.flushes, own, alike.progress]
      rw [decides]
      split
      · constructor
        · simp only [TransferHistoryStore.getTransfer, PersistTurn.write]
          split
          · have rows : left.store.transfers.get transferId =
                right.store.transfers.get transferId := alike.row
            have recorded : turn.record.transferId = transferId := own
            simp [TransferHistoryStore.createTransfer, recorded, rows]
          · exact alike.row
        · simp [PersistTurn.remember, own]
      · exact alike

theorem foldl_persist_other (entries : List (PyStr × List TransferInfo)) (history : RuntimeHistory)
    (absent : transferId ∉ entries.map Prod.fst) :
    Alike transferId (entries.foldl (fun history (other, rawInfos) =>
      call.persistTransfer history other rawInfos) history) history := by
  induction entries generalizing history with
  | nil => exact ⟨rfl, rfl⟩
  | cons entry entries ih =>
      rw [List.map_cons, List.mem_cons, not_or] at absent
      exact (ih _ absent.2).trans (persistTransfer_other absent.1)

/-- The loop treats each transfer once. -/
theorem foldl_persist (entries : List (PyStr × List TransferInfo)) (history : RuntimeHistory)
    (distinct : (entries.map Prod.fst).Nodup) (member : (transferId, rawInfos) ∈ entries) :
    Alike transferId (entries.foldl (fun history (other, rawInfos) =>
      call.persistTransfer history other rawInfos) history)
      (call.persistTransfer history transferId rawInfos) := by
  induction entries generalizing history with
  | nil => cases member
  | cons entry entries ih =>
      rw [List.map_cons, List.nodup_cons] at distinct
      cases List.mem_cons.mp member with
      | inl same =>
          subst same
          exact foldl_persist_other entries _ distinct.1
      | inr later =>
          have apart : transferId ≠ entry.1 := by
            intro same
            exact distinct.1 (same ▸ List.mem_map_of_mem later)
          exact (ih _ distinct.2 later).trans (persistTransfer_alike (persistTransfer_other apart))

theorem perform_row (call : PersistCall) (history : RuntimeHistory) (transferId : PyStr) :
    (call.perform history).store.getTransfer transferId =
      (call.persistTransfer history transferId (history.infosOf transferId)).store.getTransfer
        transferId := by
  unfold perform
  cases found : (Dict.group TransferInfo.transferId history.infos).get transferId with
  | some rawInfos =>
      have raw : rawInfos = history.infosOf transferId := Dict.get_group_eq found
      subst raw
      exact (foldl_persist _ history (Dict.group _ history.infos).distinct
        (Dict.get_eq_some_iff.mp found)).row
  | none =>
      have none : history.infosOf transferId = [] := by
        have held := Dict.getD_get_group TransferInfo.transferId history.infos transferId
        rw [found] at held
        exact held.symm
      rw [none]
      exact (foldl_persist_other _ history (Dict.get_eq_none_iff.mp found)).row

theorem perform_infos (call : PersistCall) (history : RuntimeHistory) :
    (call.perform history).infos = history.infos := by
  have kept : ∀ (history : RuntimeHistory) (other : PyStr) (rawInfos : List TransferInfo),
      (call.persistTransfer history other rawInfos).infos = history.infos := by
    intro history other rawInfos
    unfold persistTransfer
    cases resolveFiles rawInfos with
    | nil => rfl
    | cons first rest =>
        simp only
        split <;> rfl
  unfold perform
  generalize (Dict.group TransferInfo.transferId history.infos).entries = entries
  induction entries generalizing history with
  | nil => rfl
  | cons entry entries ih =>
      rw [List.foldl_cons, ih]
      exact kept history entry.1 entry.2

end PersistCall

/-! ## Every run -/

namespace RuntimeHistory

variable {history next : RuntimeHistory} {move : RuntimeMove}

/-- Records and rows have completion times where they have ended. -/
structure Stamped (history : RuntimeHistory) : Prop where
  infos : ∀ info ∈ history.infos, info.Clocked
  rows : ∀ transferId row, history.store.getTransfer transferId = some row → RowTimed row

theorem mem_infosOf {transferId : PyStr} {info : TransferInfo} :
    info ∈ history.infosOf transferId ↔ info ∈ history.infos ∧ info.transferId = transferId := by
  simp [infosOf]

/-- A call leaves the times of whole transfers exactly when it is timely. -/
theorem perform_completionTimes_iff (holds : history.Stamped) (call : PersistCall) :
    (call.perform history).CompletionTimes ↔ history.Timed (.persist call) := by
  have rows : ∀ transferId, (∀ row, (call.perform history).store.getTransfer transferId = some row →
      RowTimed row ∧ Latest row (history.infosOf transferId)) ↔
      ∀ info ∈ history.infosOf transferId, Timely history call transferId
        (history.infosOf transferId) := by
    intro transferId
    rw [PersistCall.perform_row]
    cases raw : history.infosOf transferId with
    | nil =>
        constructor
        · intro _ info member
          cases member
        · intro _ row found
          constructor
          · exact holds.rows transferId row found
          · intro _ info member
            cases member
    | cons first rest =>
        have clocked : ∀ info ∈ first :: rest, info.Clocked := by
          intro info member
          rw [← raw, mem_infosOf] at member
          exact holds.infos info member.1
        rw [PersistCall.persistTransfer_iff clocked (holds.rows transferId) List.mem_cons_self]
        constructor
        · intro timely _ _
          exact timely
        · intro timely
          exact timely first List.mem_cons_self
  constructor
  · intro right info member
    apply (rows info.transferId).mp
    · intro row found
      have sound := right info.transferId row found
      rw [infosOf, PersistCall.perform_infos] at sound
      exact sound
    · exact mem_infosOf.mpr ⟨member, rfl⟩
  · intro timely transferId row found
    rw [infosOf, PersistCall.perform_infos]
    apply (rows transferId).mpr
    · intro info member
      obtain ⟨listed, same⟩ := mem_infosOf.mp member
      subst same
      exact timely info listed
    · exact found

theorem moved_clocked {info : TransferInfo} (clocked : info.Clocked) (status : TransferStatus)
    (error : Option PyStr) {now : Time} (positive : 0 < now)
    (reaches : Reaches info.status status) : (info.moved status error now).Clocked := by
  by_cases same : info.status = status
  · constructor
    · intro time found
      rw [TransferInfo.moved_completedAt, if_pos same] at found
      exact clocked.positive time found
    · rw [TransferInfo.moved_completedAt, if_pos same, TransferInfo.moved_status, ← same]
      exact clocked.ended
  · have running : isTerminal info.status = false := by
      cases ended : isTerminal info.status with
      | false => rfl
      | true => exact absurd (reaches_terminal ended reaches).symm same
    have unfinished := clocked.ended
    rw [running] at unfinished
    have unstamped : info.completedAt = none :=
      Option.not_isSome_iff_eq_none.mp (by simp [unfinished])
    constructor
    · intro time found
      rw [TransferInfo.moved_completedAt, if_neg same, unstamped] at found
      split at found
      · cases found
        exact positive
      · cases found
    · rw [TransferInfo.moved_completedAt, if_neg same, TransferInfo.moved_status, unstamped]
      cases isTerminal status <;> rfl

theorem rowTimed_request {old record : TransferRecord} (timed : RowTimed old)
    (fresh : record.completedAt = none) (pending : record.status = .pendingApproval)
    (allowed : old.completedAt ≠ none → old.status = .complete) :
    RowTimed (TransferHistoryStore.mergeTransfer old record) := by
  have rowTimed : old.completedAt.isSome = isTerminal old.status := timed
  simp only [RowTimed, TransferHistoryStore.mergeTransfer, fresh, pending]
  cases stamped : old.completedAt with
  | none =>
      have other : old.status ≠ .complete := by
        intro complete
        rw [stamped, complete] at rowTimed
        cases rowTimed
      simp only [other, false_and, if_false]
      rfl
  | some time =>
      have complete := allowed (by rw [stamped]; exact Option.some_ne_none time)
      simp only [complete, yieldsToComplete]
      rfl

theorem rowTimed_decided (request : IncomingTransferRequest) (now : Time) {row : TransferRecord}
    (timed : RowTimed row) (error : Option PyStr) :
    RowTimed (if decisionStatus request.status ∈ interruptible ∧ row.status = .complete then row
      else { row with
        status := decisionStatus request.status
        completedAt := if (decisionFileStatus request.status).isSome then some now else none
        error }) := by
  split
  · exact timed
  · cases request.status <;> rfl

theorem rowTimed_migrated {row : TransferRecord} (timed : RowTimed row) :
    RowTimed (if row.status ∈ interruptible then { row with status := .interrupted } else row) := by
  have rowTimed : row.completedAt.isSome = isTerminal row.status := timed
  split
  · next running =>
      change row.completedAt.isSome = false
      rw [rowTimed]
      revert running
      cases row.status <;> decide
  · exact timed

theorem Stamped.set (holds : history.Stamped) (index : Nat) {info : TransferInfo}
    (clocked : info.Clocked) : ({ history with infos := history.infos.set index info }).Stamped := by
  constructor
  · intro other member
    cases List.mem_or_eq_of_mem_set member with
    | inl known => exact holds.infos other known
    | inr same =>
        rw [same]
        exact clocked
  · exact holds.rows

theorem Stamped.handleIncomingRequest (holds : history.Stamped) (request : IncomingTransferRequest)
    (allowed : ∀ row, history.store.getTransfer request.transferId = some row →
      row.completedAt ≠ none → row.status = .complete) :
    ∀ transferId row, (handleIncomingRequest history.store request).getTransfer transferId =
      some row → RowTimed row := by
  intro transferId row found
  by_cases same : transferId = request.transferId
  · subst same
    unfold DirectTransfer.handleIncomingRequest at found
    rw [TransferHistoryStore.getTransfer, TransferHistoryStore.createTransfer_row] at found
    cases known : history.store.transfers.get request.transferId with
    | none =>
        rw [known] at found
        cases found
        rfl
    | some old =>
        rw [known] at found
        cases found
        exact rowTimed_request (holds.rows _ old known) rfl rfl (allowed old known)
  · unfold DirectTransfer.handleIncomingRequest at found
    rw [TransferHistoryStore.getTransfer, TransferHistoryStore.createTransfer_other same] at found
    exact holds.rows transferId row found

theorem Stamped.handleRequestDecision (holds : history.Stamped) (request : IncomingTransferRequest)
    (now : Time) : ∀ transferId row,
      (handleRequestDecision history.store request now).getTransfer transferId = some row →
      RowTimed row := by
  intro transferId row found
  unfold DirectTransfer.handleRequestDecision at found
  by_cases same : transferId = request.transferId
  · subst same
    cases known : history.store.transfers.get request.transferId with
    | none =>
        rw [TransferHistoryStore.getTransfer, TransferHistoryStore.updateTransfer_none known,
          known] at found
        cases found
    | some old =>
        rw [TransferHistoryStore.getTransfer, TransferHistoryStore.updateTransfer_row known] at found
        cases found
        exact rowTimed_decided request now (holds.rows _ old known) _
  · rw [TransferHistoryStore.getTransfer, TransferHistoryStore.updateTransfer_other same] at found
    exact holds.rows transferId row found

theorem Stamped.step (holds : history.Stamped) (timed : history.Timed move)
    (stepped : history.step move = some next) : next.Stamped := by
  cases move with
  | register info =>
      simp only [RuntimeHistory.step] at stepped
      split at stepped
      · next fresh =>
          cases stepped
          constructor
          · intro other member
            cases List.mem_append.mp member with
            | inl known => exact holds.infos other known
            | inr added =>
                cases List.mem_singleton.mp added
                constructor
                · intro time found
                  rw [fresh.1] at found
                  cases found
                · rw [fresh.1, fresh.2]
                  rfl
          · exact holds.rows
      · cases stepped
  | setStatus index status error now =>
      simp only [RuntimeHistory.step, bind, Option.bind_eq_some_iff] at stepped
      obtain ⟨info, present, stepped⟩ := stepped
      split at stepped
      · cases stepped
      next positive =>
        simp only [pure] at stepped
        split at stepped
        · cases stepped
          exact holds
        · next moved =>
            cases stepped
            obtain ⟨reaches, rfl⟩ := transition_cases moved
            apply holds.set
            exact moved_clocked (holds.infos info (List.mem_of_getElem? present)) status error
              (not_le.mp positive) reaches
  | progress index info =>
      simp only [RuntimeHistory.step, bind, Option.bind_eq_some_iff] at stepped
      obtain ⟨old, present, stepped⟩ := stepped
      split at stepped
      · next same =>
          cases stepped
          have clocked := holds.infos old (List.mem_of_getElem? present)
          apply holds.set
          constructor
          · rw [same.2.1]
            exact clocked.positive
          · rw [same.1, same.2.1]
            exact clocked.ended
      · cases stepped
  | request request ok =>
      cases stepped
      constructor
      · exact holds.infos
      · cases ok with
        | true => exact holds.handleIncomingRequest request timed
        | false => exact holds.rows
  | decided request now ok =>
      cases stepped
      constructor
      · exact holds.infos
      · cases ok with
        | true => exact holds.handleRequestDecision request now
        | false => exact holds.rows
  | persist call =>
      cases stepped
      constructor
      · rw [PersistCall.perform_infos]
        exact holds.infos
      · intro transferId row found
        exact ((perform_completionTimes_iff holds call).mpr timed transferId row found).1
  | restart =>
      cases stepped
      constructor
      · intro info member
        cases member
      · intro transferId row found
        simp only [TransferHistoryStore.getTransfer, TransferHistoryStore.migrate, Dict.get_map,
          Option.map_eq_some_iff] at found
        obtain ⟨old, known, rfl⟩ := found
        exact rowTimed_migrated (holds.rows transferId old known)

/-- While every step is timely, a call of the update leaves rows whose completion
times are those of the whole transfers exactly when it is timely itself. -/
theorem completion_times_iff {moves : List RuntimeMove} {history : RuntimeHistory}
    (run : Run step Timed start moves history) (call : PersistCall) :
    (call.perform history).CompletionTimes ↔ history.Timed (.persist call) := by
  have started : start.Stamped := by
    constructor
    · intro info member
      cases member
    · intro transferId row found
      cases found
  have holds := run.invariant (fun _ _ _ holds timed stepped => Stamped.step holds timed stepped)
    started
  exact perform_completionTimes_iff holds call

/-! ## Runs of two files -/

/-- A file of one octet that a worker sends. -/
def sentFile (fileId : String) : TransferInfo where
  filename := py fileId
  filesize := 1
  direction := .send
  peerIp := py "192.0.2.1"
  status := .pendingApproval
  bytesTransferred := 0
  startedAt := 1
  error := none
  retryCount := 0
  peerDeviceId := none
  transferId := py "t"
  fileId := some (py fileId)
  resumeOffset := 0
  bytesTransferredThisAttempt := 0
  completedAt := none
  message := none
  sha256 := none
  finalPath := none

def callAt (now : Time) : PersistCall := ⟨now, fun _ => none, fun _ => true⟩

/-- Two files are offered, accepted and sent, until the first one is complete. -/
def sendingMoves : List RuntimeMove :=
  [.register (sentFile "file-0"), .register (sentFile "file-1"),
    .setStatus 0 .accepted none 1, .setStatus 1 .accepted none 1,
    .setStatus 0 .active none 1, .setStatus 1 .active none 1,
    .setStatus 0 .complete none 2]

def completedMoves : List RuntimeMove := sendingMoves ++ [.setStatus 1 .complete none 3]

theorem completed_timely : (runLabels step start completedMoves).any (fun history =>
    history.infos.all (fun info => decide (info.transferId = py "t")) ∧
    isTerminal ((callAt 3).status history (py "t") (history.infosOf (py "t"))) = true ∧
    history.store.getTransfer (py "t") = none) = true := by
  decide +kernel

/-- The update after the last file stores its time. -/
theorem both_complete_timed : ∃ history, Run step Timed start completedMoves history ∧
    ((callAt 3).perform history).CompletionTimes := by
  obtain ⟨history, executed, checked⟩ := (Option.any_eq_true _ _).mp completed_timely
  obtain ⟨own, terminal, unknown⟩ := of_decide_eq_true checked
  have run : Run step Timed start completedMoves history := by
    apply run_of_admitted _ executed
    intro move member state
    simp only [completedMoves, sendingMoves, List.cons_append, List.nil_append, List.mem_cons,
      List.not_mem_nil, or_false] at member
    rcases member with rfl | rfl | rfl | rfl | rfl | rfl | rfl | rfl <;> trivial
  refine ⟨history, run, (completion_times_iff run (callAt 3)).mpr ?_⟩
  intro info member
  have same : info.transferId = py "t" := of_decide_eq_true (List.all_eq_true.mp own info member)
  rw [same]
  constructor
  · intro _ _ unfinished
    rw [terminal] at unfinished
    cases unfinished
  · intro row stored found
    rw [unknown] at found
    cases found

theorem early_stored : (runLabels step start sendingMoves).any (fun history =>
    (((callAt 2).perform history).store.getTransfer (py "t")).any fun row =>
      row.completedAt.isSome ≠ isTerminal row.status) = true := by
  decide +kernel

/-- The update after the first of two files stores its time for an active transfer. -/
theorem early_completion_stored : ¬ ∀ (moves : List RuntimeMove) (history : RuntimeHistory),
    Run step anyStep start moves history →
    ∀ call : PersistCall, (call.perform history).CompletionTimes := by
  intro always
  obtain ⟨history, executed, stored⟩ := (Option.any_eq_true _ _).mp early_stored
  obtain ⟨row, found, split⟩ := (Option.any_eq_true _ _).mp stored
  have sound := always _ history (run_of_runLabels executed) (callAt 2) (py "t") row found
  exact of_decide_eq_true split sound.1

end RuntimeHistory

end DirectTransfer
