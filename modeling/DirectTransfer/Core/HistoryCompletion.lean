import DirectTransfer.Core.HistoryMoves

/-! A runtime update concludes from the records it knows and from the count in the row
that a transfer is complete. The files that have been completed are remembered beside
the system, beyond the records of a process. -/

set_option autoImplicit false

namespace DirectTransfer

open Library

/-! ## Completed files -/

/-- A receiver with its history, and every file it has ever completed. -/
structure CompletionHistory where
  system : HistorySystem
  finished : List (PyStr × PyStr)

/-- The completed files among the records. -/
def HistorySystem.completedFiles (system : HistorySystem) : List (PyStr × PyStr) :=
  system.registry.transfers.filterMap fun info =>
    if info.status = .complete then info.fileId.map fun fileId => (info.transferId, fileId) else none

def completionStep (platform : Platform) (history : CompletionHistory) (label : HistoryLabel) :
    Option CompletionHistory :=
  (historyStep platform history.system label).map fun next =>
    ⟨next, history.finished ++ next.completedFiles⟩

def CompletionHistory.start (maxPending : Nat) (store : TransferHistoryStore) : CompletionHistory :=
  ⟨.start maxPending store, []⟩

/-- All files of an offer have been completed. -/
def CompletionHistory.Finished (history : CompletionHistory) (transferId : PyStr)
    (files : List IncomingFile) : Prop :=
  ∀ file ∈ files, (transferId, file.fileId) ∈ history.finished

def TransferHistoryStore.rowCount (store : TransferHistoryStore) (transferId : PyStr) : Nat :=
  ((store.transfers.get transferId).map TransferRecord.fileCount).getD 0

/-- A complete row of an offer says how many files it has, and all of them have been
completed. This is about the transfers that have an entry in the inbox; the rows of
outgoing transfers are left out. -/
def CompletionsReal (history : CompletionHistory) : Prop :=
  ∀ transferId entry, history.system.manager.entries.get transferId = some entry →
    history.system.store.rowStatus transferId = some .complete →
    history.system.store.rowCount transferId = entry.request.files.length ∧
      history.Finished transferId entry.request.files

/-- A request comes under an identifier whose row, if complete, is right for it, and that no
outgoing record has; while an update scans the records of a transfer, none of them takes a
status the scan has passed; and an update that has found only completed records reads a row
with the count of the offer, or has found the records of all its files. -/
structure CompletionsInOrder (platform : Platform) (history : CompletionHistory)
    (label : HistoryLabel) : Prop where
  publishes : ∀ index event thread, label = .session index event →
    history.system.threads[index]? = some thread → thread.approval.phase = .publish →
    history.system.manager.entries.get thread.transferId = none →
      (history.system.store.rowStatus thread.transferId = some .complete →
        history.system.store.rowCount thread.transferId = thread.approval.request.files.length ∧
          history.Finished thread.transferId thread.approval.request.files) ∧
      ∀ info ∈ history.system.sent, info.transferId ≠ thread.transferId
  scans : ∀ run transferId refs rest infos priorities left next,
    history.system.run = some run → run.groups = (transferId, refs) :: rest →
    run.phase = .scan infos priorities left → (∀ ok hostname, label ≠ .persist ok hostname) →
    historyStep platform history.system label = some next →
    ∀ ref ∈ refs, ∀ old new, history.system.read ref = some old → next.read ref = some new →
      new.status = old.status ∨ new.status = .complete ∨ Ahead new.status ref priorities left
  reads : ∀ ok hostname run transferId refs rest infos entry, label = .persist ok hostname →
    history.system.run = some run → run.groups = (transferId, refs) :: rest →
    run.phase = .existing infos .complete →
    history.system.manager.entries.get transferId = some entry →
    history.system.store.rowStatus transferId ≠ some .complete →
      entry.request.files.length ≤
        max (((history.system.existing ok transferId).map TransferRecord.fileCount).getD 0)
          infos.length ∧
      (ok = false → history.system.store.rowCount transferId ≤ entry.request.files.length)

/-! ## Records and files of one transfer -/

section Files

variable {system : HistorySystem} {transferId : PyStr}

/-- The records of an offer are of different offered files; when there are as many as files,
every file has its record. -/
theorem group_files (coherent : Coherent system) (apart : Apart system) {run : PersistRun}
    (running : system.run = some run) {refs : List RecordRef} (member : (transferId, refs) ∈ run.groups)
    {entry : PendingDecision} (found : system.manager.entries.get transferId = some entry) :
    refs.length ≤ entry.request.files.length ∧
      (entry.request.files.length ≤ refs.length → ∀ file ∈ entry.request.files, ∃ ref ∈ refs,
        ∃ info ∈ system.registry.transfers, system.read ref = some info ∧
          info.transferId = transferId ∧ info.fileId = some file.fileId) := by
  obtain ⟨_, distinct, reads⟩ := (coherent.run run running).groups _ member
  dsimp only at distinct reads
  have received {ref : RecordRef} (isRef : ref ∈ refs) : ∃ record info, ref = .received record ∧
      system.registry.transfers[record]? = some info ∧ info.transferId = transferId := by
    obtain ⟨info, read, transfer⟩ := reads ref isRef
    cases ref with
    | received record => exact ⟨record, info, rfl, read, transfer⟩
    | sent record =>
        have free := apart info (List.mem_of_getElem? read)
        rw [transfer, found] at free
        cases free
  let fileOf (ref : RecordRef) : Option PyStr := (system.read ref).bind TransferInfo.fileId
  have named {record : Nat} {info : TransferInfo}
      (at' : system.registry.transfers[record]? = some info) :
      fileOf (.received record) = info.fileId := by
    show (system.registry.transfers[record]?).bind TransferInfo.fileId = info.fileId
    rw [at']
    rfl
  have unique : (refs.map fileOf).Nodup := by
    refine List.Nodup.map_on (fun left isLeft right isRight same => ?_) distinct
    obtain ⟨first, info, rfl, firstAt, firstOwn⟩ := received isLeft
    obtain ⟨second, other, rfl, secondAt, secondOwn⟩ := received isRight
    rw [named firstAt, named secondAt] at same
    obtain ⟨fileId, isFile, pointed⟩ := coherent.keyed.keyed first info firstAt
    obtain ⟨fileId', isFile', pointed'⟩ := coherent.keyed.keyed second other secondAt
    rw [isFile, isFile'] at same
    cases same
    rw [firstOwn] at pointed
    rw [secondOwn, pointed] at pointed'
    cases pointed'
    rfl
  have offered : refs.map fileOf ⊆ entry.request.files.map fun file => some file.fileId := by
    intro fileId isFile
    obtain ⟨ref, isRef, rfl⟩ := List.mem_map.mp isFile
    obtain ⟨record, info, rfl, at', own⟩ := received isRef
    obtain ⟨_, other, there, _, _, file, isOffered, same⟩ :=
      coherent.received info (List.mem_of_getElem? at')
    rw [own, found] at there
    cases there
    rw [named at', same]
    exact List.mem_map.mpr ⟨file, isOffered, rfl⟩
  have within := List.subperm_of_subset unique offered
  refine ⟨by simpa using within.length_le, fun enough file isFile => ?_⟩
  have all := within.perm_of_length_le (by simpa using enough)
  have isThere : some file.fileId ∈ refs.map fileOf :=
    all.mem_iff.mpr (List.mem_map.mpr ⟨file, isFile, rfl⟩)
  obtain ⟨ref, isRef, same⟩ := List.mem_map.mp isThere
  obtain ⟨record, info, rfl, at', own⟩ := received isRef
  rw [named at'] at same
  exact ⟨_, isRef, info, List.mem_of_getElem? at', at', own, same⟩

end Files

/-! ## What a step does to the count of a row -/

section Counts

variable {platform : Platform} {system next : HistorySystem} {label : HistoryLabel}
  {transferId : PyStr}

theorem createTransfer_count (store : TransferHistoryStore) (record : TransferRecord)
    (files : List TransferFileRecord) :
    (store.createTransfer record files).rowCount record.transferId =
      max record.fileCount (store.rowCount record.transferId) := by
  rw [TransferHistoryStore.rowCount, TransferHistoryStore.createTransfer_row,
    TransferHistoryStore.rowCount]
  cases store.transfers.get record.transferId with
  | none => simp
  | some old => rfl

theorem updateTransfer_count (store : TransferHistoryStore) (transferId : PyStr)
    (status : TransferStatus) (completedAt : Option Time) (error : Option PyStr)
    (fileStatus : Option TransferStatus) :
    (store.updateTransfer transferId status completedAt error fileStatus).rowCount transferId =
      store.rowCount transferId := by
  unfold TransferHistoryStore.rowCount
  cases found : store.transfers.get transferId with
  | none => rw [TransferHistoryStore.updateTransfer_none found, found]
  | some old =>
      rw [TransferHistoryStore.updateTransfer_row found]
      split <;> rfl

/-- Only a publication changes the count, outside an update. -/
theorem row_count (coherent : Coherent system) (move : HistoryMove platform system label next)
    (running : label ≠ .restart) (other : ∀ ok hostname, label ≠ .persist ok hostname)
    (transferId : PyStr) :
    next.store.rowCount transferId = system.store.rowCount transferId ∨
    ∃ request, system.calls label = some (.onRequest request) ∧ request.transferId = transferId ∧
      next.store.rowCount transferId =
        max request.files.length (system.store.rowCount transferId) := by
  have row := move.row coherent running transferId
  unfold TransferHistoryStore.rowCount
  generalize next.store.transfers.get transferId = after at row
  cases row with
  | same => exact .inl rfl
  | @called callback now calls own =>
      cases callback with
      | onRequest request =>
          cases own
          exact .inr ⟨request, calls, rfl, createTransfer_count _ _ _⟩
      | onDecision decided =>
          cases own
          exact .inl (updateTransfer_count _ _ _ _ _ _)
  | stored is => exact absurd is (other _ _)

/-- Only an update makes a row complete. -/
theorem row_complete (coherent : Coherent system) (move : HistoryMove platform system label next)
    (running : label ≠ .restart) (other : ∀ ok hostname, label ≠ .persist ok hostname)
    (complete : next.store.rowStatus transferId = some .complete) :
    system.store.rowStatus transferId = some .complete := by
  have status := move.status coherent running transferId
  generalize next.store.rowStatus transferId = after at status complete
  cases status with
  | same => exact complete
  | announced =>
      have merged := Option.some.inj complete
      unfold TransferHistoryStore.mergedStatus at merged
      split at merged
      · next keeps => exact keeps.1
      · cases merged
  | @told decided =>
      obtain ⟨old, row, updated⟩ := Option.map_eq_some_iff.mp complete
      unfold TransferHistoryStore.updatedStatus at updated
      split at updated
      · rw [row, updated]
      · cases standing : decided.status <;> rw [standing] at updated <;> cases updated
  | stored is => exact absurd is (other _ _)

/-- An entry keeps its files, or is that of a thread that has just published it. -/
theorem entry_files (coherent : Coherent system) (move : HistoryMove platform system label next)
    (running : label ≠ .restart) {later : PendingDecision}
    (found : next.manager.entries.get transferId = some later) :
    (∃ entry, system.manager.entries.get transferId = some entry ∧
      later.request.files = entry.request.files) ∨
    ∃ index event thread, label = .session index event ∧ system.threads[index]? = some thread ∧
      thread.approval.phase = .publish ∧ thread.transferId = transferId ∧
      system.manager.entries.get transferId = none ∧ later.request = thread.approval.request := by
  have entry := move.entry coherent running transferId
  rw [found] at entry
  generalize same : some later = after at entry
  cases entry with
  | kept => exact .inl ⟨later, same.symm, rfl⟩
  | published is at' standing own free =>
      cases same
      exact .inr ⟨_, _, _, is, at', standing, own, free, rfl⟩
  | readmitted _ _ _ _ there offer =>
      cases same
      exact .inl ⟨_, there, (sameOffer_iff.mp offer).2.1.symm⟩
  | declined _ _ _ _ _ there => cases same; exact .inl ⟨_, there, rfl⟩
  | decided _ there => cases same; exact .inl ⟨_, there, rfl⟩

/-- A callback is of the request of its entry. -/
theorem calls_files (coherent : Coherent system) {request : IncomingTransferRequest}
    (calls : system.calls label = some (.onRequest request)) :
    ∃ entry, system.manager.entries.get request.transferId = some entry ∧
      request.files = entry.request.files := by
  rcases calls_inFlight calls with ⟨thread, member, owes⟩ | ⟨_, _, other⟩
  · obtain ⟨_, entry, found, same, _⟩ := (coherent.threads thread member).requests request owes
    exact ⟨entry, found, same.files.symm⟩
  · cases other

end Counts

/-! ## A runtime update -/

/-- What an update has found out about completed files. -/
def PhaseReal (history : CompletionHistory) (run : PersistRun) (transferId : PyStr)
    (refs : List RecordRef) : Prop :=
  match run.phase with
  | .head => True
  | .scan _ priorities left => ∀ ref ∈ refs, ∀ info, history.system.read ref = some info →
      info.status = .complete ∨ Ahead info.status ref priorities left
  | .existing _ status => status = .complete → ∀ ref ∈ refs, ∀ info,
      history.system.read ref = some info → info.status = .complete
  | .create turn => ∀ entry, history.system.manager.entries.get transferId = some entry →
      (turn.status = .complete → history.Finished transferId entry.request.files ∧
        max turn.record.fileCount (history.system.store.rowCount transferId) =
          entry.request.files.length) ∧
      (history.system.store.rowStatus transferId = some .complete →
        turn.record.fileCount ≤ entry.request.files.length)

/-- What holds as long as completions come in order. -/
structure Real (history : CompletionHistory) : Prop where
  apart : Apart history.system
  finished : ∀ info ∈ history.system.registry.transfers, info.status = .complete →
    ∀ fileId, info.fileId = some fileId → (info.transferId, fileId) ∈ history.finished
  rows : CompletionsReal history
  run : ∀ run, history.system.run = some run → ∀ transferId refs rest,
    run.groups = (transferId, refs) :: rest → PhaseReal history run transferId refs

theorem real_start (maxPending : Nat) (store : TransferHistoryStore) :
    Real (.start maxPending store) where
  apart _ member := nomatch member
  finished _ member := nomatch member
  rows _ _ found := nomatch found
  run _ running := nomatch running

section Steps

variable {platform : Platform} {history : CompletionHistory} {next : HistorySystem}
  {label : HistoryLabel}

/-- The history after a step. -/
abbrev CompletionHistory.after (history : CompletionHistory) (next : HistorySystem) :
    CompletionHistory := ⟨next, history.finished ++ next.completedFiles⟩

theorem CompletionHistory.Finished.after {transferId : PyStr} {files : List IncomingFile}
    (finished : history.Finished transferId files) : (history.after next).Finished transferId files :=
  fun file member => List.mem_append_left _ (finished file member)

theorem finished_step : ∀ info ∈ next.registry.transfers, info.status = .complete →
    ∀ fileId, info.fileId = some fileId → (info.transferId, fileId) ∈ (history.after next).finished := by
  intro info member complete fileId named
  refine List.mem_append_right _ (List.mem_filterMap.mpr ⟨info, member, ?_⟩)
  rw [if_pos complete, named]
  rfl

/-- The rows after a step other than an update. -/
theorem rows_step (coherent : Coherent history.system) (real : Real history)
    (admitted : CompletionsInOrder platform history label)
    (move : HistoryMove platform history.system label next) (running : label ≠ .restart)
    (other : ∀ ok hostname, label ≠ .persist ok hostname) : CompletionsReal (history.after next) := by
  intro transferId later found complete
  have before := row_complete coherent move running other complete
  have right : history.system.store.rowCount transferId = later.request.files.length ∧
      history.Finished transferId later.request.files := by
    rcases entry_files coherent move running found with
      ⟨entry, there, files⟩ | ⟨index, event, thread, is, at', standing, own, free, same⟩
    · rw [files]
      exact real.rows transferId entry there before
    · subst own
      rw [same]
      exact (admitted.publishes index event thread is at' standing free).1 before
  refine ⟨?_, right.2.after⟩
  rcases row_count coherent move running other transferId with
    kept | ⟨request, calls, own, count⟩
  · exact kept.trans right.1
  · obtain ⟨entry, there, files⟩ := calls_files coherent calls
    rw [own] at there
    rcases entry_files coherent move running found with
      ⟨entry', again, same⟩ | ⟨_, _, _, _, _, _, _, free, _⟩
    · cases there.symm.trans again
      show next.store.rowCount transferId = _
      rw [count, right.1, files, same, max_self]
    · rw [free] at there
      cases there

/-- What an update has found out lasts through the steps of others. -/
theorem phase_kept (coherent : Coherent history.system) (real : Real history)
    (admitted : CompletionsInOrder platform history label)
    (stepped : historyStep platform history.system label = some next) (running : label ≠ .restart)
    (other : ∀ ok hostname, label ≠ .persist ok hostname) {run : PersistRun}
    (isRun : history.system.run = some run) {transferId : PyStr} {refs : List RecordRef}
    {rest : List (PyStr × List RecordRef)} (current : run.groups = (transferId, refs) :: rest) :
    PhaseReal (history.after next) run transferId refs := by
  have move := historyStep_moves coherent stepped
  obtain ⟨_, _, reads⟩ := (coherent.run run isRun).groups _ (PersistRun.current_mem current)
  have phase := real.run run isRun transferId refs rest current
  have before {ref : RecordRef} {info : TransferInfo} (isRef : ref ∈ refs)
      (read : next.read ref = some info) :
      ∃ old, history.system.read ref = some old ∧ Reaches old.status info.status := by
    obtain ⟨old, wasRead, _⟩ := reads ref isRef
    obtain ⟨new, again, _, reaches⟩ := step_continues coherent stepped running ref old wasRead
    cases read.symm.trans again
    exact ⟨old, wasRead, reaches⟩
  unfold PhaseReal at phase ⊢
  cases standing : run.phase with
  | head => trivial
  | scan infos priorities left =>
      rw [standing] at phase
      intro ref isRef info read
      obtain ⟨old, wasRead, _⟩ := before isRef read
      rcases admitted.scans run transferId refs rest infos priorities left next isRun current standing
        other stepped ref isRef old info wasRead read with same | complete | ahead
      · rw [same]
        exact phase ref isRef old wasRead
      · exact .inl complete
      · exact .inr ahead
  | existing infos status =>
      rw [standing] at phase
      intro complete ref isRef info read
      obtain ⟨old, wasRead, reaches⟩ := before isRef read
      have was := phase complete ref isRef old wasRead
      exact (reaches_terminal (by rw [was]; rfl) reaches).trans was
  | create turn =>
      rw [standing] at phase
      intro later found
      rcases entry_files coherent move running found with
        ⟨entry, there, files⟩ | ⟨index, event, thread, is, at', standing, own, free, _⟩
      · obtain ⟨whole, partly⟩ := phase entry there
        rw [files]
        have count := row_count coherent move running other transferId
        constructor
        · intro complete
          obtain ⟨finished, same⟩ := whole complete
          refine ⟨finished.after, ?_⟩
          rcases count with kept | ⟨request, calls, own, count⟩
          · rw [← same]
            exact congrArg _ kept
          · obtain ⟨again, isEntry, requested⟩ := calls_files coherent calls
            rw [own, there] at isEntry
            cases isEntry
            show max turn.record.fileCount (next.store.rowCount transferId) = _
            rw [count, requested]
            omega
        · exact fun complete => partly (row_complete coherent move running other complete)
      · have recorded := group_recorded coherent isRun (PersistRun.current_mem current)
        rcases recorded with ⟨entry, there, _⟩ | ⟨info, member, same⟩
        · rw [free] at there; cases there
        · exact absurd (same.trans own.symm)
            ((admitted.publishes index event thread is at' standing (own ▸ free)).2 info member)

/-- An update that has found only completed records knows that the offer is complete. -/
theorem built_real (coherent : Coherent history.system) (real : Real history) {ok : Bool}
    {hostname : Option PyStr} (admitted : CompletionsInOrder platform history (.persist ok hostname))
    {run : PersistRun} (isRun : history.system.run = some run) {transferId : PyStr}
    {refs : List RecordRef} {rest : List (PyStr × List RecordRef)}
    (current : run.groups = (transferId, refs) :: rest) {infos : List InfoRef}
    {status : TransferStatus} (standing : run.phase = .existing infos status)
    {first : TransferInfo} {others : List TransferInfo}
    (items : infos.filterMap history.system.readInfo = first :: others)
    {entry : PendingDecision}
    (found : history.system.manager.entries.get transferId = some entry) :
    let turn : PersistTurn := ⟨transferId, first, others, status, run.now, hostname,
      history.system.existing ok transferId⟩
    (turn.status = .complete → history.Finished transferId entry.request.files ∧
      max turn.record.fileCount (history.system.store.rowCount transferId) =
        entry.request.files.length) ∧
    (history.system.store.rowStatus transferId = some .complete →
      turn.record.fileCount ≤ entry.request.files.length) := by
  have member := PersistRun.current_mem current
  obtain ⟨most, every⟩ := group_files coherent real.apart isRun member found
  have phase := (coherent.run run isRun).phase
  unfold PhaseSound at phase
  rw [standing] at phase
  obtain ⟨_, _, _, at', live⟩ := phase
  cases current.symm.trans at'
  obtain ⟨_, _, reads⟩ := (coherent.run run isRun).groups _ member
  have known : infos.length = refs.length := by rw [live, List.length_map]
  have length : (first :: others).length = refs.length := by
    rw [← items, live, List.filterMap_map]
    refine (List.filterMap_length_eq_length.mpr fun ref isRef => ?_)
    obtain ⟨info, read, _⟩ := reads ref isRef
    simp [HistorySystem.readInfo, read]
  have rowCount : history.system.store.rowCount transferId =
      ((history.system.store.transfers.get transferId).map TransferRecord.fileCount).getD 0 := rfl
  have rowStatus : history.system.store.rowStatus transferId =
      (history.system.store.transfers.get transferId).map TransferRecord.status := rfl
  have readRow : history.system.existing ok transferId =
      if ok = true then history.system.store.transfers.get transferId else none := rfl
  -- every file has a record, and all of them are complete
  have finished (enough : entry.request.files.length ≤ refs.length) (complete : status = .complete) :
      history.Finished transferId entry.request.files := by
    intro file isFile
    obtain ⟨ref, isRef, info, isRecord, read, own, named⟩ := every enough file isFile
    have stands := real.run run isRun transferId refs rest current
    unfold PhaseReal at stands
    rw [standing] at stands
    rw [← own]
    exact real.finished info isRecord (stands complete ref isRef info read) _ named
  dsimp only [PersistTurn.status, PersistTurn.record, PersistTurn.infos, runtimeRecord]
  rw [length]
  by_cases already : history.system.store.rowStatus transferId = some .complete
  · obtain ⟨count, done⟩ := real.rows transferId entry found already
    have within : max refs.length (((history.system.existing ok transferId).map
        TransferRecord.fileCount).getD 0) ≤ entry.request.files.length := by
      rw [readRow]
      split
      · rw [← rowCount, count]
        omega
      · simpa using most
    refine ⟨fun _ => ⟨done, ?_⟩, fun _ => within⟩
    rw [count]
    omega
  · refine ⟨fun complete => ?_, fun row => absurd row already⟩
    have isComplete : status = .complete ∧ ∀ row, history.system.existing ok transferId = some row →
        row.fileCount ≤ refs.length := by
      unfold persistedStatus at complete
      split at complete
      · next none => exact ⟨complete, fun row some => by rw [none] at some; cases some⟩
      · next row there =>
          split at complete
          · next rowComplete =>
              rw [readRow] at there
              split at there
              · exact absurd (by rw [rowStatus, there, ← rowComplete]; rfl) already
              · cases there
          · split at complete
            · cases complete
            · next short =>
                refine ⟨complete, fun other isOther => ?_⟩
                cases there.symm.trans isOther
                exact Nat.le_of_not_lt fun less => short ⟨complete, less⟩
    obtain ⟨scanned, bounded⟩ := isComplete
    subst scanned
    obtain ⟨enough, unread⟩ := admitted.reads ok hostname run transferId refs rest infos entry rfl isRun
      current standing found already
    rw [known] at enough
    cases ok with
    | false =>
        have none : history.system.existing false transferId = none := rfl
        rw [none] at enough ⊢
        simp only [Option.map_none, Option.getD_none, Nat.zero_max, Nat.max_zero] at enough ⊢
        exact ⟨finished enough rfl, by have := unread rfl; omega⟩
    | true =>
        have row : history.system.existing true transferId =
          history.system.store.transfers.get transferId := rfl
        rw [row] at enough bounded ⊢
        rw [← rowCount] at enough ⊢
        have small : history.system.store.rowCount transferId ≤ refs.length := by
          rw [rowCount]
          cases there : history.system.store.transfers.get transferId with
          | none => exact Nat.zero_le _
          | some row => exact bounded row there
        exact ⟨finished (by omega) rfl, by omega⟩

/-- One call of an update; only its last one, for a transfer, writes a row. -/
theorem persist_rows (coherent : Coherent history.system) (real : Real history) {ok : Bool}
    {hostname : Option PyStr} {run : PersistRun} (isRun : history.system.run = some run)
    (move : PersistMove history.system run ok hostname next) : CompletionsReal (history.after next) := by
  cases move with
  | @stored transferId refs rest turn current standing =>
      have sound := (coherent.run run isRun).phase
      unfold PhaseSound at sound
      rw [standing] at sound
      obtain ⟨_, _, _, at', keyed, _⟩ := sound
      cases current.symm.trans at'
      subst keyed
      have phase := real.run run isRun _ refs rest current
      unfold PhaseReal at phase
      rw [standing] at phase
      intro other entry found complete
      have right : (turn.write history.system.store ok).rowCount other =
          entry.request.files.length ∧ history.Finished other entry.request.files := by
        dsimp only [CompletionHistory.after] at found complete
        unfold PersistTurn.write at complete ⊢
        split at complete
        · next stored =>
            rw [if_pos stored]
            by_cases own : other = turn.record.transferId
            · subst own
              obtain ⟨whole, partly⟩ := phase entry found
              rw [TransferHistoryStore.rowStatus, TransferHistoryStore.createTransfer_status] at complete
              rw [createTransfer_count]
              unfold TransferHistoryStore.mergedStatus at complete
              split at complete
              · next keeps =>
                  obtain ⟨count, finished⟩ := real.rows _ entry found keeps.1
                  have within := partly keeps.1
                  exact ⟨by omega, finished⟩
              · obtain ⟨finished, same⟩ := whole (Option.some.inj complete)
                exact ⟨same, finished⟩
            · rw [TransferHistoryStore.rowStatus,
                TransferHistoryStore.createTransfer_other own] at complete
              rw [TransferHistoryStore.rowCount, TransferHistoryStore.createTransfer_other own]
              exact real.rows other entry found complete
        · next failed =>
            rw [if_neg failed]
            exact real.rows other entry found complete
      exact ⟨right.1, right.2.after⟩
  | _ =>
      intro other entry found complete
      obtain ⟨count, finished⟩ := real.rows other entry found complete
      exact ⟨count, finished.after⟩

theorem persist_phase (coherent : Coherent history.system) (real : Real history) {ok : Bool}
    {hostname : Option PyStr} (admitted : CompletionsInOrder platform history (.persist ok hostname))
    {run : PersistRun} (isRun : history.system.run = some run)
    (move : PersistMove history.system run ok hostname next) :
    ∀ later, next.run = some later → ∀ transferId refs rest,
      later.groups = (transferId, refs) :: rest →
        PhaseReal (history.after next) later transferId refs := by
  have sound := coherent.run run isRun
  have phase := sound.phase
  unfold PhaseSound at phase
  cases move with
  | finished halted => exact fun _ none => nomatch none
  | @resolved transferId refs rest current standing =>
      rintro later ⟨⟩ other others rest' at'
      cases current.symm.trans at'
      obtain ⟨_, distinct, reads⟩ := sound.groups (transferId, refs) (PersistRun.current_mem current)
      rw [resolve_eq coherent.keyed coherent.received coherent.manager coherent.sent distinct reads]
      intro ref isRef info _
      by_cases complete : info.status = .complete
      · exact .inl complete
      · refine .inr ⟨.failed, _, rfl, ?_⟩
        by_cases failed : info.status = .failed
        · exact .inr ⟨failed, List.mem_map_of_mem isRef⟩
        · left
          cases standing' : info.status <;> simp_all
  | @exhausted group rest infos left current standing =>
      rintro later ⟨⟩ transferId refs rest' at'
      cases current.symm.trans at'
      have stands := real.run run isRun transferId refs rest current
      unfold PhaseReal at stands
      rw [standing] at stands
      intro _ ref isRef info read
      rcases stands ref isRef info read with complete | ⟨_, _, none, _⟩
      · exact complete
      · cases none
  | @round group rest infos priority priorities current standing =>
      rintro later ⟨⟩ transferId refs rest' at'
      cases current.symm.trans at'
      rw [standing] at phase
      obtain ⟨_, _, _, again, live, _⟩ := phase
      cases current.symm.trans again
      have stands := real.run run isRun transferId refs rest current
      unfold PhaseReal at stands
      rw [standing] at stands
      intro ref isRef info read
      rcases stands ref isRef info read with complete | ⟨_, _, same, there⟩
      · exact .inl complete
      · cases same
        rcases there with later' | ⟨_, none⟩
        · right
          cases priorities with
          | nil => cases later'
          | cons first others =>
              refine ⟨first, others, rfl, ?_⟩
              rcases List.mem_cons.mp later' with head | tail
              · exact .inr ⟨head, by rw [live]; exact List.mem_map_of_mem isRef⟩
              · exact .inl tail
        · cases none
  | @hit group rest infos left item info priority priorities current standing read same =>
      rintro later ⟨⟩ transferId refs rest' at'
      rw [standing] at phase
      obtain ⟨_, _, _, _, _, _, suffix⟩ := phase
      intro complete
      have isPriority : priority ∈ aggregatePriorities := suffix.subset (List.mem_cons_self ..)
      rw [complete] at isPriority
      exact absurd isPriority (by decide)
  | @miss group rest infos left item priority priorities current standing other =>
      rintro later ⟨⟩ transferId refs rest' at'
      cases current.symm.trans at'
      have stands := real.run run isRun transferId refs rest current
      unfold PhaseReal at stands
      rw [standing] at stands
      intro ref isRef info read
      rcases stands ref isRef info read with complete | ⟨_, _, same, there⟩
      · exact .inl complete
      · cases same
        refine .inr ⟨priority, priorities, rfl, ?_⟩
        rcases there with later' | ⟨here, isLeft⟩
        · exact .inl later'
        · rcases List.mem_cons.mp isLeft with rfl | tail
          · exact absurd here (other info read)
          · exact .inr ⟨here, tail⟩
  | @built transferId refs rest infos status first others current standing items =>
      rintro later ⟨⟩ other others' rest' at'
      cases current.symm.trans at'
      intro entry found
      obtain ⟨whole, partly⟩ := built_real coherent real admitted isRun current standing items found
      refine ⟨fun complete => ?_, partly⟩
      obtain ⟨finished, count⟩ := whole complete
      exact ⟨finished.after, count⟩
  | skipped current standing => rintro later ⟨⟩ transferId refs rest' at'; trivial
  | stored current standing => rintro later ⟨⟩ transferId refs rest' at'; trivial

theorem real_step (coherent : Coherent history.system) (real : Real history)
    (admitted : CompletionsInOrder platform history label)
    (stepped : historyStep platform history.system label = some next) : Real (history.after next) := by
  have move := historyStep_moves coherent stepped
  by_cases running : label = .restart
  · subst running
    cases stepped
    exact ⟨fun _ member => (nomatch member), fun _ member => (nomatch member),
      fun _ _ found => (nomatch found), fun _ none => nomatch none⟩
  have apart : Apart next := real.apart.step coherent move running
    fun index event thread is found standing free =>
      (admitted.publishes index event thread is found standing free).2
  by_cases updates : ∃ ok hostname, label = .persist ok hostname
  · obtain ⟨ok, hostname, rfl⟩ := updates
    cases move with
    | persists isRun move =>
        exact ⟨apart, finished_step, persist_rows coherent real isRun move,
          persist_phase coherent real admitted isRun move⟩
  · have other (ok : Bool) (hostname : Option PyStr) : label ≠ .persist ok hostname :=
      fun same => updates ⟨ok, hostname, same⟩
    refine ⟨apart, finished_step, rows_step coherent real admitted move running other, ?_⟩
    have kept (run : PersistRun) (isRun : history.system.run = some run) (transferId : PyStr)
        (refs : List RecordRef) (rest : List (PyStr × List RecordRef))
        (current : run.groups = (transferId, refs) :: rest) :
        PhaseReal (history.after next) run transferId refs :=
      phase_kept coherent real admitted stepped running other isRun current
    cases move with
    | starts idle => rintro run ⟨⟩ transferId refs rest current; trivial
    | notifies => rintro run ⟨⟩ transferId refs rest current; trivial
    | persists => exact absurd rfl (other _ _)
    | restarts => exact absurd rfl running
    | _ => exact kept

end Steps

def RealHistory (history : CompletionHistory) : Prop := Coherent history.system ∧ Real history

/-- In every run in which completions come in order, a row that an update or any other
step leaves complete has the count of its offer, and all the offered files have been
completed. -/
theorem completions_real {platform : Platform} {maxPending : Nat} {store : TransferHistoryStore}
    {labels : List HistoryLabel} {history : CompletionHistory}
    (run : Run (completionStep platform) (CompletionsInOrder platform) (.start maxPending store) labels
      history) : CompletionsReal history := by
  have holds : RealHistory history := run.invariant
    (fun _ _ _ both admitted stepped => by
      obtain ⟨next, moved, rfl⟩ := Option.map_eq_some_iff.mp stepped
      exact ⟨coherent_step both.1 moved, real_step both.1 both.2 admitted moved⟩)
    ⟨coherent_start maxPending store, real_start maxPending store⟩
  exact holds.2.rows

/-! The first of the offered files is received, with the row of the offer written or not. -/

def secondFile : IncomingFile :=
  ⟨py "file-1", py "second.txt", 0, List.replicate 64 (chr 'e')⟩

/-- A notification of the first thread, and the calls of its update. -/
def updated (calls : Nat) (now : Time) : List HistoryLabel :=
  .notify (some 0) now :: List.replicate calls (.persist true none)

def answered (answers : List ReceiveAnswer) : List HistoryLabel :=
  answers.map fun answer => .receive 0 ⟨4, answer⟩

/-- An empty file is received, with so many calls in the updates at its start and end. -/
def fileReceived (file : IncomingFile) (begun ended : Nat) : List HistoryLabel :=
  answered [.control (fileControl "file_start" emptyOffer.transferId file.fileId)] ++
  updated begun 4 ++
  answered [.done, .done, .control (fileControl "file_end" emptyOffer.transferId file.fileId),
    .digest file.sha256, .committed ⟨py "/inbox/" ++ file.name, file.name⟩, .done, .done] ++
  updated ended 5

def firstReceived (files : List IncomingFile) (announced : Bool) : List HistoryLabel :=
  let offer : TransferOffer := ⟨emptyOffer.transferId, files, 0, none⟩
  let states := files.foldl (fun states file => states.set file.fileId ⟨0, none⟩) Dict.empty
  [.offered (offerFrame offer.transferId files none) (py "mp-0000000a") (py "192.0.2.7") none 2,
    .session 0 ⟨2, .done⟩, .callback 0 announced 2, .session 0 ⟨2, .done⟩,
    .decide offer.transferId .accept,
    .decided 0 true 3, .session 0 ⟨3, .flag true⟩, .session 0 ⟨3, .done⟩, .session 0 ⟨3, .done⟩] ++
  answered [.control (resumeQuery offer), .prepared states, .done] ++ fileReceived emptyFile 15 22

/-- The second of two files is received after the first. -/
def bothReceived : List HistoryLabel :=
  firstReceived [emptyFile, secondFile] true ++ answered [.done] ++ fileReceived secondFile 20 32

/-- The conditions on a label, computed. -/
def completesInOrder (history : CompletionHistory) (label : HistoryLabel) : Bool :=
  match label with
  | .session index _ => history.system.sent.isEmpty && (history.system.threads[index]?).all fun thread =>
      history.system.store.rowStatus thread.transferId ≠ some .complete
  | .persist ok _ => history.system.run.all fun run => match run.groups, run.phase with
      | (transferId, _) :: _, .existing infos .complete =>
          ok && (history.system.manager.getRequest transferId).all fun request =>
            request.files.length ≤
              max (((history.system.existing ok transferId).map TransferRecord.fileCount).getD 0)
                infos.length
      | _, _ => true
  | _ => true

/-- No step falls into the scan of an update. -/
def scansAlone (history : CompletionHistory) (label : HistoryLabel) : Bool :=
  match label with
  | .persist _ _ => true
  | _ => history.system.run.all fun run => match run.phase with
      | .scan _ _ _ => false
      | _ => true

theorem completesInOrder_sound {platform : Platform} (history : CompletionHistory)
    (label : HistoryLabel) (ordered : (completesInOrder history label && scansAlone history label) = true) :
    CompletionsInOrder platform history label := by
  obtain ⟨ordered, alone⟩ := Bool.and_eq_true_iff.mp ordered
  constructor
  · rintro index event thread rfl found _ _
    simp only [completesInOrder, found, Option.all_some, Bool.and_eq_true, List.isEmpty_iff,
      decide_eq_true_eq] at ordered
    exact ⟨fun complete => absurd complete ordered.2, fun info member => by
      rw [ordered.1] at member; cases member⟩
  · intro run transferId refs rest infos priorities left next running current standing other
    cases label with
    | persist ok hostname => exact absurd rfl (other ok hostname)
    | _ => simp [scansAlone, running, standing] at alone
  · rintro ok hostname run transferId refs rest infos entry rfl running current standing found _
    simp only [completesInOrder, running, Option.all_some, current, standing, Bool.and_eq_true,
      IncomingRequestManager.getRequest, found, Option.map_some, decide_eq_true_eq] at ordered
    exact ⟨ordered.2, fun failed => by rw [ordered.1] at failed; cases failed⟩

/-- A step in order, for as long as there are any. -/
def orderedStep (history : CompletionHistory) (label : HistoryLabel) : Option CompletionHistory :=
  if completesInOrder history label && scansAlone history label then
    completionStep asciiPlatform history label else none

theorem first_executed : (runLabels orderedStep (.start 32 ⟨Dict.empty, Dict.empty⟩)
    (firstReceived [emptyFile, secondFile] true)).any (fun history =>
      history.system.completedFiles.length = 1 &&
        history.system.store.rowStatus emptyOffer.transferId = some .active) = true := by
  decide +kernel

theorem both_executed : (runLabels orderedStep (.start 32 ⟨Dict.empty, Dict.empty⟩)
    bothReceived).any (fun history =>
      history.system.store.rowStatus emptyOffer.transferId = some .complete &&
        history.system.store.rowCount emptyOffer.transferId = 2) = true := by
  decide +kernel

/-- The row of two files stays active after the first of them, and is right at its end. -/
theorem both_files_complete : ∃ halfway history,
    Run (completionStep asciiPlatform) (CompletionsInOrder asciiPlatform)
      (.start 32 ⟨Dict.empty, Dict.empty⟩) (firstReceived [emptyFile, secondFile] true) halfway ∧
    (halfway.system.completedFiles.length = 1 ∧
      halfway.system.store.rowStatus emptyOffer.transferId = some .active) ∧
    CompletionsReal halfway ∧
    Run (completionStep asciiPlatform) (CompletionsInOrder asciiPlatform)
      (.start 32 ⟨Dict.empty, Dict.empty⟩) bothReceived history ∧
    (history.system.store.rowStatus emptyOffer.transferId = some .complete ∧
      history.system.store.rowCount emptyOffer.transferId = 2) ∧
    CompletionsReal history := by
  obtain ⟨halfway, reached, still⟩ := (Option.any_eq_true _ _).mp first_executed
  obtain ⟨history, executed, row⟩ := (Option.any_eq_true _ _).mp both_executed
  simp only [Bool.and_eq_true, decide_eq_true_eq] at still row
  have before : Run (completionStep asciiPlatform) (CompletionsInOrder asciiPlatform) _ _ halfway :=
    run_of_checked completesInOrder_sound reached
  have run : Run (completionStep asciiPlatform) (CompletionsInOrder asciiPlatform) _ _ history :=
    run_of_checked completesInOrder_sound executed
  exact ⟨halfway, history, before, still, completions_real before, run, row, completions_real run⟩

/-- When the row of the offer could not be written, the first of two files completes it. -/
theorem first_file_completes_row :
    ¬∀ (store : TransferHistoryStore) (labels : List HistoryLabel) (history : CompletionHistory),
      Run (completionStep asciiPlatform) anyStep (.start 32 store) labels history →
        CompletionsReal history := by
  intro real
  have early : (runLabels (completionStep asciiPlatform) (.start 32 ⟨Dict.empty, Dict.empty⟩)
      (firstReceived [emptyFile, secondFile] false)).any (fun history =>
        (history.system.manager.getRequest emptyOffer.transferId).any (fun request =>
          request.files.length = 2) &&
        history.system.store.rowStatus emptyOffer.transferId = some .complete &&
        history.system.store.rowCount emptyOffer.transferId = 1) = true := by
    decide +kernel
  obtain ⟨history, executed, facts⟩ := (Option.any_eq_true _ _).mp early
  simp only [Bool.and_eq_true, decide_eq_true_eq] at facts
  obtain ⟨⟨two, complete⟩, one⟩ := facts
  obtain ⟨request, found, two⟩ := (Option.any_eq_true _ _).mp two
  obtain ⟨entry, there, rfl⟩ := Option.map_eq_some_iff.mp found
  have two := of_decide_eq_true two
  have count := (real _ _ history (run_of_runLabels executed) _ entry there complete).1
  rw [one, two] at count
  cases count

end DirectTransfer
