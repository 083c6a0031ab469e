import DirectTransfer.Core.History
import DirectTransfer.Library.Transition

/-! Sequences of calls of the history store that write the status of a transfer
still in progress. Complete rows withstand all of them but `accepted`, and the
rows of files do not withstand the file status of an update. -/

set_option autoImplicit false

namespace DirectTransfer

open Library

/-! ## Calls -/

/-- The columns that a call of `update_transfer` names, with their values. -/
structure TransferChanges where
  peerHostname : Option (Option PyStr)
  status : Option TransferStatus
  bytesTransferred : Option Nat
  completedAt : Option (Option Time)
  error : Option (Option PyStr)
  fileCount : Option Nat
  totalSize : Option Nat
  resumed : Option Bool
  resumeOffset : Option Nat
  deriving DecidableEq

namespace TransferChanges

def nothing : TransferChanges := ⟨none, none, none, none, none, none, none, none, none⟩

/-- The assignments of the `UPDATE`. -/
def write (changes : TransferChanges) (row : TransferRecord) : TransferRecord :=
  { row with
    peerHostname := changes.peerHostname.getD row.peerHostname
    status := changes.status.getD row.status
    bytesTransferred := changes.bytesTransferred.getD row.bytesTransferred
    completedAt := changes.completedAt.getD row.completedAt
    error := changes.error.getD row.error
    fileCount := changes.fileCount.getD row.fileCount
    totalSize := changes.totalSize.getD row.totalSize
    resumed := changes.resumed.getD row.resumed
    resumeOffset := changes.resumeOffset.getD row.resumeOffset }

/-- The call adds `status != 'complete'` to its condition. -/
def SparesComplete (changes : TransferChanges) : Prop :=
  ∃ status ∈ changes.status, status ∈ interruptible

instance (changes : TransferChanges) : Decidable changes.SparesComplete :=
  inferInstanceAs (Decidable (∃ status ∈ changes.status, status ∈ interruptible))

end TransferChanges

namespace TransferHistoryStore

/-- The row an `UPDATE` with the given changes finds. -/
def selected (store : TransferHistoryStore) (transferId : PyStr) (changes : TransferChanges) :
    Option TransferRecord :=
  if changes = .nothing then none
  else (store.transfers.get transferId).filter fun row =>
    !(decide changes.SparesComplete && row.status = .complete)

/-- `update_transfer` with any of its columns; the value is what the call returns. -/
def updateColumns (store : TransferHistoryStore) (transferId : PyStr)
    (fileStatus : Option TransferStatus) (changes : TransferChanges) :
    TransferHistoryStore × Bool :=
  let row := store.selected transferId changes
  ({ transfers := match row with
      | some row => store.transfers.set transferId (changes.write row)
      | none => store.transfers
     files := match fileStatus with
      | some status => setFileStatuses store.files transferId status
      | none => store.files }, row.isSome || fileStatus.isSome)

/-- Foreign keys are on: a file needs the row of its transfer. -/
def hasTransfer (store : TransferHistoryStore) (file : TransferFileRecord) : Bool :=
  (store.transfers.get file.transferId).isSome

end TransferHistoryStore

inductive HistoryCall where
  | createTransfer (record : TransferRecord) (files : List TransferFileRecord)
  | updateTransfer (transferId : PyStr) (fileStatus : Option TransferStatus)
      (changes : TransferChanges)
  | addFile (record : TransferFileRecord)

namespace HistoryCall

/-- One transaction on a database that accepts it; one that violates a foreign
key is rolled back. -/
def apply (store : TransferHistoryStore) : HistoryCall → TransferHistoryStore × Bool
  | .createTransfer record files =>
      let next := store.createTransfer record files
      if files.all next.hasTransfer then (next, true) else (store, false)
  | .updateTransfer transferId fileStatus changes =>
      store.updateColumns transferId fileStatus changes
  | .addFile record =>
      if store.hasTransfer record then
        ({ store with files := TransferHistoryStore.upsertFile store.files record }, true)
      else (store, false)

/-- A call as the caller sees it: the database may be unavailable or locked. -/
def perform (store : TransferHistoryStore) (call : HistoryCall) (works : Bool) :
    TransferHistoryStore × Bool :=
  if works then call.apply store else (store, false)

/-- Every status the call writes is that of a transfer in progress. -/
def Interruptible : HistoryCall → Prop
  | .createTransfer record files =>
      record.status ∈ interruptible ∧ ∀ file ∈ files, file.status ∈ interruptible
  | .updateTransfer _ fileStatus changes =>
      (∀ status ∈ changes.status, status ∈ interruptible) ∧
        ∀ status ∈ fileStatus, status ∈ interruptible
  | .addFile record => record.status ∈ interruptible

/-- The calls through which the number of bytes of a complete row must not fall. -/
def upserts : HistoryCall → Bool
  | .createTransfer _ _ | .addFile _ => true
  | .updateTransfer _ _ _ => false

end HistoryCall

/-! ## Complete rows -/

def CompleteTransfer (store : TransferHistoryStore) (transferId : PyStr) : Prop :=
  ∃ row, store.transfers.get transferId = some row ∧ row.status = .complete

def CompleteFile (store : TransferHistoryStore) (key : PyStr × PyStr) : Prop :=
  ∃ row, store.files.get key = some row ∧ row.status = .complete

/-- Complete rows are still complete. -/
structure KeepsStatuses (before after : TransferHistoryStore) : Prop where
  transfers : ∀ transferId, CompleteTransfer before transferId → CompleteTransfer after transferId
  files : ∀ key, CompleteFile before key → CompleteFile after key

/-- Complete rows have not lost bytes. -/
structure KeepsBytes (before after : TransferHistoryStore) : Prop where
  transfers : ∀ transferId row next, before.transfers.get transferId = some row →
    row.status = .complete → after.transfers.get transferId = some next →
    row.bytesTransferred ≤ next.bytesTransferred
  files : ∀ key row next, before.files.get key = some row → row.status = .complete →
    after.files.get key = some next → row.bytesTransferred ≤ next.bytesTransferred

/-- The call writes `accepted` over a complete row, or a file status over a
complete row of a file. -/
def Overwrites (store : TransferHistoryStore) : HistoryCall → Prop
  | .createTransfer record files =>
      (∀ file ∈ files, file.transferId = record.transferId ∨ store.hasTransfer file = true) ∧
        ((record.status = .accepted ∧ CompleteTransfer store record.transferId) ∨
          ∃ file ∈ files, file.status = .accepted ∧
            CompleteFile store (file.transferId, file.fileId))
  | .updateTransfer transferId fileStatus _ =>
      fileStatus.isSome = true ∧ ∃ fileId, CompleteFile store (transferId, fileId)
  | .addFile record =>
      store.hasTransfer record = true ∧ record.status = .accepted ∧
        CompleteFile store (record.transferId, record.fileId)

/-! ## One row -/

theorem yields_of_interruptible {status : TransferStatus} (written : status ∈ interruptible) :
    status ∈ yieldsToComplete ↔ status ≠ .accepted := by
  cases status <;> simp_all [interruptible, yieldsToComplete]

theorem ne_complete_of_interruptible {status : TransferStatus} (written : status ∈ interruptible) :
    status ≠ .complete := by
  intro complete
  subst complete
  simp [interruptible] at written

namespace TransferHistoryStore

theorem mergeTransfer_complete {old excluded : TransferRecord} (complete : old.status = .complete)
    (written : excluded.status ∈ interruptible) :
    (mergeTransfer old excluded).status = .complete ↔ excluded.status ≠ .accepted := by
  have yields := yields_of_interruptible written
  have other := ne_complete_of_interruptible written
  simp only [mergeTransfer, complete, true_and, yields]
  split
  · next kept => simp [kept]
  · next lost => simp [other, lost]

theorem mergeFile_complete {old excluded : TransferFileRecord} (complete : old.status = .complete)
    (written : excluded.status ∈ interruptible) :
    (mergeFile old excluded).status = .complete ↔ excluded.status ≠ .accepted := by
  have yields := yields_of_interruptible written
  have other := ne_complete_of_interruptible written
  simp only [mergeFile, complete, true_and, yields]
  split
  · next kept => simp [kept]
  · next lost => simp [other, lost]

/-- The row of a file that has been written over one that is not complete. -/
theorem mergeFile_incomplete {old excluded : TransferFileRecord} (incomplete : old.status ≠ .complete) :
    (mergeFile old excluded).status = excluded.status := by
  simp [mergeFile, incomplete]

theorem mergeTransfer_bytes {old excluded : TransferRecord} (complete : old.status = .complete) :
    old.bytesTransferred ≤ (mergeTransfer old excluded).bytesTransferred := by
  simp [mergeTransfer, complete]

theorem mergeFile_bytes {old excluded : TransferFileRecord} (complete : old.status = .complete) :
    old.bytesTransferred ≤ (mergeFile old excluded).bytesTransferred := by
  simp [mergeFile, complete]

section Files

variable {files : Dict (PyStr × PyStr) TransferFileRecord} {record : TransferFileRecord}
  {key : PyStr × PyStr} {row : TransferFileRecord}

theorem upsertFile_self (found : files.get (record.transferId, record.fileId) = some row) :
    (upsertFile files record).get (record.transferId, record.fileId) =
      some (mergeFile row record) := by
  simp [upsertFile, found]

theorem upsertFile_other (different : key ≠ (record.transferId, record.fileId)) :
    (upsertFile files record).get key = files.get key :=
  Dict.get_set_ne different

/-- Writing files with statuses in progress leaves a row complete, with no
fewer bytes, unless one of them is the accepted state of that row. -/
theorem upsertFiles_keep {records : List TransferFileRecord}
    (written : ∀ record ∈ records, record.status ∈ interruptible)
    (spared : ∀ record ∈ records, (record.transferId, record.fileId) = key →
      record.status ≠ .accepted)
    (found : files.get key = some row) (complete : row.status = .complete) :
    ∃ next, (records.foldl upsertFile files).get key = some next ∧ next.status = .complete ∧
      row.bytesTransferred ≤ next.bytesTransferred := by
  induction records generalizing files row with
  | nil => exact ⟨row, found, complete, le_refl _⟩
  | cons record rest ih =>
      have later : ∀ record ∈ rest, record.status ∈ interruptible := by
        intro record member
        exact written record (List.mem_cons_of_mem _ member)
      have sparedLater : ∀ record ∈ rest, (record.transferId, record.fileId) = key →
          record.status ≠ .accepted := by
        intro record member
        exact spared record (List.mem_cons_of_mem _ member)
      by_cases same : key = (record.transferId, record.fileId)
      · have own := spared record List.mem_cons_self same.symm
        have still := (mergeFile_complete complete (written record List.mem_cons_self)).mpr own
        subst same
        obtain ⟨next, stored, status, bytes⟩ :=
          ih later sparedLater (upsertFile_self found) still
        exact ⟨next, stored, status, (mergeFile_bytes complete).trans bytes⟩
      · exact ih later sparedLater ((upsertFile_other same).trans found) complete

/-- A row that is not complete does not become so. -/
theorem upsertFiles_incomplete {records : List TransferFileRecord}
    (written : ∀ record ∈ records, record.status ∈ interruptible)
    (found : files.get key = some row) (incomplete : row.status ≠ .complete) :
    ∃ next, (records.foldl upsertFile files).get key = some next ∧ next.status ≠ .complete := by
  induction records generalizing files row with
  | nil => exact ⟨row, found, incomplete⟩
  | cons record rest ih =>
      have later : ∀ record ∈ rest, record.status ∈ interruptible := by
        intro record member
        exact written record (List.mem_cons_of_mem _ member)
      by_cases same : key = (record.transferId, record.fileId)
      · subst same
        apply ih later (upsertFile_self found)
        rw [mergeFile_incomplete incomplete]
        exact ne_complete_of_interruptible (written record List.mem_cons_self)
      · exact ih later ((upsertFile_other same).trans found) incomplete

theorem upsertFiles_accepted {records : List TransferFileRecord}
    (written : ∀ record ∈ records, record.status ∈ interruptible)
    (accepted : ∃ record ∈ records, (record.transferId, record.fileId) = key ∧
      record.status = .accepted)
    (found : files.get key = some row) (complete : row.status = .complete) :
    ∃ next, (records.foldl upsertFile files).get key = some next ∧ next.status ≠ .complete := by
  induction records generalizing files row with
  | nil =>
      obtain ⟨record, member, _⟩ := accepted
      cases member
  | cons record rest ih =>
      have first := written record List.mem_cons_self
      have later : ∀ record ∈ rest, record.status ∈ interruptible := by
        intro record member
        exact written record (List.mem_cons_of_mem _ member)
      by_cases same : key = (record.transferId, record.fileId)
      · subst same
        by_cases status : record.status = .accepted
        · apply upsertFiles_incomplete later (upsertFile_self found)
          intro still
          exact (mergeFile_complete complete first).mp still status
        · apply ih later _ (upsertFile_self found) ((mergeFile_complete complete first).mpr status)
          obtain ⟨other, member, equal, own⟩ := accepted
          cases member with
          | head => exact absurd own status
          | tail _ member => exact ⟨other, member, equal, own⟩
      · apply ih later _ ((upsertFile_other same).trans found) complete
        obtain ⟨other, member, equal, own⟩ := accepted
        cases member with
        | head => exact absurd equal.symm same
        | tail _ member => exact ⟨other, member, equal, own⟩

end Files

/-- The update a decision makes is one with three columns. -/
theorem updateColumns_decision (store : TransferHistoryStore) (transferId : PyStr)
    (status : TransferStatus) (completedAt : Option Time) (error : Option PyStr)
    (fileStatus : Option TransferStatus) :
    (store.updateColumns transferId fileStatus
        { TransferChanges.nothing with
          status := some status, completedAt := some completedAt, error := some error }).1 =
      store.updateTransfer transferId status completedAt error fileStatus := by
  have changed : ({ TransferChanges.nothing with
      status := some status, completedAt := some completedAt, error := some error } :
        TransferChanges) ≠ .nothing := by
    intro same
    exact absurd (congrArg TransferChanges.status same) (by simp [TransferChanges.nothing])
  unfold updateColumns updateTransfer selected
  simp only [if_neg changed, TransferChanges.SparesComplete, Option.mem_some, exists_eq_left']
  cases found : store.transfers.get transferId with
  | none => rfl
  | some row =>
      by_cases spared : status ∈ interruptible ∧ row.status = .complete
      · have dropped : (some row).filter (fun row =>
            !(decide (status ∈ interruptible) && decide (row.status = .complete))) = none := by
          apply Option.filter_some_neg
          rw [← Bool.decide_and, decide_eq_true spared]
          rfl
        rw [dropped]
        exact congrArg (fun transfers => TransferHistoryStore.mk transfers _) (if_pos spared).symm
      · have kept : (!(decide (status ∈ interruptible) && decide (row.status = .complete))) = true := by
          rw [← Bool.decide_and, decide_eq_false spared]
          rfl
        simp only [Option.filter, kept, if_neg spared, if_true]
        rfl

end TransferHistoryStore

/-! ## One call -/

theorem KeepsStatuses.refl (store : TransferHistoryStore) : KeepsStatuses store store :=
  ⟨fun _ complete => complete, fun _ complete => complete⟩

theorem KeepsStatuses.trans {first second third : TransferHistoryStore}
    (left : KeepsStatuses first second) (right : KeepsStatuses second third) :
    KeepsStatuses first third :=
  ⟨fun transferId complete => right.transfers transferId (left.transfers transferId complete),
    fun key complete => right.files key (left.files key complete)⟩

theorem KeepsBytes.refl (store : TransferHistoryStore) : KeepsBytes store store where
  transfers _ _ _ found _ again := by
    cases found.symm.trans again
    exact le_refl _
  files _ _ _ found _ again := by
    cases found.symm.trans again
    exact le_refl _

namespace HistoryCall

/-- A transfer row after the upsert of a record in progress. -/
theorem create_transfers_keep {store : TransferHistoryStore} {record : TransferRecord}
    (files : List TransferFileRecord) (written : record.status ∈ interruptible)
    {transferId : PyStr} {row : TransferRecord}
    (spared : transferId = record.transferId → record.status ≠ .accepted)
    (found : store.transfers.get transferId = some row) (complete : row.status = .complete) :
    ∃ next, (store.createTransfer record files).transfers.get transferId = some next ∧
      next.status = .complete ∧ row.bytesTransferred ≤ next.bytesTransferred := by
  by_cases same : transferId = record.transferId
  · subst same
    refine ⟨TransferHistoryStore.mergeTransfer row record, ?_, ?_, ?_⟩
    · rw [TransferHistoryStore.createTransfer_row, found]
    · exact (TransferHistoryStore.mergeTransfer_complete complete written).mpr (spared rfl)
    · exact TransferHistoryStore.mergeTransfer_bytes complete
  · exact ⟨row, (TransferHistoryStore.createTransfer_other same).trans found, complete, le_refl _⟩

theorem hasTransfer_createTransfer (store : TransferHistoryStore) (record : TransferRecord)
    (files : List TransferFileRecord) (file : TransferFileRecord) :
    (store.createTransfer record files).hasTransfer file = true ↔
      file.transferId = record.transferId ∨ store.hasTransfer file = true := by
  unfold TransferHistoryStore.hasTransfer
  by_cases same : file.transferId = record.transferId
  · simp [same, TransferHistoryStore.createTransfer_row]
  · rw [TransferHistoryStore.createTransfer_other same]
    simp [same]

theorem create_keeps_iff {store : TransferHistoryStore} {record : TransferRecord}
    {files : List TransferFileRecord} (written : record.status ∈ interruptible)
    (filesWritten : ∀ file ∈ files, file.status ∈ interruptible) :
    (KeepsStatuses store ((createTransfer record files).apply store).1 ∧
      KeepsBytes store ((createTransfer record files).apply store).1) ↔
      ¬ Overwrites store (createTransfer record files) := by
  by_cases linked : files.all (store.createTransfer record files).hasTransfer = true
  · have applied : ((createTransfer record files).apply store).1 =
        store.createTransfer record files := by
      simp only [apply, if_pos linked]
    have known : ∀ file ∈ files, file.transferId = record.transferId ∨
        store.hasTransfer file = true := by
      intro file member
      exact (hasTransfer_createTransfer store record files file).mp
        (List.all_eq_true.mp linked file member)
    rw [applied]
    constructor
    · intro kept overwrites
      obtain ⟨_, lost⟩ := overwrites
      cases lost with
      | inl lost =>
          obtain ⟨accepted, row, found, complete⟩ := lost
          obtain ⟨next, stored, still⟩ := kept.1.transfers _ ⟨row, found, complete⟩
          rw [TransferHistoryStore.createTransfer_row, found] at stored
          cases stored
          exact (TransferHistoryStore.mergeTransfer_complete complete written).mp still accepted
      | inr lost =>
          obtain ⟨file, member, accepted, row, found, complete⟩ := lost
          obtain ⟨next, stored, still⟩ := kept.1.files _ ⟨row, found, complete⟩
          obtain ⟨other, again, incomplete⟩ := TransferHistoryStore.upsertFiles_accepted
            filesWritten ⟨file, member, rfl, accepted⟩ found complete
          cases stored.symm.trans again
          exact incomplete still
    · intro spared
      have record_spared : ∀ transferId, CompleteTransfer store transferId →
          transferId = record.transferId → record.status ≠ .accepted := by
        intro transferId complete same accepted
        subst same
        exact spared ⟨known, .inl ⟨accepted, complete⟩⟩
      have files_spared : ∀ key, CompleteFile store key → ∀ file ∈ files,
          (file.transferId, file.fileId) = key → file.status ≠ .accepted := by
        intro key complete file member same accepted
        subst same
        exact spared ⟨known, .inr ⟨file, member, accepted, complete⟩⟩
      constructor
      · constructor
        · intro transferId held
          obtain ⟨row, found, complete⟩ := held
          obtain ⟨next, stored, still, _⟩ := create_transfers_keep files written
            (record_spared transferId ⟨row, found, complete⟩) found complete
          exact ⟨next, stored, still⟩
        · intro key held
          obtain ⟨row, found, complete⟩ := held
          obtain ⟨next, stored, still, _⟩ := TransferHistoryStore.upsertFiles_keep filesWritten
            (files_spared key ⟨row, found, complete⟩) found complete
          exact ⟨next, stored, still⟩
      · constructor
        · intro transferId row next found complete again
          obtain ⟨other, stored, _, bytes⟩ := create_transfers_keep files written
            (record_spared transferId ⟨row, found, complete⟩) found complete
          cases stored.symm.trans again
          exact bytes
        · intro key row next found complete again
          obtain ⟨other, stored, _, bytes⟩ := TransferHistoryStore.upsertFiles_keep filesWritten
            (files_spared key ⟨row, found, complete⟩) found complete
          cases stored.symm.trans again
          exact bytes
  · have applied : ((createTransfer record files).apply store).1 = store := by
      simp only [apply, if_neg linked]
    rw [applied]
    have rolledBack : ¬ Overwrites store (createTransfer record files) := by
      intro overwrites
      apply linked
      apply List.all_eq_true.mpr
      intro file member
      exact (hasTransfer_createTransfer store record files file).mpr (overwrites.1 file member)
    simp [rolledBack, KeepsStatuses.refl, KeepsBytes.refl]

theorem add_keeps_iff {store : TransferHistoryStore} {record : TransferFileRecord}
    (written : record.status ∈ interruptible) :
    (KeepsStatuses store ((addFile record).apply store).1 ∧
      KeepsBytes store ((addFile record).apply store).1) ↔
      ¬ Overwrites store (addFile record) := by
  cases linked : store.hasTransfer record with
  | false => simp [apply, linked, Overwrites, KeepsStatuses.refl, KeepsBytes.refl]
  | true =>
      have each : ∀ file ∈ [record], file.status ∈ interruptible := by simpa using written
      have applied : ((addFile record).apply store).1 =
          { store with files := [record].foldl TransferHistoryStore.upsertFile store.files } := by
        simp [apply, linked]
      rw [applied]
      constructor
      · intro kept overwrites
        obtain ⟨_, accepted, row, found, complete⟩ := overwrites
        obtain ⟨next, stored, still⟩ := kept.1.files _ ⟨row, found, complete⟩
        obtain ⟨other, again, incomplete⟩ := TransferHistoryStore.upsertFiles_accepted each
          ⟨record, List.mem_singleton_self _, rfl, accepted⟩ found complete
        cases stored.symm.trans again
        exact incomplete still
      · intro spared
        have files_spared : ∀ key, CompleteFile store key → ∀ file ∈ [record],
            (file.transferId, file.fileId) = key → file.status ≠ .accepted := by
          intro key complete file member same accepted
          cases List.mem_singleton.mp member
          subst same
          exact spared ⟨linked, accepted, complete⟩
        constructor
        · constructor
          · intro _ held
            exact held
          · intro key held
            obtain ⟨row, found, complete⟩ := held
            obtain ⟨next, stored, still, _⟩ := TransferHistoryStore.upsertFiles_keep each
              (files_spared key ⟨row, found, complete⟩) found complete
            exact ⟨next, stored, still⟩
        · constructor
          · exact (KeepsBytes.refl store).transfers
          · intro key row next found complete again
            obtain ⟨other, stored, _, bytes⟩ := TransferHistoryStore.upsertFiles_keep each
              (files_spared key ⟨row, found, complete⟩) found complete
            cases stored.symm.trans again
            exact bytes

/-- An update with a status in progress leaves a complete row alone, and one
without a status does not change it. -/
theorem update_transfers_keep {store : TransferHistoryStore} {changes : TransferChanges}
    {transferId other : PyStr} {fileStatus : Option TransferStatus}
    (written : ∀ status ∈ changes.status, status ∈ interruptible)
    (complete : CompleteTransfer store other) :
    CompleteTransfer (store.updateColumns transferId fileStatus changes).1 other := by
  obtain ⟨row, found, status⟩ := complete
  unfold TransferHistoryStore.updateColumns
  dsimp only
  cases selected : store.selected transferId changes with
  | none => exact ⟨row, found, status⟩
  | some chosen =>
      by_cases same : other = transferId
      · subst same
        refine ⟨changes.write chosen, Dict.get_set_self _ _ _, ?_⟩
        unfold TransferHistoryStore.selected at selected
        split at selected
        · cases selected
        · obtain ⟨held, free⟩ := Option.filter_eq_some_iff.mp selected
          cases found.symm.trans held
          cases wrote : changes.status with
          | none => simp [TransferChanges.write, wrote, status]
          | some wanted =>
              have spared : changes.SparesComplete :=
                ⟨wanted, wrote, written wanted wrote⟩
              simp [spared, status] at free
      · exact ⟨row, (Dict.get_set_ne same).trans found, status⟩

theorem update_keeps_iff {store : TransferHistoryStore} {changes : TransferChanges}
    {transferId : PyStr} {fileStatus : Option TransferStatus}
    (written : ∀ status ∈ changes.status, status ∈ interruptible)
    (filesWritten : ∀ status ∈ fileStatus, status ∈ interruptible) :
    KeepsStatuses store ((updateTransfer transferId fileStatus changes).apply store).1 ↔
      ¬ Overwrites store (updateTransfer transferId fileStatus changes) := by
  constructor
  · intro kept overwrites
    obtain ⟨given, fileId, row, found, complete⟩ := overwrites
    obtain ⟨status, wrote⟩ := Option.isSome_iff_exists.mp given
    obtain ⟨next, stored, still⟩ := kept.files _ ⟨row, found, complete⟩
    subst wrote
    change (TransferHistoryStore.setFileStatuses store.files transferId status).get
      (transferId, fileId) = some next at stored
    rw [TransferHistoryStore.get_setFileStatuses, found] at stored
    simp only [Option.map_some, if_true, Option.some.injEq] at stored
    subst stored
    exact ne_complete_of_interruptible (filesWritten status rfl) still
  · intro spared
    constructor
    · intro other complete
      exact update_transfers_keep written complete
    · intro key held
      obtain ⟨row, found, complete⟩ := held
      cases wrote : fileStatus with
      | none => exact ⟨row, found, complete⟩
      | some status =>
          refine ⟨row, ?_, complete⟩
          change (TransferHistoryStore.setFileStatuses store.files transferId status).get key =
            some row
          rw [TransferHistoryStore.get_setFileStatuses, found]
          have other : key.1 ≠ transferId := by
            intro same
            apply spared
            refine ⟨by simp [wrote], key.2, row, ?_, complete⟩
            rw [← same]
            exact found
          simp [other]

end HistoryCall

/-! ## Sequences of calls -/

/-- A call that keeps complete rows complete, and through an upsert their bytes. -/
def KeepsComplete (store : TransferHistoryStore) (call : HistoryCall) (works : Bool) : Prop :=
  KeepsStatuses store (call.perform store works).1 ∧
    (call.upserts = true → KeepsBytes store (call.perform store works).1)

theorem keepsComplete_iff {store : TransferHistoryStore} {call : HistoryCall} {works : Bool}
    (written : call.Interruptible) :
    KeepsComplete store call works ↔ ¬ (works = true ∧ Overwrites store call) := by
  cases works with
  | false =>
      simp [KeepsComplete, HistoryCall.perform, KeepsStatuses.refl, KeepsBytes.refl]
  | true =>
      simp only [KeepsComplete, HistoryCall.perform, if_true, true_and]
      cases call with
      | createTransfer record files =>
          simpa [HistoryCall.upserts] using HistoryCall.create_keeps_iff written.1 written.2
      | updateTransfer transferId fileStatus changes =>
          simpa [HistoryCall.upserts] using HistoryCall.update_keeps_iff written.1 written.2
      | addFile record =>
          simpa [HistoryCall.upserts] using HistoryCall.add_keeps_iff written

/-- Performs a call on a database that works or does not. -/
def callStep (store : TransferHistoryStore) (label : HistoryCall × Bool) :
    Option TransferHistoryStore :=
  some (label.1.perform store label.2).1

/-- The call writes statuses in progress, and not over complete rows. -/
def Spares (store : TransferHistoryStore) (label : HistoryCall × Bool) : Prop :=
  label.1.Interruptible ∧ ¬ (label.2 = true ∧ Overwrites store label.1)

/-- A sequence of calls that write statuses in progress keeps complete rows
complete, and with each upsert their bytes, when no call of it overwrites one;
and the calls that do not are the only ones that keep them. -/
theorem complete_rows_kept {start finish : TransferHistoryStore}
    {calls : List (HistoryCall × Bool)} (run : Run callStep Spares start calls finish) :
    KeepsStatuses start finish ∧
      ∀ (call : HistoryCall) (works : Bool), call.Interruptible →
        (KeepsComplete finish call works ↔ ¬ (works = true ∧ Overwrites finish call)) := by
  refine ⟨run.invariant ?_ (KeepsStatuses.refl start), fun _ _ written => keepsComplete_iff written⟩
  intro store label next kept spares stepped
  cases stepped
  exact kept.trans ((keepsComplete_iff spares.1).mpr spares.2).1

def receivedRecord (status : TransferStatus) : TransferRecord where
  transferId := py "t"
  peerDeviceId := none
  peerIp := py "192.0.2.1"
  peerHostname := none
  direction := .recv
  status := status
  message := none
  fileCount := 1
  totalSize := 1
  bytesTransferred := 1
  startedAt := 0
  completedAt := none
  error := none
  resumed := false
  resumeOffset := 0

def receivedFile (status : TransferStatus) : TransferFileRecord :=
  ⟨py "t", py "f", py "a.txt", none, 1, none, 1, status⟩

/-- A history that holds one finished transfer of one file. -/
def finishedHistory : TransferHistoryStore :=
  (TransferHistoryStore.createTransfer ⟨Dict.empty, Dict.empty⟩ (receivedRecord .complete)
    [receivedFile .complete])

def interruptCall : HistoryCall :=
  .updateTransfer (py "t") none { TransferChanges.nothing with status := some .interrupted }

theorem interruptCall_spares : Spares finishedHistory (interruptCall, true) := by
  constructor
  · constructor
    · intro status wrote
      cases wrote
      decide
    · intro status wrote
      cases wrote
  · intro overwrites
    cases overwrites.2.1

/-- The interruption of a finished transfer does not reach its row. -/
theorem finished_not_interrupted :
    CompleteTransfer (interruptCall.perform finishedHistory true).1 (py "t") := by
  have kept := (complete_rows_kept (Run.single interruptCall_spares rfl)).1
  exact kept.transfers (py "t") ⟨receivedRecord .complete, rfl, rfl⟩

/-- A record written again as accepted replaces the complete one, a file
accepted again the complete file, and an update that marks the files interrupted
does not spare those that are complete. -/
theorem accepted_replaces_complete :
    ((HistoryCall.createTransfer (receivedRecord .accepted) []).Interruptible ∧
      ¬ KeepsComplete finishedHistory (.createTransfer (receivedRecord .accepted) []) true) ∧
    ((HistoryCall.addFile (receivedFile .accepted)).Interruptible ∧
      ¬ KeepsComplete finishedHistory (.addFile (receivedFile .accepted)) true) ∧
    ((HistoryCall.updateTransfer (py "t") (some .interrupted) .nothing).Interruptible ∧
      ¬ KeepsComplete finishedHistory (.updateTransfer (py "t") (some .interrupted) .nothing)
        true) := by
  have file : CompleteFile finishedHistory (py "t", py "f") := ⟨receivedFile .complete, rfl, rfl⟩
  have row : CompleteTransfer finishedHistory (py "t") := ⟨receivedRecord .complete, rfl, rfl⟩
  have lost {call : HistoryCall} (written : call.Interruptible)
      (overwrites : Overwrites finishedHistory call) :
      call.Interruptible ∧ ¬ KeepsComplete finishedHistory call true :=
    ⟨written, fun kept => (keepsComplete_iff written).mp kept ⟨rfl, overwrites⟩⟩
  refine ⟨?_, ?_, ?_⟩
  · exact lost ⟨by decide, by simp⟩ ⟨by simp, .inl ⟨rfl, row⟩⟩
  · have written : (receivedFile .accepted).status ∈ interruptible := by decide
    exact @lost (.addFile (receivedFile .accepted)) written ⟨rfl, rfl, file⟩
  · refine lost ⟨?_, ?_⟩ ⟨rfl, py "f", file⟩
    · intro status wrote
      cases wrote
    · intro status wrote
      cases wrote
      decide

end DirectTransfer
