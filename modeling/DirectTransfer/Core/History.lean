import DirectTransfer.Core.Inbox
import DirectTransfer.Core.Lifecycle

/-! Persistence of transfer sessions and files. Each function of the store is one
transaction; a transaction that fails leaves the store as it was. -/

set_option autoImplicit false

namespace DirectTransfer

open Library

/-! ## Rows -/

structure TransferRecord where
  transferId : PyStr
  peerDeviceId : Option PyStr
  peerIp : PyStr
  peerHostname : Option PyStr
  direction : TransferDirection
  status : TransferStatus
  message : Option PyStr
  fileCount : Nat
  totalSize : Nat
  bytesTransferred : Nat
  startedAt : Time
  completedAt : Option Time
  error : Option PyStr
  resumed : Bool
  resumeOffset : Nat
  deriving DecidableEq

structure TransferFileRecord where
  transferId : PyStr
  fileId : PyStr
  filename : PyStr
  finalPath : Option PyStr
  filesize : Nat
  sha256 : Option PyStr
  bytesTransferred : Nat
  status : TransferStatus
  deriving DecidableEq

/-- The statuses a restart turns into interrupted. -/
def interruptible : List TransferStatus :=
  [.pending, .pendingApproval, .accepted, .active, .interrupted, .resuming]

/-- The statuses that do not replace a complete one when a row is written again. -/
def yieldsToComplete : List TransferStatus :=
  [.interrupted, .resuming, .active, .pending, .pendingApproval]

/-! ## The store -/

/-- Both tables under their primary keys. -/
structure TransferHistoryStore where
  transfers : Dict PyStr TransferRecord
  files : Dict (PyStr × PyStr) TransferFileRecord

namespace TransferHistoryStore

/-- The `DO UPDATE` of a transfer row. -/
def mergeTransfer (old excluded : TransferRecord) : TransferRecord :=
  let keeps := old.status = .complete ∧ excluded.status ∈ yieldsToComplete
  { excluded with
    peerHostname := excluded.peerHostname.orElse fun _ => old.peerHostname
    status := if keeps then old.status else excluded.status
    message := excluded.message.orElse fun _ => old.message
    fileCount := max excluded.fileCount old.fileCount
    totalSize := max excluded.totalSize old.totalSize
    bytesTransferred := if old.status = .complete then
      max old.bytesTransferred excluded.bytesTransferred else excluded.bytesTransferred
    startedAt := old.startedAt
    completedAt := old.completedAt.orElse fun _ => excluded.completedAt
    error := if keeps then old.error else excluded.error
    resumed := old.resumed || excluded.resumed
    resumeOffset := max old.resumeOffset excluded.resumeOffset }

/-- The `DO UPDATE` of a file row. -/
def mergeFile (old excluded : TransferFileRecord) : TransferFileRecord :=
  { old with
    finalPath := excluded.finalPath.orElse fun _ => old.finalPath
    sha256 := excluded.sha256.orElse fun _ => old.sha256
    bytesTransferred := if old.status = .complete then
      max old.bytesTransferred excluded.bytesTransferred else excluded.bytesTransferred
    status := if old.status = .complete ∧ excluded.status ∈ yieldsToComplete then old.status
      else excluded.status }

def upsertFile (files : Dict (PyStr × PyStr) TransferFileRecord) (record : TransferFileRecord) :
    Dict (PyStr × PyStr) TransferFileRecord :=
  let key := (record.transferId, record.fileId)
  files.set key (match files.get key with
    | some old => mergeFile old record
    | none => record)

def createTransfer (store : TransferHistoryStore) (record : TransferRecord)
    (files : List TransferFileRecord) : TransferHistoryStore where
  transfers := store.transfers.set record.transferId
    (match store.transfers.get record.transferId with
      | some old => mergeTransfer old record
      | none => record)
  files := files.foldl upsertFile store.files

def setFileStatuses (files : Dict (PyStr × PyStr) TransferFileRecord) (transferId : PyStr)
    (status : TransferStatus) : Dict (PyStr × PyStr) TransferFileRecord :=
  ⟨files.entries.map fun (key, file) =>
      (key, if key.1 = transferId then { file with status } else file), by
    simpa [Function.comp_def] using files.distinct⟩

/-- An update of status, completion time and error, and of the status of every file. -/
def updateTransfer (store : TransferHistoryStore) (transferId : PyStr) (status : TransferStatus)
    (completedAt : Option Time) (error : Option PyStr) (fileStatus : Option TransferStatus) :
    TransferHistoryStore where
  transfers := match store.transfers.get transferId with
    | some row =>
        if status ∈ interruptible ∧ row.status = .complete then store.transfers
        else store.transfers.set transferId { row with status, completedAt, error }
    | none => store.transfers
  files := match fileStatus with
    | some status => setFileStatuses store.files transferId status
    | none => store.files

def getTransfer (store : TransferHistoryStore) (transferId : PyStr) : Option TransferRecord :=
  store.transfers.get transferId

section Rows

variable {store : TransferHistoryStore} {transferId other : PyStr}

theorem createTransfer_row (store : TransferHistoryStore) (record : TransferRecord)
    (files : List TransferFileRecord) :
    (store.createTransfer record files).transfers.get record.transferId =
      some (match store.transfers.get record.transferId with
        | some old => mergeTransfer old record
        | none => record) := by
  simp [createTransfer]

theorem createTransfer_other {record : TransferRecord} {files : List TransferFileRecord}
    (different : other ≠ record.transferId) :
    (store.createTransfer record files).transfers.get other = store.transfers.get other := by
  simp [createTransfer, Dict.get_set_ne different]

/-- Rows of files of other transfers are not written. -/
theorem createTransfer_files {record : TransferRecord} {files : List TransferFileRecord}
    (own : ∀ file ∈ files, file.transferId ≠ other) (fileId : PyStr) :
    (store.createTransfer record files).files.get (other, fileId) =
      store.files.get (other, fileId) := by
  unfold createTransfer
  dsimp only
  induction files generalizing store with
  | nil => rfl
  | cons file rest ih =>
      have head := own file (by simp)
      have step : (upsertFile store.files file).get (other, fileId) =
          store.files.get (other, fileId) := by
        refine Dict.get_set_ne fun same => head ?_
        exact (Prod.mk.inj same).1.symm
      rw [List.foldl_cons, ← step]
      exact @ih ⟨store.transfers, upsertFile store.files file⟩
        fun later member => own later (by simp [member])

theorem get_setFileStatuses (files : Dict (PyStr × PyStr) TransferFileRecord)
    (transferId : PyStr) (status : TransferStatus) (key : PyStr × PyStr) :
    (setFileStatuses files transferId status).get key =
      (files.get key).map fun file => if key.1 = transferId then { file with status } else file := by
  have values (entries : List ((PyStr × PyStr) × TransferFileRecord)) :
      findEntry key (entries.map fun (key, file) =>
        (key, if key.1 = transferId then { file with status } else file)) =
      (findEntry key entries).map fun file =>
        if key.1 = transferId then { file with status } else file := by
    induction entries with
    | nil => rfl
    | cons entry rest ih =>
        obtain ⟨other, file⟩ := entry
        by_cases same : other = key
        · subst same
          simp [findEntry]
        · simp only [List.map_cons, findEntry, same, if_false]
          exact ih
  exact values files.entries

theorem updateTransfer_other {status : TransferStatus} {completedAt : Option Time}
    {error : Option PyStr} {fileStatus : Option TransferStatus} (different : other ≠ transferId) :
    (store.updateTransfer transferId status completedAt error fileStatus).transfers.get other =
      store.transfers.get other := by
  unfold updateTransfer
  dsimp only
  split
  · split
    · rfl
    · exact Dict.get_set_ne different
  · rfl

/-- A row that is there is written, unless it is complete and the status would not be final. -/
theorem updateTransfer_row {row : TransferRecord} {status : TransferStatus}
    {completedAt : Option Time} {error : Option PyStr} {fileStatus : Option TransferStatus}
    (found : store.transfers.get transferId = some row) :
    (store.updateTransfer transferId status completedAt error fileStatus).transfers.get transferId =
      some (if status ∈ interruptible ∧ row.status = .complete then row
        else { row with status, completedAt, error }) := by
  unfold updateTransfer
  rw [found]
  dsimp only
  split
  · exact found
  · exact Dict.get_set_self _ _ _

theorem updateTransfer_none {status : TransferStatus} {completedAt : Option Time}
    {error : Option PyStr} {fileStatus : Option TransferStatus}
    (absent : store.transfers.get transferId = none) :
    (store.updateTransfer transferId status completedAt error fileStatus).transfers =
      store.transfers := by
  unfold updateTransfer
  rw [absent]

theorem updateTransfer_files {status : TransferStatus} {completedAt : Option Time}
    {error : Option PyStr} {fileStatus : Option TransferStatus} (different : other ≠ transferId)
    (fileId : PyStr) :
    (store.updateTransfer transferId status completedAt error fileStatus).files.get (other, fileId) =
      store.files.get (other, fileId) := by
  unfold updateTransfer
  dsimp only
  split
  · rw [get_setFileStatuses]
    cases store.files.get (other, fileId) with
    | none => rfl
    | some file => simp [different]
  · rfl

end Rows

/-- What opening the store does to the rows of an earlier process. -/
def migrate (store : TransferHistoryStore) : TransferHistoryStore where
  transfers := store.transfers.map fun row =>
    if row.status ∈ interruptible then { row with status := .interrupted } else row
  files := store.files

end TransferHistoryStore

/-! ## The callbacks of the inbox -/

/-- A callback the manager runs after it has released its lock. -/
inductive ManagerCallback where
  | onRequest (request : IncomingTransferRequest)
  | onDecision (decided : IncomingTransferRequest)
  deriving DecidableEq

def ManagerCallback.request : ManagerCallback → IncomingTransferRequest
  | .onRequest request | .onDecision request => request

/-- The callback of a call: one for an entry it added, one for an entry it decided. -/
def IncomingRequestManager.callback (before after : IncomingRequestManager) (transferId : PyStr) :
    Option ManagerCallback :=
  match before.entries.get transferId, after.entries.get transferId with
  | none, some entry => some (.onRequest entry.request)
  | some old, some entry =>
      if old.request.status = .pendingApproval ∧ entry.request.status ≠ .pendingApproval then
        some (.onDecision entry.request)
      else none
  | _, none => none

/-- `_handle_incoming_request` -/
def handleIncomingRequest (store : TransferHistoryStore) (request : IncomingTransferRequest) :
    TransferHistoryStore :=
  store.createTransfer
    { transferId := request.transferId
      peerDeviceId := some request.peerDeviceId
      peerIp := request.peerIp
      peerHostname := request.peerName
      direction := .recv
      status := .pendingApproval
      message := request.message
      fileCount := request.files.length
      totalSize := request.totalSize
      bytesTransferred := 0
      startedAt := request.receivedAt
      completedAt := none
      error := none
      resumed := false
      resumeOffset := 0 }
    (request.files.map fun item =>
      { transferId := request.transferId
        fileId := item.fileId
        filename := item.name
        finalPath := none
        filesize := item.size
        sha256 := some item.sha256
        bytesTransferred := 0
        status := .pendingApproval })

/-- The row status of a decision. -/
def decisionStatus : IncomingRequestStatus → TransferStatus
  | .accepted => .accepted
  | .rejected => .rejected
  | .expired => .failed
  | .cancelled => .cancelled
  | .pendingApproval => .pendingApproval

def decisionFileStatus : IncomingRequestStatus → Option TransferStatus
  | .rejected => some .rejected
  | .expired => some .failed
  | .cancelled => some .cancelled
  | .accepted | .pendingApproval => none

/-- `_handle_request_decision` -/
def handleRequestDecision (store : TransferHistoryStore) (request : IncomingTransferRequest)
    (now : Time) : TransferHistoryStore :=
  let fileStatus := decisionFileStatus request.status
  let error := if request.status = .expired ∧ (request.reason = none ∨ request.reason = some []) then
    some (py "Transfer request expired") else request.reason
  store.updateTransfer request.transferId (decisionStatus request.status)
    (if fileStatus.isSome then some now else none) error fileStatus

def ManagerCallback.write (store : TransferHistoryStore) (now : Time) :
    ManagerCallback → TransferHistoryStore
  | .onRequest request => handleIncomingRequest store request
  | .onDecision decided => handleRequestDecision store decided now

/-! ## Runtime updates -/

/-- A value Python counts as true. -/
def truthy (text : Option PyStr) : Option PyStr := text.filter fun text => !text.isEmpty

def truthyTime (time : Option Time) : Option Time := time.filter fun time => time ≠ 0

def fileStatusRank : TransferStatus → Nat
  | .complete => 100
  | .cancelled => 90
  | .failed => 80
  | .rejected => 70
  | .active => 60
  | .resuming => 50
  | .interrupted => 40
  | .accepted => 30
  | .pendingApproval => 20
  | .pending => 10

/-- The comparison of the keys rank, bytes and start time. -/
def outranks (left right : TransferInfo) : Bool :=
  let rank (info : TransferInfo) := fileStatusRank info.status
  rank right < rank left || rank right = rank left &&
    (right.bytesTransferred < left.bytesTransferred ||
      right.bytesTransferred = left.bytesTransferred && decide (right.startedAt < left.startedAt))

/-- The first of the greatest. -/
def bestInfo (first : TransferInfo) (rest : List TransferInfo) : TransferInfo :=
  rest.foldl (fun best item => if outranks item best then item else best) first

def latest (times : List (Option Time)) : Time :=
  times.foldl (fun latest time => max latest (time.getD 0)) 0

def earliest (first : Time) (rest : List Time) : Time := rest.foldl min first

/-- `_resolve_authoritative_file_info` of the records of one file. -/
def resolveAuthoritativeFileInfo (first : TransferInfo) (rest : List TransferInfo) : TransferInfo :=
  if rest = [] then first else
  let items := first :: rest
  let best := bestInfo first rest
  { filename := best.filename
    filesize := best.filesize
    direction := best.direction
    peerIp := best.peerIp
    status := best.status
    bytesTransferred := if best.status = .complete then best.filesize
      else (items.map TransferInfo.bytesTransferred).foldl max 0
    startedAt := earliest first.startedAt (rest.map TransferInfo.startedAt)
    error := if best.status ≠ .complete then best.error else none
    retryCount := (items.map TransferInfo.retryCount).foldl max 0
    peerDeviceId := best.peerDeviceId
    transferId := best.transferId
    fileId := best.fileId
    resumeOffset := (items.map TransferInfo.resumeOffset).foldl max 0
    bytesTransferredThisAttempt := best.bytesTransferredThisAttempt
    completedAt := if isTerminal best.status then
      truthyTime (some (latest (items.map TransferInfo.completedAt))) else none
    message := best.message
    sha256 := best.sha256
    finalPath := ((items.findSome? fun item => truthy item.finalPath).orElse fun _ =>
      best.finalPath) }

/-- The order in which `_aggregate_status` looks for a status. -/
def aggregatePriorities : List TransferStatus :=
  [.failed, .cancelled, .rejected, .interrupted, .resuming, .active, .accepted, .pendingApproval,
    .pending]

def aggregateStatus (statuses : List TransferStatus) : TransferStatus :=
  (aggregatePriorities.find? fun status => statuses.contains status).getD .complete

/-- The status a runtime update stores, from the row it has read. -/
def persistedStatus (status : TransferStatus) (known : Nat) (existing : Option TransferRecord) :
    TransferStatus :=
  match existing with
  | none => status
  | some row =>
      if row.status = .complete then .complete
      else if status = .complete ∧ known < row.fileCount then .active
      else status

def byteCount (infos : List TransferInfo) (status : TransferStatus)
    (existing : Option TransferRecord) : Nat :=
  let sum := (infos.map TransferInfo.bytesTransferred).sum
  match existing with
  | some row => if status = .complete then max sum row.bytesTransferred else sum
  | none => sum

/-- When, how far and with which status a transfer was last stored. -/
structure PersistedProgress where
  now : Time
  bytes : Nat
  status : TransferStatus

def shouldFlush (previous : Option PersistedProgress) (status : TransferStatus) (bytes : Nat)
    (now : Time) : Bool :=
  match previous with
  | none => true
  | some previous =>
      previous.status ≠ status || isTerminal status ||
        previous.bytes + 4 * 1024 * 1024 ≤ bytes || 2 ≤ now - previous.now

/-- The row of a runtime update of `first :: rest`. -/
def runtimeRecord (transferId : PyStr) (first : TransferInfo) (rest : List TransferInfo)
    (existing : Option TransferRecord) (status : TransferStatus) (bytes : Nat)
    (hostname : Option PyStr) : TransferRecord :=
  let infos := first :: rest
  { transferId
    peerDeviceId := first.peerDeviceId
    peerIp := first.peerIp
    peerHostname := hostname
    direction := first.direction
    status
    message := first.message
    fileCount := max infos.length ((existing.map TransferRecord.fileCount).getD 0)
    totalSize := max (infos.map TransferInfo.filesize).sum
      ((existing.map TransferRecord.totalSize).getD 0)
    bytesTransferred := bytes
    startedAt := earliest first.startedAt (rest.map TransferInfo.startedAt)
    completedAt := (truthyTime (some (latest (infos.map TransferInfo.completedAt)))).orElse fun _ =>
      truthyTime (existing.bind TransferRecord.completedAt)
    error := if status = .complete then none
      else infos.findSome? fun item => truthy item.error
    resumed := infos.any fun item => 0 < item.resumeOffset
    resumeOffset := (infos.map TransferInfo.resumeOffset).sum }

def runtimeFiles (transferId : PyStr) (infos : List TransferInfo) : List TransferFileRecord :=
  infos.mapIdx fun index item =>
    { transferId
      fileId := (truthy item.fileId).getD (py "file-" ++ natText index)
      filename := item.filename
      finalPath := item.finalPath
      filesize := item.filesize
      sha256 := item.sha256
      bytesTransferred := item.bytesTransferred
      status := item.status }

/-- One turn of the loop of `_persist_runtime_transfers`, after its read of the row: a
record for each file, and the status aggregated from them. -/
structure PersistTurn where
  transferId : PyStr
  first : TransferInfo
  rest : List TransferInfo
  aggregate : TransferStatus
  now : Time
  hostname : Option PyStr
  existing : Option TransferRecord

namespace PersistTurn

variable (turn : PersistTurn)

def infos : List TransferInfo := turn.first :: turn.rest

def status : TransferStatus := persistedStatus turn.aggregate turn.infos.length turn.existing

def bytes : Nat := byteCount turn.infos turn.status turn.existing

def progress : PersistedProgress := ⟨turn.now, turn.bytes, turn.status⟩

/-- `should_flush` -/
def flushes (persisted : Dict PyStr PersistedProgress) : Bool :=
  shouldFlush (persisted.get turn.transferId) turn.status turn.bytes turn.now

def record : TransferRecord :=
  runtimeRecord turn.transferId turn.first turn.rest turn.existing turn.status turn.bytes
    turn.hostname

def files : List TransferFileRecord := runtimeFiles turn.transferId turn.infos

/-- The write of the turn, where the database answers. -/
def write (store : TransferHistoryStore) (ok : Bool) : TransferHistoryStore :=
  if ok then store.createTransfer turn.record turn.files else store

def remember (persisted : Dict PyStr PersistedProgress) : Dict PyStr PersistedProgress :=
  persisted.set turn.transferId turn.progress

end PersistTurn

end DirectTransfer
