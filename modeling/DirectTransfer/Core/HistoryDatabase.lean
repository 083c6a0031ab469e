import DirectTransfer.Core.History
import DirectTransfer.Library.LikePattern

/-! The history database as SQLite keeps it: rows of text and numbers whatever
wrote them, how they are listed and searched, and the statements that bring an
older schema up to date. -/

set_option autoImplicit false

namespace DirectTransfer

open Library

/-- A row of `transfers`. The last two columns hold nothing until they are added. -/
structure TransferRow where
  transferId : PyStr
  peerDeviceId : Option PyStr
  peerIp : PyStr
  peerHostname : Option PyStr
  direction : PyStr
  status : PyStr
  message : Option PyStr
  fileCount : Int
  totalSize : Int
  bytesTransferred : Int
  startedAt : Time
  completedAt : Option Time
  error : Option PyStr
  resumed : Option Int
  resumeOffset : Option Int
  deriving DecidableEq

structure TransferFileRow where
  id : Int
  transferId : PyStr
  fileId : PyStr
  filename : PyStr
  finalPath : Option PyStr
  filesize : Int
  sha256 : Option PyStr
  bytesTransferred : Int
  status : PyStr
  deriving DecidableEq

/-! ## Listing and searching -/

/-- What a character of a `LIKE` pattern stands for. -/
def likeItem (point : CodePoint) : PatternItem CodePoint :=
  if point = chr '%' then .anyRun else if point = chr '_' then .anyOne else .exactly point

/-- SQLite decodes the noncharacters U+FFFE and U+FFFF as U+FFFD. -/
def utf8Read (point : CodePoint) : CodePoint :=
  if point.val = 0xFFFE ∨ point.val = 0xFFFF then codePoint 0xFFFD else point

/-- What `LIKE` reads of a pattern or a text: a NUL ends it. -/
def likeText (text : PyStr) : PyStr :=
  asciiLower ((text.takeWhile fun point => point.val ≠ 0).map utf8Read)

/-- `text LIKE pattern` -/
def sqlLike (pattern text : PyStr) : Bool :=
  matchesPattern ((likeText pattern).map likeItem) (likeText text)

/-- A text SQLite can be given as a parameter. -/
def bindable (text : PyStr) : Bool := text.all fun point => !point.isSurrogate

def searchPattern (search : PyStr) : PyStr := py "%" ++ search.take 128 ++ py "%"

def matchesSearch (pattern : PyStr) (row : TransferRow) : Bool :=
  row.peerHostname.any (sqlLike pattern) || sqlLike pattern row.peerIp ||
    sqlLike pattern row.transferId

/-- A row as `TransferRecord` shows it: `resumed` becomes a flag. -/
def TransferRow.shown (row : TransferRow) : TransferRow :=
  { row with resumed := row.resumed.map fun value => if value = 0 then 0 else 1 }

/-- `_query_transfers` on an open store; `order` is SQLite's `ORDER BY started_at DESC`. -/
def queryTransfers (order : List TransferRow → List TransferRow) (rows : List TransferRow)
    (clauses : List (TransferRow → Bool)) (params : List PyStr) (limit : Int) :
    Except Raised (List TransferRow) :=
  let boundedLimit := (max 1 (min limit 5000)).toNat
  if params.all bindable then
    .ok (((order (rows.filter fun row => clauses.all fun clause => clause row)).take
      boundedLimit).map TransferRow.shown)
  else .error (raised .valueError "surrogates not allowed")

def listTransfers (order : List TransferRow → List TransferRow) (rows : List TransferRow)
    (direction status search : Option PyStr) (limit : Int) : Except Raised (List TransferRow) :=
  let byDirection := (truthy direction).map fun wanted =>
    ((fun row : TransferRow => decide (row.direction = wanted)), wanted)
  let byStatus := (truthy status).map fun wanted =>
    ((fun row : TransferRow => decide (row.status = wanted)), wanted)
  let bySearch := (truthy search).map fun query =>
    (matchesSearch (searchPattern query), searchPattern query)
  let clauses := byDirection.toList ++ byStatus.toList ++ bySearch.toList
  queryTransfers order rows (clauses.map Prod.fst) (clauses.map Prod.snd) limit

def searchTransfers (order : List TransferRow → List TransferRow) (rows : List TransferRow)
    (query : PyStr) (limit : Int) : Except Raised (List TransferRow) :=
  listTransfers order rows none none (some query) limit

/-! ## Migration -/

structure TransferTable where
  hasResumed : Bool
  hasResumeOffset : Bool
  rows : List TransferRow
  deriving DecidableEq

structure HistoryDatabase where
  userVersion : Int
  transfers : Option TransferTable
  transferFiles : Option (List TransferFileRow)
  indexes : List PyStr
  deriving DecidableEq

def schemaVersion : Int := 2

def TransferDirection.value : TransferDirection → PyStr
  | .send => py "send"
  | .recv => py "recv"

def TransferRecord.row (record : TransferRecord) : TransferRow where
  transferId := record.transferId
  peerDeviceId := record.peerDeviceId
  peerIp := record.peerIp
  peerHostname := record.peerHostname
  direction := record.direction.value
  status := record.status.value
  message := record.message
  fileCount := record.fileCount
  totalSize := record.totalSize
  bytesTransferred := record.bytesTransferred
  startedAt := record.startedAt
  completedAt := record.completedAt
  error := record.error
  resumed := some (if record.resumed then 1 else 0)
  resumeOffset := some record.resumeOffset

def TransferFileRecord.row (id : Nat) (record : TransferFileRecord) : TransferFileRow where
  id := id
  transferId := record.transferId
  fileId := record.fileId
  filename := record.filename
  finalPath := record.finalPath
  filesize := record.filesize
  sha256 := record.sha256
  bytesTransferred := record.bytesTransferred
  status := record.status.value

/-- The tables a store of records stands for. -/
def TransferHistoryStore.database (store : TransferHistoryStore) : HistoryDatabase :=
  ⟨schemaVersion, some ⟨true, true, store.transfers.values.map TransferRecord.row⟩,
    some (store.files.values.mapIdx fun index file => file.row (index + 1)), []⟩

/-- A statement of the scripts that `_migrate` runs; each is committed by itself. -/
inductive SchemaStatement where
  | createTransfers
  | createTransferFiles
  | createIndex (name : PyStr)
  | addResumed
  | addResumeOffset
  | setUserVersion (version : Int)

/-- The database after a statement, or nothing where SQLite raises an `OperationalError`. -/
def SchemaStatement.execute (database : HistoryDatabase) : SchemaStatement → Option HistoryDatabase
  | .createTransfers =>
      if database.transfers.isSome then none
      else some { database with transfers := some ⟨false, false, []⟩ }
  | .createTransferFiles =>
      if database.transferFiles.isSome then none
      else some { database with transferFiles := some [] }
  | .createIndex name =>
      if database.transfers.isNone ∨ database.indexes.contains name then none
      else some { database with indexes := database.indexes ++ [name] }
  | .addResumed =>
      match database.transfers with
      | some ⟨false, hasResumeOffset, rows⟩ =>
          some { database with transfers := some ⟨true, hasResumeOffset,
            rows.map fun row => { row with resumed := some 0 }⟩ }
      | _ => none
  | .addResumeOffset =>
      match database.transfers with
      | some ⟨hasResumed, false, rows⟩ =>
          some { database with transfers := some ⟨hasResumed, true,
            rows.map fun row => { row with resumeOffset := some 0 }⟩ }
      | _ => none
  | .setUserVersion version => some { database with userVersion := version }

def versionOneScript : List SchemaStatement :=
  [.createTransfers, .createTransferFiles, .createIndex (py "idx_transfers_peer"),
    .createIndex (py "idx_transfers_started"), .createIndex (py "idx_transfers_status"),
    .setUserVersion 1]

def versionTwoScript : List SchemaStatement :=
  [.addResumed, .addResumeOffset, .setUserVersion 2]

/-- The statements that bring a database of a version to the current one. -/
def migrationScripts (version : Int) : List SchemaStatement :=
  (if version < 1 then versionOneScript else []) ++ (if version < 2 then versionTwoScript else [])

def TransferRow.marked (row : TransferRow) : TransferRow :=
  if (interruptible.map TransferStatus.value).contains row.status then
    { row with status := TransferStatus.interrupted.value }
  else row

/-- The update of the statuses an earlier process left behind. -/
def markInterrupted (database : HistoryDatabase) : Option HistoryDatabase :=
  database.transfers.map fun table =>
    { database with transfers := some { table with rows := table.rows.map TransferRow.marked } }

/-- Statements one after another: what is saved once they end, and whether all succeeded. -/
def executeScript (database : HistoryDatabase) : List SchemaStatement → HistoryDatabase × Bool
  | [] => (database, true)
  | statement :: rest =>
      match statement.execute database with
      | some next => executeScript next rest
      | none => (database, false)

/-- `TransferHistoryStore(path)` on a database: what is saved, and whether the store is available. -/
def openHistory (database : HistoryDatabase) : HistoryDatabase × Bool :=
  if schemaVersion < database.userVersion then (database, false)
  else
    let (current, succeeded) := executeScript database (migrationScripts database.userVersion)
    if succeeded then
      match markInterrupted current with
      | some marked => (marked, true)
      | none => (current, false)
    else (current, false)

/-- What is saved when the process stops after so many statements of `_migrate`. The
update comes after the scripts and is saved by the commit that follows it. -/
def stopHistory (database : HistoryDatabase) (executed : Nat) : HistoryDatabase :=
  let scripts := migrationScripts database.userVersion
  if schemaVersion < database.userVersion then database
  else if executed ≤ scripts.length + 1 then (executeScript database (scripts.take executed)).1
  else (openHistory database).1

end DirectTransfer
