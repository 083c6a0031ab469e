import DirectTransfer.Core.Lifecycle
import DirectTransfer.Core.Protocol

/-! Receiving sessions from the accepted offer to their end, over the records
they share. Each step takes the answer of the call a session stands at and runs
the code up to the next call. -/

set_option autoImplicit false

namespace DirectTransfer

open Library

/-! ## Calls -/

/-- A committed file: the text of its path and its last component. -/
structure FinalPath where
  text : PyStr
  name : PyStr
  deriving DecidableEq

/-- What `prepare` says of a file; without a final path its partial is to be continued. -/
structure ResumeFileState where
  offset : Nat
  finalPath : Option FinalPath
  deriving DecidableEq

/-- What a call of a receiving session answers. -/
inductive ReceiveAnswer where
  | done
  | control (payload : Json)
  | octets (raw : Bytes)
  | prepared (states : Dict PyStr ResumeFileState)
  | digest (text : PyStr)
  | committed (finalPath : FinalPath)
  | raised (error : Raised)

/-- An answer with the clock reading of the code that runs after it. -/
structure ReceiveEvent where
  now : Time
  answer : ReceiveAnswer

/-- The exceptions frames, files and metadata can raise. -/
def ErrorKind.isCallFailure : ErrorKind → Bool
  | .osError | .timeoutError | .protocolError | .invalidTag | .valueError => true
  | _ => false

/-! ## Records -/

/-- Every receiving record, with the place of each file of each transfer. -/
structure Registry where
  transfers : List TransferInfo
  index : Dict (PyStr × PyStr) Nat
  indexed : ∀ key record, index.get key = some record → record < transfers.length

namespace Registry

def empty : Registry := ⟨[], Dict.empty, fun _ _ found => nomatch found⟩

def set (registry : Registry) (record : Nat) (info : TransferInfo) : Registry where
  transfers := registry.transfers.set record info
  index := registry.index
  indexed key place found := by
    rw [List.length_set]
    exact registry.indexed key place found

def update (registry : Registry) (record : Nat) (change : TransferInfo → TransferInfo) : Registry :=
  match registry.transfers[record]? with
  | some info => registry.set record (change info)
  | none => registry

/-- A further record, under its key. -/
def append (registry : Registry) (key : PyStr × PyStr) (info : TransferInfo) : Registry where
  transfers := registry.transfers ++ [info]
  index := registry.index.set key registry.transfers.length
  indexed other place found := by
    rw [List.length_append, List.length_singleton]
    rw [Dict.get_set] at found
    split at found
    · cases found
      exact Nat.lt_succ_self _
    · exact Nat.lt_succ_of_lt (registry.indexed other place found)

/-- Whether a record has the given status. -/
def hasStatus (registry : Registry) (record : Nat) (status : TransferStatus) : Bool :=
  registry.transfers[record]?.any fun info => info.status = status

/-- A guarded transition of a record, without force. -/
def setStatus (registry : Registry) (record : Nat) (status : TransferStatus)
    (error : Option PyStr) (now : Time) : Except Raised Registry :=
  match registry.transfers[record]? with
  | none => .ok registry
  | some info => match transition info status error now with
    | .error error => .error error
    | .ok moved => .ok (registry.set record moved)

end Registry

/-- What every record of a session is made of. -/
structure Origin where
  peerIp : PyStr
  peerDeviceId : PyStr
  offer : TransferOffer

/-- The record of a file that has not been seen before. -/
def newRecord (origin : Origin) (offered : IncomingFile) (resumeOffset : Nat) (now : Time) :
    TransferInfo where
  filename := offered.name
  filesize := offered.size
  direction := .recv
  peerIp := origin.peerIp
  status := if resumeOffset ≠ 0 then .resuming else .active
  bytesTransferred := resumeOffset
  startedAt := now
  error := none
  retryCount := 0
  peerDeviceId := some origin.peerDeviceId
  transferId := origin.offer.transferId
  fileId := some offered.fileId
  resumeOffset
  bytesTransferredThisAttempt := 0
  completedAt := none
  message := origin.offer.message
  sha256 := some offered.sha256
  finalPath := none

/-- A known record at the start of another attempt. -/
def resumeRecord (info : TransferInfo) (sha256 : PyStr) (resumeOffset : Nat) (now : Time) :
    Except Raised TransferInfo := do
  let begun ← if isTerminal info.status then pure info else do
    let resuming ← transition info .resuming none now
    pure { resuming with error := none, finalPath := none, completedAt := none }
  return { begun with
    resumeOffset
    bytesTransferred := resumeOffset
    bytesTransferredThisAttempt := 0
    sha256 := if sha256 ≠ [] ∧ (begun.sha256 = none ∨ begun.sha256 = some []) then some sha256
      else begun.sha256 }

/-- `_get_or_create_v3_transfer` up to its notification. -/
def getOrCreate (registry : Registry) (origin : Origin) (offered : IncomingFile)
    (resumeOffset : Nat) (now : Time) : Except Raised (Registry × Nat) :=
  let key := (origin.offer.transferId, offered.fileId)
  match found : registry.index.get key with
  | none =>
      .ok (registry.append key (newRecord origin offered resumeOffset now), registry.transfers.length)
  | some record =>
      let existing := registry.transfers.get ⟨record, registry.indexed key record found⟩
      match resumeRecord existing offered.sha256 resumeOffset now with
      | .error error => .error error
      | .ok resumed => .ok (registry.set record resumed, record)

/-! ## Sessions -/

/-- What the block of a file works with. -/
structure FileBlock where
  states : Dict PyStr ResumeFileState
  file : Nat
  offered : IncomingFile
  record : Nat

/-- The calls inside the block of a file. -/
inductive BlockCall where
  | openPartial
  | chunk (index : Nat)
  | chunkData (index declared : Nat)
  | write (index : Nat) (raw : Bytes)
  | progress (index : Nat)
  | fileEnd
  | hash
  | hashMismatch
  | commit
  | markCompleted (finalPath : FinalPath)
  | knownEnd (finalPath : FinalPath)
  | sendResult (finalPath : FinalPath)
  | completed

/-- The call a session stands at; `created`, `progress`, `completed` and
`settling` are notifications. -/
inductive ReceivePhase where
  | resumeQuery
  | prepare
  | resumeState (states : Dict PyStr ResumeFileState)
  | fileStart (states : Dict PyStr ResumeFileState) (file : Nat)
  | created (block : FileBlock)
  | inside (block : FileBlock) (call : BlockCall)
  | settling (block : FileBlock) (outcome : Except Raised Unit)
  | fin
  | sessionComplete
  | completeSession
  | ended (outcome : Except Raised Unit)

/-- A session; beyond what the code keeps, the records it has created or resumed,
those among them it has changed since its last notification, and the exception
a call or a check of its own raised. -/
structure ReceiveSession where
  origin : Origin
  phase : ReceivePhase
  touched : List Nat
  unnotified : List Nat
  failure : Option Raised

/-- The code after an answer: it comes to a call, or raises. -/
abbrev Advance := Registry × Except Raised ReceiveSession

namespace ReceiveSession

def moveTo (session : ReceiveSession) (phase : ReceivePhase) : ReceiveSession :=
  { session with phase }

def transferId (session : ReceiveSession) : PyStr := session.origin.offer.transferId

/-- A status change of the session's own, remembered until it is notified. -/
def setStatus (registry : Registry) (session : ReceiveSession) (record : Nat)
    (status : TransferStatus) (error : Option PyStr) (now : Time) :
    Except Raised (Registry × ReceiveSession) :=
  match registry.setStatus record status error now with
  | .error error => .error error
  | .ok next => .ok (next, if registry.hasStatus record status then session
      else { session with unnotified := record :: session.unnotified })

/-- The head of the loop over the files. -/
def nextFile (session : ReceiveSession) (states : Dict PyStr ResumeFileState) (file : Nat) :
    ReceiveSession :=
  session.moveTo (if file < session.origin.offer.files.length then .fileStart states file else .fin)

/-- The condition of the chunk loop. -/
def chunkLoop (registry : Registry) (session : ReceiveSession) (block : FileBlock) (index : Nat) :
    ReceiveSession :=
  match registry.transfers[block.record]? with
  | some info =>
      session.moveTo (.inside block (if info.bytesTransferred < block.offered.size then
        .chunk index else .fileEnd))
  | none => session.moveTo (.inside block .fileEnd)

/-- The code that follows `file_start`. -/
def beginFile (registry : Registry) (session : ReceiveSession)
    (states : Dict PyStr ResumeFileState) (file : Nat) (payload : Json) (now : Time) : Advance :=
  match session.origin.offer.files[file]? with
  | none => (registry, .ok session)
  | some offered =>
      if payload.field "type" = .str (py "cancel") then
        (registry, .error (raised .transferCancelled "Transfer cancelled by peer"))
      else if payload.field "type" ≠ .str (py "file_start") ∨
          payload.field "transfer_id" ≠ .str session.transferId ∨
          payload.field "file_id" ≠ .str offered.fileId then
        (registry, .error (raised .protocolError "Invalid file start"))
      else match states.get offered.fileId with
        | none => (registry, .error ⟨.keyError, offered.fileId⟩)
        | some state => match getOrCreate registry session.origin offered state.offset now with
          | .error error => (registry, .error error)
          | .ok (next, record) => (next, .ok { session with
              phase := .created ⟨states, file, offered, record⟩
              touched := record :: session.touched
              unnotified := record :: session.unnotified })

/-- The first statements of a file's block. -/
def enterBlock (registry : Registry) (session : ReceiveSession) (block : FileBlock) (now : Time) :
    Advance :=
  match (block.states.get block.offered.fileId).bind ResumeFileState.finalPath with
  | some finalPath => (registry, .ok (session.moveTo (.inside block (.knownEnd finalPath))))
  | none => match setStatus registry session block.record .active none now with
    | .error error => (registry, .error error)
    | .ok (next, session) => (next, .ok (session.moveTo (.inside block .openPartial)))

/-- The check of one chunk header. -/
def checkChunk (registry : Registry) (session : ReceiveSession) (block : FileBlock) (index : Nat)
    (payload : Json) : Except Raised Nat :=
  if payload.field "type" = .str (py "cancel") then
    if payload.field "transfer_id" ≠ .str session.transferId then
      .error (raised .protocolError "Cancel transfer ID mismatch")
    else .error (raised .transferCancelled "Transfer cancelled by peer")
  else match registry.transfers[block.record]? with
    | none => .error (raised .protocolError "Invalid chunk metadata")
    | some info => validateChunkControl payload session.transferId block.offered.fileId index
        info.bytesTransferred (block.offered.size - info.bytesTransferred)

/-- `_expect_file_end` -/
def expectFileEnd (session : ReceiveSession) (block : FileBlock) (payload : Json) :
    Except Raised Unit :=
  if (fileControl "file_end" session.transferId block.offered.fileId).pyEq payload then .ok ()
  else .error (raised .protocolError "Invalid file finish")

/-- The statements between a file's verification and its result. -/
def verified (registry : Registry) (session : ReceiveSession) (block : FileBlock)
    (finalPath : FinalPath) (now : Time) : Advance :=
  let registry := registry.update block.record fun info =>
    { info with bytesTransferred := block.offered.size, finalPath := some finalPath.text }
  match setStatus registry session block.record .complete none now with
  | .error error => (registry, .error error)
  | .ok (next, session) => (next, .ok (session.moveTo (.inside block (.sendResult finalPath))))

/-- The calls inside a block. -/
def advanceInside (registry : Registry) (session : ReceiveSession) (block : FileBlock)
    (call : BlockCall) (event : ReceiveEvent) : Option Advance :=
  let stands (call : BlockCall) : Option Advance :=
    some (registry, .ok (session.moveTo (.inside block call)))
  match call, event.answer with
  | .progress index, .done =>
      some (registry, .ok (chunkLoop registry { session with unnotified := [] } block (index + 1)))
  | .completed, .done =>
      some (registry, .ok (nextFile { session with unnotified := [] } block.states (block.file + 1)))
  | .progress _, _ | .completed, _ => none
  | _, .raised error => if error.kind.isCallFailure then some (registry, .error error) else none
  | .openPartial, .done => match registry.transfers[block.record]? with
    | some info =>
        some (registry, .ok (chunkLoop registry session block (info.bytesTransferred / chunkSize)))
    | none => none
  | .chunk index, .control payload => match checkChunk registry session block index payload with
    | .error error => some (registry, .error error)
    | .ok declared => stands (.chunkData index declared)
  | .chunkData index declared, .octets raw =>
      if raw.length ≠ declared then
        some (registry, .error (raised .protocolError "Chunk length mismatch"))
      else stands (.write index raw)
  | .write index raw, .done =>
      some (registry.update block.record fun info => { info with
          bytesTransferred := info.bytesTransferred + raw.length
          bytesTransferredThisAttempt := info.bytesTransferredThisAttempt + raw.length },
        .ok (session.moveTo (.inside block (.progress index))))
  | .fileEnd, .control payload => match expectFileEnd session block payload with
    | .error error => some (registry, .error error)
    | .ok () => stands .hash
  | .hash, .digest text => stands (if text ≠ block.offered.sha256 then .hashMismatch else .commit)
  | .hashMismatch, .done =>
      some (registry, .error (raised .protocolError "SHA-256 verification failed"))
  | .commit, .committed finalPath => stands (.markCompleted finalPath)
  | .markCompleted finalPath, .done => some (verified registry session block finalPath event.now)
  | .knownEnd finalPath, .control payload => match expectFileEnd session block payload with
    | .error error => some (registry, .error error)
    | .ok () => some (verified registry session block finalPath event.now)
  | .sendResult _, .done => stands .completed
  | _, _ => none

/-- The code from one call to the next, up to an exception. -/
def advance (registry : Registry) (session : ReceiveSession) (event : ReceiveEvent) :
    Option Advance :=
  match session.phase, event.answer with
  | .created block, .done =>
      some (enterBlock registry { session with unnotified := [] } block event.now)
  | .settling _ outcome, .done =>
      some (registry, .ok { session with phase := .ended outcome, unnotified := [] })
  | .created _, _ | .settling _ _, _ | .ended _, _ => none
  | .inside block call, _ => advanceInside registry session block call event
  | _, .raised error => if error.kind.isCallFailure then some (registry, .error error) else none
  | .resumeQuery, .control payload => match validateResumeQuery payload session.origin.offer with
    | .error error => some (registry, .error error)
    | .ok () => some (registry, .ok (session.moveTo .prepare))
  | .prepare, .prepared states =>
      if session.origin.offer.files.all fun offered => (states.get offered.fileId).isSome then
        some (registry, .ok (session.moveTo (.resumeState states)))
      else none
  | .resumeState states, .done => some (registry, .ok (nextFile session states 0))
  | .fileStart states file, .control payload =>
      some (beginFile registry session states file payload event.now)
  | .fin, .control payload =>
      if (control "fin" session.transferId).pyEq payload then
        some (registry, .ok (session.moveTo .sessionComplete))
      else some (registry, .error (raised .protocolError "Invalid session finish"))
  | .sessionComplete, .done => some (registry, .ok (session.moveTo .completeSession))
  | .completeSession, .done => some (registry, .ok (session.moveTo (.ended (.ok ()))))
  | _, _ => none

/-- The block whose handlers see what is raised next. -/
def block? (session : ReceiveSession) : Option FileBlock :=
  match session.phase with
  | .created block | .inside block _ => some block
  | _ => none

/-- The status the handlers of a file's block set, and its error text. -/
def handlerStatus (error : Raised) : Option (TransferStatus × PyStr) :=
  if error.kind = .transferCancelled then some (.cancelled, error.message)
  else if error.kind.isProtocolError || error.kind = .invalidTag || error.kind.isValueError then
    some (.failed, error.message)
  else if error.kind.isOSError then some (.interrupted, py "Connection interrupted")
  else none

/-- What the handlers of a file's block leave the session with. -/
def settledOutcome (error : Raised) : Except Raised Unit :=
  if error.kind = .transferCancelled then .ok () else .error error

/-- An exception on its way out of the session. -/
def leave (registry : Registry) (session : ReceiveSession) (error : Raised) (now : Time) :
    Registry × ReceiveSession :=
  let session := { session with failure := some error }
  match session.block?, handlerStatus error with
  | some block, some (status, message) =>
      match setStatus registry session block.record status (some message) now with
      | .error transitionError => (registry, session.moveTo (.ended (.error transitionError)))
      | .ok (next, session) => (next, session.moveTo (.settling block (settledOutcome error)))
  | _, _ => (registry, session.moveTo (.ended (.error error)))

def step (registry : Registry) (session : ReceiveSession) (event : ReceiveEvent) :
    Option (Registry × ReceiveSession) :=
  match session.advance registry event with
  | none => none
  | some (next, .ok moved) => some (next, moved)
  | some (next, .error error) => some (session.leave next error event.now)

end ReceiveSession

/-! ## All sessions -/

structure Receiving where
  registry : Registry
  sessions : List ReceiveSession

inductive ReceiveLabel where
  | accept (peerIp peerDeviceId : PyStr) (payload : Json)
  | session (index : Nat) (event : ReceiveEvent)

/-- A session begins with an accepted offer, or goes on to its next call. -/
def receiveStep (platform : Platform) (state : Receiving) : ReceiveLabel → Option Receiving
  | .accept peerIp peerDeviceId payload => match validateOffer platform payload with
    | .error _ => none
    | .ok offer => some { state with sessions := state.sessions ++
        [⟨⟨peerIp, peerDeviceId, offer⟩, .resumeQuery, [], [], none⟩] }
  | .session index event => do
      let session ← state.sessions[index]?
      let (registry, session) ← session.step state.registry event
      return ⟨registry, state.sessions.set index session⟩

def Receiving.start : Receiving := ⟨.empty, []⟩

end DirectTransfer
