import DirectTransfer.Core.Sender

/-! The background worker of one outgoing batch: hashing, registration, and up
to four sessions with the waits and status changes between them. -/

set_option autoImplicit false

namespace DirectTransfer

open Library

/-- The call a worker stands at. -/
inductive WorkerPhase where
  | isFile (pending valid : List PyStr)
  | stat (pending : List PyStr)
  | hash (path : PyStr) (size : Nat) (pending : List PyStr)
  | register (index : Nat)
  | cancelled (attempt : Nat)
  | backoff (attempt : Nat)
  | session (attempt : Nat) (phase : SendPhase)
  | returned
  | escaped (error : Raised)
  deriving DecidableEq

/-- A worker with the records it registered. -/
structure BatchWorker where
  sending : Sending
  infos : List TransferInfo
  phase : WorkerPhase

/-! ## Status changes -/

/-- The loops that settle every file that is not settled yet; an exception
leaves the files after the one that raised it unchanged. -/
def settle (infos : List TransferInfo) (status : TransferStatus) (error : PyStr) (now : Time) :
    List TransferInfo × Option Raised :=
  match infos with
  | [] => ([], none)
  | info :: rest =>
      if isTerminal info.status then
        let (others, failure) := settle rest status error now
        (info :: others, failure)
      else match transition info status (some error) now with
        | .error failure => (info :: rest, some failure)
        | .ok moved =>
            let (others, failure) := settle rest status error now
            (moved :: others, failure)

def markCancelled (infos : List TransferInfo) (now : Time) : List TransferInfo × Option Raised :=
  settle infos .cancelled (py "Cancelled by user") now

/-- The loop before a retry. -/
def resumeAll (infos : List TransferInfo) (attempt : Nat) (now : Time) :
    List TransferInfo × Option Raised :=
  match infos with
  | [] => ([], none)
  | info :: rest =>
      let counted := { info with retryCount := attempt }
      if isTerminal info.status then
        let (others, failure) := resumeAll rest attempt now
        (counted :: others, failure)
      else match transition counted .resuming none now with
        | .error failure => (counted :: rest, some failure)
        | .ok moved =>
            let (others, failure) := resumeAll rest attempt now
            (moved :: others, failure)

/-! ## Steps -/

/-- Go on in `phase` unless a status change raised. -/
def BatchWorker.proceed (worker : BatchWorker) (changed : List TransferInfo × Option Raised)
    (phase : WorkerPhase) : BatchWorker :=
  { worker with
    infos := changed.1
    phase := match changed.2 with
      | some error => .escaped error
      | none => phase }

/-- What follows the checks that each path is a file. -/
def afterChecks (pending valid : List PyStr) : WorkerPhase :=
  match pending with
  | [] =>
      if valid = [] ∨ maxFilesPerSession < valid.length then .returned else .stat valid
  | pending => .isFile pending valid

/-- The record a worker registers for one of its files. -/
def registeredInfo (sending : Sending) (index : Nat) (source : FileMeta)
    (peerDeviceId : Option PyStr) (now : Time) : TransferInfo where
  filename := source.name
  filesize := source.size
  direction := .send
  peerIp := sending.peerIp
  status := .pendingApproval
  bytesTransferred := 0
  startedAt := now
  error := none
  retryCount := 0
  peerDeviceId
  transferId := sending.transferId
  fileId := some (py "file-" ++ natText index)
  resumeOffset := 0
  bytesTransferredThisAttempt := 0
  completedAt := none
  message := sending.message
  sha256 := some source.sha256
  finalPath := none

/-- The `except` clauses around a session. -/
def BatchWorker.afterSession (worker : BatchWorker) (attempt : Nat) (infos : List TransferInfo)
    (outcome : Except Raised Unit) (now : Time) : BatchWorker :=
  match outcome with
  | .ok () => { worker with infos, phase := .returned }
  | .error error => match error.kind with
    | .transferRejected =>
        worker.proceed (settle infos .rejected (py "Transfer rejected by peer.") now) .returned
    | .approvalTimeout =>
        worker.proceed
          (settle infos .failed (py "Peer did not respond to transfer request.") now) .returned
    | .transferCancelled => worker.proceed (markCancelled infos now) .returned
    | .authenticationError | .protocolError =>
        worker.proceed (settle infos .failed (py "Transfer rejected.") now) .returned
    | .invalidTag =>
        worker.proceed (settle infos .failed (py "Cryptographic authentication failed.") now)
          .returned
    | .osError | .timeoutError =>
        if attempt = maxRetries then
          worker.proceed (settle infos .failed (py "Unable to connect to peer.") now) .returned
        else
          worker.proceed (settle infos .interrupted (py "Connection interrupted") now)
            (.cancelled (attempt + 1))
    | .valueError | .endpointError | .invalidTransferTransition | .keyError | .typeError
    | .structError | .jsonDecodeError | .unicodeDecodeError | .recursionError | .overflowError =>
        { worker with infos, phase := .escaped error }

/-- The code of `_batch_worker` from one call to the next. -/
def workerStep (worker : BatchWorker) (event : Event) : Option BatchWorker :=
  match worker.phase, event.answer with
  | .isFile (path :: pending) valid, .flag isFile =>
      some { worker with
        phase := afterChecks pending (if isFile then valid ++ [path] else valid) }
  | .stat (path :: pending), .size size =>
      some { worker with
        phase := if maxFileSize < size then .returned else .hash path size pending }
  | .hash path size pending, .text digest =>
      let fileMeta := worker.sending.fileMeta ++
        [⟨pathName worker.sending.platform path, size, digest⟩]
      some { worker with
        sending := { worker.sending with fileMeta }
        phase := match pending with
          | [] =>
              if maxSessionSize < (fileMeta.map FileMeta.size).sum then .returned else .register 0
          | pending => .stat pending }
  | .stat _, .raised error | .hash _ _ _, .raised error =>
      some { worker with phase := .escaped error }
  | .register index, .peer peerDeviceId =>
      worker.sending.fileMeta[index]?.map fun source =>
        { worker with
          infos := worker.infos ++
            [registeredInfo worker.sending index source peerDeviceId event.now]
          phase := if index + 1 < worker.sending.fileMeta.length then .register (index + 1)
            else .cancelled 0 }
  | .cancelled attempt, .flag cancelled =>
      if cancelled then some (worker.proceed (markCancelled worker.infos event.now) .returned)
      else some { worker with
        phase := if attempt = 0 then .session 0 .assertPeerProtocol else .backoff attempt }
  | .backoff attempt, .flag cancelled =>
      if cancelled then some (worker.proceed (markCancelled worker.infos event.now) .returned)
      else some (worker.proceed (resumeAll worker.infos attempt event.now)
        (.session attempt .assertPeerProtocol))
  | .session attempt phase, _ =>
      (sessionStep worker.sending worker.infos phase event).map fun (infos, progress) =>
        match progress with
        | .stands phase => { worker with infos, phase := .session attempt phase }
        | .ended outcome => worker.afterSession attempt infos outcome event.now
  | _, _ => none

/-- A worker at the start of `_batch_worker`. -/
def BatchWorker.start (platform : Platform) (peerIp transferId : PyStr) (message : Option PyStr)
    (paths : List PyStr) : BatchWorker :=
  ⟨⟨platform, peerIp, message, transferId, []⟩, [], afterChecks paths []⟩

end DirectTransfer
