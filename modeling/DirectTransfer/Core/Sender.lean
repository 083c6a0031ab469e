import DirectTransfer.Core.Lifecycle
import DirectTransfer.Core.Protocol

/-! One sending session, as a machine that moves from one external call to the
next. Each step takes the answer of the call the session stands at and runs the
code up to the next call. -/

set_option autoImplicit false

namespace DirectTransfer

open Library

/-! ## Calls -/

/-- What a call answers: it returns, or it raises. -/
inductive Answer where
  | done
  | flag (value : Bool)
  | size (value : Nat)
  | text (value : PyStr)
  | peer (deviceId : Option PyStr)
  | control (payload : Json)
  | octets (raw : Bytes)
  | raised (error : Raised)
  deriving DecidableEq

/-- An answer with the clock reading of the code that runs after it. -/
structure Event where
  now : Time
  answer : Answer
  deriving DecidableEq

/-- Exceptions only the session code itself raises; no call answers with them. -/
def ErrorKind.isInternal : ErrorKind → Bool
  | .transferRejected | .approvalTimeout | .transferCancelled | .invalidTransferTransition => true
  | _ => false

/-! ## The session -/

/-- The arguments of a batch that stay the same over all its sessions. -/
structure Sending where
  platform : Platform
  peerIp : PyStr
  message : Option PyStr
  transferId : PyStr
  fileMeta : List FileMeta

namespace Sending

def files (sending : Sending) : List IncomingFile := announcedFiles sending.fileMeta

def offerFrame (sending : Sending) : Json :=
  DirectTransfer.offerFrame sending.transferId sending.files sending.message

end Sending

/-- What the per-file loop works with. -/
structure Payload where
  offer : TransferOffer
  offsets : Dict PyStr Nat
  deriving DecidableEq

/-- The call a session stands at. -/
inductive SendPhase where
  | assertPeerProtocol
  | connect
  | resolveTrustedPeer
  | clientHandshake
  | transferOffer
  | approvalDeadline
  | approvalCancelled
  | approvalCancel
  | transferResponse
  | resumeQuery (offer : TransferOffer)
  | resumeState (offer : TransferOffer)
  | fileStart (payload : Payload) (file : Nat)
  | openFile (payload : Payload) (file : Nat)
  | chunkCancelled (payload : Payload) (file chunk : Nat)
  | chunkCancel
  | read (payload : Payload) (file chunk : Nat)
  | chunkHeader (payload : Payload) (file chunk : Nat) (raw : Bytes)
  | chunkData (payload : Payload) (file chunk : Nat) (raw : Bytes)
  | fileEnd (payload : Payload) (file : Nat)
  | fileResult (payload : Payload) (file : Nat)
  | fin (offer : TransferOffer)
  | sessionComplete (offer : TransferOffer)
  deriving DecidableEq

/-- Where the code after a call leaves the session. -/
inductive Progress where
  | stands (phase : SendPhase)
  | ended (outcome : Except Raised Unit)

/-- The assignments at the top of a file's block; the flag says what was raised. -/
def beginFile (info : TransferInfo) (offset : Nat) (now : Time) : TransferInfo × Option Raised :=
  let info := { info with
    resumeOffset := offset
    bytesTransferred := offset
    bytesTransferredThisAttempt := 0 }
  if isTerminal info.status then (info, none)
  else match transition info (if offset ≠ 0 then .resuming else .active) none now with
    | .error error => (info, some error)
    | .ok moved =>
        if moved.status = .resuming then
          match transition moved .active none now with
          | .error error => (moved, some error)
          | .ok active => (active, none)
        else (moved, none)

/-- Enter the block of a file, or leave the loop after the last one. -/
def enterFile (infos : List TransferInfo) (payload : Payload) (file : Nat) (now : Time) :
    List TransferInfo × Progress :=
  match infos[file]?, payload.offer.files[file]? with
  | some info, some offered =>
      match payload.offsets.get offered.fileId with
      | none => (infos, .ended (.error ⟨.keyError, offered.fileId⟩))
      | some offset =>
          let (begun, failure) := beginFile info offset now
          (infos.set file begun, match failure with
            | some error => .ended (.error error)
            | none => .stands (.fileStart payload file))
  | _, _ => (infos, .stands (.fin payload.offer))

/-- The condition of the chunk loop. -/
def chunkLoop (sending : Sending) (infos : List TransferInfo) (payload : Payload)
    (file chunk : Nat) : Progress :=
  match infos[file]?, sending.fileMeta[file]? with
  | some info, some source =>
      if info.bytesTransferred < source.size then .stands (.chunkCancelled payload file chunk)
      else .stands (.fileEnd payload file)
  | _, _ => .stands (.fileEnd payload file)

/-- Mark the files still waiting for the answer as accepted. -/
def acceptPending (infos : List TransferInfo) (now : Time) : List TransferInfo × Option Raised :=
  match infos with
  | [] => ([], none)
  | info :: rest =>
      if info.status = .pendingApproval then
        match transition info .accepted none now with
        | .error error => (info :: rest, some error)
        | .ok accepted =>
            let (others, failure) := acceptPending rest now
            (accepted :: others, failure)
      else
        let (others, failure) := acceptPending rest now
        (info :: others, failure)

/-- The code that follows the receiver's answer to the offer. -/
def afterResponse (sending : Sending) (infos : List TransferInfo) (payload : Json) (now : Time) :
    List TransferInfo × Progress :=
  match validateResponse payload sending.transferId with
  | .error error => (infos, .ended (.error error))
  | .ok (false, reason) =>
      if reason = some (py "Transfer request expired") then
        (infos, .ended (.error (raised .approvalTimeout "Transfer request expired")))
      else
        (infos, .ended (.error ⟨.transferRejected, match reason with
          | some (first :: rest) => first :: rest
          | _ => py "Rejected by user"⟩))
  | .ok (true, _) =>
      let (accepted, failure) := acceptPending infos now
      (accepted, match failure with
        | some error => .ended (.error error)
        | none => match validateOffer sending.platform sending.offerFrame with
          | .error error => .ended (.error error)
          | .ok offer => .stands (.resumeQuery offer))

/-- The receiver's word that a file was verified and stored. -/
def acknowledges (transferId fileId : PyStr) (result : Json) : Bool :=
  result.field "type" = .str (py "file_result") &&
    result.field "transfer_id" = .str transferId && result.field "file_id" = .str fileId &&
    result.field "ok" = .bool true

/-- The code that follows the verdict on a file. -/
def afterResult (infos : List TransferInfo) (payload : Payload) (file : Nat) (result : Json)
    (now : Time) : List TransferInfo × Progress :=
  match infos[file]?, payload.offer.files[file]? with
  | some info, some offered =>
      if acknowledges payload.offer.transferId offered.fileId result then
        match transition info .complete none now with
        | .error error => (infos, .ended (.error error))
        | .ok complete => enterFile (infos.set file complete) payload (file + 1) now
      else (infos, .ended (.error (raised .protocolError "Receiver failed file verification")))
  | _, _ => (infos, .stands (.fin payload.offer))

/-- One chunk has been handed to the connection. -/
def countChunk (infos : List TransferInfo) (file : Nat) (raw : Bytes) : List TransferInfo :=
  infos.modify file fun info => { info with
    bytesTransferred := info.bytesTransferred + raw.length
    bytesTransferredThisAttempt := info.bytesTransferredThisAttempt + raw.length }

/-- The code of `_send_session` from one call to the next. -/
def sessionStep (sending : Sending) (infos : List TransferInfo) (phase : SendPhase)
    (event : Event) : Option (List TransferInfo × Progress) :=
  match phase, event.answer with
  | .transferResponse, .raised error =>
      if error.kind.isInternal then none
      else if error.kind = .timeoutError then some (infos, .stands .approvalDeadline)
      else some (infos, .ended (.error error))
  | _, .raised error =>
      if error.kind.isInternal then none else some (infos, .ended (.error error))
  | .assertPeerProtocol, .done => some (infos, .stands .connect)
  | .connect, .done => some (infos, .stands .resolveTrustedPeer)
  | .resolveTrustedPeer, .done => some (infos, .stands .clientHandshake)
  | .clientHandshake, .done => some (infos, .stands .transferOffer)
  | .transferOffer, .done => some (infos, .stands .approvalDeadline)
  | .approvalDeadline, .flag before =>
      if before then some (infos, .stands .approvalCancelled)
      else some (infos, .ended (.error
        (raised .approvalTimeout "Peer did not respond to transfer request")))
  | .approvalCancelled, .flag cancelled =>
      some (infos, .stands (if cancelled then .approvalCancel else .transferResponse))
  | .approvalCancel, .done | .chunkCancel, .done =>
      some (infos, .ended (.error (raised .transferCancelled "Transfer cancelled")))
  | .transferResponse, .control payload => some (afterResponse sending infos payload event.now)
  | .resumeQuery offer, .done => some (infos, .stands (.resumeState offer))
  | .resumeState offer, .control payload =>
      match validateResumeState payload offer with
      | .error error => some (infos, .ended (.error error))
      | .ok offsets => some (enterFile infos ⟨offer, offsets⟩ 0 event.now)
  | .fileStart payload file, .done => some (infos, .stands (.openFile payload file))
  | .openFile payload file, .done =>
      match infos[file]? with
      | some info =>
          some (infos, chunkLoop sending infos payload file (info.resumeOffset / chunkSize))
      | none => none
  | .chunkCancelled payload file chunk, .flag cancelled =>
      some (infos, .stands (if cancelled then .chunkCancel else .read payload file chunk))
  | .read payload file chunk, .octets raw =>
      if chunkSize < raw.length then none
      else if raw = [] then some (infos, .ended (.error
        (raised .protocolError "Source file changed during transfer")))
      else some (infos, .stands (.chunkHeader payload file chunk raw))
  | .chunkHeader payload file chunk raw, .done =>
      some (infos, .stands (.chunkData payload file chunk raw))
  | .chunkData payload file chunk raw, .done =>
      let counted := countChunk infos file raw
      some (counted, chunkLoop sending counted payload file (chunk + 1))
  | .fileEnd payload file, .done => some (infos, .stands (.fileResult payload file))
  | .fileResult payload file, .control result =>
      some (afterResult infos payload file result event.now)
  | .fin offer, .done => some (infos, .stands (.sessionComplete offer))
  | .sessionComplete offer, .control result =>
      if (control "session_complete" offer.transferId).pyEq result then
        some (infos, .ended (.ok ()))
      else some (infos, .ended (.error (raised .protocolError "Invalid session completion")))
  | _, _ => none

/-- The control frame a phase hands to the connection. -/
def SendPhase.frame (sending : Sending) (infos : List TransferInfo) : SendPhase → Option Json
  | .transferOffer => some sending.offerFrame
  | .approvalCancel | .chunkCancel => some (control "cancel" sending.transferId)
  | .resumeQuery offer => some (DirectTransfer.resumeQuery offer)
  | .fileStart payload file => payload.offer.files[file]?.map fun offered =>
      fileControl "file_start" payload.offer.transferId offered.fileId
  | .chunkHeader payload file chunk raw => do
      let info ← infos[file]?
      let offered ← payload.offer.files[file]?
      return DirectTransfer.chunkHeader payload.offer.transferId offered.fileId chunk
        info.bytesTransferred raw.length
  | .fileEnd payload file => payload.offer.files[file]?.map fun offered =>
      fileControl "file_end" payload.offer.transferId offered.fileId
  | .fin offer => some (control "fin" offer.transferId)
  | _ => none

end DirectTransfer
