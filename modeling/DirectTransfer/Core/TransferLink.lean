import DirectTransfer.Core.BatchWorker
import DirectTransfer.Core.StoredReceiver
import DirectTransfer.Library.Channel

/-! A sending worker and a receiver with its disk, and the connections between them. A
connection carries decrypted frames: they arrive in order and unchanged, or not at all. -/

set_option autoImplicit false

namespace DirectTransfer

open Library

/-! ## Connections -/

inductive WireFrame where
  | control (payload : Json)
  | octets (raw : Bytes)

/-- A frame as the call that reads it answers. -/
def WireFrame.answer : WireFrame → ReceiveAnswer
  | .control payload => .control payload
  | .octets raw => .octets raw

/-- The receiver's end of a connection: its offer has not been answered, a session has
taken it, or it is closed. -/
inductive WireEnd where
  | unanswered
  | session (index : Nat)
  | closed
  deriving DecidableEq

structure Wire where
  frames : Channel WireFrame
  answers : Channel Json
  receiver : WireEnd

namespace Wire

def fresh : Wire := ⟨.empty, .empty, .unanswered⟩

def send (wire : Wire) (frame : WireFrame) : Wire := { wire with frames := wire.frames.send frame }

def reply (wire : Wire) (payload : Json) : Wire :=
  { wire with answers := wire.answers.send payload }

/-- What the session at its end sends. -/
def replyOf (index : Nat) (payload : Json) (wire : Wire) : Wire :=
  if wire.receiver = .session index then wire.reply payload else wire

def close (wire : Wire) : Wire := { wire with receiver := .closed }

end Wire

/-! ## The frames of a session -/

/-- The frame a call of the sender hands to its connection. -/
def SendPhase.wireFrame (sending : Sending) (infos : List TransferInfo) :
    SendPhase → Option WireFrame
  | .chunkData _ _ _ raw => some (.octets raw)
  | phase => (phase.frame sending infos).map .control

def fileResult (transferId fileId : PyStr) (ok : Bool) (detail : PyStr × Json) : Json :=
  .obj [(py "type", .str (py "file_result")), (py "transfer_id", .str transferId),
    (py "file_id", .str fileId), (py "ok", .bool ok), detail]

/-- The control frame a call of the receiver hands to its connection. -/
def ReceivePhase.frame (offer : TransferOffer) : ReceivePhase → Option Json
  | .resumeState states =>
      some (DirectTransfer.resumeState offer fun fileId =>
        (states.get fileId).elim 0 ResumeFileState.offset)
  | .inside block .hashMismatch =>
      some (fileResult offer.transferId block.offered.fileId false
        (py "reason", .str (py "SHA-256 verification failed")))
  | .inside block (.sendResult finalPath) =>
      some (fileResult offer.transferId block.offered.fileId true (py "name", .str finalPath.name))
  | .sessionComplete => some (control "session_complete" offer.transferId)
  | _ => none

/-! ## Both ends -/

/-- `wire` is the connection of the worker's last attempt, `position` that of the source
file it has opened last. -/
structure TransferLink where
  worker : BatchWorker
  wire : Nat
  position : Nat
  wires : List Wire
  receiver : StoredReceiver

inductive LinkLabel where
  | sender (event : Event) (written : Bool)
  | respond (wire : Nat) (accepted : Bool) (reason : Option PyStr) (peerIp peerDeviceId : PyStr)
  | deliver (wire : Nat) (now : Time)
  | receiver (label : StoredLabel) (written : Bool)

namespace TransferLink

variable (host : StoreHost) (platform : Platform) (source : IncomingFile → Bytes)

/-- The frame of the call, if it has one, on the worker's connection. -/
def send (link : TransferLink) (phase : SendPhase) : TransferLink :=
  match phase.wireFrame link.worker.sending link.worker.infos with
  | some frame => { link with wires := link.wires.modify link.wire (·.send frame) }
  | none => link

/-- The next answer on the worker's connection. -/
def hear (link : TransferLink) (payload : Json) : Option TransferLink := do
  let wire ← link.wires[link.wire]?
  let (answer, answers) ← wire.answers.receive?
  if answer = payload then
    return { link with wires := link.wires.set link.wire { wire with answers } }
  else none

/-- What a call of the worker's session does outside of it, where it can answer so. A call
that raises may have handed over its frame all the same. -/
def call (link : TransferLink) (phase : SendPhase) (answer : Answer) (written : Bool) :
    Option TransferLink :=
  match phase, answer with
  | .connect, .done =>
      some { link with wires := link.wires ++ [.fresh], wire := link.wires.length }
  | .openFile _ file, .done => do
      let info ← link.worker.infos[file]?
      return { link with position := info.resumeOffset }
  | .read payload file _, .octets raw => do
      let offered ← payload.offer.files[file]?
      if raw = ((source offered).drop link.position).take raw.length then
        return { link with position := link.position + raw.length }
      else none
  | _, .control payload => link.hear payload
  | _, .raised _ => some (if written then link.send phase else link)
  | _, .done => some (link.send phase)
  | _, _ => some link

/-- What the worker does to its connection and its source file before it goes on. -/
def effect (link : TransferLink) (event : Event) (written : Bool) : Option TransferLink :=
  match link.worker.phase with
  | .session _ phase => link.call source phase event.answer written
  | _ => some link

/-- A step of the worker. -/
def senderStep (link : TransferLink) (event : Event) (written : Bool) : Option TransferLink := do
  let called ← link.effect source event written
  let worker ← workerStep link.worker event
  return { called with worker }

/-- The frame of the call a session stands at, if it has one, on the session's connection. -/
def reply (link : TransferLink) (index : Nat) : TransferLink :=
  match (link.receiver.sessions[index]?).bind fun stored =>
      stored.session.phase.frame stored.session.origin.offer with
  | some payload => { link with wires := link.wires.map (Wire.replyOf index payload) }
  | none => link

/-- What a step of the receiver other than reading a frame does to the connections. -/
def replies (link : TransferLink) (label : StoredLabel) (written : Bool) : TransferLink :=
  match label with
  | .network index ⟨_, .done⟩ => link.reply index
  | .network index ⟨_, .raised _⟩ => if written then link.reply index else link
  | .restart => { link with wires := link.wires.map Wire.close }
  | _ => link

/-- Whether a step reads a frame off a connection. -/
def reads (link : TransferLink) : StoredLabel → Bool
  | .network index ⟨_, .control _⟩ | .network index ⟨_, .octets _⟩ =>
      link.wires.any fun wire => wire.receiver = .session index
  | _ => false

end TransferLink

/-! ## Steps -/

/-- The worker goes on; the receiver reads an offer and answers it; a session reads the
next frame of its connection; the receiver does something else. -/
def linkStep (host : StoreHost) (platform : Platform) (source : IncomingFile → Bytes)
    (link : TransferLink) : LinkLabel → Option TransferLink
  | .sender event written => link.senderStep source event written
  | .respond wire accepted reason peerIp peerDeviceId => do
      let there ← link.wires[wire]?
      let (frame, frames) ← there.frames.receive?
      match there.receiver, frame with
      | .unanswered, .control payload =>
          match validateOffer platform payload with
          | .error _ => none
          | .ok offer => match buildResponse offer.transferId accepted reason with
            | .error _ => none
            | .ok response =>
                let answers := there.answers.send response
                if accepted then do
                  let receiver ← storedStep host platform link.receiver
                    (.accept peerIp peerDeviceId payload)
                  return { link with
                    receiver
                    wires := link.wires.set wire
                      ⟨frames, answers, .session link.receiver.sessions.length⟩ }
                else return { link with wires := link.wires.set wire ⟨frames, answers, .closed⟩ }
      | _, _ => none
  | .deliver wire now => do
      let there ← link.wires[wire]?
      let (frame, frames) ← there.frames.receive?
      match there.receiver with
      | .session index =>
          let receiver ← storedStep host platform link.receiver (.network index ⟨now, frame.answer⟩)
          return { link with receiver, wires := link.wires.set wire { there with frames } }
      | _ => none
  | .receiver label written =>
      if link.reads label then none
      else do
        let receiver ← storedStep host platform link.receiver label
        return { link.replies label written with receiver }

end DirectTransfer
