import DirectTransfer.Core.ChunkLoops
import DirectTransfer.Core.Receiver
import DirectTransfer.Core.ResumeStore

/-! A receiver process and its disk. What a session's calls to the disk answer is
computed here: the partial it writes to, the commit it is in and the metadata it
keeps; a frame or a notification is answered by the label. -/

set_option autoImplicit false

namespace DirectTransfer

open Library

/-! ## Partials -/

/-- A partial open for writing, with the position of the next write. -/
structure OpenPartial where
  inode : Nat
  position : Nat

def isADirectory : Raised := raised .osError "Is a directory"

/-- `open(partial_path, "r+b" if partial_path.exists() else "wb")` -/
def openForWriting (disk : Disk FilePath) (path : FilePath) :
    Except Raised (Disk FilePath × Nat) :=
  match disk.inode? path with
  | some inode => .ok (disk, inode)
  | none =>
      if disk.holds path then .error isADirectory
      else match disk.overwrite path [] with
        | none => .error isADirectory
        | some created => match created.inode? path with
          | some inode => .ok (created, inode)
          | none => .error fileNotFound

/-- `file_handle.write(raw)` -/
def OpenPartial.write (handle : OpenPartial) (disk : Disk FilePath) (raw : Bytes) :
    Disk FilePath × OpenPartial :=
  (disk.write handle.inode (writeAt (disk.contents handle.inode) handle.position raw),
    { handle with position := handle.position + raw.length })

/-! ## Sessions -/

/-- A session, the partial it has opened last and the commit it is in. -/
structure StoredSession where
  session : ReceiveSession
  handle : Option OpenPartial
  commit : Option CommitCall

structure StoredReceiver where
  registry : Registry
  disk : Disk FilePath
  sessions : List StoredSession

/-- Whether the call of a phase goes to the disk. -/
def ReceivePhase.stores : ReceivePhase → Bool
  | .prepare | .completeSession => true
  | .inside _ .openPartial | .inside _ (.write _ _) | .inside _ .hash | .inside _ .commit
  | .inside _ (.markCompleted _) => true
  | _ => false

namespace StoredSession

variable (host : StoreHost) (platform : Platform)

def transferId (stored : StoredSession) : PyStr := stored.session.transferId

/-- The partial of a file of the session. -/
def partialOf (stored : StoredSession) (block : FileBlock) : FilePath :=
  partialPath stored.transferId block.offered.fileId

/-- What a call to the disk leaves: the disk, the session, and the answer if the call
has returned. -/
abbrev Effect := Disk FilePath × StoredSession × Option ReceiveAnswer

/-- The next file-system call of `commit_partial_file`, or its return. -/
def commitCall (disk : Disk FilePath) (stored : StoredSession) (block : FileBlock) (temp : PyStr)
    (failure : Option Raised) : Option Effect :=
  let call := stored.commit.getD
    (.start platform (stored.partialOf block) block.offered.name temp)
  match call.phase with
  | .finished (.ok name) =>
      some (disk, { stored with commit := none }, some (.committed (host.shown (received name))))
  | .finished (.error error) => some (disk, { stored with commit := none }, some (.raised error))
  | _ => (call.step disk failure).map fun (disk, call) =>
      (disk, { stored with commit := some call }, none)

/-- A call that succeeds as far as the disk lets it. -/
def storeCall (registry : Registry) (disk : Disk FilePath) (stored : StoredSession) :
    Option Effect :=
  match stored.session.phase with
  | .prepare => match host.prepare disk stored.session.origin.offer with
    | (next, .ok states) => some (next, stored, some (.prepared states))
    | (next, .error error) => some (next, stored, some (.raised error))
  | .inside block .openPartial => match registry.transfers[block.record]? with
    | none => none
    | some info => match openForWriting disk (stored.partialOf block) with
      | .ok (next, inode) => some (next,
          { stored with handle := some ⟨inode, info.bytesTransferred⟩ }, some .done)
      | .error error => some (disk, stored, some (.raised error))
  | .inside _ (.write _ raw) => stored.handle.map fun handle =>
      let (next, handle) := handle.write disk raw
      (next, { stored with handle := some handle }, some .done)
  | .inside block .hash => match disk.read (stored.partialOf block) with
    | some octets => some (disk, stored, some (.digest (host.digests.hexdigest octets)))
    | none => some (disk, stored, some (.raised fileNotFound))
  | .inside block (.markCompleted finalPath) =>
      match host.markCompleted disk stored.transferId block.offered.fileId finalPath with
      | (next, .ok ()) => some (next, stored, some .done)
      | (next, .error error) => some (next, stored, some (.raised error))
  | .completeSession =>
      some (DirectTransfer.completeSession disk stored.transferId, stored, some .done)
  | _ => none

/-- The call to the disk a session stands at; a failure leaves the disk alone, but in a
commit, which goes on from the call that failed. -/
def call (registry : Registry) (disk : Disk FilePath) (stored : StoredSession) (temp : PyStr)
    (failure : Option Raised) : Option Effect :=
  match stored.session.phase, failure with
  | .inside block .commit, _ => commitCall host platform disk stored block temp failure
  | _, none => storeCall host registry disk stored
  | phase, some error =>
      if phase.stores then some (disk, stored, some (.raised error)) else none

end StoredSession

/-! ## Steps -/

inductive StoredLabel where
  | accept (peerIp peerDeviceId : PyStr) (payload : Json)
  | network (index : Nat) (event : ReceiveEvent)
  | storage (index : Nat) (now : Time) (temp : PyStr) (failure : Option Raised)
  | restart

/-- An offer is accepted, a session goes on after a frame or a notification or a call to
the disk, or the process starts anew. -/
def storedStep (host : StoreHost) (platform : Platform) (state : StoredReceiver) :
    StoredLabel → Option StoredReceiver
  | .accept peerIp peerDeviceId payload => match validateOffer platform payload with
    | .error _ => none
    | .ok offer => some { state with sessions := state.sessions ++
        [⟨⟨⟨peerIp, peerDeviceId, offer⟩, .resumeQuery, [], [], none⟩, none, none⟩] }
  | .network index event => do
      let stored ← state.sessions[index]?
      if stored.session.phase.stores then none
      else
        let (registry, session) ← stored.session.step state.registry event
        return { state with registry, sessions := state.sessions.set index { stored with session } }
  | .storage index now temp failure => do
      let stored ← state.sessions[index]?
      let (disk, stored, answer) ←
        stored.call host platform state.registry state.disk temp failure
      match answer with
      | none => return { state with disk, sessions := state.sessions.set index stored }
      | some answer =>
          let (registry, session) ← stored.session.step state.registry ⟨now, answer⟩
          return ⟨registry, disk, state.sessions.set index { stored with session }⟩
  | .restart => some ⟨.empty, state.disk, []⟩

end DirectTransfer
