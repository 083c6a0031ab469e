import DirectTransfer.Core.Service
import DirectTransfer.Library.Transition

/-! A service with what runs beside its callers: send workers, each within one
of its attempts, and incoming sessions. A worker keeps an address and asks the
service again, on each attempt, who is there. -/

set_option autoImplicit false

namespace DirectTransfer

open Library

namespace DirectPeerService

variable {runtime : Runtime} (service : DirectPeerService runtime)

/-! ## Sessions of calls -/

/-- What `client_handshake` returns within a connect call. -/
def connectSession (endpoint : EndpointArgument runtime.platform) (pairDial : PairDial)
    (dial : HandshakeDial) : Option AuthenticatedSession :=
  match (service.contact endpoint pairDial dial).2 with
  | .ok (_, some (.ok (_, session))) => some session
  | _ => none

/-- What `client_handshake` returns within a send_files call, which connects once. -/
def sendFilesSession (target : EndpointArgument runtime.platform) (pairDial : PairDial)
    (dial : HandshakeDial) : Option AuthenticatedSession :=
  match target with
  | .endpoint _ => service.connectSession target pairDial dial
  | .text value =>
      if value.take 3 = py "mp-" then do
        let entry ← service.addressBook.get value
        let _ ← service.trustStore.get value
        let endpoint ← (entry.endpoint runtime.platform).toOption
        service.connectSession (.endpoint endpoint) pairDial dial
      else service.connectSession target pairDial dial

/-- `_resolve_trusted_peer`, from what the resolver returned. -/
def resolveTrustedPeer (peer : Option ResolvedPeer) : Except Raised TrustedDevice :=
  match peer with
  | none => .error (notAuthenticated "Peer is not trusted")
  | some peer =>
      if peer.deviceId = [] ∨ peer.publicKey = [] ∨ peer.trustStatus ≠ .trusted then
        .error (notAuthenticated "Peer is not trusted")
      else match service.trustStore.get peer.deviceId with
        | none => .error (notAuthenticated "Wrong peer identity")
        | some record =>
            if record.publicKey ≠ peer.publicKey then
              .error (notAuthenticated "Wrong peer identity")
            else .ok record

end DirectPeerService

/-! ## Tasks -/

/-- A send worker or an incoming session. An attempt and an incoming session
carry how many occurrences had been recorded when they started. -/
inductive PeerTask where
  | working (job : DirectPeerService.Dispatch)
  | connecting (job : DirectPeerService.Dispatch) (since : Nat)
  | resolved (job : DirectPeerService.Dispatch) (peer : Option ResolvedPeer) (since : Nat)
  | handshaking (job : DirectPeerService.Dispatch) (trusted : TrustedDevice) (since : Nat)
  | sending (job : DirectPeerService.Dispatch) (session : AuthenticatedSession)
  | accepted (since : Nat)
  | answering (clientHello : ValidHello) (serverHello : Json) (ephemeralPrivate nonce : Bytes)
      (since : Nat)
  | receiving (session : AuthenticatedSession)
  | ended

/-- What is recorded of a run: trust calls, forget calls, sessions that a
handshake returned, and frames a worker sent under a session. -/
inductive PeerOccurrence where
  | trusted (deviceId : PyStr)
  | forgotten (deviceId : PyStr)
  | authenticated (deviceId : PyStr) (since : Nat)
  | sent (deviceId peerDeviceId : PyStr)
  deriving DecidableEq

inductive TaskMove where
  | begin
  | resolve
  | lookUp
  | handshake (ephemeralPrivate nonce stream : Bytes)
  | send
  | interrupt
  | hello (payload : Json) (ephemeralPrivate nonce : Bytes)
  | answered
  | finish

namespace PeerTask

variable {runtime : Runtime} (service : DirectPeerService runtime)

/-- One step of a task, with what is recorded of it. A failed attempt leaves
the worker for another one where the failure is an `OSError`. -/
def advance (moment : Nat) : PeerTask → TaskMove → Option (PeerTask × List PeerOccurrence)
  | .working job, .begin => match service.resolvePeer job.peerIp with
      | none => some (.ended, [])
      | some _ => some (.connecting job moment, [])
  | .connecting job since, .resolve => some (.resolved job (service.resolvePeer job.peerIp) since, [])
  | .resolved job peer since, .lookUp => match service.resolveTrustedPeer peer with
      | .error _ => some (.ended, [])
      | .ok trusted => some (.handshaking job trusted since, [])
  | .handshaking job trusted since, .handshake ephemeralPrivate nonce stream =>
      match clientHandshake runtime.crypto runtime.codec service.identity trusted ephemeralPrivate
        nonce stream with
      | .error error => some (if error.kind.isOSError then .working job else .ended, [])
      | .ok session => some (.sending job session, [.authenticated session.peerDeviceId since])
  | .sending job session, .send =>
      some (.sending job session, [.sent job.deviceId session.peerDeviceId])
  | .connecting job _, .interrupt => some (.working job, [])
  | .handshaking job _ _, .interrupt => some (.working job, [])
  | .sending job _, .interrupt => some (.working job, [])
  | .accepted since, .hello payload ephemeralPrivate nonce =>
      match serverAnswer runtime.codec service.identity service.trustStore payload ephemeralPrivate
        nonce with
      | .error _ => some (.ended, [])
      | .ok (clientHello, serverHello) =>
          some (.answering clientHello serverHello ephemeralPrivate nonce since, [])
  | .answering clientHello serverHello ephemeralPrivate nonce since, .answered =>
      match serverSession runtime.crypto runtime.codec.floats clientHello serverHello
        ephemeralPrivate nonce with
      | .error _ => some (.ended, [])
      | .ok session => some (.receiving session, [.authenticated session.peerDeviceId since])
  | _, .finish => some (.ended, [])
  | _, _ => none

end PeerTask

/-! ## Runs -/

/-- A service, its tasks, and what has been recorded, the latest first. -/
structure PeerSystem (runtime : Runtime) where
  service : DirectPeerService runtime
  tasks : List PeerTask
  log : List PeerOccurrence

namespace PeerSystem

variable {runtime : Runtime}

open DirectPeerService (Label)

inductive Move (runtime : Runtime) where
  | call (label : Label runtime)
  | accept
  | advance (index : Nat) (move : TaskMove)

/-- The tasks after a call: send_files starts a worker, a new process has none. -/
def tasksAfter (system : PeerSystem runtime) : Label runtime → List PeerTask
  | .restart => []
  | .sendFiles target pairDial dial => match (system.service.sendFiles target pairDial dial).2 with
      | .error _ => system.tasks
      | .ok job => system.tasks ++ [.working job]
  | _ => system.tasks

def authenticates (system : PeerSystem runtime) (session : Option AuthenticatedSession) :
    List PeerOccurrence :=
  (session.map fun session => .authenticated session.peerDeviceId system.log.length).toList

def recorded (system : PeerSystem runtime) : Label runtime → List PeerOccurrence
  | .trust deviceId _ _ _ => [.trusted deviceId]
  | .forgetDevice deviceId => [.forgotten deviceId]
  | .connect endpoint pairDial dial =>
      system.authenticates (system.service.connectSession endpoint pairDial dial)
  | .sendFiles target pairDial dial =>
      system.authenticates (system.service.sendFilesSession target pairDial dial)
  | _ => []

def step (system : PeerSystem runtime) : Move runtime → Option (PeerSystem runtime)
  | .call label => (system.service.step label).map fun service =>
      ⟨service, system.tasksAfter label, system.recorded label ++ system.log⟩
  | .accept => some { system with tasks := system.tasks ++ [.accepted system.log.length] }
  | .advance index move => do
      let task ← system.tasks[index]?
      let (next, occurrences) ← task.advance system.service system.log.length move
      return { system with tasks := system.tasks.set index next, log := occurrences ++ system.log }

/-- A process started on the files of a service. -/
def start (service : DirectPeerService runtime) : PeerSystem runtime := ⟨service.restart, [], []⟩

end PeerSystem

end DirectTransfer
