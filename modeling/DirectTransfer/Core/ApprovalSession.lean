import DirectTransfer.Core.Inbox
import DirectTransfer.Core.Sender

/-! Receive sessions from the validated offer to the decision on it, together
with everything else that works on the manager they publish to. Each critical
section of the manager, and each call of a session, is one step. -/

set_option autoImplicit false

namespace DirectTransfer

open Library

/-- The call a session stands at between its offer and its payload. -/
inductive ApprovalPhase where
  | publish
  | onRequest
  | receiverBusy
  | deadline
  | poll
  | select
  | control
  | disconnected (error : Raised)
  | invalidProtocol
  | cancelledByPeer
  | waitForDecision
  | waitEvent (event : Nat)
  | expire
  | fetch
  | respond (decided : IncomingTransferRequest)
  | receiving
  | ended (outcome : Except Raised Unit)

/-- A session with the request it publishes, the response it has sent, and
whether it ever went on to the payload. -/
structure ApprovalSession where
  request : IncomingTransferRequest
  phase : ApprovalPhase
  response : Option Json
  entered : Bool

/-- The request made of an offer. -/
def incomingRequest (offer : TransferOffer) (peerDeviceId peerIp : PyStr)
    (peerName : Option PyStr) (receivedAt : Time) : IncomingTransferRequest where
  transferId := offer.transferId
  peerDeviceId
  peerIp
  peerName
  files := offer.files
  totalSize := offer.totalSize
  message := offer.message
  receivedAt
  status := .pendingApproval
  reason := none

def busyResponse (transferId : PyStr) : Except Raised Json :=
  buildResponse transferId false (some (py "Receiver is busy"))

/-- The answer to a request that has been decided. -/
def decisionResponse (transferId : PyStr) (decided : IncomingTransferRequest) :
    Except Raised Json :=
  buildResponse transferId (decided.status = .accepted) decided.reason

namespace ApprovalSession

def moveTo (session : ApprovalSession) (phase : ApprovalPhase) : ApprovalSession :=
  { session with phase }

def fail (session : ApprovalSession) (error : Raised) : ApprovalSession :=
  { session with phase := .ended (.error error) }

/-- The code of a session from one call to the next. -/
def step (manager : IncomingRequestManager) (session : ApprovalSession) (event : Event) :
    Option (IncomingRequestManager × ApprovalSession) :=
  let transferId := session.request.transferId
  match session.phase, event.answer with
  | .publish, .done => match manager.publish session.request with
    | .ok published =>
        some (published, session.moveTo
          (if manager.announces session.request then .onRequest else .deadline))
    | .error .inboxFull => some (manager, session.moveTo .receiverBusy)
    | .error _ =>
        some (manager, session.fail (raised .protocolError "Conflicting transfer request"))
  | .onRequest, .done => some (manager, session.moveTo .deadline)
  | .onRequest, .raised error =>
      -- the clause around `publish` is also the one around its callback
      some (manager, session.fail (if error.kind.isValueError then
        raised .protocolError "Conflicting transfer request" else error))
  | .receiverBusy, .done => match busyResponse transferId with
    | .error error => some (manager, session.fail error)
    | .ok response =>
        some (manager, { session with response := some response, phase := .ended (.ok ()) })
  | .deadline, .flag before =>
      some (manager, session.moveTo (if before then .poll else .waitForDecision))
  | .poll, .done => match manager.getRequest transferId with
    | some request =>
        if request.status ≠ .pendingApproval then some (manager, session.moveTo (.respond request))
        else some (manager, session.moveTo .select)
    | none => some (manager, session.moveTo .select)
  | .select, .flag readable =>
      some (manager, session.moveTo (if readable then .control else .deadline))
  | .control, .control payload =>
      if (control "cancel" transferId).pyEq payload then
        some (manager, session.moveTo .cancelledByPeer)
      else some (manager, session.moveTo .invalidProtocol)
  | .control, .raised error =>
      if error.kind.isOSError then some (manager, session.moveTo (.disconnected error))
      else some (manager, session.fail error)
  | .disconnected error, .done =>
      some ((manager.cancelRequest transferId (py "Peer disconnected")).1, session.fail error)
  | .invalidProtocol, .done =>
      some ((manager.rejectRequest transferId (py "Invalid transfer protocol")).1,
        session.fail (raised .protocolError "File payload sent before approval"))
  | .cancelledByPeer, .done =>
      some ((manager.cancelRequest transferId (py "Cancelled by peer")).1,
        session.moveTo .deadline)
  | .waitForDecision, .done => match manager.entries.get transferId with
    | some entry => some (manager, session.moveTo (.waitEvent entry.event))
    | none => some (manager, session.fail ⟨.keyError, transferId⟩)
  | .waitEvent number, .done =>
      some (manager, session.moveTo (if number ∈ manager.signalled then .fetch else .expire))
  | .expire, .done => some ((manager.expireRequest transferId).1, session.moveTo .fetch)
  | .fetch, .done => match manager.getRequest transferId with
    | some request => some (manager, session.moveTo (.respond request))
    | none => some (manager, session.fail ⟨.keyError, transferId⟩)
  | .respond decided, .done => match decisionResponse transferId decided with
    | .error error => some (manager, session.fail error)
    | .ok response =>
        if decided.status = .accepted then
          some (manager, { session with
            response := some response, phase := .receiving, entered := true })
        else some (manager, { session with response := some response, phase := .ended (.ok ()) })
  | .receiving, .done => some (manager, session.moveTo (.ended (.ok ())))
  | .receiverBusy, .raised error | .select, .raised error | .respond _, .raised error
  | .receiving, .raised error => some (manager, session.fail error)
  | _, _ => none

end ApprovalSession

/-! ## All sessions of one receiver -/

/-- A manager with its sessions, the cancellations `cancel_all` calls have
still to make, and every request an accepting call was told is accepted. -/
structure Approvals where
  manager : IncomingRequestManager
  sessions : List ApprovalSession
  cancelling : List (PyStr × PyStr)
  accepted : List IncomingTransferRequest

inductive ApprovalLabel where
  | offered (offer : TransferOffer) (peerDeviceId peerIp : PyStr) (peerName : Option PyStr)
      (receivedAt : Time)
  | session (index : Nat) (event : Event)
  | accept (transferId : PyStr)
  | reject (transferId reason : PyStr)
  | cancel (transferId reason : PyStr)
  | cancelAll (reason : PyStr)
  | cancelNext (index : Nat)
  | prune (cutoff : Time)

def approvalStep (state : Approvals) : ApprovalLabel → Option Approvals
  | .offered offer peerDeviceId peerIp peerName receivedAt =>
      some { state with sessions := state.sessions ++
        [⟨incomingRequest offer peerDeviceId peerIp peerName receivedAt, .publish, none, false⟩] }
  | .session index event => do
      let session ← state.sessions[index]?
      let (manager, session) ← session.step state.manager event
      return { state with manager, sessions := state.sessions.set index session }
  | .accept transferId =>
      let (manager, accepted) := state.manager.acceptRequest transferId
      some { state with
        manager
        accepted := if accepted then (manager.getRequest transferId).toList ++ state.accepted
          else state.accepted }
  | .reject transferId reason =>
      some { state with manager := (state.manager.rejectRequest transferId reason).1 }
  | .cancel transferId reason =>
      some { state with manager := (state.manager.cancelRequest transferId reason).1 }
  | .cancelAll reason =>
      some { state with cancelling :=
        state.cancelling ++ state.manager.pendingIds.map fun transferId => (transferId, reason) }
  | .cancelNext index => do
      let (transferId, reason) ← state.cancelling[index]?
      return { state with
        manager := (state.manager.cancelRequest transferId reason).1
        cancelling := state.cancelling.eraseIdx index }
  | .prune cutoff => some { state with manager := state.manager.prune cutoff }

/-- A receiver that has just started. -/
def Approvals.start (maxPending : Nat) : Approvals := ⟨.empty maxPending, [], [], []⟩

end DirectTransfer
