import DirectTransfer.Core.Models
import DirectTransfer.Library.Dictionary

/-! Thread-safe incoming transfer approval state. Each function is one critical
section of the manager's lock. -/

set_option autoImplicit false

namespace DirectTransfer

open Library

/-- Lifecycle of an authenticated incoming transfer offer. -/
inductive IncomingRequestStatus where
  | pendingApproval
  | accepted
  | rejected
  | expired
  | cancelled
  deriving DecidableEq, Repr

/-- A transfer offer published after peer authentication. -/
structure IncomingTransferRequest where
  transferId : PyStr
  peerDeviceId : PyStr
  peerIp : PyStr
  peerName : Option PyStr
  files : List IncomingFile
  totalSize : Nat
  message : Option PyStr
  receivedAt : Time
  status : IncomingRequestStatus
  reason : Option PyStr
  deriving DecidableEq

/-- A request with the event its worker may wait on, named by a number. -/
structure PendingDecision where
  request : IncomingTransferRequest
  event : Nat
  deriving DecidableEq

/-- Pending offers, the events that have been set, and the next unused event. -/
structure IncomingRequestManager where
  entries : Dict PyStr PendingDecision
  signalled : List Nat
  fresh : Nat
  maxPending : Nat

/-- Why a request is not published. -/
inductive PublishError where
  | metadataChanged
  | alreadyExists
  | inboxFull
  deriving DecidableEq, Repr

/-- The comparison that lets a known transfer identifier in again. -/
def sameOffer (prior request : IncomingTransferRequest) : Bool :=
  prior.peerDeviceId = request.peerDeviceId && prior.files = request.files &&
    prior.totalSize = request.totalSize && prior.message = request.message

namespace IncomingRequestManager

def empty (maxPending : Nat) : IncomingRequestManager := ⟨Dict.empty, [], 0, maxPending⟩

def pendingCount (manager : IncomingRequestManager) : Nat :=
  manager.entries.values.countP fun entry => entry.request.status = .pendingApproval

/-- The critical section of `publish`. -/
def publish (manager : IncomingRequestManager) (request : IncomingTransferRequest) :
    Except PublishError IncomingRequestManager :=
  match manager.entries.get request.transferId with
  | some existing =>
      if sameOffer existing.request request = false then .error .metadataChanged
      else if existing.request.status = .accepted then
        .ok { manager with
          entries := manager.entries.set request.transferId
            ⟨{ request with status := .accepted }, manager.fresh⟩
          signalled := manager.fresh :: manager.signalled
          fresh := manager.fresh + 1 }
      else .error .alreadyExists
  | none =>
      if manager.maxPending ≤ manager.pendingCount then .error .inboxFull
      else .ok { manager with
        entries := manager.entries.set request.transferId ⟨request, manager.fresh⟩
        fresh := manager.fresh + 1 }

/-- Whether `on_request` is called once that section is left: the request was not known. -/
def announces (manager : IncomingRequestManager) (request : IncomingTransferRequest) : Bool :=
  (manager.entries.get request.transferId).isNone

def getRequest (manager : IncomingRequestManager) (transferId : PyStr) :
    Option IncomingTransferRequest :=
  (manager.entries.get transferId).map PendingDecision.request

/-- Settle a request that is still pending; the flag tells whether it was. -/
def decide (manager : IncomingRequestManager) (transferId : PyStr)
    (status : IncomingRequestStatus) (reason : Option PyStr) : IncomingRequestManager × Bool :=
  match manager.entries.get transferId with
  | none => (manager, false)
  | some entry =>
      if entry.request.status ≠ .pendingApproval then (manager, false)
      else ({ manager with
        entries := manager.entries.set transferId ⟨{ entry.request with status, reason }, entry.event⟩
        signalled := entry.event :: manager.signalled }, true)

def acceptRequest (manager : IncomingRequestManager) (transferId : PyStr) :
    IncomingRequestManager × Bool :=
  manager.decide transferId .accepted none

def rejectRequest (manager : IncomingRequestManager) (transferId reason : PyStr) :
    IncomingRequestManager × Bool :=
  manager.decide transferId .rejected (some reason)

def cancelRequest (manager : IncomingRequestManager) (transferId reason : PyStr) :
    IncomingRequestManager × Bool :=
  manager.decide transferId .cancelled (some reason)

/-- What becomes of a request nobody decided within the timeout. -/
def expireRequest (manager : IncomingRequestManager) (transferId : PyStr) :
    IncomingRequestManager × Bool :=
  manager.decide transferId .expired (some (py "Transfer request expired"))

/-- The entries that survive a removal of old decided requests. -/
def kept (cutoff : Time) (entry : PendingDecision) : Bool :=
  entry.request.status = .pendingApproval || cutoff ≤ entry.request.receivedAt

def prune (manager : IncomingRequestManager) (cutoff : Time) : IncomingRequestManager :=
  { manager with entries := manager.entries.filter fun _ entry => kept cutoff entry }

/-- The identifiers `cancel_all` takes down before it cancels them one by one. -/
def pendingIds (manager : IncomingRequestManager) : List PyStr :=
  (manager.entries.filter fun _ entry => entry.request.status = .pendingApproval).keys

end IncomingRequestManager

end DirectTransfer
