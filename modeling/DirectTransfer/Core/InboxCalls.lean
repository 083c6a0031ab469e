import DirectTransfer.Core.ApprovalSettlement
import Mathlib.Logic.Function.Basic

/-! Threads that call the manager of incoming requests. Each critical section
and each callback is one step of its thread, and a log keeps what has happened. -/

set_option autoImplicit false

namespace DirectTransfer

open Library

/-! ## Calls -/

/-- A decision that took effect, with the event of its entry and the request
that `on_decision` receives. -/
structure DecisionMade where
  transferId : PyStr
  event : Nat
  request : IncomingTransferRequest
  deriving DecidableEq

inductive Occurrence where
  | published (transferId : PyStr)
  | republished (transferId : PyStr)
  | decided (decision : DecisionMade)
  | told (decision : DecisionMade)
  | pruned (transferId : PyStr)
  /-- `wait_for_decision` returned the request; its call had begun when the log
  was `since` long. -/
  | returned (transferId : PyStr) (since : Nat) (request : IncomingTransferRequest)
  deriving DecidableEq

/-- What a thread does after a deciding call. -/
inductive Continuation where
  | finish
  | fetch (transferId : PyStr) (since : Nat)
  | cancel (transferIds : List PyStr) (reason : PyStr)

/-- Where a thread stands between two of its steps. -/
inductive CallPhase where
  | idle
  | announcing (request : IncomingTransferRequest)
  | telling (decision : DecisionMade) (next : Continuation)
  | waiting (transferId : PyStr) (event since : Nat)
  | expiring (transferId : PyStr) (since : Nat)
  | fetching (transferId : PyStr) (since : Nat)
  | cancelling (transferIds : List PyStr) (reason : PyStr)

def Continuation.phase : Continuation → CallPhase
  | .finish => .idle
  | .fetch transferId since => .fetching transferId since
  | .cancel transferIds reason => .cancelling transferIds reason

/-- The deciding calls that a user or a session makes. -/
inductive DecidingCall where
  | accept
  | reject (reason : PyStr)
  | cancel (reason : PyStr)

def DecidingCall.apply (manager : IncomingRequestManager) (transferId : PyStr) :
    DecidingCall → IncomingRequestManager × Bool
  | .accept => manager.acceptRequest transferId
  | .reject reason => manager.rejectRequest transferId reason
  | .cancel reason => manager.cancelRequest transferId reason

/-- The manager, its threads, and the log with the latest occurrence first. -/
structure InboxSystem where
  manager : IncomingRequestManager
  threads : Nat → CallPhase
  log : List Occurrence

inductive InboxLabel where
  | publish (thread : Nat) (request : IncomingTransferRequest)
  | announce (thread : Nat)
  | decide (thread : Nat) (transferId : PyStr) (call : DecidingCall)
  | tell (thread : Nat)
  | wait (thread : Nat) (transferId : PyStr)
  | wake (thread : Nat)
  | timeout (thread : Nat)
  | expire (thread : Nat)
  | fetch (thread : Nat)
  | cancelAll (thread : Nat) (reason : PyStr)
  | cancelNext (thread : Nat)
  | prune (thread : Nat) (cutoff : Time)

namespace InboxSystem

def moveTo (system : InboxSystem) (thread : Nat) (phase : CallPhase) : InboxSystem :=
  { system with threads := Function.update system.threads thread phase }

/-- The end of `_decide`, given what it did to the manager: a decision that
took effect is told before the thread goes on. -/
def settle (system : InboxSystem) (thread : Nat) (transferId : PyStr)
    (result : IncomingRequestManager × Bool) (next : Continuation) : InboxSystem :=
  match result.2, result.1.entries.get transferId with
  | true, some entry =>
      let decision : DecisionMade := ⟨transferId, entry.event, entry.request⟩
      { system with manager := result.1, log := .decided decision :: system.log }.moveTo thread
        (.telling decision next)
  | _, _ => { system with manager := result.1 }.moveTo thread next.phase

/-- The entries that `prune` removes. -/
def removedBy (manager : IncomingRequestManager) (cutoff : Time) : List PyStr :=
  (manager.entries.filter fun _ entry => !IncomingRequestManager.kept cutoff entry).keys

end InboxSystem

/-- One step of a thread. A call that raises leaves its thread idle. -/
def inboxStep (system : InboxSystem) : InboxLabel → Option InboxSystem
  | .publish thread request => match system.threads thread with
    | .idle => match system.manager.publish request with
      | .error _ => some system
      | .ok manager =>
          if (system.manager.entries.get request.transferId).isSome then
            some { system with manager, log := .republished request.transferId :: system.log }
          else some ({ system with
            manager, log := .published request.transferId :: system.log }.moveTo thread
              (.announcing request))
    | _ => none
  | .announce thread => match system.threads thread with
    | .announcing _ => some (system.moveTo thread .idle)
    | _ => none
  | .decide thread transferId call => match system.threads thread with
    | .idle => some (system.settle thread transferId (call.apply system.manager transferId) .finish)
    | _ => none
  | .tell thread => match system.threads thread with
    | .telling decision next =>
        some ({ system with log := .told decision :: system.log }.moveTo thread next.phase)
    | _ => none
  | .wait thread transferId => match system.threads thread with
    | .idle => match system.manager.entries.get transferId with
      | some entry => some (system.moveTo thread (.waiting transferId entry.event system.log.length))
      | none => some system
    | _ => none
  | .wake thread => match system.threads thread with
    | .waiting transferId event since =>
        if event ∈ system.manager.signalled then
          some (system.moveTo thread (.fetching transferId since))
        else none
    | _ => none
  -- The event may be set at the moment the wait gives up.
  | .timeout thread => match system.threads thread with
    | .waiting transferId _ since => some (system.moveTo thread (.expiring transferId since))
    | _ => none
  | .expire thread => match system.threads thread with
    | .expiring transferId since =>
        some (system.settle thread transferId (system.manager.expireRequest transferId)
          (.fetch transferId since))
    | _ => none
  | .fetch thread => match system.threads thread with
    | .fetching transferId since => match system.manager.getRequest transferId with
      | some request =>
          some ({ system with log := .returned transferId since request :: system.log }.moveTo
            thread .idle)
      | none => some (system.moveTo thread .idle)
    | _ => none
  | .cancelAll thread reason => match system.threads thread with
    | .idle => some (system.moveTo thread (.cancelling system.manager.pendingIds reason))
    | _ => none
  | .cancelNext thread => match system.threads thread with
    | .cancelling [] _ => some (system.moveTo thread .idle)
    | .cancelling (transferId :: rest) reason =>
        some (system.settle thread transferId (system.manager.cancelRequest transferId reason)
          (.cancel rest reason))
    | _ => none
  | .prune thread cutoff => match system.threads thread with
    | .idle => some { system with
        manager := system.manager.prune cutoff
        log := (InboxSystem.removedBy system.manager cutoff).map .pruned ++ system.log }
    | _ => none

/-- A new manager that nobody has called. -/
def InboxSystem.start (maxPending : Nat) : InboxSystem := ⟨.empty maxPending, fun _ => .idle, []⟩

/-! ## Readings of the log -/

def decisionsIn : List Occurrence → List DecisionMade :=
  List.filterMap fun occurrence => match occurrence with
    | .decided decision => some decision
    | _ => none

def tellingsIn : List Occurrence → List DecisionMade :=
  List.filterMap fun occurrence => match occurrence with
    | .told decision => some decision
    | _ => none

/-- The decisions on entries that have not been pruned since. -/
def standingIn : List Occurrence → List DecisionMade
  | [] => []
  | .decided decision :: earlier => decision :: standingIn earlier
  | .pruned transferId :: earlier =>
      (standingIn earlier).filter fun decision => decision.transferId ≠ transferId
  | _ :: earlier => standingIn earlier

/-- The transfer was pruned, and after that published anew. -/
def Renewed (transferId : PyStr) : List Occurrence → Prop
  | [] => False
  | .published other :: earlier =>
      (other = transferId ∧ Occurrence.pruned transferId ∈ earlier) ∨ Renewed transferId earlier
  | _ :: earlier => Renewed transferId earlier

/-- The part of the log since it had the given length. -/
def recent (log : List Occurrence) (since : Nat) : List Occurrence := log.take (log.length - since)

/-- Each wait that returned a pending request saw its entry pruned and
published anew while it waited. -/
def WaitsJustified : List Occurrence → Prop
  | [] => True
  | .returned transferId since request :: earlier =>
      (request.status = .pendingApproval → Renewed transferId (recent earlier since)) ∧
        WaitsJustified earlier
  | _ :: earlier => WaitsJustified earlier

end DirectTransfer
