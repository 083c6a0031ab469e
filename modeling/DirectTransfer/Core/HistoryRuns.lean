import DirectTransfer.Core.ApprovalSession
import DirectTransfer.Core.History
import DirectTransfer.Core.Receiver

/-! A receiver with its history: session threads from the offer to the end of the
payload, deciding calls from outside, the callbacks of both, and runtime updates,
which read the records of all transfers while the threads go on. -/

set_option autoImplicit false

namespace DirectTransfer

open Library

/-! ## Session threads -/

/-- How far the notification is that a thread stands at. -/
inductive Notice where
  | waiting
  | running
  | finished
  deriving DecidableEq

/-- A session up to the decision and, once accepted, its payload; with the
callback it owes before it goes on. -/
structure SessionThread where
  approval : ApprovalSession
  receive : Option ReceiveSession
  owes : Option ManagerCallback
  notice : Notice

def ReceivePhase.notifies : ReceivePhase → Bool
  | .created _ | .inside _ (.progress _) | .inside _ .completed | .settling _ _ => true
  | _ => false

namespace SessionThread

def transferId (thread : SessionThread) : PyStr := thread.approval.request.transferId

/-- The session that receives the payload of an accepted request. -/
def begin (request : IncomingTransferRequest) : ReceiveSession where
  origin := {
    peerIp := request.peerIp
    peerDeviceId := request.peerDeviceId
    offer := ⟨request.transferId, request.files, request.totalSize, request.message⟩ }
  phase := .resumeQuery
  touched := []
  unnotified := []
  failure := none

/-- A call of the thread before the payload. -/
def approve (manager : IncomingRequestManager) (thread : SessionThread) (event : Event) :
    Option (IncomingRequestManager × SessionThread) :=
  match thread.owes, thread.receive with
  | none, none => match thread.approval.step manager event with
    | none => none
    | some (after, approval) => some (after, {
        approval
        receive := match approval.phase with
          | .receiving => some (begin approval.request)
          | _ => none
        owes := manager.callback after thread.transferId
        notice := .waiting })
  | _, _ => none

/-- A call of the payload; a notification answers once its update is through. -/
def advance (registry : Registry) (thread : SessionThread) (event : ReceiveEvent) :
    Option (Registry × SessionThread) :=
  match thread.receive with
  | none => none
  | some session =>
      if session.phase.notifies = true ∧ thread.notice ≠ .finished then none
      else match session.step registry event with
        | none => none
        | some (next, session) =>
            some (next, { thread with receive := some session, notice := .waiting })

end SessionThread

/-! ## Runtime updates -/

/-- A record of the server or of the client. -/
inductive RecordRef where
  | received (record : Nat)
  | sent (record : Nat)
  deriving DecidableEq

/-- A record read when it is needed, or the result of merging several. -/
inductive InfoRef where
  | live (ref : RecordRef)
  | resolved (info : TransferInfo)

/-- The call the loop over the transfers stands at. -/
inductive PersistPhase where
  | head
  | scan (infos : List InfoRef) (priorities : List TransferStatus) (left : List InfoRef)
  | existing (infos : List InfoRef) (status : TransferStatus)
  | create (turn : PersistTurn)

/-- One `_persist_runtime_transfers`, for the thread that notifies or for the
client; the transfers still to store, the current one first. -/
structure PersistRun where
  owner : Option Nat
  now : Time
  groups : List (PyStr × List RecordRef)
  phase : PersistPhase

/-! ## The system -/

structure HistorySystem where
  manager : IncomingRequestManager
  threads : List SessionThread
  decisions : List IncomingTransferRequest
  registry : Registry
  sent : List TransferInfo
  store : TransferHistoryStore
  persisted : Dict PyStr PersistedProgress
  run : Option PersistRun

/-- A decision from outside the sessions. -/
inductive Deciding where
  | accept
  | reject (reason : PyStr)
  | cancel (reason : PyStr)

inductive HistoryLabel where
  | offered (payload : Json) (peerDeviceId peerIp : PyStr) (peerName : Option PyStr)
      (receivedAt : Time)
  | session (index : Nat) (event : Event)
  | receive (index : Nat) (event : ReceiveEvent)
  | callback (index : Nat) (ok : Bool) (now : Time)
  | decide (transferId : PyStr) (deciding : Deciding)
  | decided (index : Nat) (ok : Bool) (now : Time)
  | send (info : TransferInfo)
  | sending (index : Nat) (info : TransferInfo)
  | notify (owner : Option Nat) (now : Time)
  | persist (ok : Bool) (hostname : Option PyStr)
  | restart

namespace HistorySystem

def read (system : HistorySystem) : RecordRef → Option TransferInfo
  | .received record => system.registry.transfers[record]?
  | .sent record => system.sent[record]?

def readInfo (system : HistorySystem) : InfoRef → Option TransferInfo
  | .live ref => system.read ref
  | .resolved info => some info

/-- `get_transfers` -/
def refs (system : HistorySystem) : List RecordRef :=
  (List.range system.registry.transfers.length).map .received ++
    (List.range system.sent.length).map .sent

def transferOf (system : HistorySystem) (ref : RecordRef) : PyStr :=
  ((system.read ref).map TransferInfo.transferId).getD []

/-- The transfers with their records, in the order of their first records. -/
def grouped (system : HistorySystem) : List (PyStr × List RecordRef) :=
  (Dict.group system.transferOf system.refs).entries

/-- What records of one file have in common. -/
def fileKey (system : HistorySystem) (ref : RecordRef) : Option (PyStr × TransferDirection) :=
  (system.read ref).map fun item => ((truthy item.fileId).getD item.filename, item.direction)

/-- One record for each file. -/
def resolve (system : HistorySystem) (refs : List RecordRef) : List InfoRef :=
  (Dict.group system.fileKey refs).values.filterMap fun items =>
    match items with
    | [ref] => some (.live ref)
    | items => match items.filterMap system.read with
      | first :: rest => some (.resolved (resolveAuthoritativeFileInfo first rest))
      | [] => none

/-- The row a runtime update finds; a failing read finds none. -/
def existing (system : HistorySystem) (ok : Bool) (transferId : PyStr) : Option TransferRecord :=
  if ok then system.store.getTransfer transferId else none

/-- One call or one read of the loop over the transfers. -/
def persistStep (system : HistorySystem) (run : PersistRun) (ok : Bool)
    (hostname : Option PyStr) : HistorySystem :=
  let goOn (phase : PersistPhase) := { system with run := some { run with phase } }
  match run.groups, run.phase with
  | [], _ => { system with
      run := none
      threads := match run.owner with
        | some owner => system.threads.modify owner fun thread => { thread with notice := .finished }
        | none => system.threads }
  | (_, refs) :: _, .head =>
      let infos := system.resolve refs
      goOn (.scan infos aggregatePriorities infos)
  | _ :: _, .scan infos [] _ => goOn (.existing infos .complete)
  | _ :: _, .scan infos (_ :: priorities) [] => goOn (.scan infos priorities infos)
  | _ :: _, .scan infos (priority :: priorities) (item :: left) =>
      if (system.readInfo item).any fun info => info.status = priority then
        goOn (.existing infos priority)
      else goOn (.scan infos (priority :: priorities) left)
  | (transferId, _) :: rest, .existing infos aggregate =>
      match infos.filterMap system.readInfo with
      | first :: others =>
          let turn : PersistTurn :=
            { transferId, first, rest := others, aggregate, now := run.now, hostname,
              existing := system.existing ok transferId }
          if turn.flushes system.persisted then goOn (.create turn)
          else { system with run := some { run with groups := rest, phase := .head } }
      | [] => { system with run := some { run with groups := rest, phase := .head } }
  | _ :: rest, .create turn => { system with
      store := turn.write system.store ok
      persisted := turn.remember system.persisted
      run := some { run with groups := rest, phase := .head } }

def deciding (manager : IncomingRequestManager) (transferId : PyStr) :
    Deciding → IncomingRequestManager × Bool
  | .accept => manager.acceptRequest transferId
  | .reject reason => manager.rejectRequest transferId reason
  | .cancel reason => manager.cancelRequest transferId reason

/-- Whether an identifier is in use; a new outgoing transfer takes one that is not. -/
def uses (system : HistorySystem) (transferId : PyStr) : Bool :=
  (system.manager.entries.get transferId).isSome || (system.store.transfers.get transferId).isSome ||
    system.registry.transfers.any fun info => info.transferId = transferId

/-- A record the client may add: of a new transfer, or a further file of one. -/
def mayAdd (system : HistorySystem) (info : TransferInfo) : Bool :=
  info.direction = .send && info.status = .pendingApproval && (truthy info.fileId).isSome &&
    (system.sent.any (fun other => other.transferId = info.transferId) ||
      !system.uses info.transferId) &&
    !system.sent.any fun other =>
      other.transferId = info.transferId && other.fileId = info.fileId

/-- A change the client may make to one of its records. -/
def mayChange (old new : TransferInfo) : Bool :=
  decide (Reaches old.status new.status) && new.direction = old.direction &&
    new.transferId = old.transferId && new.fileId = old.fileId && new.filename = old.filename &&
    new.filesize = old.filesize && new.peerIp = old.peerIp && new.peerDeviceId = old.peerDeviceId &&
    new.startedAt = old.startedAt && new.message = old.message

def start (maxPending : Nat) (store : TransferHistoryStore) : HistorySystem where
  manager := .empty maxPending
  threads := []
  decisions := []
  registry := .empty
  sent := []
  store := store.migrate
  persisted := Dict.empty
  run := none

end HistorySystem

open HistorySystem in
def historyStep (platform : Platform) (system : HistorySystem) : HistoryLabel → Option HistorySystem
  | .offered payload peerDeviceId peerIp peerName receivedAt =>
      match validateOffer platform payload with
      | .error _ => none
      | .ok offer =>
          let request := incomingRequest offer peerDeviceId peerIp peerName receivedAt
          some { system with threads :=
            system.threads ++ [⟨⟨request, .publish, none, false⟩, none, none, .waiting⟩] }
  | .session index event => do
      let thread ← system.threads[index]?
      let (manager, thread) ← thread.approve system.manager event
      return { system with manager, threads := system.threads.set index thread }
  | .receive index event => do
      let thread ← system.threads[index]?
      let (registry, thread) ← thread.advance system.registry event
      return { system with registry, threads := system.threads.set index thread }
  | .callback index ok now => do
      let thread ← system.threads[index]?
      let callback ← thread.owes
      return { system with
        store := if ok then callback.write system.store now else system.store
        threads := system.threads.set index { thread with owes := none } }
  | .decide transferId how =>
      let (manager, decided) := deciding system.manager transferId how
      some { system with
        manager
        decisions := if decided then system.decisions ++ (manager.getRequest transferId).toList
          else system.decisions }
  | .decided index ok now => do
      let request ← system.decisions[index]?
      return { system with
        store := if ok then handleRequestDecision system.store request now else system.store
        decisions := system.decisions.eraseIdx index }
  | .send info => if system.mayAdd info then some { system with sent := system.sent ++ [info] } else none
  | .sending index info => do
      let old ← system.sent[index]?
      if mayChange old info then some { system with sent := system.sent.set index info } else none
  | .notify owner now =>
      let run := some ⟨owner, now, system.grouped, .head⟩
      match system.run, owner with
      | some _, _ => none
      | none, none => some { system with run }
      | none, some index => do
          let thread ← system.threads[index]?
          let session ← thread.receive
          if session.phase.notifies = true ∧ thread.notice = .waiting then
            some { system with run, threads := system.threads.set index { thread with notice := .running } }
          else none
  | .persist ok hostname => do
      let run ← system.run
      return system.persistStep run ok hostname
  | .restart => some (.start system.manager.maxPending system.store)

end DirectTransfer
