import DirectTransfer.Core.HistoryInvariants

/-! The steps of a receiver with its history one by one, and what each of them does
to the row of a transfer. -/

set_option autoImplicit false

namespace DirectTransfer

open Library

/-! ## Entries -/

/-- What a call of a thread before its payload does to the entry of its transfer, and
the callback it leaves the thread with. -/
inductive InboxMove (manager : IncomingRequestManager) (thread next : SessionThread) :
    IncomingRequestManager → Prop where
  | kept (owes : next.owes = none)
      (waits : next.approval.phase.awaits = true → thread.approval.phase.awaits = true) :
      InboxMove manager thread next manager
  | published (standing : thread.approval.phase = .publish)
      (free : manager.entries.get thread.transferId = none)
      (owes : next.owes = some (.onRequest thread.approval.request)) :
      InboxMove manager thread next { manager with
        entries := manager.entries.set thread.transferId ⟨thread.approval.request, manager.fresh⟩
        fresh := manager.fresh + 1 }
  | readmitted {existing : PendingDecision} (standing : thread.approval.phase = .publish)
      (found : manager.entries.get thread.transferId = some existing)
      (same : sameOffer existing.request thread.approval.request = true)
      (accepted : existing.request.status = .accepted) (owes : next.owes = none) :
      InboxMove manager thread next { manager with
        entries := manager.entries.set thread.transferId
          ⟨{ thread.approval.request with status := .accepted }, manager.fresh⟩
        signalled := manager.fresh :: manager.signalled
        fresh := manager.fresh + 1 }
  | declined {entry : PendingDecision} {status : IncomingRequestStatus} {reason : PyStr}
      (standing : thread.approval.phase.awaits = true)
      (found : manager.entries.get thread.transferId = some entry)
      (pending : entry.request.status = .pendingApproval)
      (declined : status ≠ .accepted ∧ status ≠ .pendingApproval)
      (owes : next.owes = some (.onDecision { entry.request with status, reason := some reason })) :
      InboxMove manager thread next { manager with
        entries := manager.entries.set thread.transferId
          ⟨{ entry.request with status, reason := some reason }, entry.event⟩
        signalled := entry.event :: manager.signalled }

section

variable {manager after : IncomingRequestManager} {thread next : SessionThread} {event : Event}

theorem callback_same (manager : IncomingRequestManager) (transferId : PyStr) :
    manager.callback manager transferId = none := by
  unfold IncomingRequestManager.callback
  split
  · next before found => rw [before] at found; cases found
  · next old entry before found =>
      cases before.symm.trans found
      rw [if_neg fun changed => changed.2 changed.1]
  · rfl

theorem approve_inbox (approved : thread.approve manager event = some (after, next)) :
    InboxMove manager thread next after := by
  obtain ⟨_, _, transition, _, _, owes, _⟩ := approve_cases approved
  cases transition with
  | published standing free moved =>
      refine .published standing free ?_
      rw [owes, IncomingRequestManager.callback, SessionThread.transferId, free, Dict.get_set_self]
  | @readmitted existing standing found same accepted moved =>
      refine .readmitted standing found same accepted ?_
      rw [owes, IncomingRequestManager.callback, SessionThread.transferId, found, Dict.get_set_self]
      simp [accepted]
  | turnedAway standing moved =>
      refine .kept (owes.trans (callback_same _ _)) fun waits => ?_
      rcases moved with busy | ⟨outcome, halted⟩
      · rw [busy] at waits; cases waits
      · rw [halted] at waits; cases waits
  | waits standing moved => exact .kept (owes.trans (callback_same _ _)) fun _ => standing
  | finds standing found moved =>
      exact .kept (owes.trans (callback_same _ _)) fun waits => by rw [moved] at waits; cases waits
  | @declines status reason standing declined moved =>
      rcases decide_cases manager thread.approval.request.transferId status (some reason) with
        same | ⟨entry, found, pending, decided⟩
      · rw [same] at owes ⊢
        exact .kept (owes.trans (callback_same _ _)) fun _ => standing
      · rw [decided] at owes ⊢
        refine .declined standing found pending declined ?_
        rw [owes, IncomingRequestManager.callback, SessionThread.transferId, found, Dict.get_set_self]
        simp [pending, declined.2]
  | fails standing moved => exact .kept (owes.trans (callback_same _ _)) fun _ => standing
  | enters standing accepted moved =>
      exact .kept (owes.trans (callback_same _ _)) fun waits => by rw [moved] at waits; cases waits
  | answers standing declined moved =>
      exact .kept (owes.trans (callback_same _ _)) fun waits => by rw [moved] at waits; cases waits
  | receives standing moved =>
      exact .kept (owes.trans (callback_same _ _)) fun waits => by rw [moved] at waits; cases waits

end

/-! ## Steps -/

/-- One step of a receiver with its history. -/
inductive HistoryMove (platform : Platform) (system : HistorySystem) :
    HistoryLabel → HistorySystem → Prop where
  | offered {payload : Json} {peerDeviceId peerIp : PyStr} {peerName : Option PyStr}
      {receivedAt : Time} {offer : TransferOffer} (valid : validateOffer platform payload = .ok offer) :
      HistoryMove platform system (.offered payload peerDeviceId peerIp peerName receivedAt)
        { system with threads := system.threads ++
          [⟨⟨incomingRequest offer peerDeviceId peerIp peerName receivedAt, .publish, none, false⟩,
            none, none, .waiting⟩] }
  | approved {index : Nat} {event : Event} {thread after : SessionThread}
      {manager : IncomingRequestManager} (found : system.threads[index]? = some thread)
      (approved : thread.approve system.manager event = some (manager, after)) :
      HistoryMove platform system (.session index event)
        { system with manager, threads := system.threads.set index after }
  | advanced {index : Nat} {event : ReceiveEvent} {thread after : SessionThread}
      {registry : Registry} (found : system.threads[index]? = some thread)
      (advanced : thread.advance system.registry event = some (registry, after)) :
      HistoryMove platform system (.receive index event)
        { system with registry, threads := system.threads.set index after }
  | called {index : Nat} {ok : Bool} {now : Time} {thread : SessionThread}
      {callback : ManagerCallback} (found : system.threads[index]? = some thread)
      (owes : thread.owes = some callback) :
      HistoryMove platform system (.callback index ok now) { system with
        store := if ok then callback.write system.store now else system.store
        threads := system.threads.set index { thread with owes := none } }
  | late {transferId : PyStr} {how : Deciding} :
      HistoryMove platform system (.decide transferId how) system
  | decides {transferId : PyStr} {how : Deciding} {entry : PendingDecision}
      {status : IncomingRequestStatus} {reason : Option PyStr}
      (found : system.manager.entries.get transferId = some entry)
      (pending : entry.request.status = .pendingApproval) (settled : status ≠ .pendingApproval)
      (accepts : status = .accepted ↔ how = .accept) :
      HistoryMove platform system (.decide transferId how) { system with
        manager := { system.manager with
          entries := system.manager.entries.set transferId
            ⟨{ entry.request with status, reason }, entry.event⟩
          signalled := entry.event :: system.manager.signalled }
        decisions := system.decisions ++ [{ entry.request with status, reason }] }
  | told {index : Nat} {ok : Bool} {now : Time} {request : IncomingTransferRequest}
      (found : system.decisions[index]? = some request) :
      HistoryMove platform system (.decided index ok now) { system with
        store := if ok then handleRequestDecision system.store request now else system.store
        decisions := system.decisions.eraseIdx index }
  | sends {info : TransferInfo} (may : system.mayAdd info = true) :
      HistoryMove platform system (.send info) { system with sent := system.sent ++ [info] }
  | changes {index : Nat} {info old : TransferInfo} (found : system.sent[index]? = some old)
      (may : HistorySystem.mayChange old info = true) :
      HistoryMove platform system (.sending index info)
        { system with sent := system.sent.set index info }
  | starts {now : Time} (idle : system.run = none) :
      HistoryMove platform system (.notify none now)
        { system with run := some ⟨none, now, system.grouped, .head⟩ }
  | notifies {index : Nat} {now : Time} {thread : SessionThread} {session : ReceiveSession}
      (idle : system.run = none) (found : system.threads[index]? = some thread)
      (inside : thread.receive = some session) (notifies : session.phase.notifies = true)
      (waiting : thread.notice = .waiting) :
      HistoryMove platform system (.notify (some index) now) { system with
        run := some ⟨some index, now, system.grouped, .head⟩
        threads := system.threads.set index { thread with notice := .running } }
  | persists {run : PersistRun} {ok : Bool} {hostname : Option PyStr} {next : HistorySystem}
      (running : system.run = some run) (move : PersistMove system run ok hostname next) :
      HistoryMove platform system (.persist ok hostname) next
  | restarts : HistoryMove platform system .restart (.start system.manager.maxPending system.store)

section

variable {platform : Platform} {system next : HistorySystem} {label : HistoryLabel}

theorem deciding_status (manager : IncomingRequestManager) (transferId : PyStr) (how : Deciding) :
    ∃ status reason, status ≠ .pendingApproval ∧ (status = .accepted ↔ how = .accept) ∧
      HistorySystem.deciding manager transferId how = manager.decide transferId status reason := by
  cases how with
  | accept => exact ⟨_, _, by simp, by simp, rfl⟩
  | reject reason => exact ⟨_, _, by simp, by simp, rfl⟩
  | cancel reason => exact ⟨_, _, by simp, by simp, rfl⟩

theorem historyStep_moves (coherent : Coherent system)
    (stepped : historyStep platform system label = some next) :
    HistoryMove platform system label next := by
  cases label with
  | offered payload peerDeviceId peerIp peerName receivedAt =>
      simp only [historyStep] at stepped
      split at stepped <;> cases stepped
      next offer valid => exact .offered valid
  | session index event =>
      simp only [historyStep, Option.bind_eq_bind, Option.bind_eq_some_iff] at stepped
      obtain ⟨thread, found, ⟨manager, after⟩, approved, finished⟩ := stepped
      cases finished
      exact .approved found approved
  | receive index event =>
      simp only [historyStep, Option.bind_eq_bind, Option.bind_eq_some_iff] at stepped
      obtain ⟨thread, found, ⟨registry, after⟩, advanced, finished⟩ := stepped
      cases finished
      exact .advanced found advanced
  | callback index ok now =>
      simp only [historyStep, Option.bind_eq_bind, Option.bind_eq_some_iff] at stepped
      obtain ⟨thread, found, callback, owes, finished⟩ := stepped
      cases finished
      exact .called found owes
  | decide transferId how =>
      obtain ⟨status, reason, settled, accepts, same⟩ :=
        deciding_status system.manager transferId how
      simp only [historyStep, same] at stepped
      cases stepped
      rcases decide_cases system.manager transferId status reason with
        unchanged | ⟨entry, found, pending, decided⟩
      · rw [unchanged]
        exact .late
      · rw [decided]
        have keyed := coherent.manager.keyed transferId entry found
        simp only [↓reduceIte, IncomingRequestManager.getRequest, Dict.get_set_self,
          Option.map_some, Option.toList_some]
        exact .decides found pending settled accepts
  | decided index ok now =>
      simp only [historyStep, Option.bind_eq_bind, Option.bind_eq_some_iff] at stepped
      obtain ⟨request, found, finished⟩ := stepped
      cases finished
      exact .told found
  | send info =>
      simp only [historyStep] at stepped
      split at stepped <;> cases stepped
      next may => exact .sends may
  | sending index info =>
      simp only [historyStep, Option.bind_eq_bind, Option.bind_eq_some_iff] at stepped
      obtain ⟨old, found, finished⟩ := stepped
      split at finished <;> cases finished
      next may => exact .changes found may
  | notify owner now =>
      simp only [historyStep] at stepped
      split at stepped
      · cases stepped
      · next idle => cases stepped; exact .starts idle
      · next idle =>
          simp only [Option.bind_eq_bind, Option.bind_eq_some_iff] at stepped
          obtain ⟨thread, found, session, inside, finished⟩ := stepped
          split at finished <;> cases finished
          next ready => exact .notifies idle found inside ready.1 ready.2
  | persist ok hostname =>
      simp only [historyStep, Option.bind_eq_bind, Option.bind_eq_some_iff] at stepped
      obtain ⟨run, running, finished⟩ := stepped
      cases finished
      exact .persists running (persistStep_moves system run ok hostname)
  | restart => cases stepped; exact .restarts

end

/-! ## Steps that leave the inbox alone -/

def HistoryLabel.quiet : HistoryLabel → Bool
  | .receive _ _ | .send _ | .sending _ _ | .notify _ _ | .persist _ _ => true
  | _ => false

/-- Requests, decisions and callbacks stand as they stood. -/
structure Quiet (system next : HistorySystem) : Prop where
  manager : next.manager = system.manager
  decisions : next.decisions = system.decisions
  threads : ∀ index : Nat, (next.threads[index]?).map (fun thread => (thread.approval, thread.owes)) =
    (system.threads[index]?).map fun thread => (thread.approval, thread.owes)

section

variable {platform : Platform} {system next : HistorySystem} {label : HistoryLabel}

theorem Quiet.before {index : Nat} {thread : SessionThread} (quiet : Quiet system next)
    (found : next.threads[index]? = some thread) :
    ∃ before, system.threads[index]? = some before ∧ thread.approval = before.approval ∧
      thread.owes = before.owes := by
  have same := quiet.threads index
  rw [found] at same
  obtain ⟨before, there, equal⟩ := Option.map_eq_some_iff.mp same.symm
  obtain ⟨approval, owes⟩ := Prod.mk.inj equal
  exact ⟨before, there, approval.symm, owes.symm⟩

theorem Quiet.after {index : Nat} {thread : SessionThread} (quiet : Quiet system next)
    (found : system.threads[index]? = some thread) :
    ∃ after, next.threads[index]? = some after ∧ after.approval = thread.approval ∧
      after.owes = thread.owes := by
  have same := quiet.threads index
  rw [found] at same
  obtain ⟨after, there, equal⟩ := Option.map_eq_some_iff.mp same
  obtain ⟨approval, owes⟩ := Prod.mk.inj equal
  exact ⟨after, there, approval, owes⟩

/-- A thread that is replaced by one with the same request and callback. -/
theorem threads_set_same {threads : List SessionThread} {index : Nat} {thread after : SessionThread}
    (found : threads[index]? = some thread) (approval : after.approval = thread.approval)
    (owes : after.owes = thread.owes) (place : Nat) :
    ((threads.set index after)[place]?).map (fun thread => (thread.approval, thread.owes)) =
      (threads[place]?).map fun thread => (thread.approval, thread.owes) := by
  by_cases here : index = place
  · subst here
    rw [List.getElem?_set_self (List.getElem?_eq_some_iff.mp found).1, found]
    simp [approval, owes]
  · rw [List.getElem?_set_ne here]

theorem HistoryMove.isQuiet (coherent : Coherent system)
    (move : HistoryMove platform system label next) (quiet : label.quiet = true) :
    Quiet system next := by
  cases move with
  | @advanced index event thread after registry found advanced =>
      have sound := coherent.threads thread (List.mem_of_getElem? found)
      obtain ⟨_, _, approval, owes⟩ := advance_sound coherent.keyed sound advanced
      exact ⟨rfl, rfl, threads_set_same found approval owes⟩
  | sends may => exact ⟨rfl, rfl, fun _ => rfl⟩
  | changes found may => exact ⟨rfl, rfl, fun _ => rfl⟩
  | starts idle => exact ⟨rfl, rfl, fun _ => rfl⟩
  | notifies idle found inside notifies waiting => exact ⟨rfl, rfl, threads_set_same found rfl rfl⟩
  | @persists run ok hostname next running move =>
      cases move with
      | finished halted =>
          refine ⟨rfl, rfl, fun index => ?_⟩
          dsimp only
          split
          · rw [List.getElem?_modify, Option.map_eq_map, Option.map_map]
            congr 1
            funext thread
            simp only [Function.comp_apply]
            split <;> rfl
          · rfl
      | _ => exact ⟨rfl, rfl, fun _ => rfl⟩
  | _ => cases quiet

end

/-! ## Rows -/

/-- The callback a step runs. -/
def HistorySystem.calls (system : HistorySystem) : HistoryLabel → Option ManagerCallback
  | .callback index _ _ => (system.threads[index]?).bind SessionThread.owes
  | .decided index _ _ => (system.decisions[index]?).map .onDecision
  | _ => none

/-- Whether the store call of a step, if it makes one, succeeds. -/
def HistoryLabel.stored : HistoryLabel → Bool
  | .callback _ ok _ | .decided _ ok _ | .persist ok _ => ok
  | _ => true

/-- A callback that has been decided on and not run. -/
def HistorySystem.InFlight (system : HistorySystem) (callback : ManagerCallback) : Prop :=
  (∃ thread ∈ system.threads, thread.owes = some callback) ∨
    ∃ decided ∈ system.decisions, callback = .onDecision decided

/-- The row of a request has still to be written for the first time. -/
def HistorySystem.Announcing (system : HistorySystem) (transferId : PyStr) : Prop :=
  ∃ (index : Nat) (thread : SessionThread) (request : IncomingTransferRequest),
    system.threads[index]? = some thread ∧ thread.owes = some (.onRequest request) ∧
      request.transferId = transferId

/-- A decision on a request has still to be written. -/
def HistorySystem.Telling (system : HistorySystem) (transferId : PyStr) : Prop :=
  ∃ decided : IncomingTransferRequest, system.InFlight (.onDecision decided) ∧
    decided.transferId = transferId

/-- What a step makes of the entry of a transfer. -/
inductive EntryMove (system next : HistorySystem) (label : HistoryLabel) (transferId : PyStr) :
    Option PendingDecision → Prop where
  | kept : EntryMove system next label transferId (system.manager.entries.get transferId)
  | published {index event : _} {thread : SessionThread} (is : label = .session index event)
      (found : system.threads[index]? = some thread) (standing : thread.approval.phase = .publish)
      (own : thread.transferId = transferId)
      (free : system.manager.entries.get transferId = none) (announcing : next.Announcing transferId) :
      EntryMove system next label transferId
        (some ⟨thread.approval.request, system.manager.fresh⟩)
  | readmitted {existing : PendingDecision} {index event : _} {thread : SessionThread}
      (is : label = .session index event) (at' : system.threads[index]? = some thread)
      (standing : thread.approval.phase = .publish) (own : thread.transferId = transferId)
      (found : system.manager.entries.get transferId = some existing)
      (same : sameOffer existing.request thread.approval.request = true)
      (accepted : existing.request.status = .accepted) :
      EntryMove system next label transferId
        (some ⟨{ thread.approval.request with status := .accepted }, system.manager.fresh⟩)
  | declined {index event : _} {thread : SessionThread} {entry : PendingDecision}
      {status : IncomingRequestStatus} {reason : PyStr} (is : label = .session index event)
      (at' : system.threads[index]? = some thread) (waits : thread.approval.phase.awaits = true)
      (idle : thread.owes = none) (own : thread.transferId = transferId)
      (found : system.manager.entries.get transferId = some entry)
      (pending : entry.request.status = .pendingApproval)
      (declined : status ≠ .accepted ∧ status ≠ .pendingApproval) (telling : next.Telling transferId) :
      EntryMove system next label transferId
        (some ⟨{ entry.request with status, reason := some reason }, entry.event⟩)
  | decided {how : Deciding} {entry : PendingDecision} {status : IncomingRequestStatus}
      {reason : Option PyStr} (is : label = .decide transferId how)
      (found : system.manager.entries.get transferId = some entry)
      (pending : entry.request.status = .pendingApproval) (settled : status ≠ .pendingApproval)
      (accepts : status = .accepted ↔ how = .accept) (telling : next.Telling transferId) :
      EntryMove system next label transferId
        (some ⟨{ entry.request with status, reason }, entry.event⟩)

section

variable {platform : Platform} {system next : HistorySystem} {label : HistoryLabel}
  {transferId : PyStr}

theorem calls_inFlight {callback : ManagerCallback} (calls : system.calls label = some callback) :
    system.InFlight callback := by
  unfold HistorySystem.calls at calls
  split at calls
  · obtain ⟨thread, found, owes⟩ := Option.bind_eq_some_iff.mp calls
    exact .inl ⟨thread, List.mem_of_getElem? found, owes⟩
  · obtain ⟨request, found, rfl⟩ := Option.map_eq_some_iff.mp calls
    exact .inr ⟨request, List.mem_of_getElem? found, rfl⟩
  · cases calls

theorem HistoryMove.entry (coherent : Coherent system)
    (move : HistoryMove platform system label next) (running : label ≠ .restart)
    (transferId : PyStr) :
    EntryMove system next label transferId (next.manager.entries.get transferId) := by
  cases move with
  | @approved index event thread after manager found approved =>
      obtain ⟨idle, _⟩ := approve_cases approved
      have inbox := approve_inbox approved
      have bound := (List.getElem?_eq_some_iff.mp found).1
      by_cases own : transferId = thread.transferId
      · subst own
        cases inbox with
        | kept owes waits => exact .kept
        | published standing free owes =>
            rw [Dict.get_set_self]
            exact .published rfl found standing rfl free
              ⟨index, after, _, List.getElem?_set_self bound, owes, rfl⟩
        | readmitted standing there same accepted owes =>
            rw [Dict.get_set_self]
            exact .readmitted rfl found standing rfl there same accepted
        | declined waits there pending declined owes =>
            rw [Dict.get_set_self]
            refine .declined rfl found waits idle rfl there pending declined ?_
            refine ⟨_, .inl ⟨after, List.mem_set bound after, owes⟩, ?_⟩
            exact coherent.manager.keyed _ _ there
      · cases inbox with
        | kept owes waits => exact .kept
        | _ => rw [Dict.get_set_ne own]; exact .kept
  | @decides current how entry status reason found pending settled accepts =>
      by_cases own : transferId = current
      · subst own
        rw [Dict.get_set_self]
        refine .decided rfl found pending settled accepts ?_
        exact ⟨_, .inr ⟨_, List.mem_append_right _ (List.mem_singleton_self _), rfl⟩,
          coherent.manager.keyed _ _ found⟩
      · rw [Dict.get_set_ne own]
        exact .kept
  | restarts => exact absurd rfl running
  | persists running move => cases move <;> exact .kept
  | _ => exact .kept

/-- A publication in flight was in flight, or has just been decided on. -/
theorem HistoryMove.announcing (coherent : Coherent system)
    (move : HistoryMove platform system label next) (announcing : next.Announcing transferId) :
    system.Announcing transferId ∨ ∃ index event thread, label = .session index event ∧
      system.threads[index]? = some thread ∧ thread.approval.phase = .publish ∧
      thread.transferId = transferId ∧ system.manager.entries.get transferId = none := by
  obtain ⟨place, thread, request, found, owes, own⟩ := announcing
  by_cases quiet : label.quiet = true
  · obtain ⟨before, there, _, same⟩ := (move.isQuiet coherent quiet).before found
    exact .inl ⟨place, before, request, there, same ▸ owes, own⟩
  · cases move with
    | offered valid =>
        rw [List.getElem?_append] at found
        split at found
        · exact .inl ⟨place, thread, request, found, owes, own⟩
        · rw [List.getElem?_singleton] at found
          split at found <;> cases found
          cases owes
    | @approved index event before after manager at' approved =>
        rw [List.getElem?_set] at found
        split at found
        · split at found <;> cases found
          cases approve_inbox approved with
          | published standing free owed =>
              cases owed.symm.trans owes
              exact .inr ⟨index, event, before, rfl, at', standing, own, own ▸ free⟩
          | kept owed => rw [owed] at owes; cases owes
          | readmitted _ _ _ _ owed => rw [owed] at owes; cases owes
          | declined _ _ _ _ owed => rw [owed] at owes; cases owes
        · exact .inl ⟨place, thread, request, found, owes, own⟩
    | called at' owed =>
        rw [List.getElem?_set] at found
        split at found
        · split at found <;> cases found
          cases owes
        · exact .inl ⟨place, thread, request, found, owes, own⟩
    | restarts => cases found
    | late | decides | told => exact .inl ⟨place, thread, request, found, owes, own⟩
    | _ => exact absurd rfl quiet

/-- A publication stays in flight until it is run. -/
theorem HistoryMove.announcing_kept (coherent : Coherent system)
    (move : HistoryMove platform system label next) (running : label ≠ .restart)
    (announcing : system.Announcing transferId) :
    next.Announcing transferId ∨ ∃ request, system.calls label = some (.onRequest request) ∧
      request.transferId = transferId := by
  obtain ⟨place, thread, request, found, owes, own⟩ := announcing
  by_cases quiet : label.quiet = true
  · obtain ⟨after, there, _, same⟩ := (move.isQuiet coherent quiet).after found
    exact .inl ⟨place, after, request, there, same ▸ owes, own⟩
  · cases move with
    | offered valid =>
        refine .inl ⟨place, thread, request, ?_, owes, own⟩
        exact (List.getElem?_append_left (List.getElem?_eq_some_iff.mp found).1).trans found
    | @approved index event before after manager at' approved =>
        obtain ⟨idle, _⟩ := approve_cases approved
        by_cases here : index = place
        · subst here
          cases at'.symm.trans found
          rw [idle] at owes
          cases owes
        · exact .inl ⟨place, thread, request, (List.getElem?_set_ne here).trans found, owes, own⟩
    | @called index ok now before callback at' owed =>
        by_cases here : index = place
        · subst here
          cases at'.symm.trans found
          exact .inr ⟨request, by rw [HistorySystem.calls, at']; exact owes, own⟩
        · exact .inl ⟨place, thread, request, (List.getElem?_set_ne here).trans found, owes, own⟩
    | restarts => exact absurd rfl running
    | late | decides | told => exact .inl ⟨place, thread, request, found, owes, own⟩
    | _ => exact absurd rfl quiet

/-- A decision stays in flight until it is run. -/
theorem HistoryMove.telling_kept (coherent : Coherent system)
    (move : HistoryMove platform system label next) (running : label ≠ .restart)
    (telling : system.Telling transferId) :
    next.Telling transferId ∨ ∃ decided, system.calls label = some (.onDecision decided) ∧
      decided.transferId = transferId := by
  obtain ⟨decided, flight, own⟩ := telling
  rcases flight with ⟨thread, member, owes⟩ | ⟨other, member, same⟩
  · obtain ⟨place, found⟩ := List.mem_iff_getElem?.mp member
    have stays {after : SessionThread} (there : next.threads[place]? = some after)
        (owed : after.owes = some (.onDecision decided)) : next.Telling transferId :=
      ⟨decided, .inl ⟨after, List.mem_of_getElem? there, owed⟩, own⟩
    by_cases quiet : label.quiet = true
    · obtain ⟨after, there, _, same⟩ := (move.isQuiet coherent quiet).after found
      exact .inl (stays there (same ▸ owes))
    · cases move with
      | offered valid =>
          refine .inl (stays ?_ owes)
          exact (List.getElem?_append_left (List.getElem?_eq_some_iff.mp found).1).trans found
      | @approved index event before after manager at' approved =>
          obtain ⟨idle, _⟩ := approve_cases approved
          by_cases here : index = place
          · subst here
            cases at'.symm.trans found
            rw [idle] at owes
            cases owes
          · exact .inl (stays ((List.getElem?_set_ne here).trans found) owes)
      | @called index ok now before callback at' owed =>
          by_cases here : index = place
          · subst here
            cases at'.symm.trans found
            exact .inr ⟨decided, by rw [HistorySystem.calls, at']; exact owes, own⟩
          · exact .inl (stays ((List.getElem?_set_ne here).trans found) owes)
      | restarts => exact absurd rfl running
      | late | decides | told => exact .inl (stays found owes)
      | _ => exact absurd rfl quiet
  · cases same
    by_cases quiet : label.quiet = true
    · refine .inl ⟨decided, .inr ⟨decided, ?_, rfl⟩, own⟩
      rw [(move.isQuiet coherent quiet).decisions]
      exact member
    · cases move with
      | @told index ok now request at' =>
          by_cases here : decided = request
          · subst here
            exact .inr ⟨decided, by rw [HistorySystem.calls, at']; rfl, own⟩
          · obtain ⟨place, found⟩ := List.mem_iff_getElem?.mp member
            refine .inl ⟨decided, .inr ⟨decided, List.mem_eraseIdx_iff_getElem?.mpr ?_, rfl⟩, own⟩
            refine ⟨place, fun equal => here ?_, found⟩
            subst equal
            exact Option.some.inj (found.symm.trans at')
      | restarts => exact absurd rfl running
      | decides =>
          exact .inl ⟨decided, .inr ⟨decided, List.mem_append_left _ member, rfl⟩, own⟩
      | offered | approved | called | late => exact .inl ⟨decided, .inr ⟨decided, member, rfl⟩, own⟩
      | _ => exact absurd rfl quiet

theorem calls_announcing {request : IncomingTransferRequest}
    (calls : system.calls label = some (.onRequest request)) : system.Announcing request.transferId := by
  unfold HistorySystem.calls at calls
  split at calls
  · obtain ⟨thread, found, owes⟩ := Option.bind_eq_some_iff.mp calls
    exact ⟨_, thread, request, found, owes, rfl⟩
  · obtain ⟨_, _, other⟩ := Option.map_eq_some_iff.mp calls
    cases other
  · cases calls

/-- A callback whose store call succeeds has written its row. -/
theorem HistoryMove.written (move : HistoryMove platform system label next)
    (stored : label.stored = true) {callback : ManagerCallback}
    (calls : system.calls label = some callback) :
    ∃ now, next.store = callback.write system.store now := by
  cases move with
  | @called index ok now thread owed found owes =>
      rw [HistorySystem.calls, found] at calls
      cases owes.symm.trans calls
      exact ⟨now, if_pos stored⟩
  | @told index ok now request found =>
      rw [HistorySystem.calls, found] at calls
      cases calls
      exact ⟨now, if_pos stored⟩
  | _ => cases calls

/-- A callback that runs is of an entry, and tells its decision. -/
theorem calls_known (coherent : Coherent system) {callback : ManagerCallback}
    (calls : system.calls label = some callback) :
    ∃ entry, system.manager.entries.get callback.request.transferId = some entry ∧
      ∀ decided, callback = .onDecision decided →
        entry.request.status = decided.status ∧ decided.status ≠ .pendingApproval := by
  rcases calls_inFlight calls with ⟨thread, member, owes⟩ | ⟨decided, member, rfl⟩
  · have sound := coherent.threads thread member
    cases callback with
    | onRequest request =>
        obtain ⟨_, entry, found, _⟩ := sound.requests request owes
        exact ⟨entry, found, fun _ equal => nomatch equal⟩
    | onDecision decided =>
        obtain ⟨_, settled, entry, found, _, same⟩ := sound.decides decided owes
        exact ⟨entry, found, fun _ equal => by cases equal; exact ⟨same, settled⟩⟩
  · obtain ⟨settled, entry, found, _, same⟩ := coherent.decisions decided member
    exact ⟨entry, found, fun _ equal => by cases equal; exact ⟨same, settled⟩⟩

end

/-- What a step makes of the row of a transfer. -/
inductive RowMove (system : HistorySystem) (label : HistoryLabel) (transferId : PyStr) :
    Option TransferRecord → Prop where
  | same : RowMove system label transferId (system.store.transfers.get transferId)
  | called {callback : ManagerCallback} {now : Time} (calls : system.calls label = some callback)
      (own : callback.request.transferId = transferId) :
      RowMove system label transferId ((callback.write system.store now).transfers.get transferId)
  | stored {run : PersistRun} {ok : Bool} {hostname : Option PyStr} {turn : PersistTurn}
      {refs : List RecordRef} {rest : List (PyStr × List RecordRef)}
      (is : label = .persist ok hostname)
      (running : system.run = some run) (current : run.groups = (transferId, refs) :: rest)
      (standing : run.phase = .create turn) (own : turn.transferId = transferId) :
      RowMove system label transferId
        ((system.store.createTransfer turn.record turn.files).transfers.get transferId)

section

variable {platform : Platform} {system next : HistorySystem} {label : HistoryLabel}

theorem write_other {store : TransferHistoryStore} {callback : ManagerCallback} {now : Time}
    {transferId : PyStr} (different : transferId ≠ callback.request.transferId) :
    (callback.write store now).transfers.get transferId = store.transfers.get transferId := by
  cases callback with
  | onRequest request => exact TransferHistoryStore.createTransfer_other different
  | onDecision decided => exact TransferHistoryStore.updateTransfer_other different

theorem HistoryMove.row (coherent : Coherent system)
    (move : HistoryMove platform system label next) (running : label ≠ .restart) (transferId : PyStr) :
    RowMove system label transferId (next.store.transfers.get transferId) := by
  have write (callback : ManagerCallback) (ok : Bool) (now : Time)
      (calls : system.calls label = some callback) : RowMove system label transferId
        ((if ok then callback.write system.store now else system.store).transfers.get transferId) := by
    split
    · by_cases own : transferId = callback.request.transferId
      · exact .called calls own.symm
      · rw [write_other own]
        exact .same
    · exact .same
  cases move with
  | @called index ok now thread callback found owes =>
      exact write callback ok now (by rw [HistorySystem.calls, found]; exact owes)
  | @told index ok now request found =>
      exact write (.onDecision request) ok now (by rw [HistorySystem.calls, found]; rfl)
  | @persists run ok hostname next isRunning move =>
      cases move with
      | @stored current refs rest turn at' standing =>
          have phase := (coherent.run run isRunning).phase
          unfold PhaseSound at phase
          rw [standing] at phase
          obtain ⟨_, _, _, again, keyed, _⟩ := phase
          cases at'.symm.trans again
          subst keyed
          dsimp only [PersistTurn.write]
          split
          · by_cases own : transferId = turn.transferId
            · cases own
              exact .stored rfl isRunning at' standing rfl
            · have other : transferId ≠ turn.record.transferId := own
              rw [TransferHistoryStore.createTransfer_other other]
              exact .same
          · exact .same
      | _ => exact .same
  | restarts => exact absurd rfl running
  | _ => exact .same

end

/-! ## Statuses of rows -/

namespace TransferHistoryStore

def rowStatus (store : TransferHistoryStore) (transferId : PyStr) : Option TransferStatus :=
  (store.transfers.get transferId).map TransferRecord.status

/-- The status a row gets that is written again. -/
def mergedStatus (old : Option TransferStatus) (status : TransferStatus) : TransferStatus :=
  if old = some .complete ∧ status ∈ yieldsToComplete then .complete else status

/-- The status a row gets that is updated. -/
def updatedStatus (status old : TransferStatus) : TransferStatus :=
  if status ∈ interruptible ∧ old = .complete then old else status

theorem createTransfer_status (store : TransferHistoryStore) (record : TransferRecord)
    (files : List TransferFileRecord) :
    ((store.createTransfer record files).transfers.get record.transferId).map TransferRecord.status =
      some (mergedStatus (store.rowStatus record.transferId) record.status) := by
  rw [createTransfer_row, rowStatus]
  cases store.transfers.get record.transferId with
  | none => simp [mergedStatus]
  | some old =>
      simp only [Option.map_some, Option.some.injEq, mergeTransfer, mergedStatus]
      split
      · next keeps => exact keeps.1
      · rfl

theorem updateTransfer_status (store : TransferHistoryStore) (transferId : PyStr)
    (status : TransferStatus) (completedAt : Option Time) (error : Option PyStr)
    (fileStatus : Option TransferStatus) :
    ((store.updateTransfer transferId status completedAt error fileStatus).transfers.get
      transferId).map TransferRecord.status =
      (store.rowStatus transferId).map (updatedStatus status) := by
  rw [rowStatus]
  cases found : store.transfers.get transferId with
  | none => rw [updateTransfer_none found, found]; rfl
  | some old =>
      rw [updateTransfer_row found]
      simp only [Option.map_some, Option.some.injEq, updatedStatus]
      split <;> rfl

end TransferHistoryStore

/-- What a step makes of the status of a row. -/
inductive StatusMove (system : HistorySystem) (label : HistoryLabel) (transferId : PyStr) :
    Option TransferStatus → Prop where
  | same : StatusMove system label transferId (system.store.rowStatus transferId)
  | announced {request : IncomingTransferRequest}
      (calls : system.calls label = some (.onRequest request)) (own : request.transferId = transferId) :
      StatusMove system label transferId (some
        (TransferHistoryStore.mergedStatus (system.store.rowStatus transferId) .pendingApproval))
  | told {decided : IncomingTransferRequest}
      (calls : system.calls label = some (.onDecision decided))
      (own : decided.transferId = transferId) :
      StatusMove system label transferId ((system.store.rowStatus transferId).map
        (TransferHistoryStore.updatedStatus (decisionStatus decided.status)))
  | stored {run : PersistRun} {ok : Bool} {hostname : Option PyStr} {turn : PersistTurn}
      {refs : List RecordRef} {rest : List (PyStr × List RecordRef)}
      (is : label = .persist ok hostname)
      (running : system.run = some run) (current : run.groups = (transferId, refs) :: rest)
      (standing : run.phase = .create turn) (own : turn.transferId = transferId) :
      StatusMove system label transferId (some
        (TransferHistoryStore.mergedStatus (system.store.rowStatus transferId) turn.status))

section

variable {platform : Platform} {system next : HistorySystem} {label : HistoryLabel}

theorem HistoryMove.status (coherent : Coherent system)
    (move : HistoryMove platform system label next) (running : label ≠ .restart) (transferId : PyStr) :
    StatusMove system label transferId (next.store.rowStatus transferId) := by
  have row := move.row coherent running transferId
  unfold TransferHistoryStore.rowStatus
  generalize next.store.transfers.get transferId = after at row
  cases row with
  | same => exact .same
  | @called callback now calls own =>
      cases callback with
      | onRequest request =>
          cases own
          simp only [ManagerCallback.write, ManagerCallback.request, handleIncomingRequest]
          rw [TransferHistoryStore.createTransfer_status]
          exact .announced calls rfl
      | onDecision decided =>
          cases own
          simp only [ManagerCallback.write, ManagerCallback.request, handleRequestDecision]
          rw [TransferHistoryStore.updateTransfer_status]
          exact .told calls rfl
  | @stored run ok hostname turn refs rest is isRunning current standing own =>
      cases own
      have merged := TransferHistoryStore.createTransfer_status system.store turn.record turn.files
      rw [show turn.record.transferId = turn.transferId from rfl] at merged
      rw [merged]
      exact .stored is isRunning current standing rfl

end

/-! ## What a scan has still to look for -/

/-- A record with this status is still to be found by the scan. -/
def Ahead (status : TransferStatus) (ref : RecordRef) (priorities : List TransferStatus)
    (left : List InfoRef) : Prop :=
  ∃ priority later, priorities = priority :: later ∧
    (status ∈ later ∨ status = priority ∧ .live ref ∈ left)

/-! ## Transfers with records -/

/-- The transfers a runtime update may store: of an accepted request, or outgoing. -/
def HistorySystem.Recorded (system : HistorySystem) (transferId : PyStr) : Prop :=
  (∃ entry, system.manager.entries.get transferId = some entry ∧ entry.request.status = .accepted) ∨
    ∃ info ∈ system.sent, info.transferId = transferId

/-- No outgoing record has the identifier of an offer. -/
def Apart (system : HistorySystem) : Prop :=
  ∀ info ∈ system.sent, system.manager.entries.get info.transferId = none

theorem PersistRun.current_mem {run : PersistRun} {group : PyStr × List RecordRef}
    {rest : List (PyStr × List RecordRef)} (current : run.groups = group :: rest) :
    group ∈ run.groups := by
  rw [current]
  exact List.mem_cons_self ..

section

variable {platform : Platform} {system next : HistorySystem} {label : HistoryLabel}
  {transferId : PyStr}

theorem read_recorded (coherent : Coherent system) {ref : RecordRef} {info : TransferInfo}
    (read : system.read ref = some info) : system.Recorded info.transferId := by
  rcases read_owner coherent read with accepted | sent
  · exact .inl accepted
  · exact .inr ⟨info, sent, rfl⟩

/-- A transfer that an update is to store has records. -/
theorem group_recorded (coherent : Coherent system) {run : PersistRun} (running : system.run = some run)
    {group : PyStr × List RecordRef} (member : group ∈ run.groups) : system.Recorded group.1 := by
  obtain ⟨some, _, reads⟩ := (coherent.run run running).groups group member
  obtain ⟨ref, isRef⟩ := List.exists_mem_of_ne_nil _ some
  obtain ⟨info, read, transfer⟩ := reads ref isRef
  exact transfer ▸ read_recorded coherent read

/-- An entry of a recorded transfer is accepted. -/
theorem Apart.accepted (apart : Apart system) (recorded : system.Recorded transferId)
    {entry : PendingDecision} (found : system.manager.entries.get transferId = some entry) :
    entry.request.status = .accepted := by
  rcases recorded with ⟨other, there, accepted⟩ | ⟨info, member, rfl⟩
  · cases found.symm.trans there
    exact accepted
  · rw [apart info member] at found
    cases found

theorem sent_before (move : HistoryMove platform system label next) {info : TransferInfo}
    (member : info ∈ next.sent) : (∃ old ∈ system.sent, old.transferId = info.transferId) ∨
      label = .send info ∧ system.mayAdd info = true := by
  cases move with
  | sends may =>
      rcases List.mem_append.mp member with old | new
      · exact .inl ⟨info, old, rfl⟩
      · cases List.mem_singleton.mp new
        exact .inr ⟨rfl, may⟩
  | changes found may =>
      rcases List.mem_or_eq_of_mem_set member with old | rfl
      · exact .inl ⟨info, old, rfl⟩
      · exact .inl ⟨_, List.mem_of_getElem? found, (mayChange_same may).1.transferId.symm⟩
  | restarts => cases member
  | persists running move => cases move <;> exact .inl ⟨info, member, rfl⟩
  | _ => exact .inl ⟨info, member, rfl⟩

/-- A further outgoing record is of a known outgoing transfer, or under an unused identifier. -/
theorem mayAdd_cases {info : TransferInfo} (may : system.mayAdd info = true) :
    (∃ old ∈ system.sent, old.transferId = info.transferId) ∨
      system.manager.entries.get info.transferId = none ∧
        system.store.transfers.get info.transferId = none := by
  simp only [HistorySystem.mayAdd, Bool.and_eq_true, Bool.or_eq_true, List.any_eq_true,
    decide_eq_true_eq, Bool.not_eq_true'] at may
  rcases may.1.2 with known | unused
  · exact .inl known
  · simp only [HistorySystem.uses, Bool.or_eq_false_iff, Option.isSome_eq_false_iff,
      Option.isNone_iff_eq_none] at unused
    exact .inr unused.1

/-- Outgoing records stay apart from offers as long as offers do not take their identifiers. -/
theorem Apart.step (apart : Apart system) (coherent : Coherent system)
    (move : HistoryMove platform system label next) (running : label ≠ .restart)
    (fresh : ∀ index event thread, label = .session index event →
      system.threads[index]? = some thread → thread.approval.phase = .publish →
      system.manager.entries.get thread.transferId = none →
        ∀ info ∈ system.sent, info.transferId ≠ thread.transferId) : Apart next := by
  intro info member
  have before : system.manager.entries.get info.transferId = none := by
    rcases sent_before move member with ⟨old, isOld, same⟩ | ⟨_, may⟩
    · exact same ▸ apart old isOld
    · rcases mayAdd_cases may with ⟨old, isOld, same⟩ | ⟨free, _⟩
      · exact same ▸ apart old isOld
      · exact free
  have entry := move.entry coherent running info.transferId
  generalize next.manager.entries.get info.transferId = after at entry
  cases entry with
  | kept => exact before
  | published is found standing own free =>
      rcases sent_before move member with ⟨old, isOld, same⟩ | ⟨sends, _⟩
      · exact absurd (same.trans own.symm) (fresh _ _ _ is found standing (own ▸ free) old isOld)
      · rw [is] at sends; cases sends
  | readmitted _ _ _ _ found | declined _ _ _ _ _ found | decided _ found =>
      rw [before] at found
      cases found

/-- Rows are never removed. -/
theorem row_present (coherent : Coherent system) (move : HistoryMove platform system label next)
    (running : label ≠ .restart) (present : (system.store.rowStatus transferId).isSome = true) :
    (next.store.rowStatus transferId).isSome = true := by
  have status := move.status coherent running transferId
  generalize next.store.rowStatus transferId = after at status
  cases status with
  | same => exact present
  | announced | stored => rfl
  | told => rw [Option.isSome_map]; exact present

/-- A step without a store call leaves every row. -/
theorem row_quiet (coherent : Coherent system) (move : HistoryMove platform system label next)
    (running : label ≠ .restart) (calls : system.calls label = none)
    (other : ∀ ok hostname, label ≠ .persist ok hostname) :
    next.store.rowStatus transferId = system.store.rowStatus transferId := by
  have status := move.status coherent running transferId
  generalize next.store.rowStatus transferId = after at status
  cases status with
  | same => rfl
  | announced has | told has => rw [calls] at has; cases has
  | stored is => exact absurd is (other _ _)

end

end DirectTransfer
