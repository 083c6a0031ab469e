import DirectTransfer.Core.HistoryInvariants

/-! Rows of the history are keyed by the transfer identifier alone. As long as no
offer is let in under an identifier that a row or a record of another device or of
an outgoing transfer has, what an offer writes is a row of its own device. -/

set_option autoImplicit false

namespace DirectTransfer

open Library

/-! ## Who writes -/

/-- The device of the offer a record comes from. -/
def HistorySystem.offeredBy (system : HistorySystem) : RecordRef → Option PyStr
  | .received record => (system.registry.transfers[record]?).bind TransferInfo.peerDeviceId
  | .sent _ => none

/-- The devices on whose offers a step goes on. -/
def HistorySystem.authors (system : HistorySystem) : HistoryLabel → List PyStr
  | .offered _ peerDeviceId _ _ _ => [peerDeviceId]
  | .session index _ | .receive index _ | .callback index _ _ =>
      (system.threads[index]?).toList.map fun thread => thread.approval.request.peerDeviceId
  | .decided index _ _ => (system.decisions[index]?).toList.map IncomingTransferRequest.peerDeviceId
  | .decide transferId _ =>
      (system.manager.getRequest transferId).toList.map IncomingTransferRequest.peerDeviceId
  | .persist _ _ => match system.run with
    | some run => (run.groups.head?.map Prod.snd).getD [] |>.filterMap system.offeredBy
    | none => []
  | .send _ | .sending _ _ | .notify _ _ | .restart => []

/-- The device, address and direction of a row, and its file rows, are as they were. -/
structure Untouched (transferId : PyStr) (row : TransferRecord) (before after : TransferHistoryStore) :
    Prop where
  row : ∃ new, after.transfers.get transferId = some new ∧ new.peerDeviceId = row.peerDeviceId ∧
    new.peerIp = row.peerIp ∧ new.direction = row.direction
  files : ∀ fileId, after.files.get (transferId, fileId) = before.files.get (transferId, fileId)

/-- A step on the offers of some devices leaves the rows of all others alone. -/
def LeavesOthers (system next : HistorySystem) (label : HistoryLabel) : Prop :=
  ∀ transferId row device, system.store.transfers.get transferId = some row →
    device ∈ system.authors label → row.direction = .send ∨ row.peerDeviceId ≠ some device →
    Untouched transferId row system.store next.store

/-- A request is only added under an identifier that no row of another device or of an
outgoing transfer has, and no outgoing record. -/
def ownIdentifiers (system : HistorySystem) : HistoryLabel → Prop
  | .session index _ => ∀ thread, system.threads[index]? = some thread →
      thread.approval.phase = .publish → system.manager.entries.get thread.transferId = none →
        (∀ row, system.store.transfers.get thread.transferId = some row → row.direction = .recv ∧
          row.peerDeviceId = some thread.approval.request.peerDeviceId) ∧
        ∀ info ∈ system.sent, info.transferId ≠ thread.transferId
  | _ => True

/-! ## The owner of a row -/

/-- The row of a known request is of its device, and no outgoing record has its identifier. -/
def Owned (system : HistorySystem) : Prop :=
  ∀ transferId entry, system.manager.entries.get transferId = some entry →
    (∀ row, system.store.transfers.get transferId = some row → row.direction = .recv ∧
      row.peerDeviceId = some entry.request.peerDeviceId) ∧
    ∀ info ∈ system.sent, info.transferId ≠ transferId

section

variable {platform : Platform} {system next : HistorySystem}

/-- A write leaves every row to its owner. -/
def KeepsOwners (before after : TransferHistoryStore) (transferId device : PyStr) : Prop :=
  (∀ other, other ≠ transferId → after.transfers.get other = before.transfers.get other ∧
    ∀ fileId, after.files.get (other, fileId) = before.files.get (other, fileId)) ∧
  ((∀ row, before.transfers.get transferId = some row → row.direction = .recv ∧
      row.peerDeviceId = some device) →
    ∀ row, after.transfers.get transferId = some row → row.direction = .recv ∧
      row.peerDeviceId = some device)

theorem KeepsOwners.refl (store : TransferHistoryStore) (transferId device : PyStr) :
    KeepsOwners store store transferId device :=
  ⟨fun _ _ => ⟨rfl, fun _ => rfl⟩, id⟩

theorem createTransfer_keepsOwners {store : TransferHistoryStore} {record : TransferRecord}
    {files : List TransferFileRecord} {device : PyStr}
    (own : ∀ file ∈ files, file.transferId = record.transferId) (direction : record.direction = .recv)
    (peer : record.peerDeviceId = some device) :
    KeepsOwners store (store.createTransfer record files) record.transferId device := by
  refine ⟨fun other different => ⟨TransferHistoryStore.createTransfer_other different, ?_⟩,
    fun _ row found => ?_⟩
  · exact TransferHistoryStore.createTransfer_files fun file member same =>
      different (same.symm.trans (own file member))
  · rw [TransferHistoryStore.createTransfer_row] at found
    cases found
    split
    · exact ⟨direction, peer⟩
    · exact ⟨direction, peer⟩

theorem updateTransfer_keepsOwners {store : TransferHistoryStore} {transferId device : PyStr}
    {status : TransferStatus} {completedAt : Option Time} {error : Option PyStr}
    {fileStatus : Option TransferStatus} :
    KeepsOwners store (store.updateTransfer transferId status completedAt error fileStatus)
      transferId device := by
  refine ⟨fun other different => ⟨TransferHistoryStore.updateTransfer_other different,
    TransferHistoryStore.updateTransfer_files different⟩, fun owned row found => ?_⟩
  cases before : store.transfers.get transferId with
  | none =>
      rw [TransferHistoryStore.updateTransfer_none before, before] at found
      cases found
  | some old =>
      rw [TransferHistoryStore.updateTransfer_row before] at found
      cases found
      split
      · exact owned old before
      · exact owned old before

theorem callback_keepsOwners (store : TransferHistoryStore) (callback : ManagerCallback)
    (ok : Bool) (now : Time) :
    KeepsOwners store (if ok then callback.write store now else store)
      callback.request.transferId callback.request.peerDeviceId := by
  split
  · cases callback with
    | onRequest request =>
        refine createTransfer_keepsOwners (fun file member => ?_) rfl rfl
        obtain ⟨_, _, rfl⟩ := List.mem_map.mp member
        rfl
    | onDecision decided => exact updateTransfer_keepsOwners
  · exact .refl _ _ _

theorem Owned.keepsOwners {store : TransferHistoryStore} {transferId : PyStr} {entry : PendingDecision}
    (owned : Owned system) (found : system.manager.entries.get transferId = some entry)
    (keeps : KeepsOwners system.store store transferId entry.request.peerDeviceId) :
    ∀ other known, system.manager.entries.get other = some known →
      (∀ row, store.transfers.get other = some row → row.direction = .recv ∧
        row.peerDeviceId = some known.request.peerDeviceId) ∧
      ∀ info ∈ system.sent, info.transferId ≠ other := by
  intro other known there
  obtain ⟨rows, records⟩ := owned other known there
  refine ⟨fun row stored => ?_, records⟩
  by_cases same : other = transferId
  · cases same
    cases found.symm.trans there
    exact keeps.2 rows row stored
  · rw [(keeps.1 other same).1] at stored
    exact rows row stored

/-- What is written for a known request leaves the rows of other devices alone. -/
theorem KeepsOwners.untouched {store : TransferHistoryStore} {transferId other : PyStr}
    {entry : PendingDecision} {row : TransferRecord} (owned : Owned system)
    (found : system.manager.entries.get transferId = some entry)
    (keeps : KeepsOwners system.store store transferId entry.request.peerDeviceId)
    (stored : system.store.transfers.get other = some row)
    (foreign : row.direction = .send ∨ row.peerDeviceId ≠ some entry.request.peerDeviceId) :
    Untouched other row system.store store := by
  have different : other ≠ transferId := by
    rintro rfl
    obtain ⟨direction, device⟩ := (owned other entry found).1 row stored
    rcases foreign with outgoing | another
    · rw [direction] at outgoing
      cases outgoing
    · exact another device
  obtain ⟨rows, files⟩ := keeps.1 other different
  exact ⟨⟨row, rows.trans stored, rfl, rfl, rfl⟩, files⟩

theorem untouched_refl {transferId : PyStr} {row : TransferRecord} {store : TransferHistoryStore}
    (stored : store.transfers.get transferId = some row) : Untouched transferId row store store :=
  ⟨⟨row, stored, rfl, rfl, rfl⟩, fun _ => rfl⟩

/-- The records a runtime update merges into one row, when the transfer is known. -/
theorem stored_owner (coherent : Coherent system) (owned : Owned system) {transferId : PyStr}
    {entry : PendingDecision} (found : system.manager.entries.get transferId = some entry)
    {ref : RecordRef} {info : TransferInfo} (read : system.read ref = some info)
    (transfer : info.transferId = transferId) :
    info.direction = .recv ∧ info.peerDeviceId = some entry.request.peerDeviceId := by
  cases ref with
  | received record =>
      obtain ⟨direction, other, there, _, device, _⟩ :=
        coherent.received info (List.mem_of_getElem? read)
      rw [transfer, found] at there
      cases there
      exact ⟨direction, device⟩
  | sent record =>
      exact absurd transfer ((owned transferId entry found).2 info (List.mem_of_getElem? read))

/-- A request the manager has taken keeps its owner when it is decided or let in again. -/
theorem Owned.persists {manager : IncomingRequestManager} (owned : Owned system)
    (persists : Persists system.manager manager) {transferId : PyStr} {entry : PendingDecision}
    (found : manager.entries.get transferId = some entry)
    (before : system.manager.entries.get transferId ≠ none) :
    (∀ row, system.store.transfers.get transferId = some row → row.direction = .recv ∧
      row.peerDeviceId = some entry.request.peerDeviceId) ∧
    ∀ info ∈ system.sent, info.transferId ≠ transferId := by
  obtain ⟨old, there⟩ := Option.ne_none_iff_exists'.mp before
  obtain ⟨later, again, same, _⟩ := persists transferId old there
  cases found.symm.trans again
  rw [same.peerDeviceId]
  exact owned transferId old there

/-- The create call of a runtime update of a known transfer. -/
theorem persist_keepsOwners {run : PersistRun} {ok : Bool} {turn : PersistTurn}
    (coherent : Coherent system) (owned : Owned system)
    (running : system.run = some run) (standing : run.phase = .create turn)
    {entry : PendingDecision}
    (found : system.manager.entries.get turn.transferId = some entry) :
    KeepsOwners system.store (turn.write system.store ok) turn.transferId
      entry.request.peerDeviceId := by
  have sound := coherent.run run running
  have phase := sound.phase
  unfold PhaseSound at phase
  rw [standing] at phase
  obtain ⟨transferId, refs, rest, current, rfl, own, ref, member, info, read, device, direction⟩ := phase
  obtain ⟨_, _, reads⟩ := sound.groups (turn.transferId, refs) (by rw [current]; simp)
  obtain ⟨other, again, transfer⟩ := reads ref member
  cases read.symm.trans again
  obtain ⟨isRecv, peer⟩ := stored_owner coherent owned found read transfer
  unfold PersistTurn.write
  split
  · exact createTransfer_keepsOwners own (direction.trans isRecv) (device.trans peer)
  · exact .refl _ _ _

theorem owned_step {label : HistoryLabel} (coherent : Coherent system) (owned : Owned system)
    (admitted : ownIdentifiers system label)
    (stepped : historyStep platform system label = some next) : Owned next := by
  cases label with
  | offered payload peerDeviceId peerIp peerName receivedAt =>
      simp only [historyStep] at stepped
      split at stepped <;> cases stepped
      exact owned
  | session index event =>
      simp only [historyStep, Option.bind_eq_bind, Option.bind_eq_some_iff] at stepped
      obtain ⟨thread, found, ⟨manager, after⟩, approved, finished⟩ := stepped
      cases finished
      have sound := coherent.threads thread (List.mem_of_getElem? found)
      obtain ⟨_, persists⟩ := approve_manager coherent.manager sound approved
      intro transferId entry there
      by_cases before : system.manager.entries.get transferId = none
      · obtain ⟨_, _, transition, _⟩ := approve_cases approved
        cases transition with
        | published standing free moved =>
            rw [Dict.get_set] at there
            split at there
            · next same =>
                cases there
                cases same
                exact admitted thread found standing free
            · rw [before] at there; cases there
        | readmitted standing present =>
            rw [Dict.get_set] at there
            split at there
            · next same => cases same; rw [present] at before; cases before
            · rw [before] at there; cases there
        | @declines status reason standing declined moved =>
            rcases decide_cases system.manager thread.approval.request.transferId status
              (some reason) with unchanged | ⟨old, present, _, decided⟩
            · rw [unchanged, before] at there; cases there
            · rw [decided, Dict.get_set] at there
              split at there
              · next same => cases same; rw [present] at before; cases before
              · rw [before] at there; cases there
        | _ => rw [before] at there; cases there
      · exact owned.persists persists there before
  | receive index event =>
      simp only [historyStep, Option.bind_eq_bind, Option.bind_eq_some_iff] at stepped
      obtain ⟨_, _, _, _, finished⟩ := stepped
      cases finished
      exact owned
  | callback index ok now =>
      simp only [historyStep, Option.bind_eq_bind, Option.bind_eq_some_iff] at stepped
      obtain ⟨thread, found, callback, owes, finished⟩ := stepped
      cases finished
      obtain ⟨entry, there, device, _⟩ :=
        (coherent.threads thread (List.mem_of_getElem? found)).owed owes
      have keeps := callback_keepsOwners system.store callback ok now
      rw [← device] at keeps
      exact owned.keepsOwners there keeps
  | decide transferId how =>
      obtain ⟨status, reason, settled, same⟩ := deciding_eq system.manager transferId how
      simp only [historyStep, same] at stepped
      cases stepped
      intro other entry there
      have persists := decide_persists system.manager transferId status reason
      by_cases before : system.manager.entries.get other = none
      · rcases decide_cases system.manager transferId status reason with
          unchanged | ⟨old, present, _, decided⟩
        · rw [unchanged, before] at there; cases there
        · rw [decided, Dict.get_set] at there
          split at there
          · next same => cases same; rw [present] at before; cases before
          · rw [before] at there; cases there
      · exact owned.persists persists there before
  | decided index ok now =>
      simp only [historyStep, Option.bind_eq_bind, Option.bind_eq_some_iff] at stepped
      obtain ⟨request, found, finished⟩ := stepped
      cases finished
      obtain ⟨_, entry, there, same, _⟩ := coherent.decisions request (List.mem_of_getElem? found)
      have keeps := callback_keepsOwners system.store (.onDecision request) ok now
      simp only [ManagerCallback.request, ← same.peerDeviceId] at keeps
      exact owned.keepsOwners there keeps
  | send info =>
      simp only [historyStep] at stepped
      split at stepped
      · next may =>
          cases stepped
          intro transferId entry there
          obtain ⟨rows, records⟩ := owned transferId entry there
          refine ⟨rows, fun other member => ?_⟩
          rcases List.mem_append.mp member with old | new
          · exact records other old
          · cases List.mem_singleton.mp new
            rintro rfl
            simp only [HistorySystem.mayAdd, HistorySystem.uses, there, Option.isSome_some,
              Bool.true_or, Bool.not_true, Bool.or_false, Bool.and_eq_true] at may
            obtain ⟨sibling, isSent, same⟩ := List.any_eq_true.mp may.1.2
            exact records sibling isSent (of_decide_eq_true same)
      · cases stepped
  | sending index info =>
      simp only [historyStep, Option.bind_eq_bind, Option.bind_eq_some_iff] at stepped
      obtain ⟨old, found, finished⟩ := stepped
      split at finished
      · next may =>
          cases finished
          intro transferId entry there
          obtain ⟨rows, records⟩ := owned transferId entry there
          refine ⟨rows, fun other member => ?_⟩
          rcases List.mem_or_eq_of_mem_set member with before | rfl
          · exact records other before
          · rw [(mayChange_same may).1.transferId]
            exact records old (List.mem_of_getElem? found)
      · cases finished
  | notify owner now =>
      simp only [historyStep] at stepped
      split at stepped
      · cases stepped
      · cases stepped; exact owned
      · simp only [Option.bind_eq_bind, Option.bind_eq_some_iff] at stepped
        obtain ⟨_, _, _, _, finished⟩ := stepped
        split at finished <;> cases finished
        exact owned
  | persist ok hostname =>
      simp only [historyStep, Option.bind_eq_bind, Option.bind_eq_some_iff] at stepped
      obtain ⟨run, running, finished⟩ := stepped
      cases finished
      have move := persistStep_moves system run ok hostname
      generalize system.persistStep run ok hostname = next at move
      cases move with
      | @stored transferId refs rest turn current standing =>
          intro other entry there
          by_cases same : other = turn.transferId
          · cases same
            exact owned.keepsOwners there
              (persist_keepsOwners coherent owned running standing there) _ entry there
          · obtain ⟨rows, records⟩ := owned other entry there
            refine ⟨fun row stored => rows row ?_, records⟩
            dsimp only [PersistTurn.write] at stored
            split at stored
            · exact (TransferHistoryStore.createTransfer_other same).symm.trans stored
            · exact stored
      | _ => exact owned
  | restart =>
      cases stepped
      intro _ _ found
      cases found

/-- Steps on offers write for requests the manager knows. -/
theorem leaves_others {label : HistoryLabel} (coherent : Coherent system) (owned : Owned system)
    (stepped : historyStep platform system label = some next) : LeavesOthers system next label := by
  intro transferId row device stored author foreign
  cases label with
  | offered payload peerDeviceId peerIp peerName receivedAt =>
      simp only [historyStep] at stepped
      split at stepped <;> cases stepped
      exact untouched_refl stored
  | session index event | receive index event =>
      simp only [historyStep, Option.bind_eq_bind, Option.bind_eq_some_iff] at stepped
      obtain ⟨_, _, _, _, finished⟩ := stepped
      cases finished
      exact untouched_refl stored
  | callback index ok now =>
      simp only [historyStep, Option.bind_eq_bind, Option.bind_eq_some_iff] at stepped
      obtain ⟨thread, found, callback, owes, finished⟩ := stepped
      cases finished
      have sound := coherent.threads thread (List.mem_of_getElem? found)
      obtain ⟨entry, there, same, own⟩ := sound.owed owes
      have keeps := callback_keepsOwners system.store callback ok now
      rw [← same] at keeps
      simp only [HistorySystem.authors, found, Option.toList_some, List.map_cons, List.map_nil,
        List.mem_singleton] at author
      rw [author, ← own, ← same] at foreign
      exact keeps.untouched owned there stored foreign
  | decided index ok now =>
      simp only [historyStep, Option.bind_eq_bind, Option.bind_eq_some_iff] at stepped
      obtain ⟨request, found, finished⟩ := stepped
      cases finished
      obtain ⟨_, entry, there, same, _⟩ := coherent.decisions request (List.mem_of_getElem? found)
      have keeps := callback_keepsOwners system.store (.onDecision request) ok now
      simp only [ManagerCallback.request, ← same.peerDeviceId] at keeps
      simp only [HistorySystem.authors, found, Option.toList_some, List.map_cons, List.map_nil,
        List.mem_singleton] at author
      rw [author, ← same.peerDeviceId] at foreign
      exact keeps.untouched owned there stored foreign
  | decide other how =>
      cases stepped
      exact untouched_refl stored
  | persist ok hostname =>
      simp only [historyStep, Option.bind_eq_bind, Option.bind_eq_some_iff] at stepped
      obtain ⟨run, running, finished⟩ := stepped
      cases finished
      have move := persistStep_moves system run ok hostname
      generalize system.persistStep run ok hostname = next at move
      cases move with
      | @stored current' refs rest turn current standing =>
          simp only [HistorySystem.authors, running, current, List.head?_cons, Option.map_some,
            Option.getD_some] at author
          obtain ⟨ref, member, offered⟩ := List.mem_filterMap.mp author
          have sound := coherent.run run running
          obtain ⟨_, _, reads⟩ := sound.groups (current', refs) (by rw [current]; simp)
          obtain ⟨info, read, transfer⟩ := reads ref member
          have phase := sound.phase
          unfold PhaseSound at phase
          rw [standing] at phase
          obtain ⟨_, _, _, at', keyed, _⟩ := phase
          cases current.symm.trans at'
          cases ref with
          | sent place => cases offered
          | received place =>
              obtain ⟨_, entry, there, _, peer, _⟩ :=
                coherent.received info (List.mem_of_getElem? read)
              rw [transfer, ← keyed] at there
              rw [HistorySystem.offeredBy, show system.registry.transfers[place]? = some info from read,
                Option.bind_some, peer] at offered
              rw [← offered] at foreign
              exact (persist_keepsOwners coherent owned running standing there).untouched owned there
                stored foreign
      | _ => exact untouched_refl stored
  | send info | sending index info | notify owner now | restart => cases author

end

def OwnedHistory (system : HistorySystem) : Prop := Coherent system ∧ Owned system

/-- In every run in which offers come under identifiers of their own, no offer changes
the owner or the files of a row of another device or of an outgoing transfer. -/
theorem offers_leave_others {platform : Platform} {maxPending : Nat} {store : TransferHistoryStore}
    {labels : List HistoryLabel} {state : HistorySystem}
    (run : Run (historyStep platform) ownIdentifiers (.start maxPending store) labels state)
    {label : HistoryLabel} {next : HistorySystem}
    (stepped : historyStep platform state label = some next) : LeavesOthers state next label := by
  have holds : OwnedHistory state := run.invariant
    (fun _ _ _ both guarded moved =>
      ⟨coherent_step both.1 moved, owned_step both.1 both.2 guarded moved⟩)
    ⟨coherent_start maxPending store, fun _ _ found => nomatch found⟩
  exact leaves_others holds.1 holds.2 stepped

/-! An outgoing transfer, and an offer under its identifier or under another one. -/

def outgoingRow (transferId : PyStr) : TransferRecord where
  transferId
  peerDeviceId := some (py "mp-0000000b")
  peerIp := py "192.0.2.11"
  peerHostname := none
  direction := .send
  status := .complete
  message := none
  fileCount := 1
  totalSize := 0
  bytesTransferred := 0
  startedAt := 1
  completedAt := some 1
  error := none
  resumed := false
  resumeOffset := 0

def outgoingHistory (transferId : PyStr) : TransferHistoryStore :=
  ⟨Dict.empty.set transferId (outgoingRow transferId), Dict.empty⟩

def emptyOffered : List HistoryLabel :=
  [.offered (offerFrame emptyOffer.transferId [emptyFile] none) (py "mp-0000000a") (py "192.0.2.7") none 2,
    .session 0 ⟨2, .done⟩]

/-- The condition on a label, computed. -/
def identifiesOwn (system : HistorySystem) : HistoryLabel → Bool
  | .session index _ => (system.threads[index]?).all fun thread =>
      (system.store.transfers.get thread.transferId).all (fun row => row.direction = .recv &&
        row.peerDeviceId = some thread.approval.request.peerDeviceId) &&
      system.sent.all fun info => info.transferId ≠ thread.transferId
  | _ => true

theorem identifiesOwn_sound (system : HistorySystem) (label : HistoryLabel)
    (own : identifiesOwn system label = true) : ownIdentifiers system label := by
  cases label with
  | session index event =>
      intro thread found _ _
      simp only [identifiesOwn, found, Option.all_some, Bool.and_eq_true, List.all_eq_true,
        decide_eq_true_eq, Option.all_eq_true] at own
      exact ⟨own.1, own.2⟩
  | _ => trivial

theorem foreign_row_left :
    ∃ state next, historyStep asciiPlatform state (.callback 0 true 2) = some next ∧
      LeavesOthers state next (.callback 0 true 2) ∧
      (next.store.transfers.get (py "outgoing")).isSome = true := by
  have runs : (runLabels (fun state label => if identifiesOwn state label then
      historyStep asciiPlatform state label else none) (.start 32 (outgoingHistory (py "outgoing")))
      emptyOffered).any (fun state => (historyStep asciiPlatform state (.callback 0 true 2)).any
        fun next => (next.store.transfers.get (py "outgoing")).isSome) = true := by
    decide +kernel
  obtain ⟨state, executed, stepped⟩ := (Option.any_eq_true _ _).mp runs
  obtain ⟨next, moved, kept⟩ := (Option.any_eq_true _ _).mp stepped
  exact ⟨state, next, moved,
    offers_leave_others (run_of_checked identifiesOwn_sound executed) moved, kept⟩

/-- An offer under the identifier of an outgoing transfer takes its row over. -/
theorem offer_takes_row_over :
    ¬∀ (store : TransferHistoryStore) (labels : List HistoryLabel) (state next : HistorySystem)
      (label : HistoryLabel),
      Run (historyStep asciiPlatform) anyStep (.start 32 store) labels state →
      historyStep asciiPlatform state label = some next → LeavesOthers state next label := by
  intro leaves
  have taken : (runLabels (historyStep asciiPlatform)
      (.start 32 (outgoingHistory emptyOffer.transferId)) emptyOffered).any (fun state =>
        (historyStep asciiPlatform state (.callback 0 true 2)).any fun next =>
          decide (py "mp-0000000a" ∈ state.authors (.callback 0 true 2)) &&
          (state.store.transfers.get emptyOffer.transferId).any (fun row => row.direction = .send) &&
          (next.store.transfers.get emptyOffer.transferId).any fun row => row.direction = .recv) =
      true := by
    decide +kernel
  obtain ⟨state, executed, stepped⟩ := (Option.any_eq_true _ _).mp taken
  obtain ⟨next, moved, facts⟩ := (Option.any_eq_true _ _).mp stepped
  simp only [Bool.and_eq_true, decide_eq_true_eq, Option.any_eq_true] at facts
  obtain ⟨⟨author, row, stored, outgoing⟩, new, there, incoming⟩ := facts
  obtain ⟨kept, again, _, _, direction⟩ :=
    (leaves _ _ state next _ (run_of_runLabels executed) moved _ row _ stored author (.inl outgoing)).row
  cases there.symm.trans again
  rw [outgoing, incoming] at direction
  cases direction

end DirectTransfer
