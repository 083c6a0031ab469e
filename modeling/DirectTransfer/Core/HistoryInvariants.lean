import DirectTransfer.Core.HistoryThreads
import DirectTransfer.Core.ProtocolProperties

/-! What every state of a receiver with its history keeps to: threads, callbacks
and records belong to the requests of the manager, and a runtime update works on
the records of the transfers it is storing. -/

set_option autoImplicit false

namespace DirectTransfer

open Library

/-! ## Requests -/

/-- The manager holds a request for the transfer of another, with a status of its own. -/
def Known (manager : IncomingRequestManager) (request : IncomingTransferRequest)
    (status : IncomingRequestStatus → Prop) : Prop :=
  ∃ entry, manager.entries.get request.transferId = some entry ∧
    SameTransfer entry.request request ∧ status entry.request.status

/-- Conditions that no decision makes false. -/
def Lasting (status : IncomingRequestStatus → Prop) : Prop :=
  status .pendingApproval → ∀ decided, status decided

theorem Known.persists {before after : IncomingRequestManager} {request : IncomingTransferRequest}
    {status : IncomingRequestStatus → Prop} (known : Known before request status)
    (lasting : Lasting status) (persists : Persists before after) : Known after request status := by
  obtain ⟨entry, found, same, holds⟩ := known
  obtain ⟨later, there, sameLater, settled⟩ := persists _ _ found
  refine ⟨later, there, sameLater.trans same, ?_⟩
  by_cases pending : entry.request.status = .pendingApproval
  · exact lasting (pending ▸ holds) _
  · rw [settled pending]
    exact holds

theorem lasting_any : Lasting fun _ => True := fun _ _ => trivial

theorem lasting_eq {status : IncomingRequestStatus} (decided : status ≠ .pendingApproval) :
    Lasting (· = status) := fun same => absurd same.symm decided

/-- The files of a request have identifiers, each its own. -/
structure Identified (files : List IncomingFile) : Prop where
  distinct : (files.map IncomingFile.fileId).Nodup
  named : ∀ file ∈ files, file.fileId ≠ []

theorem validateOffer_identified {platform : Platform} {payload : Json} {offer : TransferOffer}
    (valid : validateOffer platform payload = .ok offer) : Identified offer.files where
  distinct := (validateOffer_offerable valid).1.distinct
  named file member none := by
    have identified := (validateOffer_offerable valid).1.identified file member
    rw [none] at identified
    cases identified

/-! ## Threads and records -/

/-- What holds of a thread at each of its calls. -/
structure ThreadSound (manager : IncomingRequestManager) (registry : Registry)
    (thread : SessionThread) : Prop where
  pending : thread.approval.request.status = .pendingApproval
  identified : Identified thread.approval.request.files
  awaits : thread.approval.phase.awaits = true → Known manager thread.approval.request fun _ => True
  responds : ∀ decided, thread.approval.phase = .respond decided →
    Known manager thread.approval.request (· = decided.status) ∨
      decided.status = .pendingApproval ∧ Known manager thread.approval.request fun _ => True
  receiving : thread.approval.phase = .receiving → thread.receive ≠ none
  receives : ∀ session, thread.receive = some session →
    thread.approval.phase = .receiving ∧ Known manager thread.approval.request (· = .accepted) ∧
      session.origin = (SessionThread.begin thread.approval.request).origin ∧
      session.Anchored registry
  requests : ∀ request, thread.owes = some (.onRequest request) →
    request = thread.approval.request ∧ Known manager request fun _ => True
  decides : ∀ decided, thread.owes = some (.onDecision decided) →
    SameTransfer decided thread.approval.request ∧ decided.status ≠ .pendingApproval ∧
      Known manager decided (· = decided.status)

/-- A receiving record is of an offered file of an accepted request. -/
structure ReceivingRecord (manager : IncomingRequestManager) (info : TransferInfo) : Prop where
  direction : info.direction = .recv
  request : ∃ entry, manager.entries.get info.transferId = some entry ∧
    entry.request.status = .accepted ∧ info.peerDeviceId = some entry.request.peerDeviceId ∧
      ∃ file ∈ entry.request.files, info.fileId = some file.fileId

/-- Entries stand under their own identifiers. -/
structure ManagerSound (manager : IncomingRequestManager) : Prop where
  keyed : ∀ transferId entry, manager.entries.get transferId = some entry →
    entry.request.transferId = transferId
  identified : ∀ transferId entry, manager.entries.get transferId = some entry →
    Identified entry.request.files

section Preservation

variable {manager after : IncomingRequestManager} {registry next : Registry} {thread : SessionThread}

theorem ThreadSound.persists (sound : ThreadSound manager registry thread)
    (persists : Persists manager after) : ThreadSound after registry thread where
  pending := sound.pending
  identified := sound.identified
  awaits waits := (sound.awaits waits).persists lasting_any persists
  responds decided standing := by
    rcases sound.responds decided standing with known | ⟨pending, known⟩
    · by_cases pending : decided.status = .pendingApproval
      · obtain ⟨entry, found, same, _⟩ := known
        have present : Known manager thread.approval.request fun _ => True :=
          ⟨entry, found, same, trivial⟩
        exact .inr ⟨pending, present.persists lasting_any persists⟩
      · exact .inl (known.persists (lasting_eq pending) persists)
    · exact .inr ⟨pending, known.persists lasting_any persists⟩
  receiving := sound.receiving
  receives session inside := by
    obtain ⟨phase, known, origin, anchored⟩ := sound.receives session inside
    exact ⟨phase, known.persists (lasting_eq (by simp)) persists, origin, anchored⟩
  requests request owes := by
    obtain ⟨same, known⟩ := sound.requests request owes
    exact ⟨same, known.persists lasting_any persists⟩
  decides decided owes := by
    obtain ⟨same, settled, known⟩ := sound.decides decided owes
    exact ⟨same, settled, known.persists (lasting_eq settled) persists⟩

theorem ThreadSound.evolves {origin : Origin} (sound : ThreadSound manager registry thread)
    (evolves : registry.Evolves origin next) : ThreadSound manager next thread :=
  { sound with
    receives := fun session inside => by
      obtain ⟨phase, known, origin, anchored⟩ := sound.receives session inside
      exact ⟨phase, known, origin, anchored.evolves evolves⟩ }

/-- The callback a thread owes is for its own transfer, which the manager knows. -/
theorem ThreadSound.owed {callback : ManagerCallback} (sound : ThreadSound manager registry thread)
    (owes : thread.owes = some callback) :
    ∃ entry, manager.entries.get callback.request.transferId = some entry ∧
      entry.request.peerDeviceId = callback.request.peerDeviceId ∧
      callback.request.peerDeviceId = thread.approval.request.peerDeviceId := by
  cases callback with
  | onRequest request =>
      obtain ⟨rfl, entry, found, same, _⟩ := sound.requests request owes
      exact ⟨entry, found, same.peerDeviceId, rfl⟩
  | onDecision decided =>
      obtain ⟨own, _, entry, found, same, _⟩ := sound.decides decided owes
      exact ⟨entry, found, same.peerDeviceId, own.peerDeviceId⟩

/-- A thread whose notice or callback changes. -/
theorem ThreadSound.settle {notice : Notice} (sound : ThreadSound manager registry thread) :
    ThreadSound manager registry { thread with notice } :=
  ⟨sound.pending, sound.identified, sound.awaits, sound.responds, sound.receiving, sound.receives,
    sound.requests, sound.decides⟩

theorem ThreadSound.paid (sound : ThreadSound manager registry thread) :
    ThreadSound manager registry { thread with owes := none } :=
  ⟨sound.pending, sound.identified, sound.awaits, sound.responds, sound.receiving, sound.receives,
    fun _ owes => (nomatch owes), fun _ owes => nomatch owes⟩

theorem ReceivingRecord.persists {info : TransferInfo} (received : ReceivingRecord manager info)
    (persists : Persists manager after) : ReceivingRecord after info where
  direction := received.direction
  request := by
    obtain ⟨entry, found, accepted, device, file, member, named⟩ := received.request
    obtain ⟨later, there, same, settled⟩ := persists _ _ found
    have decided : entry.request.status ≠ .pendingApproval := by rw [accepted]; simp
    exact ⟨later, there, (settled decided).trans accepted, by rw [same.peerDeviceId, device], file,
      by rw [same.files]; exact member, named⟩

theorem ReceivingRecord.same {old new : TransferInfo} (received : ReceivingRecord manager old)
    (same : SameRecord old new) : ReceivingRecord manager new where
  direction := same.direction.trans received.direction
  request := by
    rw [same.transferId, same.peerDeviceId, same.fileId]
    exact received.request

theorem ManagerSound.set {entry : PendingDecision} {transferId : PyStr} (sound : ManagerSound manager)
    (written : after.entries = manager.entries.set transferId entry)
    (keyed : entry.request.transferId = transferId) (identified : Identified entry.request.files) :
    ManagerSound after := by
  constructor <;> intro other later found <;> rw [written, Dict.get_set] at found <;> split at found
  · next here => cases found; exact keyed.trans here.symm
  · exact sound.keyed other later found
  · cases found; exact identified
  · exact sound.identified other later found

theorem ManagerSound.decide (sound : ManagerSound manager) (transferId : PyStr)
    (status : IncomingRequestStatus) (reason : Option PyStr) :
    ManagerSound (manager.decide transferId status reason).1 := by
  rcases decide_cases manager transferId status reason with same | ⟨entry, found, _, decided⟩
  · rw [same]; exact sound
  · rw [decided]
    have keyed := sound.keyed _ _ found
    have identified := sound.identified _ _ found
    exact sound.set rfl keyed identified

end Preservation

/-! ## A call of a thread before its payload -/

section Approving

variable {manager after : IncomingRequestManager} {registry : Registry}
  {thread next : SessionThread} {event : Event}

/-- The callback of a deciding call tells the decision that now stands in the manager. -/
theorem callback_decision {decided : IncomingTransferRequest} {transferId : PyStr}
    (owes : manager.callback after transferId = some (.onDecision decided)) :
    ∃ old entry, manager.entries.get transferId = some old ∧
      old.request.status = .pendingApproval ∧ after.entries.get transferId = some entry ∧
      entry.request.status ≠ .pendingApproval ∧ decided = entry.request := by
  unfold IncomingRequestManager.callback at owes
  split at owes
  · cases owes
  · next old entry before found =>
      split at owes
      · next changed => cases owes; exact ⟨old, entry, before, changed.1, found, changed.2, rfl⟩
      · cases owes
  · cases owes

theorem callback_request {request : IncomingTransferRequest} {transferId : PyStr}
    (owes : manager.callback after transferId = some (.onRequest request)) :
    manager.entries.get transferId = none ∧
      ∃ entry, after.entries.get transferId = some entry ∧ request = entry.request := by
  unfold IncomingRequestManager.callback at owes
  split at owes
  · next entry before found => cases owes; exact ⟨before, entry, found, rfl⟩
  · split at owes <;> cases owes
  · cases owes

/-- What a call before the payload is made of. -/
theorem approve_cases (approved : thread.approve manager event = some (after, next)) :
    thread.owes = none ∧ thread.receive = none ∧
      ApprovalSession.Transition manager thread.approval next.approval after ∧
      next.approval.request = thread.approval.request ∧
      next.receive = (match next.approval.phase with
        | .receiving => some (SessionThread.begin next.approval.request)
        | _ => none) ∧
      next.owes = manager.callback after thread.transferId ∧ next.notice = .waiting := by
  unfold SessionThread.approve at approved
  split at approved
  · next owes receive =>
      split at approved
      · cases approved
      · next stepped =>
          cases approved
          obtain ⟨transition, same⟩ := ApprovalSession.step_transition stepped
          exact ⟨owes, receive, transition, same, rfl, rfl, rfl⟩
  · cases approved

theorem approve_manager (managerSound : ManagerSound manager)
    (sound : ThreadSound manager registry thread)
    (approved : thread.approve manager event = some (after, next)) :
    ManagerSound after ∧ Persists manager after := by
  obtain ⟨_, _, transition, _⟩ := approve_cases approved
  refine ⟨?_, transition.persists fun entry found => managerSound.keyed _ _ found⟩
  cases transition with
  | published standing free moved => exact managerSound.set rfl rfl sound.identified
  | readmitted standing found same accepted moved => exact managerSound.set rfl rfl sound.identified
  | declines standing declined moved => exact managerSound.decide _ _ _
  | _ => exact managerSound

/-- A thread in front of its payload knows its request once it has published it. -/
theorem approve_sound (managerSound : ManagerSound manager)
    (sound : ThreadSound manager registry thread)
    (approved : thread.approve manager event = some (after, next)) :
    ThreadSound after registry next := by
  obtain ⟨afterSound, persists⟩ := approve_manager managerSound sound approved
  obtain ⟨_, none, transition, same, receive, owes, _⟩ := approve_cases approved
  have requested : ∀ request, next.owes = some (.onRequest request) →
      request = next.approval.request ∧ Known after request fun _ => True := by
    intro request owed
    rw [owes] at owed
    obtain ⟨free, entry, found, rfl⟩ := callback_request owed
    cases transition with
    | published standing _ moved =>
        rw [SessionThread.transferId, Dict.get_set_self] at found
        cases found
        exact ⟨same.symm, _, Dict.get_set_self _ _ _, .refl _, trivial⟩
    | readmitted standing there =>
        rw [SessionThread.transferId, there] at free
        cases free
    | @declines status reason standing declined moved =>
        rcases decide_cases manager thread.approval.request.transferId status (some reason) with
          unchanged | ⟨old, there, _⟩
        · rw [unchanged, free] at found
          cases found
        · rw [SessionThread.transferId, there] at free
          cases free
    | _ => rw [free] at found; cases found
  have decisions : ∀ decided, next.owes = some (.onDecision decided) →
      SameTransfer decided next.approval.request ∧ decided.status ≠ .pendingApproval ∧
        Known after decided (· = decided.status) := by
    intro decided owed
    rw [owes] at owed
    obtain ⟨old, entry, before, pending, found, settled, rfl⟩ := callback_decision owed
    obtain ⟨later, there, sameOld, _⟩ := persists _ _ before
    cases found.symm.trans there
    have known : SameTransfer old.request thread.approval.request := by
      cases transition with
      | published standing free moved =>
          rw [SessionThread.transferId, free] at before
          cases before
      | readmitted standing present same accepted moved =>
          rw [SessionThread.transferId, present] at before
          cases before
          rw [accepted] at pending
          cases pending
      | declines standing declined moved =>
          obtain ⟨other, present, transfer, _⟩ := sound.awaits standing
          cases before.symm.trans present
          exact transfer
      | _ =>
          cases before.symm.trans found
          exact absurd pending settled
    rw [same]
    refine ⟨sameOld.trans known, settled, entry, ?_, .refl _, rfl⟩
    rw [(sameOld.trans known).transferId]
    exact found
  -- all that is left to say is where the thread stands now
  have stands (awaits : next.approval.phase.awaits = true →
        Known after thread.approval.request fun _ => True)
      (responds : ∀ decided, next.approval.phase = .respond decided →
        Known after thread.approval.request (· = decided.status) ∨
          decided.status = .pendingApproval ∧ Known after thread.approval.request fun _ => True)
      (receives : next.approval.phase = .receiving →
        Known after thread.approval.request (· = .accepted)) : ThreadSound after registry next := by
    constructor
    · rw [same]; exact sound.pending
    · rw [same]; exact sound.identified
    · rw [same]; exact awaits
    · rw [same]; exact responds
    · intro standing
      rw [receive, standing]
      simp
    · intro session inside
      rw [receive] at inside
      split at inside
      · next standing =>
          cases inside
          refine ⟨standing, by rw [same]; exact receives standing, rfl, ?_⟩
          exact ⟨fun _ none => (nomatch none), fun _ none => (nomatch none),
            fun _ _ before => absurd before (Nat.not_lt_zero _)⟩
      · cases inside
    · exact requested
    · exact decisions
  have ends {outcome : Except Raised Unit} (moved : next.approval.phase = .ended outcome) :
      ThreadSound after registry next :=
    stands (by rw [moved]; intro waits; cases waits) (by rw [moved]; intro _ at'; cases at')
      (by rw [moved]; intro at'; cases at')
  have waits (moved : next.approval.phase.awaits = true)
      (known : Known after thread.approval.request fun _ => True) : ThreadSound after registry next :=
    stands (fun _ => known) (fun _ at' => by rw [at'] at moved; cases moved)
      (fun at' => by rw [at'] at moved; cases moved)
  cases transition with
  | published standing free moved =>
      exact waits (by rw [moved]; rfl) ⟨_, Dict.get_set_self _ _ _, .refl _, trivial⟩
  | readmitted standing found offer accepted moved =>
      refine waits (by rw [moved]; rfl) ⟨_, Dict.get_set_self _ _ _, ⟨rfl, rfl, rfl, rfl, rfl⟩, trivial⟩
  | turnedAway standing moved =>
      rcases moved with busy | ⟨outcome, halted⟩
      · exact stands (by rw [busy]; intro at'; cases at') (by rw [busy]; intro _ at'; cases at')
          (by rw [busy]; intro at'; cases at')
      · exact ends halted
  | waits standing moved => exact waits moved (sound.awaits standing)
  | @finds entry standing found moved =>
      have known : Known manager thread.approval.request fun _ => True := by
        refine sound.awaits ?_
        rcases standing with at' | at' <;> rw [at'] <;> rfl
      obtain ⟨other, there, transfer, _⟩ := known
      cases found.symm.trans there
      refine stands (by rw [moved]; intro at'; cases at') (fun decided at' => ?_)
        (by rw [moved]; intro at'; cases at')
      cases moved.symm.trans at'
      exact .inl ⟨entry, found, transfer, rfl⟩
  | declines standing declined moved =>
      rcases moved with on | ⟨outcome, halted⟩
      · exact waits on ((sound.awaits standing).persists lasting_any persists)
      · exact ends halted
  | fails standing moved => exact ends moved
  | @enters decided standing accepted moved =>
      refine stands (by rw [moved]; intro at'; cases at') (by rw [moved]; intro _ at'; cases at')
        fun _ => ?_
      rcases sound.responds decided standing with known | ⟨pending, _⟩
      · rw [accepted] at known
        exact known
      · rw [pending] at accepted
        cases accepted
  | answers standing declined moved => exact ends moved
  | receives standing moved => exact absurd none (sound.receiving standing)

end Approving

/-! ## A call of the payload -/

section Advancing

variable {manager : IncomingRequestManager} {registry next : Registry}
  {thread after : SessionThread} {event : ReceiveEvent}

theorem advance_cases (advanced : thread.advance registry event = some (next, after)) :
    ∃ session moved, thread.receive = some session ∧
      (session.phase.notifies = true → thread.notice = .finished) ∧
      session.Transition registry event next moved ∧
      after = { thread with receive := some moved, notice := .waiting } := by
  unfold SessionThread.advance at advanced
  split at advanced
  · cases advanced
  · next session inside =>
      split at advanced
      · cases advanced
      · next ready =>
          split at advanced
          · cases advanced
          · next registry moved stepped =>
              cases advanced
              refine ⟨session, moved, inside, fun notifies => ?_,
                ReceiveSession.step_transition stepped, rfl⟩
              by_contra waiting
              exact ready ⟨notifies, waiting⟩

/-- The records evolve under a thread's payload, and the thread keeps to its own. -/
theorem advance_sound (keyed : registry.Keyed) (sound : ThreadSound manager registry thread)
    (advanced : thread.advance registry event = some (next, after)) :
    registry.Evolves (SessionThread.begin thread.approval.request).origin next ∧
      ThreadSound manager next after ∧ after.approval = thread.approval ∧
      after.owes = thread.owes := by
  obtain ⟨session, moved, inside, _, transition, rfl⟩ := advance_cases advanced
  obtain ⟨phase, known, origin, anchored⟩ := sound.receives session inside
  obtain ⟨evolves, stays, same⟩ := transition.anchored keyed anchored
  rw [origin] at evolves
  refine ⟨evolves, ?_, rfl, rfl⟩
  refine ⟨sound.pending, sound.identified, sound.awaits, sound.responds, fun _ => ?_, ?_,
    sound.requests, sound.decides⟩
  · simp
  · rintro other ⟨⟩
    exact ⟨phase, known, same.trans origin, stays⟩

theorem ReceivingRecord.evolves {request : IncomingTransferRequest}
    (received : ∀ info ∈ registry.transfers, ReceivingRecord manager info)
    (known : Known manager request (· = .accepted))
    (evolves : registry.Evolves (SessionThread.begin request).origin next) :
    ∀ info ∈ next.transfers, ReceivingRecord manager info := by
  intro info member
  obtain ⟨record, found⟩ := List.mem_iff_getElem?.mp member
  cases before : registry.transfers[record]? with
  | some old =>
      obtain ⟨new, there, same, _⟩ := evolves.kept record old before
      cases found.symm.trans there
      exact (received old (List.mem_of_getElem? before)).same same
  | none =>
      obtain ⟨offered, isOffered, offset, now, rfl⟩ := evolves.further record info found before
      obtain ⟨entry, present, transfer, accepted⟩ := known
      refine ⟨rfl, entry, present, accepted, ?_, offered, ?_, rfl⟩
      · rw [transfer.peerDeviceId]; rfl
      · rw [transfer.files]; exact isOffered

end Advancing

/-! ## Runtime updates -/

/-- Outgoing records have identifiers of their own within their transfer. -/
structure SentSound (sent : List TransferInfo) : Prop where
  outgoing : ∀ info ∈ sent, info.direction = .send ∧ (truthy info.fileId).isSome
  apart : ∀ (left right : Nat) (first second : TransferInfo), sent[left]? = some first →
    sent[right]? = some second → first.transferId = second.transferId →
    first.fileId = second.fileId → left = right

/-- What a runtime update has in its hands is of the transfer it is storing. -/
def PhaseSound (system : HistorySystem) (run : PersistRun) : Prop :=
  match run.phase with
  | .head => True
  | .scan infos priorities left => ∃ transferId refs rest, run.groups = (transferId, refs) :: rest ∧
      infos = refs.map .live ∧ left <:+ infos ∧ priorities <:+ aggregatePriorities
  | .existing infos _ => ∃ transferId refs rest, run.groups = (transferId, refs) :: rest ∧
      infos = refs.map .live
  | .create turn => ∃ transferId refs rest, run.groups = (transferId, refs) :: rest ∧
      turn.transferId = transferId ∧ (∀ file ∈ turn.files, file.transferId = transferId) ∧
      ∃ ref ∈ refs, ∃ info, system.read ref = some info ∧
        turn.first.peerDeviceId = info.peerDeviceId ∧ turn.first.direction = info.direction

structure RunSound (system : HistorySystem) (run : PersistRun) : Prop where
  groups : ∀ group ∈ run.groups, group.2 ≠ [] ∧ group.2.Nodup ∧
    ∀ ref ∈ group.2, ∃ info, system.read ref = some info ∧ info.transferId = group.1
  apart : (run.groups.map Prod.fst).Nodup
  phase : PhaseSound system run

/-- Records are read again as records of the same files. -/
def Rereads (system next : HistorySystem) : Prop :=
  ∀ ref info, system.read ref = some info → ∃ new, next.read ref = some new ∧ SameRecord info new

theorem RunSound.rereads {system next : HistorySystem} {run : PersistRun}
    (sound : RunSound system run) (rereads : Rereads system next) : RunSound next run where
  groups group member := by
    obtain ⟨some, distinct, reads⟩ := sound.groups group member
    refine ⟨some, distinct, fun ref isRef => ?_⟩
    obtain ⟨info, read, transfer⟩ := reads ref isRef
    obtain ⟨new, again, same⟩ := rereads ref info read
    exact ⟨new, again, same.transferId.trans transfer⟩
  apart := sound.apart
  phase := by
    have phase := sound.phase
    unfold PhaseSound at phase ⊢
    split at phase <;> try exact phase
    obtain ⟨transferId, refs, rest, current, keyed, files, ref, member, info, read, device, way⟩ := phase
    obtain ⟨new, again, same⟩ := rereads ref info read
    exact ⟨transferId, refs, rest, current, keyed, files, ref, member, new, again,
      device.trans same.peerDeviceId.symm, way.trans same.direction.symm⟩

section Persisting

variable {system : HistorySystem}

/-- Records of one transfer with one file key are the same record. -/
theorem fileKey_injective (keyed : system.registry.Keyed)
    (received : ∀ info ∈ system.registry.transfers, ReceivingRecord system.manager info)
    (manager : ManagerSound system.manager) (sent : SentSound system.sent) {left right : RecordRef}
    {first second : TransferInfo} (leftRead : system.read left = some first)
    (rightRead : system.read right = some second) (transfer : first.transferId = second.transferId)
    (same : system.fileKey left = system.fileKey right) : left = right := by
  have named {info : TransferInfo} (member : info ∈ system.registry.transfers) :
      truthy info.fileId = info.fileId := by
    obtain ⟨_, entry, found, _, _, file, isFile, fileId⟩ := received info member
    have some := (manager.identified _ _ found).named file isFile
    rw [fileId]
    simp [truthy, Option.filter, List.isEmpty_eq_false_iff.mpr some]
  have outgoing {info : TransferInfo} (member : info ∈ system.sent) :
      truthy info.fileId = info.fileId := by
    obtain ⟨_, some⟩ := sent.outgoing info member
    cases fileId : info.fileId with
    | none => rfl
    | some text =>
        rw [fileId] at some
        simp only [truthy, Option.filter] at some ⊢
        split at some
        · next isSome => rw [if_pos isSome]
        · cases some
  have fileIds {a b : TransferInfo} (one : truthy a.fileId = a.fileId)
      (two : truthy b.fileId = b.fileId) (oneSome : a.fileId ≠ none) (twoSome : b.fileId ≠ none)
      (keys : (truthy a.fileId).getD a.filename = (truthy b.fileId).getD b.filename) :
      a.fileId = b.fileId := by
    rw [one, two] at keys
    obtain ⟨x, hx⟩ := Option.ne_none_iff_exists'.mp oneSome
    obtain ⟨y, hy⟩ := Option.ne_none_iff_exists'.mp twoSome
    rw [hx, hy] at keys ⊢
    exact congrArg some keys
  unfold HistorySystem.fileKey at same
  rw [leftRead, rightRead] at same
  simp only [Option.map_some, Option.some.injEq, Prod.mk.injEq] at same
  obtain ⟨keys, direction⟩ := same
  cases left with
  | received i =>
      have member := List.mem_of_getElem? leftRead
      cases right with
      | received j =>
          have member' := List.mem_of_getElem? rightRead
          obtain ⟨fileId, at', pointed⟩ := keyed.keyed i first leftRead
          obtain ⟨fileId', at'', pointed'⟩ := keyed.keyed j second rightRead
          have equal := fileIds (named member) (named member') (by rw [at']; simp) (by rw [at'']; simp) keys
          rw [at', at''] at equal
          cases equal
          rw [transfer] at pointed
          exact congrArg _ (Option.some.inj (pointed.symm.trans pointed'))
      | sent j =>
          rw [(received first member).direction,
            (sent.outgoing second (List.mem_of_getElem? rightRead)).1] at direction
          cases direction
  | sent i =>
      have member := List.mem_of_getElem? leftRead
      cases right with
      | received j =>
          rw [(received second (List.mem_of_getElem? rightRead)).direction,
            (sent.outgoing first member).1] at direction
          cases direction
      | sent j =>
          have member' := List.mem_of_getElem? rightRead
          have isSome {info : TransferInfo} (member : info ∈ system.sent) : info.fileId ≠ none := by
            intro none
            have there := (sent.outgoing info member).2
            rw [none] at there
            cases there
          have equal := fileIds (outgoing member) (outgoing member') (isSome member) (isSome member') keys
          exact congrArg _ (sent.apart i j first second leftRead rightRead transfer equal)

/-- Every record of a transfer is its own file, so none are merged. -/
theorem resolve_eq (keyed : system.registry.Keyed)
    (received : ∀ info ∈ system.registry.transfers, ReceivingRecord system.manager info)
    (manager : ManagerSound system.manager) (sent : SentSound system.sent) {transferId : PyStr}
    {refs : List RecordRef} (distinct : refs.Nodup)
    (reads : ∀ ref ∈ refs, ∃ info, system.read ref = some info ∧ info.transferId = transferId) :
    system.resolve refs = refs.map .live := by
  have keys : (refs.map system.fileKey).Nodup := by
    refine List.Nodup.map_on (fun left isLeft right isRight same => ?_) distinct
    obtain ⟨first, leftRead, leftTransfer⟩ := reads left isLeft
    obtain ⟨second, rightRead, rightTransfer⟩ := reads right isRight
    exact fileKey_injective keyed received manager sent leftRead rightRead
      (leftTransfer.trans rightTransfer.symm) same
  unfold HistorySystem.resolve
  rw [Dict.values_group_of_nodup keys, List.filterMap_map]
  exact congrFun (List.filterMap_eq_map (f := InfoRef.live)) refs

theorem refs_nodup : system.refs.Nodup := by
  unfold HistorySystem.refs
  refine List.Nodup.append ?_ ?_ ?_
  · exact List.Nodup.map (fun _ _ same => by cases same; rfl) List.nodup_range
  · exact List.Nodup.map (fun _ _ same => by cases same; rfl) List.nodup_range
  · intro ref left right
    obtain ⟨_, _, rfl⟩ := List.mem_map.mp left
    obtain ⟨_, _, same⟩ := List.mem_map.mp right
    cases same

theorem mem_refs {ref : RecordRef} : ref ∈ system.refs ↔ ∃ info, system.read ref = some info := by
  unfold HistorySystem.refs HistorySystem.read
  cases ref with
  | received record =>
      simp only [List.mem_append, List.mem_map, List.mem_range, reduceCtorEq, and_false,
        exists_false, or_false, RecordRef.received.injEq, exists_eq_right]
      simp [← Option.isSome_iff_exists]
  | sent record =>
      simp only [List.mem_append, List.mem_map, List.mem_range, reduceCtorEq, and_false,
        exists_false, false_or, RecordRef.sent.injEq, exists_eq_right]
      simp [← Option.isSome_iff_exists]

theorem transferOf_read {ref : RecordRef} {info : TransferInfo} (read : system.read ref = some info) :
    system.transferOf ref = info.transferId := by
  simp [HistorySystem.transferOf, read]

/-- A transfer is grouped with all its records. -/
theorem mem_grouped {group : PyStr × List RecordRef} (member : group ∈ system.grouped) :
    group.2 ≠ [] ∧
      group.2 = system.refs.filter fun ref => decide (system.transferOf ref = group.1) := by
  obtain ⟨transferId, refs⟩ := group
  have found := Dict.get_eq_some_iff.mpr member
  exact ⟨Dict.get_group_ne_nil found, Dict.get_group_eq found⟩

theorem runSound_start {owner : Option Nat} {now : Time} :
    RunSound system ⟨owner, now, system.grouped, .head⟩ where
  groups group member := by
    obtain ⟨some, filtered⟩ := mem_grouped member
    refine ⟨some, filtered ▸ refs_nodup.filter _, fun ref isRef => ?_⟩
    rw [filtered, List.mem_filter, decide_eq_true_eq] at isRef
    obtain ⟨info, read⟩ := mem_refs.mp isRef.1
    exact ⟨info, read, (transferOf_read read).symm.trans isRef.2⟩
  apart := (Dict.group system.transferOf system.refs).distinct
  phase := trivial

end Persisting

/-! ## One call of a runtime update -/

/-- One call or read of a runtime update. -/
inductive PersistMove (system : HistorySystem) (run : PersistRun) (ok : Bool)
    (hostname : Option PyStr) : HistorySystem → Prop where
  | finished (halted : run.groups = []) :
      PersistMove system run ok hostname { system with
        run := none
        threads := match run.owner with
          | some owner => system.threads.modify owner fun thread =>
              { thread with notice := .finished }
          | none => system.threads }
  | resolved {transferId : PyStr} {refs : List RecordRef} {rest : List (PyStr × List RecordRef)}
      (current : run.groups = (transferId, refs) :: rest) (standing : run.phase = .head) :
      PersistMove system run ok hostname { system with run := some { run with
        phase := .scan (system.resolve refs) aggregatePriorities (system.resolve refs) } }
  | exhausted {group : PyStr × List RecordRef} {rest : List (PyStr × List RecordRef)}
      {infos left : List InfoRef} (current : run.groups = group :: rest)
      (standing : run.phase = .scan infos [] left) :
      PersistMove system run ok hostname
        { system with run := some { run with phase := .existing infos .complete } }
  | round {group : PyStr × List RecordRef} {rest : List (PyStr × List RecordRef)}
      {infos : List InfoRef} {priority : TransferStatus} {priorities : List TransferStatus}
      (current : run.groups = group :: rest)
      (standing : run.phase = .scan infos (priority :: priorities) []) :
      PersistMove system run ok hostname
        { system with run := some { run with phase := .scan infos priorities infos } }
  | hit {group : PyStr × List RecordRef} {rest : List (PyStr × List RecordRef)}
      {infos left : List InfoRef} {item : InfoRef} {info : TransferInfo} {priority : TransferStatus}
      {priorities : List TransferStatus} (current : run.groups = group :: rest)
      (standing : run.phase = .scan infos (priority :: priorities) (item :: left))
      (read : system.readInfo item = some info) (same : info.status = priority) :
      PersistMove system run ok hostname
        { system with run := some { run with phase := .existing infos priority } }
  | miss {group : PyStr × List RecordRef} {rest : List (PyStr × List RecordRef)}
      {infos left : List InfoRef} {item : InfoRef} {priority : TransferStatus}
      {priorities : List TransferStatus} (current : run.groups = group :: rest)
      (standing : run.phase = .scan infos (priority :: priorities) (item :: left))
      (other : ∀ info, system.readInfo item = some info → info.status ≠ priority) :
      PersistMove system run ok hostname
        { system with run := some { run with phase := .scan infos (priority :: priorities) left } }
  | built {transferId : PyStr} {refs : List RecordRef} {rest : List (PyStr × List RecordRef)}
      {infos : List InfoRef} {status : TransferStatus} {first : TransferInfo}
      {others : List TransferInfo} (current : run.groups = (transferId, refs) :: rest)
      (standing : run.phase = .existing infos status)
      (items : infos.filterMap system.readInfo = first :: others) :
      PersistMove system run ok hostname { system with run := some { run with
        phase := .create ⟨transferId, first, others, status, run.now, hostname,
          system.existing ok transferId⟩ } }
  | skipped {transferId : PyStr} {refs : List RecordRef} {rest : List (PyStr × List RecordRef)}
      {infos : List InfoRef} {status : TransferStatus} (current : run.groups = (transferId, refs) :: rest)
      (standing : run.phase = .existing infos status) :
      PersistMove system run ok hostname
        { system with run := some { run with groups := rest, phase := .head } }
  | stored {transferId : PyStr} {refs : List RecordRef} {rest : List (PyStr × List RecordRef)}
      {turn : PersistTurn}
      (current : run.groups = (transferId, refs) :: rest) (standing : run.phase = .create turn) :
      PersistMove system run ok hostname { system with
        store := turn.write system.store ok
        persisted := turn.remember system.persisted
        run := some { run with groups := rest, phase := .head } }

theorem persistStep_moves (system : HistorySystem) (run : PersistRun) (ok : Bool)
    (hostname : Option PyStr) :
    PersistMove system run ok hostname (system.persistStep run ok hostname) := by
  obtain ⟨owner, now, groups, phase⟩ := run
  cases groups with
  | nil => exact .finished rfl
  | cons group rest =>
      obtain ⟨transferId, refs⟩ := group
      cases phase with
      | head => exact .resolved rfl rfl
      | scan infos priorities left =>
          cases priorities with
          | nil => exact .exhausted rfl rfl
          | cons priority priorities =>
              cases left with
              | nil => exact .round rfl rfl
              | cons item left =>
                  simp only [HistorySystem.persistStep]
                  split
                  · next found =>
                      obtain ⟨info, read, same⟩ := (Option.any_eq_true _ _).mp found
                      exact .hit rfl rfl read (of_decide_eq_true same)
                  · next missed =>
                      refine .miss rfl rfl fun info read same => missed ?_
                      exact (Option.any_eq_true _ _).mpr ⟨info, read, decide_eq_true same⟩
      | existing infos status =>
          simp only [HistorySystem.persistStep]
          cases items : infos.filterMap system.readInfo with
          | nil => exact .skipped rfl rfl
          | cons first others =>
              dsimp only
              split
              · exact .built rfl rfl items
              · exact .skipped rfl rfl
      | create turn => exact .stored rfl rfl

/-! ## Every state -/

/-- What every state keeps to, whatever the store holds. -/
structure Coherent (system : HistorySystem) : Prop where
  manager : ManagerSound system.manager
  threads : ∀ thread ∈ system.threads, ThreadSound system.manager system.registry thread
  decisions : ∀ request ∈ system.decisions, request.status ≠ .pendingApproval ∧
    Known system.manager request (· = request.status)
  keyed : system.registry.Keyed
  received : ∀ info ∈ system.registry.transfers, ReceivingRecord system.manager info
  sent : SentSound system.sent
  run : ∀ run, system.run = some run → RunSound system run

theorem coherent_start (maxPending : Nat) (store : TransferHistoryStore) :
    Coherent (.start maxPending store) where
  manager := ⟨fun _ _ found => (nomatch found), fun _ _ found => nomatch found⟩
  threads _ member := nomatch member
  decisions _ member := nomatch member
  keyed := ⟨fun _ _ found => (nomatch found), fun _ _ _ found => nomatch found⟩
  received _ member := nomatch member
  sent := ⟨fun _ member => (nomatch member), fun _ _ _ _ found => nomatch found⟩
  run _ none := nomatch none

section Steps

variable {platform : Platform} {system next : HistorySystem}

theorem rereads_refl : Rereads system system := fun _ info read => ⟨info, read, .refl _⟩

theorem deciding_eq (manager : IncomingRequestManager) (transferId : PyStr) (how : Deciding) :
    ∃ status reason, status ≠ .pendingApproval ∧
      HistorySystem.deciding manager transferId how = manager.decide transferId status reason := by
  cases how with
  | accept => exact ⟨_, _, by simp, rfl⟩
  | reject reason => exact ⟨_, _, by simp, rfl⟩
  | cancel reason => exact ⟨_, _, by simp, rfl⟩

/-- The records a step of another session leaves are read again. -/
theorem rereads_evolves {registry : Registry} {origin : Origin} {threads : List SessionThread}
    (evolves : system.registry.Evolves origin registry) :
    Rereads system { system with registry, threads } := by
  intro ref info read
  cases ref with
  | received record =>
      obtain ⟨new, there, same, _⟩ := evolves.kept record info read
      exact ⟨new, there, same⟩
  | sent record => exact ⟨info, read, .refl _⟩

theorem mayChange_same {old new : TransferInfo} (may : HistorySystem.mayChange old new = true) :
    SameRecord old new ∧ Reaches old.status new.status := by
  simp only [HistorySystem.mayChange, Bool.and_eq_true, decide_eq_true_eq] at may
  obtain ⟨⟨⟨⟨⟨⟨⟨⟨⟨reaches, direction⟩, transferId⟩, fileId⟩, filename⟩, filesize⟩, peerIp⟩,
    peerDeviceId⟩, startedAt⟩, message⟩ := may
  exact ⟨⟨filename, filesize, direction, peerIp, peerDeviceId, transferId, fileId, startedAt, message⟩,
    reaches⟩

theorem sent_append {info : TransferInfo} (sound : SentSound system.sent)
    (may : system.mayAdd info = true) : SentSound (system.sent ++ [info]) := by
  simp only [HistorySystem.mayAdd, Bool.and_eq_true, decide_eq_true_eq, Bool.not_eq_true',
    List.any_eq_false, not_and] at may
  obtain ⟨⟨⟨⟨direction, _⟩, named⟩, _⟩, fresh⟩ := may
  have cases' {index : Nat} {found : TransferInfo} (at' : (system.sent ++ [info])[index]? = some found) :
      system.sent[index]? = some found ∨ (index = system.sent.length ∧ found = info) := by
    rw [List.getElem?_append] at at'
    split at at'
    · exact .inl at'
    · rw [List.getElem?_singleton] at at'
      split at at'
      · cases at'; exact .inr ⟨by omega, rfl⟩
      · cases at'
  constructor
  · intro other member
    rcases List.mem_append.mp member with old | new
    · exact sound.outgoing other old
    · cases List.mem_singleton.mp new; exact ⟨direction, named⟩
  · intro left right first second leftAt rightAt transfer file
    rcases cases' leftAt with leftOld | ⟨rfl, rfl⟩ <;> rcases cases' rightAt with rightOld | ⟨rfl, rfl⟩
    · exact sound.apart left right first second leftOld rightOld transfer file
    · exact absurd file (fresh first (List.mem_of_getElem? leftOld) transfer)
    · exact absurd file.symm (fresh second (List.mem_of_getElem? rightOld) transfer.symm)
    · rfl

theorem sent_set {index : Nat} {old info : TransferInfo} (sound : SentSound system.sent)
    (found : system.sent[index]? = some old) (same : SameRecord old info) :
    SentSound (system.sent.set index info) := by
  have earlier {place : Nat} {other : TransferInfo}
      (at' : (system.sent.set index info)[place]? = some other) :
      ∃ before, system.sent[place]? = some before ∧ SameRecord before other := by
    by_cases equal : place = index
    · subst equal
      rw [List.getElem?_set_self (List.getElem?_eq_some_iff.mp found).1] at at'
      cases at'
      exact ⟨old, found, same⟩
    · rw [List.getElem?_set_ne (Ne.symm equal)] at at'
      exact ⟨other, at', .refl _⟩
  constructor
  · intro other member
    obtain ⟨place, at'⟩ := List.mem_iff_getElem?.mp member
    obtain ⟨before, there, kept⟩ := earlier at'
    rw [kept.direction, kept.fileId]
    exact sound.outgoing before (List.mem_of_getElem? there)
  · intro left right first second leftAt rightAt transfer file
    obtain ⟨leftBefore, leftThere, leftKept⟩ := earlier leftAt
    obtain ⟨rightBefore, rightThere, rightKept⟩ := earlier rightAt
    refine sound.apart left right leftBefore rightBefore leftThere rightThere ?_ ?_
    · rw [← leftKept.transferId, ← rightKept.transferId, transfer]
    · rw [← leftKept.fileId, ← rightKept.fileId, file]

/-- A runtime update keeps its hands on the transfer it is storing. -/
theorem persist_sound {run : PersistRun} {ok : Bool} {hostname : Option PyStr}
    (coherent : Coherent system) (running : system.run = some run)
    (move : PersistMove system run ok hostname next) :
    (∀ later, next.run = some later → RunSound next later) ∧
      next.manager = system.manager ∧ next.registry = system.registry ∧ next.sent = system.sent ∧
      next.decisions = system.decisions ∧
      ∀ thread ∈ next.threads, ∃ before ∈ system.threads, thread = before ∨
        thread = { before with notice := .finished } := by
  have sound := coherent.run run running
  have tail {group : PyStr × List RecordRef} {rest : List (PyStr × List RecordRef)}
      (current : run.groups = group :: rest) :
      RunSound system { run with groups := rest, phase := .head } := by
    refine ⟨fun other member => sound.groups other (by rw [current]; exact List.mem_cons_of_mem _ member),
      ?_, trivial⟩
    have apart := sound.apart
    rw [current] at apart
    exact (List.nodup_cons.mp apart).2
  have stay (phase : PersistPhase) (phaseSound : PhaseSound system { run with phase }) :
      RunSound { system with run := some { run with phase } } { run with phase } :=
    RunSound.rereads ⟨sound.groups, sound.apart, phaseSound⟩ fun _ info read => ⟨info, read, .refl _⟩
  have same (thread : SessionThread) (member : thread ∈ system.threads) :
      ∃ before ∈ system.threads, thread = before ∨ thread = { before with notice := .finished } :=
    ⟨thread, member, .inl rfl⟩
  have phase := sound.phase
  unfold PhaseSound at phase
  cases move with
  | finished halted =>
      refine ⟨fun _ none => (nomatch none), rfl, rfl, rfl, rfl, fun thread member => ?_⟩
      dsimp only at member
      split at member
      · next owner owned =>
          obtain ⟨place, at'⟩ := List.mem_iff_getElem?.mp member
          rw [List.getElem?_modify] at at'
          obtain ⟨before, there, changed⟩ := Option.map_eq_some_iff.mp at'
          refine ⟨before, List.mem_of_getElem? there, ?_⟩
          split at changed
          · exact .inr changed.symm
          · exact .inl changed.symm
      · exact same thread member
  | @resolved transferId refs rest current standing =>
      refine ⟨?_, rfl, rfl, rfl, rfl, same⟩
      rintro later ⟨⟩
      obtain ⟨_, distinct, reads⟩ := sound.groups (transferId, refs) (by rw [current]; simp)
      have resolve := resolve_eq coherent.keyed coherent.received coherent.manager coherent.sent
        distinct reads
      exact stay _ ⟨transferId, refs, rest, current, resolve, List.suffix_refl _, List.suffix_refl _⟩
  | exhausted current standing =>
      refine ⟨?_, rfl, rfl, rfl, rfl, same⟩
      rintro later ⟨⟩
      rw [standing] at phase
      obtain ⟨transferId, refs, rest, at', infos, _⟩ := phase
      exact stay _ ⟨transferId, refs, rest, at', infos⟩
  | round current standing =>
      refine ⟨?_, rfl, rfl, rfl, rfl, same⟩
      rintro later ⟨⟩
      rw [standing] at phase
      obtain ⟨transferId, refs, rest, at', infos, _, priorities⟩ := phase
      exact stay _ ⟨transferId, refs, rest, at', infos, List.suffix_refl _,
        (List.suffix_cons _ _).trans priorities⟩
  | hit current standing read found =>
      refine ⟨?_, rfl, rfl, rfl, rfl, same⟩
      rintro later ⟨⟩
      rw [standing] at phase
      obtain ⟨transferId, refs, rest, at', infos, _⟩ := phase
      exact stay _ ⟨transferId, refs, rest, at', infos⟩
  | miss current standing other =>
      refine ⟨?_, rfl, rfl, rfl, rfl, same⟩
      rintro later ⟨⟩
      rw [standing] at phase
      obtain ⟨transferId, refs, rest, at', infos, left, priorities⟩ := phase
      exact stay _ ⟨transferId, refs, rest, at', infos, (List.suffix_cons _ _).trans left, priorities⟩
  | @built transferId refs rest infos status first others current standing items =>
      refine ⟨?_, rfl, rfl, rfl, rfl, same⟩
      rintro later ⟨⟩
      rw [standing] at phase
      obtain ⟨_, _, _, at', live⟩ := phase
      cases current.symm.trans at'
      have first' : first ∈ infos.filterMap system.readInfo := by rw [items]; simp
      obtain ⟨item, member, read⟩ := List.mem_filterMap.mp first'
      rw [live] at member
      obtain ⟨ref, isRef, rfl⟩ := List.mem_map.mp member
      refine stay _ ⟨transferId, refs, rest, current, rfl, fun file isFile => ?_, ref, isRef, first,
        read, rfl, rfl⟩
      unfold PersistTurn.files runtimeFiles at isFile
      obtain ⟨index, _, rfl⟩ := List.mem_mapIdx.mp isFile
      rfl
  | skipped current standing =>
      refine ⟨?_, rfl, rfl, rfl, rfl, same⟩
      rintro later ⟨⟩
      exact RunSound.rereads (tail current) fun ref info read => ⟨info, read, .refl _⟩
  | stored current standing =>
      refine ⟨?_, rfl, rfl, rfl, rfl, same⟩
      rintro later ⟨⟩
      exact RunSound.rereads (tail current) fun ref info read => ⟨info, read, .refl _⟩

theorem coherent_step {label : HistoryLabel} (coherent : Coherent system)
    (stepped : historyStep platform system label = some next) : Coherent next := by
  -- every thread and record under a manager that has gone on
  have managed {manager : IncomingRequestManager} (persists : Persists system.manager manager) :
      (∀ thread ∈ system.threads, ThreadSound manager system.registry thread) ∧
      (∀ request ∈ system.decisions, request.status ≠ .pendingApproval ∧
        Known manager request (· = request.status)) ∧
      ∀ info ∈ system.registry.transfers, ReceivingRecord manager info := by
    refine ⟨fun thread member => (coherent.threads thread member).persists persists,
      fun request member => ?_, fun info member => (coherent.received info member).persists persists⟩
    obtain ⟨settled, known⟩ := coherent.decisions request member
    exact ⟨settled, known.persists (lasting_eq settled) persists⟩
  cases label with
  | offered payload peerDeviceId peerIp peerName receivedAt =>
      simp only [historyStep] at stepped
      split at stepped
      · cases stepped
      · next offer valid =>
          cases stepped
          refine { coherent with threads := fun thread member => ?_, run := fun run running => ?_ }
          · rcases List.mem_append.mp member with old | new
            · exact coherent.threads thread old
            · cases List.mem_singleton.mp new
              exact ⟨rfl, validateOffer_identified valid, fun waits => (nomatch waits),
                fun _ at' => (nomatch at'), fun at' => (nomatch at'), fun _ none => (nomatch none),
                fun _ none => (nomatch none), fun _ none => nomatch none⟩
          · exact (coherent.run run running).rereads fun ref info read => ⟨info, read, .refl _⟩
  | session index event =>
      simp only [historyStep, Option.bind_eq_bind, Option.bind_eq_some_iff] at stepped
      obtain ⟨thread, found, ⟨manager, after⟩, approved, finished⟩ := stepped
      cases finished
      have sound := coherent.threads thread (List.mem_of_getElem? found)
      obtain ⟨managerSound, persists⟩ := approve_manager coherent.manager sound approved
      obtain ⟨threads, decisions, received⟩ := managed persists
      refine ⟨managerSound, fun other member => ?_, decisions, coherent.keyed, received,
        coherent.sent, fun run running => ?_⟩
      · rcases List.mem_or_eq_of_mem_set member with old | rfl
        · exact threads other old
        · exact approve_sound coherent.manager sound approved
      · exact (coherent.run run running).rereads fun ref info read => ⟨info, read, .refl _⟩
  | receive index event =>
      simp only [historyStep, Option.bind_eq_bind, Option.bind_eq_some_iff] at stepped
      obtain ⟨thread, found, ⟨registry, after⟩, advanced, finished⟩ := stepped
      cases finished
      have sound := coherent.threads thread (List.mem_of_getElem? found)
      obtain ⟨evolves, afterSound, _⟩ := advance_sound coherent.keyed sound advanced
      obtain ⟨session, _, inside, _⟩ := advance_cases advanced
      obtain ⟨_, known, _⟩ := sound.receives session inside
      refine ⟨coherent.manager, fun other member => ?_, coherent.decisions,
        evolves.keyed coherent.keyed, ReceivingRecord.evolves coherent.received known evolves, coherent.sent,
        fun run running => (coherent.run run running).rereads (rereads_evolves evolves)⟩
      rcases List.mem_or_eq_of_mem_set member with old | rfl
      · exact (coherent.threads other old).evolves evolves
      · exact afterSound
  | callback index ok now =>
      simp only [historyStep, Option.bind_eq_bind, Option.bind_eq_some_iff] at stepped
      obtain ⟨thread, found, callback, owes, finished⟩ := stepped
      cases finished
      refine { coherent with threads := fun other member => ?_, run := fun run running => ?_ }
      · rcases List.mem_or_eq_of_mem_set member with old | rfl
        · exact coherent.threads other old
        · exact (coherent.threads thread (List.mem_of_getElem? found)).paid
      · exact (coherent.run run running).rereads fun ref info read => ⟨info, read, .refl _⟩
  | decide transferId how =>
      obtain ⟨status, reason, settled, same⟩ := deciding_eq system.manager transferId how
      simp only [historyStep, same] at stepped
      cases stepped
      obtain ⟨threads, decisions, received⟩ :=
        managed (decide_persists system.manager transferId status reason)
      have managerSound := coherent.manager.decide transferId status reason
      refine ⟨managerSound, threads, fun request member => ?_, coherent.keyed, received, coherent.sent,
        fun run running => (coherent.run run running).rereads fun ref info read => ⟨info, read, .refl _⟩⟩
      rcases decide_cases system.manager transferId status reason with
        unchanged | ⟨entry, found, pending, decided⟩
      · rw [unchanged] at member ⊢
        exact coherent.decisions request member
      · have told : (system.manager.decide transferId status reason).2 = true := by rw [decided]
        rw [if_pos told, List.mem_append] at member
        rcases member with old | new
        · exact decisions request old
        · rw [decided] at new ⊢
          simp only [IncomingRequestManager.getRequest, Dict.get_set_self, Option.map_some,
            Option.toList_some, List.mem_singleton] at new
          cases new
          refine ⟨settled, ⟨{ entry.request with status, reason }, entry.event⟩, ?_, .refl _, rfl⟩
          have keyed := coherent.manager.keyed transferId entry found
          simp only [keyed, Dict.get_set_self]
  | decided index ok now =>
      simp only [historyStep, Option.bind_eq_bind, Option.bind_eq_some_iff] at stepped
      obtain ⟨request, found, finished⟩ := stepped
      cases finished
      refine { coherent with decisions := fun other member => ?_, run := fun run running => ?_ }
      · exact coherent.decisions other (List.mem_of_mem_eraseIdx member)
      · exact (coherent.run run running).rereads fun ref info read => ⟨info, read, .refl _⟩
  | send info =>
      simp only [historyStep] at stepped
      split at stepped
      · next may =>
          cases stepped
          refine { coherent with sent := sent_append coherent.sent may, run := fun run running => ?_ }
          refine (coherent.run run running).rereads fun ref old read => ⟨old, ?_, .refl _⟩
          cases ref with
          | received record => exact read
          | sent record =>
              exact (List.getElem?_append_left (List.getElem?_eq_some_iff.mp read).1).trans read
      · cases stepped
  | sending index info =>
      simp only [historyStep, Option.bind_eq_bind, Option.bind_eq_some_iff] at stepped
      obtain ⟨old, found, finished⟩ := stepped
      split at finished
      · next may =>
          cases finished
          obtain ⟨same, _⟩ := mayChange_same may
          refine { coherent with sent := sent_set coherent.sent found same, run := fun run running => ?_ }
          refine (coherent.run run running).rereads fun ref before read => ?_
          cases ref with
          | received record => exact ⟨before, read, .refl _⟩
          | sent record =>
              by_cases equal : record = index
              · subst equal
                cases found.symm.trans read
                exact ⟨info, List.getElem?_set_self (List.getElem?_eq_some_iff.mp found).1, same⟩
              · exact ⟨before, (List.getElem?_set_ne (Ne.symm equal)).trans read, .refl _⟩
      · cases finished
  | notify owner now =>
      simp only [historyStep] at stepped
      split at stepped
      · cases stepped
      · cases stepped
        refine { coherent with run := ?_ }
        rintro run ⟨⟩
        exact RunSound.rereads runSound_start fun ref info read => ⟨info, read, .refl _⟩
      · simp only [Option.bind_eq_bind, Option.bind_eq_some_iff] at stepped
        obtain ⟨thread, found, session, inside, finished⟩ := stepped
        split at finished
        · cases finished
          refine { coherent with threads := fun other member => ?_, run := ?_ }
          · rcases List.mem_or_eq_of_mem_set member with old | rfl
            · exact coherent.threads other old
            · exact (coherent.threads thread (List.mem_of_getElem? found)).settle
          · rintro run ⟨⟩
            exact RunSound.rereads runSound_start fun ref info read => ⟨info, read, .refl _⟩
        · cases finished
  | persist ok hostname =>
      simp only [historyStep, Option.bind_eq_bind, Option.bind_eq_some_iff] at stepped
      obtain ⟨run, running, finished⟩ := stepped
      cases finished
      obtain ⟨later, manager, registry, sent, decisions, threads⟩ :=
        persist_sound coherent running (persistStep_moves system run ok hostname)
      refine ⟨manager ▸ coherent.manager, fun thread member => ?_, ?_, registry ▸ coherent.keyed, ?_,
        sent ▸ coherent.sent, later⟩
      · obtain ⟨before, isThread, same | same⟩ := threads thread member
        · rw [manager, registry, same]
          exact coherent.threads before isThread
        · rw [manager, registry, same]
          exact (coherent.threads before isThread).settle
      · rw [manager, decisions]
        exact coherent.decisions
      · rw [manager, registry]
        exact coherent.received
  | restart =>
      cases stepped
      exact coherent_start _ _

/-- Records are read again as records of the same files, with statuses they can reach. -/
def Continues (system next : HistorySystem) : Prop :=
  ∀ ref info, system.read ref = some info →
    ∃ new, next.read ref = some new ∧ SameRecord info new ∧ Reaches info.status new.status

theorem continues_of_records (registry : next.registry = system.registry)
    (sent : next.sent = system.sent) : Continues system next := by
  intro ref info read
  refine ⟨info, ?_, .refl _, .inl rfl⟩
  cases ref with
  | received record => rw [HistorySystem.read, registry]; exact read
  | sent record => rw [HistorySystem.read, sent]; exact read

/-- Only a restart forgets records. -/
theorem step_continues {label : HistoryLabel} (coherent : Coherent system)
    (stepped : historyStep platform system label = some next) (running : label ≠ .restart) :
    Continues system next := by
  cases label with
  | offered payload peerDeviceId peerIp peerName receivedAt =>
      simp only [historyStep] at stepped
      split at stepped <;> cases stepped
      exact continues_of_records rfl rfl
  | session index event | callback index ok now | decided index ok now =>
      simp only [historyStep, Option.bind_eq_bind, Option.bind_eq_some_iff] at stepped
      obtain ⟨_, _, stepped⟩ := stepped
      first
        | cases stepped; exact continues_of_records rfl rfl
        | obtain ⟨_, _, finished⟩ := stepped
          cases finished
          exact continues_of_records rfl rfl
  | receive index event =>
      simp only [historyStep, Option.bind_eq_bind, Option.bind_eq_some_iff] at stepped
      obtain ⟨thread, found, ⟨registry, after⟩, advanced, finished⟩ := stepped
      cases finished
      have sound := coherent.threads thread (List.mem_of_getElem? found)
      obtain ⟨evolves, _⟩ := advance_sound coherent.keyed sound advanced
      intro ref info read
      cases ref with
      | received record =>
          obtain ⟨new, there, same, reaches, _⟩ := evolves.kept record info read
          exact ⟨new, there, same, reaches⟩
      | sent record => exact ⟨info, read, .refl _, .inl rfl⟩
  | decide transferId how => cases stepped; exact continues_of_records rfl rfl
  | send info =>
      simp only [historyStep] at stepped
      split at stepped <;> cases stepped
      intro ref old read
      refine ⟨old, ?_, .refl _, .inl rfl⟩
      cases ref with
      | received record => exact read
      | sent record =>
          exact (List.getElem?_append_left (List.getElem?_eq_some_iff.mp read).1).trans read
  | sending index info =>
      simp only [historyStep, Option.bind_eq_bind, Option.bind_eq_some_iff] at stepped
      obtain ⟨old, found, finished⟩ := stepped
      split at finished <;> cases finished
      next may =>
        intro ref before read
        cases ref with
        | received record => exact ⟨before, read, .refl _, .inl rfl⟩
        | sent record =>
            by_cases equal : record = index
            · subst equal
              cases found.symm.trans read
              obtain ⟨same, reaches⟩ := mayChange_same may
              exact ⟨info, List.getElem?_set_self (List.getElem?_eq_some_iff.mp found).1, same, reaches⟩
            · exact ⟨before, (List.getElem?_set_ne (Ne.symm equal)).trans read, .refl _, .inl rfl⟩
  | notify owner now =>
      simp only [historyStep] at stepped
      split at stepped
      · cases stepped
      · cases stepped; exact continues_of_records rfl rfl
      · simp only [Option.bind_eq_bind, Option.bind_eq_some_iff] at stepped
        obtain ⟨_, _, _, _, finished⟩ := stepped
        split at finished <;> cases finished
        exact continues_of_records rfl rfl
  | persist ok hostname =>
      simp only [historyStep, Option.bind_eq_bind, Option.bind_eq_some_iff] at stepped
      obtain ⟨run, running, finished⟩ := stepped
      cases finished
      obtain ⟨_, _, registry, sent, _⟩ :=
        persist_sound coherent running (persistStep_moves system run ok hostname)
      exact continues_of_records registry sent
  | restart => exact absurd rfl running

/-- A record is never without its request, or is one of the client's. -/
theorem read_owner (coherent : Coherent system) {ref : RecordRef} {info : TransferInfo}
    (read : system.read ref = some info) :
    (∃ entry, system.manager.entries.get info.transferId = some entry ∧
      entry.request.status = .accepted) ∨ info ∈ system.sent := by
  cases ref with
  | received record =>
      obtain ⟨_, entry, found, accepted, _⟩ := coherent.received info (List.mem_of_getElem? read)
      exact .inl ⟨entry, found, accepted⟩
  | sent record => exact .inr (List.mem_of_getElem? read)

end Steps

end DirectTransfer
