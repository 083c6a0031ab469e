import DirectTransfer.Core.ApprovalSession
import DirectTransfer.Library.Transition

/-! Approval is keyed by the transfer identifier alone. As long as no entry is
removed under a session that still awaits its decision, a session goes on to
the payload only for an offer that was accepted with the same peer and content. -/

set_option autoImplicit false

namespace DirectTransfer

open Library

/-! ## The same transfer -/

/-- Same identifier, peer, files, total size and message. -/
structure SameTransfer (left right : IncomingTransferRequest) : Prop where
  transferId : left.transferId = right.transferId
  peerDeviceId : left.peerDeviceId = right.peerDeviceId
  files : left.files = right.files
  totalSize : left.totalSize = right.totalSize
  message : left.message = right.message

namespace SameTransfer

@[refl] theorem refl (request : IncomingTransferRequest) : SameTransfer request request :=
  ⟨rfl, rfl, rfl, rfl, rfl⟩

@[symm] theorem symm {left right : IncomingTransferRequest} (same : SameTransfer left right) :
    SameTransfer right left :=
  ⟨same.transferId.symm, same.peerDeviceId.symm, same.files.symm, same.totalSize.symm,
    same.message.symm⟩

@[trans] theorem trans {left middle right : IncomingTransferRequest}
    (first : SameTransfer left middle) (second : SameTransfer middle right) :
    SameTransfer left right :=
  ⟨first.transferId.trans second.transferId, first.peerDeviceId.trans second.peerDeviceId,
    first.files.trans second.files, first.totalSize.trans second.totalSize,
    first.message.trans second.message⟩

end SameTransfer

theorem sameOffer_iff {prior request : IncomingTransferRequest} :
    sameOffer prior request = true ↔ prior.peerDeviceId = request.peerDeviceId ∧
      prior.files = request.files ∧ prior.totalSize = request.totalSize ∧
      prior.message = request.message := by
  simp [sameOffer, and_assoc]

/-- An accepting call was told that a request of this transfer is accepted. -/
def Approved (accepted : List IncomingTransferRequest) (request : IncomingTransferRequest) : Prop :=
  ∃ prior ∈ accepted, SameTransfer prior request

theorem Approved.transfer {accepted : List IncomingTransferRequest}
    {left right : IncomingTransferRequest} (approved : Approved accepted left)
    (same : SameTransfer left right) : Approved accepted right := by
  obtain ⟨prior, member, bound⟩ := approved
  exact ⟨prior, member, bound.trans same⟩

theorem Approved.mono {smaller larger : List IncomingTransferRequest}
    {request : IncomingTransferRequest} (approved : Approved smaller request)
    (subset : smaller ⊆ larger) : Approved larger request := by
  obtain ⟨prior, member, bound⟩ := approved
  exact ⟨prior, subset member, bound⟩

/-! ## The manager -/

/-- Entries stand under their own identifier, and an accepted one was accepted. -/
structure Faithful (accepted : List IncomingTransferRequest) (manager : IncomingRequestManager) :
    Prop where
  keyed : ∀ transferId entry, manager.entries.get transferId = some entry →
    entry.request.transferId = transferId
  approved : ∀ transferId entry, manager.entries.get transferId = some entry →
    entry.request.status = .accepted → Approved accepted entry.request

/-- Every entry is still there, for the same transfer. -/
def Extends (before after : IncomingRequestManager) : Prop :=
  ∀ transferId entry, before.entries.get transferId = some entry →
    ∃ later, after.entries.get transferId = some later ∧ SameTransfer later.request entry.request

theorem Extends.refl (manager : IncomingRequestManager) : Extends manager manager :=
  fun _ entry found => ⟨entry, found, .refl _⟩

theorem Faithful.mono {smaller larger : List IncomingTransferRequest}
    {manager : IncomingRequestManager} (faithful : Faithful smaller manager)
    (subset : smaller ⊆ larger) : Faithful larger manager where
  keyed := faithful.keyed
  approved transferId entry found accepted :=
    (faithful.approved transferId entry found accepted).mono subset

theorem Faithful.set {accepted : List IncomingTransferRequest}
    {manager after : IncomingRequestManager} {entry : PendingDecision}
    (faithful : Faithful accepted manager) {transferId : PyStr}
    (written : after.entries = manager.entries.set transferId entry)
    (keyed : entry.request.transferId = transferId)
    (approved : entry.request.status = .accepted → Approved accepted entry.request) :
    Faithful accepted after := by
  refine ⟨fun other later found => ?_, fun other later found isAccepted => ?_⟩ <;>
    rw [written, Dict.get_set] at found <;> split at found
  · next here => cases found; exact keyed.trans here.symm
  · exact faithful.keyed _ _ found
  · cases found; exact approved isAccepted
  · exact faithful.approved _ _ found isAccepted

theorem Extends.set {manager after : IncomingRequestManager} {entry : PendingDecision}
    {transferId : PyStr} (written : after.entries = manager.entries.set transferId entry)
    (same : ∀ old, manager.entries.get transferId = some old →
      SameTransfer entry.request old.request) : Extends manager after := by
  intro other old found
  rw [written, Dict.get_set]
  by_cases here : other = transferId
  · subst here
    rw [if_pos rfl]
    exact ⟨entry, rfl, same old found⟩
  · rw [if_neg here]
    exact ⟨old, found, .refl _⟩

/-- What a deciding call does: nothing, or one pending entry changes its status. -/
theorem decide_cases (manager : IncomingRequestManager) (transferId : PyStr)
    (status : IncomingRequestStatus) (reason : Option PyStr) :
    manager.decide transferId status reason = (manager, false) ∨
    ∃ entry, manager.entries.get transferId = some entry ∧
      entry.request.status = .pendingApproval ∧
      manager.decide transferId status reason = ({ manager with
        entries := manager.entries.set transferId ⟨{ entry.request with status, reason }, entry.event⟩
        signalled := entry.event :: manager.signalled }, true) := by
  unfold IncomingRequestManager.decide
  cases found : manager.entries.get transferId with
  | none => exact .inl rfl
  | some entry =>
      by_cases pending : entry.request.status = .pendingApproval
      · exact .inr ⟨entry, rfl, pending, by simp [pending]⟩
      · exact .inl (by simp [pending])

theorem decide_extends (manager : IncomingRequestManager) (transferId : PyStr)
    (status : IncomingRequestStatus) (reason : Option PyStr) :
    Extends manager (manager.decide transferId status reason).1 := by
  rcases decide_cases manager transferId status reason with same | ⟨entry, found, _, decided⟩
  · rw [same]; exact .refl manager
  · rw [decided]
    refine Extends.set rfl fun old foundOld => ?_
    cases found.symm.trans foundOld
    exact ⟨rfl, rfl, rfl, rfl, rfl⟩

/-- A decision other than acceptance needs no approval. -/
theorem decide_faithful {accepted : List IncomingTransferRequest} {manager : IncomingRequestManager}
    (faithful : Faithful accepted manager) {transferId : PyStr} {status : IncomingRequestStatus}
    {reason : Option PyStr} (declined : status ≠ .accepted) :
    Faithful accepted (manager.decide transferId status reason).1 := by
  rcases decide_cases manager transferId status reason with same | ⟨entry, found, _, decided⟩
  · rw [same]; exact faithful
  · rw [decided]
    have keyed := faithful.keyed _ _ found
    exact faithful.set rfl keyed fun isAccepted => absurd isAccepted declined

/-- Acceptance is told to the caller, so what it accepts is approved. -/
theorem accept_faithful {accepted : List IncomingTransferRequest} {manager : IncomingRequestManager}
    (faithful : Faithful accepted manager) (transferId : PyStr) :
    Faithful (if (manager.acceptRequest transferId).2 then
        ((manager.acceptRequest transferId).1.getRequest transferId).toList ++ accepted
      else accepted) (manager.acceptRequest transferId).1 := by
  unfold IncomingRequestManager.acceptRequest
  rcases decide_cases manager transferId .accepted none with same | ⟨entry, found, _, decided⟩
  · rw [same]; exact faithful
  · rw [decided]
    have told : ({ manager with
          entries := manager.entries.set transferId
            ⟨{ entry.request with status := .accepted, reason := none }, entry.event⟩
          signalled := entry.event :: manager.signalled } : IncomingRequestManager).getRequest
        transferId = some { entry.request with status := .accepted, reason := none } := by
      simp [IncomingRequestManager.getRequest]
    simp only [↓reduceIte, told, Option.toList_some]
    have wider := faithful.mono (List.subset_append_right
      [{ entry.request with status := .accepted, reason := none }] accepted)
    have keyed := faithful.keyed _ _ found
    exact wider.set rfl keyed fun _ => ⟨_, by simp, .refl _⟩

/-- A published request stands in the manager, and nothing else changed transfer. -/
theorem publish_spec {accepted : List IncomingTransferRequest}
    {manager published : IncomingRequestManager} {request : IncomingTransferRequest}
    (faithful : Faithful accepted manager) (pending : request.status = .pendingApproval)
    (done : manager.publish request = .ok published) :
    Faithful accepted published ∧ Extends manager published ∧
      ∃ entry, published.entries.get request.transferId = some entry ∧
        SameTransfer entry.request request := by
  unfold IncomingRequestManager.publish at done
  cases found : manager.entries.get request.transferId with
  | some existing =>
      rw [found] at done
      simp only at done
      split at done
      · cases done
      · next same =>
          split at done
          · next wasAccepted =>
              cases done
              have bound : SameTransfer existing.request request := by
                simp only [Bool.not_eq_false] at same
                obtain ⟨peer, files, size, message⟩ := sameOffer_iff.mp same
                exact ⟨faithful.keyed _ _ found, peer, files, size, message⟩
              have renamed : SameTransfer { request with status := .accepted } request :=
                ⟨rfl, rfl, rfl, rfl, rfl⟩
              have approved := (faithful.approved _ _ found wasAccepted).transfer bound
              refine ⟨faithful.set rfl rfl fun _ => approved.transfer renamed.symm,
                Extends.set rfl fun old foundOld => ?_, _, Dict.get_set_self _ _ _, renamed⟩
              cases found.symm.trans foundOld
              exact renamed.trans bound.symm
          · cases done
  | none =>
      rw [found] at done
      simp only at done
      split at done
      · cases done
      · cases done
        refine ⟨faithful.set rfl rfl fun isAccepted => ?_, Extends.set rfl fun old foundOld => ?_, _,
          Dict.get_set_self _ _ _, .refl _⟩
        · rw [pending] at isAccepted
          cases isAccepted
        · rw [found] at foundOld
          cases foundOld

/-! ## Sessions -/

/-- The session has published its request and not yet learnt the decision. -/
def ApprovalPhase.awaits : ApprovalPhase → Bool
  | .onRequest | .deadline | .poll | .select | .control | .disconnected _ | .invalidProtocol
  | .cancelledByPeer | .waitForDecision | .waitEvent _ | .expire | .fetch => true
  | _ => false

/-- What holds of a session at every call it can stand at. -/
structure SessionSafe (accepted : List IncomingTransferRequest) (manager : IncomingRequestManager)
    (session : ApprovalSession) : Prop where
  pending : session.request.status = .pendingApproval
  awaiting : session.phase.awaits = true →
    ∃ entry, manager.entries.get session.request.transferId = some entry ∧
      SameTransfer entry.request session.request
  responding : ∀ decided, session.phase = .respond decided → decided.status = .accepted →
    Approved accepted session.request
  entered : session.entered = true → Approved accepted session.request
  responded : ∀ response, session.response = some response →
    response.field "accepted" = .bool true → Approved accepted session.request

theorem SessionSafe.mono {smaller larger : List IncomingTransferRequest}
    {before after : IncomingRequestManager} {session : ApprovalSession}
    (safe : SessionSafe smaller before session) (subset : smaller ⊆ larger)
    (extends' : Extends before after) : SessionSafe larger after session where
  pending := safe.pending
  awaiting waits := by
    obtain ⟨entry, found, same⟩ := safe.awaiting waits
    obtain ⟨later, foundLater, sameLater⟩ := extends' _ _ found
    exact ⟨later, foundLater, sameLater.trans same⟩
  responding decided standing isAccepted :=
    (safe.responding decided standing isAccepted).mono subset
  entered isIn := (safe.entered isIn).mono subset
  responded response sent agreed := (safe.responded response sent agreed).mono subset

/-- A session that moves on while it awaits its decision stays safe. -/
theorem SessionSafe.move {accepted : List IncomingTransferRequest}
    {manager : IncomingRequestManager} {session : ApprovalSession}
    (safe : SessionSafe accepted manager session) {phase : ApprovalPhase}
    (awaiting : phase.awaits = true → session.phase.awaits = true)
    (responding : ∀ decided, phase = .respond decided → decided.status = .accepted →
      Approved accepted session.request) :
    SessionSafe accepted manager (session.moveTo phase) where
  pending := safe.pending
  awaiting waits := safe.awaiting (awaiting waits)
  responding := responding
  entered := safe.entered
  responded := safe.responded

theorem SessionSafe.fail {accepted : List IncomingTransferRequest}
    {manager : IncomingRequestManager} {session : ApprovalSession}
    (safe : SessionSafe accepted manager session) (error : Raised) :
    SessionSafe accepted manager (session.fail error) :=
  show SessionSafe accepted manager (session.moveTo (.ended (.error error))) from
    safe.move (by simp [ApprovalPhase.awaits]) (by simp)

theorem buildResponse_accepted {transferId : PyStr} {accepted : Bool} {reason : Option PyStr}
    {response : Json} (built : buildResponse transferId accepted reason = .ok response) :
    response.field "accepted" = .bool accepted := by
  unfold buildResponse at built
  simp only [bind, Except.bind, pure, Except.pure] at built
  split at built
  · cases built
  · cases built
    simp

/-- The request a waiting session finds under its identifier is for its transfer. -/
theorem SessionSafe.found {accepted : List IncomingTransferRequest}
    {manager : IncomingRequestManager} {session : ApprovalSession}
    (safe : SessionSafe accepted manager session) (faithful : Faithful accepted manager)
    (waits : session.phase.awaits = true) {request : IncomingTransferRequest}
    (found : manager.getRequest session.request.transferId = some request)
    (isAccepted : request.status = .accepted) : Approved accepted session.request := by
  obtain ⟨entry, standing, same⟩ := safe.awaiting waits
  rw [IncomingRequestManager.getRequest, standing] at found
  cases found
  exact (faithful.approved _ _ standing isAccepted).transfer same

/-- A deciding call by a session itself never accepts. -/
theorem declines {accepted : List IncomingTransferRequest} {manager : IncomingRequestManager}
    {session next : ApprovalSession} (faithful : Faithful accepted manager)
    (safe : SessionSafe accepted manager session) {transferId : PyStr}
    {status : IncomingRequestStatus} {reason : Option PyStr} (declined : status ≠ .accepted)
    (moved : SessionSafe accepted manager session → SessionSafe accepted manager next) :
    Faithful accepted (manager.decide transferId status reason).1 ∧
      Extends manager (manager.decide transferId status reason).1 ∧
      SessionSafe accepted (manager.decide transferId status reason).1 next :=
  ⟨decide_faithful faithful declined, decide_extends _ _ _ _,
    (moved safe).mono (List.Subset.refl _) (decide_extends _ _ _ _)⟩

/-- One step of a session: the manager keeps every entry for its transfer, and
the session stays safe. -/
theorem session_step_safe {accepted : List IncomingTransferRequest}
    {manager after : IncomingRequestManager} {session next : ApprovalSession} {event : Event}
    (faithful : Faithful accepted manager) (safe : SessionSafe accepted manager session)
    (stepped : session.step manager event = some (after, next)) :
    Faithful accepted after ∧ Extends manager after ∧ SessionSafe accepted after next := by
  have still : ∀ {phase : ApprovalPhase}, (phase.awaits = true → session.phase.awaits = true) →
      (∀ decided, phase = .respond decided → decided.status = .accepted →
        Approved accepted session.request) →
      Faithful accepted manager ∧ Extends manager manager ∧
        SessionSafe accepted manager (session.moveTo phase) := fun awaiting responding =>
    ⟨faithful, .refl _, safe.move awaiting responding⟩
  have fails : ∀ error, Faithful accepted manager ∧ Extends manager manager ∧
      SessionSafe accepted manager (session.fail error) := fun error =>
    ⟨faithful, .refl _, safe.fail error⟩
  have asks : ∀ {phase : ApprovalPhase}, phase.awaits = true → session.phase.awaits = true →
      Faithful accepted manager ∧ Extends manager manager ∧
        SessionSafe accepted manager (session.moveTo phase) := fun waits stands =>
    still (fun _ => stands) fun decided same => by subst same; cases waits
  obtain ⟨now, answer⟩ := event
  unfold ApprovalSession.step at stepped
  cases stands : session.phase with
  | publish =>
      cases answer <;> simp only [stands] at stepped <;> try cases stepped
      split at stepped
      · next published done =>
          cases stepped
          obtain ⟨kept, extended, entry, found, same⟩ := publish_spec faithful safe.pending done
          refine ⟨kept, extended, safe.pending, fun _ => ⟨entry, found, same⟩, ?_, safe.entered,
            safe.responded⟩
          intro decided responds
          simp only [ApprovalSession.moveTo] at responds
          split at responds <;> cases responds
      · cases stepped; exact still (by simp [ApprovalPhase.awaits]) (by simp)
      · cases stepped; exact fails _
  | onRequest =>
      have waits : session.phase.awaits = true := by rw [stands]; rfl
      cases answer <;> simp only [stands] at stepped <;> try cases stepped
      · exact asks rfl waits
      · exact fails _
  | receiverBusy =>
      cases answer <;> simp only [stands] at stepped <;> try cases stepped
      · split at stepped
        · cases stepped; exact fails _
        · next response built =>
            cases stepped
            refine ⟨faithful, .refl _, safe.pending, by simp [ApprovalPhase.awaits], by simp,
              safe.entered, fun other sent agreed => ?_⟩
            cases sent
            rw [buildResponse_accepted built] at agreed
            cases agreed
      · exact fails _
  | deadline =>
      have waits : session.phase.awaits = true := by rw [stands]; rfl
      cases answer <;> simp only [stands] at stepped <;> try cases stepped
      next before => cases before <;> exact asks rfl waits
  | poll =>
      have waits : session.phase.awaits = true := by rw [stands]; rfl
      cases answer <;> simp only [stands] at stepped <;> try cases stepped
      split at stepped
      · next found =>
          split at stepped
          · cases stepped
            exact still (by simp [ApprovalPhase.awaits]) fun decided same isAccepted => by
              cases same; exact safe.found faithful waits found isAccepted
          · cases stepped; exact asks rfl waits
      · cases stepped; exact asks rfl waits
  | select =>
      have waits : session.phase.awaits = true := by rw [stands]; rfl
      cases answer <;> simp only [stands] at stepped <;> try cases stepped
      · next readable => cases readable <;> exact asks rfl waits
      · exact fails _
  | control =>
      have waits : session.phase.awaits = true := by rw [stands]; rfl
      cases answer <;> simp only [stands] at stepped <;> try cases stepped
      · split at stepped <;> cases stepped <;> exact asks rfl waits
      · split at stepped
        · cases stepped; exact asks rfl waits
        · cases stepped; exact fails _
  | disconnected error =>
      cases answer <;> simp only [stands] at stepped <;> try cases stepped
      exact declines faithful safe (by simp) fun safe => safe.fail error
  | invalidProtocol =>
      cases answer <;> simp only [stands] at stepped <;> try cases stepped
      exact declines faithful safe (by simp) fun safe => safe.fail _
  | cancelledByPeer =>
      have waits : session.phase.awaits = true := by rw [stands]; rfl
      cases answer <;> simp only [stands] at stepped <;> try cases stepped
      exact declines faithful safe (by simp) fun safe => safe.move (fun _ => waits) (by simp)
  | waitForDecision =>
      have waits : session.phase.awaits = true := by rw [stands]; rfl
      cases answer <;> simp only [stands] at stepped <;> try cases stepped
      split at stepped <;> cases stepped
      · exact asks rfl waits
      · exact fails _
  | waitEvent number =>
      have waits : session.phase.awaits = true := by rw [stands]; rfl
      cases answer <;> simp only [stands] at stepped <;> try cases stepped
      split <;> exact asks rfl waits
  | expire =>
      have waits : session.phase.awaits = true := by rw [stands]; rfl
      cases answer <;> simp only [stands] at stepped <;> try cases stepped
      exact declines faithful safe (by simp) fun safe => safe.move (fun _ => waits) (by simp)
  | fetch =>
      have waits : session.phase.awaits = true := by rw [stands]; rfl
      cases answer <;> simp only [stands] at stepped <;> try cases stepped
      split at stepped <;> cases stepped
      · next found =>
          exact still (by simp [ApprovalPhase.awaits]) fun decided same isAccepted => by
            cases same; exact safe.found faithful waits found isAccepted
      · exact fails _
  | respond decided =>
      cases answer <;> simp only [stands] at stepped <;> try cases stepped
      · split at stepped
        · cases stepped; exact fails _
        · next response built =>
            have answered : response.field "accepted" = .bool true →
                Approved accepted session.request := fun agreed => by
              rw [buildResponse_accepted built] at agreed
              exact safe.responding decided stands (by simpa using agreed)
            split at stepped
            · next isAccepted =>
                cases stepped
                exact ⟨faithful, .refl _, safe.pending, by simp [ApprovalPhase.awaits], by simp,
                  fun _ => safe.responding decided stands isAccepted,
                  fun other sent => by cases sent; exact answered⟩
            · cases stepped
              exact ⟨faithful, .refl _, safe.pending, by simp [ApprovalPhase.awaits], by simp,
                safe.entered, fun other sent => by cases sent; exact answered⟩
      · exact fails _
  | receiving =>
      cases answer <;> simp only [stands] at stepped <;> try cases stepped
      · exact still (by simp [ApprovalPhase.awaits]) (by simp)
      · exact fails _
  | ended outcome => cases answer <;> simp only [stands] at stepped <;> cases stepped

/-! ## Runs -/

/-- No removal takes an entry from under a session that awaits its decision. -/
def KeepsAwaited (state : Approvals) : ApprovalLabel → Prop
  | .prune cutoff => ∀ session ∈ state.sessions, session.phase.awaits = true →
      ∀ entry, state.manager.entries.get session.request.transferId = some entry →
        IncomingRequestManager.kept cutoff entry = true
  | _ => True

structure ApprovalInvariant (state : Approvals) : Prop where
  faithful : Faithful state.accepted state.manager
  safe : ∀ session ∈ state.sessions, SessionSafe state.accepted state.manager session

theorem ApprovalInvariant.manage {state : Approvals} (holds : ApprovalInvariant state)
    {manager : IncomingRequestManager} {accepted : List IncomingTransferRequest}
    (extended : Extends state.manager manager)
    (subset : state.accepted ⊆ accepted) :
    ∀ session ∈ state.sessions, SessionSafe accepted manager session :=
  fun session member => (holds.safe session member).mono subset extended

/-- A decision other than acceptance keeps the invariant. -/
theorem ApprovalInvariant.decline {state : Approvals} (holds : ApprovalInvariant state)
    (transferId : PyStr) (status : IncomingRequestStatus) (reason : Option PyStr)
    (declined : status ≠ .accepted) (cancelling : List (PyStr × PyStr)) :
    ApprovalInvariant { state with
      manager := (state.manager.decide transferId status reason).1
      cancelling } :=
  ⟨decide_faithful holds.faithful declined,
    holds.manage (decide_extends _ _ _ _) (List.Subset.refl _)⟩

theorem prune_faithful {accepted : List IncomingTransferRequest} {manager : IncomingRequestManager}
    (faithful : Faithful accepted manager) (cutoff : Time) :
    Faithful accepted (manager.prune cutoff) := by
  refine ⟨fun transferId entry found => ?_, fun transferId entry found => ?_⟩ <;>
    rw [IncomingRequestManager.prune, Dict.get_filter, Option.filter_eq_some_iff] at found
  · exact faithful.keyed _ _ found.1
  · exact faithful.approved _ _ found.1

theorem approvalStep_invariant {state next : Approvals} {label : ApprovalLabel}
    (holds : ApprovalInvariant state) (keeps : KeepsAwaited state label)
    (stepped : approvalStep state label = some next) : ApprovalInvariant next := by
  have same := List.Subset.refl state.accepted
  cases label with
  | offered offer peerDeviceId peerIp peerName receivedAt =>
      cases stepped
      refine ⟨holds.faithful, fun session member => ?_⟩
      rcases List.mem_append.mp member with earlier | last
      · exact holds.safe session earlier
      · cases List.mem_singleton.mp last
        exact ⟨rfl, by simp [ApprovalPhase.awaits], by simp, by simp, by simp⟩
  | session index event =>
      simp only [approvalStep, bind, Option.bind_eq_some_iff] at stepped
      obtain ⟨session, found, ⟨manager, moved⟩, sessionStepped, finished⟩ := stepped
      cases finished
      have member := List.mem_of_getElem? found
      obtain ⟨faithful, extended, safe⟩ :=
        session_step_safe holds.faithful (holds.safe session member) sessionStepped
      refine ⟨faithful, fun other otherMember => ?_⟩
      rcases List.mem_or_eq_of_mem_set otherMember with earlier | rfl
      · exact holds.manage extended same other earlier
      · exact safe
  | accept transferId =>
      have subset : state.accepted ⊆ if (state.manager.acceptRequest transferId).2 then
          ((state.manager.acceptRequest transferId).1.getRequest transferId).toList ++ state.accepted
          else state.accepted := by
        split <;> simp
      cases stepped
      exact ⟨accept_faithful holds.faithful transferId,
        holds.manage (decide_extends _ _ _ _) subset⟩
  | reject transferId reason =>
      cases stepped
      exact holds.decline transferId .rejected (some reason) (by simp) state.cancelling
  | cancel transferId reason =>
      cases stepped
      exact holds.decline transferId .cancelled (some reason) (by simp) state.cancelling
  | cancelAll reason => cases stepped; exact ⟨holds.faithful, holds.safe⟩
  | cancelNext index =>
      simp only [approvalStep, bind, Option.bind_eq_some_iff] at stepped
      obtain ⟨⟨transferId, reason⟩, _, finished⟩ := stepped
      cases finished
      exact holds.decline transferId .cancelled (some reason) (by simp) _
  | prune cutoff =>
      cases stepped
      refine ⟨prune_faithful holds.faithful cutoff, fun session member => ?_⟩
      obtain ⟨pending, awaiting, responding, entered, responded⟩ := holds.safe session member
      refine ⟨pending, fun waits => ?_, responding, entered, responded⟩
      obtain ⟨entry, found, bound⟩ := awaiting waits
      refine ⟨entry, ?_, bound⟩
      rw [IncomingRequestManager.prune, Dict.get_filter, found,
        Option.filter_some, if_pos (keeps session member waits entry found)]

/-- A sender goes on to its payload only on a response that says it is accepted. -/
theorem payload_needs_acceptance {sending : Sending} {infos next : List TransferInfo}
    {event : Event} {offer : TransferOffer}
    (stepped : sessionStep sending infos .transferResponse event =
      some (next, .stands (.resumeQuery offer))) :
    ∃ response, event.answer = .control response ∧ response.field "accepted" = .bool true := by
  obtain ⟨now, answer⟩ := event
  cases answer with
  | control payload =>
      refine ⟨payload, rfl, ?_⟩
      have answered := Option.some.inj stepped
      unfold afterResponse at answered
      split at answered
      · cases answered
      · split at answered <;> cases answered
      · next valid =>
          unfold validateResponse at valid
          simp only [bind, Except.bind, pure, Except.pure, throw, throwThe,
            MonadExceptOf.throw] at valid
          repeat' split at valid
          all_goals cases valid
          all_goals assumption
  | raised error =>
      simp only [sessionStep] at stepped
      split at stepped
      · cases stepped
      · split at stepped <;> cases stepped
  | _ => cases stepped

/-- In every run in which no removal takes an entry from under a waiting
session, a session goes on to the payload only for an offer that was accepted
with the same peer and content, and its sender sends it only then. -/
theorem payload_only_if_accepted {maxPending : Nat} {labels : List ApprovalLabel}
    {state : Approvals}
    (run : Run approvalStep KeepsAwaited (.start maxPending) labels state) :
    ∀ session ∈ state.sessions,
      (session.entered = true → Approved state.accepted session.request) ∧
      ∀ sending infos next event offer response,
        session.response = some response → event.answer = .control response →
        sessionStep sending infos .transferResponse event =
          some (next, .stands (.resumeQuery offer)) →
        Approved state.accepted session.request := by
  have holds : ApprovalInvariant state :=
    run.invariant (fun _ _ _ holds keeps stepped => approvalStep_invariant holds keeps stepped)
      ⟨⟨by simp [Approvals.start, IncomingRequestManager.empty],
        by simp [Approvals.start, IncomingRequestManager.empty]⟩, by simp [Approvals.start]⟩
  intro session member
  have safe := holds.safe session member
  refine ⟨safe.entered, fun sending infos next event offer response sent answered stepped => ?_⟩
  obtain ⟨other, control, agreed⟩ := payload_needs_acceptance stepped
  cases answered.symm.trans control
  exact safe.responded response sent agreed

/-- An offer of one empty file under a fixed identifier. -/
def namedOffer (name : String) : TransferOffer where
  transferId := List.replicate 32 (chr '0')
  files := [⟨py "file", py name, 0, List.replicate 64 (chr '0')⟩]
  totalSize := 0
  message := none

/-- A peer offers a note, the user accepts it, and the session goes on. -/
def acceptedNote : List ApprovalLabel :=
  [.offered (namedOffer "note.txt") (py "mp-00000001") (py "10.0.0.1") none 1,
    .session 0 ⟨1, .done⟩, .session 0 ⟨1, .done⟩, .session 0 ⟨1, .flag true⟩,
    .accept (namedOffer "note.txt").transferId,
    .session 0 ⟨1, .done⟩, .session 0 ⟨1, .done⟩]

theorem accepted_note_received :
    ∃ state session, Run approvalStep KeepsAwaited (.start 32) acceptedNote state ∧
      state.sessions = [session] ∧ session.entered = true ∧
      Approved state.accepted session.request := by
  have entered : ((runLabels approvalStep (.start 32) acceptedNote).map fun state =>
      state.sessions.map ApprovalSession.entered) = some [true] := by decide
  obtain ⟨state, executed, shape⟩ := Option.map_eq_some_iff.mp entered
  obtain ⟨session, only, isIn⟩ := List.map_eq_singleton_iff.mp shape
  have run : Run approvalStep KeepsAwaited (.start 32) acceptedNote state :=
    run_of_admitted (by simp [acceptedNote, KeepsAwaited]) executed
  exact ⟨state, session, run, only, isIn,
    (payload_only_if_accepted run session (by simp [only])).1 isIn⟩

/-- A first session polls while its offer is rejected and removed; a second peer
offers other files under the same identifier, and their acceptance lets the
first session in. -/
theorem removed_decision_lets_another_offer_in :
    ¬ ∀ (maxPending : Nat) (labels : List ApprovalLabel) (state : Approvals),
      Run approvalStep anyStep (.start maxPending) labels state →
      ∀ session ∈ state.sessions, session.entered = true →
        Approved state.accepted session.request := by
  intro always
  let transferId := (namedOffer "note.txt").transferId
  let labels : List ApprovalLabel :=
    [.offered (namedOffer "note.txt") (py "mp-00000001") (py "10.0.0.1") none 1,
      .session 0 ⟨1, .done⟩, .session 0 ⟨1, .done⟩, .session 0 ⟨1, .flag true⟩,
      .reject transferId (py "no"), .prune 2,
      .offered (namedOffer "photo.jpg") (py "mp-00000002") (py "10.0.0.2") none 3,
      .session 1 ⟨3, .done⟩, .accept transferId, .session 0 ⟨3, .done⟩, .session 0 ⟨3, .done⟩]
  have executes : (runLabels approvalStep (.start 32) labels).map (fun state =>
      (state.sessions.map fun session => (session.entered, session.request.peerDeviceId),
        state.accepted.map IncomingTransferRequest.peerDeviceId)) =
      some ([(true, py "mp-00000001"), (false, py "mp-00000002")], [py "mp-00000002"]) := by
    decide
  obtain ⟨state, executed, shape⟩ := Option.map_eq_some_iff.mp executes
  obtain ⟨sessions, acceptedPeers⟩ := Prod.mk.inj shape
  obtain ⟨session, member, facts⟩ := List.mem_map.mp
    (sessions ▸ List.mem_cons_self : (true, py "mp-00000001") ∈ state.sessions.map _)
  obtain ⟨isIn, peer⟩ := Prod.mk.inj facts
  obtain ⟨prior, approved, same⟩ :=
    always 32 labels state (run_of_runLabels executed) session member isIn
  have accepted := List.mem_map_of_mem (f := IncomingTransferRequest.peerDeviceId) approved
  rw [acceptedPeers, same.peerDeviceId, peer] at accepted
  revert accepted
  decide

end DirectTransfer
