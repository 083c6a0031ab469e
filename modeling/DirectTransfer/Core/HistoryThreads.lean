import DirectTransfer.Core.ApprovalSettlement
import DirectTransfer.Core.HistoryRuns
import DirectTransfer.Core.ReceiverTransitions

/-! What one call of a session thread does to the manager and to the records. -/

set_option autoImplicit false

namespace DirectTransfer

open Library

/-! ## Calls before the payload -/

/-- Every entry stays, for the same transfer, and a decided one stays decided. -/
def Persists (before after : IncomingRequestManager) : Prop :=
  ∀ transferId entry, before.entries.get transferId = some entry →
    ∃ later, after.entries.get transferId = some later ∧
      SameTransfer later.request entry.request ∧
      (entry.request.status ≠ .pendingApproval → later.request.status = entry.request.status)

theorem Persists.refl (manager : IncomingRequestManager) : Persists manager manager :=
  fun _ entry found => ⟨entry, found, .refl _, fun _ => rfl⟩

theorem Persists.set {manager after : IncomingRequestManager} {entry : PendingDecision}
    {transferId : PyStr} (written : after.entries = manager.entries.set transferId entry)
    (same : ∀ old, manager.entries.get transferId = some old →
      SameTransfer entry.request old.request ∧
        (old.request.status ≠ .pendingApproval → entry.request.status = old.request.status)) :
    Persists manager after := by
  intro other old found
  rw [written, Dict.get_set]
  by_cases here : other = transferId
  · subst here
    rw [if_pos rfl]
    exact ⟨entry, rfl, same old found⟩
  · rw [if_neg here]
    exact ⟨old, found, .refl _, fun _ => rfl⟩

theorem decide_persists (manager : IncomingRequestManager) (transferId : PyStr)
    (status : IncomingRequestStatus) (reason : Option PyStr) :
    Persists manager (manager.decide transferId status reason).1 := by
  rcases decide_cases manager transferId status reason with same | ⟨entry, found, pending, decided⟩
  · rw [same]; exact .refl manager
  · rw [decided]
    refine Persists.set rfl fun old foundOld => ?_
    cases found.symm.trans foundOld
    exact ⟨⟨rfl, rfl, rfl, rfl, rfl⟩, fun settled => absurd pending settled⟩

namespace ApprovalSession

/-- One call of a session before the payload: what becomes of the manager, and
which of the session's further calls it comes to. -/
inductive Transition (manager : IncomingRequestManager) (session next : ApprovalSession) :
    IncomingRequestManager → Prop where
  | published (standing : session.phase = .publish)
      (free : manager.entries.get session.request.transferId = none)
      (moved : next.phase = .onRequest) :
      Transition manager session next { manager with
        entries := manager.entries.set session.request.transferId ⟨session.request, manager.fresh⟩
        fresh := manager.fresh + 1 }
  | readmitted {existing : PendingDecision} (standing : session.phase = .publish)
      (found : manager.entries.get session.request.transferId = some existing)
      (same : sameOffer existing.request session.request = true)
      (accepted : existing.request.status = .accepted) (moved : next.phase = .deadline) :
      Transition manager session next { manager with
        entries := manager.entries.set session.request.transferId
          ⟨{ session.request with status := .accepted }, manager.fresh⟩
        signalled := manager.fresh :: manager.signalled
        fresh := manager.fresh + 1 }
  | turnedAway (standing : session.phase.hasPublished = false)
      (moved : next.phase = .receiverBusy ∨ ∃ outcome, next.phase = .ended outcome) :
      Transition manager session next manager
  | waits (standing : session.phase.awaits = true) (moved : next.phase.awaits = true) :
      Transition manager session next manager
  | finds {entry : PendingDecision} (standing : session.phase = .poll ∨ session.phase = .fetch)
      (found : manager.entries.get session.request.transferId = some entry)
      (moved : next.phase = .respond entry.request) : Transition manager session next manager
  | declines {status : IncomingRequestStatus} {reason : PyStr}
      (standing : session.phase.awaits = true)
      (declined : status ≠ .accepted ∧ status ≠ .pendingApproval)
      (moved : next.phase.awaits = true ∨ ∃ outcome, next.phase = .ended outcome) :
      Transition manager session next
        (manager.decide session.request.transferId status (some reason)).1
  | fails {error : Raised} (standing : session.phase.awaits = true)
      (moved : next.phase = .ended (.error error)) : Transition manager session next manager
  | enters {decided : IncomingTransferRequest} (standing : session.phase = .respond decided)
      (accepted : decided.status = .accepted) (moved : next.phase = .receiving) :
      Transition manager session next manager
  | answers {decided : IncomingTransferRequest} {outcome : Except Raised Unit}
      (standing : session.phase = .respond decided)
      (declined : decided.status ≠ .accepted ∨ ∃ error, outcome = .error error)
      (moved : next.phase = .ended outcome) : Transition manager session next manager
  | receives {outcome : Except Raised Unit} (standing : session.phase = .receiving)
      (moved : next.phase = .ended outcome) : Transition manager session next manager

variable {manager after : IncomingRequestManager} {session next : ApprovalSession} {event : Event}

theorem publish_transition (standing : session.phase = .publish)
    (published : manager.publish session.request = .ok after)
    (moved : next.phase = if manager.announces session.request then .onRequest else .deadline) :
    Transition manager session next after := by
  unfold IncomingRequestManager.announces at moved
  unfold IncomingRequestManager.publish at published
  split at published
  · next existing found =>
      split at published
      · cases published
      · next same =>
          split at published
          · next accepted =>
              cases published
              rw [found] at moved
              exact .readmitted standing found (Bool.not_eq_false _ ▸ same) accepted moved
          · cases published
  · next free =>
      split at published
      · cases published
      · cases published
        rw [free] at moved
        exact .published standing free moved

theorem step_transition (stepped : session.step manager event = some (after, next)) :
    Transition manager session next after ∧ next.request = session.request := by
  have awaits {phase : ApprovalPhase} (standing : session.phase = phase) (waits : phase.awaits = true) :
      session.phase.awaits = true := standing ▸ waits
  cases standing : session.phase with
  | publish =>
      cases answer : event.answer <;> simp only [step, standing, answer] at stepped
      case done =>
        split at stepped
        · next published => cases stepped; exact ⟨publish_transition standing published rfl, rfl⟩
        · cases stepped; exact ⟨.turnedAway (by rw [standing]; rfl) (.inl rfl), rfl⟩
        · cases stepped; exact ⟨.turnedAway (by rw [standing]; rfl) (.inr ⟨_, rfl⟩), rfl⟩
      all_goals cases stepped
  | onRequest =>
      cases answer : event.answer <;> simp only [step, standing, answer] at stepped
      case done => cases stepped; exact ⟨.waits (awaits standing rfl) rfl, rfl⟩
      case raised => cases stepped; exact ⟨.fails (awaits standing rfl) rfl, rfl⟩
      all_goals cases stepped
  | receiverBusy =>
      cases answer : event.answer <;> simp only [step, standing, answer] at stepped
      case done =>
        split at stepped <;> cases stepped <;>
          exact ⟨.turnedAway (by rw [standing]; rfl) (.inr ⟨_, rfl⟩), rfl⟩
      case raised => cases stepped; exact ⟨.turnedAway (by rw [standing]; rfl) (.inr ⟨_, rfl⟩), rfl⟩
      all_goals cases stepped
  | deadline =>
      cases answer : event.answer <;> simp only [step, standing, answer] at stepped
      case flag before =>
        cases stepped
        refine ⟨.waits (awaits standing rfl) ?_, rfl⟩
        cases before <;> rfl
      all_goals cases stepped
  | poll =>
      cases answer : event.answer <;> simp only [step, standing, answer] at stepped
      case done =>
        unfold IncomingRequestManager.getRequest at stepped
        cases found : manager.entries.get session.request.transferId with
        | none =>
            simp only [found, Option.map_none] at stepped
            cases stepped
            exact ⟨.waits (awaits standing rfl) rfl, rfl⟩
        | some entry =>
            simp only [found, Option.map_some] at stepped
            split at stepped <;> cases stepped
            · exact ⟨.finds (.inl standing) found rfl, rfl⟩
            · exact ⟨.waits (awaits standing rfl) rfl, rfl⟩
      all_goals cases stepped
  | select =>
      cases answer : event.answer <;> simp only [step, standing, answer] at stepped
      case flag readable =>
        cases stepped
        refine ⟨.waits (awaits standing rfl) ?_, rfl⟩
        cases readable <;> rfl
      case raised => cases stepped; exact ⟨.fails (awaits standing rfl) rfl, rfl⟩
      all_goals cases stepped
  | control =>
      cases answer : event.answer <;> simp only [step, standing, answer] at stepped
      case control payload =>
        split at stepped <;> cases stepped <;> exact ⟨.waits (awaits standing rfl) rfl, rfl⟩
      case raised =>
        split at stepped <;> cases stepped
        · exact ⟨.waits (awaits standing rfl) rfl, rfl⟩
        · exact ⟨.fails (awaits standing rfl) rfl, rfl⟩
      all_goals cases stepped
  | disconnected error =>
      cases answer : event.answer <;> simp only [step, standing, answer] at stepped
      case done => cases stepped; exact ⟨.declines (awaits standing rfl) (by simp) (.inr ⟨_, rfl⟩), rfl⟩
      all_goals cases stepped
  | invalidProtocol =>
      cases answer : event.answer <;> simp only [step, standing, answer] at stepped
      case done => cases stepped; exact ⟨.declines (awaits standing rfl) (by simp) (.inr ⟨_, rfl⟩), rfl⟩
      all_goals cases stepped
  | cancelledByPeer =>
      cases answer : event.answer <;> simp only [step, standing, answer] at stepped
      case done => cases stepped; exact ⟨.declines (awaits standing rfl) (by simp) (.inl rfl), rfl⟩
      all_goals cases stepped
  | waitForDecision =>
      cases answer : event.answer <;> simp only [step, standing, answer] at stepped
      case done =>
        split at stepped <;> cases stepped
        · exact ⟨.waits (awaits standing rfl) rfl, rfl⟩
        · exact ⟨.fails (awaits standing rfl) rfl, rfl⟩
      all_goals cases stepped
  | waitEvent number =>
      cases answer : event.answer <;> simp only [step, standing, answer] at stepped
      case done =>
        cases stepped
        refine ⟨.waits (awaits standing rfl) ?_, rfl⟩
        unfold moveTo
        dsimp only
        split <;> rfl
      all_goals cases stepped
  | expire =>
      cases answer : event.answer <;> simp only [step, standing, answer] at stepped
      case done => cases stepped; exact ⟨.declines (awaits standing rfl) (by simp) (.inl rfl), rfl⟩
      all_goals cases stepped
  | fetch =>
      cases answer : event.answer <;> simp only [step, standing, answer] at stepped
      case done =>
        unfold IncomingRequestManager.getRequest at stepped
        cases found : manager.entries.get session.request.transferId with
        | none =>
            simp only [found, Option.map_none] at stepped
            cases stepped
            exact ⟨.fails (awaits standing rfl) rfl, rfl⟩
        | some entry =>
            simp only [found, Option.map_some] at stepped
            cases stepped
            exact ⟨.finds (.inr standing) found rfl, rfl⟩
      all_goals cases stepped
  | respond decided =>
      cases answer : event.answer <;> simp only [step, standing, answer] at stepped
      case done =>
        split at stepped
        · cases stepped; exact ⟨.answers standing (.inr ⟨_, rfl⟩) rfl, rfl⟩
        · split at stepped <;> cases stepped
          · next accepted => exact ⟨.enters standing accepted rfl, rfl⟩
          · next declined => exact ⟨.answers standing (.inl declined) rfl, rfl⟩
      case raised => cases stepped; exact ⟨.answers standing (.inr ⟨_, rfl⟩) rfl, rfl⟩
      all_goals cases stepped
  | receiving =>
      cases answer : event.answer <;> simp only [step, standing, answer] at stepped
      case done => cases stepped; exact ⟨.receives standing rfl, rfl⟩
      case raised => cases stepped; exact ⟨.receives standing rfl, rfl⟩
      all_goals cases stepped
  | ended outcome => cases answer : event.answer <;> simp [step, standing, answer] at stepped

theorem Transition.persists (transition : Transition manager session next after)
    (keyed : ∀ entry, manager.entries.get session.request.transferId = some entry →
      entry.request.transferId = session.request.transferId) : Persists manager after := by
  cases transition with
  | published standing free moved =>
      exact Persists.set rfl fun old found => by rw [free] at found; cases found
  | readmitted standing found same accepted moved =>
      refine Persists.set rfl fun old foundOld => ?_
      cases found.symm.trans foundOld
      obtain ⟨device, files, size, message⟩ := sameOffer_iff.mp same
      exact ⟨⟨(keyed _ found).symm, device.symm, files.symm, size.symm, message.symm⟩,
        fun _ => accepted.symm⟩
  | declines standing declined moved => exact decide_persists _ _ _ _
  | _ => exact .refl _

end ApprovalSession

end DirectTransfer
