import DirectTransfer.Core.InboxCalls

/-! Every request is decided at most once, and its decision is told exactly once,
whichever way the threads that call the manager interleave. -/

set_option autoImplicit false

namespace DirectTransfer

open Library

/-! ## What a step does -/

/-- How a step changes the manager, with the occurrences it adds to the log. -/
inductive ManagerMove (manager : IncomingRequestManager) :
    IncomingRequestManager → List Occurrence → Prop
  | stay {new : List Occurrence} :
      (∀ occurrence ∈ new, (∃ decision, occurrence = .told decision) ∨
        ∃ transferId since request, occurrence = .returned transferId since request) →
      ManagerMove manager manager new
  | publish {published : IncomingRequestManager} {request : IncomingTransferRequest} :
      manager.entries.get request.transferId = none → manager.publish request = .ok published →
      ManagerMove manager published [.published request.transferId]
  | republish {published : IncomingRequestManager} {request : IncomingTransferRequest} :
      (manager.entries.get request.transferId).isSome = true →
      manager.publish request = .ok published →
      ManagerMove manager published [.republished request.transferId]
  | decide {transferId : PyStr} {status : IncomingRequestStatus} {reason : Option PyStr}
      {entry : PendingDecision} :
      manager.entries.get transferId = some entry → entry.request.status = .pendingApproval →
      status ≠ .pendingApproval →
      ManagerMove manager (manager.decide transferId status reason).1
        [.decided ⟨transferId, entry.event, { entry.request with status, reason }⟩]
  | prune {cutoff : Time} :
      ManagerMove manager (manager.prune cutoff)
        ((InboxSystem.removedBy manager cutoff).map .pruned)

/-- Phases outside a wait and outside a callback of `on_decision`. -/
def CallPhase.isCalm : CallPhase → Bool
  | .idle | .announcing _ | .cancelling _ _ => true
  | _ => false

/-- How a step changes the phase of its thread, with the occurrences it adds. -/
inductive Turn (system : InboxSystem) : CallPhase → CallPhase → List Occurrence → Prop
  | calm {before after : CallPhase} {new : List Occurrence} :
      before.isCalm = true → after.isCalm = true →
      (∀ occurrence ∈ new, ∃ transferId, occurrence = .published transferId ∨
        occurrence = .republished transferId ∨ occurrence = .pruned transferId) →
      Turn system before after new
  | decide {before : CallPhase} {decision : DecisionMade} {following : Continuation} :
      before.isCalm = true → following.phase.isCalm = true →
      Turn system before (.telling decision following) [.decided decision]
  | tell {decision : DecisionMade} {following : Continuation} :
      Turn system (.telling decision following) following.phase [.told decision]
  | wait {transferId : PyStr} {entry : PendingDecision} :
      system.manager.entries.get transferId = some entry →
      Turn system .idle (.waiting transferId entry.event system.log.length) []
  | wake {transferId : PyStr} {event since : Nat} : event ∈ system.manager.signalled →
      Turn system (.waiting transferId event since) (.fetching transferId since) []
  | timeout {transferId : PyStr} {event since : Nat} :
      Turn system (.waiting transferId event since) (.expiring transferId since) []
  | expire {transferId : PyStr} {since : Nat} {decision : DecisionMade} :
      decision.transferId = transferId →
      Turn system (.expiring transferId since) (.telling decision (.fetch transferId since))
        [.decided decision]
  | decline {transferId : PyStr} {since : Nat} :
      (∀ entry, system.manager.entries.get transferId = some entry →
        entry.request.status ≠ .pendingApproval) →
      Turn system (.expiring transferId since) (.fetching transferId since) []
  | answer {transferId : PyStr} {since : Nat} {request : IncomingTransferRequest} :
      system.manager.getRequest transferId = some request →
      Turn system (.fetching transferId since) .idle [.returned transferId since request]
  | vanish {transferId : PyStr} {since : Nat} :
      Turn system (.fetching transferId since) .idle []

/-- A step of one thread, with what it adds to the log. -/
structure Moves (system next : InboxSystem) (thread : Nat) (phase : CallPhase)
    (new : List Occurrence) : Prop where
  threads : next.threads = Function.update system.threads thread phase
  log : next.log = new ++ system.log
  manager : ManagerMove system.manager next.manager new
  turn : Turn system (system.threads thread) phase new

theorem update_self (system : InboxSystem) (thread : Nat) :
    system.threads = Function.update system.threads thread (system.threads thread) :=
  (Function.update_eq_self thread system.threads).symm

theorem decide_refused {manager : IncomingRequestManager} {transferId : PyStr}
    {status : IncomingRequestStatus} {reason : Option PyStr}
    (refused : manager.decide transferId status reason = (manager, false)) :
    ∀ entry, manager.entries.get transferId = some entry →
      entry.request.status ≠ .pendingApproval := by
  intro entry found pending
  simp [IncomingRequestManager.decide, found, pending] at refused

/-- A deciding call either takes effect, and then owes its telling, or finds no
pending entry. -/
theorem settle_cases (system : InboxSystem) (thread : Nat) (transferId : PyStr)
    (status : IncomingRequestStatus) (reason : Option PyStr) (following : Continuation) :
    (system.settle thread transferId (system.manager.decide transferId status reason) following =
        system.moveTo thread following.phase ∧
      ∀ entry, system.manager.entries.get transferId = some entry →
        entry.request.status ≠ .pendingApproval) ∨
    ∃ entry, system.manager.entries.get transferId = some entry ∧
      entry.request.status = .pendingApproval ∧
      system.settle thread transferId (system.manager.decide transferId status reason) following =
        { system with
          manager := (system.manager.decide transferId status reason).1
          log := .decided ⟨transferId, entry.event, { entry.request with status, reason }⟩ ::
            system.log }.moveTo thread
          (.telling ⟨transferId, entry.event, { entry.request with status, reason }⟩ following) := by
  cases decide_cases system.manager transferId status reason with
  | inl refused =>
      left
      refine ⟨?_, decide_refused refused⟩
      rw [refused]
      rfl
  | inr effective =>
      right
      obtain ⟨entry, found, pending, decided⟩ := effective
      refine ⟨entry, found, pending, ?_⟩
      rw [decided]
      simp only [InboxSystem.settle, Dict.get_set_self]

theorem DecidingCall.apply_eq (call : DecidingCall) (manager : IncomingRequestManager)
    (transferId : PyStr) : ∃ status reason, status ≠ .pendingApproval ∧
      call.apply manager transferId = manager.decide transferId status reason := by
  cases call with
  | accept => exact ⟨.accepted, none, by decide, rfl⟩
  | reject reason => exact ⟨.rejected, some reason, by decide, rfl⟩
  | cancel reason => exact ⟨.cancelled, some reason, by decide, rfl⟩

/-- A thread that is outside a wait makes a deciding call. -/
theorem settle_moves {system : InboxSystem} {thread : Nat} {transferId : PyStr}
    {status : IncomingRequestStatus} {reason : Option PyStr} {following : Continuation}
    (final : status ≠ .pendingApproval) (calm : (system.threads thread).isCalm = true)
    (after : following.phase.isCalm = true) :
    ∃ phase new, Moves system (system.settle thread transferId
      (system.manager.decide transferId status reason) following) thread phase new := by
  cases settle_cases system thread transferId status reason following with
  | inl refused =>
      rw [refused.1]
      exact ⟨following.phase, [], rfl, rfl, .stay (by simp), .calm calm after (by simp)⟩
  | inr effective =>
      obtain ⟨entry, found, pending, same⟩ := effective
      rw [same]
      exact ⟨_, _, rfl, rfl, .decide found pending final, .decide calm after⟩

theorem inboxStep_moves {system next : InboxSystem} {label : InboxLabel}
    (stepped : inboxStep system label = some next) :
    ∃ thread phase new, Moves system next thread phase new := by
  cases label with
  | publish thread request =>
      simp only [inboxStep] at stepped
      split at stepped
      · next standing =>
          have calm : (system.threads thread).isCalm = true := by rw [standing]; rfl
          cases published : system.manager.publish request with
          | error error =>
              rw [published] at stepped
              cases stepped
              exact ⟨thread, _, [], update_self system thread, rfl, .stay (by simp),
                .calm calm calm (by simp)⟩
          | ok manager =>
              rw [published] at stepped
              simp only at stepped
              split at stepped
              · next known =>
                  cases stepped
                  exact ⟨thread, _, [_], update_self system thread, rfl,
                    .republish known published, .calm calm calm (by simp)⟩
              · next unknown =>
                  cases stepped
                  have absent : system.manager.entries.get request.transferId = none := by
                    simpa using unknown
                  exact ⟨thread, _, [_], rfl, rfl, .publish absent published,
                    .calm calm rfl (by simp)⟩
      · cases stepped
  | announce thread =>
      simp only [inboxStep] at stepped
      split at stepped
      · next standing =>
          cases stepped
          exact ⟨thread, _, [], rfl, rfl, .stay (by simp), .calm (by rw [standing]; rfl) rfl (by simp)⟩
      · cases stepped
  | decide thread transferId call =>
      simp only [inboxStep] at stepped
      split at stepped
      · next standing =>
          cases stepped
          obtain ⟨status, reason, final, same⟩ := call.apply_eq system.manager transferId
          rw [same]
          exact ⟨thread, settle_moves final (by rw [standing]; rfl) rfl⟩
      · cases stepped
  | tell thread =>
      simp only [inboxStep] at stepped
      split at stepped
      · next decision following standing =>
          cases stepped
          refine ⟨thread, _, [_], rfl, rfl, .stay (by simp), ?_⟩
          rw [standing]
          exact .tell
      · cases stepped
  | wait thread transferId =>
      simp only [inboxStep] at stepped
      split at stepped
      · next standing =>
          split at stepped
          · next entry found =>
              cases stepped
              refine ⟨thread, _, [], rfl, rfl, .stay (by simp), ?_⟩
              rw [standing]
              exact .wait found
          · cases stepped
            have calm : (system.threads thread).isCalm = true := by rw [standing]; rfl
            exact ⟨thread, _, [], update_self system thread, rfl, .stay (by simp),
              .calm calm calm (by simp)⟩
      · cases stepped
  | wake thread =>
      simp only [inboxStep] at stepped
      split at stepped
      · next transferId event since standing =>
          split at stepped
          · next set =>
              cases stepped
              refine ⟨thread, _, [], rfl, rfl, .stay (by simp), ?_⟩
              rw [standing]
              exact .wake set
          · cases stepped
      · cases stepped
  | timeout thread =>
      simp only [inboxStep] at stepped
      split at stepped
      · next transferId event since standing =>
          cases stepped
          refine ⟨thread, _, [], rfl, rfl, .stay (by simp), ?_⟩
          rw [standing]
          exact .timeout
      · cases stepped
  | expire thread =>
      simp only [inboxStep] at stepped
      split at stepped
      · next transferId since standing =>
          cases stepped
          unfold IncomingRequestManager.expireRequest
          cases settle_cases system thread transferId .expired
              (some (py "Transfer request expired")) (.fetch transferId since) with
          | inl refused =>
              rw [refused.1]
              refine ⟨thread, _, [], rfl, rfl, .stay (by simp), ?_⟩
              rw [standing]
              exact .decline refused.2
          | inr effective =>
              obtain ⟨entry, found, pending, same⟩ := effective
              rw [same]
              refine ⟨thread, _, [_], rfl, rfl, .decide found pending (by decide), ?_⟩
              rw [standing]
              exact .expire rfl
      · cases stepped
  | fetch thread =>
      simp only [inboxStep] at stepped
      split at stepped
      · next transferId since standing =>
          split at stepped
          · next request found =>
              cases stepped
              refine ⟨thread, _, [_], rfl, rfl, .stay (by simp), ?_⟩
              rw [standing]
              exact .answer found
          · cases stepped
            refine ⟨thread, _, [], rfl, rfl, .stay (by simp), ?_⟩
            rw [standing]
            exact .vanish
      · cases stepped
  | cancelAll thread reason =>
      simp only [inboxStep] at stepped
      split at stepped
      · next standing =>
          cases stepped
          exact ⟨thread, _, [], rfl, rfl, .stay (by simp), .calm (by rw [standing]; rfl) rfl (by simp)⟩
      · cases stepped
  | cancelNext thread =>
      simp only [inboxStep] at stepped
      split at stepped
      · next standing =>
          cases stepped
          exact ⟨thread, _, [], rfl, rfl, .stay (by simp), .calm (by rw [standing]; rfl) rfl (by simp)⟩
      · next transferId rest reason standing =>
          cases stepped
          have calm : (system.threads thread).isCalm = true := by rw [standing]; rfl
          exact ⟨thread, settle_moves (by decide) calm rfl⟩
      · cases stepped
  | prune thread cutoff =>
      simp only [inboxStep] at stepped
      split at stepped
      · next standing =>
          cases stepped
          have calm : (system.threads thread).isCalm = true := by rw [standing]; rfl
          exact ⟨thread, _, _, update_self system thread, rfl, .prune, .calm calm calm (by simp)⟩
      · cases stepped

/-! ## The manager and the log -/

theorem ManagerMove.numbered {before after : IncomingRequestManager} {new : List Occurrence}
    (move : ManagerMove before after new) (numbered : Numbered before) : Numbered after := by
  cases move with
  | stay => exact numbered
  | publish _ published => exact (publish_numbered numbered published).1
  | republish _ published => exact (publish_numbered numbered published).1
  | decide _ _ final => exact (decide_settles numbered final).1
  | prune => exact (prune_numbered numbered _).1

theorem ManagerMove.evolves {before after : IncomingRequestManager} {new : List Occurrence}
    (move : ManagerMove before after new) (numbered : Numbered before) : Evolves before after := by
  cases move with
  | stay => exact .refl _
  | publish _ published => exact (publish_numbered numbered published).2.1
  | republish _ published => exact (publish_numbered numbered published).2.1
  | decide _ _ final => exact (decide_settles numbered final).2.1
  | prune => exact (prune_numbered numbered _).2

theorem publish_fresh {manager published : IncomingRequestManager}
    {request : IncomingTransferRequest}
    (absent : manager.entries.get request.transferId = none)
    (done : manager.publish request = .ok published) :
    manager.pendingCount < manager.maxPending ∧ published = { manager with
      entries := manager.entries.set request.transferId ⟨request, manager.fresh⟩
      fresh := manager.fresh + 1 } := by
  simp only [IncomingRequestManager.publish, absent] at done
  split at done
  · cases done
  · next room =>
      cases done
      exact ⟨Nat.lt_of_not_le room, rfl⟩

theorem publish_again {manager published : IncomingRequestManager}
    {request : IncomingTransferRequest}
    (known : (manager.entries.get request.transferId).isSome = true)
    (done : manager.publish request = .ok published) :
    ∃ old, manager.entries.get request.transferId = some old ∧ old.request.status = .accepted ∧
      published = { manager with
        entries := manager.entries.set request.transferId
          ⟨{ request with status := .accepted }, manager.fresh⟩
        signalled := manager.fresh :: manager.signalled
        fresh := manager.fresh + 1 } := by
  obtain ⟨old, found⟩ := Option.isSome_iff_exists.mp known
  simp only [IncomingRequestManager.publish, found] at done
  split at done
  · cases done
  · split at done
    · next accepted =>
        cases done
        exact ⟨old, found, accepted, rfl⟩
    · cases done

theorem get_prune {manager : IncomingRequestManager} {cutoff : Time} (transferId : PyStr) :
    (manager.prune cutoff).entries.get transferId =
      (manager.entries.get transferId).filter (IncomingRequestManager.kept cutoff) :=
  Dict.get_filter _ _ _

theorem mem_removedBy {manager : IncomingRequestManager} {cutoff : Time} {transferId : PyStr} :
    transferId ∈ InboxSystem.removedBy manager cutoff ↔
      ∃ entry, manager.entries.get transferId = some entry ∧
        IncomingRequestManager.kept cutoff entry = false := by
  have keys : transferId ∈ InboxSystem.removedBy manager cutoff ↔
      ((manager.entries.filter fun _ entry =>
        !IncomingRequestManager.kept cutoff entry).get transferId).isSome = true := by
    rw [Option.isSome_iff_ne_none, ne_eq, Dict.get_eq_none_iff, not_not]
    rfl
  rw [keys, Dict.get_filter]
  cases found : manager.entries.get transferId with
  | none => simp
  | some entry => simp [Option.filter, Option.isSome_iff_exists]

/-- What a step may do to one entry. -/
inductive EntryChange (transferId : PyStr) (new : List Occurrence) :
    Option PendingDecision → Option PendingDecision → Prop
  | same {entry : Option PendingDecision} : EntryChange transferId new entry entry
  | publish {entry : PendingDecision} : new = [.published transferId] →
      EntryChange transferId new none (some entry)
  | republish {old entry : PendingDecision} : old.request.status = .accepted →
      entry.request.status = .accepted → EntryChange transferId new (some old) (some entry)
  | decide {old entry : PendingDecision} : old.request.status = .pendingApproval →
      entry.request.status ≠ .pendingApproval → entry.event = old.event →
      EntryChange transferId new (some old) (some entry)
  | prune {old : PendingDecision} : old.request.status ≠ .pendingApproval →
      Occurrence.pruned transferId ∈ new → EntryChange transferId new (some old) none

theorem ManagerMove.entry {before after : IncomingRequestManager} {new : List Occurrence}
    (move : ManagerMove before after new) (transferId : PyStr) :
    EntryChange transferId new (before.entries.get transferId) (after.entries.get transferId) := by
  cases move with
  | stay => exact .same
  | @publish _ request absent published =>
      obtain ⟨_, same⟩ := publish_fresh absent published
      rw [same]
      dsimp only
      rw [Dict.get_set]
      split
      · next here =>
          subst here
          rw [absent]
          exact .publish rfl
      · exact .same
  | @republish _ request known published =>
      obtain ⟨old, found, accepted, same⟩ := publish_again known published
      rw [same]
      dsimp only
      rw [Dict.get_set]
      split
      · next here =>
          subst here
          rw [found]
          exact .republish accepted rfl
      · exact .same
  | @decide decided status reason entry found pending final =>
      have written : (before.decide decided status reason).1.entries =
          before.entries.set decided ⟨{ entry.request with status, reason }, entry.event⟩ := by
        simp [IncomingRequestManager.decide, found, pending]
      rw [written, Dict.get_set]
      split
      · next here =>
          subst here
          rw [found]
          exact .decide pending final rfl
      · exact .same
  | @prune cutoff =>
      rw [get_prune]
      cases found : before.entries.get transferId with
      | none => exact .same
      | some entry =>
          cases keeps : IncomingRequestManager.kept cutoff entry with
          | true =>
              rw [Option.filter_some, if_pos keeps]
              exact .same
          | false =>
              rw [Option.filter_some, if_neg (by simp [keeps])]
              apply EntryChange.prune
              · intro pending
                simp [IncomingRequestManager.kept, pending] at keeps
              · exact List.mem_map_of_mem (mem_removedBy.mpr ⟨entry, found, keeps⟩)

/-! ## Decisions -/

/-- What the log says of the decisions agrees with the entries. -/
structure DecisionsSound (manager : IncomingRequestManager) (log : List Occurrence) : Prop where
  below : ∀ decision ∈ decisionsIn log, decision.event < manager.fresh
  final : ∀ decision ∈ decisionsIn log, decision.request.status ≠ .pendingApproval
  once : ((decisionsIn log).map DecisionMade.event).Nodup
  undecided : ∀ transferId entry, manager.entries.get transferId = some entry →
    entry.request.status = .pendingApproval → ∀ decision ∈ decisionsIn log,
      decision.event ≠ entry.event
  standing : ∀ decision ∈ standingIn log, ∃ entry,
    manager.entries.get decision.transferId = some entry ∧
      entry.request.status = decision.request.status

theorem standingIn_subset {log : List Occurrence} : standingIn log ⊆ decisionsIn log := by
  induction log with
  | nil => simp [standingIn]
  | cons occurrence earlier ih =>
      intro decision member
      cases occurrence with
      | decided other =>
          cases member with
          | head => exact List.mem_cons_self
          | tail _ member => exact List.mem_cons_of_mem _ (ih member)
      | pruned transferId => exact ih (List.mem_filter.mp member).1
      | published | republished | told | returned => exact ih member

theorem decisionsIn_append (new log : List Occurrence) :
    decisionsIn (new ++ log) = decisionsIn new ++ decisionsIn log :=
  List.filterMap_append

theorem tellingsIn_append (new log : List Occurrence) :
    tellingsIn (new ++ log) = tellingsIn new ++ tellingsIn log :=
  List.filterMap_append

/-- Pruned transfers have no standing decisions. -/
theorem standingIn_pruned {removed : List PyStr} {log : List Occurrence}
    {decision : DecisionMade} :
    decision ∈ standingIn (removed.map .pruned ++ log) ↔
      decision ∈ standingIn log ∧ decision.transferId ∉ removed := by
  induction removed with
  | nil => simp
  | cons transferId rest ih =>
      simp only [List.map_cons, List.cons_append, standingIn, List.mem_filter, ih, ne_eq,
        decide_not, Bool.not_eq_true', decide_eq_false_iff_not, List.mem_cons, not_or]
      constructor
      · intro member
        exact ⟨member.1.1, member.2, member.1.2⟩
      · intro member
        exact ⟨⟨member.1, member.2.2⟩, member.2.1⟩

/-- Whether a move records a decision. -/
theorem ManagerMove.decisions {before after : IncomingRequestManager} {new : List Occurrence}
    (move : ManagerMove before after new) :
    decisionsIn new = [] ∨ ∃ transferId entry decision, new = [.decided decision] ∧
      decision.transferId = transferId ∧ decision.event = entry.event ∧
      before.entries.get transferId = some entry ∧
      entry.request.status = .pendingApproval ∧ decision.request.status ≠ .pendingApproval ∧
      after.entries.get transferId = some ⟨decision.request, decision.event⟩ := by
  cases move with
  | stay others =>
      left
      rw [decisionsIn, List.filterMap_eq_nil_iff]
      intro occurrence member
      cases others occurrence member with
      | inl told =>
          obtain ⟨decision, same⟩ := told
          rw [same]
      | inr returned =>
          obtain ⟨transferId, since, request, same⟩ := returned
          rw [same]
  | publish => exact .inl rfl
  | republish => exact .inl rfl
  | @decide transferId status reason entry found pending final =>
      right
      refine ⟨transferId, entry, _, rfl, rfl, rfl, found, pending, final, ?_⟩
      simp [IncomingRequestManager.decide, found, pending]
  | prune =>
      left
      rw [decisionsIn, List.filterMap_eq_nil_iff]
      intro occurrence member
      obtain ⟨transferId, _, same⟩ := List.mem_map.mp member
      rw [← same]

/-- The decisions that stand after a move: the one it made, and those that
stood before on entries it did not prune. -/
theorem ManagerMove.standing {before after : IncomingRequestManager} {new log : List Occurrence}
    (move : ManagerMove before after new) {decision : DecisionMade}
    (member : decision ∈ standingIn (new ++ log)) :
    new = [.decided decision] ∨
      (decision ∈ standingIn log ∧ Occurrence.pruned decision.transferId ∉ new) := by
  cases move with
  | stay others =>
      right
      induction new with
      | nil => exact ⟨member, by simp⟩
      | cons occurrence rest ih =>
          have later : ∀ occurrence ∈ rest, (∃ decision, occurrence = .told decision) ∨
              ∃ transferId since request, occurrence = .returned transferId since request := by
            intro occurrence member
            exact others occurrence (List.mem_cons_of_mem _ member)
          cases others occurrence List.mem_cons_self with
          | inl told =>
              obtain ⟨other, same⟩ := told
              subst same
              obtain ⟨stood, kept⟩ := ih member later
              exact ⟨stood, by simp [kept]⟩
          | inr returned =>
              obtain ⟨transferId, since, request, same⟩ := returned
              subst same
              obtain ⟨stood, kept⟩ := ih member later
              exact ⟨stood, by simp [kept]⟩
  | publish => exact .inr ⟨member, by simp⟩
  | republish => exact .inr ⟨member, by simp⟩
  | decide =>
      cases member with
      | head => exact .inl rfl
      | tail _ member => exact .inr ⟨member, by simp⟩
  | prune =>
      obtain ⟨stood, kept⟩ := standingIn_pruned.mp member
      exact .inr ⟨stood, by simpa using kept⟩

theorem DecisionsSound.move {before after : IncomingRequestManager} {new log : List Occurrence}
    (sound : DecisionsSound before log) (numbered : Numbered before)
    (move : ManagerMove before after new) : DecisionsSound after (new ++ log) := by
  have evolves := move.evolves numbered
  have earlier : ∀ decision ∈ decisionsIn log, decision.event < after.fresh := by
    intro decision member
    exact (sound.below decision member).trans_le evolves.fresh
  -- a pending entry is new or was pending before
  have undecided : ∀ transferId entry, after.entries.get transferId = some entry →
      entry.request.status = .pendingApproval → ∀ decision ∈ decisionsIn log,
        decision.event ≠ entry.event := by
    intro transferId entry found pending decision member
    cases evolves.entries transferId entry found with
    | inl newer =>
        have below := sound.below decision member
        omega
    | inr stood =>
        obtain ⟨old, foundOld, same, stays⟩ := stood
        rw [← same]
        exact sound.undecided transferId old foundOld (stays pending) decision member
  have standing : ∀ decision ∈ standingIn (new ++ log), ∃ entry,
      after.entries.get decision.transferId = some entry ∧
        entry.request.status = decision.request.status := by
    intro decision member
    cases move.standing member with
    | inl made =>
        cases move.decisions with
        | inl none =>
            rw [made] at none
            cases none
        | inr some =>
            obtain ⟨transferId, _, other, same, here, _, _, _, _, written⟩ := some
            rw [made] at same
            cases same
            exact ⟨_, here ▸ written, rfl⟩
    | inr stood =>
        obtain ⟨old, found, status⟩ := sound.standing decision stood.1
        have moved := move.entry decision.transferId
        rw [found] at moved
        generalize after.entries.get decision.transferId = entry at moved ⊢
        cases moved with
        | same => exact ⟨old, rfl, status⟩
        | republish accepted again => exact ⟨_, rfl, again.trans (accepted.symm.trans status)⟩
        | decide pending =>
            exact absurd (status.symm.trans pending)
              (sound.final decision (standingIn_subset stood.1))
        | prune _ removed => exact absurd removed stood.2
  cases move.decisions with
  | inl none =>
      have same : decisionsIn (new ++ log) = decisionsIn log := by rw [decisionsIn_append, none]; rfl
      constructor
      · rwa [same]
      · rw [same]
        exact sound.final
      · rw [same]
        exact sound.once
      · rwa [same]
      · exact standing
  | inr some =>
      obtain ⟨transferId, entry, decision, made, _, event, found, pending, final, written⟩ := some
      have same : decisionsIn (new ++ log) = decision :: decisionsIn log := by rw [made]; rfl
      constructor
      · rw [same, List.forall_mem_cons]
        constructor
        · rw [event]
          exact (numbered.below transferId entry found).trans_le evolves.fresh
        · exact earlier
      · rw [same]
        exact List.forall_mem_cons.mpr ⟨final, sound.final⟩
      · rw [same, List.map_cons, List.nodup_cons]
        constructor
        · intro repeated
          obtain ⟨other, member, equal⟩ := List.mem_map.mp repeated
          exact sound.undecided transferId entry found pending other member (equal.trans event)
        · exact sound.once
      · rw [same]
        intro other later present stays
        rw [List.forall_mem_cons]
        constructor
        · intro equal
          cases evolves.entries other later present with
          | inl newer =>
              have below := numbered.below transferId entry found
              omega
          | inr stood =>
              obtain ⟨old, foundOld, oldEvent, _⟩ := stood
              have here := numbered.apart other transferId old entry foundOld found
                (oldEvent.trans (equal.symm.trans event))
              subst here
              cases written.symm.trans present
              exact final stays
        · exact undecided other later present stays
      · exact standing

/-! ## The bound on pending entries -/

theorem ManagerMove.bounded {before after : IncomingRequestManager} {new : List Occurrence}
    (move : ManagerMove before after new) (bounded : before.pendingCount ≤ before.maxPending) :
    after.pendingCount ≤ after.maxPending := by
  cases move with
  | stay => exact bounded
  | publish absent published =>
      obtain ⟨room, same⟩ := publish_fresh absent published
      rw [same, IncomingRequestManager.pendingCount, Dict.countP_values_set_of_absent absent]
      have one : ∀ value : Bool, (if value = true then 1 else 0) ≤ 1 := by decide
      exact (Nat.add_le_add_left (one _) _).trans room
  | republish known published =>
      obtain ⟨old, found, _, same⟩ := publish_again known published
      rw [same]
      exact (Dict.countP_values_set_le found (by simp)).trans bounded
  | @decide transferId status reason entry found pending final =>
      have written : before.decide transferId status reason = ({ before with
          entries := before.entries.set transferId
            ⟨{ entry.request with status, reason }, entry.event⟩
          signalled := entry.event :: before.signalled }, true) := by
        simp [IncomingRequestManager.decide, found, pending]
      rw [written]
      exact (Dict.countP_values_set_le found (by simp [pending])).trans bounded
  | prune => exact (Dict.countP_values_filter_le _ _ _).trans bounded

/-! ## Tellings -/

/-- The decision a thread is about to tell. -/
def CallPhase.owes : CallPhase → Option DecisionMade
  | .telling decision _ => some decision
  | _ => none

theorem CallPhase.owes_of_calm {phase : CallPhase} (calm : phase.isCalm = true) :
    phase.owes = none := by
  cases phase with
  | telling => cases calm
  | idle | announcing | waiting | expiring | fetching | cancelling => rfl

theorem Continuation.owes_phase (following : Continuation) : following.phase.owes = none := by
  cases following <;> rfl

/-- Decisions are told once, and each that is not is owed by one thread. -/
structure TellingsSound (threads : Nat → CallPhase) (log : List Occurrence) : Prop where
  made : ∀ decision ∈ tellingsIn log, decision ∈ decisionsIn log
  once : (tellingsIn log).Nodup
  owed : ∀ thread decision, (threads thread).owes = some decision →
    decision ∈ decisionsIn log ∧ decision ∉ tellingsIn log
  apart : ∀ left right decision, (threads left).owes = some decision →
    (threads right).owes = some decision → left = right
  owing : ∀ decision ∈ decisionsIn log, decision ∉ tellingsIn log →
    ∃ thread, (threads thread).owes = some decision

/-- A turn begins to owe a decision, tells it, or does neither. -/
theorem Turn.owes {system : InboxSystem} {before after : CallPhase} {new : List Occurrence}
    (turn : Turn system before after new) :
    (before.owes = none ∧ after.owes = none ∧ decisionsIn new = [] ∧ tellingsIn new = []) ∨
    (∃ decision, before.owes = none ∧ after.owes = some decision ∧ new = [.decided decision]) ∨
    ∃ decision, before.owes = some decision ∧ after.owes = none ∧ new = [.told decision] := by
  cases turn with
  | calm calmBefore calmAfter others =>
      left
      refine ⟨CallPhase.owes_of_calm calmBefore, CallPhase.owes_of_calm calmAfter, ?_, ?_⟩
      · rw [decisionsIn, List.filterMap_eq_nil_iff]
        intro occurrence member
        obtain ⟨transferId, same⟩ := others occurrence member
        obtain same | same | same := same <;> rw [same]
      · rw [tellingsIn, List.filterMap_eq_nil_iff]
        intro occurrence member
        obtain ⟨transferId, same⟩ := others occurrence member
        obtain same | same | same := same <;> rw [same]
  | decide calm => exact .inr (.inl ⟨_, CallPhase.owes_of_calm calm, rfl, rfl⟩)
  | tell => exact .inr (.inr ⟨_, rfl, Continuation.owes_phase _, rfl⟩)
  | expire => exact .inr (.inl ⟨_, rfl, rfl, rfl⟩)
  | wait | wake | timeout | decline | answer | vanish => exact .inl ⟨rfl, rfl, rfl, rfl⟩

theorem TellingsSound.move {system next : InboxSystem} {thread : Nat} {phase : CallPhase}
    {new : List Occurrence} (sound : TellingsSound system.threads system.log)
    (moves : Moves system next thread phase new)
    (once : ((decisionsIn next.log).map DecisionMade.event).Nodup) :
    TellingsSound next.threads next.log := by
  have owesHere : (next.threads thread).owes = phase.owes := by
    rw [moves.threads, Function.update_self]
  have owesElsewhere {other : Nat} (different : other ≠ thread) :
      (next.threads other).owes = (system.threads other).owes := by
    rw [moves.threads, Function.update_of_ne different]
  have decisions := moves.log ▸ decisionsIn_append new system.log
  have tellings := moves.log ▸ tellingsIn_append new system.log
  obtain quiet | made | told := moves.turn.owes
  · obtain ⟨before, after, noDecision, noTelling⟩ := quiet
    rw [noDecision, List.nil_append] at decisions
    rw [noTelling, List.nil_append] at tellings
    have same (other : Nat) : (next.threads other).owes = (system.threads other).owes := by
      by_cases here : other = thread
      · rw [here, owesHere, after, before]
      · exact owesElsewhere here
    constructor
    · rw [decisions, tellings]
      exact sound.made
    · rw [tellings]
      exact sound.once
    · intro other decision owes
      rw [decisions, tellings]
      exact sound.owed other decision (same other ▸ owes)
    · intro left right decision owesLeft owesRight
      exact sound.apart left right decision (same left ▸ owesLeft) (same right ▸ owesRight)
    · intro decision member untold
      rw [decisions] at member
      rw [tellings] at untold
      obtain ⟨other, owes⟩ := sound.owing decision member untold
      exact ⟨other, (same other).trans owes⟩
  · obtain ⟨decision, before, after, added⟩ := made
    have decisionsAre : decisionsIn next.log = decision :: decisionsIn system.log := by
      rw [decisions, added]
      rfl
    have tellingsAre : tellingsIn next.log = tellingsIn system.log := by
      rw [tellings, added]
      rfl
    have novel : decision ∉ decisionsIn system.log := by
      rw [decisionsAre, List.map_cons, List.nodup_cons] at once
      intro member
      exact once.1 (List.mem_map_of_mem member)
    constructor
    · rw [decisionsAre, tellingsAre]
      intro other member
      exact List.mem_cons_of_mem _ (sound.made other member)
    · rw [tellingsAre]
      exact sound.once
    · intro other owed owes
      rw [decisionsAre, tellingsAre]
      by_cases here : other = thread
      · rw [here, owesHere, after] at owes
        cases owes
        exact ⟨List.mem_cons_self, fun member => novel (sound.made decision member)⟩
      · rw [owesElsewhere here] at owes
        obtain ⟨member, untold⟩ := sound.owed other owed owes
        exact ⟨List.mem_cons_of_mem _ member, untold⟩
    · intro left right owed owesLeft owesRight
      -- only this thread owes the new decision
      have mine {other : Nat} (owes : (next.threads other).owes = some decision) :
          other = thread := by
        by_contra elsewhere
        rw [owesElsewhere elsewhere] at owes
        exact novel (sound.owed other decision owes).1
      by_cases leftHere : left = thread
      · rw [leftHere, owesHere, after] at owesLeft
        cases owesLeft
        rw [leftHere, mine owesRight]
      · by_cases rightHere : right = thread
        · rw [rightHere, owesHere, after] at owesRight
          cases owesRight
          exact absurd (mine owesLeft) leftHere
        · rw [owesElsewhere leftHere] at owesLeft
          rw [owesElsewhere rightHere] at owesRight
          exact sound.apart left right owed owesLeft owesRight
    · intro owed member untold
      rw [decisionsAre] at member
      rw [tellingsAre] at untold
      cases member with
      | head => exact ⟨thread, owesHere.trans after⟩
      | tail _ member =>
          obtain ⟨other, owes⟩ := sound.owing owed member untold
          have elsewhere : other ≠ thread := by
            intro here
            rw [here, before] at owes
            cases owes
          exact ⟨other, (owesElsewhere elsewhere).trans owes⟩
  · obtain ⟨decision, before, after, added⟩ := told
    have decisionsAre : decisionsIn next.log = decisionsIn system.log := by
      rw [decisions, added]
      rfl
    have tellingsAre : tellingsIn next.log = decision :: tellingsIn system.log := by
      rw [tellings, added]
      rfl
    obtain ⟨member, untold⟩ := sound.owed thread decision before
    have elsewhere {other : Nat} {owed : DecisionMade}
        (owes : (next.threads other).owes = some owed) :
        other ≠ thread ∧ (system.threads other).owes = some owed := by
      have different : other ≠ thread := by
        intro here
        rw [here, owesHere, after] at owes
        cases owes
      exact ⟨different, owesElsewhere different ▸ owes⟩
    constructor
    · rw [decisionsAre, tellingsAre, List.forall_mem_cons]
      exact ⟨member, sound.made⟩
    · rw [tellingsAre, List.nodup_cons]
      exact ⟨untold, sound.once⟩
    · intro other owed owes
      obtain ⟨different, owesBefore⟩ := elsewhere owes
      obtain ⟨included, notTold⟩ := sound.owed other owed owesBefore
      rw [decisionsAre, tellingsAre, List.mem_cons, not_or]
      refine ⟨included, ?_, notTold⟩
      intro same
      rw [same] at owesBefore
      exact different (sound.apart other thread decision owesBefore before)
    · intro left right owed owesLeft owesRight
      exact sound.apart left right owed (elsewhere owesLeft).2 (elsewhere owesRight).2
    · intro owed included notTold
      rw [decisionsAre] at included
      rw [tellingsAre, List.mem_cons, not_or] at notTold
      obtain ⟨other, owes⟩ := sound.owing owed included notTold.2
      have different : other ≠ thread := by
        intro here
        rw [here, before] at owes
        cases owes
        exact notTold.1 rfl
      exact ⟨other, (owesElsewhere different).trans owes⟩

/-! ## Waits -/

theorem recent_append {log : List Occurrence} {since : Nat} (begun : since ≤ log.length)
    (new : List Occurrence) : recent (new ++ log) since = new ++ recent log since := by
  have length : (new ++ log).length - since = new.length + (log.length - since) := by
    rw [List.length_append]
    omega
  rw [recent, length, List.take_length_add_append]
  rfl

theorem Renewed.append {transferId : PyStr} {earlier : List Occurrence}
    (renewed : Renewed transferId earlier) (new : List Occurrence) :
    Renewed transferId (new ++ earlier) := by
  induction new with
  | nil => exact renewed
  | cons occurrence rest ih =>
      cases occurrence with
      | published other => exact .inr ih
      | republished | decided | told | pruned | returned => exact ih

/-- The entry of a wait is as it should be, or its transfer was pruned since
the wait began. -/
structure Awaited (manager : IncomingRequestManager) (log : List Occurrence) (transferId : PyStr)
    (since : Nat) (fine : PendingDecision → Prop) : Prop where
  begun : since ≤ log.length
  entry : Renewed transferId (recent log since) ∨
    (manager.entries.get transferId = none ∧ Occurrence.pruned transferId ∈ recent log since) ∨
    ∃ entry, manager.entries.get transferId = some entry ∧ fine entry

theorem Awaited.move {before after : IncomingRequestManager} {log new : List Occurrence}
    {transferId : PyStr} {since : Nat} {fine : PendingDecision → Prop}
    (awaited : Awaited before log transferId since fine) (move : ManagerMove before after new)
    (settled : ∀ entry : PendingDecision, entry.request.status ≠ .pendingApproval → fine entry) :
    Awaited after (new ++ log) transferId since fine := by
  have moved := move.entry transferId
  constructor
  · rw [List.length_append]
    exact awaited.begun.trans (Nat.le_add_left _ _)
  · rw [recent_append awaited.begun]
    obtain renewed | absent | present := awaited.entry
    · exact .inl (renewed.append new)
    · obtain ⟨absent, pruned⟩ := absent
      rw [absent] at moved
      generalize after.entries.get transferId = entry at moved ⊢
      cases moved with
      | same => exact .inr (.inl ⟨rfl, List.mem_append_right _ pruned⟩)
      | publish added =>
          rw [added]
          exact .inl (.inl ⟨rfl, pruned⟩)
    · obtain ⟨old, found, holds⟩ := present
      rw [found] at moved
      generalize after.entries.get transferId = entry at moved ⊢
      cases moved with
      | same => exact .inr (.inr ⟨old, rfl, holds⟩)
      | republish _ accepted =>
          refine .inr (.inr ⟨_, rfl, settled _ ?_⟩)
          rw [accepted]
          decide
      | decide _ final => exact .inr (.inr ⟨_, rfl, settled _ final⟩)
      | prune _ removed => exact .inr (.inl ⟨rfl, List.mem_append_left _ removed⟩)

theorem Awaited.mono {manager : IncomingRequestManager} {log : List Occurrence}
    {transferId : PyStr} {since : Nat} {fine : PendingDecision → Prop}
    (finer : PendingDecision → Prop) (awaited : Awaited manager log transferId since fine)
    (wider : ∀ entry, manager.entries.get transferId = some entry → fine entry → finer entry) :
    Awaited manager log transferId since finer := by
  constructor
  · exact awaited.begun
  · obtain renewed | absent | present := awaited.entry
    · exact .inl renewed
    · exact .inr (.inl absent)
    · obtain ⟨entry, found, holds⟩ := present
      exact .inr (.inr ⟨entry, found, wider entry found holds⟩)

def PendingDecision.isSettled (entry : PendingDecision) : Prop :=
  entry.request.status ≠ .pendingApproval

/-- What a thread inside a wait relies on. -/
def WaitSound (manager : IncomingRequestManager) (log : List Occurrence) : CallPhase → Prop
  | .waiting transferId event since =>
      Awaited manager log transferId since fun entry => entry.event = event ∨ entry.isSettled
  | .expiring transferId since => Awaited manager log transferId since fun _ => True
  | .fetching transferId since | .telling _ (.fetch transferId since) =>
      Awaited manager log transferId since PendingDecision.isSettled
  | _ => True

theorem WaitSound.move {before after : IncomingRequestManager} {log new : List Occurrence}
    {phase : CallPhase} (sound : WaitSound before log phase)
    (move : ManagerMove before after new) : WaitSound after (new ++ log) phase := by
  cases phase with
  | waiting => exact Awaited.move sound move fun _ settled => .inr settled
  | expiring => exact Awaited.move sound move fun _ _ => trivial
  | fetching => exact Awaited.move sound move fun _ settled => settled
  | telling decision following =>
      cases following with
      | fetch => exact Awaited.move sound move fun _ settled => settled
      | finish | cancel => trivial
  | idle | announcing | cancelling => trivial

theorem WaitSound.of_calm {manager : IncomingRequestManager} {log : List Occurrence}
    {phase : CallPhase} (calm : phase.isCalm = true) : WaitSound manager log phase := by
  cases phase with
  | idle | announcing | cancelling => trivial
  | telling | waiting | expiring | fetching => cases calm

/-- A thread that takes a turn finds what it relies on next. -/
theorem WaitSound.turn {system next : InboxSystem} {thread : Nat} {phase : CallPhase}
    {new : List Occurrence} (moves : Moves system next thread phase new)
    (numbered : Numbered system.manager)
    (sound : WaitSound system.manager system.log (system.threads thread)) :
    WaitSound next.manager next.log phase := by
  have move := moves.manager
  have turn := moves.turn
  rw [moves.log]
  generalize system.threads thread = before at turn sound
  cases turn with
  | calm _ calm => exact .of_calm calm
  | @decide _ _ following _ calm =>
      cases following with
      | finish | cancel => trivial
      | fetch => cases calm
  | @tell _ following =>
      cases following with
      | finish | cancel => trivial
      | fetch => exact Awaited.move sound move fun _ settled => settled
  | @wait transferId entry found =>
      have awaited : Awaited system.manager system.log transferId system.log.length
          fun other => other.event = entry.event ∨ other.isSettled :=
        ⟨le_refl _, .inr (.inr ⟨entry, found, .inl rfl⟩)⟩
      exact Awaited.move awaited move fun _ settled => .inr settled
  | wake set =>
      have settled := Awaited.mono PendingDecision.isSettled sound
        fun entry found holds => by
          cases holds with
          | inl same => exact numbered.signalled _ entry found (same ▸ set)
          | inr settled => exact settled
      exact Awaited.move settled move fun _ settled => settled
  | timeout =>
      have awaited := Awaited.mono (fun _ => True) sound fun _ _ _ => trivial
      exact Awaited.move awaited move fun _ _ => trivial
  | @expire transferId since decision same =>
      have awaited := Awaited.move sound move fun _ _ => trivial
      refine Awaited.mono _ awaited fun entry found _ => ?_
      -- the entry is the one this decision settled
      cases move.decisions with
      | inl none => cases none
      | inr some =>
          obtain ⟨_, _, other, added, here, _, _, _, final, written⟩ := some
          cases added
          rw [← same, here] at found
          cases written.symm.trans found
          exact final
  | decline settled =>
      have awaited := Awaited.mono PendingDecision.isSettled sound
        fun entry found _ => settled entry found
      exact Awaited.move awaited move fun _ settled => settled
  | answer | vanish => trivial

theorem WaitsJustified.append {earlier new : List Occurrence} (justified : WaitsJustified earlier)
    (others : ∀ occurrence ∈ new, ∀ transferId since request,
      occurrence ≠ .returned transferId since request) : WaitsJustified (new ++ earlier) := by
  induction new with
  | nil => exact justified
  | cons occurrence rest ih =>
      have later := ih fun occurrence member => others occurrence (List.mem_cons_of_mem _ member)
      cases occurrence with
      | returned => exact absurd rfl (others _ List.mem_cons_self _ _ _)
      | published | republished | decided | told | pruned => exact later

/-- A wait returns a pending request only after its entry was renewed. -/
theorem WaitsJustified.turn {system : InboxSystem} {before after : CallPhase}
    {new : List Occurrence} (turn : Turn system before after new)
    (sound : WaitSound system.manager system.log before) (justified : WaitsJustified system.log) :
    WaitsJustified (new ++ system.log) := by
  cases turn with
  | calm _ _ others =>
      apply justified.append
      intro occurrence member transferId since request same
      obtain ⟨_, other⟩ := others occurrence member
      rw [same] at other
      simp at other
  | @answer transferId since request found =>
      refine ⟨?_, justified⟩
      intro pending
      obtain ⟨entry, present, same⟩ := Option.map_eq_some_iff.mp found
      obtain renewed | absent | settled := Awaited.entry sound
      · exact renewed
      · rw [absent.1] at present
        cases present
      · obtain ⟨other, again, settled⟩ := settled
        cases present.symm.trans again
        exact absurd (same ▸ pending) settled
  | decide | tell | wait | wake | timeout | expire | decline | vanish => exact justified

/-! ## Runs -/

/-- The invariant of all threads that call one manager. -/
structure InboxSound (system : InboxSystem) : Prop where
  numbered : Numbered system.manager
  bounded : system.manager.pendingCount ≤ system.manager.maxPending
  decisions : DecisionsSound system.manager system.log
  tellings : TellingsSound system.threads system.log
  waits : ∀ thread, WaitSound system.manager system.log (system.threads thread)
  justified : WaitsJustified system.log

theorem InboxSound.start (maxPending : Nat) : InboxSound (InboxSystem.start maxPending) where
  numbered := ⟨by simp [InboxSystem.start, IncomingRequestManager.empty],
    by simp [InboxSystem.start, IncomingRequestManager.empty],
    by simp [InboxSystem.start, IncomingRequestManager.empty],
    by simp [InboxSystem.start, IncomingRequestManager.empty]⟩
  bounded := Nat.zero_le _
  decisions := ⟨by simp [InboxSystem.start, decisionsIn], by simp [InboxSystem.start, decisionsIn],
    by simp [InboxSystem.start, decisionsIn], by simp [InboxSystem.start, decisionsIn],
    by simp [InboxSystem.start, standingIn]⟩
  tellings := ⟨by simp [InboxSystem.start, tellingsIn], by simp [InboxSystem.start, tellingsIn],
    by simp [InboxSystem.start, CallPhase.owes], by simp [InboxSystem.start, CallPhase.owes],
    by simp [InboxSystem.start, decisionsIn]⟩
  waits _ := trivial
  justified := trivial

theorem InboxSound.step {system next : InboxSystem} {label : InboxLabel}
    (sound : InboxSound system) (stepped : inboxStep system label = some next) :
    InboxSound next := by
  obtain ⟨thread, phase, new, moves⟩ := inboxStep_moves stepped
  have decisions : DecisionsSound next.manager next.log := by
    rw [moves.log]
    exact sound.decisions.move sound.numbered moves.manager
  constructor
  · exact moves.manager.numbered sound.numbered
  · exact moves.manager.bounded sound.bounded
  · exact decisions
  · exact sound.tellings.move moves decisions.once
  · intro other
    rw [moves.threads]
    by_cases here : other = thread
    · rw [here, Function.update_self]
      exact WaitSound.turn moves sound.numbered (sound.waits thread)
    · rw [Function.update_of_ne here, moves.log]
      exact (sound.waits other).move moves.manager
  · rw [moves.log]
    exact sound.justified.turn moves.turn (sound.waits thread)

/-- What callers of the manager can rely on. -/
structure DecidedOnce (system : InboxSystem) : Prop where
  /-- No request is decided twice. -/
  once : ((decisionsIn system.log).map DecisionMade.event).Nodup
  /-- A decision is told once, unless its thread has yet to tell it. -/
  told : ∀ decision ∈ decisionsIn system.log,
    (tellingsIn system.log).count decision = 1 ∧
        (∀ thread, (system.threads thread).owes ≠ some decision) ∨
      (tellingsIn system.log).count decision = 0 ∧
        ∃! thread, (system.threads thread).owes = some decision
  onlyDecisions : ∀ decision ∈ tellingsIn system.log, decision ∈ decisionsIn system.log
  /-- A deciding call returns true only for an entry nobody has decided. -/
  effective : ∀ transferId status reason,
    (system.manager.decide transferId status reason).2 = true → ∃ entry,
      system.manager.entries.get transferId = some entry ∧
        entry.request.status = .pendingApproval ∧
        ∀ decision ∈ decisionsIn system.log, decision.event ≠ entry.event
  declined : ∀ transferId entry, system.manager.entries.get transferId = some entry →
    (∃ decision ∈ decisionsIn system.log, decision.event = entry.event) →
    ∀ status reason, system.manager.decide transferId status reason = (system.manager, false)
  /-- Until it is pruned, a decided entry keeps its status. -/
  kept : ∀ decision ∈ standingIn system.log, ∃ entry,
    system.manager.entries.get decision.transferId = some entry ∧
      entry.request.status = decision.request.status
  waits : WaitsJustified system.log
  pruneKeeps : ∀ cutoff transferId entry,
    system.manager.entries.get transferId = some entry →
    entry.request.status = .pendingApproval →
    (system.manager.prune cutoff).entries.get transferId = some entry
  bounded : system.manager.pendingCount ≤ system.manager.maxPending
  /-- A publication that raises leaves the manager as it was. -/
  refused : ∀ thread request error next, system.manager.publish request = .error error →
    inboxStep system (.publish thread request) = some next → next.manager = system.manager

theorem InboxSound.told {system : InboxSystem} (sound : InboxSound system)
    {decision : DecisionMade} (made : decision ∈ decisionsIn system.log) :
    (tellingsIn system.log).count decision = 1 ∧
        (∀ thread, (system.threads thread).owes ≠ some decision) ∨
      (tellingsIn system.log).count decision = 0 ∧
        ∃! thread, (system.threads thread).owes = some decision := by
  by_cases told : decision ∈ tellingsIn system.log
  · left
    refine ⟨List.count_eq_one_of_mem sound.tellings.once told, ?_⟩
    intro thread owes
    exact (sound.tellings.owed thread decision owes).2 told
  · right
    obtain ⟨thread, owes⟩ := sound.tellings.owing decision made told
    refine ⟨List.count_eq_zero.mpr told, thread, owes, ?_⟩
    intro other again
    exact sound.tellings.apart other thread decision again owes

/-- Over every interleaving of calls, each request is decided at most once and
its decision is told exactly once. -/
theorem requests_decided_once {maxPending : Nat} {labels : List InboxLabel} {system : InboxSystem}
    (run : Run inboxStep anyStep (.start maxPending) labels system) : DecidedOnce system := by
  have sound : InboxSound system :=
    run.invariant (fun _ _ _ sound _ stepped => sound.step stepped) (.start maxPending)
  constructor
  · exact sound.decisions.once
  · intro decision made
    exact sound.told made
  · exact sound.tellings.made
  · intro transferId status reason took
    cases decide_cases system.manager transferId status reason with
    | inl refused =>
        rw [refused] at took
        cases took
    | inr effective =>
        obtain ⟨entry, found, pending, _⟩ := effective
        exact ⟨entry, found, pending, sound.decisions.undecided transferId entry found pending⟩
  · intro transferId entry found decided status reason
    obtain ⟨decision, made, same⟩ := decided
    have settled : entry.request.status ≠ .pendingApproval := by
      intro pending
      exact sound.decisions.undecided transferId entry found pending decision made same
    simp [IncomingRequestManager.decide, found, settled]
  · exact sound.decisions.standing
  · exact sound.justified
  · intro cutoff transferId entry found pending
    rw [get_prune, found, Option.filter_some, if_pos]
    simp [IncomingRequestManager.kept, pending]
  · exact sound.bounded
  · intro thread request error next failed stepped
    simp only [inboxStep, failed] at stepped
    split at stepped
    · cases stepped
      rfl
    · cases stepped

def inboxRequest : IncomingTransferRequest :=
  ⟨py "t", py "mp-00000000", py "192.0.2.1", none, [], 0, none, 0, .pendingApproval, none⟩

/-- Two threads decide the request that a third waits for. -/
def racingCalls : List InboxLabel :=
  [.publish 0 inboxRequest, .announce 0, .wait 0 (py "t"), .timeout 0,
    .decide 1 (py "t") .accept, .decide 2 (py "t") (.reject (py "no")), .expire 0, .fetch 0,
    .tell 1]

theorem racing_calls_decide_once :
    ∃ system, Run inboxStep anyStep (.start 1) racingCalls system ∧ DecidedOnce system ∧
      (decisionsIn system.log).map (fun decision => decision.request.status) = [.accepted] := by
  have executed : ((runLabels inboxStep (.start 1) racingCalls).any fun system =>
      (decisionsIn system.log).map (fun decision => decision.request.status) = [.accepted]) =
        true := by decide
  obtain ⟨system, reached, accepted⟩ := (Option.any_eq_true _ _).mp executed
  have run := run_of_runLabels reached
  exact ⟨system, run, requests_decided_once run, by simpa using accepted⟩

end DirectTransfer
