import DirectTransfer.Core.ApprovalProperties
import DirectTransfer.Core.HistoryDatabase
import DirectTransfer.Core.ProtocolProperties

/-! A session that has ended leaves no undecided request, as long as the callback
for its offer raises nothing and no exception gets past the clause around the frame
it reads while the offer awaits approval. The event of an entry names the publication it comes from. -/

set_option autoImplicit false

namespace DirectTransfer

open Library

/-! ## What a session is answered -/

/-- A parameter of an SQL statement. -/
inductive SqlParameter where
  | text (value : PyStr)
  | integer (value : Nat)

/-- What binding a parameter raises. -/
def SqlParameter.failure : SqlParameter → Option Raised
  | .text value =>
      if bindable value then none else some (raised .valueError "surrogates not allowed")
  | .integer value =>
      if value < 2 ^ 63 then none
      else some (raised .overflowError "Python int too large to convert to SQLite INTEGER")

/-- The parameters of the rows `_handle_incoming_request` writes, in their order. -/
def requestParameters (request : IncomingTransferRequest) : List SqlParameter :=
  [.text request.transferId, .text request.peerDeviceId, .text request.peerIp] ++
    (request.peerName.toList ++ request.message.toList).map .text ++
    [.integer request.files.length, .integer request.totalSize] ++
    request.files.flatMap fun file =>
      [.text file.fileId, .text file.name, .integer file.size, .text file.sha256]

/-- `on_request`, with a store that is open and in order or not. Only an exception of
the database is caught. -/
def requestAnswer (available : Bool) (request : IncomingTransferRequest) : Answer :=
  match available, (requestParameters request).findSome? SqlParameter.failure with
  | true, some error => .raised error
  | _, _ => .done

/-- The callback raises exactly for a request with a text or a size SQLite does not take. -/
theorem requestAnswer_raises_iff (request : IncomingTransferRequest) :
    (∃ available error, requestAnswer available request = .raised error) ↔
      ∃ parameter ∈ requestParameters request, parameter.failure ≠ none := by
  unfold requestAnswer
  cases found : (requestParameters request).findSome? SqlParameter.failure with
  | none =>
      rw [List.findSome?_eq_none_iff] at found
      constructor
      · intro fails
        obtain ⟨available, error, same⟩ := fails
        cases available <;> cases same
      · intro refused
        obtain ⟨parameter, member, failure⟩ := refused
        exact absurd (found parameter member) failure
  | some error =>
      obtain ⟨parameter, member, failure⟩ := List.exists_of_findSome?_eq_some found
      constructor
      · intro _
        exact ⟨parameter, member, by rw [failure]; exact Option.some_ne_none _⟩
      · intro _
        exact ⟨true, error, rfl⟩

/-- `select` with the time left until the deadline. -/
def selectAnswer (deadline now : Time) (readable : Bool) : Answer :=
  if deadline - now < 0 then .raised (raised .valueError "timeout must be non-negative")
  else .flag readable

/-- The frame the peer sends while its offer awaits approval. -/
def controlAnswer (codec : Codec) (key stream : Bytes) : Answer :=
  match receiveControlFrame codec key stream with
  | .ok (payload, _) => .control payload
  | .error error => .raised error

/-- A frame is read that is too large, too short or not authentic. -/
def Unreadable (codec : Codec) (key stream : Bytes) : Prop :=
  match unpackFrame (headerMaxSize + 64) stream with
  | .error error => error.kind = .valueError
  | .ok (encrypted, _) => key.length ≠ 32 ∨ encrypted.length < nonceSize + 16 ∨
      codec.aead.decrypt key (encrypted.take nonceSize) (encrypted.drop nonceSize) = none

/-- An exception that `except (ConnectionError, OSError)` lets through comes from
such a frame. -/
theorem controlAnswer_escapes_iff (codec : Codec) (key stream : Bytes) :
    (∃ error, controlAnswer codec key stream = .raised error ∧ error.kind.isOSError = false) ↔
      Unreadable codec key stream := by
  unfold controlAnswer receiveControlFrame Unreadable
  simp only [bind, Except.bind, pure, Except.pure]
  cases framed : unpackFrame (headerMaxSize + 64) stream with
  | error error =>
      have kinds : error.kind = .valueError ∨ error.kind = .osError := by
        unfold unpackFrame at framed
        simp only at framed
        repeat' split at framed
        all_goals cases framed
        all_goals simp [raised]
      rcases kinds with kind | kind <;> simp [kind, ErrorKind.isOSError]
  | ok frame =>
      obtain ⟨encrypted, rest⟩ := frame
      unfold decryptChunk
      by_cases sized : key.length = 32
      · by_cases short : encrypted.length < nonceSize + 16
        · simp [sized, short, raised, ErrorKind.isOSError]
        · cases opened : codec.aead.decrypt key (encrypted.take nonceSize)
            (encrypted.drop nonceSize) with
          | none => simp [sized, short, opened, raised, ErrorKind.isOSError]
          | some raw =>
              simp only [sized, ne_eq, not_true_eq_false, ↓reduceIte, short, opened, decodeControl]
              cases codec.loads raw with
              | none => simp [raised, ErrorKind.isOSError]
              | some payload =>
                  by_cases isDict : payload.isDict = true <;>
                    simp [isDict, raised, ErrorKind.isOSError]
      · simp [sized, raised, ErrorKind.isOSError]

/-! ## Publications -/

/-- The sessions of a receiver, and the event each publication was given. -/
structure ApprovalLedger where
  approvals : Approvals
  published : Dict Nat Nat

/-- Only a publication uses up an event. -/
def ledgerStep (ledger : ApprovalLedger) (label : ApprovalLabel) : Option ApprovalLedger := do
  let approvals ← approvalStep ledger.approvals label
  return ⟨approvals, match label with
    | .session index _ =>
        if ledger.approvals.manager.fresh < approvals.manager.fresh then
          ledger.published.set index ledger.approvals.manager.fresh
        else ledger.published
    | _ => ledger.published⟩

def ApprovalLedger.start (maxPending : Nat) : ApprovalLedger := ⟨.start maxPending, Dict.empty⟩

/-- The entry of an event, where it is still there, has been decided. -/
def Decided (manager : IncomingRequestManager) (transferId : PyStr) (event : Nat) : Prop :=
  ∀ entry, manager.entries.get transferId = some entry → entry.event = event →
    entry.request.status ≠ .pendingApproval

/-- The entry of an event is no longer there. -/
def Gone (manager : IncomingRequestManager) (transferId : PyStr) (event : Nat) : Prop :=
  ∀ entry, manager.entries.get transferId = some entry → entry.event ≠ event

theorem Gone.decided {manager : IncomingRequestManager} {transferId : PyStr} {event : Nat}
    (gone : Gone manager transferId event) : Decided manager transferId event :=
  fun entry found same => absurd same (gone entry found)

/-- Events tell publications apart, and are signalled once decided. -/
structure Numbered (manager : IncomingRequestManager) : Prop where
  below : ∀ transferId entry, manager.entries.get transferId = some entry →
    entry.event < manager.fresh
  apart : ∀ left right leftEntry rightEntry, manager.entries.get left = some leftEntry →
    manager.entries.get right = some rightEntry → leftEntry.event = rightEntry.event → left = right
  signalledBelow : ∀ event ∈ manager.signalled, event < manager.fresh
  signalled : ∀ transferId entry, manager.entries.get transferId = some entry →
    entry.event ∈ manager.signalled → entry.request.status ≠ .pendingApproval

/-- Entries are decided, removed or published, and never undecided. -/
structure Evolves (before after : IncomingRequestManager) : Prop where
  fresh : before.fresh ≤ after.fresh
  entries : ∀ transferId entry, after.entries.get transferId = some entry →
    before.fresh ≤ entry.event ∨ ∃ old, before.entries.get transferId = some old ∧
      old.event = entry.event ∧
      (entry.request.status = .pendingApproval → old.request.status = .pendingApproval)

theorem Evolves.refl (manager : IncomingRequestManager) : Evolves manager manager :=
  ⟨le_rfl, fun _ entry found => .inr ⟨entry, found, rfl, id⟩⟩

theorem Evolves.decided {before after : IncomingRequestManager} (evolves : Evolves before after)
    {transferId : PyStr} {event : Nat} (known : event < before.fresh)
    (decided : Decided before transferId event) : Decided after transferId event := by
  intro entry found same pending
  rcases evolves.entries transferId entry found with newer | ⟨old, foundOld, sameEvent, stays⟩
  · omega
  · exact decided old foundOld (sameEvent.trans same) (stays pending)

theorem Evolves.gone {before after : IncomingRequestManager} (evolves : Evolves before after)
    {transferId : PyStr} {event : Nat} (known : event < before.fresh)
    (gone : Gone before transferId event) : Gone after transferId event := by
  intro entry found same
  rcases evolves.entries transferId entry found with newer | ⟨old, foundOld, sameEvent, _⟩
  · omega
  · exact gone old foundOld (sameEvent.trans same)

/-- A deciding call settles the entry that stands under its identifier. -/
theorem decide_settles {manager : IncomingRequestManager} (numbered : Numbered manager)
    {transferId : PyStr} {status : IncomingRequestStatus} {reason : Option PyStr}
    (final : status ≠ .pendingApproval) :
    Numbered (manager.decide transferId status reason).1 ∧
      Evolves manager (manager.decide transferId status reason).1 ∧
      ∀ event, Decided (manager.decide transferId status reason).1 transferId event := by
  rcases decide_cases manager transferId status reason with same | ⟨entry, found, _, decided⟩
  · rw [same]
    refine ⟨numbered, .refl manager, fun event entry found _ pending => ?_⟩
    simp [IncomingRequestManager.decide, found, pending] at same
  · rw [decided]
    have lookup : ∀ other later, (manager.entries.set transferId
        ⟨{ entry.request with status, reason }, entry.event⟩).get other = some later →
        (other = transferId ∧ later = ⟨{ entry.request with status, reason }, entry.event⟩) ∨
          manager.entries.get other = some later := by
      intro other later present
      rw [Dict.get_set] at present
      split at present
      · next here => cases present; exact .inl ⟨here, rfl⟩
      · exact .inr present
    -- the event of an entry is the one it had before
    have source : ∀ other later, (manager.entries.set transferId
        ⟨{ entry.request with status, reason }, entry.event⟩).get other = some later →
        ∃ old, manager.entries.get other = some old ∧ old.event = later.event := by
      intro other later present
      rcases lookup other later present with ⟨here, rfl⟩ | earlier
      · exact ⟨entry, here ▸ found, rfl⟩
      · exact ⟨later, earlier, rfl⟩
    refine ⟨⟨?_, ?_, ?_, ?_⟩, ⟨le_rfl, ?_⟩, ?_⟩
    · intro other later present
      obtain ⟨old, stood, same⟩ := source other later present
      exact same ▸ numbered.below other old stood
    · intro left right leftEntry rightEntry leftFound rightFound same
      obtain ⟨leftOld, leftStood, leftSame⟩ := source left leftEntry leftFound
      obtain ⟨rightOld, rightStood, rightSame⟩ := source right rightEntry rightFound
      exact numbered.apart left right leftOld rightOld leftStood rightStood
        (leftSame.trans (same.trans rightSame.symm))
    · intro event member
      rcases List.mem_cons.mp member with rfl | earlier
      · exact numbered.below transferId entry found
      · exact numbered.signalledBelow event earlier
    · intro other later present member
      rcases lookup other later present with ⟨_, rfl⟩ | earlier
      · exact final
      · rcases List.mem_cons.mp member with same | set
        · have here := numbered.apart other transferId later entry earlier found same
          subst here
          rw [Dict.get_set_self] at present
          cases present
          exact final
        · exact numbered.signalled other later earlier set
    · intro other later present
      rcases lookup other later present with ⟨here, rfl⟩ | earlier
      · exact .inr ⟨entry, here ▸ found, rfl, fun pending => absurd pending final⟩
      · exact .inr ⟨later, earlier, rfl, id⟩
    · intro event later present _
      rw [Dict.get_set_self] at present
      cases present
      exact final

/-- Writing an entry under the next event. -/
theorem publish_numbered {manager published : IncomingRequestManager}
    (numbered : Numbered manager) {request : IncomingTransferRequest}
    (done : manager.publish request = .ok published) :
    Numbered published ∧ Evolves manager published ∧ published.fresh = manager.fresh + 1 ∧
      ∀ transferId entry, published.entries.get transferId = some entry →
        entry.event = manager.fresh → transferId = request.transferId := by
  have write : ∀ (entry : PendingDecision) (signalled : List Nat), entry.event = manager.fresh →
      (∀ event ∈ signalled, event = manager.fresh ∨ event ∈ manager.signalled) →
      (manager.fresh ∈ signalled → entry.request.status ≠ .pendingApproval) →
      Numbered { manager with
        entries := manager.entries.set request.transferId entry
        signalled
        fresh := manager.fresh + 1 } ∧
      Evolves manager { manager with
        entries := manager.entries.set request.transferId entry
        signalled
        fresh := manager.fresh + 1 } ∧
      ∀ other later, (manager.entries.set request.transferId entry).get other = some later →
        later.event = manager.fresh → other = request.transferId := by
    intro entry signalled numberedHere members settled
    have lookup : ∀ other later,
        (manager.entries.set request.transferId entry).get other = some later →
        (other = request.transferId ∧ later = entry) ∨ manager.entries.get other = some later := by
      intro other later present
      rw [Dict.get_set] at present
      split at present
      · next here => cases present; exact .inl ⟨here, rfl⟩
      · exact .inr present
    refine ⟨⟨?_, ?_, ?_, ?_⟩, ⟨Nat.le_succ _, ?_⟩, ?_⟩
    · intro other later present
      rcases lookup other later present with ⟨_, rfl⟩ | earlier
      · simp only; omega
      · have below := numbered.below other later earlier
        simp only; omega
    · intro left right leftEntry rightEntry leftFound rightFound same
      rcases lookup left leftEntry leftFound with ⟨leftHere, rfl⟩ | leftEarlier <;>
        rcases lookup right rightEntry rightFound with ⟨rightHere, rfl⟩ | rightEarlier
      · exact leftHere.trans rightHere.symm
      · have below := numbered.below right rightEntry rightEarlier
        omega
      · have below := numbered.below left leftEntry leftEarlier
        omega
      · exact numbered.apart left right leftEntry rightEntry leftEarlier rightEarlier same
    · intro event member
      rcases members event member with rfl | earlier
      · exact Nat.lt_succ_self _
      · exact Nat.lt_succ_of_lt (numbered.signalledBelow event earlier)
    · intro other later present member
      rcases lookup other later present with ⟨_, rfl⟩ | earlier
      · exact settled (numberedHere ▸ member)
      · rcases members later.event member with same | set
        · have below := numbered.below other later earlier
          omega
        · exact numbered.signalled other later earlier set
    · intro other later present
      rcases lookup other later present with ⟨_, rfl⟩ | earlier
      · exact .inl numberedHere.ge
      · exact .inr ⟨later, earlier, rfl, id⟩
    · intro other later present same
      rcases lookup other later present with ⟨here, _⟩ | earlier
      · exact here
      · have below := numbered.below other later earlier
        omega
  unfold IncomingRequestManager.publish at done
  split at done
  · split at done
    · cases done
    · split at done
      · cases done
        obtain ⟨kept, evolves, newcomer⟩ := write ⟨{ request with status := .accepted }, manager.fresh⟩
          (manager.fresh :: manager.signalled) rfl (by simp) (by simp)
        exact ⟨kept, evolves, rfl, newcomer⟩
      · cases done
  · split at done
    · cases done
    · cases done
      obtain ⟨kept, evolves, newcomer⟩ := write ⟨request, manager.fresh⟩ manager.signalled rfl
        (fun _ member => .inr member)
        fun member => absurd (numbered.signalledBelow _ member) (Nat.lt_irrefl _)
      exact ⟨kept, evolves, rfl, newcomer⟩

theorem prune_numbered {manager : IncomingRequestManager} (numbered : Numbered manager)
    (cutoff : Time) : Numbered (manager.prune cutoff) ∧ Evolves manager (manager.prune cutoff) := by
  have earlier : ∀ transferId entry, (manager.prune cutoff).entries.get transferId = some entry →
      manager.entries.get transferId = some entry := by
    intro transferId entry found
    rw [IncomingRequestManager.prune, Dict.get_filter, Option.filter_eq_some_iff] at found
    exact found.1
  exact ⟨⟨fun _ _ found => numbered.below _ _ (earlier _ _ found),
      fun _ _ _ _ left right => numbered.apart _ _ _ _ (earlier _ _ left) (earlier _ _ right),
      numbered.signalledBelow, fun _ _ found => numbered.signalled _ _ (earlier _ _ found)⟩,
    ⟨le_rfl, fun _ entry found => .inr ⟨entry, earlier _ _ found, rfl, id⟩⟩⟩

/-! ## Sessions -/

/-- The session's offer has been published. -/
def ApprovalPhase.hasPublished : ApprovalPhase → Bool
  | .publish | .receiverBusy => false
  | _ => true

/-- The session has learnt the decision, or stands where it must be known. -/
def ApprovalPhase.isSettled : ApprovalPhase → Bool
  | .fetch | .respond _ | .receiving | .ended _ => true
  | _ => false

/-- What holds of a session whose offer was published under an event. -/
structure Tracked (manager : IncomingRequestManager) (session : ApprovalSession) (event : Nat) :
    Prop where
  known : event < manager.fresh
  underway : session.phase.hasPublished = true
  settled : session.phase.isSettled = true → Decided manager session.request.transferId event
  waiting : ∀ number, session.phase = .waitEvent number →
    number = event ∨ Gone manager session.request.transferId event

theorem Tracked.mono {before after : IncomingRequestManager} {session : ApprovalSession}
    {event : Nat} (tracked : Tracked before session event) (evolves : Evolves before after) :
    Tracked after session event where
  known := tracked.known.trans_le evolves.fresh
  underway := tracked.underway
  settled isSettled := evolves.decided tracked.known (tracked.settled isSettled)
  waiting number stands :=
    (tracked.waiting number stands).imp id fun gone => evolves.gone tracked.known gone

/-- A session that moves on under the same manager. -/
theorem Tracked.move {manager : IncomingRequestManager} {session : ApprovalSession} {event : Nat}
    (tracked : Tracked manager session event) {phase : ApprovalPhase}
    (underway : phase.hasPublished = true)
    (settled : phase.isSettled = true → Decided manager session.request.transferId event)
    (waiting : ∀ number, phase = .waitEvent number →
      number = event ∨ Gone manager session.request.transferId event) :
    Tracked manager (session.moveTo phase) event :=
  ⟨tracked.known, underway, settled, waiting⟩

/-- `on_request` raises nothing, and no exception gets past the handlers of a session
that awaits its decision. -/
structure Survives (session : ApprovalSession) (event : Event) : Prop where
  announced : ∀ error, session.phase = .onRequest → event.answer ≠ .raised error
  selected : ∀ error, session.phase = .select → event.answer ≠ .raised error
  controlled : ∀ error, session.phase = .control → event.answer = .raised error →
    error.kind.isOSError = true

/-- What a step of a session leaves for the publication it follows. -/
structure Follows (manager after : IncomingRequestManager) (session next : ApprovalSession) :
    Prop where
  numbered : Numbered after
  evolves : Evolves manager after
  request : next.request = session.request
  tracked : ∀ event, Tracked manager session event → Tracked after next event
  published : manager.fresh < after.fresh → Tracked after next manager.fresh ∧
    after.fresh = manager.fresh + 1 ∧ session.phase.hasPublished = false ∧
    ∀ transferId entry, after.entries.get transferId = some entry →
      entry.event = manager.fresh → transferId = session.request.transferId

/-- A step that leaves the manager alone. -/
theorem Follows.still {manager : IncomingRequestManager} {session : ApprovalSession}
    (numbered : Numbered manager) {phase : ApprovalPhase}
    (tracked : ∀ event, Tracked manager session event →
      Tracked manager (session.moveTo phase) event) :
    Follows manager manager session (session.moveTo phase) :=
  ⟨numbered, .refl manager, rfl, tracked, fun newer => absurd newer (Nat.lt_irrefl _)⟩

/-- A step to a call between publication and decision. -/
theorem Follows.ask {manager : IncomingRequestManager} {session : ApprovalSession}
    (numbered : Numbered manager) {phase : ApprovalPhase} (underway : phase.hasPublished = true)
    (undecided : phase.isSettled = false) (awake : ∀ number, phase ≠ .waitEvent number) :
    Follows manager manager session (session.moveTo phase) :=
  .still numbered fun _ tracked => tracked.move underway
    (fun isSettled => by rw [undecided] at isSettled; cases isSettled)
    fun number same => absurd same (awake number)

/-- A step that decides the entry under the session's identifier. -/
theorem Follows.decide {manager : IncomingRequestManager} {session : ApprovalSession}
    (numbered : Numbered manager) {phase : ApprovalPhase} (underway : phase.hasPublished = true)
    (awake : ∀ number, phase ≠ .waitEvent number) {status : IncomingRequestStatus}
    {reason : Option PyStr} (final : status ≠ .pendingApproval) :
    Follows manager (manager.decide session.request.transferId status reason).1 session
      (session.moveTo phase) := by
  obtain ⟨kept, evolves, decided⟩ :=
    @decide_settles manager numbered session.request.transferId status reason final
  refine ⟨kept, evolves, rfl, fun event tracked => ?_, fun newer => ?_⟩
  · exact ⟨tracked.known.trans_le evolves.fresh, underway, fun _ => decided event,
      fun number same => absurd same (awake number)⟩
  · rcases decide_cases manager session.request.transferId status reason with same |
      ⟨_, _, _, same⟩ <;> rw [same] at newer <;> exact absurd newer (Nat.lt_irrefl _)

/-- A session that ends where its publication, if it made one, is decided. -/
theorem Follows.finish {manager : IncomingRequestManager} {session : ApprovalSession}
    (numbered : Numbered manager) {phase : ApprovalPhase} (underway : phase.hasPublished = true)
    (awake : ∀ number, phase ≠ .waitEvent number)
    (decided : ∀ event, Tracked manager session event →
      Decided manager session.request.transferId event) :
    Follows manager manager session (session.moveTo phase) :=
  .still numbered fun event tracked => tracked.move underway (fun _ => decided event tracked)
    fun number same => absurd same (awake number)

/-- The response does not change what a session is tracked by. -/
theorem Follows.answer {manager : IncomingRequestManager} {session : ApprovalSession}
    {phase : ApprovalPhase}
    (follows : Follows manager manager session (session.moveTo phase)) (response : Option Json)
    (entered : Bool) : Follows manager manager session { session with response, phase, entered } :=
  ⟨follows.numbered, follows.evolves, rfl, fun event tracked =>
    let moved := follows.tracked event tracked
    ⟨moved.known, moved.underway, moved.settled, moved.waiting⟩,
    fun newer => absurd newer (Nat.lt_irrefl _)⟩

/-- One step of a session that survives it. -/
theorem session_step_follows {manager after : IncomingRequestManager}
    {session next : ApprovalSession} {event : Event} (numbered : Numbered manager)
    (survives : Survives session event)
    (stepped : session.step manager event = some (after, next)) :
    Follows manager after session next := by
  obtain ⟨now, answer⟩ := event
  unfold ApprovalSession.step at stepped
  -- where the session has learnt the decision, its publication stays decided
  have settles : session.phase.isSettled = true → ∀ event, Tracked manager session event →
      Decided manager session.request.transferId event :=
    fun isSettled event tracked => tracked.settled isSettled
  -- a session that has not published is tracked by nothing
  have unpublished : session.phase.hasPublished = false → ∀ event,
      Tracked manager session event → Decided manager session.request.transferId event := by
    intro before event tracked
    rw [tracked.underway] at before
    cases before
  cases stands : session.phase with
  | publish =>
      cases answer <;> simp only [stands] at stepped <;> try cases stepped
      have none := unpublished (by rw [stands]; rfl)
      split at stepped
      · next published done =>
          cases stepped
          obtain ⟨kept, evolves, fresh, newcomer⟩ := publish_numbered numbered done
          refine ⟨kept, evolves, rfl, fun event tracked => ?_, fun _ => ?_⟩
          · have before := tracked.underway
            rw [stands] at before
            cases before
          · refine ⟨⟨by omega, ?_, ?_, ?_⟩, fresh, by rw [stands]; rfl, newcomer⟩ <;>
              simp only [ApprovalSession.moveTo] <;> split
            · rfl
            · rfl
            · intro isSettled; cases isSettled
            · intro isSettled; cases isSettled
            · intro _ same; cases same
            · intro _ same; cases same
      · cases stepped
        refine .still numbered fun event tracked => ?_
        have before := tracked.underway
        rw [stands] at before
        cases before
      · cases stepped
        exact .finish numbered rfl (by simp) none
  | onRequest =>
      cases answer <;> simp only [stands] at stepped <;> try cases stepped
      · exact .ask numbered rfl rfl (by simp)
      · next error => exact absurd rfl (survives.announced error stands)
  | receiverBusy =>
      have none := unpublished (by rw [stands]; rfl)
      cases answer <;> simp only [stands] at stepped <;> try cases stepped
      · split at stepped
        · cases stepped; exact .finish numbered rfl (by simp) none
        · cases stepped
          exact (Follows.finish numbered rfl (by simp) none).answer _ session.entered
      · exact .finish numbered rfl (by simp) none
  | deadline =>
      cases answer <;> simp only [stands] at stepped <;> try cases stepped
      next before => cases before <;> exact .ask numbered rfl rfl (by simp)
  | poll =>
      cases answer <;> simp only [stands] at stepped <;> try cases stepped
      split at stepped
      · next request found =>
          split at stepped
          · next decided =>
              cases stepped
              refine .finish numbered rfl (by simp) fun event tracked entry present same => ?_
              rw [IncomingRequestManager.getRequest, present] at found
              cases found
              exact decided
          · cases stepped; exact .ask numbered rfl rfl (by simp)
      · cases stepped; exact .ask numbered rfl rfl (by simp)
  | select =>
      cases answer <;> simp only [stands] at stepped <;> try cases stepped
      · next readable => cases readable <;> exact .ask numbered rfl rfl (by simp)
      · next error => exact absurd rfl (survives.selected error stands)
  | control =>
      cases answer <;> simp only [stands] at stepped <;> try cases stepped
      · split at stepped <;> cases stepped <;> exact .ask numbered rfl rfl (by simp)
      · next error =>
          rw [if_pos (survives.controlled error stands rfl)] at stepped
          cases stepped
          exact .ask numbered rfl rfl (by simp)
  | disconnected error =>
      cases answer <;> simp only [stands] at stepped <;> try cases stepped
      exact .decide numbered rfl (by simp) (by decide)
  | invalidProtocol =>
      cases answer <;> simp only [stands] at stepped <;> try cases stepped
      exact .decide numbered rfl (by simp) (by decide)
  | cancelledByPeer =>
      cases answer <;> simp only [stands] at stepped <;> try cases stepped
      exact .decide numbered rfl (by simp) (by decide)
  | waitForDecision =>
      cases answer <;> simp only [stands] at stepped <;> try cases stepped
      split at stepped
      · next entry found =>
          cases stepped
          have unsettled : ApprovalPhase.isSettled (.waitEvent entry.event) ≠ true := by
            simp [ApprovalPhase.isSettled]
          refine .still numbered fun event tracked =>
            tracked.move rfl (fun isSettled => absurd isSettled unsettled) fun number same => ?_
          cases same
          by_cases mine : entry.event = event
          · exact .inl mine
          · refine .inr fun other present => ?_
            cases found.symm.trans present
            exact mine
      · next missing =>
          cases stepped
          refine .finish numbered rfl (by simp) fun event tracked entry present => ?_
          cases missing.symm.trans present
  | waitEvent number =>
      cases answer <;> simp only [stands] at stepped <;> try cases stepped
      split
      · next signalled =>
          refine .finish numbered rfl (by simp) fun event tracked => ?_
          rcases tracked.waiting number stands with rfl | gone
          · exact fun entry present same =>
              numbered.signalled _ entry present (same ▸ signalled)
          · exact gone.decided
      · exact .ask numbered rfl rfl (by simp)
  | expire =>
      cases answer <;> simp only [stands] at stepped <;> try cases stepped
      exact .decide numbered rfl (by simp) (by decide)
  | fetch =>
      have settled := settles (by rw [stands]; rfl)
      cases answer <;> simp only [stands] at stepped <;> try cases stepped
      split at stepped <;> cases stepped <;> exact .finish numbered rfl (by simp) settled
  | respond decided =>
      have settled := settles (by rw [stands]; rfl)
      cases answer <;> simp only [stands] at stepped <;> try cases stepped
      · split at stepped
        · cases stepped; exact .finish numbered rfl (by simp) settled
        · split at stepped <;> cases stepped
          · exact (Follows.finish numbered rfl (by simp) settled).answer _ true
          · exact (Follows.finish numbered rfl (by simp) settled).answer _ session.entered
      · exact .finish numbered rfl (by simp) settled
  | receiving =>
      have settled := settles (by rw [stands]; rfl)
      cases answer <;> simp only [stands] at stepped <;> try cases stepped
      · exact .finish numbered rfl (by simp) settled
      · exact .finish numbered rfl (by simp) settled
  | ended outcome => cases answer <;> simp only [stands] at stepped <;> cases stepped

/-! ## Runs -/

/-- No exception gets past a session whose offer is published. -/
def AllSurvive (ledger : ApprovalLedger) : ApprovalLabel → Prop
  | .session index event => ∀ session, ledger.approvals.sessions[index]? = some session →
      Survives session event
  | _ => True

structure LedgerInvariant (ledger : ApprovalLedger) : Prop where
  numbered : Numbered ledger.approvals.manager
  tracked : ∀ index event, ledger.published.get index = some event →
    ∃ session, ledger.approvals.sessions[index]? = some session ∧
      Tracked ledger.approvals.manager session event
  owned : ∀ transferId entry, ledger.approvals.manager.entries.get transferId = some entry →
    ∃ index session, ledger.published.get index = some entry.event ∧
      ledger.approvals.sessions[index]? = some session ∧ session.request.transferId = transferId

/-- A call on the manager that publishes nothing. -/
theorem LedgerInvariant.manage {ledger : ApprovalLedger} (holds : LedgerInvariant ledger)
    {approvals : Approvals} (sameSessions : approvals.sessions = ledger.approvals.sessions)
    (numbered : Numbered approvals.manager)
    (evolves : Evolves ledger.approvals.manager approvals.manager)
    (sameFresh : approvals.manager.fresh = ledger.approvals.manager.fresh) :
    LedgerInvariant ⟨approvals, ledger.published⟩ := by
  refine ⟨numbered, fun index event found => ?_, fun transferId entry found => ?_⟩
  · obtain ⟨session, present, tracked⟩ := holds.tracked index event found
    exact ⟨session, sameSessions ▸ present, tracked.mono evolves⟩
  · have below := numbered.below transferId entry found
    rcases evolves.entries transferId entry found with newer | ⟨old, stood, same, _⟩
    · omega
    · obtain ⟨index, session, published, present, named⟩ := holds.owned transferId old stood
      exact ⟨index, session, same ▸ published, sameSessions ▸ present, named⟩

theorem LedgerInvariant.decide {ledger : ApprovalLedger} (holds : LedgerInvariant ledger)
    {approvals : Approvals} (sameSessions : approvals.sessions = ledger.approvals.sessions)
    {transferId : PyStr} {status : IncomingRequestStatus} {reason : Option PyStr}
    (final : status ≠ .pendingApproval)
    (decided : approvals.manager =
      (ledger.approvals.manager.decide transferId status reason).1) :
    LedgerInvariant ⟨approvals, ledger.published⟩ := by
  obtain ⟨numbered, evolves, _⟩ :=
    @decide_settles _ holds.numbered transferId status reason final
  have sameFresh : (ledger.approvals.manager.decide transferId status reason).1.fresh =
      ledger.approvals.manager.fresh := by
    rcases decide_cases ledger.approvals.manager transferId status reason with same |
      ⟨_, _, _, same⟩ <;> rw [same]
  exact holds.manage sameSessions (decided ▸ numbered) (decided ▸ evolves) (decided ▸ sameFresh)

theorem getElem?_set_of_ne {α : Type} {items : List α} {index other : Nat} {value : α}
    (apart : other ≠ index) : (items.set index value)[other]? = items[other]? := by
  rw [List.getElem?_set, if_neg (Ne.symm apart)]

theorem ledgerStep_invariant {ledger next : ApprovalLedger} {label : ApprovalLabel}
    (holds : LedgerInvariant ledger) (survives : AllSurvive ledger label)
    (stepped : ledgerStep ledger label = some next) : LedgerInvariant next := by
  simp only [ledgerStep, bind, Option.bind_eq_some_iff] at stepped
  obtain ⟨approvals, moved, finished⟩ := stepped
  cases finished
  cases label with
  | offered offer peerDeviceId peerIp peerName receivedAt =>
      cases moved
      refine ⟨holds.numbered, fun index event found => ?_, fun transferId entry found => ?_⟩
      · obtain ⟨session, present, tracked⟩ := holds.tracked index event found
        exact ⟨session, by rw [List.getElem?_append_left (List.getElem?_eq_some_iff.mp present).1,
          present], tracked⟩
      · obtain ⟨index, session, published, present, named⟩ := holds.owned transferId entry found
        exact ⟨index, session, published, by
          rw [List.getElem?_append_left (List.getElem?_eq_some_iff.mp present).1, present], named⟩
  | session index event =>
      simp only [approvalStep, bind, Option.bind_eq_some_iff] at moved
      obtain ⟨session, found, ⟨manager, after⟩, sessionStepped, finished⟩ := moved
      cases finished
      have follows := session_step_follows holds.numbered (survives session found) sessionStepped
      have inside := (List.getElem?_eq_some_iff.mp found).1
      -- what the ledger said before is still so
      have earlier : ∀ other event, ledger.published.get other = some event →
          ∃ session, (ledger.approvals.sessions.set index after)[other]? = some session ∧
            Tracked manager session event := by
        intro other event published
        obtain ⟨stood, present, tracked⟩ := holds.tracked other event published
        by_cases here : other = index
        · subst here
          cases found.symm.trans present
          exact ⟨after, by simp [inside], follows.tracked event tracked⟩
        · exact ⟨stood, by rw [getElem?_set_of_ne here, present], tracked.mono follows.evolves⟩
      have owners : ∀ transferId entry, ledger.approvals.manager.entries.get transferId =
          some entry → ∃ other owner, ledger.published.get other = some entry.event ∧
            (ledger.approvals.sessions.set index after)[other]? = some owner ∧
            owner.request.transferId = transferId := by
        intro transferId entry stood
        obtain ⟨other, owner, published, present, named⟩ := holds.owned transferId entry stood
        by_cases here : other = index
        · subst here
          cases found.symm.trans present
          exact ⟨other, after, published, by simp [inside], follows.request ▸ named⟩
        · exact ⟨other, owner, published, by rw [getElem?_set_of_ne here, present], named⟩
      by_cases newer : ledger.approvals.manager.fresh < manager.fresh
      · obtain ⟨tracked, fresh, unpublished, newcomer⟩ := follows.published newer
        have unlisted : ledger.published.get index = none := by
          cases listed : ledger.published.get index with
          | none => rfl
          | some event =>
              obtain ⟨stood, present, trackedBefore⟩ := holds.tracked index event listed
              cases found.symm.trans present
              rw [trackedBefore.underway] at unpublished
              cases unpublished
        simp only [newer, ↓reduceIte]
        refine ⟨follows.numbered, fun other event published => ?_, fun transferId entry present => ?_⟩
        · rw [Dict.get_set] at published
          split at published
          · next here =>
              cases published
              exact ⟨after, by simp [here, inside], tracked⟩
          · exact earlier other event published
        · rcases follows.evolves.entries transferId entry present with later | ⟨old, stood, same, _⟩
          · have below := follows.numbered.below transferId entry present
            have event : entry.event = ledger.approvals.manager.fresh := by omega
            refine ⟨index, after, by rw [event, Dict.get_set_self], by simp [inside], ?_⟩
            rw [newcomer transferId entry present event, follows.request]
          · obtain ⟨other, owner, published, standing, named⟩ := owners transferId old stood
            have apart : other ≠ index := by
              rintro rfl
              rw [unlisted] at published
              cases published
            exact ⟨other, owner, by rw [Dict.get_set_ne apart, published, same], standing, named⟩
      · simp only [newer, ↓reduceIte]
        refine ⟨follows.numbered, earlier, fun transferId entry present => ?_⟩
        rcases follows.evolves.entries transferId entry present with later | ⟨old, stood, same, _⟩
        · have below := follows.numbered.below transferId entry present
          omega
        · exact same ▸ owners transferId old stood
  | accept transferId => cases moved; exact holds.decide rfl (by decide) rfl
  | reject transferId reason => cases moved; exact holds.decide rfl (by decide) rfl
  | cancel transferId reason => cases moved; exact holds.decide rfl (by decide) rfl
  | cancelAll reason => cases moved; exact ⟨holds.numbered, holds.tracked, holds.owned⟩
  | cancelNext index =>
      simp only [approvalStep, bind, Option.bind_eq_some_iff] at moved
      obtain ⟨⟨transferId, reason⟩, _, finished⟩ := moved
      cases finished
      exact holds.decide rfl (by decide) rfl
  | prune cutoff =>
      cases moved
      obtain ⟨numbered, evolves⟩ := prune_numbered holds.numbered cutoff
      exact holds.manage rfl numbered evolves rfl

theorem start_ledger (maxPending : Nat) : LedgerInvariant (.start maxPending) := by
  refine ⟨⟨?_, ?_, ?_, ?_⟩, ?_, ?_⟩ <;>
    simp [ApprovalLedger.start, Approvals.start, IncomingRequestManager.empty]

/-- In every run in which `on_request` raises nothing and no exception gets past the
handlers of a waiting session, the entry a session published is decided once the session has ended:
every undecided entry is owned by a session that is still under way. -/
theorem ended_session_decided {maxPending : Nat} {labels : List ApprovalLabel}
    {ledger : ApprovalLedger} (run : Run ledgerStep AllSurvive (.start maxPending) labels ledger) :
    (∀ index session event outcome, ledger.published.get index = some event →
      ledger.approvals.sessions[index]? = some session → session.phase = .ended outcome →
      Decided ledger.approvals.manager session.request.transferId event) ∧
    ∀ transferId entry, ledger.approvals.manager.entries.get transferId = some entry →
      entry.request.status = .pendingApproval →
      ∃ index session, ledger.published.get index = some entry.event ∧
        ledger.approvals.sessions[index]? = some session ∧
        session.request.transferId = transferId ∧ ∀ outcome, session.phase ≠ .ended outcome := by
  have holds : LedgerInvariant ledger :=
    run.invariant (fun _ _ _ holds survives stepped => ledgerStep_invariant holds survives stepped)
      (start_ledger maxPending)
  have ended : ∀ index session event outcome, ledger.published.get index = some event →
      ledger.approvals.sessions[index]? = some session → session.phase = .ended outcome →
      Decided ledger.approvals.manager session.request.transferId event := by
    intro index session event outcome published present stands
    obtain ⟨stood, found, tracked⟩ := holds.tracked index event published
    cases present.symm.trans found
    exact tracked.settled (by rw [stands]; rfl)
  refine ⟨ended, fun transferId entry found pending => ?_⟩
  obtain ⟨index, session, published, present, named⟩ := holds.owned transferId entry found
  refine ⟨index, session, published, present, named, fun outcome stands => ?_⟩
  exact ended index session entry.event outcome published present stands entry
    (named ▸ found) rfl pending

/-- A peer offers a note, and answers the wait for a decision with a frame. -/
def interruptedNote (answer : Answer) : List ApprovalLabel :=
  [.offered (namedOffer "note.txt") (py "mp-00000001") (py "10.0.0.1") none 1,
    .session 0 ⟨1, .done⟩, .session 0 ⟨1, .done⟩, .session 0 ⟨1, .flag true⟩,
    .session 0 ⟨1, .done⟩, .session 0 ⟨1, .flag true⟩, .session 0 ⟨1, answer⟩]

def hungUp : Answer := .raised (raised .osError "Connection closed while reading frame length")

/-- The peer hangs up: the session cancels its request and ends. -/
def abandonedNote : List ApprovalLabel := interruptedNote hungUp ++ [.session 0 ⟨1, .done⟩]

/-- A check that no exception gets past a session whose offer is published. -/
def survives (ledger : ApprovalLedger) : ApprovalLabel → Bool
  | .session index event => match ledger.approvals.sessions[index]?.map ApprovalSession.phase,
      event.answer with
    | some .onRequest, .raised _ | some .select, .raised _ => false
    | some .control, .raised error => error.kind.isOSError
    | _, _ => true
  | _ => true

theorem allSurvive_of_survives {ledger : ApprovalLedger} {label : ApprovalLabel}
    (checked : survives ledger label = true) : AllSurvive ledger label := by
  cases label with
  | session index event =>
      intro session present
      obtain ⟨now, answer⟩ := event
      constructor
      · rintro error stands rfl
        simp [survives, present, stands] at checked
      · rintro error stands rfl
        simp [survives, present, stands] at checked
      · rintro error stands rfl
        simpa [survives, present, stands] using checked
  | _ => trivial

theorem abandoned_note_decided :
    ∃ ledger, Run ledgerStep AllSurvive (.start 32) abandonedNote ledger ∧
      ledger.published.get 0 = some 0 ∧
      Decided ledger.approvals.manager (namedOffer "note.txt").transferId 0 := by
  have shape : ((runLabels (fun ledger label =>
      if survives ledger label then ledgerStep ledger label else none) (.start 32)
        abandonedNote).map fun ledger =>
      (ledger.published.get 0, ledger.approvals.sessions.map fun session =>
        (session.request.transferId, match session.phase with | .ended _ => true | _ => false))) =
      some (some 0, [((namedOffer "note.txt").transferId, true)]) := by decide
  obtain ⟨ledger, executed, facts⟩ := Option.map_eq_some_iff.mp shape
  obtain ⟨published, sessions⟩ := Prod.mk.inj facts
  obtain ⟨session, only, named⟩ := List.map_eq_singleton_iff.mp sessions
  obtain ⟨transferId, stands⟩ := Prod.mk.inj named
  have run : Run ledgerStep AllSurvive (.start 32) abandonedNote ledger :=
    run_of_checked (fun _ _ checked => allSurvive_of_survives checked) executed
  refine ⟨ledger, run, published, ?_⟩
  cases phase : session.phase with
  | ended outcome =>
      exact transferId ▸ (ended_session_decided run).1 0 session 0 outcome published
        (by rw [only]; rfl) phase
  | _ => simp [phase] at stands

/-- A run that ends its only session with its request pending. -/
theorem pending_refutes {labels : List ApprovalLabel} {transferId : PyStr}
    (shape : ((runLabels ledgerStep (.start 32) labels).map fun ledger =>
      (ledger.published.get 0, ledger.approvals.sessions.map fun session =>
        (session.request.transferId, match session.phase with | .ended _ => true | _ => false),
        (ledger.approvals.manager.entries.get transferId).map fun entry =>
          (entry.event, entry.request.status))) =
      some (some 0, [(transferId, true)], some (0, .pendingApproval))) :
    ¬ ∀ (maxPending : Nat) (labels : List ApprovalLabel) (ledger : ApprovalLedger),
      Run ledgerStep anyStep (.start maxPending) labels ledger →
      ∀ index session event outcome, ledger.published.get index = some event →
        ledger.approvals.sessions[index]? = some session → session.phase = .ended outcome →
        Decided ledger.approvals.manager session.request.transferId event := by
  intro always
  obtain ⟨ledger, executed, facts⟩ := Option.map_eq_some_iff.mp shape
  obtain ⟨published, rest⟩ := Prod.mk.inj facts
  obtain ⟨sessions, entries⟩ := Prod.mk.inj rest
  obtain ⟨session, only, named⟩ := List.map_eq_singleton_iff.mp sessions
  obtain ⟨named, stands⟩ := Prod.mk.inj named
  obtain ⟨entry, found, pending⟩ := Option.map_eq_some_iff.mp entries
  obtain ⟨event, status⟩ := Prod.mk.inj pending
  cases phase : session.phase with
  | ended outcome =>
      exact always 32 _ ledger (run_of_runLabels executed) 0 session 0 outcome published
        (by rw [only]; rfl) phase entry (named ▸ found) event status
  | _ => simp [phase] at stands

/-- A length prefix above the limit, or a reading of the clock past the deadline
between the loop's test and `select`, ends the session with its request pending. -/
theorem oversized_frame_leaves_request_pending :
    ¬ ∀ (maxPending : Nat) (labels : List ApprovalLabel) (ledger : ApprovalLedger),
      Run ledgerStep anyStep (.start maxPending) labels ledger →
      ∀ index session event outcome, ledger.published.get index = some event →
        ledger.approvals.sessions[index]? = some session → session.phase = .ended outcome →
        Decided ledger.approvals.manager session.request.transferId event := by
  let answer := controlAnswer ⟨quotientFloats, fun _ => none, paddedAead⟩ (List.replicate 32 0)
    [255, 255, 255, 255]
  exact @pending_refutes (interruptedNote answer) (namedOffer "note.txt").transferId (by decide)

/-- An offer that is accepted as valid and whose message SQLite does not take. -/
def loneSurrogate : TransferOffer := { namedOffer "note.txt" with message := some [codePoint 0xD800] }

/-- The callback for that offer raises, and ends the session with its request pending. -/
theorem surrogate_message_leaves_request_pending :
    validateOffer asciiPlatform (offerFrame loneSurrogate.transferId loneSurrogate.files
      loneSurrogate.message) = .ok loneSurrogate ∧
    ¬ ∀ (maxPending : Nat) (labels : List ApprovalLabel) (ledger : ApprovalLedger),
      Run ledgerStep anyStep (.start maxPending) labels ledger →
      ∀ index session event outcome, ledger.published.get index = some event →
        ledger.approvals.sessions[index]? = some session → session.phase = .ended outcome →
        Decided ledger.approvals.manager session.request.transferId event := by
  refine ⟨by decide +kernel, ?_⟩
  let answer := requestAnswer true
    (incomingRequest loneSurrogate (py "mp-00000001") (py "10.0.0.1") none 1)
  exact @pending_refutes
    [.offered loneSurrogate (py "mp-00000001") (py "10.0.0.1") none 1, .session 0 ⟨1, .done⟩,
      .session 0 ⟨1, answer⟩] loneSurrogate.transferId (by decide)

end DirectTransfer
