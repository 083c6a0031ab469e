import DirectTransfer.Core.Receiver
import DirectTransfer.Core.ProtocolProperties
import DirectTransfer.Library.Transition

/-! How receiving sessions end: with the exception that made them end, and with
every record they worked on settled and notified, as long as no handler is asked
for a transition its record does not permit. -/

set_option autoImplicit false

namespace DirectTransfer

open Library

/-- The statuses a session may leave a record with. -/
def TransferStatus.Settled (status : TransferStatus) : Prop :=
  isTerminal status = true ∨ status = .interrupted

/-! ## What happens to the records -/

/-- A step changes statuses only to settled ones, or of the record it holds, and
never changes a terminal one. -/
structure Effect (registry next : Registry) (held : Option Nat) : Prop where
  changed : ∀ (record : Nat) (info : TransferInfo), next.transfers[record]? = some info →
    (∃ old, registry.transfers[record]? = some old ∧ old.status = info.status) ∨
      info.status.Settled ∨ held = some record
  terminal : ∀ (record : Nat) (info : TransferInfo), registry.transfers[record]? = some info →
    isTerminal info.status = true →
      ∃ new, next.transfers[record]? = some new ∧ new.status = info.status
  grows : registry.transfers.length ≤ next.transfers.length

section Effects

variable {registry next : Registry} {held : Option Nat} {record : Nat}

theorem Effect.refl : Effect registry registry held where
  changed _ info found := .inl ⟨info, found, rfl⟩
  terminal _ info found _ := ⟨info, found, rfl⟩
  grows := Nat.le_refl _

theorem Effect.trans {middle : Registry} (first : Effect registry middle held)
    (second : Effect middle next held) : Effect registry next held where
  changed record info found := by
    rcases second.changed record info found with ⟨old, was, same⟩ | settled
    · rcases first.changed record old was with ⟨older, before, sameOlder⟩ | settled
      · exact .inl ⟨older, before, sameOlder.trans same⟩
      · exact .inr (settled.imp (same ▸ ·) id)
    · exact .inr settled
  terminal record info found terminal := by
    obtain ⟨new, middleFound, same⟩ := first.terminal record info found terminal
    obtain ⟨newer, nextFound, again⟩ := second.terminal record new middleFound (same ▸ terminal)
    exact ⟨newer, nextFound, again.trans same⟩
  grows := first.grows.trans second.grows

/-- Replacing one record by one with a status it reaches. -/
theorem effect_set {info new : TransferInfo} (found : registry.transfers[record]? = some info)
    (kept : isTerminal info.status = true → new.status = info.status)
    (allowed : new.status = info.status ∨ new.status.Settled ∨ held = some record) :
    Effect registry (registry.set record new) held := by
  have bound := (List.getElem?_eq_some_iff.mp found).1
  have here : (registry.set record new).transfers[record]? = some new :=
    List.getElem?_set_self bound
  have elsewhere {other : Nat} (different : other ≠ record) :
      (registry.set record new).transfers[other]? = registry.transfers[other]? :=
    List.getElem?_set_ne (Ne.symm different)
  constructor
  · intro other changed otherFound
    by_cases same : other = record
    · cases same
      cases here.symm.trans otherFound
      rcases allowed with unchanged | rest
      · exact .inl ⟨info, found, unchanged.symm⟩
      · exact .inr rest
    · rw [elsewhere same] at otherFound
      exact .inl ⟨changed, otherFound, rfl⟩
  · intro other old otherFound terminal
    by_cases same : other = record
    · cases same
      cases found.symm.trans otherFound
      exact ⟨new, here, kept terminal⟩
    · exact ⟨old, (elsewhere same).trans otherFound, rfl⟩
  · simp [Registry.set]

theorem effect_update {change : TransferInfo → TransferInfo}
    (kept : ∀ info, (change info).status = info.status) :
    Effect registry (registry.update record change) held := by
  unfold Registry.update
  split
  · next info found => exact effect_set found (fun _ => kept info) (.inl (kept info))
  · exact .refl

theorem effect_setStatus {status : TransferStatus} {error : Option PyStr} {now : Time}
    (moved : registry.setStatus record status error now = .ok next)
    (allowed : status.Settled ∨ held = some record) : Effect registry next held := by
  unfold Registry.setStatus at moved
  split at moved
  · cases moved
    exact .refl
  · next info found =>
      split at moved
      · cases moved
      · next new transitioned =>
          cases moved
          obtain ⟨reaches, rfl⟩ := transition_cases transitioned
          refine effect_set found (fun terminal => ?_) ?_
          · rw [TransferInfo.moved_status]
            exact reaches_terminal terminal reaches
          · rw [TransferInfo.moved_status]
            exact .inr allowed

theorem resumeRecord_terminal {info resumed : TransferInfo} {sha256 : PyStr} {offset : Nat}
    {now : Time} (ok : resumeRecord info sha256 offset now = .ok resumed)
    (terminal : isTerminal info.status = true) : resumed.status = info.status := by
  simp only [resumeRecord, terminal, ↓reduceIte, bind, Except.bind, pure, Except.pure] at ok
  cases ok
  rfl

/-- The record of a file is there, and held by the session that asked for it. -/
theorem getOrCreate_effect {origin : Origin} {offered : IncomingFile} {offset : Nat} {now : Time}
    (ok : getOrCreate registry origin offered offset now = .ok (next, record)) :
    Effect registry next (some record) ∧ record < next.transfers.length := by
  unfold getOrCreate at ok
  dsimp only at ok
  split at ok
  · cases ok
    refine ⟨⟨fun other info found => ?_, fun other info found _ => ⟨info, ?_, rfl⟩, ?_⟩, ?_⟩
    · by_cases same : other = registry.transfers.length
      · exact .inr (.inr (congrArg some same.symm))
      · refine .inl ⟨info, ?_, rfl⟩
        rw [Registry.append, List.getElem?_append] at found
        split at found
        · exact found
        · rw [List.getElem?_singleton] at found
          split at found
          · omega
          · cases found
    · rw [Registry.append, List.getElem?_append_left (List.getElem?_eq_some_iff.mp found).1, found]
    · simp [Registry.append]
    · simp [Registry.append]
  · next known found =>
      have bound := registry.indexed _ _ found
      split at ok
      · cases ok
      · next resumed resumedOk =>
          cases ok
          refine ⟨effect_set (List.getElem?_eq_getElem bound) (resumeRecord_terminal resumedOk)
            (.inr (.inr rfl)), ?_⟩
          simpa [Registry.set] using bound

end Effects

namespace ReceiveSession

/-- The record a session is working on. -/
def holds (session : ReceiveSession) : Option Nat := session.block?.map FileBlock.record

/-! ## What is raised inside a block -/

def errorOf {α : Type} : Except Raised α → Option Raised
  | .ok _ => none
  | .error error => some error

/-- The exception of a transition a record does not permit. -/
def stuck (registry : Registry) (record : Nat) (status : TransferStatus) : Option Raised :=
  match registry.transfers[record]? with
  | some info =>
      if Reaches info.status status then none
      else some ⟨.invalidTransferTransition, info.status.value ++ py " -> " ++ status.value⟩
  | none => none

/-- What the call inside a block raises, or the check of its answer, or the transition
that follows; from the records before the step and the answer alone. -/
def raises? (registry : Registry) (session : ReceiveSession) (event : ReceiveEvent) :
    Option Raised :=
  match session.phase, event.answer with
  | .created block, .done =>
      if ((block.states.get block.offered.fileId).bind ResumeFileState.finalPath).isSome then none
      else stuck registry block.record .active
  | .inside _ _, .raised error => some error
  | .inside block (.chunk index), .control payload =>
      errorOf (checkChunk registry session block index payload)
  | .inside _ (.chunkData _ declared), .octets raw =>
      if raw.length ≠ declared then some (raised .protocolError "Chunk length mismatch") else none
  | .inside block .fileEnd, .control payload => errorOf (expectFileEnd session block payload)
  | .inside _ .hashMismatch, .done => some (raised .protocolError "SHA-256 verification failed")
  | .inside block (.markCompleted _), .done => stuck registry block.record .complete
  | .inside block (.knownEnd _), .control payload =>
      (errorOf (expectFileEnd session block payload)).or (stuck registry block.record .complete)
  | _, _ => none

/-- The handlers of the block are only asked for transitions the record permits. -/
def HandlersPermit (registry : Registry) (session : ReceiveSession) (event : ReceiveEvent) : Prop :=
  ∀ block error status message info, session.block? = some block →
    raises? registry session event = some error → handlerStatus error = some (status, message) →
    registry.transfers[block.record]? = some info → Reaches info.status status

section Raising

variable {registry next : Registry} {session after : ReceiveSession} {event : ReceiveEvent}
  {block : FileBlock} {error : Raised}

/-- The same statuses, whatever else of the records has changed. -/
def SameStatuses (registry next : Registry) : Prop :=
  next.transfers.map TransferInfo.status = registry.transfers.map TransferInfo.status

theorem sameStatuses_update {record : Nat} {change : TransferInfo → TransferInfo}
    (kept : ∀ info, (change info).status = info.status) :
    SameStatuses registry (registry.update record change) := by
  unfold SameStatuses Registry.update
  split
  · next info found =>
      simp only [Registry.set, List.map_set, kept]
      obtain ⟨bound, rfl⟩ := List.getElem?_eq_some_iff.mp found
      rw [← List.map_set, List.set_getElem_self bound]
  · rfl

theorem SameStatuses.find (same : SameStatuses registry next) {record : Nat} {info : TransferInfo}
    (found : next.transfers[record]? = some info) :
    ∃ old, registry.transfers[record]? = some old ∧ old.status = info.status := by
  have statuses := congrArg (fun all => all[record]?) same
  simp only [List.getElem?_map, found, Option.map_some] at statuses
  exact Option.map_eq_some_iff.mp statuses.symm

theorem setStatus_error {record : Nat} {status : TransferStatus} {message : Option PyStr}
    {now : Time} (failed : registry.setStatus record status message now = .error error) :
    stuck registry record status = some error := by
  unfold Registry.setStatus at failed
  unfold stuck
  split at failed
  · cases failed
  · next info found =>
      rw [found]
      split at failed
      · next transitionError transitioned =>
          cases failed
          by_cases reaches : Reaches info.status status
          · rw [transition_ok reaches] at transitioned
            cases transitioned
          · rw [transition_error reaches] at transitioned
            cases transitioned
            simp [reaches]
      · cases failed

theorem stuck_congr {record : Nat} {status : TransferStatus} (same : SameStatuses registry next) :
    stuck next record status = stuck registry record status := by
  have statuses := congrArg (fun all => all[record]?) same
  simp only [List.getElem?_map] at statuses
  unfold stuck
  cases before : registry.transfers[record]? with
  | none => rw [before] at statuses; simp [Option.map_eq_none_iff.mp statuses]
  | some info =>
      rw [before] at statuses
      obtain ⟨new, found, equal⟩ := Option.map_eq_some_iff.mp statuses
      simp [found, equal]

theorem session_setStatus_error {record : Nat} {status : TransferStatus} {message : Option PyStr}
    {now : Time} (failed : setStatus registry session record status message now = .error error) :
    stuck registry record status = some error := by
  unfold setStatus at failed
  split at failed
  · next other => cases failed; exact setStatus_error other
  · cases failed

/-- The exceptions that have a handler. -/
def Handled (error : Raised) : Prop :=
  error.kind.isCallFailure = true ∨ error.kind = .transferCancelled ∨
    error.kind = .invalidTransferTransition

theorem handlerStatus_handled (handled : Handled error) :
    ∃ status message, handlerStatus error = some (status, message) := by
  obtain ⟨kind, text⟩ := error
  rcases handled with failure | cancelled | stuck
  · cases kind <;> first | exact ⟨_, _, rfl⟩ | cases failure
  · cases cancelled; exact ⟨_, _, rfl⟩
  · cases stuck; exact ⟨_, _, rfl⟩

theorem handlerStatus_settled {status : TransferStatus} {message : PyStr}
    (handled : handlerStatus error = some (status, message)) : status.Settled := by
  unfold handlerStatus at handled
  repeat' split at handled
  all_goals cases handled
  all_goals simp [TransferStatus.Settled]

theorem handled_stuck {record : Nat} {status : TransferStatus}
    (found : stuck registry record status = some error) : Handled error := by
  unfold stuck at found
  repeat' split at found
  all_goals cases found
  exact .inr (.inr rfl)

theorem validateChunkControl_error {payload : Json} {transferId fileId : PyStr}
    {index offset remaining : Nat}
    (failed : validateChunkControl payload transferId fileId index offset remaining =
      .error error) : error.kind = .protocolError := by
  unfold validateChunkControl at failed
  simp only [bind, Except.bind, pure, Except.pure, throw, throwThe, MonadExceptOf.throw] at failed
  repeat' split at failed
  all_goals cases failed
  all_goals first | rfl | exact validateTransferId_error ‹_›

theorem handled_checkChunk {index : Nat} {payload : Json}
    (failed : checkChunk registry session block index payload = .error error) : Handled error := by
  unfold checkChunk at failed
  repeat' split at failed
  · cases failed; exact .inl rfl
  · cases failed; exact .inr (.inl rfl)
  · cases failed; exact .inl rfl
  · exact .inl (by rw [validateChunkControl_error failed]; rfl)

theorem handled_expectFileEnd {payload : Json}
    (failed : expectFileEnd session block payload = .error error) : Handled error := by
  unfold expectFileEnd at failed
  split at failed
  · cases failed
  · cases failed; exact .inl rfl

theorem verified_error {finalPath : FinalPath} {now : Time}
    (failed : verified registry session block finalPath now = (next, .error error)) :
    SameStatuses registry next ∧ stuck registry block.record .complete = some error := by
  unfold verified at failed
  dsimp only at failed
  split at failed
  · next raised refused =>
      cases failed
      have same : SameStatuses registry (registry.update block.record fun info => { info with
          bytesTransferred := block.offered.size, finalPath := some finalPath.text }) :=
        sameStatuses_update fun _ => rfl
      exact ⟨same, (stuck_congr same).symm.trans (session_setStatus_error refused)⟩
  · cases failed

/-- A call inside a block that fails, fails as `raises?` says, with the statuses unchanged. -/
theorem advanceInside_error {call : BlockCall} (standing : session.phase = .inside block call)
    (advanced : advanceInside registry session block call event = some (next, .error error)) :
    SameStatuses registry next ∧ raises? registry session event = some error ∧ Handled error := by
  obtain ⟨now, answer⟩ := event
  -- what an exception of the call itself leads to, whichever call it is
  have propagated {failure : Raised} (raising : answer = .raised failure)
      (left : (if failure.kind.isCallFailure = true then some (registry, .error failure) else none) =
        some (next, (.error error : Except Raised ReceiveSession))) :
      SameStatuses registry next ∧ raises? registry session ⟨now, answer⟩ = some error ∧
        Handled error := by
    split at left
    · next handled =>
        cases left
        exact ⟨rfl, by simp only [raises?, standing, raising], .inl handled⟩
    · cases left
  unfold advanceInside at advanced
  cases call with
  | progress index | completed => cases answer <;> cases advanced
  | openPartial =>
      cases answer with
      | raised failure => exact propagated rfl advanced
      | done => dsimp only at advanced; split at advanced <;> cases advanced
      | _ => cases advanced
  | chunk index =>
      cases answer with
      | raised failure => exact propagated rfl advanced
      | control payload =>
          dsimp only at advanced
          split at advanced
          · next refused =>
              cases advanced
              exact ⟨rfl, by simp only [raises?, standing, refused, errorOf], handled_checkChunk refused⟩
          · cases advanced
      | _ => cases advanced
  | chunkData index declared =>
      cases answer with
      | raised failure => exact propagated rfl advanced
      | octets raw =>
          dsimp only at advanced
          split at advanced
          · next mismatch =>
              cases advanced
              exact ⟨rfl, by simp only [raises?, standing]; exact if_pos mismatch, .inl rfl⟩
          · cases advanced
      | _ => cases advanced
  | fileEnd =>
      cases answer with
      | raised failure => exact propagated rfl advanced
      | control payload =>
          dsimp only at advanced
          split at advanced
          · next refused =>
              cases advanced
              exact ⟨rfl, by simp only [raises?, standing, refused, errorOf],
                handled_expectFileEnd refused⟩
          · cases advanced
      | _ => cases advanced
  | hashMismatch =>
      cases answer with
      | raised failure => exact propagated rfl advanced
      | done => cases advanced; exact ⟨rfl, by simp only [raises?, standing], .inl rfl⟩
      | _ => cases advanced
  | markCompleted finalPath =>
      cases answer with
      | raised failure => exact propagated rfl advanced
      | done =>
          obtain ⟨same, refused⟩ := verified_error (Option.some.inj advanced)
          exact ⟨same, by simp only [raises?, standing, refused], handled_stuck refused⟩
      | _ => cases advanced
  | knownEnd finalPath =>
      cases answer with
      | raised failure => exact propagated rfl advanced
      | control payload =>
          dsimp only at advanced
          split at advanced
          · next refused =>
              cases advanced
              exact ⟨rfl, by simp only [raises?, standing, refused, errorOf, Option.some_or],
                handled_expectFileEnd refused⟩
          · next accepted =>
              obtain ⟨same, refused⟩ := verified_error (Option.some.inj advanced)
              exact ⟨same, by simp only [raises?, standing, accepted, errorOf, refused, Option.none_or],
                handled_stuck refused⟩
      | _ => cases advanced
  | write index raw | hash | commit | sendResult finalPath =>
      cases answer with
      | raised failure => exact propagated rfl advanced
      | _ => cases advanced

/-- An exception in a block is the one `raises?` says, and has a handler. -/
theorem advance_error (advanced : session.advance registry event = some (next, .error error)) :
    SameStatuses registry next ∧ ∀ block, session.block? = some block →
      raises? registry session event = some error ∧ Handled error := by
  obtain ⟨origin, phase, touched, unnotified, failure⟩ := session
  obtain ⟨now, answer⟩ := event
  cases phase with
  | inside block call =>
      obtain ⟨same, raises, handled⟩ := advanceInside_error rfl advanced
      exact ⟨same, fun _ _ => ⟨raises, handled⟩⟩
  | created block =>
      cases answer with
      | done =>
          have entered := Option.some.inj advanced
          unfold enterBlock at entered
          split at entered
          · cases entered
          · next unknown =>
              split at entered
              · next refused =>
                  cases entered
                  have stands := session_setStatus_error refused
                  exact ⟨rfl, fun _ _ => ⟨by simp [raises?, unknown, stands], handled_stuck stands⟩⟩
              · cases entered
      | _ => cases advanced
  | fileStart states file =>
      refine ⟨?_, fun _ none => nomatch none⟩
      cases answer with
      | control payload =>
          have begun := Option.some.inj advanced
          unfold beginFile at begun
          repeat' split at begun
          all_goals cases begun
          all_goals rfl
      | raised failure =>
          simp only [advance] at advanced
          split at advanced <;> cases advanced
          rfl
      | _ => cases advanced
  | _ =>
      refine ⟨?_, fun _ none => nomatch none⟩
      cases answer with
      | raised failure =>
          first
            | cases advanced
            | simp only [advance] at advanced
              split at advanced <;> cases advanced
              rfl
      | _ =>
          first
            | cases advanced
            | simp only [advance] at advanced
              split at advanced <;> cases advanced <;> rfl

end Raising

/-! ## What a session keeps -/

/-- The outcome is the exception that was raised; a cancelled file ends the session quietly. -/
def Faithful (failure : Option Raised) (outcome : Except Raised Unit) : Prop :=
  match outcome with
  | .error error => failure = some error
  | .ok () => ∀ error, failure = some error → error.kind = .transferCancelled

/-- A call after the last change of its file's status. -/
def isLast : BlockCall → Bool
  | .sendResult _ | .completed => true
  | _ => false

/-- What a session relies on at each of its calls. -/
def Sound (registry : Registry) (session : ReceiveSession) : Prop :=
  (∀ record ∈ session.touched, record < registry.transfers.length) ∧
  match session.phase with
  | .created block => block.record < registry.transfers.length ∧ session.failure = none
  | .inside block call =>
      block.record < registry.transfers.length ∧ session.failure = none ∧
        (isLast call = true → registry.hasStatus block.record .complete = true)
  | .settling _ outcome => ∃ error, session.failure = some error ∧ outcome = settledOutcome error
  | .ended outcome => session.unnotified = [] ∧ Faithful session.failure outcome
  | _ => session.unnotified = [] ∧ session.failure = none

/-- A step keeps to its own record, lets go of it only when it is settled, and stays sound. -/
structure Progresses (registry next : Registry) (session after : ReceiveSession) : Prop where
  effect : Effect registry next after.holds
  released : ∀ record, session.holds = some record → after.holds = some record ∨
    ∀ info, next.transfers[record]? = some info → info.status.Settled
  sound : Sound next after

section Progress

variable {registry middle next : Registry} {session after : ReceiveSession}
  {event : ReceiveEvent} {block : FileBlock} {error : Raised}

theorem hasStatus_iff {record : Nat} {status : TransferStatus} :
    registry.hasStatus record status = true ↔
      ∃ info, registry.transfers[record]? = some info ∧ info.status = status := by
  unfold Registry.hasStatus
  cases registry.transfers[record]? <;> simp

theorem hasStatus_effect {held : Option Nat} {record : Nat} {status : TransferStatus}
    (effect : Effect registry next held) (terminal : isTerminal status = true)
    (found : registry.hasStatus record status = true) : next.hasStatus record status = true := by
  obtain ⟨info, there, rfl⟩ := hasStatus_iff.mp found
  exact hasStatus_iff.mpr (effect.terminal record info there terminal)

/-- The steps of others leave a session sound. -/
theorem Sound.effect {held : Option Nat} (sound : Sound registry session)
    (effect : Effect registry next held) : Sound next session := by
  obtain ⟨touched, phase⟩ := sound
  refine ⟨fun record member => Nat.lt_of_lt_of_le (touched record member) effect.grows, ?_⟩
  cases standing : session.phase with
  | created block =>
      rw [standing] at phase
      exact ⟨Nat.lt_of_lt_of_le phase.1 effect.grows, phase.2⟩
  | inside block call =>
      rw [standing] at phase
      obtain ⟨bound, unfailed, complete⟩ := phase
      exact ⟨Nat.lt_of_lt_of_le bound effect.grows, unfailed,
        fun last => hasStatus_effect effect rfl (complete last)⟩
  | _ => rw [standing] at phase; exact phase

/-- Going on inside the same block. -/
theorem progresses_inside {call : BlockCall} {unnotified : List Nat}
    (touched : ∀ record ∈ session.touched, record < registry.transfers.length)
    (bound : block.record < registry.transfers.length) (unfailed : session.failure = none)
    (holds : session.holds = some block.record) (effect : Effect registry next (some block.record))
    (complete : isLast call = true → next.hasStatus block.record .complete = true) :
    Progresses registry next session { session with phase := .inside block call, unnotified } where
  effect := effect
  released _ held := .inl (holds.symm.trans held)
  sound := ⟨fun record member => Nat.lt_of_lt_of_le (touched record member) effect.grows,
    Nat.lt_of_lt_of_le bound effect.grows, unfailed, complete⟩

theorem progresses_chunkLoop {index : Nat} {unnotified : List Nat}
    (touched : ∀ record ∈ session.touched, record < registry.transfers.length)
    (bound : block.record < registry.transfers.length) (unfailed : session.failure = none)
    (holds : session.holds = some block.record) :
    Progresses registry registry session
      (chunkLoop registry { session with unnotified } block index) := by
  unfold chunkLoop
  split
  · split
    · exact progresses_inside touched bound unfailed holds .refl (nomatch ·)
    · exact progresses_inside touched bound unfailed holds .refl (nomatch ·)
  · exact progresses_inside touched bound unfailed holds .refl (nomatch ·)

/-- Between two blocks a session has nothing left to notify. -/
theorem sound_nextFile {states : Dict PyStr ResumeFileState} {file : Nat}
    (touched : ∀ record ∈ session.touched, record < registry.transfers.length)
    (notified : session.unnotified = []) (unfailed : session.failure = none) :
    Sound registry (session.nextFile states file) ∧ (session.nextFile states file).holds = none := by
  unfold nextFile
  split
  · exact ⟨⟨touched, notified, unfailed⟩, rfl⟩
  · exact ⟨⟨touched, notified, unfailed⟩, rfl⟩

theorem session_setStatus_ok {record : Nat} {status : TransferStatus} {message : Option PyStr}
    {now : Time} (moved : setStatus registry session record status message now = .ok (next, after)) :
    registry.setStatus record status message now = .ok next ∧
      ∃ unnotified, after = { session with unnotified } := by
  unfold setStatus at moved
  split at moved
  · cases moved
  · next registryMoved =>
      cases moved
      refine ⟨registryMoved, ?_⟩
      split
      · exact ⟨session.unnotified, rfl⟩
      · exact ⟨_, rfl⟩

theorem setStatus_hasStatus {record : Nat} {status : TransferStatus} {message : Option PyStr}
    {now : Time} (bound : record < registry.transfers.length)
    (moved : registry.setStatus record status message now = .ok next) :
    next.hasStatus record status = true := by
  unfold Registry.setStatus at moved
  rw [List.getElem?_eq_getElem bound] at moved
  dsimp only at moved
  split at moved
  · cases moved
  · next transitioned =>
      cases moved
      obtain ⟨_, rfl⟩ := transition_cases transitioned
      exact hasStatus_iff.mpr ⟨_, List.getElem?_set_self bound, TransferInfo.moved_status _ _ _ _⟩

/-- A verified file is complete. -/
theorem progresses_verified {finalPath : FinalPath} {now : Time}
    (touched : ∀ record ∈ session.touched, record < registry.transfers.length)
    (bound : block.record < registry.transfers.length) (unfailed : session.failure = none)
    (holds : session.holds = some block.record)
    (ok : verified registry session block finalPath now = (next, .ok after)) :
    Progresses registry next session after := by
  unfold verified at ok
  dsimp only at ok
  split at ok
  · cases ok
  · next set moved marked =>
      cases ok
      obtain ⟨registryMoved, unnotified, rfl⟩ := session_setStatus_ok marked
      have updated : Effect registry (registry.update block.record fun info => { info with
          bytesTransferred := block.offered.size, finalPath := some finalPath.text })
          (some block.record) := effect_update fun _ => rfl
      have there := Nat.lt_of_lt_of_le bound updated.grows
      exact progresses_inside touched bound unfailed holds
        (updated.trans (effect_setStatus registryMoved (.inr rfl)))
        fun _ => setStatus_hasStatus there registryMoved

theorem advanceInside_ok {call : BlockCall} (sound : Sound registry session)
    (standing : session.phase = .inside block call)
    (advanced : advanceInside registry session block call event = some (next, .ok after)) :
    Progresses registry next session after := by
  obtain ⟨touched, phase⟩ := sound
  rw [standing] at phase
  obtain ⟨bound, unfailed, complete⟩ := phase
  have holds : session.holds = some block.record := by simp [ReceiveSession.holds, block?, standing]
  obtain ⟨now, answer⟩ := event
  have stands {other : BlockCall} (early : isLast other = false ∨ isLast call = true)
      (moved : (registry, (.ok (session.moveTo (.inside block other)) :
        Except Raised ReceiveSession)) = (next, .ok after)) :
      Progresses registry next session after := by
    cases moved
    refine progresses_inside touched bound unfailed holds .refl fun last => ?_
    rcases early with notLast | already
    · rw [notLast] at last
      cases last
    · exact complete already
  unfold advanceInside at advanced
  cases call with
  | progress index =>
      cases answer with
      | done => cases advanced; exact progresses_chunkLoop touched bound unfailed holds
      | _ => cases advanced
  | completed =>
      cases answer with
      | done =>
          cases advanced
          obtain ⟨sound, free⟩ := @sound_nextFile registry { session with unnotified := [] }
            block.states (block.file + 1) touched rfl unfailed
          refine ⟨free ▸ .refl, fun record held => .inr fun info found => ?_, sound⟩
          cases holds.symm.trans held
          obtain ⟨completed, there, same⟩ := hasStatus_iff.mp (complete rfl)
          cases found.symm.trans there
          exact .inl (by rw [same]; rfl)
      | _ => cases advanced
  | openPartial =>
      cases answer with
      | done =>
          dsimp only at advanced
          split at advanced
          · cases advanced
            exact progresses_chunkLoop touched bound unfailed holds
          · cases advanced
      | raised failure => dsimp only at advanced; split at advanced <;> cases advanced
      | _ => cases advanced
  | chunk index =>
      cases answer with
      | control payload =>
          dsimp only at advanced
          split at advanced
          · cases advanced
          · exact stands (.inl rfl) (Option.some.inj advanced)
      | raised failure => dsimp only at advanced; split at advanced <;> cases advanced
      | _ => cases advanced
  | chunkData index declared =>
      cases answer with
      | octets raw =>
          dsimp only at advanced
          split at advanced
          · cases advanced
          · exact stands (.inl rfl) (Option.some.inj advanced)
      | raised failure => dsimp only at advanced; split at advanced <;> cases advanced
      | _ => cases advanced
  | write index raw =>
      cases answer with
      | done =>
          cases advanced
          exact progresses_inside touched bound unfailed holds (effect_update fun _ => rfl) (nomatch ·)
      | raised failure => dsimp only at advanced; split at advanced <;> cases advanced
      | _ => cases advanced
  | fileEnd =>
      cases answer with
      | control payload =>
          dsimp only at advanced
          split at advanced
          · cases advanced
          · exact stands (.inl rfl) (Option.some.inj advanced)
      | raised failure => dsimp only at advanced; split at advanced <;> cases advanced
      | _ => cases advanced
  | hash =>
      cases answer with
      | digest text =>
          refine stands (.inl ?_) (Option.some.inj advanced)
          split <;> rfl
      | raised failure => dsimp only at advanced; split at advanced <;> cases advanced
      | _ => cases advanced
  | hashMismatch =>
      cases answer with
      | raised failure => dsimp only at advanced; split at advanced <;> cases advanced
      | _ => cases advanced
  | commit =>
      cases answer with
      | committed finalPath => exact stands (.inl rfl) (Option.some.inj advanced)
      | raised failure => dsimp only at advanced; split at advanced <;> cases advanced
      | _ => cases advanced
  | markCompleted finalPath =>
      cases answer with
      | done => exact progresses_verified touched bound unfailed holds (Option.some.inj advanced)
      | raised failure => dsimp only at advanced; split at advanced <;> cases advanced
      | _ => cases advanced
  | knownEnd finalPath =>
      cases answer with
      | control payload =>
          dsimp only at advanced
          split at advanced
          · cases advanced
          · exact progresses_verified touched bound unfailed holds (Option.some.inj advanced)
      | raised failure => dsimp only at advanced; split at advanced <;> cases advanced
      | _ => cases advanced
  | sendResult finalPath =>
      cases answer with
      | done => exact stands (.inr rfl) (Option.some.inj advanced)
      | raised failure => dsimp only at advanced; split at advanced <;> cases advanced
      | _ => cases advanced

/-- Going on outside the blocks. -/
theorem progresses_outside (free : session.holds = none) (sound : Sound registry after) :
    Progresses registry registry session after where
  effect := .refl
  released record held := by rw [free] at held; cases held
  sound := sound

theorem enterBlock_ok {now : Time} {unnotified : List Nat}
    (touched : ∀ record ∈ session.touched, record < registry.transfers.length)
    (bound : block.record < registry.transfers.length) (unfailed : session.failure = none)
    (holds : session.holds = some block.record)
    (entered : enterBlock registry { session with unnotified } block now = (next, .ok after)) :
    Progresses registry next session after := by
  unfold enterBlock at entered
  split at entered
  · cases entered
    exact progresses_inside touched bound unfailed holds .refl (nomatch ·)
  · split at entered
    · cases entered
    · next activated =>
        cases entered
        obtain ⟨moved, _, rfl⟩ := session_setStatus_ok activated
        exact progresses_inside touched bound unfailed holds (effect_setStatus moved (.inr rfl))
          (nomatch ·)

theorem beginFile_ok {states : Dict PyStr ResumeFileState} {file : Nat} {payload : Json} {now : Time}
    (sound : Sound registry session) (standing : session.phase = .fileStart states file)
    (begun : beginFile registry session states file payload now = (next, .ok after)) :
    Progresses registry next session after := by
  have free : session.holds = none := by simp [ReceiveSession.holds, block?, standing]
  unfold beginFile at begun
  split at begun
  · cases begun
    exact progresses_outside free sound
  · split at begun
    · cases begun
    · split at begun
      · cases begun
      · split at begun
        · cases begun
        · split at begun
          · cases begun
          · next created =>
              cases begun
              obtain ⟨effect, there⟩ := getOrCreate_effect created
              obtain ⟨touched, phase⟩ := sound
              rw [standing] at phase
              refine ⟨effect, fun record held => ?_, ?_, there, phase.2⟩
              · rw [free] at held
                cases held
              · exact List.forall_mem_cons.mpr ⟨there, fun other member =>
                  Nat.lt_of_lt_of_le (touched other member) effect.grows⟩

theorem faithful_settled : Faithful (some error) (settledOutcome error) := by
  unfold settledOutcome
  split
  · next cancelled =>
      intro other same
      cases same
      exact cancelled
  · rfl

/-- A session that raises nothing keeps to its record. -/
theorem advance_ok (sound : Sound registry session)
    (advanced : session.advance registry event = some (next, .ok after)) :
    Progresses registry next session after := by
  have ⟨touched, phase⟩ := sound
  obtain ⟨origin, standing, records, unnotified, failure⟩ := session
  obtain ⟨now, answer⟩ := event
  cases standing with
  | inside block call => exact advanceInside_ok sound rfl advanced
  | created block =>
      cases answer with
      | done => exact enterBlock_ok touched phase.1 phase.2 rfl (Option.some.inj advanced)
      | _ => cases advanced
  | settling block outcome =>
      cases answer with
      | done =>
          cases advanced
          obtain ⟨error, rfl, rfl⟩ := phase
          exact progresses_outside rfl ⟨touched, rfl, faithful_settled⟩
      | _ => cases advanced
  | fileStart states file =>
      cases answer with
      | control payload => exact beginFile_ok sound rfl (Option.some.inj advanced)
      | raised failure =>
          simp only [advance] at advanced
          split at advanced <;> cases advanced
      | _ => cases advanced
  | resumeQuery =>
      cases answer with
      | control payload =>
          simp only [advance] at advanced
          split at advanced
          · cases advanced
          · cases advanced
            exact progresses_outside rfl ⟨touched, phase⟩
      | raised failure =>
          simp only [advance] at advanced
          split at advanced <;> cases advanced
      | _ => cases advanced
  | prepare =>
      cases answer with
      | prepared states =>
          simp only [advance] at advanced
          split at advanced
          · cases advanced
            exact progresses_outside rfl ⟨touched, phase⟩
          · cases advanced
      | raised failure =>
          simp only [advance] at advanced
          split at advanced <;> cases advanced
      | _ => cases advanced
  | resumeState states =>
      cases answer with
      | done =>
          cases advanced
          exact progresses_outside rfl (sound_nextFile touched phase.1 phase.2).1
      | raised failure =>
          simp only [advance] at advanced
          split at advanced <;> cases advanced
      | _ => cases advanced
  | fin =>
      cases answer with
      | control payload =>
          simp only [advance] at advanced
          split at advanced
          · cases advanced
            exact progresses_outside rfl ⟨touched, phase⟩
          · cases advanced
      | raised failure =>
          simp only [advance] at advanced
          split at advanced <;> cases advanced
      | _ => cases advanced
  | sessionComplete =>
      cases answer with
      | done => cases advanced; exact progresses_outside rfl ⟨touched, phase⟩
      | raised failure =>
          simp only [advance] at advanced
          split at advanced <;> cases advanced
      | _ => cases advanced
  | completeSession =>
      cases answer with
      | done =>
          cases advanced
          obtain ⟨notified, unfailed⟩ := phase
          cases unfailed
          exact progresses_outside rfl ⟨touched, notified, fun _ none => nomatch none⟩
      | raised failure =>
          simp only [advance] at advanced
          split at advanced <;> cases advanced
      | _ => cases advanced
  | ended outcome => cases answer <;> cases advanced

theorem SameStatuses.effect {held : Option Nat} (same : SameStatuses registry next) :
    Effect registry next held where
  changed record info found := .inl (same.find found)
  terminal record info found _ := by
    have back : SameStatuses next registry := same.symm
    obtain ⟨new, there, equal⟩ := back.find found
    exact ⟨new, there, equal⟩
  grows := by
    have lengths := congrArg List.length same
    simp only [List.length_map] at lengths
    exact Nat.le_of_eq lengths.symm

/-- Outside the blocks, a session that may raise has nothing left to notify. -/
theorem Sound.outside (sound : Sound registry session) (free : session.block? = none)
    (advanced : session.advance registry event = some (next, .error error)) :
    session.unnotified = [] := by
  obtain ⟨origin, standing, records, unnotified, failure⟩ := session
  obtain ⟨now, answer⟩ := event
  obtain ⟨_, phase⟩ := sound
  cases standing with
  | created block => cases free
  | inside block call => cases free
  | settling block outcome => cases answer <;> cases advanced
  | ended outcome => cases answer <;> cases advanced
  | _ => exact phase.1

theorem Sound.bound (sound : Sound registry session) (standing : session.block? = some block) :
    block.record < registry.transfers.length := by
  obtain ⟨_, phase⟩ := sound
  unfold block? at standing
  split at standing
  · next other found => cases standing; rw [found] at phase; exact phase.1
  · next other call found => cases standing; rw [found] at phase; exact phase.1
  · cases standing

/-- An exception in a block settles its record, where the record permits it. -/
theorem leave_progresses (sound : Sound registry session)
    (permit : HandlersPermit registry session event)
    (advanced : session.advance registry event = some (next, .error error)) :
    Progresses registry (session.leave next error event.now).1 session
      (session.leave next error event.now).2 := by
  obtain ⟨same, inBlock⟩ := advance_error advanced
  have grown : ∀ record ∈ session.touched, record < next.transfers.length := fun record member =>
    Nat.lt_of_lt_of_le (sound.1 record member) (@SameStatuses.effect _ _ none same).grows
  cases block : session.block? with
  | none =>
      have free : session.holds = none := by simp [ReceiveSession.holds, block]
      have left : session.leave next error event.now =
          (next, { session with failure := some error, phase := .ended (.error error) }) := by
        unfold leave
        simp only [show ({ session with failure := some error } : ReceiveSession).block? = none
          from block]
        rfl
      rw [left]
      refine ⟨same.effect, fun record held => ?_, grown, sound.outside block advanced, rfl⟩
      rw [free] at held
      cases held
  | some standing =>
      obtain ⟨raises, handled⟩ := inBlock standing block
      obtain ⟨status, message, handler⟩ := handlerStatus_handled handled
      have settled := handlerStatus_settled handler
      have permitted : stuck next standing.record status = none := by
        rw [stuck_congr same]
        unfold stuck
        split
        · next info found =>
            exact if_pos (permit standing error status message info block raises handler found)
        · rfl
      have bound := Nat.lt_of_lt_of_le (sound.bound block) (@SameStatuses.effect _ _ none same).grows
      unfold leave
      simp only [show ({ session with failure := some error } : ReceiveSession).block? = some standing
        from block, handler]
      split
      · next refused =>
          rw [session_setStatus_error refused] at permitted
          cases permitted
      · next settledRegistry moved set =>
          obtain ⟨registryMoved, unnotified, rfl⟩ := session_setStatus_ok set
          have moves : Effect next settledRegistry none := effect_setStatus registryMoved (.inl settled)
          refine ⟨same.effect.trans moves, fun record held => .inr fun info found => ?_, ?_, ?_⟩
          · cases (show some standing.record = some record by
              rw [← held, ReceiveSession.holds, block]; rfl)
            obtain ⟨other, there, rfl⟩ := hasStatus_iff.mp (setStatus_hasStatus bound registryMoved)
            cases found.symm.trans there
            exact settled
          · exact fun record member => Nat.lt_of_lt_of_le (grown record member) moves.grows
          · exact ⟨error, rfl, rfl⟩

theorem step_progresses (sound : Sound registry session)
    (permit : HandlersPermit registry session event)
    (stepped : session.step registry event = some (next, after)) :
    Progresses registry next session after := by
  unfold step at stepped
  split at stepped
  · cases stepped
  · next advanced => cases stepped; exact advance_ok sound advanced
  · next advanced =>
      have progresses := leave_progresses sound permit advanced
      rw [Option.some.inj stepped] at progresses
      exact progresses

end Progress

end ReceiveSession

/-! ## All sessions -/

/-- No step of any session asks a handler for a transition the record does not permit. -/
def handlersPermit (state : Receiving) : ReceiveLabel → Prop
  | .accept _ _ _ => True
  | .session index event => ∀ session, state.sessions[index]? = some session →
      session.HandlersPermit state.registry event

/-- Every session is sound, and unsettled records are in the hands of some session. -/
structure ReceivingSound (state : Receiving) : Prop where
  sound : ∀ session ∈ state.sessions, session.Sound state.registry
  held : ∀ (record : Nat) (info : TransferInfo), state.registry.transfers[record]? = some info →
    info.status.Settled ∨ ∃ session ∈ state.sessions, session.holds = some record

theorem receiving_start : ReceivingSound .start where
  sound _ member := nomatch member
  held _ _ found := nomatch found

theorem receiving_step {platform : Platform} {state next : Receiving} {label : ReceiveLabel}
    (holds : ReceivingSound state) (admitted : handlersPermit state label)
    (stepped : receiveStep platform state label = some next) : ReceivingSound next := by
  cases label with
  | accept peerIp peerDeviceId payload =>
      simp only [receiveStep] at stepped
      split at stepped
      · cases stepped
      · cases stepped
        constructor
        · intro session member
          rcases List.mem_append.mp member with before | new
          · exact holds.sound session before
          · cases List.mem_singleton.mp new
            exact ⟨fun _ none => (nomatch none), rfl, rfl⟩
        · intro record info found
          rcases holds.held record info found with settled | ⟨session, member, held⟩
          · exact .inl settled
          · exact .inr ⟨session, List.mem_append_left _ member, held⟩
  | session index event =>
      simp only [receiveStep, Option.bind_eq_bind, Option.bind_eq_some_iff] at stepped
      obtain ⟨session, found, ⟨registry, after⟩, sessionStepped, finished⟩ := stepped
      cases finished
      have progresses := ReceiveSession.step_progresses
        (holds.sound session (List.mem_of_getElem? found)) (admitted session found) sessionStepped
      have bound := (List.getElem?_eq_some_iff.mp found).1
      have present : after ∈ state.sessions.set index after :=
        List.mem_of_getElem? (List.getElem?_set_self bound)
      constructor
      · intro other member
        rcases List.mem_or_eq_of_mem_set member with before | rfl
        · exact (holds.sound other before).effect progresses.effect
        · exact progresses.sound
      · intro record info there
        rcases progresses.effect.changed record info there with ⟨old, was, same⟩ | settled | held
        · rcases holds.held record old was with settled | ⟨other, member, held⟩
          · exact .inl (same ▸ settled)
          · obtain ⟨place, otherFound⟩ := List.mem_iff_getElem?.mp member
            by_cases own : place = index
            · cases own
              cases found.symm.trans otherFound
              rcases progresses.released record held with kept | settled
              · exact .inr ⟨after, present, kept⟩
              · exact .inl (settled info there)
            · refine .inr ⟨other, List.mem_of_getElem? (i := place) ?_, held⟩
              rw [List.getElem?_set_ne (Ne.symm own), otherFound]
        · exact .inl settled
        · exact .inr ⟨after, present, held⟩

/-- In every run whose handlers are only asked for permitted transitions, a session that
is over ended with the exception that was raised, has notified its last change, and leaves
every record it created or resumed settled or in the hands of a session still running. -/
theorem sessions_settle {platform : Platform} {labels : List ReceiveLabel} {state : Receiving}
    (run : Run (receiveStep platform) handlersPermit .start labels state) :
    ∀ session ∈ state.sessions, ∀ outcome, session.phase = .ended outcome →
      ReceiveSession.Faithful session.failure outcome ∧ session.unnotified = [] ∧
      ∀ record ∈ session.touched, ∃ info, state.registry.transfers[record]? = some info ∧
        (info.status.Settled ∨ ∃ other ∈ state.sessions, other.holds = some record) := by
  intro session member outcome halted
  have holds : ReceivingSound state :=
    run.invariant (fun _ _ _ sound admitted stepped => receiving_step sound admitted stepped)
      receiving_start
  obtain ⟨bound, ended⟩ := holds.sound session member
  rw [halted] at ended
  obtain ⟨notified, faithful⟩ := ended
  refine ⟨faithful, notified, fun record touched => ?_⟩
  have found := List.getElem?_eq_getElem (bound record touched)
  exact ⟨_, found, holds.held record _ found⟩

/-! A session of one empty file, its connection lost while the finish of the file is
awaited, and while its result is sent. -/

def emptyFile : IncomingFile :=
  ⟨py "file-0", py "note.txt", 0, List.replicate 64 (chr 'e')⟩

def emptyOffer : TransferOffer := ⟨List.replicate 32 (chr '0'), [emptyFile], 0, none⟩

def connectionLost : Raised := raised .osError "Connection closed while reading frame length"

def untilFinish : List ReceiveLabel :=
  .accept (py "192.0.2.7") (py "mp-0000000a") (offerFrame emptyOffer.transferId [emptyFile] none) ::
  ([.control (resumeQuery emptyOffer),
    .prepared (Dict.empty.set emptyFile.fileId ⟨0, none⟩), .done,
    .control (fileControl "file_start" emptyOffer.transferId emptyFile.fileId), .done,
    .done].map fun answer => .session 0 ⟨0, answer⟩)

def lostBeforeFinish : List ReceiveLabel :=
  untilFinish ++ ([.raised connectionLost, .done].map fun answer => .session 0 ⟨1, answer⟩)

def lostBeforeResult : List ReceiveLabel :=
  untilFinish ++
  ([.control (fileControl "file_end" emptyOffer.transferId emptyFile.fileId),
    .digest emptyFile.sha256, .committed ⟨py "/inbox/note.txt", py "note.txt"⟩, .done,
    .raised connectionLost].map fun answer => .session 0 ⟨1, answer⟩)

/-- The exception that left a session. -/
def ReceiveSession.escaped (session : ReceiveSession) : Option Raised :=
  match session.phase with
  | .ended (.error error) => some error
  | _ => none

theorem ReceiveSession.escaped_some {session : ReceiveSession} {error : Raised}
    (escapes : session.escaped = some error) : session.phase = .ended (.error error) := by
  unfold escaped at escapes
  split at escapes
  · next ended => cases escapes; exact ended
  · cases escapes

/-- The condition on a label, computed. -/
def permitsHandlers (state : Receiving) : ReceiveLabel → Bool
  | .accept _ _ _ => true
  | .session index event => (state.sessions[index]?).all fun session =>
      match session.block?, session.raises? state.registry event with
      | some block, some error =>
        match ReceiveSession.handlerStatus error, state.registry.transfers[block.record]? with
        | some (status, _), some info => decide (Reaches info.status status)
        | _, _ => true
      | _, _ => true

theorem permitsHandlers_sound (state : Receiving) (label : ReceiveLabel)
    (permits : permitsHandlers state label = true) : handlersPermit state label := by
  cases label with
  | accept peerIp peerDeviceId payload => exact trivial
  | session index event =>
      intro session found block error status message info inside raises handler there
      simpa [permitsHandlers, found, inside, raises, handler, there] using permits

theorem lost_before_finish_settled :
    ∃ state, Run (receiveStep asciiPlatform) handlersPermit .start lostBeforeFinish state ∧
      ∀ session ∈ state.sessions, ∀ outcome, session.phase = .ended outcome →
        ReceiveSession.Faithful session.failure outcome ∧ session.unnotified = [] ∧
        ∀ record ∈ session.touched, ∃ info, state.registry.transfers[record]? = some info ∧
          (info.status.Settled ∨ ∃ other ∈ state.sessions, other.holds = some record) := by
  have runs : (runLabels (fun state label => if permitsHandlers state label then
      receiveStep asciiPlatform state label else none) .start lostBeforeFinish).isSome = true := by
    decide +kernel
  obtain ⟨state, executed⟩ := Option.isSome_iff_exists.mp runs
  have run := run_of_checked permitsHandlers_sound executed
  exact ⟨state, run, sessions_settle run⟩

/-- When the result of a completed file cannot be sent, the handler asks for a
transition out of a terminal status, and its own exception leaves the session. -/
theorem lost_before_result_escapes :
    ¬∀ (labels : List ReceiveLabel) (state : Receiving),
      Run (receiveStep asciiPlatform) anyStep .start labels state →
      ∀ session ∈ state.sessions, ∀ outcome, session.phase = .ended outcome →
        ReceiveSession.Faithful session.failure outcome ∧ session.unnotified = [] ∧
        ∀ record ∈ session.touched, ∃ info, state.registry.transfers[record]? = some info ∧
          (info.status.Settled ∨ ∃ other ∈ state.sessions, other.holds = some record) := by
  intro settles
  have kinds : (runLabels (receiveStep asciiPlatform) .start lostBeforeResult).map
      (fun state => state.sessions.map fun session =>
        (session.escaped.map Raised.kind, session.failure.map Raised.kind)) =
      some [(some .invalidTransferTransition, some .osError)] := by
    decide +kernel
  obtain ⟨state, executed, kinds⟩ := Option.map_eq_some_iff.mp kinds
  obtain ⟨session, alone, kinds⟩ := List.map_eq_singleton_iff.mp kinds
  have member : session ∈ state.sessions := by rw [alone]; exact List.mem_singleton.mpr rfl
  obtain ⟨escapes, failed⟩ := Prod.mk.inj kinds
  obtain ⟨error, left, kind⟩ := Option.map_eq_some_iff.mp escapes
  have faithful := (settles _ state (run_of_runLabels executed) session member (.error error)
    (ReceiveSession.escaped_some left)).1
  rw [show session.failure = some error from faithful, Option.map_some, kind] at failed
  cases failed

end DirectTransfer
