import DirectTransfer.Core.ReceiverProperties

/-! The steps of a receiving session one by one: which call answers what, what
becomes of the records, and which call comes next. -/

set_option autoImplicit false

namespace DirectTransfer

open Library

/-- The record of a verified file. -/
def Registry.verify (registry : Registry) (block : FileBlock) (finalPath : FinalPath) : Registry :=
  registry.update block.record fun info =>
    { info with bytesTransferred := block.offered.size, finalPath := some finalPath.text }

/-- The record of a file after one more chunk. -/
def Registry.receive (registry : Registry) (block : FileBlock) (count : Nat) : Registry :=
  registry.update block.record fun info => { info with
    bytesTransferred := info.bytesTransferred + count
    bytesTransferredThisAttempt := info.bytesTransferredThisAttempt + count }

namespace ReceiveSession

/-- What is still to be notified once a record has been set to a status. -/
def noted (registry : Registry) (record : Nat) (status : TransferStatus) (unnotified : List Nat) :
    List Nat :=
  if registry.hasStatus record status then unnotified else record :: unnotified

theorem session_setStatus_noted {registry next : Registry} {session after : ReceiveSession}
    {record : Nat} {status : TransferStatus} {message : Option PyStr} {now : Time}
    (moved : setStatus registry session record status message now = .ok (next, after)) :
    registry.setStatus record status message now = .ok next ∧
      after = { session with unnotified := noted registry record status session.unnotified } := by
  unfold setStatus at moved
  split at moved
  · cases moved
  · next registryMoved =>
      cases moved
      refine ⟨registryMoved, ?_⟩
      unfold noted
      split <;> rfl

/-- One step of a session. -/
inductive Transition (registry : Registry) (session : ReceiveSession) (event : ReceiveEvent) :
    Registry → ReceiveSession → Prop where
  | queried {payload : Json} (standing : session.phase = .resumeQuery)
      (answer : event.answer = .control payload)
      (valid : validateResumeQuery payload session.origin.offer = .ok ()) :
      Transition registry session event registry (session.moveTo .prepare)
  | prepared {states : Dict PyStr ResumeFileState} (standing : session.phase = .prepare)
      (answer : event.answer = .prepared states)
      (complete : ∀ offered ∈ session.origin.offer.files, (states.get offered.fileId).isSome) :
      Transition registry session event registry (session.moveTo (.resumeState states))
  | stateSent {states : Dict PyStr ResumeFileState} (standing : session.phase = .resumeState states)
      (answer : event.answer = .done) :
      Transition registry session event registry (session.nextFile states 0)
  | began {states : Dict PyStr ResumeFileState} {file : Nat} {payload : Json} {next : Registry}
      {offered : IncomingFile} {state : ResumeFileState} {record : Nat}
      (standing : session.phase = .fileStart states file) (answer : event.answer = .control payload)
      (there : session.origin.offer.files[file]? = some offered)
      (type : payload.field "type" = .str (py "file_start"))
      (transfer : payload.field "transfer_id" = .str session.transferId)
      (named : payload.field "file_id" = .str offered.fileId)
      (known : states.get offered.fileId = some state)
      (created : getOrCreate registry session.origin offered state.offset event.now =
        .ok (next, record)) :
      Transition registry session event next { session with
        phase := .created ⟨states, file, offered, record⟩
        touched := record :: session.touched
        unnotified := record :: session.unnotified }
  | absent {states : Dict PyStr ResumeFileState} {file : Nat}
      (standing : session.phase = .fileStart states file)
      (beyond : session.origin.offer.files[file]? = none) :
      Transition registry session event registry session
  | known {block : FileBlock} {finalPath : FinalPath} (standing : session.phase = .created block)
      (answer : event.answer = .done)
      (found : (block.states.get block.offered.fileId).bind ResumeFileState.finalPath =
        some finalPath) :
      Transition registry session event registry
        { session with phase := .inside block (.knownEnd finalPath), unnotified := [] }
  | entered {block : FileBlock} {next : Registry}
      (standing : session.phase = .created block) (answer : event.answer = .done)
      (unknown : (block.states.get block.offered.fileId).bind ResumeFileState.finalPath = none)
      (moved : registry.setStatus block.record .active none event.now = .ok next) :
      Transition registry session event next
        { session with
          phase := .inside block .openPartial
          unnotified := noted registry block.record .active [] }
  | opened {block : FileBlock} {info : TransferInfo}
      (standing : session.phase = .inside block .openPartial) (answer : event.answer = .done)
      (found : registry.transfers[block.record]? = some info) :
      Transition registry session event registry
        (chunkLoop registry session block (info.bytesTransferred / chunkSize))
  | header {block : FileBlock} {index declared : Nat} {payload : Json}
      (standing : session.phase = .inside block (.chunk index))
      (answer : event.answer = .control payload)
      (checked : checkChunk registry session block index payload = .ok declared) :
      Transition registry session event registry
        (session.moveTo (.inside block (.chunkData index declared)))
  | data {block : FileBlock} {index : Nat} {raw : Bytes}
      (standing : session.phase = .inside block (.chunkData index raw.length))
      (answer : event.answer = .octets raw) :
      Transition registry session event registry (session.moveTo (.inside block (.write index raw)))
  | written {block : FileBlock} {index : Nat} {raw : Bytes}
      (standing : session.phase = .inside block (.write index raw)) (answer : event.answer = .done) :
      Transition registry session event (registry.receive block raw.length)
        (session.moveTo (.inside block (.progress index)))
  | progressed {block : FileBlock} {index : Nat}
      (standing : session.phase = .inside block (.progress index)) (answer : event.answer = .done) :
      Transition registry session event registry
        (chunkLoop registry { session with unnotified := [] } block (index + 1))
  | finished {block : FileBlock} {payload : Json} (standing : session.phase = .inside block .fileEnd)
      (answer : event.answer = .control payload)
      (expected : expectFileEnd session block payload = .ok ()) :
      Transition registry session event registry (session.moveTo (.inside block .hash))
  | hashed {block : FileBlock} {text : PyStr} (standing : session.phase = .inside block .hash)
      (answer : event.answer = .digest text) :
      Transition registry session event registry (session.moveTo (.inside block
        (if text ≠ block.offered.sha256 then .hashMismatch else .commit)))
  | committed {block : FileBlock} {finalPath : FinalPath}
      (standing : session.phase = .inside block .commit)
      (answer : event.answer = .committed finalPath) :
      Transition registry session event registry
        (session.moveTo (.inside block (.markCompleted finalPath)))
  | marked {block : FileBlock} {finalPath : FinalPath} {next : Registry}
      (standing : session.phase = .inside block (.markCompleted finalPath))
      (answer : event.answer = .done)
      (moved : (registry.verify block finalPath).setStatus block.record .complete none event.now =
        .ok next) :
      Transition registry session event next
        { session with
          phase := .inside block (.sendResult finalPath)
          unnotified := noted (registry.verify block finalPath) block.record .complete
            session.unnotified }
  | recognised {block : FileBlock} {finalPath : FinalPath} {payload : Json} {next : Registry}
      (standing : session.phase = .inside block (.knownEnd finalPath))
      (answer : event.answer = .control payload)
      (expected : expectFileEnd session block payload = .ok ())
      (moved : (registry.verify block finalPath).setStatus block.record .complete none event.now =
        .ok next) :
      Transition registry session event next
        { session with
          phase := .inside block (.sendResult finalPath)
          unnotified := noted (registry.verify block finalPath) block.record .complete
            session.unnotified }
  | resultSent {block : FileBlock} {finalPath : FinalPath}
      (standing : session.phase = .inside block (.sendResult finalPath))
      (answer : event.answer = .done) :
      Transition registry session event registry (session.moveTo (.inside block .completed))
  | notified {block : FileBlock} (standing : session.phase = .inside block .completed)
      (answer : event.answer = .done) :
      Transition registry session event registry
        (nextFile { session with unnotified := [] } block.states (block.file + 1))
  | fin {payload : Json} (standing : session.phase = .fin) (answer : event.answer = .control payload)
      (expected : (control "fin" session.transferId).pyEq payload = true) :
      Transition registry session event registry (session.moveTo .sessionComplete)
  | confirmed (standing : session.phase = .sessionComplete) (answer : event.answer = .done) :
      Transition registry session event registry (session.moveTo .completeSession)
  | closed (standing : session.phase = .completeSession) (answer : event.answer = .done) :
      Transition registry session event registry (session.moveTo (.ended (.ok ())))
  | settled {block : FileBlock} {outcome : Except Raised Unit}
      (standing : session.phase = .settling block outcome) (answer : event.answer = .done) :
      Transition registry session event registry
        { session with phase := .ended outcome, unnotified := [] }
  | escaped {error : Raised} (outside : session.block? = none)
      (raises : session.advance registry event = some (registry, .error error)) :
      Transition registry session event registry
        { session with phase := .ended (.error error), failure := some error }
  | handled {block : FileBlock} {error : Raised} {middle next : Registry} {status : TransferStatus}
      {message : PyStr} (inside : session.block? = some block)
      (raises : session.advance registry event = some (middle, .error error))
      (verified : middle = registry ∨ ∃ finalPath, middle = registry.verify block finalPath)
      (handler : handlerStatus error = some (status, message))
      (moved : middle.setStatus block.record status (some message) event.now = .ok next) :
      Transition registry session event next { session with
        phase := .settling block (settledOutcome error)
        failure := some error
        unnotified := noted middle block.record status session.unnotified }
  | refused {block : FileBlock} {error transitionError : Raised} {middle : Registry}
      {status : TransferStatus} {message : PyStr} (inside : session.block? = some block)
      (raises : session.advance registry event = some (middle, .error error))
      (verified : middle = registry ∨ ∃ finalPath, middle = registry.verify block finalPath)
      (handler : handlerStatus error = some (status, message))
      (moved : middle.setStatus block.record status (some message) event.now =
        .error transitionError) :
      Transition registry session event middle { session with
        phase := .ended (.error transitionError), failure := some error }

section

variable {registry next : Registry} {session after : ReceiveSession} {event : ReceiveEvent}
  {block : FileBlock} {error : Raised}

/-- A call that raises changes no record, unless its file has just been verified. -/
theorem advanceInside_raises {call : BlockCall}
    (advanced : advanceInside registry session block call event = some (next, .error error)) :
    next = registry ∨ ∃ finalPath, next = registry.verify block finalPath := by
  obtain ⟨now, answer⟩ := event
  have verifying {finalPath : FinalPath}
      (refused : verified registry session block finalPath now =
        (next, (.error error : Except Raised ReceiveSession))) :
      next = registry.verify block finalPath := by
    unfold verified at refused
    dsimp only at refused
    split at refused
    · cases refused; rfl
    · cases refused
  unfold advanceInside at advanced
  cases call <;> cases answer <;> dsimp only at advanced
  case markCompleted.done finalPath => exact .inr ⟨finalPath, verifying (Option.some.inj advanced)⟩
  case knownEnd.control finalPath payload =>
      split at advanced
      · cases advanced; exact .inl rfl
      · exact .inr ⟨finalPath, verifying (Option.some.inj advanced)⟩
  all_goals first
    | (cases advanced; done)
    | (split at advanced <;> cases advanced <;> exact .inl rfl)
    | (cases advanced; exact .inl rfl)

theorem verified_ok {finalPath : FinalPath} {now : Time}
    (ok : verified registry session block finalPath now = (next, .ok after)) :
    (registry.verify block finalPath).setStatus block.record .complete none now = .ok next ∧
      after = { session with
        phase := .inside block (.sendResult finalPath)
        unnotified := noted (registry.verify block finalPath) block.record .complete
          session.unnotified } := by
  unfold verified at ok
  dsimp only at ok
  split at ok
  · cases ok
  · next moved =>
      cases ok
      obtain ⟨registryMoved, rfl⟩ := session_setStatus_noted moved
      exact ⟨registryMoved, rfl⟩

theorem advanceInside_transition {call : BlockCall} (standing : session.phase = .inside block call)
    (advanced : advanceInside registry session block call event = some (next, .ok after)) :
    Transition registry session event next after := by
  cases call with
  | openPartial =>
      cases answer : event.answer <;> simp only [advanceInside, answer] at advanced
      case done =>
        split at advanced
        · next info found => cases advanced; exact .opened standing answer found
        · cases advanced
      case raised => split at advanced <;> cases advanced
      all_goals cases advanced
  | chunk index =>
      cases answer : event.answer <;> simp only [advanceInside, answer] at advanced
      case control payload =>
        split at advanced
        · cases advanced
        · next checked => cases advanced; exact .header standing answer checked
      case raised => split at advanced <;> cases advanced
      all_goals cases advanced
  | chunkData index declared =>
      cases answer : event.answer <;> simp only [advanceInside, answer] at advanced
      case octets raw =>
        split at advanced
        · cases advanced
        · next same =>
            cases advanced
            cases not_not.mp same
            exact .data standing answer
      case raised => split at advanced <;> cases advanced
      all_goals cases advanced
  | write index raw =>
      cases answer : event.answer <;> simp only [advanceInside, answer] at advanced
      case done => cases advanced; exact .written standing answer
      case raised => split at advanced <;> cases advanced
      all_goals cases advanced
  | progress index =>
      cases answer : event.answer <;> simp only [advanceInside, answer] at advanced
      case done => cases advanced; exact .progressed standing answer
      all_goals cases advanced
  | fileEnd =>
      cases answer : event.answer <;> simp only [advanceInside, answer] at advanced
      case control payload =>
        split at advanced
        · cases advanced
        · next expected => cases advanced; exact .finished standing answer expected
      case raised => split at advanced <;> cases advanced
      all_goals cases advanced
  | hash =>
      cases answer : event.answer <;> simp only [advanceInside, answer] at advanced
      case digest text => cases advanced; exact .hashed standing answer
      case raised => split at advanced <;> cases advanced
      all_goals cases advanced
  | hashMismatch =>
      cases answer : event.answer <;> simp only [advanceInside, answer] at advanced
      case raised => split at advanced <;> cases advanced
      all_goals cases advanced
  | commit =>
      cases answer : event.answer <;> simp only [advanceInside, answer] at advanced
      case committed finalPath => cases advanced; exact .committed standing answer
      case raised => split at advanced <;> cases advanced
      all_goals cases advanced
  | markCompleted finalPath =>
      cases answer : event.answer <;> simp only [advanceInside, answer] at advanced
      case done =>
        obtain ⟨moved, rfl⟩ := verified_ok (Option.some.inj advanced)
        exact .marked standing answer moved
      case raised => split at advanced <;> cases advanced
      all_goals cases advanced
  | knownEnd finalPath =>
      cases answer : event.answer <;> simp only [advanceInside, answer] at advanced
      case control payload =>
        split at advanced
        · cases advanced
        · next expected =>
            obtain ⟨moved, rfl⟩ := verified_ok (Option.some.inj advanced)
            exact .recognised standing answer expected moved
      case raised => split at advanced <;> cases advanced
      all_goals cases advanced
  | sendResult finalPath =>
      cases answer : event.answer <;> simp only [advanceInside, answer] at advanced
      case done => cases advanced; exact .resultSent standing answer
      case raised => split at advanced <;> cases advanced
      all_goals cases advanced
  | completed =>
      cases answer : event.answer <;> simp only [advanceInside, answer] at advanced
      case done => cases advanced; exact .notified standing answer
      all_goals cases advanced

theorem enterBlock_transition (standing : session.phase = .created block)
    (answer : event.answer = .done)
    (entered : enterBlock registry { session with unnotified := [] } block event.now =
      (next, .ok after)) : Transition registry session event next after := by
  unfold enterBlock at entered
  split at entered
  · next found => cases entered; exact .known standing answer found
  · next unknown =>
      split at entered
      · cases entered
      · next activated =>
          cases entered
          obtain ⟨moved, rfl⟩ := session_setStatus_noted activated
          exact .entered standing answer unknown moved

theorem beginFile_transition {states : Dict PyStr ResumeFileState} {file : Nat} {payload : Json}
    (standing : session.phase = .fileStart states file) (answer : event.answer = .control payload)
    (begun : beginFile registry session states file payload event.now = (next, .ok after)) :
    Transition registry session event next after := by
  unfold beginFile at begun
  split at begun
  · next beyond => cases begun; exact .absent standing beyond
  · next offered there =>
      split at begun
      · cases begun
      · split at begun
        · cases begun
        · next valid =>
            simp only [not_or, not_not] at valid
            split at begun
            · cases begun
            · next state known =>
                split at begun
                · cases begun
                · next created =>
                    cases begun
                    exact .began standing answer there valid.1 valid.2.1 valid.2.2 known created

/-- A session that raises nothing makes one of the transitions. -/
theorem advance_transition
    (advanced : session.advance registry event = some (next, .ok after)) :
    Transition registry session event next after := by
  cases standing : session.phase with
  | inside block call =>
      simp only [advance, standing] at advanced
      exact advanceInside_transition standing advanced
  | created block =>
      cases answer : event.answer <;> simp only [advance, standing, answer] at advanced
      case done =>
        refine enterBlock_transition standing answer ?_
        rw [standing]
        exact Option.some.inj advanced
      all_goals cases advanced
  | settling block outcome =>
      cases answer : event.answer <;> simp only [advance, standing, answer] at advanced
      case done => cases advanced; exact .settled standing answer
      all_goals cases advanced
  | fileStart states file =>
      cases answer : event.answer <;> simp only [advance, standing, answer] at advanced
      case control payload => exact beginFile_transition standing answer (Option.some.inj advanced)
      case raised => split at advanced <;> cases advanced
      all_goals cases advanced
  | resumeQuery =>
      cases answer : event.answer <;> simp only [advance, standing, answer] at advanced
      case control payload =>
        split at advanced
        · cases advanced
        · next valid => cases advanced; exact .queried standing answer valid
      case raised => split at advanced <;> cases advanced
      all_goals cases advanced
  | prepare =>
      cases answer : event.answer <;> simp only [advance, standing, answer] at advanced
      case prepared states =>
        split at advanced
        · next complete =>
            cases advanced
            exact .prepared standing answer (List.all_eq_true.mp complete)
        · cases advanced
      case raised => split at advanced <;> cases advanced
      all_goals cases advanced
  | resumeState states =>
      cases answer : event.answer <;> simp only [advance, standing, answer] at advanced
      case done => cases advanced; exact .stateSent standing answer
      case raised => split at advanced <;> cases advanced
      all_goals cases advanced
  | fin =>
      cases answer : event.answer <;> simp only [advance, standing, answer] at advanced
      case control payload =>
        split at advanced
        · next expected => cases advanced; exact .fin standing answer expected
        · cases advanced
      case raised => split at advanced <;> cases advanced
      all_goals cases advanced
  | sessionComplete =>
      cases answer : event.answer <;> simp only [advance, standing, answer] at advanced
      case done => cases advanced; exact .confirmed standing answer
      case raised => split at advanced <;> cases advanced
      all_goals cases advanced
  | completeSession =>
      cases answer : event.answer <;> simp only [advance, standing, answer] at advanced
      case done => cases advanced; exact .closed standing answer
      case raised => split at advanced <;> cases advanced
      all_goals cases advanced
  | ended outcome => cases answer : event.answer <;> simp [advance, standing, answer] at advanced

/-- Outside the blocks an exception finds the records as they were. -/
theorem advance_outside (outside : session.block? = none)
    (advanced : session.advance registry event = some (next, .error error)) : next = registry := by
  cases standing : session.phase with
  | inside block call | created block => simp [block?, standing] at outside
  | fileStart states file =>
      cases answer : event.answer <;> simp only [advance, standing, answer] at advanced
      case control payload =>
        unfold beginFile at advanced
        repeat' split at advanced
        all_goals cases advanced
        all_goals rfl
      case raised => split at advanced <;> cases advanced; rfl
      all_goals cases advanced
  | _ =>
      cases answer : event.answer <;> simp only [advance, standing, answer] at advanced
      all_goals first
        | cases advanced
        | (split at advanced <;> cases advanced <;> rfl)

theorem advance_raises (inside : session.block? = some block)
    (advanced : session.advance registry event = some (next, .error error)) :
    next = registry ∨ ∃ finalPath, next = registry.verify block finalPath := by
  cases standing : session.phase with
  | inside other call =>
      simp only [block?, standing, Option.some.injEq] at inside
      simp only [advance, standing] at advanced
      exact inside ▸ advanceInside_raises advanced
  | created other =>
      left
      cases answer : event.answer <;> simp only [advance, standing, answer] at advanced
      case done =>
        have entered := Option.some.inj advanced
        unfold enterBlock at entered
        split at entered
        · cases entered
        · split at entered <;> cases entered
          rfl
      all_goals cases advanced
  | _ => simp [block?, standing] at inside

theorem session_setStatus_refused {record : Nat} {status : TransferStatus} {message : Option PyStr}
    {now : Time} (failed : setStatus registry session record status message now = .error error) :
    registry.setStatus record status message now = .error error := by
  unfold setStatus at failed
  split at failed
  · next other => cases failed; exact other
  · cases failed

theorem step_transition (stepped : session.step registry event = some (next, after)) :
    Transition registry session event next after := by
  unfold step at stepped
  split at stepped
  · cases stepped
  · next advanced => cases stepped; exact advance_transition advanced
  · next middle error advanced =>
      have left := Option.some.inj stepped
      unfold leave at left
      dsimp only at left
      cases inside : session.block? with
      | none =>
          simp only [show ({ session with failure := some error } : ReceiveSession).block? = none
            from inside] at left
          cases left
          cases advance_outside inside advanced
          exact .escaped inside advanced
      | some block =>
          obtain ⟨_, inBlock⟩ := advance_error advanced
          obtain ⟨status, message, handler⟩ := handlerStatus_handled (inBlock block inside).2
          simp only [show ({ session with failure := some error } : ReceiveSession).block? =
            some block from inside, handler] at left
          have verified := advance_raises inside advanced
          split at left
          · next refusal =>
              cases left
              exact .refused inside advanced verified handler (session_setStatus_refused refusal)
          · next moved =>
              cases left
              obtain ⟨registryMoved, rfl⟩ := session_setStatus_noted moved
              exact .handled inside advanced verified handler registryMoved

end

end ReceiveSession

/-! ## What stays of a record -/

/-- The record of the same file of the same transfer. -/
structure SameRecord (old new : TransferInfo) : Prop where
  filename : new.filename = old.filename
  filesize : new.filesize = old.filesize
  direction : new.direction = old.direction
  peerIp : new.peerIp = old.peerIp
  peerDeviceId : new.peerDeviceId = old.peerDeviceId
  transferId : new.transferId = old.transferId
  fileId : new.fileId = old.fileId
  startedAt : new.startedAt = old.startedAt
  message : new.message = old.message

namespace SameRecord

@[refl] theorem refl (info : TransferInfo) : SameRecord info info :=
  ⟨rfl, rfl, rfl, rfl, rfl, rfl, rfl, rfl, rfl⟩

@[trans] theorem trans {old middle new : TransferInfo} (first : SameRecord old middle)
    (second : SameRecord middle new) : SameRecord old new where
  filename := second.filename.trans first.filename
  filesize := second.filesize.trans first.filesize
  direction := second.direction.trans first.direction
  peerIp := second.peerIp.trans first.peerIp
  peerDeviceId := second.peerDeviceId.trans first.peerDeviceId
  transferId := second.transferId.trans first.transferId
  fileId := second.fileId.trans first.fileId
  startedAt := second.startedAt.trans first.startedAt
  message := second.message.trans first.message

theorem moved (info : TransferInfo) (status : TransferStatus) (error : Option PyStr) (now : Time) :
    SameRecord info (info.moved status error now) := by
  unfold TransferInfo.moved
  split
  · exact ⟨rfl, rfl, rfl, rfl, rfl, rfl, rfl, rfl, rfl⟩
  · exact ⟨rfl, rfl, rfl, rfl, rfl, rfl, rfl, rfl, rfl⟩

end SameRecord

theorem resumeRecord_same {info resumed : TransferInfo} {sha256 : PyStr} {offset : Nat} {now : Time}
    (ok : resumeRecord info sha256 offset now = .ok resumed) :
    SameRecord info resumed ∧ Reaches info.status resumed.status := by
  unfold resumeRecord at ok
  simp only [bind, Except.bind, pure, Except.pure] at ok
  by_cases terminal : isTerminal info.status = true
  · simp only [terminal, ↓reduceIte] at ok
    cases ok
    exact ⟨⟨rfl, rfl, rfl, rfl, rfl, rfl, rfl, rfl, rfl⟩, .inl rfl⟩
  · simp only [terminal, Bool.false_eq_true, ↓reduceIte] at ok
    split at ok
    · cases ok
    · next moved transitioned =>
        cases ok
        obtain ⟨reaches, rfl⟩ := transition_cases transitioned
        have same := SameRecord.moved info .resuming none now
        exact ⟨⟨same.1, same.2, same.3, same.4, same.5, same.6, same.7, same.8, same.9⟩,
          by simpa using reaches⟩

/-- Every record stands in the index, under its own key and no other. -/
structure Registry.Keyed (registry : Registry) : Prop where
  keyed : ∀ (record : Nat) (info : TransferInfo), registry.transfers[record]? = some info →
    ∃ fileId, info.fileId = some fileId ∧
      registry.index.get (info.transferId, fileId) = some record
  indexed : ∀ transferId fileId record, registry.index.get (transferId, fileId) = some record →
    ∃ info, registry.transfers[record]? = some info ∧ info.transferId = transferId ∧
      info.fileId = some fileId

/-- What a step of a session of one offer does to the records: those of other transfers
stay, its own stay records of their files, and a further one is of an offered file. -/
structure Registry.Evolves (origin : Origin) (registry next : Registry) : Prop where
  kept : ∀ (record : Nat) (old : TransferInfo), registry.transfers[record]? = some old →
    ∃ new, next.transfers[record]? = some new ∧ SameRecord old new ∧ Reaches old.status new.status ∧
      (old.transferId ≠ origin.offer.transferId → new = old)
  further : ∀ (record : Nat) (new : TransferInfo), next.transfers[record]? = some new →
    registry.transfers[record]? = none → ∃ offered ∈ origin.offer.files, ∃ offset now,
      new = newRecord origin offered offset now
  keyed : registry.Keyed → next.Keyed

section Evolving

variable {origin : Origin} {registry middle next : Registry} {record : Nat}

theorem Registry.Evolves.refl : registry.Evolves origin registry where
  kept _ old found := ⟨old, found, .refl _, .inl rfl, fun _ => rfl⟩
  further _ _ found none := by rw [none] at found; cases found
  keyed keyed := keyed

/-- Replacing a record of the session's own transfer. -/
theorem Registry.Evolves.set {old new : TransferInfo} (found : registry.transfers[record]? = some old)
    (own : old.transferId = origin.offer.transferId) (same : SameRecord old new)
    (reaches : Reaches old.status new.status) : registry.Evolves origin (registry.set record new) := by
  have bound := (List.getElem?_eq_some_iff.mp found).1
  have here : (registry.set record new).transfers[record]? = some new := List.getElem?_set_self bound
  have elsewhere {other : Nat} (different : other ≠ record) :
      (registry.set record new).transfers[other]? = registry.transfers[other]? :=
    List.getElem?_set_ne (Ne.symm different)
  constructor
  · intro other info there
    by_cases equal : other = record
    · cases equal
      cases found.symm.trans there
      exact ⟨new, here, same, reaches, fun foreign => absurd own foreign⟩
    · exact ⟨info, (elsewhere equal).trans there, .refl _, .inl rfl, fun _ => rfl⟩
  · intro other info there none
    by_cases equal : other = record
    · cases equal; rw [found] at none; cases none
    · rw [elsewhere equal, none] at there; cases there
  · intro keyed
    constructor
    · intro other info there
      by_cases equal : other = record
      · cases equal
        cases here.symm.trans there
        rw [same.fileId, same.transferId]
        exact keyed.keyed record old found
      · exact keyed.keyed other info (elsewhere equal ▸ there)
    · intro transferId fileId other pointed
      obtain ⟨info, there, transfer, file⟩ := keyed.indexed transferId fileId other pointed
      by_cases equal : other = record
      · cases equal
        cases found.symm.trans there
        exact ⟨new, here, same.transferId.trans transfer, same.fileId.trans file⟩
      · exact ⟨info, (elsewhere equal).trans there, transfer, file⟩

theorem Registry.Evolves.update {change : TransferInfo → TransferInfo}
    (own : ∀ info, registry.transfers[record]? = some info →
      info.transferId = origin.offer.transferId)
    (same : ∀ info, SameRecord info (change info)) (kept : ∀ info, (change info).status = info.status) :
    registry.Evolves origin (registry.update record change) := by
  unfold Registry.update
  split
  · next info found => exact .set found (own info found) (same info) (.inl (kept info).symm)
  · exact .refl

theorem Registry.setStatus_cases {status : TransferStatus} {error : Option PyStr} {now : Time}
    (moved : registry.setStatus record status error now = .ok next) :
    (registry.transfers[record]? = none ∧ next = registry) ∨
    ∃ info, registry.transfers[record]? = some info ∧ Reaches info.status status ∧
      next = registry.set record (info.moved status error now) := by
  unfold Registry.setStatus at moved
  split at moved
  · next none => cases moved; exact .inl ⟨none, rfl⟩
  · next info found =>
      split at moved
      · cases moved
      · next new transitioned =>
          cases moved
          obtain ⟨reaches, rfl⟩ := transition_cases transitioned
          exact .inr ⟨info, found, reaches, rfl⟩

theorem Registry.Evolves.setStatus {status : TransferStatus} {error : Option PyStr} {now : Time}
    (own : ∀ info, registry.transfers[record]? = some info →
      info.transferId = origin.offer.transferId)
    (moved : registry.setStatus record status error now = .ok next) :
    registry.Evolves origin next := by
  rcases Registry.setStatus_cases moved with ⟨_, rfl⟩ | ⟨info, found, reaches, rfl⟩
  · exact .refl
  · exact .set found (own info found) (.moved _ _ _ _) (by simpa using reaches)

/-- A file's record is verified and then set to a status, in one step. -/
theorem Registry.Evolves.verify_setStatus {block : FileBlock} {finalPath : FinalPath}
    {status : TransferStatus} {error : Option PyStr} {now : Time}
    (own : ∀ info, registry.transfers[block.record]? = some info →
      info.transferId = origin.offer.transferId)
    (moved : (registry.verify block finalPath).setStatus block.record status error now = .ok next) :
    registry.Evolves origin next := by
  unfold Registry.verify Registry.update at moved
  split at moved
  · next info found =>
      have bound := (List.getElem?_eq_some_iff.mp found).1
      rcases Registry.setStatus_cases moved with ⟨none, _⟩ | ⟨verified, there, reaches, rfl⟩
      · simp [Registry.set, bound] at none
      · rw [show (registry.set block.record _).transfers[block.record]? = _ from
          List.getElem?_set_self bound] at there
        cases there
        have twice (first second : TransferInfo) :
            (registry.set block.record first).set block.record second =
              registry.set block.record second := by
          simp [Registry.set]
        rw [twice]
        refine .set found (own info found) ?_ (by simpa using reaches)
        have verified : SameRecord info { info with
            bytesTransferred := block.offered.size, finalPath := some finalPath.text } :=
          ⟨rfl, rfl, rfl, rfl, rfl, rfl, rfl, rfl, rfl⟩
        exact verified.trans (.moved _ _ _ _)
  · exact .setStatus own moved

theorem Registry.Evolves.verify {block : FileBlock} {finalPath : FinalPath}
    (own : ∀ info, registry.transfers[block.record]? = some info →
      info.transferId = origin.offer.transferId) :
    registry.Evolves origin (registry.verify block finalPath) :=
  .update own (fun _ => ⟨rfl, rfl, rfl, rfl, rfl, rfl, rfl, rfl, rfl⟩) fun _ => rfl

/-- The record of an offered file is found under its key, or added under it. -/
theorem getOrCreate_evolves {offered : IncomingFile} {offset : Nat} {now : Time}
    (member : offered ∈ origin.offer.files) (sound : registry.Keyed)
    (ok : getOrCreate registry origin offered offset now = .ok (next, record)) :
    registry.Evolves origin next ∧ ∃ info, next.transfers[record]? = some info ∧
      info.transferId = origin.offer.transferId ∧ info.fileId = some offered.fileId := by
  unfold getOrCreate at ok
  dsimp only at ok
  split at ok
  · next unknown =>
      cases ok
      have here : (registry.append (origin.offer.transferId, offered.fileId)
          (newRecord origin offered offset now)).transfers[registry.transfers.length]? =
          some (newRecord origin offered offset now) := by simp [Registry.append]
      have before {other : Nat} {info : TransferInfo} (found : registry.transfers[other]? = some info) :
          (registry.append (origin.offer.transferId, offered.fileId)
            (newRecord origin offered offset now)).transfers[other]? = some info := by
        rw [Registry.append, List.getElem?_append_left (List.getElem?_eq_some_iff.mp found).1, found]
      have cases' {other : Nat} {info : TransferInfo}
          (found : (registry.append (origin.offer.transferId, offered.fileId)
            (newRecord origin offered offset now)).transfers[other]? = some info) :
          registry.transfers[other]? = some info ∨ (other = registry.transfers.length ∧
            info = newRecord origin offered offset now) := by
        rw [Registry.append, List.getElem?_append] at found
        split at found
        · exact .inl found
        · rw [List.getElem?_singleton] at found
          split at found
          · cases found; exact .inr ⟨by omega, rfl⟩
          · cases found
      refine ⟨⟨fun other info found => ⟨info, before found, .refl _, .inl rfl, fun _ => rfl⟩, ?_, ?_⟩,
        _, here, rfl, rfl⟩
      · intro other info found none
        rcases cases' found with old | ⟨_, rfl⟩
        · rw [none] at old; cases old
        · exact ⟨offered, member, offset, now, rfl⟩
      · intro keyed
        constructor
        · intro other info found
          rcases cases' found with old | ⟨rfl, rfl⟩
          · obtain ⟨fileId, named, pointed⟩ := keyed.keyed other info old
            refine ⟨fileId, named, ?_⟩
            rw [Registry.append, Dict.get_set_ne, pointed]
            intro same
            rw [same, unknown] at pointed
            cases pointed
          · exact ⟨offered.fileId, rfl, by simp [Registry.append, newRecord]⟩
        · intro transferId fileId other pointed
          rw [Registry.append, Dict.get_set] at pointed
          split at pointed
          · next same =>
              cases pointed
              obtain ⟨rfl, rfl⟩ := Prod.mk.inj same
              exact ⟨_, here, rfl, rfl⟩
          · obtain ⟨info, there, transfer, file⟩ := keyed.indexed transferId fileId other pointed
            exact ⟨info, before there, transfer, file⟩
  · next known found =>
      split at ok
      · cases ok
      · next resumed resumedOk =>
          cases ok
          obtain ⟨info, there, transfer, file⟩ := sound.indexed _ _ _ found
          have existing : registry.transfers.get ⟨record, registry.indexed _ record found⟩ = info := by
            rw [List.get_eq_getElem]
            exact (List.getElem?_eq_some_iff.mp there).2
          rw [existing] at resumedOk
          obtain ⟨same, reaches⟩ := resumeRecord_same resumedOk
          have bound := (List.getElem?_eq_some_iff.mp there).1
          exact ⟨.set there transfer same reaches, resumed, List.getElem?_set_self bound,
            same.transferId.trans transfer, same.fileId.trans file⟩

end Evolving

/-! ## Changes and notifications -/

namespace ReceiveSession

variable {registry next : Registry} {session after : ReceiveSession} {event : ReceiveEvent}

theorem noted_ne_nil {record : Nat} {status : TransferStatus} {unnotified : List Nat}
    (some : unnotified ≠ []) : noted registry record status unnotified ≠ [] := by
  unfold noted
  split
  · exact some
  · simp

/-- Setting a status changes none, or leaves something to notify. -/
theorem noted_statuses {record : Nat} {status : TransferStatus} {error : Option PyStr} {now : Time}
    (moved : registry.setStatus record status error now = .ok next) (unnotified : List Nat) :
    SameStatuses registry next ∨ noted registry record status unnotified ≠ [] := by
  rcases Registry.setStatus_cases moved with ⟨_, rfl⟩ | ⟨info, found, _, rfl⟩
  · exact .inl rfl
  · by_cases same : info.status = status
    · left
      have bound := (List.getElem?_eq_some_iff.mp found)
      refine List.ext_getElem? fun place => ?_
      simp only [List.getElem?_map, Registry.set]
      by_cases here : record = place
      · subst here
        rw [List.getElem?_set_self bound.1, found]
        simp [same]
      · rw [List.getElem?_set_ne here]
    · right
      have fresh : registry.hasStatus record status = false := by
        simp [Registry.hasStatus, found, same]
      simp [noted, fresh]

theorem SameStatuses.noted {middle : Registry} {record : Nat} {status : TransferStatus}
    {unnotified : List Nat} (same : SameStatuses registry middle)
    (moved : SameStatuses middle next ∨ noted middle record status unnotified ≠ []) :
    SameStatuses registry next ∨ noted middle record status unnotified ≠ [] :=
  moved.imp_left fun again => Eq.trans again same

theorem sameStatuses_verify {block : FileBlock} {finalPath : FinalPath} :
    SameStatuses registry (registry.verify block finalPath) :=
  sameStatuses_update fun _ => rfl

/-- A step changes no status, and adds no record, unless it leaves something to notify. -/
theorem Transition.statuses (transition : Transition registry session event next after) :
    SameStatuses registry next ∨ after.unnotified ≠ [] := by
  cases transition with
  | began => exact .inr (by simp)
  | entered standing answer unknown moved => exact noted_statuses moved _
  | written => exact .inl (sameStatuses_update fun _ => rfl)
  | marked standing answer moved => exact sameStatuses_verify.noted (noted_statuses moved _)
  | recognised standing answer expected moved =>
      exact sameStatuses_verify.noted (noted_statuses moved _)
  | handled inside raises verified handler moved =>
      rcases verified with rfl | ⟨finalPath, rfl⟩
      · exact noted_statuses moved _
      · exact sameStatuses_verify.noted (noted_statuses moved _)
  | refused inside raises verified handler moved =>
      rcases verified with rfl | ⟨finalPath, rfl⟩
      · exact .inl rfl
      · exact .inl sameStatuses_verify
  | _ => exact .inl rfl

end ReceiveSession

namespace ReceiveSession

/-! ## Sessions and their records -/

/-- The file a session is at, from its `file_start` to the next. -/
def fileBlock? (session : ReceiveSession) : Option FileBlock :=
  match session.phase with
  | .created block | .inside block _ | .settling block _ => some block
  | _ => none

/-- How many files of the offer have been started. -/
def filesBegun (session : ReceiveSession) : Nat :=
  match session.phase with
  | .fileStart _ file => file
  | .created block | .inside block _ | .settling block _ => block.file + 1
  | .fin | .sessionComplete | .completeSession => session.origin.offer.files.length
  | _ => 0

/-- The file a session is at is offered and has its record, and so has every file before it. -/
structure Anchored (registry : Registry) (session : ReceiveSession) : Prop where
  offered : ∀ block, session.fileBlock? = some block →
    session.origin.offer.files[block.file]? = some block.offered
  anchored : ∀ block, session.fileBlock? = some block →
    ∃ info, registry.transfers[block.record]? = some info ∧
      info.transferId = session.transferId ∧ info.fileId = some block.offered.fileId
  begun : ∀ file offered, file < session.filesBegun →
    session.origin.offer.files[file]? = some offered →
    ∃ (record : Nat) (info : TransferInfo), registry.transfers[record]? = some info ∧
      info.transferId = session.transferId ∧ info.fileId = some offered.fileId

variable {registry next : Registry} {session after : ReceiveSession} {event : ReceiveEvent}
  {block : FileBlock} {origin : Origin}

/-- Steps of any session leave a session with its records. -/
theorem Anchored.evolves (anchored : Anchored registry session)
    (evolves : registry.Evolves origin next) : Anchored next session where
  offered := anchored.offered
  anchored block here := by
    obtain ⟨info, found, transfer, file⟩ := anchored.anchored block here
    obtain ⟨new, there, same, _⟩ := evolves.kept _ info found
    exact ⟨new, there, same.transferId.trans transfer, same.fileId.trans file⟩
  begun file offered before listed := by
    obtain ⟨record, info, found, transfer, named⟩ := anchored.begun file offered before listed
    obtain ⟨new, there, same, _⟩ := evolves.kept record info found
    exact ⟨record, new, there, same.transferId.trans transfer, same.fileId.trans named⟩

/-- A session that stays at its file. -/
theorem Anchored.stay {phase : ReceivePhase} {touched unnotified : List Nat}
    {failure : Option Raised} (anchored : Anchored registry session)
    (here : session.fileBlock? = some block)
    (there : (ReceiveSession.mk session.origin phase touched unnotified failure).fileBlock? =
      some block) :
    Anchored registry ⟨session.origin, phase, touched, unnotified, failure⟩ where
  offered other at' := by
    cases there.symm.trans at'
    exact anchored.offered block here
  anchored other at' := by
    cases there.symm.trans at'
    exact anchored.anchored block here
  begun file offered before listed := by
    refine anchored.begun file offered ?_ listed
    have reach (standing : ReceiveSession) (at' : standing.fileBlock? = some block) :
        standing.filesBegun = block.file + 1 := by
      unfold fileBlock? at at'
      unfold filesBegun
      split at at' <;> cases at' <;> simp [*]
    rw [reach _ here]
    rwa [reach _ there] at before

/-- A session that stands between two files. -/
theorem Anchored.between {phase : ReceivePhase} {touched unnotified : List Nat}
    {failure : Option Raised} (anchored : Anchored registry session)
    (free : (ReceiveSession.mk session.origin phase touched unnotified failure).fileBlock? = none)
    (reach : (ReceiveSession.mk session.origin phase touched unnotified failure).filesBegun ≤
      session.filesBegun) :
    Anchored registry ⟨session.origin, phase, touched, unnotified, failure⟩ where
  offered other at' := by rw [free] at at'; cases at'
  anchored other at' := by rw [free] at at'; cases at'
  begun file offered before listed := anchored.begun file offered (before.trans_le reach) listed

theorem Anchored.nextFile {states : Dict PyStr ResumeFileState} {file : Nat}
    (anchored : Anchored registry session) (reach : file ≤ session.filesBegun) :
    Anchored registry (session.nextFile states file) := by
  unfold ReceiveSession.nextFile
  split
  · exact anchored.between rfl reach
  · next past =>
      refine ⟨fun _ none => (nomatch none), fun _ none => (nomatch none), ?_⟩
      intro other offered before listed
      refine anchored.begun other offered ?_ listed
      have short := (List.getElem?_eq_some_iff.mp listed).1
      exact Nat.lt_of_lt_of_le short (Nat.le_trans (Nat.le_of_not_lt past) reach)

theorem Anchored.chunkLoop {index : Nat} (anchored : Anchored registry session)
    (here : session.fileBlock? = some block) (unnotified : List Nat) :
    Anchored registry (chunkLoop registry { session with unnotified } block index) := by
  unfold ReceiveSession.chunkLoop
  split
  · exact anchored.stay here rfl
  · exact anchored.stay here rfl

theorem block?_fileBlock? (inside : session.block? = some block) :
    session.fileBlock? = some block := by
  unfold block? at inside
  unfold fileBlock?
  split at inside <;> cases inside <;> simp [*]

/-- One step of a session: the records evolve, and the session keeps to them. -/
theorem Transition.anchored (keyed : registry.Keyed) (anchored : Anchored registry session)
    (transition : Transition registry session event next after) :
    registry.Evolves session.origin next ∧ Anchored next after ∧ after.origin = session.origin := by
  have own (block : FileBlock) (here : session.fileBlock? = some block) (info : TransferInfo)
      (found : registry.transfers[block.record]? = some info) :
      info.transferId = session.origin.offer.transferId := by
    obtain ⟨other, there, transfer, _⟩ := anchored.anchored block here
    cases found.symm.trans there
    exact transfer
  have quiet {middle : ReceiveSession} (stays : Anchored registry middle)
      (same : middle.origin = session.origin) : registry.Evolves session.origin registry ∧
        Anchored registry middle ∧ middle.origin = session.origin := ⟨.refl, stays, same⟩
  have onward {new : Registry} {middle : ReceiveSession}
      (evolves : registry.Evolves session.origin new) (stays : Anchored registry middle)
      (same : middle.origin = session.origin) : registry.Evolves session.origin new ∧
        Anchored new middle ∧ middle.origin = session.origin :=
    ⟨evolves, stays.evolves evolves, same⟩
  have here {phase : ReceivePhase} (standing : session.phase = phase) :
      session.fileBlock? = (ReceiveSession.mk session.origin phase [] [] none).fileBlock? := by
    unfold fileBlock?; rw [standing]
  have reach {phase : ReceivePhase} (standing : session.phase = phase) :
      session.filesBegun = (ReceiveSession.mk session.origin phase [] [] none).filesBegun := by
    unfold filesBegun; rw [standing]
  cases transition with
  | queried standing answer valid =>
      exact quiet (anchored.between rfl (Nat.zero_le _)) rfl
  | prepared standing answer complete =>
      exact quiet (anchored.between rfl (Nat.zero_le _)) rfl
  | stateSent standing answer =>
      exact quiet (anchored.nextFile (Nat.zero_le _)) rfl
  | @began states file payload next offered state record standing answer there type transfer named
      known created =>
      obtain ⟨evolves, info, found, transfer, at'⟩ :=
        getOrCreate_evolves (List.mem_of_getElem? there) keyed created
      refine ⟨evolves, ⟨?_, ?_, ?_⟩, rfl⟩
      · rintro block ⟨⟩
        exact there
      · rintro block ⟨⟩
        exact ⟨info, found, transfer, at'⟩
      · intro other listed before isListed
        rcases Nat.lt_succ_iff_lt_or_eq.mp before with earlier | rfl
        · exact (anchored.evolves evolves).begun other listed (by rw [reach standing]; exact earlier)
            isListed
        · cases there.symm.trans isListed
          exact ⟨record, info, found, transfer, at'⟩
  | absent standing beyond => exact quiet anchored rfl
  | known standing answer found => exact quiet (anchored.stay (here standing) rfl) rfl
  | @entered block next standing answer unknown moved =>
      exact onward (.setStatus (own block (here standing)) moved) (anchored.stay (here standing) rfl) rfl
  | opened standing answer found =>
      refine quiet ?_ (by unfold ReceiveSession.chunkLoop; split <;> rfl)
      exact anchored.chunkLoop (here standing) session.unnotified
  | header standing answer checked => exact quiet (anchored.stay (here standing) rfl) rfl
  | data standing answer => exact quiet (anchored.stay (here standing) rfl) rfl
  | @written block index raw standing answer =>
      refine onward (.update (own block (here standing)) (fun _ => ?_) fun _ => rfl)
        (anchored.stay (here standing) rfl) rfl
      exact ⟨rfl, rfl, rfl, rfl, rfl, rfl, rfl, rfl, rfl⟩
  | progressed standing answer =>
      refine quiet ?_ (by unfold ReceiveSession.chunkLoop; split <;> rfl)
      exact anchored.chunkLoop (here standing) []
  | finished standing answer expected => exact quiet (anchored.stay (here standing) rfl) rfl
  | hashed standing answer => exact quiet (anchored.stay (here standing) rfl) rfl
  | committed standing answer => exact quiet (anchored.stay (here standing) rfl) rfl
  | @marked block finalPath next standing answer moved =>
      exact onward (.verify_setStatus (own block (here standing)) moved)
        (anchored.stay (here standing) rfl) rfl
  | @recognised block finalPath payload next standing answer expected moved =>
      exact onward (.verify_setStatus (own block (here standing)) moved)
        (anchored.stay (here standing) rfl) rfl
  | resultSent standing answer => exact quiet (anchored.stay (here standing) rfl) rfl
  | @notified block standing answer =>
      refine quiet ?_ (by unfold ReceiveSession.nextFile moveTo; rfl)
      have stays : Anchored registry { session with unnotified := [] } := by
        have standing' : session = { session with phase := .inside block .completed } := by
          rw [← standing]
        rw [standing']
        exact anchored.stay (here standing) rfl
      refine stays.nextFile ?_
      show block.file + 1 ≤ session.filesBegun
      rw [reach standing]
      rfl
  | fin standing answer expected =>
      exact quiet (anchored.between rfl (by rw [reach standing]; rfl)) rfl
  | confirmed standing answer =>
      exact quiet (anchored.between rfl (by rw [reach standing]; rfl)) rfl
  | closed standing answer => exact quiet (anchored.between rfl (Nat.zero_le _)) rfl
  | settled standing answer => exact quiet (anchored.between rfl (Nat.zero_le _)) rfl
  | escaped outside raises => exact quiet (anchored.between rfl (Nat.zero_le _)) rfl
  | @handled block error middle next status message inside raises verified handler moved =>
      have at' := block?_fileBlock? inside
      have stays : Anchored registry { session with
          phase := .settling block (settledOutcome error)
          failure := some error
          unnotified := noted middle block.record status session.unnotified } :=
        anchored.stay at' rfl
      rcases verified with rfl | ⟨finalPath, rfl⟩
      · exact onward (.setStatus (own block at') moved) stays rfl
      · exact onward (.verify_setStatus (own block at') moved) stays rfl
  | @refused block error transitionError middle status message inside raises verified handler moved =>
      have stays : Anchored registry { session with
          phase := .ended (.error transitionError), failure := some error } :=
        anchored.between rfl (Nat.zero_le _)
      rcases verified with rfl | ⟨finalPath, rfl⟩
      · exact quiet stays rfl
      · exact onward (.verify (own block (block?_fileBlock? inside))) stays rfl

end ReceiveSession

end DirectTransfer
