import DirectTransfer.Core.ResumedRecords
import DirectTransfer.Core.StoredSessions

/-! The frames of a sender that keeps to its program, as a receiving session takes them. -/

set_option autoImplicit false

namespace DirectTransfer

open Library

/-! ## Frames that are compared -/

section

variable {offer : TransferOffer} {transferId fileId : PyStr}

theorem fileControl_pyEq (type : String) : (fileControl type transferId fileId).pyEq
    (fileControl type transferId fileId) = true := by
  have keys : py "transfer_id" ≠ py "type" ∧ py "file_id" ≠ py "type" ∧
      py "file_id" ≠ py "transfer_id" := by decide
  simp [fileControl, Json.pyEq, Json.pyEqFields, findEntry, keys.1.symm, keys.2.1.symm,
    keys.2.2.symm]

theorem control_pyEq (type : String) :
    (control type transferId).pyEq (control type transferId) = true := by
  have keys : py "transfer_id" ≠ py "type" := by decide
  simp [control, Json.pyEq, Json.pyEqFields, findEntry, keys.symm]

theorem descriptions_pyEq (files : List IncomingFile) :
    Json.pyEqItems (files.map fileDescription) (files.map fileDescription) = true := by
  have keys : py "name" ≠ py "file_id" ∧ py "size" ≠ py "file_id" ∧ py "sha256" ≠ py "file_id" ∧
      py "size" ≠ py "name" ∧ py "sha256" ≠ py "name" ∧ py "sha256" ≠ py "size" := by decide
  induction files with
  | nil => rfl
  | cons file files ih =>
      have own : (fileDescription file).pyEq (fileDescription file) = true := by
        simp [fileDescription, Json.pyEq, Json.pyEqFields, findEntry, keys.1.symm, keys.2.1.symm,
          keys.2.2.1.symm, keys.2.2.2.1.symm, keys.2.2.2.2.1.symm, keys.2.2.2.2.2.symm]
      rw [List.map_cons, Json.pyEqItems, own, ih]
      rfl

theorem resumeQuery_valid (offer : TransferOffer) :
    validateResumeQuery (resumeQuery offer) offer = .ok () := by
  have dict : (resumeQuery offer).isDict = true := rfl
  have type : (resumeQuery offer).field "type" = .str (py "resume_query") := by simp [resumeQuery]
  have transfer : (resumeQuery offer).field "transfer_id" = .str offer.transferId := by
    simp [resumeQuery]
  have files : (resumeQuery offer).field "files" = .arr (offer.files.map fileDescription) := by
    simp [resumeQuery]
  have same : (Json.arr (offer.files.map fileDescription)).pyEq
      (.arr (offer.files.map fileDescription)) = true := by
    rw [Json.pyEq]
    exact descriptions_pyEq offer.files
  simp [validateResumeQuery, dict, type, transfer, files, same, pure, Except.pure]

end

/-! ## Frames that are taken -/

namespace ReceiveSession

variable {registry next : Registry} {session after : ReceiveSession} {event : ReceiveEvent}
  {offer : TransferOffer} {file : IncomingFile} {block : FileBlock} {finalPath : FinalPath}
  {states : Dict PyStr ResumeFileState} {state : ResumeFileState} {index cursor count record : Nat}
  {info : TransferInfo}

theorem step_of_advance (advanced : session.advance registry event = some (next, .ok after)) :
    session.step registry event = some (next, after) := by
  rw [step, advanced]

theorem onlyLost_of_advance (advanced : session.advance registry event = some (next, .ok after)) :
    OnlyLost registry session event := by
  intro middle error raises
  cases advanced.symm.trans raises

theorem advance_query (now : Time) (same : session.origin.offer = offer)
    (standing : session.phase = .resumeQuery) :
    session.advance registry ⟨now, .control (resumeQuery offer)⟩ =
      some (registry, .ok (session.moveTo .prepare)) := by
  simp only [advance, standing, same, resumeQuery_valid]

theorem advance_start (now : Time) (same : session.origin.offer = offer)
    (standing : session.phase = .fileStart states index) (listed : offer.files[index]? = some file)
    (told : states.get file.fileId = some state)
    (made : getOrCreate registry session.origin file state.offset now = .ok (next, record)) :
    session.advance registry ⟨now, .control (fileControl "file_start" offer.transferId file.fileId)⟩ =
      some (next, .ok { session with
        phase := .created ⟨states, index, file, record⟩
        touched := record :: session.touched
        unnotified := record :: session.unnotified }) := by
  have type : (fileControl "file_start" offer.transferId file.fileId).field "type" =
      .str (py "file_start") := by simp [fileControl]
  have transfer : (fileControl "file_start" offer.transferId file.fileId).field "transfer_id" =
      .str offer.transferId := by simp [fileControl]
  have named : (fileControl "file_start" offer.transferId file.fileId).field "file_id" =
      .str file.fileId := by simp [fileControl]
  have different : Json.str (py "file_start") ≠ .str (py "cancel") := by
    intro equal
    cases equal
  have own : session.transferId = offer.transferId := congrArg TransferOffer.transferId same
  rw [← same] at listed
  simp only [advance, standing, beginFile, listed, own, type, transfer, named, different, told, ne_eq,
    not_true_eq_false, or_self, if_false, made]

theorem advance_known (now : Time) (standing : session.phase = .created block)
    (told : (block.states.get block.offered.fileId).bind ResumeFileState.finalPath = some finalPath) :
    session.advance registry ⟨now, .done⟩ = some (registry, .ok { session with
      phase := .inside block (.knownEnd finalPath), unnotified := [] }) := by
  simp only [advance, standing, enterBlock, told, moveTo]

theorem advance_entered (now : Time) (standing : session.phase = .created block)
    (told : (block.states.get block.offered.fileId).bind ResumeFileState.finalPath = none)
    (set : registry.setStatus block.record .active none now = .ok next) :
    session.advance registry ⟨now, .done⟩ = some (next, .ok { session with
      phase := .inside block .openPartial
      unnotified := noted registry block.record .active [] }) := by
  simp only [advance, standing, enterBlock, told, setStatus, set, noted]
  split <;> rfl

theorem advance_header (now : Time) (identified : isTransferId offer.transferId = true)
    (named : isFileId block.offered.fileId = true) (same : session.origin.offer = offer)
    (standing : session.phase = .inside block (.chunk index))
    (found : registry.transfers[block.record]? = some info) (counted : info.bytesTransferred = cursor)
    (fits : 0 < count ∧ count ≤ min chunkSize (block.offered.size - cursor)) :
    session.advance registry ⟨now, .control (chunkHeader offer.transferId block.offered.fileId index
        cursor count)⟩ =
      some (registry, .ok (session.moveTo (.inside block (.chunkData index count)))) := by
  have own : session.transferId = offer.transferId := congrArg TransferOffer.transferId same
  have type : (chunkHeader offer.transferId block.offered.fileId index cursor count).field "type" ≠
      .str (py "cancel") := by
    have different : py "chunk" ≠ py "cancel" := by decide
    simp [chunkHeader, different]
  have checked : checkChunk registry session block index
      (chunkHeader offer.transferId block.offered.fileId index cursor count) = .ok count := by
    rw [checkChunk, if_neg type, found]
    dsimp only
    rw [counted, own, validateChunkControl_header identified named, if_pos fits]
  simp only [advance, standing, advanceInside, checked]

theorem advance_data (now : Time) {raw : Bytes}
    (standing : session.phase = .inside block (.chunkData index raw.length)) :
    session.advance registry ⟨now, .octets raw⟩ =
      some (registry, .ok (session.moveTo (.inside block (.write index raw)))) := by
  simp only [advance, standing, advanceInside, ne_eq, not_true_eq_false, if_false]

theorem expectFileEnd_ok (same : session.origin.offer = offer) :
    session.expectFileEnd block (fileControl "file_end" offer.transferId block.offered.fileId) =
      .ok () := by
  subst same
  simp [expectFileEnd, transferId, fileControl_pyEq]

/-- The end of a file whose octets are all there. -/
theorem advance_fileEnd (now : Time) (same : session.origin.offer = offer)
    (standing : session.phase = .inside block .fileEnd) :
    session.advance registry ⟨now, .control (fileControl "file_end" offer.transferId
      block.offered.fileId)⟩ = some (registry, .ok (session.moveTo (.inside block .hash))) := by
  simp only [advance, standing, advanceInside, expectFileEnd_ok same]

/-- The end of a file that has arrived before. -/
theorem advance_knownEnd (now : Time) (same : session.origin.offer = offer)
    (standing : session.phase = .inside block (.knownEnd finalPath)) :
    session.advance registry ⟨now, .control (fileControl "file_end" offer.transferId
      block.offered.fileId)⟩ = some (verified registry session block finalPath now) := by
  simp only [advance, standing, advanceInside, expectFileEnd_ok same]

theorem advance_fin (now : Time) (same : session.origin.offer = offer)
    (standing : session.phase = .fin) :
    session.advance registry ⟨now, .control (control "fin" offer.transferId)⟩ =
      some (registry, .ok (session.moveTo .sessionComplete)) := by
  have own : session.transferId = offer.transferId := congrArg TransferOffer.transferId same
  simp only [advance, standing, own, control_pyEq, if_true]

end ReceiveSession

/-! ## What a sender counts -/

/-- The block of a file whose octets are still to come. -/
def ReceivePhase.filling? : ReceivePhase → Option FileBlock
  | .created block | .inside block .openPartial | .inside block (.chunk _)
  | .inside block (.chunkData _ _) | .inside block (.write _ _) | .inside block (.progress _) =>
      some block
  | _ => none

/-- Where its sender is in a file: at what it was told, and behind what it has sent since. -/
def senderCursor (registry : Registry) (block : FileBlock) : Nat :=
  (block.states.get block.offered.fileId).elim 0 ResumeFileState.offset +
    (registry.transfers[block.record]?).elim 0 TransferInfo.bytesTransferredThisAttempt

/-- The receiver counts the octets of a file as its sender does. -/
def CountsAlike (registry : Registry) (session : ReceiveSession) : Prop :=
  ∀ block, session.phase.filling? = some block → ∀ info,
    registry.transfers[block.record]? = some info →
    info.bytesTransferred = senderCursor registry block

section

variable {registry next : Registry} {session after : ReceiveSession} {event : ReceiveEvent}
  {block : FileBlock}

theorem CountsAlike.carried {moved : ReceiveSession} (alike : CountsAlike registry session)
    (stays : ∀ block, moved.phase.filling? = some block → session.phase.filling? = some block) :
    CountsAlike registry moved :=
  fun block filling => alike block (stays block filling)

theorem countsAlike_of_none (elsewhere : session.phase.filling? = none) :
    CountsAlike registry session := by
  intro block filling
  cases elsewhere.symm.trans filling

open ReceiveSession in
/-- Whatever a session does, it counts its file as its sender does. -/
theorem CountsAlike.transition (alike : CountsAlike registry session)
    (transition : Transition registry session event next after) : CountsAlike next after := by
  have within {block : FileBlock} {call : BlockCall} (standing : session.phase = .inside block call)
      (filling : (ReceivePhase.inside block call).filling? = some block) (info : TransferInfo)
      (found : registry.transfers[block.record]? = some info) :
      info.bytesTransferred = senderCursor registry block :=
    alike block (by rw [standing]; exact filling) info found
  cases transition with
  | @began states file payload next offered state record standing answer there type transfer named
      known made =>
      intro block filling info found
      cases filling
      obtain ⟨made, here, counted, none_yet⟩ := getOrCreate_counted made
      cases here.symm.trans found
      simp only [senderCursor, known, found, Option.elim_some, counted, none_yet, Nat.add_zero]
  | absent standing beyond => exact alike
  | @entered block next standing answer unknown moved =>
      intro other filling info found
      cases filling
      have before := alike block (by rw [standing]; rfl)
      rcases Registry.setStatus_cases moved with ⟨absent, rfl⟩ | ⟨old, there, reaches, rfl⟩
      · cases absent.symm.trans found
      · have here := List.getElem?_set_self (a := old.moved .active none event.now)
          (List.getElem?_eq_some_iff.mp there).1
        cases here.symm.trans found
        have counted := before old there
        simp only [senderCursor, there] at counted
        simp only [senderCursor, Registry.set, here]
        simpa using counted
  | @opened block info standing answer found =>
      refine alike.carried fun other filling => ?_
      unfold ReceiveSession.chunkLoop ReceiveSession.moveTo at filling
      split at filling
      · split at filling
        · cases filling
          rw [standing]
          rfl
        · cases filling
      · cases filling
  | @progressed block index standing answer =>
      refine alike.carried fun other filling => ?_
      unfold ReceiveSession.chunkLoop ReceiveSession.moveTo at filling
      split at filling
      · split at filling
        · cases filling
          rw [standing]
          rfl
        · cases filling
      · cases filling
  | header standing | data standing =>
      refine alike.carried fun other filling => ?_
      cases filling
      rw [standing]
      rfl
  | @written block index raw standing answer =>
      intro other filling info found
      cases filling
      obtain ⟨old, there⟩ : ∃ old, registry.transfers[block.record]? = some old := by
        cases there : registry.transfers[block.record]? with
        | some old => exact ⟨old, rfl⟩
        | none =>
            rw [Registry.receive, Registry.update, there] at found
            cases there.symm.trans found
      have counted := within standing rfl old there
      have here : (registry.receive block raw.length).transfers[block.record]? = some { old with
          bytesTransferred := old.bytesTransferred + raw.length
          bytesTransferredThisAttempt := old.bytesTransferredThisAttempt + raw.length } := by
        rw [Registry.receive, Registry.update, there]
        exact List.getElem?_set_self (List.getElem?_eq_some_iff.mp there).1
      cases here.symm.trans found
      simp only [senderCursor, there, Option.elim_some] at counted
      simp only [senderCursor, here, Option.elim_some, counted, Nat.add_assoc]
  | stateSent | notified =>
      apply countsAlike_of_none
      unfold ReceiveSession.nextFile ReceiveSession.moveTo
      split <;> rfl
  | hashed =>
      apply countsAlike_of_none
      dsimp only [ReceiveSession.moveTo]
      split <;> rfl
  | _ => exact countsAlike_of_none rfl

end

/-! ## Records that are taken up -/

section

variable {registry next : Registry} {session : ReceiveSession} {offer : TransferOffer}
  {finals : IncomingFile → Option FilePath} {block : FileBlock}

/-- A file that is not finished yet is active from the first statement of its block on. -/
theorem Recorded.enters (now : Time) (recorded : Recorded registry offer finals session)
    (keyed : registry.Keyed) (anchored : session.Anchored registry)
    (same : session.origin.offer = offer) (inside : session.block? = some block)
    (unfinished : finals block.offered = none) :
    ∃ next, registry.setStatus block.record .active none now = .ok next := by
  obtain ⟨info, found, _, _, status⟩ := recorded.inHand keyed anchored same inside
  have reaches : Reaches info.status .active := by
    rcases status with active | resuming | ⟨_, finished⟩
    · rw [active]; decide
    · rw [resuming]; decide
    · exact absurd unfinished finished
  simp only [Registry.setStatus, found, transition_ok reaches]
  exact ⟨_, rfl⟩

/-- A verified file is recorded as complete, and its result comes next. -/
theorem Recorded.completes (now : Time) (finalPath : FinalPath)
    (recorded : Recorded registry offer finals session)
    (keyed : registry.Keyed) (anchored : session.Anchored registry)
    (same : session.origin.offer = offer) (inside : session.block? = some block) :
    ∃ next moved, session.verified registry block finalPath now = (next, .ok moved) ∧
      moved.phase = .inside block (.sendResult finalPath) := by
  obtain ⟨info, found, _, _, status⟩ := recorded.inHand keyed anchored same inside
  have reaches : Reaches info.status .complete := by
    rcases status with active | resuming | ⟨complete, _⟩
    · rw [active]; decide
    · rw [resuming]; decide
    · rw [complete]; decide
  have bound := (List.getElem?_eq_some_iff.mp found).1
  let filled : TransferInfo :=
    { info with bytesTransferred := block.offered.size, finalPath := some finalPath.text }
  have moves : DirectTransfer.transition filled .complete none now =
      .ok (filled.moved .complete none now) :=
    transition_ok reaches
  have set : ∃ next, (registry.update block.record fun info => { info with
      bytesTransferred := block.offered.size, finalPath := some finalPath.text }).setStatus
        block.record .complete none now = .ok next := by
    simp only [Registry.update, found, Registry.set, Registry.setStatus]
    rw [List.getElem?_set_self bound]
    dsimp only
    rw [moves]
    exact ⟨_, rfl⟩
  obtain ⟨next, set⟩ := set
  refine ⟨next, ReceiveSession.moveTo ?changed (.inside block (.sendResult finalPath)), ?told, rfl⟩
  case told =>
    simp only [ReceiveSession.verified, ReceiveSession.setStatus, set]
    rfl

end

end DirectTransfer
