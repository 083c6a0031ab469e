import DirectTransfer.Core.StoredProgress
import DirectTransfer.Core.TransferLink

/-! A session whose sender keeps to its program: no step of it raises anything, and until
it has ended there is always a next one. -/

set_option autoImplicit false

namespace DirectTransfer

open Library

/-! ## The sender's calls -/

/-- The call of the sender whose frame a session waits for. -/
def ReceivePhase.sender? (payload : Payload) (source : IncomingFile → Bytes) (registry : Registry) :
    ReceivePhase → Option SendPhase
  | .resumeQuery => some (.resumeQuery payload.offer)
  | .fileStart _ file => some (.fileStart payload file)
  | .inside block (.chunk index) => some (.chunkHeader payload block.file index
      (((source block.offered).drop (senderCursor registry block)).take chunkSize))
  | .inside block (.chunkData index declared) => some (.chunkData payload block.file index
      (((source block.offered).drop (senderCursor registry block)).take declared))
  | .inside block .fileEnd | .inside block (.knownEnd _) => some (.fileEnd payload block.file)
  | .fin => some (.fin payload.offer)
  | _ => none

/-- What is answered to a session is the frame of its sender's call. -/
theorem Answers.sent {offer : TransferOffer} {source : IncomingFile → Bytes} {registry : Registry}
    {session : ReceiveSession} {answer : ReceiveAnswer} {payload : Payload} {sending : Sending}
    {infos : List TransferInfo} {call : SendPhase}
    (sized : ∀ file ∈ offer.files, (source file).length = file.size)
    (same : session.origin.offer = offer) (accepted : payload.offer = offer)
    (anchored : session.Anchored registry)
    (counted : ∀ block, session.phase.filling? = some block → ∃ info,
      infos[block.file]? = some info ∧ info.bytesTransferred = senderCursor registry block)
    (answers : Answers offer source registry session.phase answer)
    (asks : session.phase.sender? payload source registry = some call) :
    answer = .done ∨ ∃ frame, call.wireFrame sending infos = some frame ∧ frame.answer = answer := by
  have listed {block : FileBlock} (inside : session.fileBlock? = some block) :
      payload.offer.files[block.file]? = some block.offered := by
    rw [accepted, ← same]
    exact anchored.offered block inside
  generalize standing : session.phase = phase at counted answers asks
  cases answers with
  | done => exact .inl rfl
  | query =>
      cases asks
      exact .inr ⟨_, rfl, by rw [accepted]; rfl⟩
  | start found =>
      cases asks
      rw [← accepted] at found
      exact .inr ⟨_, by simp only [SendPhase.wireFrame, SendPhase.frame, found]; rfl,
        by rw [accepted]; rfl⟩
  | @header block index =>
      cases asks
      have inside := listed (by rw [ReceiveSession.fileBlock?, standing])
      obtain ⟨info, found, cursor⟩ := counted block rfl
      have length : (((source block.offered).drop (senderCursor registry block)).take chunkSize).length =
          min chunkSize (block.offered.size - senderCursor registry block) := by
        rw [List.length_take, List.length_drop, sized]
        exact List.mem_of_getElem? (accepted ▸ inside)
      refine .inr ⟨_, by simp only [SendPhase.wireFrame, SendPhase.frame, found, inside]; rfl, ?_⟩
      rw [accepted, cursor, length]
      rfl
  | data =>
      cases asks
      exact .inr ⟨_, rfl, rfl⟩
  | @fileEnd block =>
      cases asks
      have inside := listed (by rw [ReceiveSession.fileBlock?, standing])
      exact .inr ⟨_, by simp only [SendPhase.wireFrame, SendPhase.frame, inside]; rfl,
        by rw [accepted]; rfl⟩
  | @knownEnd block finalPath =>
      cases asks
      have inside := listed (by rw [ReceiveSession.fileBlock?, standing])
      exact .inr ⟨_, by simp only [SendPhase.wireFrame, SendPhase.frame, inside]; rfl,
        by rw [accepted]; rfl⟩
  | fin =>
      cases asks
      exact .inr ⟨_, rfl, by rw [accepted]; rfl⟩

/-! ## Order -/

/-- A session at a file of its offer, and at no file that differs from what was hashed. -/
def InOrder (session : ReceiveSession) : Prop :=
  match session.phase with
  | .inside _ .hashMismatch => False
  | .fileStart _ index => index < session.origin.offer.files.length
  | _ => True

section

variable {registry next : Registry} {session after : ReceiveSession} {event : ReceiveEvent}
  {block : FileBlock} {states : Dict PyStr ResumeFileState} {index : Nat}

theorem inOrder_nextFile : InOrder (session.nextFile states index) := by
  unfold ReceiveSession.nextFile ReceiveSession.moveTo
  split
  · next more => exact more
  · trivial

theorem inOrder_chunkLoop : InOrder (session.chunkLoop registry block index) := by
  unfold ReceiveSession.chunkLoop ReceiveSession.moveTo
  split
  · split <;> trivial
  · trivial

open ReceiveSession in
/-- Only a hash that differs brings a session out of its order. -/
theorem InOrder.transition (orderly : InOrder session)
    (verified : ∀ block text, session.phase = .inside block .hash → event.answer = .digest text →
      text = block.offered.sha256)
    (transition : Transition registry session event next after) : InOrder after := by
  cases transition with
  | stateSent | notified => exact inOrder_nextFile
  | opened | progressed => exact inOrder_chunkLoop
  | absent => exact orderly
  | hashed standing answer =>
      rw [if_neg (not_not.mpr (verified _ _ standing answer))]
      trivial
  | _ => trivial

end

/-! ## Frames -/

section

variable {host : StoreHost} {platform : Platform} {goods : Consignment}
  {source : IncomingFile → Bytes} {registry : Registry} {disk : Disk FilePath}
  {finals : IncomingFile → Option FilePath} {stored : StoredSession} {event : ReceiveEvent}

/-- A notification, or a frame that has been handed over. -/
def ReceivePhase.goesAlone : ReceivePhase → Bool
  | .resumeState _ | .created _ | .settling _ _ | .sessionComplete => true
  | .inside _ call => match call with
    | .progress _ | .hashMismatch | .sendResult _ | .completed => true
    | _ => false
  | _ => false

theorem Steady.notified (now : Time) (steady : Steady host goods registry disk finals stored)
    (orderly : InOrder stored.session) (notifies : stored.session.phase.goesAlone = true) :
    ∃ next after, stored.session.advance registry ⟨now, .done⟩ = some (next, .ok after) := by
  cases standing : stored.session.phase with
  | created block =>
      have inside : stored.session.block? = some block := by
        simp only [ReceiveSession.block?, standing]
      cases told : (block.states.get block.offered.fileId).bind ResumeFileState.finalPath with
      | some finalPath => exact ⟨_, _, ReceiveSession.advance_known now standing told⟩
      | none =>
          have stands := steady.stands
          simp only [Stands, standing] at stands
          obtain ⟨_, working, awaits⟩ := stands
          have unfinished : finals block.offered = none := by
            rw [awaits _ _ (Nat.le_refl _) working.listed] at told
            exact Option.map_eq_none_iff.mp told
          obtain ⟨next, entered⟩ := steady.recorded.enters now steady.keyed steady.anchored
            steady.same inside unfinished
          exact ⟨_, _, ReceiveSession.advance_entered now standing told entered⟩
  | inside block call =>
      cases call with
      | hashMismatch => simp [InOrder, standing] at orderly
      | progress | sendResult | completed =>
          simp only [ReceiveSession.advance, standing, ReceiveSession.advanceInside]
          exact ⟨_, _, rfl⟩
      | _ => simp [standing, ReceivePhase.goesAlone] at notifies
  | resumeState | settling | sessionComplete =>
      simp only [ReceiveSession.advance, standing]
      exact ⟨_, _, rfl⟩
  | _ => simp [standing, ReceivePhase.goesAlone] at notifies

/-- What the sender has for a session that waits for it is taken. -/
theorem Steady.takes (provides : Provides host platform goods source)
    (steady : Steady host goods registry disk finals stored) (orderly : InOrder stored.session)
    (quiet : stored.session.phase.stores = false)
    (answers : Answers goods.offer source registry stored.session.phase event.answer) :
    stored.session.advance registry event = none ∨
      ∃ next after, stored.session.advance registry event = some (next, .ok after) := by
  have stands := steady.stands
  have same := steady.same
  obtain ⟨now, answer⟩ := event
  dsimp only at answers
  generalize standing : stored.session.phase = phase at answers
  cases answers with
  | done =>
      by_cases notifies : stored.session.phase.goesAlone = true
      · exact .inr (steady.notified now orderly notifies)
      · refine .inl ?_
        have loud : stored.session.phase.stores ≠ true := by
          rw [quiet]
          exact Bool.false_ne_true
        cases phase with
        | inside block call =>
            cases call <;> first
              | exact absurd (by rw [standing]; rfl) notifies
              | exact absurd (by rw [standing]; rfl) loud
              | simp [ReceiveSession.advance, ReceiveSession.advanceInside, standing]
        | _ => first
            | exact absurd (by rw [standing]; rfl) notifies
            | exact absurd (by rw [standing]; rfl) loud
            | simp [ReceiveSession.advance, standing]
  | query => exact .inr ⟨_, _, ReceiveSession.advance_query now same standing⟩
  | @start states index file listed =>
      simp only [Stands, standing] at stands
      have told := stands.2.1 index file (Nat.le_refl _) listed
      have member : file ∈ stored.session.origin.offer.files := by
        rw [same]
        exact List.mem_of_getElem? listed
      obtain ⟨created, record, made⟩ := getOrCreate_succeeds
        (StoreHost.resumesAt disk goods.offer.transferId finals file) now
        (by rw [same]; exact steady.recorded.resumable) member
      exact .inr ⟨_, _, ReceiveSession.advance_start now same standing listed told made⟩
  | @header block index =>
      simp only [Stands, standing] at stands
      obtain ⟨cursor, more, filling⟩ := stands
      have member := List.mem_of_getElem? filling.working.listed
      obtain ⟨info, found, counted⟩ := filling.working.counted
      have at_sender : cursor = senderCursor registry block :=
        counted.symm.trans (steady.alike block (by rw [standing]; rfl) info found)
      have positive : 0 < chunkSize := by decide
      rw [← at_sender]
      exact .inr ⟨_, _, ReceiveSession.advance_header now provides.identified
        (provides.offerable.identified _ member) same standing found counted
        ⟨by omega, Nat.le_refl _⟩⟩
  | @data block index declared =>
      simp only [Stands, standing] at stands
      obtain ⟨cursor, _, fits, filling⟩ := stands
      have member := List.mem_of_getElem? filling.working.listed
      obtain ⟨info, found, counted⟩ := filling.working.counted
      have at_sender : cursor = senderCursor registry block :=
        counted.symm.trans (steady.alike block (by rw [standing]; rfl) info found)
      have length : (((source block.offered).drop (senderCursor registry block)).take declared).length =
          declared := by
        rw [← at_sender, List.length_take, List.length_drop, provides.sized _ member]
        omega
      exact .inr ⟨_, _, ReceiveSession.advance_data now (by rw [length]; exact standing)⟩
  | fileEnd => exact .inr ⟨_, _, ReceiveSession.advance_fileEnd now same standing⟩
  | @knownEnd block finalPath =>
      have inside : stored.session.block? = some block := by
        simp only [ReceiveSession.block?, standing]
      obtain ⟨next, moved, verified, _⟩ :=
        steady.recorded.completes now finalPath steady.keyed steady.anchored same inside
      have ended := @ReceiveSession.advance_knownEnd registry stored.session goods.offer block
        finalPath now same standing
      rw [verified] at ended
      exact .inr ⟨_, _, ended⟩
  | fin => exact .inr ⟨_, _, ReceiveSession.advance_fin now same standing⟩

/-! ## Calls to the disk -/

/-- Outside a commit a call to the disk returns at once, and the session goes on. -/
theorem Steady.calls (provides : Provides host platform goods source) (verified : Verified host goods)
    (steady : Steady host goods registry disk finals stored)
    (stores : stored.session.phase.stores = true)
    (uncommitted : ∀ block, stored.session.phase ≠ .inside block .commit) :
    ∃ after handle answer, (∀ temp, stored.call host platform registry disk temp none =
        some (after, ⟨stored.session, handle, none⟩, some answer)) ∧
      (∀ now, ∃ next moved, stored.session.advance registry ⟨now, answer⟩ = some (next, .ok moved)) ∧
      ∀ block text, stored.session.phase = .inside block .hash → answer = .digest text →
        text = block.offered.sha256 := by
  have calm := steady.idle uncommitted
  have stands := steady.stands
  have same := steady.same
  have distinct := provides.offerable.distinct
  obtain ⟨session, handle, commit⟩ := stored
  dsimp only at calm stores same ⊢
  subst calm
  have unhashed {phase : ReceivePhase} {answer : ReceiveAnswer} (standing : session.phase = phase)
      (other : ∀ block, phase ≠ .inside block .hash) :
      ∀ block text, session.phase = .inside block .hash → answer = .digest text →
        text = block.offered.sha256 :=
    fun block text hashing => absurd (standing.symm.trans hashing) (other block)
  cases standing : session.phase with
  | prepare =>
      obtain ⟨after, states, called, follows, _⟩ :=
        stands.prepare provides.lawful provides.offerable provides.identified same standing
      exact ⟨after, handle, _, called,
        fun now => ⟨_, _, advance_of_undisturbed rfl (follows now)⟩,
        standing ▸ unhashed standing (by simp)⟩
  | completeSession =>
      obtain ⟨called, follows, _⟩ := stands.complete verified.restarts standing same
      exact ⟨_, handle, _, called, fun now => ⟨_, _, advance_of_undisturbed rfl (follows now)⟩,
        standing ▸ unhashed standing (by simp)⟩
  | inside block call =>
      cases call with
      | openPartial =>
          obtain ⟨after, inode, moved, called, _⟩ := stands.openPartial distinct same standing
          simp only [Stands, standing] at stands
          obtain ⟨info, found, _⟩ := stands.2.2.counted
          refine ⟨after, _, _, called, fun now => ?_, standing ▸ unhashed standing (by simp)⟩
          simp only [ReceiveSession.advance, standing, ReceiveSession.advanceInside, found]
          exact ⟨_, _, rfl⟩
      | write index raw =>
          obtain ⟨after, other, called, follows, _⟩ := stands.write distinct standing
          exact ⟨after, other, _, called, fun now => ⟨_, _, advance_of_undisturbed rfl (follows now)⟩,
            standing ▸ unhashed standing (by simp)⟩
      | hash =>
          obtain ⟨called, _⟩ := stands.hash same rfl standing
          simp only [Stands, standing] at stands
          obtain ⟨cursor, working⟩ := stands.working
          have member := List.mem_of_getElem? working.listed
          refine ⟨disk, handle, _, called, fun now => ?_, fun other text hashing told => ?_⟩
          · simp only [ReceiveSession.advance, standing, ReceiveSession.advanceInside]
            exact ⟨_, _, rfl⟩
          · cases hashing
            cases told
            exact verified.digest _ member _ (stands.resting.begun _ member) stands.whole
      | commit => exact absurd standing (uncommitted block)
      | markCompleted finalPath =>
          obtain ⟨after, path, called, _⟩ := stands.mark provides.lawful provides.offerable same
            steady.keyed steady.anchored standing
          refine ⟨after, handle, _, called, fun now => ?_, standing ▸ unhashed standing (by simp)⟩
          have inside : session.block? = some block := by simp only [ReceiveSession.block?, standing]
          obtain ⟨next, moved, outcome, _⟩ :=
            steady.recorded.completes now finalPath steady.keyed steady.anchored same inside
          simp only [ReceiveSession.advance, standing, ReceiveSession.advanceInside]
          exact ⟨next, moved, congrArg some outcome⟩
      | _ => simp [standing, ReceivePhase.stores] at stores
  | _ => simp [standing, ReceivePhase.stores] at stores

end

end DirectTransfer
