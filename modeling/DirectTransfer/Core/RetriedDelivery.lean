import DirectTransfer.Core.ClosedTransfers
import DirectTransfer.Core.CommitTermination
import Mathlib.Data.Prod.Lex

/-! A session that is not cut: whatever the sessions before it have left, it comes to its end
with all files, unless one of them has come there before. -/

set_option autoImplicit false

namespace DirectTransfer

open Library

/-! ## What is left of a commit -/

section

variable {host : StoreHost} {registry : Registry} {disk after : Disk FilePath} {goods : Consignment}
  {finals : IncomingFile → Option FilePath} {block : FileBlock} {call next : CommitCall}

/-- The first number whose name is free. -/
def firstFree (disk : Disk FilePath) (filename : PyStr) : Nat :=
  Nat.find (p := fun index => disk.holds (received (candidateName filename index)) = false)
    ((exists_firstFree disk filename).imp fun _ free => free.2)

/-- A commit on its way to a name: it has come past no free one, and links to no other. -/
def CommitCall.Aims (disk : Disk FilePath) (call : CommitCall) : Prop :=
  match call.phase with
  | .probe _ index => index ≤ firstFree disk call.filename
  | .link name => disk.nodes.get (received name) = none
  | _ => True

/-- How many calls a commit has left. -/
def CommitCall.left (disk : Disk FilePath) (call : CommitCall) : Nat :=
  match call.phase with
  | .probe _ index => firstFree disk call.filename - index + 3
  | .link _ => 2
  | .unlinkLinked _ => 1
  | _ => 0

theorem Committing.left (committing : Committing host registry disk goods finals block (some call))
    (direct : Direct disk) (aims : call.Aims disk)
    (stepped : call.step disk none = some (after, next)) :
    next.Aims after ∧ next.left after < call.left disk := by
  cases committing with
  | unlinked filled verified early =>
      obtain ⟨index, rfl | rfl⟩ := early
      · simp only [CommitCall.step, CommitCall.moveTo] at stepped
        simp only [CommitCall.Aims] at aims
        split at stepped
        · next held =>
            cases stepped
            have apart : index ≠ firstFree disk block.offered.name := by
              intro same
              have free := Nat.find_spec (p := fun index =>
                disk.holds (received (candidateName block.offered.name index)) = false)
                ((exists_firstFree disk block.offered.name).imp fun _ free => free.2)
              rw [same] at held
              exact Bool.false_ne_true (free.symm.trans held)
            simp only [CommitCall.Aims, CommitCall.left]
            omega
        · next free =>
            cases stepped
            refine ⟨direct.free rfl (by simpa using free), ?_⟩
            simp only [CommitCall.left, Bool.false_eq_true, if_false]
            omega
      · obtain ⟨inode, placed⟩ := filled.placed
        simp only [CommitCall.step, CommitCall.moveTo] at stepped
        simp only [CommitCall.Aims] at aims
        split at stepped
        · cases stepped
          exact ⟨trivial, by simp [CommitCall.left]⟩
        · next taken =>
            unfold Disk.link at taken
            rw [aims] at taken
            simp only [Option.isSome_none, Bool.false_eq_true, if_false] at taken
            split at taken <;> cases taken
        · next missing => exact absurd missing (link_found placed)
  | linked unrecorded =>
      cases stepped
      exact ⟨trivial, by simp [CommitCall.left, CommitCall.moveTo]⟩
  | ended unrecorded => cases stepped

end

/-! ## What is left of a session -/

/-- How many calls of a session are left at most, the chunks of a file and the names tried for
it counted as one each. -/
def ReceivePhase.rank (files : Nat) : ReceivePhase → Nat
  | .resumeQuery => 10 * files + 12
  | .prepare => 10 * files + 11
  | .resumeState _ => 10 * files + 10
  | .fileStart _ file => 10 * (files - file) + 9
  | .created block => 10 * (files - block.file) + 8
  | .inside block call => 10 * (files - block.file) + match call with
    | .openPartial => 7
    | .chunk _ | .chunkData _ _ | .write _ _ | .progress _ => 6
    | .fileEnd => 5
    | .hash => 4
    | .commit | .hashMismatch | .knownEnd _ => 3
    | .markCompleted _ => 2
    | .sendResult _ => 1
    | .completed => 0
  | .fin => 3
  | .sessionComplete => 2
  | .completeSession => 1
  | .settling _ _ | .ended _ => 0

/-- How many octets of its file a block still waits for. -/
def FileBlock.awaits (registry : Registry) (block : FileBlock) : Nat :=
  block.offered.size - ((registry.transfers[block.record]?).elim 0 TransferInfo.bytesTransferred)

/-- How far a session is from the end of its chunks, or of its commit. -/
def StoredSession.left (registry : Registry) (disk : Disk FilePath) (stored : StoredSession) : Nat :=
  match stored.session.phase with
  | .inside block call => match call with
    | .progress _ => 4 * block.awaits registry + 3
    | .chunk _ => 4 * block.awaits registry + 2
    | .chunkData _ _ => 4 * block.awaits registry + 1
    | .write _ _ => 4 * block.awaits registry
    | .commit => (stored.commit.elim (firstFree disk block.offered.name + 3) (CommitCall.left disk))
    | _ => 0
  | _ => 0

section

variable {registry next : Registry} {session moved : ReceiveSession} {event : ReceiveEvent}
  {disk after : Disk FilePath} {handle last : Option OpenPartial} {commit : Option CommitCall}
  {files : Nat}

open ReceiveSession in
/-- Each step of a session brings it nearer to its end. -/
theorem nearer_of_transition {offer : TransferOffer} (anchored : session.Anchored registry)
    (same : session.origin.offer = offer) (ordered : InOrder session)
    (undisturbed : session.phase.disturbed = false)
    (advanced : session.advance registry event = some (next, .ok moved))
    (writes : ∀ block index raw, session.phase = .inside block (.write index raw) →
      ∃ info, registry.transfers[block.record]? = some info ∧ 0 < raw.length ∧
        info.bytesTransferred + raw.length ≤ block.offered.size)
    (transition : Transition registry session event next moved) :
    moved.phase.rank offer.files.length < session.phase.rank offer.files.length ∨
      (moved.phase.rank offer.files.length = session.phase.rank offer.files.length ∧
        StoredSession.left next after ⟨moved, last, none⟩ <
          StoredSession.left registry disk ⟨session, handle, commit⟩) := by
  have within {block : FileBlock} (inside : session.fileBlock? = some block) :
      block.file < offer.files.length := by
    have listed := anchored.offered block inside
    rw [same] at listed
    exact (List.getElem?_eq_some_iff.mp listed).1
  cases transition with
  | queried standing | prepared standing =>
      rw [standing]
      exact .inl (by simp [ReceivePhase.rank, moveTo])
  | stateSent standing =>
      rw [standing]
      unfold nextFile moveTo
      split
      · exact .inl (by simp [ReceivePhase.rank])
      · exact .inl (by simp only [ReceivePhase.rank]; omega)
  | began standing =>
      rw [standing]
      exact .inl (by simp [ReceivePhase.rank])
  | absent standing beyond =>
      simp only [InOrder, standing] at ordered
      rw [List.getElem?_eq_none_iff] at beyond
      omega
  | known standing | entered standing =>
      rw [standing]
      exact .inl (by simp [ReceivePhase.rank])
  | opened standing =>
      rw [standing]
      unfold ReceiveSession.chunkLoop moveTo
      split
      · split <;> exact .inl (by simp [ReceivePhase.rank])
      · exact .inl (by simp [ReceivePhase.rank])
  | header standing | data standing =>
      refine .inr ⟨by rw [standing]; rfl, ?_⟩
      simp only [StoredSession.left, standing, moveTo]
      omega
  | @written block index raw standing =>
      refine .inr ⟨by rw [standing]; rfl, ?_⟩
      obtain ⟨info, found, positive, fits⟩ := writes _ _ _ standing
      have received : (registry.receive block raw.length).transfers[block.record]? = some { info with
          bytesTransferred := info.bytesTransferred + raw.length
          bytesTransferredThisAttempt := info.bytesTransferredThisAttempt + raw.length } := by
        rw [Registry.receive, Registry.update, found]
        exact List.getElem?_set_self (List.getElem?_eq_some_iff.mp found).1
      simp only [StoredSession.left, standing, moveTo, FileBlock.awaits, found, received, Option.elim]
      omega
  | progressed standing =>
      rw [standing]
      unfold ReceiveSession.chunkLoop moveTo
      split
      · split
        · refine .inr ⟨rfl, ?_⟩
          simp only [StoredSession.left, standing]
          omega
        · exact .inl (by simp [ReceivePhase.rank])
      · exact .inl (by simp [ReceivePhase.rank])
  | finished standing | committed standing | marked standing | recognised standing
  | resultSent standing =>
      rw [standing]
      exact .inl (by simp [ReceivePhase.rank, moveTo])
  | hashed standing =>
      rw [standing]
      dsimp only [moveTo]
      split <;> exact .inl (by simp [ReceivePhase.rank])
  | @notified block standing =>
      have bound := within (by rw [fileBlock?, standing])
      rw [standing]
      unfold nextFile moveTo
      split
      · exact .inl (by simp only [ReceivePhase.rank]; omega)
      · exact .inl (by simp only [ReceivePhase.rank]; omega)
  | fin standing | confirmed standing | closed standing =>
      rw [standing]
      exact .inl (by simp [ReceivePhase.rank, moveTo])
  | settled standing =>
      rw [standing] at undisturbed
      cases undisturbed
  | escaped _ raises | handled _ raises | refused _ raises => cases advanced.symm.trans raises

open ReceiveSession in
theorem undisturbed_of_transition (undisturbed : session.phase.disturbed = false)
    (advanced : session.advance registry event = some (next, .ok moved))
    (transition : Transition registry session event next moved) :
    moved.phase.disturbed = false := by
  cases transition with
  | stateSent | notified =>
      unfold nextFile moveTo
      split <;> rfl
  | opened | progressed =>
      unfold ReceiveSession.chunkLoop moveTo
      split
      · split <;> rfl
      · rfl
  | absent => exact undisturbed
  | settled standing =>
      rw [standing] at undisturbed
      cases undisturbed
  | escaped _ raises | handled _ raises | refused _ raises => cases advanced.symm.trans raises
  | _ => rfl

end

/-! ## The last session -/

section

variable {host : StoreHost} {platform : Platform} {goods : Consignment} {offer : TransferOffer}
  {source : IncomingFile → Bytes} {start disk : Disk FilePath} {state next : StoredReceiver}
  {finals : Finals} {recorded : IncomingFile → Option FilePath} {registry : Registry}
  {stored : StoredSession} {index : Nat}

/-- The sender has something for every session that waits for it. -/
theorem Steady.goes (now : Time) (provides : Provides host platform goods source)
    (steady : Steady host goods registry disk recorded stored) (ordered : InOrder stored.session)
    (live : stored.Live) (quiet : stored.session.phase.stores = false) :
    ∃ answer next after, Answers goods.offer source registry stored.session.phase answer ∧
      stored.session.advance registry ⟨now, answer⟩ = some (next, .ok after) := by
  have alone (goesAlone : stored.session.phase.goesAlone = true) :
      ∃ answer next after, Answers goods.offer source registry stored.session.phase answer ∧
        stored.session.advance registry ⟨now, answer⟩ = some (next, .ok after) := by
    obtain ⟨next, after, advanced⟩ := steady.notified now ordered goesAlone
    exact ⟨.done, next, after, .done, advanced⟩
  have asked {answer : ReceiveAnswer}
      (answers : Answers goods.offer source registry stored.session.phase answer)
      (taken : stored.session.advance registry ⟨now, answer⟩ ≠ none) :
      ∃ answer next after, Answers goods.offer source registry stored.session.phase answer ∧
        stored.session.advance registry ⟨now, answer⟩ = some (next, .ok after) := by
    rcases @Steady.takes host platform goods source registry disk recorded stored ⟨now, answer⟩
        provides steady ordered quiet answers with none | ⟨next, after, advanced⟩
    · exact absurd none taken
    · exact ⟨answer, next, after, answers, advanced⟩
  cases standing : stored.session.phase with
  | resumeQuery =>
      rw [standing] at asked
      refine asked .query ?_
      simp only [ReceiveSession.advance, standing]
      split <;> exact Option.some_ne_none _
  | fileStart states file =>
      simp only [InOrder, standing, steady.same] at ordered
      rw [standing] at asked
      refine asked (.start (List.getElem?_eq_getElem ordered)) ?_
      simp only [ReceiveSession.advance, standing]
      exact Option.some_ne_none _
  | fin =>
      rw [standing] at asked
      refine asked .fin ?_
      simp only [ReceiveSession.advance, standing]
      split <;> exact Option.some_ne_none _
  | inside block call =>
      cases call with
      | chunk index =>
          rw [standing] at asked
          refine asked .header ?_
          simp only [ReceiveSession.advance, standing, ReceiveSession.advanceInside]
          split <;> exact Option.some_ne_none _
      | chunkData index declared =>
          rw [standing] at asked
          refine asked .data ?_
          simp only [ReceiveSession.advance, standing, ReceiveSession.advanceInside]
          split <;> exact Option.some_ne_none _
      | fileEnd =>
          rw [standing] at asked
          refine asked .fileEnd ?_
          simp only [ReceiveSession.advance, standing, ReceiveSession.advanceInside]
          split <;> exact Option.some_ne_none _
      | knownEnd finalPath =>
          rw [standing] at asked
          refine asked .knownEnd ?_
          simp only [ReceiveSession.advance, standing, ReceiveSession.advanceInside]
          split <;> exact Option.some_ne_none _
      | progress | sendResult | completed =>
          rw [standing] at alone
          exact alone rfl
      | hashMismatch => simp [InOrder, standing] at ordered
      | _ => simp [standing, ReceivePhase.stores] at quiet
  | resumeState | created | settling | sessionComplete =>
      rw [standing] at alone
      exact alone rfl
  | ended outcome => exact absurd standing (live outcome)
  | _ => simp [standing, ReceivePhase.stores] at quiet

theorem step_of_network {event : ReceiveEvent} {session : ReceiveSession}
    (found : state.sessions[index]? = some stored) (quiet : stored.session.phase.stores = false)
    (advanced : stored.session.advance state.registry event = some (registry, .ok session)) :
    storedStep host platform state (.network index event) =
      some ⟨registry, state.disk, state.sessions.set index { stored with session }⟩ := by
  simp only [storedStep, found, quiet, Option.bind_eq_bind, Option.bind_some, Bool.false_eq_true,
    if_false, ReceiveSession.step_of_advance advanced]
  rfl

theorem step_of_returned {now : Time} {temp : PyStr} {answer : ReceiveAnswer}
    {session : ReceiveSession} {after : StoredSession}
    (found : state.sessions[index]? = some stored)
    (called : stored.call host platform state.registry state.disk temp none =
      some (disk, after, some answer))
    (follows : after.session.step state.registry ⟨now, answer⟩ = some (registry, session)) :
    storedStep host platform state (.storage index now temp none) =
      some ⟨registry, disk, state.sessions.set index { after with session }⟩ := by
  simp only [storedStep, found, called, Option.bind_eq_bind, Option.bind_some, follows]
  rfl

theorem step_of_waiting {now : Time} {temp : PyStr} {after : StoredSession}
    (found : state.sessions[index]? = some stored)
    (called : stored.call host platform state.registry state.disk temp none =
      some (disk, after, none)) :
    storedStep host platform state (.storage index now temp none) =
      some ⟨state.registry, disk, state.sessions.set index after⟩ := by
  simp only [storedStep, found, called, Option.bind_eq_bind, Option.bind_some]
  rfl

/-- A session that nothing has disturbed so far. -/
structure Going (host : StoreHost) (offer : TransferOffer) (source : IncomingFile → Bytes)
    (start : Disk FilePath) (index : Nat) (state : StoredReceiver) (finals : Finals)
    (stored : StoredSession) : Prop where
  retrying : Retrying host offer source start state finals
  found : state.sessions[index]? = some stored
  undisturbed : stored.session.phase.disturbed = false
  aims : ∀ call, stored.commit = some call → call.Aims state.disk

theorem Going.live (going : Going host offer source start index state finals stored) : stored.Live := by
  intro outcome closed
  cases outcome with
  | ok done => exact going.retrying.unended stored (List.mem_of_getElem? going.found) closed
  | error error =>
      have undisturbed := going.undisturbed
      rw [closed] at undisturbed
      cases undisturbed

theorem Going.steady (going : Going host offer source start index state finals stored) :
    Steady host (sourced offer source) state.registry state.disk (finals offer.transferId) stored :=
  going.retrying.steady (List.mem_of_getElem? going.found) going.live

theorem Going.ordered (going : Going host offer source start index state finals stored) :
    InOrder stored.session :=
  (going.retrying.running stored (List.mem_of_getElem? going.found) going.live).orderly

/-- It can always go on. -/
theorem Going.progress (lawful : host.Lawful) (places : host.Places platform)
    (once : OfferedOnce platform (· = offer)) (honest : Honest host offer source)
    (going : Going host offer source start index state finals stored) :
    ∃ label next, Uncut offer source state label ∧
      storedStep host platform state label = some next := by
  obtain ⟨payload, valid⟩ := once.valid offer rfl
  have provides := provides_sourced lawful places valid honest.sized
  have steady := going.steady
  have found := going.found
  cases stores : stored.session.phase.stores with
  | false =>
      obtain ⟨answer, next, after, answers, advanced⟩ :=
        steady.goes 0 provides going.ordered going.live stores
      refine ⟨.network index ⟨0, answer⟩, _, ?_, step_of_network found stores advanced⟩
      intro other there
      cases found.symm.trans there
      exact answers
  | true =>
      by_cases committing : ∃ block, stored.session.phase = .inside block .commit
      · obtain ⟨block, standing⟩ := committing
        have listed := steady.anchored.offered block (by rw [ReceiveSession.fileBlock?, standing])
        rw [steady.same] at listed
        have accepted := provides.offerable.named _ (List.mem_of_getElem? listed)
        cases steady.stands.commit honest.verified.restarts provides.offerable.distinct steady.same
            places accepted standing [] with
        | inl waiting =>
            obtain ⟨disk, call, called, _⟩ := waiting
            exact ⟨.storage index 0 [] none, _, rfl, step_of_waiting found called⟩
        | inr returns =>
            obtain ⟨name, called, follows, _⟩ := returns
            exact ⟨.storage index 0 [] none, _, rfl, step_of_returned found called (follows 0)⟩
      · obtain ⟨disk, handle, answer, called, advanced, _⟩ := steady.calls provides honest.verified
          stores fun block standing => committing ⟨block, standing⟩
        obtain ⟨next, moved, advanced⟩ := advanced 0
        exact ⟨.storage index 0 [] none, _, rfl,
          step_of_returned found (called []) (ReceiveSession.step_of_advance advanced)⟩

/-- What is left of the session at an index. -/
def StoredReceiver.left (files index : Nat) (state : StoredReceiver) : Nat ×ₗ Nat :=
  match state.sessions[index]? with
  | some stored => toLex (stored.session.phase.rank files, stored.left state.registry state.disk)
  | none => toLex (0, 0)

/-- A session at its end, so that its `session_complete` has been sent, with exactly the files of
the offer in the receive directory. -/
def Delivers (offer : TransferOffer) (source : IncomingFile → Bytes) (start : Disk FilePath)
    (index : Nat) (finish : StoredReceiver) : Prop :=
  (∃ stored, finish.sessions[index]? = some stored ∧ stored.session.phase = .ended (.ok ())) ∧
    ExactGain offer source start finish.disk

theorem left_of_found {files : Nat} (found : state.sessions[index]? = some stored) :
    state.left files index =
      toLex (stored.session.phase.rank files, stored.left state.registry state.disk) := by
  rw [StoredReceiver.left, found]

/-- Its step brings it nearer to the end. -/
theorem Going.onward {event : ReceiveEvent} {moved : ReceiveSession} {handle : Option OpenPartial}
    {changed : Finals} (going : Going host offer source start index state finals stored)
    (retrying : Retrying host offer source start
      ⟨registry, disk, state.sessions.set index ⟨moved, handle, none⟩⟩ changed)
    (advanced : stored.session.advance state.registry event = some (registry, .ok moved)) :
    (∃ changed after, Going host offer source start index
      ⟨registry, disk, state.sessions.set index ⟨moved, handle, none⟩⟩ changed after) ∧
      StoredReceiver.left offer.files.length index
          ⟨registry, disk, state.sessions.set index ⟨moved, handle, none⟩⟩ <
        state.left offer.files.length index := by
  have steady := going.steady
  have transition := ReceiveSession.step_transition (ReceiveSession.step_of_advance advanced)
  have placed : (state.sessions.set index (⟨moved, handle, none⟩ : StoredSession))[index]? =
      some ⟨moved, handle, none⟩ :=
    List.getElem?_set_self (List.getElem?_eq_some_iff.mp going.found).1
  have writes : ∀ block index raw, stored.session.phase = .inside block (.write index raw) →
      ∃ info, state.registry.transfers[block.record]? = some info ∧ 0 < raw.length ∧
        info.bytesTransferred + raw.length ≤ block.offered.size := by
    intro block index raw standing
    have stands := steady.stands
    simp only [Stands, standing] at stands
    obtain ⟨cursor, positive, fits, filling, _⟩ := stands
    obtain ⟨info, found, counted⟩ := filling.working.counted
    exact ⟨info, found, positive, counted ▸ fits⟩
  refine ⟨⟨changed, _, retrying, placed,
    undisturbed_of_transition going.undisturbed advanced transition,
    fun call impossible => (by cases impossible)⟩, ?_⟩
  rw [left_of_found going.found, left_of_found placed, Prod.Lex.toLex_lt_toLex]
  exact nearer_of_transition steady.anchored steady.same going.ordered going.undisturbed advanced
    writes transition

/-- A call of its commit brings it nearer to the end. -/
theorem Going.commits {temp : PyStr} {block : FileBlock} {call : CommitCall} {changed : Finals}
    (going : Going host offer source start index state finals stored)
    (retrying : Retrying host offer source start
      ⟨state.registry, disk, state.sessions.set index { stored with commit := some call }⟩ changed)
    (standing : stored.session.phase = .inside block .commit)
    (accepted : sanitizeFilename platform block.offered.name = .ok block.offered.name)
    (called : stored.call host platform state.registry state.disk temp none =
      some (disk, { stored with commit := some call }, none)) :
    (∃ changed after, Going host offer source start index
      ⟨state.registry, disk, state.sessions.set index { stored with commit := some call }⟩
      changed after) ∧
      StoredReceiver.left offer.files.length index
          ⟨state.registry, disk, state.sessions.set index { stored with commit := some call }⟩ <
        state.left offer.files.length index := by
  have steady := going.steady
  have ahead := ahead_of_waiting standing steady.same called
  have stands := steady.stands
  simp only [Stands, standing] at stands
  have started := @Committing.start host platform _ _ _ _ block stored.commit temp accepted stands
  have placed : (state.sessions.set index { stored with commit := some call })[index]? =
      some { stored with commit := some call } :=
    List.getElem?_set_self (List.getElem?_eq_some_iff.mp going.found).1
  have aims : (stored.commit.getD (.start platform (partialPath offer.transferId
      block.offered.fileId) block.offered.name temp)).Aims state.disk := by
    cases began : stored.commit with
    | some own => exact going.aims own began
    | none => simp only [Option.getD_none, CommitCall.start, accepted, CommitCall.Aims, Nat.zero_le]
  obtain ⟨aimed, less⟩ := started.left steady.direct aims ahead
  refine ⟨⟨changed, _, retrying, placed, going.undisturbed, fun other same => ?_⟩, ?_⟩
  · cases same
    exact aimed
  · rw [left_of_found going.found, left_of_found placed, Prod.Lex.toLex_lt_toLex]
    refine .inr ⟨rfl, ?_⟩
    have before : stored.left state.registry state.disk = (stored.commit.getD (.start platform
        (partialPath offer.transferId block.offered.fileId) block.offered.name temp)).left
          state.disk := by
      simp only [StoredSession.left, standing]
      cases stored.commit with
      | some own => rfl
      | none => simp only [Option.getD_none, CommitCall.start, accepted, CommitCall.left,
          Option.elim_none, Nat.sub_zero]
    rw [before]
    simp only [StoredSession.left, standing, Option.elim_some]
    exact less

/-- Each of its steps brings it nearer to the end, or is the last. -/
theorem Going.descends {label : StoredLabel} (lawful : host.Lawful) (places : host.Places platform)
    (once : OfferedOnce platform (· = offer)) (honest : Honest host offer source)
    (going : Going host offer source start index state finals stored)
    (uncut : Uncut offer source state label)
    (stepped : storedStep host platform state label = some next) :
    Delivers offer source start index next ∨
      (∃ changed after, Going host offer source start index next changed after) ∧
        next.left offer.files.length index < state.left offer.files.length index := by
  obtain ⟨payload, valid⟩ := once.valid offer rfl
  have provides := provides_sourced lawful places valid honest.sized
  have retrying := going.retrying
  have steady := going.steady
  have found := going.found
  have only {place : Nat} {other : StoredSession} (there : state.sessions[place]? = some other)
      (lives : other.Live) : place = index ∧ other = stored := by
    have here : place = index := by
      by_contra apart
      exact retrying.attended.alone found going.live there apart lives
    rw [here, found] at there
    cases there
    exact ⟨here, rfl⟩
  cases label with
  | accept => exact uncut.elim
  | restart => exact uncut.elim
  | network place event =>
      have retried : Retried platform offer source state (.network place event) :=
        fun other there => .inl (uncut other there)
      have again := retrying.network lawful places once honest.sized retried stepped
      cases storedStep_cases stepped with
      | @told _ _ other registry session there quiet sessionStepped =>
          have lives := live_of_step sessionStepped
          obtain ⟨rfl, rfl⟩ := only there lives
          have calm := steady.idle fun block standing => by
            rw [standing] at quiet
            cases quiet
          rcases steady.takes provides going.ordered quiet (uncut other there) with
            none | ⟨middle, moved, advanced⟩
          · simp [ReceiveSession.step, none] at sessionStepped
          · cases (ReceiveSession.step_of_advance advanced).symm.trans sessionStepped
            obtain ⟨current, handle, commit⟩ := other
            dsimp only at calm
            subst calm
            exact .inr (going.onward again advanced)
  | storage place now temp failure =>
      cases uncut
      obtain ⟨other, there, stores⟩ := storage_cases stepped
      have lives := live_of_stores stores
      obtain ⟨rfl, rfl⟩ := only there lives
      by_cases closing : other.session.phase = .completeSession
      · obtain ⟨gained, ended, _⟩ :=
          retrying.completes lawful places once honest.sized found closing stepped
        exact .inl ⟨ended, gained⟩
      refine .inr ?_
      obtain ⟨changed, again⟩ := retrying.storage lawful places once honest
        (fun session here => by cases found.symm.trans here; exact closing) stepped
      by_cases committing : ∃ block, other.session.phase = .inside block .commit
      · obtain ⟨block, standing⟩ := committing
        have listed := steady.anchored.offered block (by rw [ReceiveSession.fileBlock?, standing])
        rw [steady.same] at listed
        have accepted := provides.offerable.named _ (List.mem_of_getElem? listed)
        cases steady.stands.commit honest.verified.restarts provides.offerable.distinct steady.same
            places accepted standing temp with
        | inl waiting =>
            obtain ⟨disk, call, called, _⟩ := waiting
            cases (step_of_waiting found called).symm.trans stepped
            exact going.commits again standing accepted called
        | inr returns =>
            obtain ⟨name, called, follows, _⟩ := returns
            cases (step_of_returned found called (follows now)).symm.trans stepped
            exact going.onward again (advance_of_undisturbed rfl (follows now))
      · obtain ⟨disk, handle, answer, called, advanced, _⟩ := steady.calls provides honest.verified
          stores fun block standing => committing ⟨block, standing⟩
        obtain ⟨registry, moved, advanced⟩ := advanced now
        cases (step_of_returned found (called temp)
          (ReceiveSession.step_of_advance advanced)).symm.trans stepped
        exact going.onward again advanced

end

/-! ## Deliveries -/

section

variable {host : StoreHost} {platform : Platform} {offer : TransferOffer}
  {source : IncomingFile → Bytes} {start : Disk FilePath} {state middle begun : StoredReceiver}
  {finals : Finals} {stored : StoredSession} {index count : Nat} {labels : List StoredLabel}
  {peerIp peerDeviceId : PyStr} {payload : Json}

theorem Uncut.retried {label : StoredLabel} (uncut : Uncut offer source state label) :
    Retried platform offer source state label := by
  cases label with
  | accept => exact uncut.elim
  | restart => exact uncut.elim
  | network index event => exact fun stored found => .inl (uncut stored found)
  | storage => exact uncut

theorem once_of_valid (valid : validateOffer platform payload = .ok offer) :
    OfferedOnce platform (· = offer) where
  valid _ offered := ⟨payload, offered ▸ valid⟩
  apart _ _ offered offered' _ := offered.trans offered'.symm

theorem nonempty_of_valid (valid : validateOffer platform payload = .ok offer) :
    0 < offer.files.length := by
  obtain ⟨rawFiles, total, _, _, _, counted, validated, _⟩ := validateOffer_cases valid
  rw [validateFiles_length validated]
  exact counted.1

/-- A session that nothing has disturbed comes to its end, with all files. -/
theorem Going.inevitable (lawful : host.Lawful) (places : host.Places platform)
    (once : OfferedOnce platform (· = offer)) (honest : Honest host offer source)
    (going : Going host offer source start index state finals stored) :
    Inevitable (storedStep host platform) (Uncut offer source)
      (Delivers offer source start index) state := by
  refine .of_measure (fun state => ∃ finals stored,
      Going host offer source start index state finals stored)
    (StoredReceiver.left offer.files.length index) (fun state known => ?_)
    (fun state label next known uncut stepped => ?_) ⟨finals, stored, going⟩
  · obtain ⟨finals, stored, going⟩ := known
    exact going.progress lawful places once honest
  · obtain ⟨finals, stored, going⟩ := known
    exact going.descends lawful places once honest uncut stepped

/-- Where the transfer is closed, no further session comes to its end. -/
theorem Concluded.undelivered (lawful : host.Lawful) (places : host.Places platform)
    (once : OfferedOnce platform (· = offer)) (nonempty : 0 < offer.files.length)
    (concluded : Concluded host offer source count state finals) (beyond : count ≤ index) :
    ¬ Inevitable (storedStep host platform) (Uncut offer source)
      (Delivers offer source start index) state := by
  intro inevitable
  obtain ⟨labels, finish, run, ⟨stored, found, ended⟩, _⟩ := inevitable.run
  have finished := run.invariant (fun _ _ _ concluded uncut stepped =>
    Concluded.step lawful places once nonempty concluded uncut.retried stepped) concluded
  have opening := finished.opening index stored beyond found
  rw [ended] at opening
  cases opening

/-- Whatever connections have been lost before, the session that keeps its own delivers if and
only if no session before it has come to its end. -/
theorem retries_deliver_iff (lawful : host.Lawful) (places : host.Places platform)
    (honest : Honest host offer source) (bare : StoreHost.Bare start offer.transferId)
    (direct : Direct start)
    (run : Run (storedStep host platform) (Retried platform offer source) ⟨.empty, start, []⟩
      labels middle)
    (retried : Retried platform offer source middle (.accept peerIp peerDeviceId payload))
    (accepts : storedStep host platform middle (.accept peerIp peerDeviceId payload) = some begun) :
    Inevitable (storedStep host platform) (Uncut offer source)
        (Delivers offer source start middle.sessions.length) begun ↔
      ∀ stored ∈ middle.sessions, stored.session.phase ≠ .ended (.ok ()) := by
  have once := once_of_valid retried.1
  have nonempty := nonempty_of_valid retried.1
  rcases (Retrying.begin bare direct).run lawful places once nonempty honest run with
    ⟨finals, retrying⟩ | ⟨count, finals, concluded⟩
  · refine ⟨fun _ => retrying.unended, fun _ => ?_⟩
    have again := retrying.accept once retried accepts
    obtain ⟨registry, disk, sessions⟩ := middle
    cases (step_accepts retried.1).symm.trans accepts
    exact Going.inevitable lawful places once honest
      ⟨again, beside_sessions, rfl, fun call impossible => (by cases impossible)⟩
  · refine ⟨fun inevitable => ?_, fun unended => ?_⟩
    · exact absurd inevitable ((concluded.accept once retried accepts).undelivered lawful places once
        nonempty concluded.bound)
    · obtain ⟨place, stored, found, ended⟩ := concluded.closed
      exact absurd ended (unended stored (List.mem_of_getElem? found))

end

/-! ## Two files -/

section

variable {host : StoreHost} {platform : Platform} {offer : TransferOffer}
  {source : IncomingFile → Bytes} {others : List StoredSession} {registry : Registry}
  {disk : Disk FilePath} {session : ReceiveSession} {handle : Option OpenPartial}
  {block : FileBlock}

theorem retried_allows : Allows others offer source (Retried platform offer source) where
  network _ _ _ _ answers _ stored found := by
    cases beside_sessions.symm.trans found
    exact .inl answers
  storage _ _ _ _ _ _ := rfl

theorem onward_network {event : ReceiveEvent} {next : Registry} {moved : ReceiveSession}
    (quiet : session.phase.stores = false)
    (admitted : Answers offer source registry session.phase event.answer ∨ Lost event.answer)
    (stepped : session.step registry event = some (next, moved)) :
    Onward host platform (Retried platform offer source)
      (beside others registry disk ⟨session, handle, none⟩)
      (beside others next disk ⟨moved, handle, none⟩) := by
  have guarded : Retried platform offer source (beside others registry disk ⟨session, handle, none⟩)
      (.network others.length event) := by
    intro stored found
    cases beside_sessions.symm.trans found
    exact admitted
  exact ⟨_, .single guarded (by simp [storedStep, beside, quiet, stepped])⟩

/-- A session whose connection is lost behind the last octet of a file. -/
theorem cut_at_fileEnd (standing : session.phase = .inside block .fileEnd) :
    ∃ next moved error, moved.phase = .ended (.error error) ∧
      Onward host platform (Retried platform offer source)
        (beside others registry disk ⟨session, handle, none⟩)
        (beside others next disk ⟨moved, handle, none⟩) := by
  have quiet : session.phase.stores = false := by
    rw [standing]
    rfl
  have lost : session.advance registry ⟨0, .raised ⟨.osError, []⟩⟩ =
      some (registry, .error ⟨.osError, []⟩) := by
    simp only [ReceiveSession.advance, standing, ReceiveSession.advanceInside]
    rfl
  obtain ⟨next, moved, leaves, ended⟩ : ∃ next moved,
      session.leave registry ⟨.osError, []⟩ 0 = (next, moved) ∧
        ((∃ error, moved.phase = .ended (.error error)) ∨
          moved.phase = .settling block (.error ⟨.osError, []⟩)) := by
    have inside : ReceiveSession.block? { session with failure := some ⟨.osError, []⟩ } =
        some block := by
      simp only [ReceiveSession.block?, standing]
    have handler : ReceiveSession.handlerStatus ⟨.osError, []⟩ =
      some (.interrupted, py "Connection interrupted") := rfl
    simp only [ReceiveSession.leave, inside, handler]
    split
    · exact ⟨_, _, rfl, .inl ⟨_, rfl⟩⟩
    · exact ⟨_, _, rfl, .inr rfl⟩
  have stepped : session.step registry ⟨0, .raised ⟨.osError, []⟩⟩ = some (next, moved) := by
    rw [ReceiveSession.step, lost]
    exact congrArg some leaves
  have first := @onward_network host platform offer source others registry disk session handle _ _ _
    quiet (.inr ⟨_, rfl, .inl rfl⟩) stepped
  cases ended with
  | inl ended =>
      obtain ⟨error, ended⟩ := ended
      exact ⟨next, moved, error, ended, first⟩
  | inr settling =>
      have settled : moved.step next ⟨0, .done⟩ = some (next, { moved with
          phase := .ended (.error ⟨.osError, []⟩), unnotified := [] }) := by
        simp only [ReceiveSession.step, ReceiveSession.advance, settling]
      exact ⟨next, _, _, rfl, first.trans
        (onward_network (by rw [settling]; rfl) (.inl .done) settled)⟩

end

open StoreHost in
/-- Two files, the first of which was cut behind its last octet: the second session delivers. -/
theorem cut_pair_delivers : ∃ labels middle begun error,
    Run (storedStep shelfHost asciiPlatform) (Retried asciiPlatform pairOffer pairSource)
      ⟨.empty, Disk.empty, []⟩ labels middle ∧
    partialOctets middle.disk pairOffer.transferId firstFile = pairSource firstFile ∧
    middle.sessions.map (fun stored => stored.session.phase) = [.ended (.error error)] ∧
    storedStep shelfHost asciiPlatform middle (.accept [] [] pairBatch.offerFrame) = some begun ∧
    Inevitable (storedStep shelfHost asciiPlatform) (Uncut pairOffer pairSource)
      (Delivers pairOffer pairSource Disk.empty 1) begun := by
  obtain ⟨next, after, session, last, block, standing, offered, steady, fills⟩ :=
    pair_fills zeros_provided retried_allows rfl pair_starts
  obtain ⟨registry, moved, error, ended, cut⟩ := cut_at_fileEnd standing
  have fresh : Retried asciiPlatform pairOffer pairSource ⟨.empty, Disk.empty, []⟩
      (.accept [] [] pairBatch.offerFrame) :=
    ⟨pairOffer_valid, fun _ member => absurd member List.not_mem_nil⟩
  obtain ⟨labels, run⟩ := pair_run Disk.empty fresh (fills.trans cut)
  have stands := steady.stands
  simp only [Stands, standing] at stands
  obtain ⟨cursor, working⟩ := stands.working
  have member := List.mem_of_getElem? working.listed
  have begun := stands.resting.begun block.offered member
  have whole := begun.eq_of_length (stands.whole.trans (pair_honest.sized _ member).symm)
  have past : ∀ stored ∈ (beside [] registry after ⟨moved, last, none⟩).sessions, ¬ stored.Live := by
    intro stored among
    cases List.mem_singleton.mp among
    exact not_live_of_ended ended
  have again : Retried asciiPlatform pairOffer pairSource (beside [] registry after ⟨moved, last, none⟩)
      (.accept [] [] pairBatch.offerFrame) := ⟨pairOffer_valid, past⟩
  refine ⟨labels, _, _, error, run, ?_, congrArg (fun phase => [phase]) ended,
    step_accepts pairOffer_valid, ?_⟩
  · rw [offered] at whole
    exact whole
  · refine (retries_deliver_iff shelfHost_lawful (shelfHost_places _) pair_honest (empty_bare _)
      empty_direct run again (step_accepts pairOffer_valid)).mpr fun stored among closed => ?_
    cases List.mem_singleton.mp among
    cases ended.symm.trans closed

open StoreHost in
/-- Two files that have arrived, but whose sender did not hear of it: the second session does not
come to its end. -/
theorem unheard_pair_undelivered : ∃ labels middle begun,
    Run (storedStep shelfHost asciiPlatform) (Retried asciiPlatform pairOffer pairSource)
      ⟨.empty, Disk.empty, []⟩ labels middle ∧
    Retried asciiPlatform pairOffer pairSource middle (.accept [] [] pairBatch.offerFrame) ∧
    storedStep shelfHost asciiPlatform middle (.accept [] [] pairBatch.offerFrame) = some begun ∧
    ¬ Inevitable (storedStep shelfHost asciiPlatform) (Uncut pairOffer pairSource)
      (Delivers pairOffer pairSource Disk.empty middle.sessions.length) begun := by
  obtain ⟨next, after, changed, moved, last, phase, steady, confirms⟩ := pair_confirms retried_allows
  obtain ⟨final, stored, ended, _, _, closes⟩ := steady.closes 0 zeros_provided
    pair_honest.verified.restarts retried_allows phase fun _ => rfl
  have fresh : Retried asciiPlatform pairOffer pairSource ⟨.empty, Disk.empty, []⟩
      (.accept [] [] pairBatch.offerFrame) :=
    ⟨pairOffer_valid, fun _ member => absurd member List.not_mem_nil⟩
  obtain ⟨labels, run⟩ := pair_run Disk.empty fresh (confirms.trans closes)
  have past : ∀ other ∈ (beside [] next final stored).sessions, ¬ other.Live := by
    intro other among
    cases List.mem_singleton.mp among
    exact not_live_of_ended ended
  have again : Retried asciiPlatform pairOffer pairSource (beside [] next final stored)
      (.accept [] [] pairBatch.offerFrame) := ⟨pairOffer_valid, past⟩
  have nonempty := nonempty_of_valid pairOffer_valid
  refine ⟨labels, _, _, run, again, step_accepts pairOffer_valid, ?_⟩
  rcases (Retrying.begin (empty_bare _) empty_direct).run shelfHost_lawful (shelfHost_places _)
      pair_once nonempty pair_honest run with ⟨finals, retrying⟩ | ⟨count, finals, concluded⟩
  · exact absurd ended (retrying.unended stored (List.mem_singleton_self _))
  · exact (concluded.accept pair_once again (step_accepts pairOffer_valid)).undelivered
      shelfHost_lawful (shelfHost_places _) pair_once nonempty concluded.bound

end DirectTransfer
