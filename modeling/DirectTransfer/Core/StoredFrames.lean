import DirectTransfer.Core.StoredCalls

/-! Sessions of different transfers share the receive directory and the records, and
nothing else: what one of them does leaves the others where they stand. -/

set_option autoImplicit false

namespace DirectTransfer

open Library

/-- What the sessions of a transfer touch: its directory, and names nothing has yet. -/
def TouchedBy (disk : Disk FilePath) (transferId : PyStr) (path : FilePath) : Prop :=
  path.directory = .session transferId ∨ (path.directory = .received ∧ disk.nodes.get path = none)

section

variable {disk after : Disk FilePath} {transferId fileId : PyStr} {path : FilePath}

theorem touchedBy_commit (touched : CommitNames disk (partialPath transferId fileId) path) :
    TouchedBy disk transferId path := by
  cases touched with
  | inl same => exact .inl (same ▸ rfl)
  | inr new => exact .inr new

theorem within_metadata (touched : MetadataNames transferId path) :
    path.directory = .session transferId := by
  cases touched with
  | inl temporary => exact temporary ▸ rfl
  | inr written => exact written ▸ rfl

theorem touchedBy_metadata (touched : MetadataNames transferId path) :
    TouchedBy disk transferId path := .inl (within_metadata touched)

/-- The directory of another transfer. -/
theorem untouched_directory {other : PyStr} (apart : other ≠ transferId)
    (within : path.directory = .session transferId) : ¬ TouchedBy disk other path := by
  intro touched
  cases touched with
  | inl inside => exact apart (Directory.session.inj (inside.symm.trans within))
  | inr new => cases new.1.symm.trans within

/-- A received file. -/
theorem untouched_received (place : path.directory = .received)
    (held : disk.nodes.get path ≠ none) : ¬ TouchedBy disk transferId path := by
  intro touched
  cases touched with
  | inl inside => cases inside.symm.trans place
  | inr new => exact held new.2

end

section Foreign

variable {host : StoreHost} {registry next : Registry} {disk after : Disk FilePath}
  {goods : Consignment} {finals : IncomingFile → Option FilePath} {stored : StoredSession}
  {block : FileBlock} {cursor : Nat} {other : PyStr}

theorem held_of_kept {transferId : PyStr} {file : IncomingFile} {path : FilePath}
    (kept : host.Kept disk transferId file path) : disk.nodes.get path ≠ none := by
  intro absent
  obtain ⟨octets, read, _⟩ := StoreHost.verifies_iff.mp kept.verified
  rw [Disk.read_of_free absent] at read
  cases read

theorem StoreHost.Kept.foreign {transferId : PyStr} {file : IncomingFile} {path : FilePath}
    (kept : host.Kept disk transferId file path) (place : path.directory = .received)
    (frame : Disk.Frame (TouchedBy disk other) disk after) :
    host.Kept after transferId file path := by
  have untouched := @untouched_received _ other _ place (held_of_kept kept)
  refine ⟨kept.outside, kept.resolves, kept.free, fun target => ?_, ?_⟩
  · rw [frame.nodes path untouched]
    exact kept.direct target
  · rw [StoreHost.verifies_congr (frame.read untouched kept.direct)]
    exact kept.verified

variable (apart : other ≠ goods.offer.transferId)
  (frame : Disk.Frame (TouchedBy disk other) disk after)

include apart frame

theorem partialOctets_foreign {file : IncomingFile}
    (own : OwnFile disk (partialPath goods.offer.transferId file.fileId)) :
    StoreHost.partialOctets after goods.offer.transferId file =
      StoreHost.partialOctets disk goods.offer.transferId file := by
  rw [StoreHost.partialOctets, frame.read (untouched_directory apart rfl) own.direct]
  rfl

theorem StoreHost.Resting.foreign (resting : host.Resting disk goods finals) :
    host.Resting after goods finals where
  shelved := {
    metadata := by
      obtain ⟨octets, existing, stored, parsed, listed⟩ := resting.shelved.metadata
      exact ⟨octets, existing, stored.frame frame (untouched_directory apart rfl), parsed, listed⟩
    temporary := resting.shelved.temporary.frame frame (untouched_directory apart rfl)
    partials := fun file member =>
      (resting.shelved.partials file member).frame frame (untouched_directory apart rfl)
    kept := fun file member path finished => (resting.shelved.kept file member path finished).foreign
      (resting.ended file member path finished).1 frame
    vacant := fun file member finished =>
      (frame.nodes _ (untouched_directory apart rfl)).trans
        (resting.shelved.vacant file member finished) }
  fits file member := by
    rw [partialOctets_foreign apart frame (resting.shelved.partials file member)]
    exact resting.fits file member
  begun file member := by
    rw [partialOctets_foreign apart frame (resting.shelved.partials file member)]
    exact resting.begun file member
  ended file member path finished := by
    obtain ⟨place, genuine⟩ := resting.ended file member path finished
    have kept := resting.shelved.kept file member path finished
    rw [frame.read (untouched_received place (held_of_kept kept)) kept.direct]
    exact ⟨place, genuine⟩

theorem StoreHost.Rests.foreign (rests : host.Rests disk goods finals) :
    host.Rests after goods finals := by
  cases rests with
  | bare bare unfinished starts =>
      refine .bare (fun path within => ?_) unfinished starts
      exact (frame.nodes path (untouched_directory apart within)).trans (bare path within)
  | left resting => exact .left (resting.foreign apart frame)

omit frame apart in
theorem awaits_of_partials {states : Dict PyStr ResumeFileState} {first : Nat}
    (awaits : host.Awaits disk goods.offer finals states first)
    (same : ∀ file ∈ goods.offer.files, StoreHost.partialOctets after goods.offer.transferId file =
      StoreHost.partialOctets disk goods.offer.transferId file) :
    host.Awaits after goods.offer finals states first :=
  awaits.change fun _ file _ listed => ⟨rfl, same file (List.mem_of_getElem? listed)⟩

theorem Working.foreign (resting : host.Resting disk goods finals)
    (working : Working host registry disk goods finals block cursor)
    (kept : KeepsCursor block.record registry next) :
    Working host next after goods finals block cursor := by
  have carried := working.carried kept
  exact ⟨carried.listed, carried.counted, awaits_of_partials carried.later fun file member =>
    partialOctets_foreign apart frame (resting.shelved.partials file member), carried.passed⟩

theorem Filling.foreign {handle : Option OpenPartial}
    (filling : Filling host registry disk goods finals block handle cursor)
    (kept : KeepsCursor block.record registry next) :
    Filling host next after goods finals block handle cursor where
  resting := filling.resting.foreign apart frame
  working := filling.working.foreign apart frame filling.resting kept
  unfinished := filling.unfinished
  opened := by
    obtain ⟨inode, handled, placed⟩ := filling.opened
    exact ⟨inode, handled, (frame.nodes _ (untouched_directory apart rfl)).trans placed⟩
  length := by
    rw [partialOctets_foreign apart frame (filling.resting.shelved.partials _
      (List.mem_of_getElem? filling.working.listed))]
    exact filling.length

theorem Filled.foreign (filled : Filled host registry disk goods finals block)
    (kept : KeepsCursor block.record registry next) :
    Filled host next after goods finals block := by
  obtain ⟨cursor, working⟩ := filled.working
  obtain ⟨inode, placed⟩ := filled.placed
  refine ⟨filled.resting.foreign apart frame,
    ⟨cursor, working.foreign apart frame filled.resting kept⟩, filled.unfinished,
    ⟨inode, (frame.nodes _ (untouched_directory apart rfl)).trans placed⟩, ?_⟩
  rw [partialOctets_foreign apart frame (filled.resting.shelved.partials _
    (List.mem_of_getElem? working.listed))]
  exact filled.whole

theorem Finished.foreign {finalPath : FinalPath}
    (finished : Finished host registry disk goods finals block finalPath)
    (kept : KeepsCursor block.record registry next) :
    Finished host next after goods finals block finalPath := by
  obtain ⟨cursor, working⟩ := finished.working
  exact ⟨finished.resting.foreign apart frame,
    ⟨cursor, working.foreign apart frame finished.resting kept⟩, finished.final⟩

theorem Unrecorded.foreign {finalPath : FinalPath}
    (unrecorded : Unrecorded host registry disk goods finals block finalPath)
    (kept : KeepsCursor block.record registry next) :
    Unrecorded host next after goods finals block finalPath := by
  obtain ⟨cursor, working⟩ := unrecorded.working
  obtain ⟨path, place, shown, stays, genuine⟩ := unrecorded.final
  refine ⟨unrecorded.resting.foreign apart frame,
    ⟨cursor, working.foreign apart frame unrecorded.resting kept⟩, unrecorded.unfinished,
    (frame.nodes _ (untouched_directory apart rfl)).trans unrecorded.vacant,
    path, place, shown, stays.foreign place frame, ?_⟩
  rw [frame.read (untouched_received place (held_of_kept stays)) stays.direct]
  exact genuine

theorem Committing.foreign {commit : Option CommitCall}
    (committing : Committing host registry disk goods finals block commit)
    (kept : KeepsCursor block.record registry next) :
    Committing host next after goods finals block commit := by
  have octets (filled : Filled host registry disk goods finals block) :
      StoreHost.partialOctets after goods.offer.transferId block.offered =
        StoreHost.partialOctets disk goods.offer.transferId block.offered := by
    obtain ⟨cursor, working⟩ := filled.working
    exact partialOctets_foreign apart frame (filled.resting.shelved.partials _
      (List.mem_of_getElem? working.listed))
  cases committing with
  | unbegun filled verified =>
      exact .unbegun (filled.foreign apart frame kept) (by rw [octets filled]; exact verified)
  | unlinked filled verified early =>
      exact .unlinked (filled.foreign apart frame kept) (by rw [octets filled]; exact verified) early
  | linked unrecorded =>
      have outside : ¬ TouchedBy disk other
          (partialPath goods.offer.transferId block.offered.fileId) := untouched_directory apart rfl
      refine .linked (unrecorded.foreign apart ((frame.unlink outside).widen fun path touched => ?_) kept)
      cases touched with
      | inl inside => exact .inl inside
      | inr new =>
          refine .inr ⟨new.1, ?_⟩
          rw [Disk.nodes_unlink, Dict.get_erase]
          split
          · rfl
          · exact new.2
  | ended unrecorded => exact .ended (unrecorded.foreign apart frame kept)

/-- A step of a session of another transfer. -/
theorem Stands.foreign (holds : Stands host registry disk goods finals stored)
    (kept : ∀ block, stored.session.fileBlock? = some block →
      KeepsCursor block.record registry next) :
    Stands host next after goods finals stored := by
  have awaits {states : Dict PyStr ResumeFileState} {first : Nat}
      (resting : host.Resting disk goods finals)
      (before : host.Awaits disk goods.offer finals states first) :
      host.Awaits after goods.offer finals states first :=
    awaits_of_partials before fun file member =>
      partialOctets_foreign apart frame (resting.shelved.partials file member)
  have octets {block : FileBlock} {cursor : Nat} (resting : host.Resting disk goods finals)
      (working : Working host registry disk goods finals block cursor) :
      StoreHost.partialOctets after goods.offer.transferId block.offered =
        StoreHost.partialOctets disk goods.offer.transferId block.offered :=
    partialOctets_foreign apart frame (resting.shelved.partials _
      (List.mem_of_getElem? working.listed))
  cases standing : stored.session.phase with
  | resumeQuery | prepare | settling _ _ | ended _ =>
      simp only [Stands, standing] at holds ⊢
      exact holds.foreign apart frame
  | resumeState states =>
      simp only [Stands, standing] at holds ⊢
      exact ⟨holds.1.foreign apart frame, awaits holds.1 holds.2⟩
  | fileStart states file =>
      simp only [Stands, standing] at holds ⊢
      obtain ⟨resting, told, passed⟩ := holds
      exact ⟨resting.foreign apart frame, awaits resting told, passed⟩
  | created block =>
      have cursor := kept block (by rw [ReceiveSession.fileBlock?, standing])
      simp only [Stands, standing] at holds ⊢
      obtain ⟨resting, working, told⟩ := holds
      refine ⟨resting.foreign apart frame, ?_, awaits resting told⟩
      rw [StoreHost.resumesAt, octets resting working]
      exact working.foreign apart frame resting cursor
  | fin | sessionComplete | completeSession =>
      simp only [Stands, standing] at holds ⊢
      exact ⟨holds.1.foreign apart frame, holds.2⟩
  | inside block call =>
      have cursor := kept block (by rw [ReceiveSession.fileBlock?, standing])
      cases call with
      | openPartial =>
          simp only [Stands, standing] at holds ⊢
          obtain ⟨resting, unfinished, working⟩ := holds
          rw [octets resting working]
          exact ⟨resting.foreign apart frame, unfinished,
            working.foreign apart frame resting cursor⟩
      | chunk index =>
          simp only [Stands, standing] at holds ⊢
          obtain ⟨place, more, filling⟩ := holds
          exact ⟨place, more, filling.foreign apart frame cursor⟩
      | chunkData index declared =>
          simp only [Stands, standing] at holds ⊢
          obtain ⟨place, positive, fits, filling⟩ := holds
          exact ⟨place, positive, fits, filling.foreign apart frame cursor⟩
      | write index raw =>
          simp only [Stands, standing] at holds ⊢
          obtain ⟨place, positive, fits, filling, genuine⟩ := holds
          refine ⟨place, positive, fits, filling.foreign apart frame cursor, ?_⟩
          rw [octets filling.resting filling.working]
          exact genuine
      | progress index =>
          simp only [Stands, standing] at holds ⊢
          obtain ⟨place, filling⟩ := holds
          exact ⟨place, filling.foreign apart frame cursor⟩
      | fileEnd | hash =>
          simp only [Stands, standing] at holds ⊢
          exact holds.foreign apart frame cursor
      | hashMismatch =>
          simp only [Stands, standing] at holds ⊢
          exact holds.foreign apart frame
      | commit =>
          simp only [Stands, standing] at holds ⊢
          exact holds.foreign apart frame cursor
      | markCompleted finalPath =>
          simp only [Stands, standing] at holds ⊢
          exact holds.foreign apart frame cursor
      | knownEnd finalPath | sendResult finalPath =>
          simp only [Stands, standing] at holds ⊢
          exact holds.foreign apart frame cursor
      | completed =>
          simp only [Stands, standing] at holds ⊢
          obtain ⟨resting, finished, place, working⟩ := holds
          exact ⟨resting.foreign apart frame, finished, place,
            working.foreign apart frame resting cursor⟩

end Foreign

end DirectTransfer
