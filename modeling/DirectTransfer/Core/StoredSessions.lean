import DirectTransfer.Core.CommitTermination
import DirectTransfer.Core.ChunkSessions
import DirectTransfer.Core.ReceivedRecords
import DirectTransfer.Core.TransferShelf

/-! A receiving session with its disk: what holds of the partials, of the metadata and
of the record of its file at every call it can stand at. -/

set_option autoImplicit false

namespace DirectTransfer

open Library

/-- An offer, and what the sessions may make of its files. -/
structure Consignment where
  offer : TransferOffer
  genuine : IncomingFile → Bytes → Prop

/-- A file that may be delivered may as well be begun anew. -/
def Consignment.Restarts (host : StoreHost) (goods : Consignment) : Prop :=
  ∀ file ∈ goods.offer.files, ∀ octets, goods.genuine file octets → octets.length = file.size →
    host.digests.hexdigest octets = file.sha256 → goods.genuine file []

/-- The path of a committed file resolves to itself, and JSON carries its text. -/
def StoreHost.Places (host : StoreHost) (platform : Platform) : Prop :=
  ∀ filename index, sanitizeFilename platform filename = .ok filename →
    host.resolve (host.render (received (candidateName filename index))) =
        .ok (some (received (candidateName filename index))) ∧
      PairFree (host.render (received (candidateName filename index)))

/-! ## Between two calls -/

namespace StoreHost

variable {host : StoreHost} {disk : Disk FilePath} {goods : Consignment} {offer : TransferOffer}
  {finals : IncomingFile → Option FilePath}

/-- A disk on which every file is on its way or recorded as finished. -/
structure Resting (host : StoreHost) (disk : Disk FilePath) (goods : Consignment)
    (finals : IncomingFile → Option FilePath) : Prop where
  shelved : host.Shelved disk goods.offer finals
  fits : ∀ file ∈ goods.offer.files,
    (partialOctets disk goods.offer.transferId file).length ≤ file.size
  begun : ∀ file ∈ goods.offer.files,
    goods.genuine file (partialOctets disk goods.offer.transferId file)
  ended : ∀ file ∈ goods.offer.files, ∀ path, finals file = some path →
    path.directory = .received ∧ ∀ octets, disk.read path = some octets → goods.genuine file octets

/-- A disk with nothing of a transfer. -/
def Bare (disk : Disk FilePath) (transferId : PyStr) : Prop :=
  ∀ path : FilePath, path.directory = .session transferId → disk.nodes.get path = none

/-- What the next session of a transfer comes upon. -/
inductive Rests (host : StoreHost) (disk : Disk FilePath) (goods : Consignment)
    (finals : IncomingFile → Option FilePath) : Prop where
  | bare : Bare disk goods.offer.transferId → (∀ file, finals file = none) →
      (∀ file ∈ goods.offer.files, goods.genuine file []) → Rests host disk goods finals
  | left : host.Resting disk goods finals → Rests host disk goods finals

/-- What the states of a session tell of the files from one on. -/
def Awaits (host : StoreHost) (disk : Disk FilePath) (offer : TransferOffer)
    (finals : IncomingFile → Option FilePath) (states : Dict PyStr ResumeFileState)
    (first : Nat) : Prop :=
  ∀ index file, first ≤ index → offer.files[index]? = some file → states.get file.fileId =
    some ⟨resumesAt disk offer.transferId finals file, (finals file).map host.shown⟩

theorem Awaits.later {states : Dict PyStr ResumeFileState} {first second : Nat}
    (awaits : host.Awaits disk offer finals states first) (reach : first ≤ second) :
    host.Awaits disk offer finals states second :=
  fun index file beyond listed => awaits index file (reach.trans beyond) listed

end StoreHost

/-- The files before one are finished. -/
def Passed (offer : TransferOffer) (finals : IncomingFile → Option FilePath) (first : Nat) : Prop :=
  ∀ index file, index < first → offer.files[index]? = some file → finals file ≠ none

theorem Passed.next {offer : TransferOffer} {finals : IncomingFile → Option FilePath} {first : Nat}
    {file : IncomingFile} (passed : Passed offer finals first)
    (listed : offer.files[first]? = some file) (finished : finals file ≠ none) :
    Passed offer finals (first + 1) := by
  intro index other before there
  cases Nat.lt_succ_iff_lt_or_eq.mp before with
  | inl earlier => exact passed index other earlier there
  | inr same =>
      rw [same, listed] at there
      cases there
      exact finished

theorem Passed.all {offer : TransferOffer} {finals : IncomingFile → Option FilePath}
    {file : IncomingFile} (passed : Passed offer finals offer.files.length)
    (member : file ∈ offer.files) :
    ∃ path, finals file = some path := by
  obtain ⟨index, listed⟩ := List.mem_iff_getElem?.mp member
  exact Option.ne_none_iff_exists'.mp
    (passed index file (List.getElem?_eq_some_iff.mp listed).1 listed)

/-! ## Inside a block -/

/-- The block a session is in, with the cursor of its record. -/
structure Working (host : StoreHost) (registry : Registry) (disk : Disk FilePath)
    (goods : Consignment) (finals : IncomingFile → Option FilePath) (block : FileBlock)
    (cursor : Nat) : Prop where
  listed : goods.offer.files[block.file]? = some block.offered
  counted : ∃ info, registry.transfers[block.record]? = some info ∧ info.bytesTransferred = cursor
  later : host.Awaits disk goods.offer finals block.states (block.file + 1)
  passed : Passed goods.offer finals block.file

/-- A file whose partial is open: it ends at the cursor, where the next write goes. -/
structure Filling (host : StoreHost) (registry : Registry) (disk : Disk FilePath)
    (goods : Consignment) (finals : IncomingFile → Option FilePath) (block : FileBlock)
    (handle : Option OpenPartial) (cursor : Nat) : Prop where
  resting : host.Resting disk goods finals
  working : Working host registry disk goods finals block cursor
  unfinished : finals block.offered = none
  opened : ∃ inode, handle = some ⟨inode, cursor⟩ ∧
    disk.nodes.get (partialPath goods.offer.transferId block.offered.fileId) = some (.file inode)
  length : (StoreHost.partialOctets disk goods.offer.transferId block.offered).length = cursor

/-- A file whose partial has its whole length. -/
structure Filled (host : StoreHost) (registry : Registry) (disk : Disk FilePath)
    (goods : Consignment) (finals : IncomingFile → Option FilePath) (block : FileBlock) :
    Prop where
  resting : host.Resting disk goods finals
  working : ∃ cursor, Working host registry disk goods finals block cursor
  unfinished : finals block.offered = none
  placed : ∃ inode,
    disk.nodes.get (partialPath goods.offer.transferId block.offered.fileId) = some (.file inode)
  whole : (StoreHost.partialOctets disk goods.offer.transferId block.offered).length =
    block.offered.size

/-- A file that is recorded as finished under the path a session tells of. -/
structure Finished (host : StoreHost) (registry : Registry) (disk : Disk FilePath)
    (goods : Consignment) (finals : IncomingFile → Option FilePath) (block : FileBlock)
    (finalPath : FinalPath) : Prop where
  resting : host.Resting disk goods finals
  working : ∃ cursor, Working host registry disk goods finals block cursor
  final : ∃ path, finals block.offered = some path ∧ finalPath = host.shown path

/-- A committed file that is not recorded yet. -/
structure Unrecorded (host : StoreHost) (registry : Registry) (disk : Disk FilePath)
    (goods : Consignment) (finals : IncomingFile → Option FilePath) (block : FileBlock)
    (finalPath : FinalPath) : Prop where
  resting : host.Resting disk goods finals
  working : ∃ cursor, Working host registry disk goods finals block cursor
  unfinished : finals block.offered = none
  vacant : disk.nodes.get (partialPath goods.offer.transferId block.offered.fileId) = none
  final : ∃ path, path.directory = .received ∧ finalPath = host.shown path ∧
    host.Kept disk goods.offer.transferId block.offered path ∧
    ∀ octets, disk.read path = some octets → goods.genuine block.offered octets

/-- How far the commit of a verified file has come. -/
inductive Committing (host : StoreHost) (registry : Registry) (disk : Disk FilePath)
    (goods : Consignment) (finals : IncomingFile → Option FilePath) (block : FileBlock) :
    Option CommitCall → Prop where
  | unbegun : Filled host registry disk goods finals block →
      host.digests.hexdigest (StoreHost.partialOctets disk goods.offer.transferId block.offered) =
        block.offered.sha256 →
      Committing host registry disk goods finals block none
  | unlinked {temp : PyStr} {phase : CommitPhase} :
      Filled host registry disk goods finals block →
      host.digests.hexdigest (StoreHost.partialOctets disk goods.offer.transferId block.offered) =
        block.offered.sha256 →
      (∃ index, phase = .probe false index ∨
        phase = .link (candidateName block.offered.name index)) →
      Committing host registry disk goods finals block
        (some ⟨partialPath goods.offer.transferId block.offered.fileId, block.offered.name, temp, phase⟩)
  | linked {temp name : PyStr} :
      Unrecorded host registry
        (disk.unlink (partialPath goods.offer.transferId block.offered.fileId)) goods finals block
        (host.shown (received name)) →
      Committing host registry disk goods finals block
        (some ⟨partialPath goods.offer.transferId block.offered.fileId, block.offered.name, temp,
          .unlinkLinked name⟩)
  | ended {temp name : PyStr} :
      Unrecorded host registry disk goods finals block (host.shown (received name)) →
      Committing host registry disk goods finals block
        (some ⟨partialPath goods.offer.transferId block.offered.fileId, block.offered.name, temp,
          .finished (.ok name)⟩)

/-- What holds at the call a session stands at. -/
def Stands (host : StoreHost) (registry : Registry) (disk : Disk FilePath) (goods : Consignment)
    (finals : IncomingFile → Option FilePath) (stored : StoredSession) : Prop :=
  match stored.session.phase with
  | .resumeQuery | .prepare | .settling _ _ | .ended _ => host.Rests disk goods finals
  | .resumeState states =>
      host.Resting disk goods finals ∧ host.Awaits disk goods.offer finals states 0
  | .fileStart states file => host.Resting disk goods finals ∧
      host.Awaits disk goods.offer finals states file ∧ Passed goods.offer finals file
  | .created block => host.Resting disk goods finals ∧
      Working host registry disk goods finals block
        (StoreHost.resumesAt disk goods.offer.transferId finals block.offered) ∧
      host.Awaits disk goods.offer finals block.states block.file
  | .inside block .openPartial => host.Resting disk goods finals ∧ finals block.offered = none ∧
      Working host registry disk goods finals block
        (StoreHost.partialOctets disk goods.offer.transferId block.offered).length
  | .inside block (.chunk _) => ∃ cursor, cursor < block.offered.size ∧
      Filling host registry disk goods finals block stored.handle cursor
  | .inside block (.chunkData _ declared) => ∃ cursor, 0 < declared ∧
      cursor + declared ≤ block.offered.size ∧
      Filling host registry disk goods finals block stored.handle cursor
  | .inside block (.write _ raw) => ∃ cursor, 0 < raw.length ∧
      cursor + raw.length ≤ block.offered.size ∧
      Filling host registry disk goods finals block stored.handle cursor ∧
      goods.genuine block.offered
        (StoreHost.partialOctets disk goods.offer.transferId block.offered ++ raw)
  | .inside block (.progress _) => ∃ cursor,
      Filling host registry disk goods finals block stored.handle cursor
  | .inside block .fileEnd | .inside block .hash =>
      Filled host registry disk goods finals block
  | .inside _ .hashMismatch => host.Resting disk goods finals
  | .inside block .commit => Committing host registry disk goods finals block stored.commit
  | .inside block (.markCompleted finalPath) =>
      Unrecorded host registry disk goods finals block finalPath
  | .inside block (.knownEnd finalPath) | .inside block (.sendResult finalPath) =>
      Finished host registry disk goods finals block finalPath
  | .inside block .completed => host.Resting disk goods finals ∧ finals block.offered ≠ none ∧
      ∃ cursor, Working host registry disk goods finals block cursor
  | .fin | .sessionComplete | .completeSession => host.Resting disk goods finals ∧
      Passed goods.offer finals goods.offer.files.length

section Steps

variable {host : StoreHost} {registry next : Registry} {disk : Disk FilePath}
  {goods : Consignment} {finals : IncomingFile → Option FilePath} {stored : StoredSession}
  {session : ReceiveSession} {event : ReceiveEvent} {block : FileBlock} {cursor : Nat}
  {origin : Origin} {recounted : Option Nat}

/-- Between its calls a session leaves the disk for the next one, but inside a commit. -/
theorem Stands.rests (holds : Stands host registry disk goods finals stored)
    (elsewhere : ∀ block, stored.session.phase ≠ .inside block .commit) :
    host.Rests disk goods finals := by
  unfold Stands at holds
  split at holds
  · exact holds
  · exact holds
  · exact holds
  · exact holds
  · exact .left holds.1
  · exact .left holds.1
  · exact .left holds.1
  · exact .left holds.1
  · obtain ⟨_, _, filling⟩ := holds
    exact .left filling.resting
  · obtain ⟨_, _, _, filling⟩ := holds
    exact .left filling.resting
  · obtain ⟨_, _, _, filling, _⟩ := holds
    exact .left filling.resting
  · obtain ⟨_, filling⟩ := holds
    exact .left filling.resting
  · exact .left holds.resting
  · exact .left holds.resting
  · exact .left holds
  · next block standing => exact absurd standing (elsewhere block)
  · exact .left holds.resting
  · exact .left holds.resting
  · exact .left holds.resting
  · exact .left holds.1
  · exact .left holds.1
  · exact .left holds.1
  · exact .left holds.1

/-- A record whose octets are counted as before. -/
def KeepsCursor (record : Nat) (registry next : Registry) : Prop :=
  ∀ info, registry.transfers[record]? = some info → ∃ new, next.transfers[record]? = some new ∧
    new.bytesTransferred = info.bytesTransferred

theorem keepsCursor_of_evolves {record : Nat} (evolves : registry.Evolves origin next)
    (kept : KeepsCounters recounted registry next) (other : recounted ≠ some record) :
    KeepsCursor record registry next := by
  intro info found
  obtain ⟨new, again, _⟩ := evolves.kept _ info found
  exact ⟨new, again, kept _ info new other found again⟩

theorem Working.carried (working : Working host registry disk goods finals block cursor)
    (kept : KeepsCursor block.record registry next) :
    Working host next disk goods finals block cursor where
  listed := working.listed
  counted := by
    obtain ⟨info, found, counted⟩ := working.counted
    obtain ⟨new, again, same⟩ := kept info found
    exact ⟨new, again, same.trans counted⟩
  later := working.later
  passed := working.passed

theorem Working.moved (working : Working host registry disk goods finals block cursor)
    (evolves : registry.Evolves origin next) :
    ∃ cursor, Working host next disk goods finals block cursor := by
  obtain ⟨info, found, _⟩ := working.counted
  obtain ⟨new, again, _⟩ := evolves.kept _ info found
  exact ⟨new.bytesTransferred, working.listed, ⟨new, again, rfl⟩, working.later, working.passed⟩

theorem Filling.carried {handle : Option OpenPartial}
    (filling : Filling host registry disk goods finals block handle cursor)
    (kept : KeepsCursor block.record registry next) :
    Filling host next disk goods finals block handle cursor :=
  ⟨filling.resting, filling.working.carried kept, filling.unfinished, filling.opened, filling.length⟩

theorem Finished.moved {finalPath : FinalPath}
    (finished : Finished host registry disk goods finals block finalPath)
    (evolves : registry.Evolves origin next) :
    Finished host next disk goods finals block finalPath := by
  obtain ⟨cursor, working⟩ := finished.working
  exact ⟨finished.resting, working.moved evolves, finished.final⟩

theorem Finished.finished {finalPath : FinalPath}
    (finished : Finished host registry disk goods finals block finalPath) :
    finals block.offered ≠ none := by
  obtain ⟨path, final, _⟩ := finished.final
  rw [final]
  exact Option.some_ne_none path

/-- A session at the head of the loop over the files. -/
theorem stands_nextFile {states : Dict PyStr ResumeFileState} {file : Nat}
    {handle : Option OpenPartial} {commit : Option CommitCall}
    (resting : host.Resting disk goods finals)
    (awaits : host.Awaits disk goods.offer finals states file)
    (passed : Passed goods.offer finals file) (same : session.origin.offer = goods.offer) :
    Stands host registry disk goods finals ⟨session.nextFile states file, handle, commit⟩ := by
  unfold ReceiveSession.nextFile ReceiveSession.moveTo
  split
  · exact ⟨resting, awaits, passed⟩
  · next past =>
      rw [same] at past
      refine ⟨resting, fun index offered before listed => ?_⟩
      exact passed index offered (before.trans_le (Nat.le_of_not_lt past)) listed

/-- A session at the head of the chunk loop. -/
theorem stands_chunkLoop {handle : Option OpenPartial} {commit : Option CommitCall} {index : Nat}
    (filling : Filling host registry disk goods finals block handle cursor) :
    Stands host registry disk goods finals
      ⟨session.chunkLoop registry block index, handle, commit⟩ := by
  obtain ⟨info, found, counted⟩ := filling.working.counted
  rw [ReceiveSession.chunkLoop_eq found counted]
  unfold ReceiveSession.moveTo
  by_cases more : cursor < block.offered.size
  · rw [if_pos more]
    exact ⟨cursor, more, filling⟩
  · rw [if_neg more]
    have fits := filling.resting.fits _ (List.mem_of_getElem? filling.working.listed)
    have length := filling.length
    obtain ⟨inode, _, placed⟩ := filling.opened
    exact ⟨filling.resting, ⟨cursor, filling.working⟩, filling.unfinished, ⟨inode, placed⟩, by omega⟩

theorem resumeRecord_counted {info resumed : TransferInfo} {sha256 : PyStr} {offset : Nat}
    {now : Time} (ok : resumeRecord info sha256 offset now = .ok resumed) :
    resumed.bytesTransferred = offset ∧ resumed.bytesTransferredThisAttempt = 0 := by
  simp only [resumeRecord, bind, Except.bind, pure, Except.pure] at ok
  by_cases terminal : isTerminal info.status = true
  · simp only [terminal, if_true] at ok
    cases ok
    exact ⟨rfl, rfl⟩
  · simp only [terminal, Bool.false_eq_true, if_false] at ok
    split at ok
    · cases ok
    · cases ok
      exact ⟨rfl, rfl⟩

/-- What a known or a new record of a file counts once its file has begun. -/
theorem getOrCreate_counted {offered : IncomingFile} {offset record : Nat} {now : Time}
    (ok : getOrCreate registry origin offered offset now = .ok (next, record)) :
    ∃ info, next.transfers[record]? = some info ∧ info.bytesTransferred = offset ∧
      info.bytesTransferredThisAttempt = 0 := by
  unfold getOrCreate at ok
  dsimp only at ok
  split at ok
  · cases ok
    exact ⟨newRecord origin offered offset now, by simp [Registry.append], rfl, rfl⟩
  · next known indexed =>
      split at ok
      · cases ok
      · next resumed made =>
          cases ok
          refine ⟨resumed, List.getElem?_set_self (registry.indexed _ _ indexed), ?_⟩
          exact resumeRecord_counted made

/-- The octets a session may be handed: those that make more of what is expected. -/
def Handed (disk : Disk FilePath) (goods : Consignment) (session : ReceiveSession)
    (event : ReceiveEvent) : Prop :=
  ∀ block index raw, session.phase = .inside block (.chunkData index raw.length) →
    event.answer = .octets raw →
    goods.genuine block.offered
      (StoreHost.partialOctets disk goods.offer.transferId block.offered) →
    goods.genuine block.offered
      (StoreHost.partialOctets disk goods.offer.transferId block.offered ++ raw)

/-- A frame or a notification changes nothing of the disk: the session stands. -/
theorem Stands.network (holds : Stands host registry disk goods finals stored)
    (same : stored.session.origin.offer = goods.offer) (keyed : registry.Keyed)
    (anchored : stored.session.Anchored registry)
    (quiet : stored.session.phase.stores = false) (handed : Handed disk goods stored.session event)
    (transition : ReceiveSession.Transition registry stored.session event next session) :
    Stands host next disk goods finals { stored with session } := by
  obtain ⟨evolves, _, _⟩ := transition.anchored keyed anchored
  have kept := Transition.counters transition
  have rests : host.Rests disk goods finals := by
    apply holds.rests
    intro block standing
    rw [standing] at quiet
    cases quiet
  obtain ⟨current, handle, commit⟩ := stored
  dsimp only at same keyed anchored quiet handed transition kept evolves
  have idle {phase : ReceivePhase} (standing : current.phase = phase)
      (free : (ReceiveSession.mk current.origin phase [] [] none).recounted registry = none) :
      current.recounted registry = none := by
    rw [← free]
    unfold ReceiveSession.recounted
    rw [standing]
    rfl
  cases transition with
  | queried standing answer valid => exact rests
  | prepared standing answer complete =>
      rw [standing] at quiet
      cases quiet
  | stateSent standing answer =>
      simp only [Stands, standing] at holds
      exact stands_nextFile holds.1 holds.2
        (fun index file before => absurd before (Nat.not_lt_zero index)) same
  | @began states file payload next offered state record standing answer there type transfer named
      known created =>
      simp only [Stands, standing] at holds
      obtain ⟨resting, awaits, passed⟩ := holds
      rw [same] at there
      cases (awaits file offered (Nat.le_refl _) there).symm.trans known
      obtain ⟨info, found, counted, _⟩ := getOrCreate_counted created
      exact ⟨resting, ⟨there, ⟨info, found, counted⟩, awaits.later (Nat.le_succ _), passed⟩, awaits⟩
  | absent standing beyond =>
      simpa only [Stands] using holds
  | @known block finalPath standing answer found =>
      simp only [Stands, standing] at holds
      obtain ⟨resting, working, awaits⟩ := holds
      rw [awaits _ _ (Nat.le_refl _) working.listed] at found
      obtain ⟨path, final, rfl⟩ := Option.map_eq_some_iff.mp found
      exact ⟨resting, ⟨_, working⟩, ⟨path, final, rfl⟩⟩
  | @entered block next standing answer unknown moved =>
      simp only [Stands, standing] at holds
      obtain ⟨resting, working, awaits⟩ := holds
      rw [awaits _ _ (Nat.le_refl _) working.listed] at unknown
      have unfinished := Option.map_eq_none_iff.mp unknown
      have offset : StoreHost.resumesAt disk goods.offer.transferId finals block.offered =
          (StoreHost.partialOctets disk goods.offer.transferId block.offered).length := by
        rw [StoreHost.resumesAt, unfinished]
        rfl
      rw [offset] at working
      refine ⟨resting, unfinished, working.carried (keepsCursor_of_evolves evolves kept ?_)⟩
      rw [idle standing rfl]
      intro impossible
      cases impossible
  | opened standing answer found =>
      rw [standing] at quiet
      cases quiet
  | @header block index declared payload standing answer checked =>
      simp only [Stands, standing] at holds
      obtain ⟨cursor, more, filling⟩ := holds
      obtain ⟨info, found, counted⟩ := filling.working.counted
      have fits := checkChunk_fits found (counted ▸ Nat.le_of_lt more) checked
      refine ⟨cursor, ?_, counted ▸ fits, filling⟩
      unfold ReceiveSession.checkChunk at checked
      split at checked
      · split at checked <;> cases checked
      · simp only [found] at checked
        exact (validateChunkControl_bounded checked).1
  | @data block index raw standing answer =>
      simp only [Stands, standing] at holds
      obtain ⟨cursor, positive, fits, filling⟩ := holds
      have member := List.mem_of_getElem? filling.working.listed
      exact ⟨cursor, positive, fits, filling,
        handed block index raw standing answer (filling.resting.begun _ member)⟩
  | written standing answer =>
      rw [standing] at quiet
      cases quiet
  | @progressed block index standing answer =>
      simp only [Stands, standing] at holds
      obtain ⟨cursor, filling⟩ := holds
      exact stands_chunkLoop filling
  | @finished block payload standing answer expected =>
      simp only [Stands, standing] at holds
      exact holds
  | hashed standing answer =>
      rw [standing] at quiet
      cases quiet
  | committed standing answer =>
      rw [standing] at quiet
      cases quiet
  | marked standing answer moved =>
      rw [standing] at quiet
      cases quiet
  | @recognised block finalPath payload next standing answer expected moved =>
      simp only [Stands, standing] at holds
      exact holds.moved evolves
  | @resultSent block finalPath standing answer =>
      simp only [Stands, standing] at holds
      exact ⟨holds.resting, holds.finished, holds.working⟩
  | @notified block standing answer =>
      simp only [Stands, standing] at holds
      obtain ⟨resting, finished, cursor, working⟩ := holds
      exact stands_nextFile resting working.later (working.passed.next working.listed finished) same
  | fin standing answer expected =>
      simp only [Stands, standing] at holds
      exact holds
  | confirmed standing answer =>
      simp only [Stands, standing] at holds
      exact holds
  | closed standing answer =>
      rw [standing] at quiet
      cases quiet
  | settled standing answer => exact rests
  | escaped outside raises => exact rests
  | handled inside raises verified handler moved => exact rests
  | refused inside raises verified handler refusal => exact rests

/-- A call that raises, of any phase but a commit. -/
theorem Stands.fails {error : Raised} (holds : Stands host registry disk goods finals stored)
    (stores : stored.session.phase.stores = true)
    (elsewhere : ∀ block, stored.session.phase ≠ .inside block .commit)
    (raises : event.answer = .raised error)
    (transition : ReceiveSession.Transition registry stored.session event next session) :
    Stands host next disk goods finals { stored with session } := by
  have rests := holds.rests elsewhere
  obtain ⟨current, handle, commit⟩ := stored
  dsimp only at stores raises transition
  cases transition with
  | settled => exact rests
  | escaped outside raises => exact rests
  | handled inside raises verified handler moved => exact rests
  | refused inside raises verified handler refusal => exact rests
  | absent standing beyond =>
      rw [standing] at stores
      cases stores
  | queried _ answer | prepared _ answer | stateSent _ answer | began _ answer | known _ answer
  | entered _ answer | opened _ answer | header _ answer | data _ answer | written _ answer
  | progressed _ answer | finished _ answer | hashed _ answer | committed _ answer
  | marked _ answer | recognised _ answer | resultSent _ answer | notified _ answer
  | fin _ answer | confirmed _ answer | closed _ answer => cases answer.symm.trans raises

end Steps

end DirectTransfer
