import DirectTransfer.Core.StoredSessions

/-! The calls of a receiving session that go to the disk: what each answers, where the
session stands after it, and what it leaves alone. -/

set_option autoImplicit false

namespace DirectTransfer

open Library

namespace StoreHost

variable {host : StoreHost} {disk next : Disk FilePath} {offer : TransferOffer}
  {file : IncomingFile} {finals : IncomingFile → Option FilePath}

/-- What a commit leaves: its file under a new name, and its partial gone. -/
theorem Shelved.commit {name : PyStr} {inode : Nat} (shelved : host.Shelved disk offer finals)
    (distinct : (offer.files.map IncomingFile.fileId).Nodup) (member : file ∈ offer.files)
    (unfinished : finals file = none)
    (stored : disk.nodes.get (partialPath offer.transferId file.fileId) = some (.file inode))
    (linked : disk.link (partialPath offer.transferId file.fileId) (received name) = .ok next) :
    host.Shelved (next.unlink (partialPath offer.transferId file.fileId)) offer finals ∧
      (next.unlink (partialPath offer.transferId file.fileId)).nodes.get
        (partialPath offer.transferId file.fileId) = none ∧
      Disk.Frame (fun path => path = partialPath offer.transferId file.fileId ∨
        path = received name) disk (next.unlink (partialPath offer.transferId file.fileId)) ∧
      (next.unlink (partialPath offer.transferId file.fileId)).nodes.get (received name) =
        some (.file inode) ∧
      (next.unlink (partialPath offer.transferId file.fileId)).contents inode =
        disk.contents inode ∧ disk.nodes.get (received name) = none := by
  obtain ⟨free, other, found, nodes, contents, _⟩ := Disk.link_ok linked
  cases (Disk.inode?_of_node stored).symm.trans found
  have frame := (Disk.frame_link linked stored).trans
    ((Disk.frame_unlink next (partialPath offer.transferId file.fileId)).widen
      fun path same => .inl same)
  have gone : (next.unlink (partialPath offer.transferId file.fileId)).nodes.get
      (partialPath offer.transferId file.fileId) = none := by
    rw [Disk.nodes_unlink, Dict.get_erase_self]
  have outside {path : FilePath} (within : path.directory = .session offer.transferId) :
      path ≠ received name := by
    intro same
    rw [same] at within
    cases within
  have elsewhere {other : IncomingFile} (included : other ∈ offer.files) (apart : other ≠ file) :
      partialPath offer.transferId other.fileId ≠ partialPath offer.transferId file.fileId :=
    fun same => apart (List.inj_on_of_nodup_map distinct included member (partialPath_inj same))
  have untouched {path : FilePath} (within : path.directory = .session offer.transferId)
      (apart : path ≠ partialPath offer.transferId file.fileId) :
      ¬ (path = partialPath offer.transferId file.fileId ∨ path = received name) :=
    not_or.mpr ⟨apart, outside within⟩
  refine ⟨⟨?_, ?_, ?_, ?_, ?_⟩, gone, frame, ?_, ?_, free⟩
  · obtain ⟨octets, existing, held, parsed, listed⟩ := shelved.metadata
    exact ⟨octets, existing, held.frame frame (untouched rfl (partialPath_ne_metadata _ _).symm),
      parsed, listed⟩
  · exact shelved.temporary.frame frame (untouched rfl (partialPath_ne_temporary _ _).symm)
  · intro other included
    by_cases same : other = file
    · rw [same]
      exact .free gone
    · exact (shelved.partials other included).frame frame (untouched rfl (elsewhere included same))
  · intro other included path finished
    have kept := shelved.kept other included path finished
    have apart : ¬ (path = partialPath offer.transferId file.fileId ∨ path = received name) := by
      intro touched
      cases touched with
      | inl same => exact kept.outside (same ▸ rfl)
      | inr same =>
          obtain ⟨octets, read, _⟩ := verifies_iff.mp kept.verified
          rw [same, Disk.read_of_free free] at read
          cases read
    refine ⟨kept.outside, kept.resolves, kept.free, fun target => ?_, ?_⟩
    · rw [frame.nodes path apart]
      exact kept.direct target
    · rw [verifies_congr (frame.read apart kept.direct)]
      exact kept.verified
  · intro other included finished
    have apart : other ≠ file := fun same => finished (same ▸ unfinished)
    rw [frame.nodes _ (untouched rfl (elsewhere included apart))]
    exact shelved.vacant other included finished
  · rw [Disk.nodes_unlink, Dict.get_erase_ne (outside rfl).symm, nodes, Dict.get_set_self]
  · rw [Disk.contents_unlink, contents]

end StoreHost

section Calls

variable {host : StoreHost} {platform : Platform} {registry next : Registry}
  {disk after : Disk FilePath} {goods : Consignment} {finals : IncomingFile → Option FilePath}
  {stored : StoredSession} {session : ReceiveSession} {event : ReceiveEvent} {block : FileBlock}
  {cursor : Nat} {file other : IncomingFile}

theorem fileIds_apart (distinct : (goods.offer.files.map IncomingFile.fileId).Nodup)
    {first second : Nat} (here : goods.offer.files[first]? = some file)
    (there : goods.offer.files[second]? = some other) (apart : first ≠ second) :
    other.fileId ≠ file.fileId := by
  intro same
  have listed {index : Nat} {listed : IncomingFile} (found : goods.offer.files[index]? = some listed) :
      (goods.offer.files.map IncomingFile.fileId)[index]? = some listed.fileId := by
    rw [List.getElem?_map, found]
    rfl
  have bound : first < (goods.offer.files.map IncomingFile.fileId).length :=
    (List.getElem?_eq_some_iff.mp (listed here)).1
  exact apart ((List.getElem?_inj bound distinct).mp ((listed here).trans (same ▸ (listed there).symm)))

/-- What a later session is told of a file is told by its partial and its final path. -/
theorem StoreHost.Awaits.change {states : Dict PyStr ResumeFileState} {first : Nat}
    {others : IncomingFile → Option FilePath}
    (awaits : host.Awaits disk goods.offer finals states first)
    (same : ∀ index file, first ≤ index → goods.offer.files[index]? = some file →
      others file = finals file ∧
      StoreHost.partialOctets after goods.offer.transferId file =
        StoreHost.partialOctets disk goods.offer.transferId file) :
    host.Awaits after goods.offer others states first := by
  intro index file beyond found
  obtain ⟨kept, octets⟩ := same index file beyond found
  rw [awaits index file beyond found, StoreHost.resumesAt, StoreHost.resumesAt, octets, kept]

/-- A change of the partial of a file that no state tells of any more. -/
theorem Working.reshape
    (working : Working host registry disk goods finals block cursor)
    (distinct : (goods.offer.files.map IncomingFile.fileId).Nodup)
    (own : ∀ file ∈ goods.offer.files, OwnFile disk (partialPath goods.offer.transferId file.fileId))
    (frame : Disk.Frame (· = partialPath goods.offer.transferId block.offered.fileId) disk after) :
    Working host registry after goods finals block cursor where
  listed := working.listed
  counted := working.counted
  later := by
    refine working.later.change fun index later beyond found => ⟨rfl, ?_⟩
    have apart : later.fileId ≠ block.offered.fileId :=
      fileIds_apart distinct working.listed found (by omega)
    exact StoreHost.partialOctets_frame frame (own later (List.mem_of_getElem? found)) apart
  passed := working.passed

theorem StoreHost.Resting.reshape (resting : host.Resting disk goods finals)
    (frame : Disk.Frame (· = partialPath goods.offer.transferId file.fileId) disk after)
    (own : OwnFile after (partialPath goods.offer.transferId file.fileId))
    (distinct : (goods.offer.files.map IncomingFile.fileId).Nodup)
    (member : file ∈ goods.offer.files) (unfinished : finals file = none)
    (fits : (StoreHost.partialOctets after goods.offer.transferId file).length ≤ file.size)
    (genuine : goods.genuine file (StoreHost.partialOctets after goods.offer.transferId file)) :
    host.Resting after goods finals where
  shelved := resting.shelved.reshape frame own distinct member unfinished
  fits other included := by
    by_cases same : other = file
    · rw [same]
      exact fits
    · have apart : other.fileId ≠ file.fileId := fun equal =>
        same (List.inj_on_of_nodup_map distinct included member equal)
      rw [StoreHost.partialOctets_frame frame (resting.shelved.partials other included) apart]
      exact resting.fits other included
  begun other included := by
    by_cases same : other = file
    · rw [same]
      exact genuine
    · have apart : other.fileId ≠ file.fileId := fun equal =>
        same (List.inj_on_of_nodup_map distinct included member equal)
      rw [StoreHost.partialOctets_frame frame (resting.shelved.partials other included) apart]
      exact resting.begun other included
  ended other included path finished := by
    obtain ⟨place, contents⟩ := resting.ended other included path finished
    have kept := resting.shelved.kept other included path finished
    have apart : path ≠ partialPath goods.offer.transferId file.fileId := by
      intro same
      rw [same] at place
      cases place
    refine ⟨place, fun octets read => contents octets ?_⟩
    rw [← frame.read apart kept.direct]
    exact read

/-- The step that follows a call inside a block that has returned. -/
theorem step_inside {call : BlockCall} {moved : ReceiveSession}
    (standing : session.phase = .inside block call)
    (advanced : session.advanceInside registry block call event = some (next, .ok moved)) :
    session.step registry event = some (next, moved) := by
  unfold ReceiveSession.step ReceiveSession.advance
  simp only [standing, advanced]

section

variable (distinct : (goods.offer.files.map IncomingFile.fileId).Nodup)
  (same : stored.session.origin.offer = goods.offer)

include same in
theorem partialOf_eq : stored.partialOf block =
    partialPath goods.offer.transferId block.offered.fileId := by
  rw [← same]
  rfl

include distinct same

/-- Opening the partial brings a session to its chunks, or to the end of its file. -/
theorem Stands.openPartial (holds : Stands host registry disk goods finals stored)
    (standing : stored.session.phase = .inside block .openPartial) :
    ∃ after inode moved,
      (∀ temp, stored.call host platform registry disk temp none = some (after,
        { stored with handle := some ⟨inode,
          (StoreHost.partialOctets disk goods.offer.transferId block.offered).length⟩ }, some .done)) ∧
      (∀ now, stored.session.step registry ⟨now, .done⟩ = some (registry, moved)) ∧
      Stands host registry after goods finals ⟨moved, some ⟨inode,
        (StoreHost.partialOctets disk goods.offer.transferId block.offered).length⟩, stored.commit⟩ ∧
      Disk.Frame (· = partialPath goods.offer.transferId block.offered.fileId) disk after := by
  simp only [Stands, standing] at holds
  obtain ⟨resting, unfinished, working⟩ := holds
  have member := List.mem_of_getElem? working.listed
  obtain ⟨info, found, counted⟩ := working.counted
  obtain ⟨after, inode, opened, placed, content, own, frame⟩ :=
    StoreHost.open_ok (resting.shelved.partials _ member)
  have octets : StoreHost.partialOctets after goods.offer.transferId block.offered =
      StoreHost.partialOctets disk goods.offer.transferId block.offered :=
    (StoreHost.partialOctets_node placed).trans content
  have rests : host.Resting after goods finals :=
    resting.reshape frame own distinct member unfinished (octets ▸ resting.fits _ member)
      (octets ▸ resting.begun _ member)
  have filling : Filling host registry after goods finals block (some ⟨inode,
      (StoreHost.partialOctets disk goods.offer.transferId block.offered).length⟩)
      (StoreHost.partialOctets disk goods.offer.transferId block.offered).length :=
    ⟨rests, working.reshape distinct resting.shelved.partials frame, unfinished,
      ⟨inode, rfl, placed⟩, congrArg List.length octets⟩
  refine ⟨after, inode, stored.session.chunkLoop registry block (info.bytesTransferred / chunkSize),
    fun temp => ?_, fun now => step_inside standing ?_, stands_chunkLoop filling, frame⟩
  · simp only [StoredSession.call, StoredSession.storeCall, standing, found, partialOf_eq same,
      opened, counted]
  · simp only [ReceiveSession.advanceInside, found]

omit same in
/-- A chunk is appended to the partial. -/
theorem Stands.write {index : Nat} {raw : Bytes}
    (holds : Stands host registry disk goods finals stored)
    (standing : stored.session.phase = .inside block (.write index raw)) :
    ∃ after handle, (∀ temp, stored.call host platform registry disk temp none =
        some (after, { stored with handle }, some .done)) ∧
      (∀ now, stored.session.step registry ⟨now, .done⟩ = some (registry.receive block raw.length,
        stored.session.moveTo (.inside block (.progress index)))) ∧
      Stands host (registry.receive block raw.length) after goods finals
        ⟨stored.session.moveTo (.inside block (.progress index)), handle, stored.commit⟩ ∧
      StoreHost.partialOctets after goods.offer.transferId block.offered =
        StoreHost.partialOctets disk goods.offer.transferId block.offered ++ raw ∧
      Disk.Frame (· = partialPath goods.offer.transferId block.offered.fileId) disk after := by
  simp only [Stands, standing] at holds
  obtain ⟨cursor, _, fits, filling, genuine⟩ := holds
  have member := List.mem_of_getElem? filling.working.listed
  obtain ⟨info, found, counted⟩ := filling.working.counted
  obtain ⟨inode, handled, placed⟩ := filling.opened
  have own := filling.resting.shelved.partials _ member
  have content := StoreHost.partialOctets_node placed
  have ends : (disk.contents inode).length = cursor := by
    rw [← content]
    exact filling.length
  have appended : writeAt (disk.contents inode) cursor raw =
      StoreHost.partialOctets disk goods.offer.transferId block.offered ++ raw := by
    rw [writeAt_end ends, content]
  obtain ⟨frame, owned, octets⟩ := @StoreHost.write_own disk goods.offer block.offered inode
    (StoreHost.partialOctets disk goods.offer.transferId block.offered ++ raw) placed own
  have length : (StoreHost.partialOctets (disk.write inode
      (StoreHost.partialOctets disk goods.offer.transferId block.offered ++ raw))
        goods.offer.transferId block.offered).length = cursor + raw.length := by
    rw [octets, List.length_append, filling.length]
  have rests := filling.resting.reshape frame owned distinct member filling.unfinished
    (length ▸ fits) (octets.symm ▸ genuine)
  have recorded : (registry.receive block raw.length).transfers[block.record]? = some { info with
      bytesTransferred := info.bytesTransferred + raw.length
      bytesTransferredThisAttempt := info.bytesTransferredThisAttempt + raw.length } := by
    have bound := (List.getElem?_eq_some_iff.mp found).1
    simp only [Registry.receive, Registry.update, found, Registry.set]
    exact List.getElem?_set_self bound
  have reshaped := filling.working.reshape distinct filling.resting.shelved.partials frame
  refine ⟨_, some ⟨inode, cursor + raw.length⟩, fun temp => ?_, fun now => step_inside standing rfl,
    ⟨cursor + raw.length, ?_⟩, octets, frame⟩
  · simp only [StoredSession.call, StoredSession.storeCall, standing, handled, Option.map_some,
      OpenPartial.write, appended]
  · exact ⟨rests, ⟨reshaped.listed, ⟨_, recorded, by rw [counted]⟩, reshaped.later,
      reshaped.passed⟩, filling.unfinished, ⟨inode, rfl, placed⟩, length⟩

omit distinct in
/-- The whole partial is hashed. -/
theorem Stands.hash (holds : Stands host registry disk goods finals stored)
    (idle : stored.commit = none)
    (standing : stored.session.phase = .inside block .hash) :
    (∀ temp, stored.call host platform registry disk temp none = some (disk, stored,
      some (.digest (host.digests.hexdigest
        (StoreHost.partialOctets disk goods.offer.transferId block.offered))))) ∧
    ∃ moved, (∀ now, stored.session.step registry ⟨now, .digest (host.digests.hexdigest
        (StoreHost.partialOctets disk goods.offer.transferId block.offered))⟩ = some (registry, moved)) ∧
      Stands host registry disk goods finals { stored with session := moved } ∧
      moved = stored.session.moveTo (.inside block (if host.digests.hexdigest
        (StoreHost.partialOctets disk goods.offer.transferId block.offered) ≠ block.offered.sha256
          then .hashMismatch else .commit)) := by
  simp only [Stands, standing] at holds
  obtain ⟨inode, placed⟩ := holds.placed
  have read : disk.read (partialPath goods.offer.transferId block.offered.fileId) =
      some (StoreHost.partialOctets disk goods.offer.transferId block.offered) := by
    rw [StoreHost.partialOctets, Disk.read_of_node placed]
    rfl
  refine ⟨fun temp => ?_, _, fun now => step_inside standing rfl, ?_, rfl⟩
  · simp only [StoredSession.call, StoredSession.storeCall, standing, partialOf_eq same, read]
  · by_cases verified : host.digests.hexdigest
        (StoreHost.partialOctets disk goods.offer.transferId block.offered) = block.offered.sha256
    · rw [if_neg (not_not.mpr verified)]
      simp only [Stands, ReceiveSession.moveTo]
      rw [idle]
      exact .unbegun holds verified
    · rw [if_pos verified]
      exact holds.resting

end

/-! ## Commits -/

/-- The link a commit stands at finds its partial. -/
theorem link_found {before : Disk FilePath} {source : FilePath} {inode : Nat}
    (placed : before.nodes.get source = some (.file inode)) {name : PyStr} :
    before.link source (received name) ≠ .error .missing := by
  intro failed
  have followed : before.follow Disk.linkLimit source = some (.file inode) := by
    simp [Disk.linkLimit, Disk.follow, placed]
  unfold Disk.link at failed
  split at failed
  · cases failed
  · split at failed
    · cases failed
    · next missing => exact missing inode followed

/-- What a link and the removal of its partial leave. -/
theorem Filled.committed (restarts : goods.Restarts host) {name : PyStr} {linked : Disk FilePath}
    (filled : Filled host registry disk goods finals block)
    (verified : host.digests.hexdigest (StoreHost.partialOctets disk goods.offer.transferId
      block.offered) = block.offered.sha256)
    (distinct : (goods.offer.files.map IncomingFile.fileId).Nodup)
    (resolves : host.resolve (host.render (received name)) = .ok (some (received name)))
    (free : PairFree (host.render (received name)))
    (link : disk.link (partialPath goods.offer.transferId block.offered.fileId) (received name) =
      .ok linked) :
    Unrecorded host registry
      (linked.unlink (partialPath goods.offer.transferId block.offered.fileId)) goods finals block
      (host.shown (received name)) := by
  obtain ⟨inode, placed⟩ := filled.placed
  obtain ⟨cursor, working⟩ := filled.working
  have member := List.mem_of_getElem? working.listed
  have content := StoreHost.partialOctets_node placed
  obtain ⟨vacated, gone, frame, placed', contents, absent⟩ :=
    filled.resting.shelved.commit distinct member filled.unfinished placed link
  have own := filled.resting.shelved.partials
  have apart {other : IncomingFile} :
      partialPath goods.offer.transferId other.fileId ≠ received name := by
    intro equal
    cases equal
  have octets {other : IncomingFile} (included : other ∈ goods.offer.files)
      (different : other.fileId ≠ block.offered.fileId) :
      StoreHost.partialOctets
          (linked.unlink (partialPath goods.offer.transferId block.offered.fileId))
          goods.offer.transferId other =
        StoreHost.partialOctets disk goods.offer.transferId other := by
    have untouched : ¬ (partialPath goods.offer.transferId other.fileId =
        partialPath goods.offer.transferId block.offered.fileId ∨
        partialPath goods.offer.transferId other.fileId = received name) :=
      not_or.mpr ⟨fun equal => different (partialPath_inj equal), apart⟩
    rw [StoreHost.partialOctets, frame.read untouched (own other included).direct]
    rfl
  have emptied : StoreHost.partialOctets
      (linked.unlink (partialPath goods.offer.transferId block.offered.fileId))
      goods.offer.transferId block.offered = [] := StoreHost.partialOctets_free gone
  have read : (linked.unlink (partialPath goods.offer.transferId block.offered.fileId)).read
      (received name) =
        some (StoreHost.partialOctets disk goods.offer.transferId block.offered) := by
    rw [Disk.read_of_node placed', contents, content]
  have identified {other : IncomingFile} (included : other ∈ goods.offer.files)
      (equal : other.fileId = block.offered.fileId) : other = block.offered :=
    List.inj_on_of_nodup_map distinct included member equal
  refine ⟨⟨vacated, ?_, ?_, ?_⟩, ⟨cursor, working.listed, working.counted, ?_, working.passed⟩,
    filled.unfinished, gone, received name, rfl, rfl, ⟨?_, resolves, free, ?_, ?_⟩, ?_⟩
  · intro other included
    by_cases equal : other.fileId = block.offered.fileId
    · rw [identified included equal, emptied]
      exact Nat.zero_le _
    · rw [octets included equal]
      exact filled.resting.fits other included
  · intro other included
    by_cases equal : other.fileId = block.offered.fileId
    · rw [identified included equal, emptied]
      exact restarts block.offered member _ (filled.resting.begun _ member) filled.whole verified
    · rw [octets included equal]
      exact filled.resting.begun other included
  · intro other included path finished
    obtain ⟨place, genuine⟩ := filled.resting.ended other included path finished
    have kept := filled.resting.shelved.kept other included path finished
    refine ⟨place, fun found read => genuine found ?_⟩
    rw [← read]
    refine (frame.read (not_or.mpr ⟨fun equal => ?_, fun equal => ?_⟩) kept.direct).symm
    · rw [equal] at place
      cases place
    · obtain ⟨octets, held, _⟩ := StoreHost.verifies_iff.mp kept.verified
      rw [equal, Disk.read_of_free absent] at held
      cases held
  · refine working.later.change fun index later beyond found => ⟨rfl, ?_⟩
    exact octets (List.mem_of_getElem? found)
      (fileIds_apart distinct working.listed found (by omega))
  · intro within
    cases within
  · intro target pointed
    cases placed'.symm.trans pointed
  · exact StoreHost.verifies_iff.mpr ⟨_, read, filled.whole, verified⟩
  · intro found held
    cases read.symm.trans held
    exact filled.resting.begun block.offered member

/-- What the calls of a commit may touch. -/
def CommitNames (disk : Disk FilePath) (source path : FilePath) : Prop :=
  path = source ∨ (path.directory = .received ∧ disk.nodes.get path = none)

/-- What is new in the receive directory is a file under one of the given names. -/
def NewFiles (named : FilePath → Prop) (disk after : Disk FilePath) : Prop :=
  ∀ path : FilePath, path.directory = .received → after.nodes.get path = disk.nodes.get path ∨
    (named path ∧ ∃ inode, after.nodes.get path = some (.file inode))

theorem newFiles_refl {named : FilePath → Prop} : NewFiles named disk disk := fun _ _ => .inl rfl

theorem newFiles_of_frame {touched named : FilePath → Prop} (frame : Disk.Frame touched disk after)
    (outside : ∀ path, touched path → path.directory ≠ .received) : NewFiles named disk after :=
  fun path received => .inl (frame.nodes path fun touches => outside path touches received)

theorem partialPath_elsewhere {transferId fileId : PyStr} {path : FilePath}
    (same : path = partialPath transferId fileId) : path.directory ≠ .received := by
  rw [same]
  intro place
  cases place

theorem newFiles_link {source target : FilePath} (linked : disk.link source target = .ok after) :
    NewFiles (· = target) disk after := by
  obtain ⟨_, inode, _, nodes, _, _⟩ := Disk.link_ok linked
  intro path received
  rw [nodes, Dict.get_set]
  split
  · next same => exact .inr ⟨same, inode, rfl⟩
  · exact .inl rfl

/-- The name a commit gives its file by its next call. -/
def StoredSession.Links (stored : StoredSession) (path : FilePath) : Prop :=
  ∃ call name, stored.commit = some call ∧ call.phase = .link name ∧ path = received name

/-- The first call of a commit starts it. -/
theorem Committing.start {commit : Option CommitCall} {temp : PyStr}
    (accepted : sanitizeFilename platform block.offered.name = .ok block.offered.name)
    (committing : Committing host registry disk goods finals block commit) :
    Committing host registry disk goods finals block (some (commit.getD (.start platform
      (partialPath goods.offer.transferId block.offered.fileId) block.offered.name temp))) := by
  cases committing with
  | unbegun filled verified =>
      simp only [Option.getD_none, CommitCall.start, accepted]
      exact .unlinked filled verified ⟨0, .inl rfl⟩
  | unlinked filled verified early => exact .unlinked filled verified early
  | linked unrecorded => exact .linked unrecorded
  | ended unrecorded => exact .ended unrecorded

/-- A call of a commit that has not returned. -/
theorem Committing.step (restarts : goods.Restarts host)
    (distinct : (goods.offer.files.map IncomingFile.fileId).Nodup)
    (places : host.Places platform)
    (accepted : sanitizeFilename platform block.offered.name = .ok block.offered.name)
    {call : CommitCall} (going : ∀ outcome, call.phase ≠ .finished outcome)
    (committing : Committing host registry disk goods finals block (some call)) :
    ∃ after next, call.step disk none = some (after, next) ∧
      Committing host registry after goods finals block (some next) ∧
      Disk.Frame (CommitNames disk (partialPath goods.offer.transferId block.offered.fileId))
        disk after ∧
      NewFiles (fun path => ∃ name, call.phase = .link name ∧ path = received name) disk after := by
  cases committing with
  | unlinked filled verified early =>
      obtain ⟨index, rfl | rfl⟩ := early
      · simp only [CommitCall.step, CommitCall.moveTo]
        split
        · exact ⟨_, _, rfl, .unlinked filled verified ⟨index + 1, .inl rfl⟩, .refl, newFiles_refl⟩
        · exact ⟨_, _, rfl, .unlinked filled verified ⟨index, .inr rfl⟩, .refl, newFiles_refl⟩
      · obtain ⟨resolves, free⟩ := places block.offered.name index accepted
        obtain ⟨inode, placed⟩ := filled.placed
        simp only [CommitCall.step, CommitCall.moveTo]
        split
        · next linked link =>
            refine ⟨_, _, rfl,
              .linked (filled.committed restarts verified distinct resolves free link), ?_,
              fun path place =>
                (newFiles_link link path place).imp_right fun new => ⟨⟨_, rfl, new.1⟩, new.2⟩⟩
            refine (Disk.frame_link link placed).widen fun path touched => ?_
            cases touched with
            | inl same => exact .inl same
            | inr same =>
                rw [same]
                exact .inr ⟨rfl, (Disk.link_ok link).1⟩
        · exact ⟨_, _, rfl, .unlinked filled verified ⟨0, .inl rfl⟩, .refl, newFiles_refl⟩
        · next missing => exact absurd missing (link_found placed)
  | linked unrecorded =>
      exact ⟨_, _, rfl, .ended unrecorded,
        (Disk.frame_unlink disk _).widen fun path same => .inl same,
        newFiles_of_frame (Disk.frame_unlink disk _) fun path => partialPath_elsewhere⟩
  | ended unrecorded => exact absurd rfl (going _)

section

variable (restarts : goods.Restarts host)
  (distinct : (goods.offer.files.map IncomingFile.fileId).Nodup)
  (same : stored.session.origin.offer = goods.offer)
  (places : host.Places platform)
  (accepted : sanitizeFilename platform block.offered.name = .ok block.offered.name)

include restarts distinct same places accepted

/-- A commit goes on by one call, or returns the path of its file. -/
theorem Stands.commit (holds : Stands host registry disk goods finals stored)
    (standing : stored.session.phase = .inside block .commit) (temp : PyStr) :
    (∃ after call, stored.call host platform registry disk temp none =
        some (after, { stored with commit := some call }, none) ∧
      Stands host registry after goods finals { stored with commit := some call } ∧
      Disk.Frame (CommitNames disk (partialPath goods.offer.transferId block.offered.fileId))
        disk after ∧ NewFiles stored.Links disk after) ∨
    ∃ name, stored.call host platform registry disk temp none = some (disk,
        { stored with commit := none }, some (.committed (host.shown (received name)))) ∧
      (∀ now, stored.session.step registry ⟨now, .committed (host.shown (received name))⟩ =
        some (registry, stored.session.moveTo
          (.inside block (.markCompleted (host.shown (received name)))))) ∧
      Stands host registry disk goods finals ⟨stored.session.moveTo
        (.inside block (.markCompleted (host.shown (received name)))), stored.handle, none⟩ := by
  simp only [Stands, standing] at holds
  have started := @Committing.start host platform registry disk goods finals block stored.commit temp
    accepted holds
  generalize shown : stored.commit.getD (.start platform (partialPath goods.offer.transferId
    block.offered.fileId) block.offered.name temp) = call at started
  by_cases closed : ∃ outcome, call.phase = .finished outcome
  · obtain ⟨outcome, closed⟩ := closed
    cases started with
    | unlinked filled verified early =>
        obtain ⟨index, early | early⟩ := early
        · cases early.symm.trans closed
        · cases early.symm.trans closed
    | linked unrecorded => cases closed
    | @ended _ name unrecorded =>
        refine .inr ⟨name, ?_, fun now => step_inside standing rfl, unrecorded⟩
        simp only [StoredSession.call, StoredSession.commitCall, standing, partialOf_eq same, shown]
  · have going : ∀ outcome, call.phase ≠ .finished outcome := fun outcome finished =>
      closed ⟨outcome, finished⟩
    obtain ⟨after, next, stepped, committing, frame, newFiles⟩ :=
      started.step restarts distinct places accepted going
    refine .inl ⟨after, next, ?_, ?_, frame, fun path place =>
      (newFiles path place).imp_right fun new => ⟨?_, new.2⟩⟩
    · simp only [StoredSession.call, StoredSession.commitCall, standing, partialOf_eq same, shown]
      split
      · next name finished => exact absurd finished (going _)
      · next error finished => exact absurd finished (going _)
      · rw [stepped]
        rfl
    · simp only [Stands, standing]
      exact committing
    · obtain ⟨⟨name, links, same⟩, _⟩ := new
      cases began : stored.commit with
      | some own =>
          rw [began, Option.getD_some] at shown
          exact ⟨own, name, began, shown ▸ links, same⟩
      | none =>
          simp only [began, Option.getD_none, CommitCall.start, accepted] at shown
          subst shown
          cases links

end

/-! ## Metadata -/

/-- `finals` with one more file. -/
def withFinal (finals : IncomingFile → Option FilePath) (file : IncomingFile) (path : FilePath) :
    IncomingFile → Option FilePath :=
  fun other => if other = file then some path else finals other

/-- The record of a committed file is completed; the session tells of it, or ends. -/
theorem Stands.mark {finalPath : FinalPath} (lawful : host.Lawful)
    (offerable : Offerable platform goods.offer.files)
    (same : stored.session.origin.offer = goods.offer) (keyed : registry.Keyed)
    (anchored : stored.session.Anchored registry)
    (holds : Stands host registry disk goods finals stored)
    (standing : stored.session.phase = .inside block (.markCompleted finalPath)) :
    ∃ after path, (∀ temp, stored.call host platform registry disk temp none =
        some (after, stored, some .done)) ∧ finals block.offered = none ∧
      finalPath = host.shown path ∧
      (∀ now next moved, stored.session.step registry ⟨now, .done⟩ = some (next, moved) →
        Stands host next after goods (withFinal finals block.offered path)
          { stored with session := moved }) ∧
      Disk.Frame (MetadataNames goods.offer.transferId) disk after := by
  simp only [Stands, standing] at holds
  obtain ⟨cursor, working⟩ := holds.working
  obtain ⟨path, place, rfl, kept, genuine⟩ := holds.final
  have member := List.mem_of_getElem? working.listed
  obtain ⟨after, called, shelved, frame⟩ :=
    holds.resting.shelved.mark lawful offerable member kept holds.vacant
  have octets (other : IncomingFile) (included : other ∈ goods.offer.files) :
      StoreHost.partialOctets after goods.offer.transferId other =
        StoreHost.partialOctets disk goods.offer.transferId other := by
    have untouched : ¬ MetadataNames goods.offer.transferId
        (partialPath goods.offer.transferId other.fileId) :=
      not_or.mpr ⟨partialPath_ne_temporary _ _, partialPath_ne_metadata _ _⟩
    rw [StoreHost.partialOctets, frame.read untouched
      (holds.resting.shelved.partials other included).direct]
    rfl
  have spared {other : FilePath} (received : other.directory = .received) :
      ¬ MetadataNames goods.offer.transferId other := by
    intro named
    cases named with
    | inl temporary =>
        rw [temporary] at received
        cases received
    | inr written =>
        rw [written] at received
        cases received
  have resting : host.Resting after goods (withFinal finals block.offered path) := by
    refine ⟨shelved, fun other included => ?_, fun other included => ?_,
      fun other included final finished => ?_⟩
    · rw [octets other included]
      exact holds.resting.fits other included
    · rw [octets other included]
      exact holds.resting.begun other included
    · unfold withFinal at finished
      split at finished
      · next same =>
          cases finished
          rw [frame.read (spared place) kept.direct, same]
          exact ⟨place, genuine⟩
      · obtain ⟨received, found⟩ := holds.resting.ended other included final finished
        have before := holds.resting.shelved.kept other included final finished
        rw [frame.read (spared received) before.direct]
        exact ⟨received, found⟩
  have works : Working host registry after goods (withFinal finals block.offered path) block cursor := by
    refine ⟨working.listed, working.counted, working.later.change fun index later beyond found => ?_,
      fun index other before found => ?_⟩
    · refine ⟨?_, octets later (List.mem_of_getElem? found)⟩
      have apart : later.fileId ≠ block.offered.fileId :=
        fileIds_apart offerable.distinct working.listed found (by omega)
      exact if_neg fun equal => apart (congrArg IncomingFile.fileId equal)
    · unfold withFinal
      split
      · exact Option.some_ne_none path
      · exact working.passed index other before found
  refine ⟨after, path, fun temp => ?_, holds.unfinished, rfl, fun now next moved stepped => ?_, frame⟩
  · have transferId : stored.transferId = goods.offer.transferId := by
      rw [← same]
      rfl
    simp only [StoredSession.call, StoredSession.storeCall, standing, transferId, called]
  · have transition := ReceiveSession.step_transition stepped
    obtain ⟨evolves, _, _⟩ := transition.anchored keyed anchored
    obtain ⟨current, handle, commit⟩ := stored
    dsimp only at standing transition evolves
    cases transition with
    | @marked _ _ _ stands answer verified =>
        cases standing.symm.trans stands
        exact ⟨resting, works.moved evolves, ⟨path, if_pos rfl, rfl⟩⟩
    | escaped outside raises => exact .left resting
    | handled inside raises verified handler moved => exact .left resting
    | refused inside raises verified handler refusal => exact .left resting
    | queried stands | prepared stands | stateSent stands | began stands | absent stands
    | known stands | entered stands | opened stands | header stands | data stands | written stands
    | progressed stands | finished stands | hashed stands | committed stands
    | recognised stands | resultSent stands | notified stands
    | fin stands | confirmed stands | closed stands | settled stands =>
        cases standing.symm.trans stands

/-- A session that is closed leaves nothing of its transfer but the files. -/
theorem Stands.complete (restarts : goods.Restarts host)
    (holds : Stands host registry disk goods finals stored)
    (standing : stored.session.phase = .completeSession)
    (same : stored.session.origin.offer = goods.offer) :
    (∀ temp, stored.call host platform registry disk temp none =
        some (completeSession disk goods.offer.transferId, stored, some .done)) ∧
      (∀ now, stored.session.step registry ⟨now, .done⟩ =
        some (registry, stored.session.moveTo (.ended (.ok ())))) ∧
      Stands host registry (completeSession disk goods.offer.transferId) goods (fun _ => none)
        { stored with session := stored.session.moveTo (.ended (.ok ())) } ∧
      Disk.Frame (fun path => path.directory = .session goods.offer.transferId) disk
        (completeSession disk goods.offer.transferId) := by
  have transferId : stored.transferId = goods.offer.transferId := by
    rw [← same]
    rfl
  simp only [Stands, standing] at holds
  obtain ⟨resting, passed⟩ := holds
  refine ⟨fun temp => ?_, fun now => ?_, .bare ?_ (fun _ => rfl) ?_, ?_⟩
  · simp only [StoredSession.call, StoredSession.storeCall, standing, transferId]
  · simp only [ReceiveSession.step, ReceiveSession.advance, standing]
  · intro path within
    show (disk.nodes.filter fun path _ => !decide (path.directory = .session goods.offer.transferId)).get
      path = none
    rw [Dict.get_filter]
    cases disk.nodes.get path with
    | none => rfl
    | some node => simp [Option.filter, within]
  · intro file member
    obtain ⟨index, listed⟩ := List.mem_iff_getElem?.mp member
    have finished := passed index file (List.getElem?_eq_some_iff.mp listed).1 listed
    obtain ⟨path, final⟩ := Option.ne_none_iff_exists'.mp finished
    obtain ⟨octets, read, length, digest⟩ :=
      StoreHost.verifies_iff.mp (resting.shelved.kept file member path final).verified
    exact restarts file member octets ((resting.ended file member path final).2 octets read) length
      digest
  · exact (Disk.frame_removeAll disk _).widen fun path gone => of_decide_eq_true gone

theorem bare_metadata (bare : StoreHost.Bare disk goods.offer.transferId) :
    host.readMetadata disk goods.offer.transferId = .ok (.obj []) := by
  have free := bare (metadataPath goods.offer.transferId) rfl
  simp [StoreHost.readMetadata, Disk.linkLimit, Disk.target?, free]

theorem bare_directory (bare : StoreHost.Bare disk goods.offer.transferId) :
    host.SessionDirectory disk goods.offer [] where
  temporary := OwnFile.free (bare _ rfl)
  sited file member := by
    constructor
    · intro node placed
      cases (bare _ rfl).symm.trans placed
    · intro matched
      cases matched
    · intro matched
      cases matched
  apart file member _ := bare _ rfl

/-- The next session of a transfer is told of what the last one has left. -/
theorem Stands.prepare (lawful : host.Lawful) (offerable : Offerable platform goods.offer.files)
    (identified : isTransferId goods.offer.transferId = true)
    (same : stored.session.origin.offer = goods.offer)
    (holds : Stands host registry disk goods finals stored)
    (standing : stored.session.phase = .prepare) :
    ∃ after states, (∀ temp, stored.call host platform registry disk temp none =
        some (after, stored, some (.prepared states))) ∧
      (∀ now, stored.session.step registry ⟨now, .prepared states⟩ =
        some (registry, stored.session.moveTo (.resumeState states))) ∧
      Stands host registry after goods finals
        { stored with session := stored.session.moveTo (.resumeState states) } ∧
      (∀ file ∈ goods.offer.files, StoreHost.partialOctets after goods.offer.transferId file =
        StoreHost.partialOctets disk goods.offer.transferId file) ∧
      Disk.Frame (fun path => path.directory = .session goods.offer.transferId) disk after := by
  have found : ∃ after states, host.Prepares disk after goods.offer finals states ∧
      (∀ file ∈ goods.offer.files, StoreHost.partialOctets after goods.offer.transferId file =
        StoreHost.partialOctets disk goods.offer.transferId file) ∧
      host.Resting after goods finals := by
    simp only [Stands, standing] at holds
    cases holds with
    | bare bare unfinished starts =>
        have free (file : IncomingFile) :
            StoreHost.partialOctets disk goods.offer.transferId file = [] :=
          StoreHost.partialOctets_free (bare _ rfl)
        have none_found (file : IncomingFile) :
            (host.foundIn disk goods.offer (storedFiles (.obj [])) file).finalPath = finals file := by
          rw [unfinished file, StoreHost.foundIn_of_examine rfl]
        obtain ⟨after, prepares⟩ := StoreHost.prepare_shelves lawful offerable identified
          (bare_metadata bare) (bare_directory bare) fun file _ => .free (bare _ rfl)
        have told := prepares.congr fun file _ => none_found file
        have octets (file : IncomingFile) (member : file ∈ goods.offer.files) :
            StoreHost.partialOctets after goods.offer.transferId file = [] := by
          cases told.partials file member with
          | inl empty => exact empty
          | inr kept => exact kept.trans (free file)
        refine ⟨after, _, told, fun file member => (octets file member).trans (free file).symm,
          told.shelved, told.ranged, fun file member => ?_, fun file member path finished => ?_⟩
        · rw [octets file member]
          exact starts file member
        · cases (unfinished file).symm.trans finished
    | left resting =>
        obtain ⟨after, states, prepares, octets⟩ :=
          resting.shelved.prepare lawful offerable identified resting.fits
        refine ⟨after, states, prepares, octets, prepares.shelved, prepares.ranged,
          fun file member => ?_, fun file member path finished => ?_⟩
        · rw [octets file member]
          exact resting.begun file member
        · obtain ⟨received, contents⟩ := resting.ended file member path finished
          have kept := resting.shelved.kept file member path finished
          rw [prepares.frame.read (fun within => kept.outside within) kept.direct]
          exact ⟨received, contents⟩
  obtain ⟨after, states, prepares, octets, resting⟩ := found
  refine ⟨after, states, fun temp => ?_, fun now => ?_, ⟨resting, fun index file _ listed => ?_⟩,
    octets, prepares.frame⟩
  · simp only [StoredSession.call, StoredSession.storeCall, standing, same, prepares.called]
  · have told : stored.session.origin.offer.files.all
        (fun offered => (states.get offered.fileId).isSome) = true := by
      rw [List.all_eq_true, same]
      intro file member
      rw [prepares.tells file member]
      rfl
    simp only [ReceiveSession.step, ReceiveSession.advance, standing, told, if_true]
  · exact prepares.tells file (List.mem_of_getElem? listed)

end Calls

end DirectTransfer
