import DirectTransfer.Core.HandshakeAgreement
import DirectTransfer.Core.ResumeStoreProperties

/-! The offsets `prepare` returns: they are backed by what is on the disk, come
back from a second call, and are taken by the sender as they are. -/

set_option autoImplicit false

namespace DirectTransfer

open Library

namespace StoreHost

variable {host : StoreHost} {platform : Platform} {disk next : Disk FilePath}
  {offer : TransferOffer} {transferId : PyStr} {stored : Option Json} {record : Json}
  {offered : IncomingFile}

/-! ## What is found of a file -/

/-- The ways the tests of a file end. -/
inductive Finds (host : StoreHost) (disk : Disk FilePath) (transferId : PyStr)
    (stored : Option Json) (offered : IncomingFile) : Examined → Prop where
  | unmatched : matchesOffer stored offered = false →
      Finds host disk transferId stored offered ⟨0, none, true⟩
  | verified {text : PyStr} {candidate : FilePath} {octets : Bytes} :
      matchesOffer stored offered = true → recordedFinal stored = some text →
      host.resolve text = .ok (some candidate) → disk.read candidate = some octets →
      octets.length = offered.size → host.digests.hexdigest octets = offered.sha256 →
      Finds host disk transferId stored offered ⟨offered.size, some candidate, false⟩
  | lost {text : PyStr} : matchesOffer stored offered = true → recordedFinal stored = some text →
      Finds host disk transferId stored offered ⟨0, none, false⟩
  | absent : matchesOffer stored offered = true → recordedFinal stored = none →
      disk.read (partialPath transferId offered.fileId) = none →
      Finds host disk transferId stored offered ⟨0, none, false⟩
  | oversized {octets : Bytes} : matchesOffer stored offered = true →
      recordedFinal stored = none →
      disk.read (partialPath transferId offered.fileId) = some octets →
      offered.size < octets.length → Finds host disk transferId stored offered ⟨0, none, true⟩
  | continued {octets : Bytes} : matchesOffer stored offered = true →
      recordedFinal stored = none →
      disk.read (partialPath transferId offered.fileId) = some octets →
      octets.length ≤ offered.size →
      Finds host disk transferId stored offered ⟨octets.length, none, false⟩

theorem verifies_iff {candidate : FilePath} :
    host.verifies disk candidate offered = true ↔ ∃ octets, disk.read candidate = some octets ∧
      octets.length = offered.size ∧ host.digests.hexdigest octets = offered.sha256 := by
  unfold verifies
  cases read : disk.read candidate with
  | none => simp
  | some octets => simp

theorem examine_finds {found : Examined}
    (examined : host.examine disk transferId stored offered = .ok found) :
    Finds host disk transferId stored offered found := by
  unfold examine at examined
  split at examined
  · next unmatched =>
      cases examined
      exact .unmatched unmatched
  · next matched =>
      have matched : matchesOffer stored offered = true := by simpa using matched
      split at examined
      · next text recorded =>
          split at examined
          · cases examined
          · cases examined
            exact .lost matched recorded
          · next candidate resolved =>
              split at examined
              · next verified =>
                  cases examined
                  obtain ⟨octets, read, length, digest⟩ := verifies_iff.mp verified
                  exact .verified matched recorded resolved read length digest
              · cases examined
                exact .lost matched recorded
      · next recorded =>
          split at examined
          · next read =>
              cases examined
              exact .absent matched recorded read
          · next octets read =>
              split at examined
              · next longer =>
                  cases examined
                  exact .oversized matched recorded read longer
              · next fits =>
                  cases examined
                  exact .continued matched recorded read (Nat.not_lt.mp fits)

section

variable (matched : matchesOffer stored offered = true)

include matched

theorem examine_absent (recorded : recordedFinal stored = none)
    (read : disk.read (partialPath transferId offered.fileId) = none) :
    host.examine disk transferId stored offered = .ok ⟨0, none, false⟩ := by
  simp only [examine, matched, recorded, read, Bool.true_eq_false, if_false]

theorem examine_continued {octets : Bytes} (recorded : recordedFinal stored = none)
    (read : disk.read (partialPath transferId offered.fileId) = some octets)
    (fits : octets.length ≤ offered.size) :
    host.examine disk transferId stored offered = .ok ⟨octets.length, none, false⟩ := by
  simp only [examine, matched, recorded, read, Bool.true_eq_false, if_false, Nat.not_lt.mpr fits]

theorem examine_verified {text : PyStr} {candidate : FilePath}
    (recorded : recordedFinal stored = some text)
    (resolved : host.resolve text = .ok (some candidate))
    (verified : host.verifies disk candidate offered = true) :
    host.examine disk transferId stored offered = .ok ⟨offered.size, some candidate, false⟩ := by
  simp only [examine, matched, recorded, resolved, verified, Bool.true_eq_false, if_false, if_true]

end

/-- A record of what was found is found again, and with it the same state. -/
theorem Finds.again {found : Examined} (finds : Finds host disk transferId stored offered found)
    (lawful : host.Lawful) (matched : matchesOffer (some record) offered = true)
    (recorded : recordedFinal (some record) = found.finalPath.map host.render)
    (apart : recordedFinal stored ≠ none → next.read (partialPath transferId offered.fileId) = none)
    (dropped : found.dropped = true → next.read (partialPath transferId offered.fileId) = none)
    (kept : found.dropped = false → next.read (partialPath transferId offered.fileId) =
      disk.read (partialPath transferId offered.fileId))
    (final : ∀ candidate, found.finalPath = some candidate →
      next.read candidate = disk.read candidate) :
    ∃ other, host.examine next transferId (some record) offered = .ok other ∧
      host.state other = host.state found := by
  cases finds with
  | unmatched unmatched => exact ⟨_, examine_absent matched recorded (dropped rfl), rfl⟩
  | lost _ earlier =>
      exact ⟨_, examine_absent matched recorded (apart (by simp [earlier])), rfl⟩
  | absent _ _ read => exact ⟨_, examine_absent matched recorded ((kept rfl).trans read), rfl⟩
  | oversized => exact ⟨_, examine_absent matched recorded (dropped rfl), rfl⟩
  | continued _ _ read fits =>
      exact ⟨_, examine_continued matched recorded ((kept rfl).trans read) fits, rfl⟩
  | verified _ _ resolved read length digest =>
      have shown := (lawful.renders _ _ resolved).1
      have verified := verifies_iff.mpr ⟨_, (final _ rfl).trans read, length, digest⟩
      exact ⟨_, examine_verified matched recorded shown verified, rfl⟩

/-! ## One call -/

/-- A session directory no name of which is in another's way: besides the names
of each file, no file has both a recorded final path and a partial. -/
structure SessionDirectory (host : StoreHost) (disk : Disk FilePath) (offer : TransferOffer)
    (listed : List (PyStr × Json)) : Prop where
  temporary : OwnTemporary disk offer.transferId
  sited : ∀ file ∈ offer.files,
    host.Sited disk offer.transferId (findEntry file.fileId listed) file
  apart : ∀ file ∈ offer.files, recordedFinal (findEntry file.fileId listed) ≠ none →
    disk.nodes.get (partialPath offer.transferId file.fileId) = none

def foundIn (host : StoreHost) (disk : Disk FilePath) (offer : TransferOffer)
    (listed : List (PyStr × Json)) (file : IncomingFile) : Examined :=
  host.outcome disk offer.transferId (findEntry file.fileId listed) file

theorem foundIn_of_examine {listed : List (PyStr × Json)} {file : IncomingFile} {found : Examined}
    (examined : host.examine disk offer.transferId (findEntry file.fileId listed) file = .ok found) :
    host.foundIn disk offer listed file = found := by
  rw [foundIn, outcome, examined]

/-- Both dicts of a call. -/
def gathered (host : StoreHost) (offer : TransferOffer) (found : IncomingFile → Examined) :
    Prepared :=
  host.extendAll found offer.files ⟨Dict.empty, Dict.empty⟩

/-- A call that removed the partials it had to and rewrote the metadata. -/
structure PreparedDisk (host : StoreHost) (disk next : Disk FilePath) (offer : TransferOffer)
    (found : IncomingFile → Examined) : Prop where
  steps : ∃ middle, Pruned disk middle offer.transferId found offer.files ∧
    Rewritten host middle next offer.transferId
      (metadata offer.transferId (host.gathered offer found).records)

theorem Pruned.ownTemporary {found : IncomingFile → Examined} {files : List IncomingFile}
    (pruned : Pruned disk next transferId found files) (own : OwnTemporary disk transferId) :
    OwnTemporary next transferId := by
  have kept {path : FilePath} (apart : ¬ Removed transferId found files path) :
      next.nodes.get path = disk.nodes.get path := pruned.frame.nodes path apart
  have temporary : ¬ Removed transferId found files (temporaryPath transferId) := by
    intro removed
    obtain ⟨file, _, _, same⟩ := removed
    exact partialPath_ne_temporary transferId file.fileId same.symm
  intro node placed
  obtain ⟨inode, same, alone⟩ := own node ((kept temporary).symm.trans placed)
  refine ⟨inode, same, fun path held => ?_⟩
  by_cases removed : Removed transferId found files path
  · obtain ⟨file, member, dropped, rfl⟩ := removed
    rw [pruned.gone file member dropped] at held
    cases held
  · exact alone path ((kept removed).symm.trans held)

section

variable {existing : Json} {listed : List (PyStr × Json)}
  (distinct : (offer.files.map IncomingFile.fileId).Nodup)

include distinct

theorem prepare_ok (read : host.readMetadata disk offer.transferId = .ok existing)
    (directory : host.SessionDirectory disk offer (storedFiles existing)) :
    ∃ next, host.prepare disk offer = (next, .ok (host.gathered offer
        (host.foundIn disk offer (storedFiles existing))).states) ∧
      host.PreparedDisk disk next offer (host.foundIn disk offer (storedFiles existing)) := by
  have loop : ∃ middle, host.prepareFiles offer.transferId (storedFiles existing) offer.files disk
        ⟨Dict.empty, Dict.empty⟩ =
          (middle, .ok (host.gathered offer (host.foundIn disk offer (storedFiles existing)))) ∧
      Pruned disk middle offer.transferId (host.foundIn disk offer (storedFiles existing))
        offer.files :=
    prepareFiles_ok distinct directory.sited
      (fun file member => (directory.sited file member).examine_ok) ⟨Dict.empty, Dict.empty⟩
  obtain ⟨middle, looped, pruned⟩ := loop
  obtain ⟨next, written, rewritten⟩ := @atomicWrite_ok host middle offer.transferId
    (pruned.ownTemporary directory.temporary) (metadata offer.transferId
      (host.gathered offer (host.foundIn disk offer (storedFiles existing))).records)
  refine ⟨next, ?_, ⟨middle, pruned, rewritten⟩⟩
  simp only [prepare, read, looped, written]

theorem gathered_state (found : IncomingFile → Examined) {file : IncomingFile}
    (member : file ∈ offer.files) :
    (host.gathered offer found).states.get file.fileId = some (host.state (found file)) := by
  apply Dict.get_eq_some_iff.mpr
  rw [gathered, extendAll_states distinct]
  exact List.mem_map.mpr ⟨file, member, rfl⟩

theorem gathered_record (found : IncomingFile → Examined) {file : IncomingFile}
    (member : file ∈ offer.files) :
    (host.gathered offer found).records.get file.fileId =
      some (host.record file (found file)) := by
  apply Dict.get_eq_some_iff.mpr
  rw [gathered, extendAll_records distinct]
  exact List.mem_map.mpr ⟨file, member, rfl⟩

theorem gathered_states_congr {found other : IncomingFile → Examined}
    (same : ∀ file ∈ offer.files, host.state (found file) = host.state (other file)) :
    (host.gathered offer found).states = (host.gathered offer other).states := by
  apply Dict.ext
  rw [gathered, gathered, extendAll_states distinct, extendAll_states distinct]
  apply List.map_congr_left
  intro file member
  rw [same file member]

end

/-! ## The disk afterwards -/

namespace PreparedDisk

variable {found : IncomingFile → Examined} {file : IncomingFile}
  (prepared : host.PreparedDisk disk next offer found)

include prepared

theorem cleared (member : file ∈ offer.files) (dropped : (found file).dropped = true) :
    next.nodes.get (partialPath offer.transferId file.fileId) = none := by
  obtain ⟨middle, pruned, rewritten⟩ := prepared.steps
  rw [rewritten.frame.nodes _ (not_or.mpr ⟨partialPath_ne_temporary _ _,
    partialPath_ne_metadata _ _⟩)]
  exact pruned.gone file member dropped

/-- What a call changes of the disk. -/
theorem frame : Disk.Frame (fun path => Removed offer.transferId found offer.files path ∨
    MetadataNames offer.transferId path) disk next := by
  obtain ⟨middle, pruned, rewritten⟩ := prepared.steps
  exact (pruned.frame.widen fun path removed => .inl removed).trans
    (rewritten.frame.widen fun path named => .inr named)

omit prepared in
theorem touched_within {path : FilePath}
    (touched : Removed offer.transferId found offer.files path ∨
      MetadataNames offer.transferId path) : path.directory = .session offer.transferId := by
  cases touched with
  | inl removed => exact removed_within removed
  | inr named =>
      cases named with
      | inl temporary => rw [temporary]; rfl
      | inr written => rw [written]; rfl

omit prepared in
theorem partial_untouched (distinct : (offer.files.map IncomingFile.fileId).Nodup)
    (member : file ∈ offer.files) (dropped : (found file).dropped = false) :
    ¬ (Removed offer.transferId found offer.files (partialPath offer.transferId file.fileId) ∨
      MetadataNames offer.transferId (partialPath offer.transferId file.fileId)) := by
  intro touched
  cases touched with
  | inl removed =>
      obtain ⟨other, included, gone, same⟩ := removed
      have equal := List.inj_on_of_nodup_map distinct member included (partialPath_inj same)
      rw [← equal, dropped] at gone
      cases gone
  | inr named =>
      cases named with
      | inl temporary => exact partialPath_ne_temporary _ _ temporary
      | inr written => exact partialPath_ne_metadata _ _ written

end PreparedDisk

/-! ## The second call -/

theorem foundIn_finds {listed : List (PyStr × Json)}
    (directory : host.SessionDirectory disk offer listed) {file : IncomingFile}
    (member : file ∈ offer.files) :
    Finds host disk offer.transferId (findEntry file.fileId listed) file
      (host.foundIn disk offer listed file) :=
  examine_finds (directory.sited file member).examine_ok

/-- A final path that is kept was recorded and resolved. -/
theorem Finds.final {found : Examined} (finds : Finds host disk transferId stored offered found)
    {candidate : FilePath} (held : found.finalPath = some candidate) :
    matchesOffer stored offered = true ∧ ∃ text, recordedFinal stored = some text ∧
      host.resolve text = .ok (some candidate) := by
  cases finds with
  | verified matched recorded resolved =>
      cases held
      exact ⟨matched, _, recorded, resolved⟩
  | unmatched | lost | absent | oversized | continued => cases held

section

variable {existing : Json} (lawful : host.Lawful) (offerable : Offerable platform offer.files)
  (directory : host.SessionDirectory disk offer (storedFiles existing))

include lawful offerable directory

theorem wellFormed_record {file : IncomingFile} (member : file ∈ offer.files) :
    (host.record file (host.foundIn disk offer (storedFiles existing) file)).WellFormed := by
  apply wellFormed_fileRecord offerable member
  intro text shown
  obtain ⟨candidate, held, rfl⟩ := Option.map_eq_some_iff.mp shown
  obtain ⟨_, recorded, _, resolved⟩ := (foundIn_finds directory member).final held
  exact (lawful.renders recorded candidate resolved).2

theorem wellFormed_metadata (identified : isTransferId offer.transferId = true) :
    (metadata offer.transferId (host.gathered offer
      (host.foundIn disk offer (storedFiles existing))).records).WellFormed := by
  simp only [isTransferId, Bool.and_eq_true] at identified
  have transfer := pairFree_lowerHex identified.2
  have records : Json.WellFormedFields (host.gathered offer
      (host.foundIn disk offer (storedFiles existing))).records.entries := by
    rw [gathered, extendAll_records offerable.distinct]
    refine (Json.wellFormedFields_iff _).mpr fun field member => ?_
    obtain ⟨file, included, rfl⟩ := List.mem_map.mp member
    exact ⟨pairFree_fileId (offerable.identified file included),
      wellFormed_record lawful offerable directory included⟩
  have distinct := (host.gathered offer
    (host.foundIn disk offer (storedFiles existing))).records.distinct
  simp only [metadata, Json.WellFormed, Json.WellFormedFields, List.map_cons, List.map_nil]
  exact ⟨by simp, pairFree_py _, transfer, pairFree_py _, ⟨distinct, records⟩, trivial⟩

variable (prepared : host.PreparedDisk disk next offer
    (host.foundIn disk offer (storedFiles existing)))

include prepared

omit lawful offerable in
theorem read_outside {file : IncomingFile} (member : file ∈ offer.files) {candidate : FilePath}
    (held : (host.foundIn disk offer (storedFiles existing) file).finalPath = some candidate) :
    candidate.directory ≠ .session offer.transferId ∧
      next.read candidate = disk.read candidate ∧
        ∀ target, next.nodes.get candidate ≠ some (.symlink target) := by
  obtain ⟨matched, text, recorded, resolved⟩ := (foundIn_finds directory member).final held
  obtain ⟨apart, direct⟩ :=
    (directory.sited file member).outside matched text recorded candidate resolved
  have untouched : ¬ (Removed offer.transferId
      (host.foundIn disk offer (storedFiles existing)) offer.files candidate ∨
        MetadataNames offer.transferId candidate) :=
    fun touched => apart (PreparedDisk.touched_within touched)
  refine ⟨apart, prepared.frame.read untouched direct, fun target => ?_⟩
  rw [prepared.frame.nodes candidate untouched]
  exact direct target

omit lawful in
theorem partial_reads {file : IncomingFile} (member : file ∈ offer.files)
    (kept : (host.foundIn disk offer (storedFiles existing) file).dropped = false) :
    next.nodes.get (partialPath offer.transferId file.fileId) =
        disk.nodes.get (partialPath offer.transferId file.fileId) ∧
      next.read (partialPath offer.transferId file.fileId) =
        disk.read (partialPath offer.transferId file.fileId) := by
  have untouched := PreparedDisk.partial_untouched offerable.distinct member kept
  exact ⟨prepared.frame.nodes _ untouched,
    prepared.frame.read untouched (directory.sited file member).direct⟩

omit lawful in
/-- A partial that was there before is there still, or free. -/
theorem partial_after {file : IncomingFile} (member : file ∈ offer.files) :
    next.nodes.get (partialPath offer.transferId file.fileId) = none ∨
      next.nodes.get (partialPath offer.transferId file.fileId) =
        disk.nodes.get (partialPath offer.transferId file.fileId) := by
  cases dropped : (host.foundIn disk offer (storedFiles existing) file).dropped with
  | true => exact .inl (prepared.cleared member dropped)
  | false => exact .inr (partial_reads offerable directory prepared member dropped).1

/-- What the next call reads is what this one has written. -/
theorem readMetadata_again (identified : isTransferId offer.transferId = true) :
    host.readMetadata next offer.transferId = .ok (Json.sortKeys (metadata offer.transferId
      (host.gathered offer (host.foundIn disk offer (storedFiles existing))).records)) := by
  obtain ⟨middle, _, rewritten⟩ := prepared.steps
  rw [readMetadata_of_stores rewritten.stored]
  exact parseMetadata_written lawful (wellFormed_metadata lawful offerable directory identified) rfl

omit prepared in
theorem findEntry_again (identified : isTransferId offer.transferId = true) {file : IncomingFile}
    (member : file ∈ offer.files) :
    findEntry file.fileId (storedFiles (Json.sortKeys (metadata offer.transferId
      (host.gathered offer (host.foundIn disk offer (storedFiles existing))).records))) =
        some (Json.sortKeys (host.record file
          (host.foundIn disk offer (storedFiles existing) file))) := by
  rw [findEntry_storedFiles (wellFormed_metadata lawful offerable directory identified),
    gathered_record offerable.distinct _ member]
  rfl

theorem directory_again (identified : isTransferId offer.transferId = true) :
    host.SessionDirectory next offer (storedFiles (Json.sortKeys (metadata offer.transferId
      (host.gathered offer (host.foundIn disk offer (storedFiles existing))).records))) where
  temporary node placed := by
    obtain ⟨middle, _, rewritten⟩ := prepared.steps
    rw [rewritten.moved] at placed
    cases placed
  sited file member := by
    have formed := wellFormed_record lawful offerable directory member
    have entry := findEntry_again lawful offerable directory identified member
    have recorded := fileRecord_final formed
    rw [entry]
    constructor
    · intro node placed
      cases partial_after offerable directory prepared member with
      | inl free => rw [free] at placed; cases placed
      | inr same => exact (directory.sited file member).regular node (same.symm.trans placed)
    · intro _ text shown
      obtain ⟨candidate, held, rfl⟩ := Option.map_eq_some_iff.mp (recorded.symm.trans shown)
      obtain ⟨_, earlier, _, resolved⟩ := (foundIn_finds directory member).final held
      exact ⟨_, (lawful.renders earlier candidate resolved).1⟩
    · intro _ text shown other located
      obtain ⟨candidate, held, rfl⟩ := Option.map_eq_some_iff.mp (recorded.symm.trans shown)
      obtain ⟨_, earlier, _, resolved⟩ := (foundIn_finds directory member).final held
      rw [(lawful.renders earlier candidate resolved).1] at located
      cases located
      obtain ⟨apart, _, direct⟩ := read_outside directory prepared member held
      exact ⟨apart, direct⟩
  apart file member shown := by
    have formed := wellFormed_record lawful offerable directory member
    have entry := findEntry_again lawful offerable directory identified member
    rw [entry] at shown
    have recorded := fileRecord_final formed
    have held : (host.foundIn disk offer (storedFiles existing) file).finalPath ≠ none := by
      intro absent
      apply shown
      show recordedFinal (some (Json.sortKeys (fileRecord file _))) = none
      rw [recorded, absent]
      rfl
    obtain ⟨candidate, held⟩ := Option.ne_none_iff_exists'.mp held
    obtain ⟨_, text, earlier, _⟩ := (foundIn_finds directory member).final held
    have free := directory.apart file member (by simp [earlier])
    cases partial_after offerable directory prepared member with
    | inl gone => exact gone
    | inr same => exact same.trans free

theorem state_again (identified : isTransferId offer.transferId = true) {file : IncomingFile}
    (member : file ∈ offer.files) :
    host.state (host.foundIn next offer (storedFiles (Json.sortKeys (metadata offer.transferId
      (host.gathered offer (host.foundIn disk offer (storedFiles existing))).records))) file) =
        host.state (host.foundIn disk offer (storedFiles existing) file) := by
  have formed := wellFormed_record lawful offerable directory member
  have apart (recorded : recordedFinal (findEntry file.fileId (storedFiles existing)) ≠ none) :
      next.nodes.get (partialPath offer.transferId file.fileId) = none := by
    cases partial_after offerable directory prepared member with
    | inl gone => exact gone
    | inr same => exact same.trans (directory.apart file member recorded)
  obtain ⟨other, examined, same⟩ := (foundIn_finds directory member).again lawful
    (fileRecord_matches formed) (fileRecord_final formed)
    (fun recorded => Disk.read_of_free (apart recorded))
    (fun dropped => Disk.read_of_free (prepared.cleared member dropped))
    (fun kept => (partial_reads offerable directory prepared member kept).2)
    (fun candidate held => (read_outside directory prepared member held).2.1)
  have found : host.foundIn next offer (storedFiles (Json.sortKeys (metadata offer.transferId
      (host.gathered offer (host.foundIn disk offer (storedFiles existing))).records))) file =
        other := by
    apply foundIn_of_examine
    rw [findEntry_again lawful offerable directory identified member]
    exact examined
  rw [found, same]

/-- The next call finds every file in the same state. -/
theorem prepare_again (identified : isTransferId offer.transferId = true) :
    ∃ final, host.prepare next offer = (final, .ok (host.gathered offer
      (host.foundIn disk offer (storedFiles existing))).states) := by
  have again := directory_again lawful offerable directory prepared identified
  have read := readMetadata_again lawful offerable directory prepared identified
  obtain ⟨final, called, _⟩ := prepare_ok offerable.distinct read again
  refine ⟨final, called.trans ?_⟩
  rw [gathered_states_congr offerable.distinct fun file member =>
    state_again lawful offerable directory prepared identified member]

end

end StoreHost

/-! ## The frame with the offsets -/

/-- `states[item.file_id].offset` -/
def offsetIn (states : Dict PyStr ResumeFileState) (fileId : PyStr) : Nat :=
  ((states.get fileId).map ResumeFileState.offset).getD 0

/-- One entry of `files` in a resume state. -/
def offsetEntry (offset : PyStr → Nat) (file : IncomingFile) : Json :=
  .obj [(py "file_id", .str file.fileId), (py "offset", .int (offset file.fileId))]

theorem validateOffsets_entries {offer : TransferOffer} {offset : PyStr → Nat}
    {files : List IncomingFile} {offsets : Dict PyStr Nat} {seen : List PyStr}
    (distinct : (offer.files.map IncomingFile.fileId).Nodup)
    (known : ∀ fileId, (offsets.get fileId).isSome = true ↔ fileId ∈ seen)
    (fresh : ∀ file ∈ files, file.fileId ∉ seen)
    (apart : (files.map IncomingFile.fileId).Nodup)
    (offered : ∀ file ∈ files, file ∈ offer.files ∧ offset file.fileId ≤ file.size) :
    validateOffsets offer (files.map (offsetEntry offset)) offsets =
      .ok (files.foldl (fun offsets file => offsets.set file.fileId (offset file.fileId)) offsets) := by
  induction files generalizing offsets seen with
  | nil => rfl
  | cons file rest ih =>
      rw [List.map_cons, List.nodup_cons] at apart
      obtain ⟨member, ranged⟩ := offered file List.mem_cons_self
      have resumes : Resumes offer seen (offsetEntry offset file) file.fileId
          (offset file.fileId) := by
        constructor
        · rfl
        · simp [offsetEntry]
        · exact fresh file List.mem_cons_self
        · simp [offsetEntry]
        · exact ⟨file, member, rfl, ranged⟩
      have head := (validateOffset_iff distinct known).mpr ⟨_, _, resumes, rfl⟩
      have unseen (other : IncomingFile) (inside : other ∈ rest) :
          other.fileId ∉ file.fileId :: seen := by
        intro earlier
        cases List.mem_cons.mp earlier with
        | inl same => exact apart.1 (same ▸ List.mem_map_of_mem inside)
        | inr earlier => exact fresh other (List.mem_cons_of_mem _ inside) earlier
      have tail := @ih (offsets.set file.fileId (offset file.fileId)) (file.fileId :: seen)
        (known_set known) unseen apart.2
        (fun other inside => offered other (List.mem_cons_of_mem _ inside))
      simp only [List.map_cons, validateOffsets, head, bind, Except.bind, tail, List.foldl_cons]

/-- Offsets within the sizes are taken as they are. -/
theorem validateResumeState_resumeState {offer : TransferOffer} {offset : PyStr → Nat}
    (distinct : (offer.files.map IncomingFile.fileId).Nodup)
    (ranged : ∀ file ∈ offer.files, offset file.fileId ≤ file.size) :
    ∃ offsets, validateResumeState (resumeState offer offset) offer = .ok offsets ∧
      ∀ file ∈ offer.files, offsets.get file.fileId = some (offset file.fileId) := by
  have looped := @validateOffsets_entries offer offset offer.files Dict.empty []
    distinct (by simp) (by simp) distinct (fun file member => ⟨member, ranged file member⟩)
  generalize written : offer.files.foldl (fun offsets file =>
    offsets.set file.fileId (offset file.fileId)) Dict.empty = offsets at looped
  have listed : offsets.entries =
      offer.files.map fun file => (file.fileId, offset file.fileId) := by
    rw [← written, Dict.entries_foldl_set distinct fun _ _ => by simp [Dict.keys, Dict.empty]]
    rfl
  have taken : ∀ file ∈ offer.files, offsets.get file.fileId = some (offset file.fileId) := by
    intro file member
    apply Dict.get_eq_some_iff.mpr
    rw [listed]
    exact List.mem_map.mpr ⟨file, member, rfl⟩
  have complete : ¬ (offer.files.any fun file => (offsets.get file.fileId).isNone) = true := by
    rw [List.any_eq_true]
    intro missing
    obtain ⟨file, member, absent⟩ := missing
    rw [taken file member] at absent
    cases absent
  refine ⟨offsets, ?_, taken⟩
  have files : (resumeState offer offset).field "files" =
      .arr (offer.files.map (offsetEntry offset)) := by
    simp only [resumeState, Json.field_cons]
    rfl
  unfold validateResumeState
  rw [files]
  simp only [bind, Except.bind, List.length_map, looped, complete]
  simp [resumeState, Json.isDict, pure, Except.pure]

/-! ## Soundness -/

namespace StoreHost

variable {host : StoreHost} {disk next : Disk FilePath} {offer : TransferOffer}

/-- A positive offset is the length of the partial there is, or the size of the
final file there is. -/
inductive Backed (host : StoreHost) (next : Disk FilePath) (transferId : PyStr)
    (offered : IncomingFile) (state : ResumeFileState) : Prop where
  | partialFile {octets : Bytes} :
      next.read (partialPath transferId offered.fileId) = some octets →
      state.offset = octets.length → Backed host next transferId offered state
  | finalFile {path : FilePath} {octets : Bytes} :
      state.finalPath = some (host.shown path) →
      host.resolve (host.render path) = .ok (some path) → next.read path = some octets →
      octets.length = offered.size → host.digests.hexdigest octets = offered.sha256 →
      state.offset = offered.size → Backed host next transferId offered state

/-- What a call of `prepare` promises, given the records it has read. -/
structure SoundStates (host : StoreHost) (next : Disk FilePath) (offer : TransferOffer)
    (listed : List (PyStr × Json)) (states : Dict PyStr ResumeFileState) : Prop where
  exactly : states.keys = offer.files.map IncomingFile.fileId
  ranged : ∀ file ∈ offer.files, ∃ state, states.get file.fileId = some state ∧
    state.offset ≤ file.size
  backed : ∀ file ∈ offer.files, ∀ state, states.get file.fileId = some state →
    0 < state.offset → Matches (findEntry file.fileId listed) file ∧
      Backed host next offer.transferId file state
  cleared : ∀ file ∈ offer.files, ¬ Matches (findEntry file.fileId listed) file →
    next.nodes.get (partialPath offer.transferId file.fileId) = none
  again : ∃ final, host.prepare next offer = (final, .ok states)
  accepted : ∃ offsets, validateResumeState (resumeState offer (offsetIn states)) offer =
      .ok offsets ∧
    ∀ file ∈ offer.files, offsets.get file.fileId =
      (states.get file.fileId).map ResumeFileState.offset

/-- The call returns, and keeps what it promises. -/
def PreparesSoundly (host : StoreHost) (disk : Disk FilePath) (offer : TransferOffer)
    (listed : List (PyStr × Json)) : Prop :=
  ∃ next states, host.prepare disk offer = (next, .ok states) ∧
    SoundStates host next offer listed states

theorem Finds.ranged {transferId : PyStr} {stored : Option Json} {offered : IncomingFile}
    {found : Examined} (finds : Finds host disk transferId stored offered found) :
    found.offset ≤ offered.size := by
  cases finds with
  | verified => exact Nat.le_refl _
  | continued _ _ _ fits => exact fits
  | unmatched | lost | absent | oversized => exact Nat.zero_le _

end StoreHost

/-! ## Two files -/

/-- Takes octets for characters, and reads back what `json.dumps` has written. -/
noncomputable def referenceReader : FileReader where
  utf8 octets := some (octets.map fun octet => codePoint octet.toNat)
  parse text := match parseText quotientFloats (encodeAscii text) with
    | some value => .ok value
    | none => .error (raised .jsonDecodeError "Expecting value")
  intOf _ := none
  formed text value parsed := by
    split at parsed
    · next found =>
        cases parsed
        exact parseText_wellFormed found
    · cases parsed
  failures text error parsed := by
    split at parsed
    · cases parsed
    · cases parsed
      exact .inl rfl

theorem encodeAscii_octets (octets : Bytes) :
    encodeAscii (octets.map fun octet => codePoint octet.toNat) = octets := by
  rw [encodeAscii, List.map_map]
  refine (List.map_congr_left fun octet _ => ?_).trans (List.map_id octets)
  have small := octet.toNat_lt
  rw [Function.comp_apply, codePoint_val (by omega)]
  exact UInt8.ofNat_toNat

theorem referenceReader_reads {value : Json} (formed : value.WellFormed) :
    referenceReader.read (encodeAscii (value.dumps quotientFloats)) = .ok value := by
  simp only [FileReader.read, referenceReader, encodeAscii_octets,
    parseText_dumps quotientFloats formed]

theorem zeroId_identified : isTransferId (List.replicate 32 (chr '0')) = true := by decide

/-- Two files of thirty-two zero octets. -/
def pairBatch : Batch asciiPlatform where
  transferId := List.replicate 32 (chr '0')
  files := [⟨py "a.txt", 32, List.replicate 64 (chr '0')⟩,
    ⟨py "b.txt", 32, List.replicate 64 (chr '0')⟩]
  message := none
  identified := zeroId_identified
  counted := by decide
  named file member := by
    cases List.mem_cons.mp member with
    | inl same => rw [same]; decide
    | inr other => rw [List.mem_singleton.mp other]; decide
  sized file member := by
    cases List.mem_cons.mp member with
    | inl same => rw [same]; decide
    | inr other => rw [List.mem_singleton.mp other]; decide
  totalled := by decide
  hashed file member := by
    cases List.mem_cons.mp member with
    | inl same => rw [same]; decide
    | inr other => rw [List.mem_singleton.mp other]; decide
  bounded text written := by cases written

namespace StoreHost

def firstFile : IncomingFile := ⟨py "file-0", py "a.txt", 32, List.replicate 64 (chr '0')⟩

def secondFile : IncomingFile := ⟨py "file-1", py "b.txt", 32, List.replicate 64 (chr '0')⟩

def pairOffer : TransferOffer := pairBatch.offer

theorem pairOffer_files : pairOffer.files = [firstFile, secondFile] := by decide

theorem pairOffer_valid : validateOffer asciiPlatform pairBatch.offerFrame = .ok pairOffer :=
  pairBatch.validateOffer_offerFrame

/-- The partial of the second file, and the text of its path. -/
def secondPartial : FilePath := partialPath pairOffer.transferId (py "file-1")

def secondText : PyStr :=
  py "/received/.direct-transfer-partials/00000000000000000000000000000000/file-1.part"

/-- A host whose receive directory is `/received`, as far as two texts show. -/
noncomputable def receivedHost : StoreHost where
  reader := referenceReader
  floats := quotientFloats
  digests := plainCrypto.toDigests
  resolve text :=
    if text = [codePoint 0] then .error (raised .valueError "embedded null byte")
    else if text = secondText then .ok (some secondPartial)
    else .ok none
  render path := if path = secondPartial then secondText else []

theorem receivedHost_second : receivedHost.resolve secondText = .ok (some secondPartial) := by
  have other : secondText ≠ [codePoint 0] := by decide
  simp only [receivedHost, if_neg other, if_true]

theorem receivedHost_only {text : PyStr} {path : FilePath}
    (resolved : receivedHost.resolve text = .ok (some path)) : path = secondPartial := by
  simp only [receivedHost] at resolved
  repeat' split at resolved
  all_goals cases resolved
  rfl

theorem receivedHost_lawful : receivedHost.Lawful where
  reads value formed := referenceReader_reads formed
  renders text path resolved := by
    have rendered : receivedHost.render secondPartial = secondText := by
      simp only [receivedHost, if_true]
    rw [receivedHost_only resolved, rendered]
    exact ⟨receivedHost_second, pairFree_py _⟩

/-- A session directory with metadata of the given records. -/
def recordedDisk (records : Dict PyStr Json) : Disk FilePath :=
  Disk.empty.create (metadataPath pairOffer.transferId)
    (encodeAscii ((Json.sortKeys (metadata pairOffer.transferId records)).dumps quotientFloats))

theorem recordedDisk_nodes (records : Dict PyStr Json) (path : FilePath) :
    (recordedDisk records).nodes.get path =
      if path = metadataPath pairOffer.transferId then some (.file 0) else none := by
  rw [recordedDisk, Disk.nodes_create, Dict.get_set]
  rfl

theorem secondPartial_ne_metadata : secondPartial ≠ metadataPath pairOffer.transferId :=
  partialPath_ne_metadata _ _

theorem secondPartial_ne_temporary : secondPartial ≠ temporaryPath pairOffer.transferId :=
  partialPath_ne_temporary _ _

theorem temporary_ne_metadata :
    temporaryPath pairOffer.transferId ≠ metadataPath pairOffer.transferId := by
  intro same
  exact absurd (congrArg FilePath.name same) (by decide : metadataTemporary ≠ metadataName)

def oneRecord (finalPath : Option PyStr) : Dict PyStr Json :=
  Dict.empty.set (py "file-0") (fileRecord firstFile finalPath)

theorem oneRecord_formed {finalPath : Option PyStr}
    (free : ∀ text, finalPath = some text → PairFree text) :
    (metadata pairOffer.transferId (oneRecord finalPath)).WellFormed ∧
      (fileRecord firstFile finalPath).WellFormed := by
  have record : (fileRecord firstFile finalPath).WellFormed :=
    wellFormed_fileRecord (pairBatch.offerable) (by decide : firstFile ∈ _) free
  refine ⟨?_, record⟩
  have transfer : PairFree pairOffer.transferId := pairFree_lowerHex (by decide)
  simp [metadata, oneRecord, Dict.set, Dict.empty, putEntry, Json.WellFormed, Json.WellFormedFields,
    transfer, record]

/-- What is read of a disk that still has the metadata. -/
theorem oneRecord_read {disk : Disk FilePath} {finalPath : Option PyStr}
    (free : ∀ text, finalPath = some text → PairFree text)
    (stored : Stores disk (metadataPath pairOffer.transferId)
      (encodeAscii ((Json.sortKeys (metadata pairOffer.transferId
        (oneRecord finalPath))).dumps quotientFloats))) :
    receivedHost.readMetadata disk pairOffer.transferId =
      .ok (Json.sortKeys (metadata pairOffer.transferId (oneRecord finalPath))) := by
  rw [readMetadata_of_stores stored]
  exact parseMetadata_written receivedHost_lawful (oneRecord_formed free).1 rfl

theorem oneRecord_entries {finalPath : Option PyStr}
    (free : ∀ text, finalPath = some text → PairFree text) :
    findEntry (py "file-0") (storedFiles (Json.sortKeys (metadata pairOffer.transferId
        (oneRecord finalPath)))) = some (Json.sortKeys (fileRecord firstFile finalPath)) ∧
      findEntry (py "file-1") (storedFiles (Json.sortKeys (metadata pairOffer.transferId
        (oneRecord finalPath)))) = none := by
  have formed := (oneRecord_formed free).1
  constructor
  · rw [findEntry_storedFiles formed, oneRecord, Dict.get_set_self]
    rfl
  · rw [findEntry_storedFiles formed, oneRecord, Dict.get_set_ne (by decide)]
    rfl

/-- One octet of the first file, under its record. -/
def resumedDisk : Disk FilePath :=
  (recordedDisk (oneRecord none)).create (partialPath pairOffer.transferId firstFile.fileId) [0]

theorem resumedDisk_nodes (path : FilePath) : resumedDisk.nodes.get path =
    if path = partialPath pairOffer.transferId firstFile.fileId then some (.file 1)
    else if path = metadataPath pairOffer.transferId then some (.file 0) else none := by
  rw [resumedDisk, Disk.nodes_create, Dict.get_set, recordedDisk_nodes]
  rfl

theorem resumedDisk_read : receivedHost.readMetadata resumedDisk pairOffer.transferId =
    .ok (Json.sortKeys (metadata pairOffer.transferId (oneRecord none))) := by
  apply oneRecord_read (by simp)
  refine ⟨0, ?_, ?_⟩
  · rw [resumedDisk_nodes, if_neg (partialPath_ne_metadata _ _).symm, if_pos rfl]
  · rfl

/-- No final path is recorded in a record without one. -/
theorem oneRecord_unfinished {file : IncomingFile} (member : file ∈ pairOffer.files) :
    recordedFinal (findEntry file.fileId (storedFiles (Json.sortKeys (metadata
      pairOffer.transferId (oneRecord none))))) = none := by
  have entries := @oneRecord_entries none (by simp)
  rw [pairOffer_files] at member
  cases List.mem_cons.mp member with
  | inl same =>
      rw [same]
      exact (congrArg recordedFinal entries.1).trans
        (fileRecord_final (@oneRecord_formed none (by simp)).2)
  | inr other =>
      rw [List.mem_singleton.mp other]
      exact congrArg recordedFinal entries.2

theorem resumedDisk_directory : receivedHost.SessionDirectory resumedDisk pairOffer (storedFiles
    (Json.sortKeys (metadata pairOffer.transferId (oneRecord none)))) where
  temporary node placed := by
    rw [resumedDisk_nodes, if_neg (partialPath_ne_temporary _ _).symm,
      if_neg temporary_ne_metadata] at placed
    cases placed
  sited file member := by
    constructor
    · intro node placed
      rw [resumedDisk_nodes] at placed
      repeat' split at placed
      all_goals cases placed
      all_goals exact ⟨_, rfl⟩
    · intro _ text recorded
      rw [oneRecord_unfinished member] at recorded
      cases recorded
    · intro _ text recorded
      rw [oneRecord_unfinished member] at recorded
      cases recorded
  apart file member recorded := absurd (oneRecord_unfinished member) recorded

/-- Where no name of the session directory is in another's way, the states of an
offer are backed by the disk and stable, and the sender takes their offsets. -/
theorem resume_state_sound {host : StoreHost} {platform : Platform} {payload existing : Json}
    {offer : TransferOffer} {disk : Disk FilePath} (lawful : host.Lawful)
    (valid : validateOffer platform payload = .ok offer)
    (read : host.readMetadata disk offer.transferId = .ok existing)
    (directory : host.SessionDirectory disk offer (storedFiles existing)) :
    host.PreparesSoundly disk offer (storedFiles existing) := by
  obtain ⟨offerable, identified⟩ := validateOffer_offerable valid
  have distinct := offerable.distinct
  obtain ⟨next, called, prepared⟩ := prepare_ok distinct read directory
  have held {file : IncomingFile} (member : file ∈ offer.files) :=
    @gathered_state host offer distinct (host.foundIn disk offer (storedFiles existing)) file member
  have finds {file : IncomingFile} (member : file ∈ offer.files) := foundIn_finds directory member
  refine ⟨next, _, called, ?_⟩
  constructor
  · rw [Dict.keys, gathered, extendAll_states distinct, List.map_map]
    rfl
  · intro file member
    exact ⟨_, held member, (finds member).ranged⟩
  · intro file member state found positive
    obtain rfl := Option.some.inj ((held member).symm.trans found)
    have kept := partial_reads offerable directory prepared member
    have outside := fun candidate => @read_outside host disk next offer existing directory
      prepared file member candidate
    have finds := finds member
    generalize host.foundIn disk offer (storedFiles existing) file = examined at *
    cases finds with
    | unmatched | lost | absent | oversized => cases positive
    | continued matched _ read =>
        exact ⟨matchesOffer_iff.mp matched, .partialFile ((kept rfl).2.trans read) rfl⟩
    | verified matched _ resolved read length digest =>
        exact ⟨matchesOffer_iff.mp matched, .finalFile rfl (lawful.renders _ _ resolved).1
          ((outside _ rfl).2.1.trans read) length digest rfl⟩
  · intro file member unmatched
    apply prepared.cleared member
    have finds := finds member
    generalize host.foundIn disk offer (storedFiles existing) file = examined at *
    cases finds with
    | unmatched | oversized => rfl
    | lost matched | absent matched | continued matched | verified matched =>
        exact absurd (matchesOffer_iff.mp matched) unmatched
  · exact prepare_again lawful offerable directory prepared identified
  · have offsets {file : IncomingFile} (member : file ∈ offer.files) :
        offsetIn (host.gathered offer (host.foundIn disk offer (storedFiles existing))).states
          file.fileId = (host.foundIn disk offer (storedFiles existing) file).offset := by
      rw [offsetIn, held member]
      rfl
    have ranged (file : IncomingFile) (member : file ∈ offer.files) :
        offsetIn (host.gathered offer (host.foundIn disk offer (storedFiles existing))).states
          file.fileId ≤ file.size := by
      rw [offsets member]
      exact (finds member).ranged
    obtain ⟨taken, accepted, exactly⟩ := validateResumeState_resumeState distinct ranged
    refine ⟨taken, accepted, fun file member => ?_⟩
    rw [exactly file member, offsets member, held member]
    rfl

/-- The first file was interrupted after an octet; the second is new. -/
theorem interrupted_pair_sound : receivedHost.PreparesSoundly resumedDisk pairOffer (storedFiles
    (Json.sortKeys (metadata pairOffer.transferId (oneRecord none)))) :=
  resume_state_sound receivedHost_lawful pairOffer_valid resumedDisk_read resumedDisk_directory

/-! ## Names in each other's way -/

/-- A call that keeps what it has of the first file and nothing of the second. -/
theorem prepare_pair {disk next : Disk FilePath} {existing : Json} {found : Examined}
    (read : receivedHost.readMetadata disk pairOffer.transferId = .ok existing)
    (first : receivedHost.examine disk pairOffer.transferId
      (findEntry (py "file-0") (storedFiles existing)) firstFile = .ok found)
    (kept : found.dropped = false)
    (unknown : findEntry (py "file-1") (storedFiles existing) = none)
    (regular : disk.nodes.get secondPartial ≠ some .directory)
    (written : receivedHost.atomicWrite (disk.unlink secondPartial) pairOffer.transferId
      (metadata pairOffer.transferId (receivedHost.extend (receivedHost.extend
        ⟨Dict.empty, Dict.empty⟩ firstFile found) secondFile ⟨0, none, true⟩).records) =
          (next, .ok ())) :
    receivedHost.prepare disk pairOffer = (next, .ok (receivedHost.extend (receivedHost.extend
      ⟨Dict.empty, Dict.empty⟩ firstFile found) secondFile ⟨0, none, true⟩).states) := by
  have second : receivedHost.examine disk pairOffer.transferId
      (findEntry secondFile.fileId (storedFiles existing)) secondFile = .ok ⟨0, none, true⟩ := by
    show receivedHost.examine disk _ (findEntry (py "file-1") _) _ = _
    rw [unknown]
    rfl
  have removed : unlinkMissingOk disk (partialPath pairOffer.transferId secondFile.fileId) =
      .ok (disk.unlink secondPartial) := by
    unfold unlinkMissingOk
    exact if_neg regular
  have first : receivedHost.examine disk pairOffer.transferId
      (findEntry firstFile.fileId (storedFiles existing)) firstFile = .ok found := first
  simp only [prepare, read, pairOffer_files, prepareFiles, first, kept, second, removed,
    Bool.false_eq_true, if_false, if_true, written]

theorem pair_state (found : Examined) :
    (receivedHost.extend (receivedHost.extend ⟨Dict.empty, Dict.empty⟩ firstFile found) secondFile
      ⟨0, none, true⟩).states.get firstFile.fileId = some (receivedHost.state found) := by
  show ((Dict.empty.set firstFile.fileId _).set secondFile.fileId _).get firstFile.fileId = _
  rw [Dict.get_set_ne (by decide), Dict.get_set_self]

/-- The record of the first file leads to the partial of the second. -/
def strayDisk : Disk FilePath :=
  (recordedDisk (oneRecord (some secondText))).create secondPartial (List.replicate 32 0)

theorem secondText_free (text : PyStr) (written : some secondText = some text) : PairFree text := by
  cases written
  exact pairFree_py _

theorem strayDisk_nodes (path : FilePath) : strayDisk.nodes.get path =
    if path = secondPartial then some (.file 1)
    else if path = metadataPath pairOffer.transferId then some (.file 0) else none := by
  rw [strayDisk, Disk.nodes_create, Dict.get_set, recordedDisk_nodes]
  rfl

theorem strayDisk_read : receivedHost.readMetadata strayDisk pairOffer.transferId =
    .ok (Json.sortKeys (metadata pairOffer.transferId (oneRecord (some secondText)))) := by
  apply oneRecord_read secondText_free
  refine ⟨0, ?_, ?_⟩
  · rw [strayDisk_nodes, if_neg secondPartial_ne_metadata.symm, if_pos rfl]
  · rfl

/-- The final path found for the first file is removed as the second's partial. -/
theorem strayDisk_unsound : ¬ receivedHost.PreparesSoundly strayDisk pairOffer (storedFiles
    (Json.sortKeys (metadata pairOffer.transferId (oneRecord (some secondText))))) := by
  intro sound
  have formed := (oneRecord_formed secondText_free).2
  have entries := oneRecord_entries secondText_free
  have content : strayDisk.read secondPartial = some (List.replicate 32 0) := by
    have node : strayDisk.nodes.get secondPartial = some (.file 1) := by
      rw [strayDisk_nodes, if_pos rfl]
    rw [Disk.read, Disk.inode?_of_node node]
    rfl
  have verified : receivedHost.verifies strayDisk secondPartial firstFile = true :=
    verifies_iff.mpr ⟨_, content, by decide, by decide⟩
  have first := @examine_verified receivedHost strayDisk pairOffer.transferId _ firstFile
    (fileRecord_matches formed) _ _ (fileRecord_final formed) receivedHost_second verified
  rw [← entries.1] at first
  have own : OwnTemporary (strayDisk.unlink secondPartial) pairOffer.transferId := by
    intro node placed
    rw [Disk.nodes_unlink, Dict.get_erase_ne secondPartial_ne_temporary.symm, strayDisk_nodes,
      if_neg secondPartial_ne_temporary.symm, if_neg temporary_ne_metadata] at placed
    cases placed
  obtain ⟨next, written, rewritten⟩ := @atomicWrite_ok receivedHost _ pairOffer.transferId own
    (metadata pairOffer.transferId (receivedHost.extend (receivedHost.extend
      ⟨Dict.empty, Dict.empty⟩ firstFile ⟨32, some secondPartial, false⟩) secondFile
        ⟨0, none, true⟩).records)
  have regular : strayDisk.nodes.get secondPartial ≠ some .directory := by
    rw [strayDisk_nodes, if_pos rfl]
    decide
  have called := prepare_pair strayDisk_read first rfl entries.2 regular written
  obtain ⟨other, states, calledSound, sound⟩ := sound
  rw [called] at calledSound
  cases calledSound
  have backed := (sound.backed firstFile (by decide) _ (pair_state _) (by decide)).2
  have after (path : FilePath) (apart : path ≠ metadataPath pairOffer.transferId) :
      next.nodes.get path = none := by
    by_cases temporary : path = temporaryPath pairOffer.transferId
    · rw [temporary, rewritten.moved]
    · rw [rewritten.frame.nodes path (not_or.mpr ⟨temporary, apart⟩), Disk.nodes_unlink,
        Dict.get_erase, strayDisk_nodes, if_neg apart]
      repeat' split
      all_goals rfl
  cases backed with
  | partialFile read =>
      rw [Disk.read_of_free (after _ (partialPath_ne_metadata _ _))] at read
      cases read
  | finalFile _ resolved read =>
      rw [receivedHost_only resolved, Disk.read_of_free (after _ secondPartial_ne_metadata)] at read
      cases read

theorem null_free (text : PyStr) (written : some [codePoint 0] = some text) : PairFree text := by
  cases written
  trivial

theorem unresolved_read : receivedHost.readMetadata (recordedDisk (oneRecord
    (some [codePoint 0]))) pairOffer.transferId = .ok (Json.sortKeys (metadata
      pairOffer.transferId (oneRecord (some [codePoint 0])))) := by
  apply oneRecord_read null_free
  refine ⟨0, ?_, ?_⟩
  · rw [recordedDisk_nodes, if_pos rfl]
  · rfl

/-- The record of the first file has a path no file can have. -/
theorem unresolved_unsound : ¬ receivedHost.PreparesSoundly (recordedDisk
    (oneRecord (some [codePoint 0]))) pairOffer (storedFiles (Json.sortKeys (metadata
      pairOffer.transferId (oneRecord (some [codePoint 0]))))) := by
  intro sound
  have formed := (oneRecord_formed null_free).2
  have entries := oneRecord_entries null_free
  have failed : receivedHost.examine (recordedDisk (oneRecord (some [codePoint 0])))
      pairOffer.transferId (findEntry firstFile.fileId (storedFiles (Json.sortKeys (metadata
        pairOffer.transferId (oneRecord (some [codePoint 0])))))) firstFile =
        .error (raised .valueError "embedded null byte") := by
    show receivedHost.examine _ _ (findEntry (py "file-0") _) _ = _
    rw [entries.1]
    have resolved : receivedHost.resolve [codePoint 0] =
        .error (raised .valueError "embedded null byte") := by
      simp only [receivedHost, if_true]
    simp only [examine, fileRecord_matches formed, fileRecord_final formed, resolved,
      Bool.true_eq_false, if_false]
  obtain ⟨next, states, called, _⟩ := sound
  simp only [prepare, unresolved_read, pairOffer_files, prepareFiles, failed] at called
  cases called

/-- A directory stands where the metadata is written first. -/
def blockedDisk : Disk FilePath :=
  Disk.empty.setNode (temporaryPath pairOffer.transferId) .directory fun _ same => nomatch same

theorem blockedDisk_read : receivedHost.readMetadata blockedDisk pairOffer.transferId =
    .ok (.obj []) := by
  have free : blockedDisk.nodes.get (metadataPath pairOffer.transferId) = none := by
    rw [blockedDisk, Disk.nodes_setNode, Dict.get_set_ne temporary_ne_metadata.symm]
    rfl
  simp [readMetadata, Disk.linkLimit, Disk.target?, free]

theorem blockedDisk_unsound : ¬ receivedHost.PreparesSoundly blockedDisk pairOffer [] := by
  intro sound
  obtain ⟨next, states, called, _⟩ := sound
  have looped : receivedHost.prepareFiles pairOffer.transferId [] [firstFile, secondFile]
      blockedDisk ⟨Dict.empty, Dict.empty⟩ =
        ((blockedDisk.unlink (partialPath pairOffer.transferId firstFile.fileId)).unlink
          secondPartial, .ok (receivedHost.extend (receivedHost.extend ⟨Dict.empty, Dict.empty⟩
            firstFile ⟨0, none, true⟩) secondFile ⟨0, none, true⟩)) := by
    rfl
  have blocked : ((blockedDisk.unlink (partialPath pairOffer.transferId firstFile.fileId)).unlink
      secondPartial).nodes.get (temporaryPath pairOffer.transferId) = some .directory := by
    rw [Disk.nodes_unlink, Dict.get_erase_ne secondPartial_ne_temporary.symm, Disk.nodes_unlink,
      Dict.get_erase_ne (partialPath_ne_temporary _ _).symm, blockedDisk, Disk.nodes_setNode,
      Dict.get_set_self]
  have listed : storedFiles (.obj []) = [] := rfl
  simp only [prepare, blockedDisk_read, listed, pairOffer_files, looped, atomicWrite,
    Disk.overwrite_of_directory _ blocked] at called
  cases called

/-- The first file's partial is also named `metadata.tmp`. -/
def linkedDisk : Disk FilePath :=
  ((recordedDisk (oneRecord none)).create (partialPath pairOffer.transferId firstFile.fileId)
    [0]).setNode (temporaryPath pairOffer.transferId) (.file 1) fun inode same => by
      cases same
      decide

theorem linkedDisk_nodes (path : FilePath) : linkedDisk.nodes.get path =
    if path = temporaryPath pairOffer.transferId ∨
        path = partialPath pairOffer.transferId firstFile.fileId then some (.file 1)
    else if path = metadataPath pairOffer.transferId then some (.file 0) else none := by
  rw [linkedDisk, Disk.nodes_setNode, Dict.get_set, Disk.nodes_create, Dict.get_set,
    recordedDisk_nodes]
  by_cases temporary : path = temporaryPath pairOffer.transferId
  · rw [if_pos temporary, if_pos (.inl temporary)]
  · by_cases first : path = partialPath pairOffer.transferId firstFile.fileId
    · rw [if_neg temporary, if_pos first, if_pos (.inr first)]
      rfl
    · rw [if_neg temporary, if_neg first, if_neg (not_or.mpr ⟨temporary, first⟩)]

theorem linkedDisk_read : receivedHost.readMetadata linkedDisk pairOffer.transferId =
    .ok (Json.sortKeys (metadata pairOffer.transferId (oneRecord none))) := by
  apply oneRecord_read (by simp)
  refine ⟨0, ?_, ?_⟩
  · rw [linkedDisk_nodes, if_neg (not_or.mpr ⟨temporary_ne_metadata.symm,
      (partialPath_ne_metadata _ _).symm⟩), if_pos rfl]
  · rfl

/-- Writing the metadata overwrites the partial. -/
theorem linkedDisk_unsound : ¬ receivedHost.PreparesSoundly linkedDisk pairOffer (storedFiles
    (Json.sortKeys (metadata pairOffer.transferId (oneRecord none)))) := by
  intro sound
  have formed := (@oneRecord_formed none (by simp)).2
  have entries := @oneRecord_entries none (by simp)
  have apart : partialPath pairOffer.transferId firstFile.fileId ≠ secondPartial := by
    intro same
    exact absurd (partialPath_inj same) (by decide)
  have node : linkedDisk.nodes.get (partialPath pairOffer.transferId firstFile.fileId) =
      some (.file 1) := by
    rw [linkedDisk_nodes, if_pos (.inr rfl)]
  have read : linkedDisk.read (partialPath pairOffer.transferId firstFile.fileId) = some [0] := by
    rw [Disk.read_of_node node]
    rfl
  have first := @examine_continued receivedHost linkedDisk pairOffer.transferId _ firstFile
    (fileRecord_matches formed) [0] (fileRecord_final formed) read (by decide)
  rw [← entries.1] at first
  have shared : (linkedDisk.unlink secondPartial).nodes.get (temporaryPath pairOffer.transferId) =
      some (.file 1) := by
    rw [Disk.nodes_unlink, Dict.get_erase_ne secondPartial_ne_temporary.symm, linkedDisk_nodes,
      if_pos (.inl rfl)]
  generalize gathered : receivedHost.extend (receivedHost.extend ⟨Dict.empty, Dict.empty⟩
    firstFile ⟨1, none, false⟩) secondFile ⟨0, none, true⟩ = prepared
  generalize text : encodeAscii ((Json.sortKeys (metadata pairOffer.transferId
    prepared.records)).dumps receivedHost.floats) = octets
  obtain ⟨next, replaced⟩ := @replace_isOk ((linkedDisk.unlink secondPartial).write 1 octets) _ _
    shared (metadataPath pairOffer.transferId)
  have written : receivedHost.atomicWrite (linkedDisk.unlink secondPartial) pairOffer.transferId
      (metadata pairOffer.transferId prepared.records) = (next, .ok ()) := by
    unfold atomicWrite
    simp only [text, Disk.overwrite_of_node octets shared, replaced]
  have regular : linkedDisk.nodes.get secondPartial ≠ some .directory := by
    rw [linkedDisk_nodes, if_neg (not_or.mpr ⟨secondPartial_ne_temporary, apart.symm⟩),
      if_neg secondPartial_ne_metadata]
    simp
  have called := prepare_pair linkedDisk_read first rfl entries.2 regular (gathered ▸ written)
  obtain ⟨other, states, calledSound, sound⟩ := sound
  rw [called] at calledSound
  cases calledSound
  have backed := (sound.backed firstFile (by decide) _ (pair_state _) (by decide)).2
  have longer : 1 < octets.length := by
    rw [← text, encodeAscii_length, Json.dumps_sortKeys_length]
    simp [metadata, Json.dumps]
  cases backed with
  | @partialFile held read length =>
      obtain ⟨moved, found, nodes, contents, _⟩ := Disk.replace_ok replaced
      have kept : next.nodes.get (partialPath pairOffer.transferId firstFile.fileId) =
          some (.file 1) := by
        rw [nodes, Dict.get_erase_ne (partialPath_ne_temporary _ _),
          Dict.get_set_ne (partialPath_ne_metadata _ _), Disk.nodes_write, Disk.nodes_unlink,
          Dict.get_erase_ne apart, node]
      rw [Disk.read_of_node kept, contents, Disk.contents_write, if_pos rfl] at read
      cases read
      rw [← length] at longer
      exact absurd longer (by decide)
  | finalFile shown => cases shown

/-- Partials are regular files, and no file has both a partial and a recorded
final path. -/
def PlainPartials (disk : Disk FilePath) (offer : TransferOffer)
    (listed : List (PyStr × Json)) : Prop :=
  ∀ file ∈ offer.files,
    (∀ node, disk.nodes.get (partialPath offer.transferId file.fileId) = some node →
      ∃ inode, node = .file inode) ∧
    (recordedFinal (findEntry file.fileId listed) ≠ none →
      disk.nodes.get (partialPath offer.transferId file.fileId) = none)

/-- Where no partial stands in the session directory, none is in the way. -/
theorem plainPartials_of_free {disk : Disk FilePath} {listed : List (PyStr × Json)}
    (free : ∀ fileId, disk.nodes.get (partialPath pairOffer.transferId fileId) = none) :
    PlainPartials disk pairOffer listed := by
  intro file _
  constructor
  · intro node placed
    rw [free] at placed
    cases placed
  · intro _
    exact free file.fileId

theorem strayDisk_plain : PlainPartials strayDisk pairOffer (storedFiles
    (Json.sortKeys (metadata pairOffer.transferId (oneRecord (some secondText))))) := by
  intro file member
  rw [pairOffer_files] at member
  constructor
  · intro node placed
    rw [strayDisk_nodes] at placed
    repeat' split at placed
    all_goals cases placed
    all_goals exact ⟨_, rfl⟩
  · intro recorded
    cases List.mem_cons.mp member with
    | inl same =>
        have apart : partialPath pairOffer.transferId firstFile.fileId ≠ secondPartial := by
          intro same
          exact absurd (partialPath_inj same) (by decide)
        rw [same, strayDisk_nodes, if_neg apart, if_neg (partialPath_ne_metadata _ _)]
    | inr other =>
        rw [List.mem_singleton.mp other] at recorded
        exact absurd (congrArg recordedFinal (oneRecord_entries secondText_free).2) recorded

theorem linkedDisk_plain : PlainPartials linkedDisk pairOffer (storedFiles
    (Json.sortKeys (metadata pairOffer.transferId (oneRecord none)))) := by
  intro file member
  constructor
  · intro node placed
    rw [linkedDisk_nodes] at placed
    repeat' split at placed
    all_goals cases placed
    all_goals exact ⟨_, rfl⟩
  · intro recorded
    exact absurd (oneRecord_unfinished member) recorded

/-- Session directories with what their metadata reads as. -/
def crowded : List (Disk FilePath × Json) :=
  [(strayDisk, Json.sortKeys (metadata pairOffer.transferId (oneRecord (some secondText)))),
    (recordedDisk (oneRecord (some [codePoint 0])),
      Json.sortKeys (metadata pairOffer.transferId (oneRecord (some [codePoint 0])))),
    (blockedDisk, .obj []),
    (linkedDisk, Json.sortKeys (metadata pairOffer.transferId (oneRecord none)))]

/-- A recorded path that leads to another file's partial, one that cannot be
resolved, a directory named `metadata.tmp` and a partial of that name are each
enough for `prepare` to raise or to return states that do not hold. -/
theorem names_in_the_way : receivedHost.Lawful ∧
    validateOffer asciiPlatform pairBatch.offerFrame = .ok pairOffer ∧
    ∀ pair ∈ crowded, receivedHost.readMetadata pair.1 pairOffer.transferId = .ok pair.2 ∧
      PlainPartials pair.1 pairOffer (storedFiles pair.2) ∧
      ¬ receivedHost.PreparesSoundly pair.1 pairOffer (storedFiles pair.2) := by
  refine ⟨receivedHost_lawful, pairOffer_valid, ?_⟩
  simp only [crowded, List.forall_mem_cons, List.not_mem_nil, false_implies, implies_true, and_true]
  refine ⟨⟨strayDisk_read, strayDisk_plain, strayDisk_unsound⟩, ⟨unresolved_read, ?_,
    unresolved_unsound⟩, ⟨blockedDisk_read, ?_, blockedDisk_unsound⟩,
    linkedDisk_read, linkedDisk_plain, linkedDisk_unsound⟩
  · apply plainPartials_of_free
    intro fileId
    rw [recordedDisk_nodes, if_neg (partialPath_ne_metadata _ _)]
  · apply plainPartials_of_free
    intro fileId
    rw [blockedDisk, Disk.nodes_setNode, Dict.get_set_ne (partialPath_ne_temporary _ _)]
    rfl

end StoreHost

end DirectTransfer
