import DirectTransfer.Core.ResumeSoundness
import DirectTransfer.Core.StoredReceiver

/-! What the disk keeps of one transfer between the calls of its sessions: a record
of every offered file, the partials of those that are not finished, and the files
of those that are. -/

set_option autoImplicit false

namespace DirectTransfer

open Library

/-- A name that is free, or the only name of a file. -/
def OwnFile (disk : Disk FilePath) (path : FilePath) : Prop :=
  ∀ node, disk.nodes.get path = some node → ∃ inode, node = .file inode ∧
    ∀ other, disk.nodes.get other = some (.file inode) → other = path

section

variable {disk next : Disk FilePath} {path : FilePath} {touched : FilePath → Prop}

theorem OwnFile.frame (own : OwnFile disk path) (frame : Disk.Frame touched disk next)
    (untouched : ¬ touched path) : OwnFile next path := by
  intro node placed
  obtain ⟨inode, rfl, alone⟩ := own node ((frame.nodes path untouched).symm.trans placed)
  have before := (frame.nodes path untouched).symm.trans placed
  refine ⟨inode, rfl, fun other held => ?_⟩
  cases frame.origins other inode held (disk.bounded _ _ before) with
  | inl same => exact alone other same
  | inr moved =>
      obtain ⟨source, touches, named⟩ := moved
      exact absurd (alone source named ▸ touches) untouched

theorem OwnFile.direct (own : OwnFile disk path) (target : FilePath) :
    disk.nodes.get path ≠ some (.symlink target) := by
  intro linked
  obtain ⟨inode, same, _⟩ := own _ linked
  cases same

theorem OwnFile.free (free : disk.nodes.get path = none) : OwnFile disk path := by
  intro node placed
  cases free.symm.trans placed

end

/-! ## Records read back -/

section

variable {record : Json} {offered : IncomingFile}

theorem pyEq_sortKeys {value scalar : Json} (flat : scalar.isScalar = true) :
    (Json.sortKeys value).pyEq scalar = value.pyEq scalar := by
  cases value <;> cases scalar <;> first | rfl | cases flat

theorem matchesOffer_sortKeys (formed : record.WellFormed) :
    matchesOffer (some (Json.sortKeys record)) offered = matchesOffer (some record) offered := by
  cases record with
  | obj fields =>
      have sorted (key : String) := Json.field_sortKeys formed key
      simp only [Json.sortKeys] at sorted
      simp only [matchesOffer, Json.sortKeys, sorted]
      rw [pyEq_sortKeys rfl, pyEq_sortKeys rfl, pyEq_sortKeys rfl]
  | _ => rfl

theorem recordedFinal_sortKeys (formed : record.WellFormed) :
    recordedFinal (some (Json.sortKeys record)) = recordedFinal (some record) := by
  simp only [recordedFinal, Json.field_sortKeys formed]
  cases record.field "final_path" <;> rfl

/-- What is read back of the record of a file, of metadata of any origin. -/
theorem findEntry_sorted {value : Json} {files : List (PyStr × Json)} (formed : value.WellFormed)
    (listed : value.get (py "files") = some (.obj files)) (fileId : PyStr) :
    findEntry fileId (storedFiles (Json.sortKeys value)) = (findEntry fileId files).map Json.sortKeys := by
  have inner : (Json.obj files).WellFormed := by
    cases value with
    | obj fields => exact Json.wellFormed_findEntry formed.2 listed
    | _ => cases listed
  simp only [storedFiles, Json.get_sortKeys formed, listed, Option.map_some]
  exact Json.get_sortKeys inner fileId

theorem recordedFinal_put {fields : List (PyStr × Json)} (text : PyStr) :
    recordedFinal (some (.obj (putEntry (py "final_path") (.str text) fields))) = some text := by
  simp [recordedFinal, Json.field, Json.get, findEntry_putEntry]

theorem matchesOffer_put {fields : List (PyStr × Json)} (text : PyStr) :
    matchesOffer (some (.obj (putEntry (py "final_path") (.str text) fields))) offered =
      matchesOffer (some (.obj fields)) offered := by
  have same (key : String) (other : py "final_path" ≠ py key) :
      (Json.obj (putEntry (py "final_path") (.str text) fields)).field key =
        (Json.obj fields).field key := by
    simp only [Json.field, Json.get, findEntry_putEntry, if_neg (Ne.symm other)]
  simp only [matchesOffer]
  rw [same "name" (by decide), same "size" (by decide), same "sha256" (by decide)]

end

namespace StoreHost

variable {host : StoreHost} {platform : Platform} {disk next : Disk FilePath}
  {offer : TransferOffer} {file : IncomingFile} {finals : IncomingFile → Option FilePath}
  {existing : Json}

/-! ## The shelf -/

/-- A file that is recorded as finished. -/
structure Kept (host : StoreHost) (disk : Disk FilePath) (transferId : PyStr) (file : IncomingFile)
    (path : FilePath) : Prop where
  outside : path.directory ≠ .session transferId
  resolves : host.resolve (host.render path) = .ok (some path)
  free : PairFree (host.render path)
  direct : ∀ target, disk.nodes.get path ≠ some (.symlink target)
  verified : host.verifies disk path file = true

/-- Metadata with a record of every offered file. -/
structure Listed (host : StoreHost) (offer : TransferOffer) (existing : Json)
    (finals : IncomingFile → Option FilePath) : Prop where
  formed : existing.WellFormed
  records : ∀ file ∈ offer.files, ∃ record,
    findEntry file.fileId (storedFiles existing) = some (.obj record) ∧
    matchesOffer (some (.obj record)) file = true ∧
    recordedFinal (some (.obj record)) = (finals file).map host.render

/-- The disk while a session goes through the files, `finals` being recorded as finished. -/
structure Shelved (host : StoreHost) (disk : Disk FilePath) (offer : TransferOffer)
    (finals : IncomingFile → Option FilePath) : Prop where
  metadata : ∃ octets existing, Stores disk (metadataPath offer.transferId) octets ∧
    host.parseMetadata octets = .ok existing ∧ host.Listed offer existing finals
  temporary : OwnFile disk (temporaryPath offer.transferId)
  partials : ∀ file ∈ offer.files, OwnFile disk (partialPath offer.transferId file.fileId)
  kept : ∀ file ∈ offer.files, ∀ path, finals file = some path →
    host.Kept disk offer.transferId file path
  vacant : ∀ file ∈ offer.files, finals file ≠ none →
    disk.nodes.get (partialPath offer.transferId file.fileId) = none

/-- The octets of a partial, none where there is no partial. -/
def partialOctets (disk : Disk FilePath) (transferId : PyStr) (file : IncomingFile) : Bytes :=
  (disk.read (partialPath transferId file.fileId)).getD []

/-- Where the next session of a file begins. -/
def resumesAt (disk : Disk FilePath) (transferId : PyStr) (finals : IncomingFile → Option FilePath)
    (file : IncomingFile) : Nat :=
  if (finals file).isSome then file.size else (partialOctets disk transferId file).length

theorem Shelved.read (shelved : host.Shelved disk offer finals) :
    ∃ existing, host.readMetadata disk offer.transferId = .ok existing ∧
      host.Listed offer existing finals := by
  obtain ⟨octets, existing, stored, parsed, listed⟩ := shelved.metadata
  exact ⟨existing, (readMetadata_of_stores stored).trans parsed, listed⟩

/-- The next session finds no name in the way of another. -/
theorem Shelved.directory (shelved : host.Shelved disk offer finals)
    (listed : host.Listed offer existing finals) :
    host.SessionDirectory disk offer (storedFiles existing) where
  temporary := shelved.temporary
  sited file member := by
    obtain ⟨record, found, _, recorded⟩ := listed.records file member
    rw [found]
    constructor
    · intro node placed
      obtain ⟨inode, same, _⟩ := shelved.partials file member node placed
      exact ⟨inode, same⟩
    · intro _ text shown
      obtain ⟨path, finished, rfl⟩ := Option.map_eq_some_iff.mp (recorded.symm.trans shown)
      exact ⟨_, (shelved.kept file member path finished).resolves⟩
    · intro _ text shown candidate located
      obtain ⟨path, finished, rfl⟩ := Option.map_eq_some_iff.mp (recorded.symm.trans shown)
      have kept := shelved.kept file member path finished
      cases kept.resolves.symm.trans located
      exact ⟨kept.outside, kept.direct⟩
  apart file member shown := by
    obtain ⟨record, found, _, recorded⟩ := listed.records file member
    apply shelved.vacant file member
    intro unfinished
    apply shown
    rw [found, recorded, unfinished]
    rfl

/-! ## Preparing -/

/-- What `prepare` answers of every file. -/
def Tells (host : StoreHost) (disk : Disk FilePath) (offer : TransferOffer)
    (finals : IncomingFile → Option FilePath) (states : Dict PyStr ResumeFileState) : Prop :=
  ∀ file ∈ offer.files, states.get file.fileId =
    some ⟨resumesAt disk offer.transferId finals file, (finals file).map host.shown⟩

/-- What `prepare` leaves of a disk on which no name is in the way of another. -/
structure Prepares (host : StoreHost) (disk next : Disk FilePath) (offer : TransferOffer)
    (finals : IncomingFile → Option FilePath) (states : Dict PyStr ResumeFileState) : Prop where
  called : host.prepare disk offer = (next, .ok states)
  shelved : host.Shelved next offer finals
  tells : host.Tells next offer finals states
  ranged : ∀ file ∈ offer.files,
    (partialOctets next offer.transferId file).length ≤ file.size
  partials : ∀ file ∈ offer.files, partialOctets next offer.transferId file = [] ∨
    partialOctets next offer.transferId file = partialOctets disk offer.transferId file
  frame : Disk.Frame (fun path => path.directory = .session offer.transferId) disk next

theorem partialOctets_free (free : disk.nodes.get (partialPath offer.transferId file.fileId) = none) :
    partialOctets disk offer.transferId file = [] := by
  rw [partialOctets, Disk.read_of_free free]
  rfl

theorem Finds.matched {transferId : PyStr} {stored : Option Json} {found : Examined}
    (finds : Finds host disk transferId stored file found) {candidate : FilePath}
    (held : found.finalPath = some candidate) : host.verifies disk candidate file = true := by
  cases finds with
  | verified _ _ _ read length digest =>
      cases held
      exact verifies_iff.mpr ⟨_, read, length, digest⟩
  | _ => cases held

/-- Where a file is resumed, told by the partial that is left of it. -/
theorem Finds.resumed {stored : Option Json} {found : Examined}
    (finds : Finds host disk offer.transferId stored file found)
    (cleared : found.dropped = true →
      next.nodes.get (partialPath offer.transferId file.fileId) = none)
    (kept : found.dropped = false → next.read (partialPath offer.transferId file.fileId) =
      disk.read (partialPath offer.transferId file.fileId))
    (apart : recordedFinal stored ≠ none →
      next.nodes.get (partialPath offer.transferId file.fileId) = none) :
    found.offset = (if found.finalPath.isSome then file.size
        else (partialOctets next offer.transferId file).length) ∧
      (partialOctets next offer.transferId file).length ≤ file.size := by
  cases finds with
  | unmatched | oversized => simp [partialOctets_free (cleared rfl)]
  | lost _ recorded => simp [partialOctets_free (apart (by simp [recorded]))]
  | verified _ recorded => simp [partialOctets_free (apart (by simp [recorded]))]
  | absent _ _ read => simp [partialOctets, kept rfl, read]
  | continued _ _ read fits => simp [partialOctets, kept rfl, read, fits]

theorem Prepares.congr {states : Dict PyStr ResumeFileState}
    {others : IncomingFile → Option FilePath} (prepares : host.Prepares disk next offer finals states)
    (same : ∀ file ∈ offer.files, finals file = others file) :
    host.Prepares disk next offer others states where
  called := prepares.called
  shelved := {
    metadata := by
      obtain ⟨octets, existing, stored, parsed, formed, records⟩ := prepares.shelved.metadata
      refine ⟨octets, existing, stored, parsed, formed, fun file member => ?_⟩
      rw [← same file member]
      exact records file member
    temporary := prepares.shelved.temporary
    partials := prepares.shelved.partials
    kept := fun file member path finished =>
      prepares.shelved.kept file member path ((same file member).trans finished)
    vacant := fun file member finished =>
      prepares.shelved.vacant file member fun free => finished ((same file member).symm.trans free) }
  tells file member := by
    rw [prepares.tells file member, resumesAt, resumesAt, same file member]
  ranged := prepares.ranged
  partials := prepares.partials
  frame := prepares.frame

section

variable (lawful : host.Lawful) (offerable : Offerable platform offer.files)
  (identified : isTransferId offer.transferId = true)

include lawful offerable identified

/-- `prepare` on a disk no name of which is in the way of another. -/
theorem prepare_shelves (read : host.readMetadata disk offer.transferId = .ok existing)
    (directory : host.SessionDirectory disk offer (storedFiles existing))
    (own : ∀ file ∈ offer.files, OwnFile disk (partialPath offer.transferId file.fileId)) :
    ∃ next, host.Prepares disk next offer
      (fun file => (host.foundIn disk offer (storedFiles existing) file).finalPath)
      (host.gathered offer (host.foundIn disk offer (storedFiles existing))).states := by
  have distinct := offerable.distinct
  obtain ⟨next, called, prepared⟩ := prepare_ok distinct read directory
  have finds {file : IncomingFile} (member : file ∈ offer.files) := foundIn_finds directory member
  have formed {file : IncomingFile} (member : file ∈ offer.files) :=
    wellFormed_record lawful offerable directory member
  have entry {file : IncomingFile} (member : file ∈ offer.files) :=
    findEntry_again lawful offerable directory identified member
  have metadataFormed := wellFormed_metadata lawful offerable directory identified
  have partials {file : IncomingFile} (member : file ∈ offer.files) :
      next.nodes.get (partialPath offer.transferId file.fileId) = none ∨
        next.read (partialPath offer.transferId file.fileId) =
          disk.read (partialPath offer.transferId file.fileId) := by
    cases dropped : (host.foundIn disk offer (storedFiles existing) file).dropped with
    | true => exact .inl (prepared.cleared member dropped)
    | false => exact .inr (partial_reads offerable directory prepared member dropped).2
  have apart {file : IncomingFile} (member : file ∈ offer.files)
      (recorded : recordedFinal (findEntry file.fileId (storedFiles existing)) ≠ none) :
      next.nodes.get (partialPath offer.transferId file.fileId) = none := by
    cases partial_after offerable directory prepared member with
    | inl gone => exact gone
    | inr same => exact same.trans (directory.apart file member recorded)
  have owned {file : IncomingFile} (member : file ∈ offer.files) :
      OwnFile next (partialPath offer.transferId file.fileId) := by
    cases dropped : (host.foundIn disk offer (storedFiles existing) file).dropped with
    | true => exact .free (prepared.cleared member dropped)
    | false =>
        exact (own file member).frame prepared.frame
          (PreparedDisk.partial_untouched distinct member dropped)
  have resumed {file : IncomingFile} (member : file ∈ offer.files) :=
    (finds member).resumed (fun dropped => prepared.cleared member dropped)
      (fun kept => (partial_reads offerable directory prepared member kept).2) (apart member)
  refine ⟨next, called, ⟨?_, ?_, fun file member => owned member, ?_, ?_⟩, ?_,
    fun file member => (resumed member).2, ?_, ?_⟩
  · obtain ⟨middle, _, rewritten⟩ := prepared.steps
    refine ⟨_, _, rewritten.stored, parseMetadata_written lawful metadataFormed rfl,
      Json.wellFormed_sortKeys _ metadataFormed, fun file member => ?_⟩
    have matched := fileRecord_matches (formed member)
    have recorded := fileRecord_final (formed member)
    cases shown : Json.sortKeys (host.record file
        (host.foundIn disk offer (storedFiles existing) file)) with
    | obj fields =>
        refine ⟨fields, (entry member).trans (congrArg some shown), ?_, ?_⟩
        · rw [← shown]
          exact matched
        · rw [← shown]
          exact recorded
    | _ => simp [StoreHost.record, fileRecord, Json.sortKeys] at shown
  · obtain ⟨middle, _, rewritten⟩ := prepared.steps
    exact .free rewritten.moved
  · intro file member path finished
    obtain ⟨_, text, recorded, resolved⟩ := (finds member).final finished
    obtain ⟨outside, same, direct⟩ := read_outside directory prepared member finished
    obtain ⟨resolves, free⟩ := lawful.renders text path resolved
    refine ⟨outside, resolves, free, direct, ?_⟩
    rw [verifies_congr same]
    exact (finds member).matched finished
  · intro file member finished
    obtain ⟨path, held⟩ := Option.ne_none_iff_exists'.mp finished
    obtain ⟨_, text, recorded, _⟩ := (finds member).final held
    exact apart member (by simp [recorded])
  · intro file member
    rw [gathered_state distinct _ member, resumesAt, ← (resumed member).1]
    rfl
  · intro file member
    cases partials member with
    | inl gone => exact .inl (partialOctets_free gone)
    | inr same =>
        right
        rw [partialOctets, same]
        rfl
  · exact prepared.frame.widen fun path touched => PreparedDisk.touched_within touched

/-- A later session is told of what the disk keeps, and loses no partial. -/
theorem Shelved.prepare (shelved : host.Shelved disk offer finals)
    (fits : ∀ file ∈ offer.files, (partialOctets disk offer.transferId file).length ≤ file.size) :
    ∃ next states, host.Prepares disk next offer finals states ∧
      ∀ file ∈ offer.files, partialOctets next offer.transferId file =
        partialOctets disk offer.transferId file := by
  obtain ⟨existing, read, listed⟩ := shelved.read
  have directory := shelved.directory listed
  have finds {file : IncomingFile} (member : file ∈ offer.files) :
      (host.foundIn disk offer (storedFiles existing) file).finalPath = finals file ∧
        (host.foundIn disk offer (storedFiles existing) file).dropped = false := by
    obtain ⟨record, found, matched, recorded⟩ := listed.records file member
    cases finished : finals file with
    | some path =>
        have kept := shelved.kept file member path finished
        rw [finished] at recorded
        have examined := @examine_verified host disk offer.transferId _ file matched _ _ recorded
          kept.resolves kept.verified
        rw [← found] at examined
        rw [foundIn_of_examine examined]
        exact ⟨rfl, rfl⟩
    | none =>
        rw [finished] at recorded
        cases read : disk.read (partialPath offer.transferId file.fileId) with
        | none =>
            have examined := @examine_absent host disk offer.transferId _ file matched recorded read
            rw [← found] at examined
            rw [foundIn_of_examine examined]
            exact ⟨rfl, rfl⟩
        | some octets =>
            have length := fits file member
            rw [partialOctets, read] at length
            have examined := @examine_continued host disk offer.transferId _ file matched octets
              recorded read length
            rw [← found] at examined
            rw [foundIn_of_examine examined]
            exact ⟨rfl, rfl⟩
  obtain ⟨next, called, prepared⟩ := prepare_ok offerable.distinct read directory
  obtain ⟨other, prepares⟩ := prepare_shelves lawful offerable identified read directory
    shelved.partials
  cases called.symm.trans prepares.called
  refine ⟨next, _, prepares.congr fun file member => (finds member).1, fun file member => ?_⟩
  rw [partialOctets, (partial_reads offerable directory prepared member (finds member).2).2]
  rfl

end

/-! ## Partials -/

/-- A change of one partial of a file that is not finished. -/
theorem Shelved.reshape (shelved : host.Shelved disk offer finals)
    (frame : Disk.Frame (· = partialPath offer.transferId file.fileId) disk next)
    (own : OwnFile next (partialPath offer.transferId file.fileId))
    (distinct : (offer.files.map IncomingFile.fileId).Nodup) (member : file ∈ offer.files)
    (unfinished : finals file = none) : host.Shelved next offer finals where
  metadata := by
    obtain ⟨octets, existing, stored, parsed, listed⟩ := shelved.metadata
    exact ⟨octets, existing,
      stored.frame frame (partialPath_ne_metadata offer.transferId file.fileId).symm, parsed, listed⟩
  temporary := shelved.temporary.frame frame (partialPath_ne_temporary _ _).symm
  partials other included := by
    by_cases same : partialPath offer.transferId other.fileId =
        partialPath offer.transferId file.fileId
    · rw [same]
      exact own
    · exact (shelved.partials other included).frame frame same
  kept other included path finished := by
    have kept := shelved.kept other included path finished
    have apart : path ≠ partialPath offer.transferId file.fileId := by
      intro same
      exact kept.outside (same ▸ rfl)
    refine ⟨kept.outside, kept.resolves, kept.free, fun target => ?_, ?_⟩
    · rw [frame.nodes path apart]
      exact kept.direct target
    · rw [verifies_congr (frame.read apart kept.direct)]
      exact kept.verified
  vacant other included finished := by
    have apart : partialPath offer.transferId other.fileId ≠
        partialPath offer.transferId file.fileId := by
      intro same
      have equal := List.inj_on_of_nodup_map distinct included member (partialPath_inj same)
      rw [equal] at finished
      exact finished unfinished
    rw [frame.nodes _ apart]
    exact shelved.vacant other included finished

/-- The partial of another file. -/
theorem partialOctets_frame {other : IncomingFile}
    (frame : Disk.Frame (· = partialPath offer.transferId file.fileId) disk next)
    (own : OwnFile disk (partialPath offer.transferId other.fileId))
    (apart : other.fileId ≠ file.fileId) :
    partialOctets next offer.transferId other = partialOctets disk offer.transferId other := by
  have elsewhere : partialPath offer.transferId other.fileId ≠
      partialPath offer.transferId file.fileId := fun same => apart (partialPath_inj same)
  rw [partialOctets, frame.read elsewhere own.direct]
  rfl

theorem partialOctets_node {transferId : PyStr} {inode : Nat}
    (placed : disk.nodes.get (partialPath transferId file.fileId) = some (.file inode)) :
    partialOctets disk transferId file = disk.contents inode := by
  rw [partialOctets, Disk.read_of_node placed]
  rfl

/-- Opening the partial of a file makes it, if there is none. -/
theorem open_ok (own : OwnFile disk (partialPath offer.transferId file.fileId)) :
    ∃ next inode, openForWriting disk (partialPath offer.transferId file.fileId) =
        .ok (next, inode) ∧
      next.nodes.get (partialPath offer.transferId file.fileId) = some (.file inode) ∧
      next.contents inode = partialOctets disk offer.transferId file ∧
      OwnFile next (partialPath offer.transferId file.fileId) ∧
      Disk.Frame (· = partialPath offer.transferId file.fileId) disk next := by
  cases placed : disk.nodes.get (partialPath offer.transferId file.fileId) with
  | some node =>
      obtain ⟨inode, rfl, _⟩ := own node placed
      refine ⟨disk, inode, ?_, placed, (partialOctets_node placed).symm, own, .refl⟩
      simp only [openForWriting, Disk.inode?_of_node placed]
  | none =>
      have made : (disk.create (partialPath offer.transferId file.fileId) []).nodes.get
          (partialPath offer.transferId file.fileId) = some (.file disk.fresh) := by
        rw [Disk.nodes_create, Dict.get_set_self]
      refine ⟨disk.create (partialPath offer.transferId file.fileId) [], disk.fresh, ?_, made, ?_,
        ?_, Disk.frame_create disk _ []⟩
      · simp only [openForWriting, Disk.inode?_of_free placed, Disk.holds_of_free placed,
          Disk.overwrite_of_free [] placed, Disk.inode?_of_node made, Bool.false_eq_true, if_false]
      · rw [partialOctets_free placed, Disk.contents_create, if_pos rfl]
      · intro node found
        cases made.symm.trans found
        refine ⟨disk.fresh, rfl, fun other held => ?_⟩
        rw [Disk.nodes_create, Dict.get_set] at held
        split at held
        · next same => exact same
        · exact absurd (disk.bounded _ _ held) (Nat.lt_irrefl _)

theorem write_own {inode : Nat} {octets : Bytes}
    (placed : disk.nodes.get (partialPath offer.transferId file.fileId) = some (.file inode))
    (own : OwnFile disk (partialPath offer.transferId file.fileId)) :
    Disk.Frame (· = partialPath offer.transferId file.fileId) disk (disk.write inode octets) ∧
      OwnFile (disk.write inode octets) (partialPath offer.transferId file.fileId) ∧
      partialOctets (disk.write inode octets) offer.transferId file = octets := by
  obtain ⟨_, same, alone⟩ := own _ placed
  cases same
  refine ⟨Disk.frame_write alone octets, own, ?_⟩
  rw [@partialOctets_node (disk.write inode octets) file _ _ placed, Disk.contents_write, if_pos rfl]

/-! ## The record of a finished file -/

section

variable (lawful : host.Lawful)

include lawful

/-- `mark_completed` records the final path of one file and nothing else. -/
theorem Shelved.mark {path : FilePath} (shelved : host.Shelved disk offer finals)
    (offerable : Offerable platform offer.files) (member : file ∈ offer.files)
    (kept : host.Kept disk offer.transferId file path)
    (vacant : disk.nodes.get (partialPath offer.transferId file.fileId) = none) :
    ∃ next, host.markCompleted disk offer.transferId file.fileId (host.shown path) =
        (next, .ok ()) ∧
      host.Shelved next offer (fun other => if other = file then some path else finals other) ∧
      Disk.Frame (MetadataNames offer.transferId) disk next := by
  obtain ⟨existing, read, formed, records⟩ := shelved.read
  obtain ⟨record, found, matched, _⟩ := records file member
  obtain ⟨next, written, rewritten⟩ := @atomicWrite_ok host disk offer.transferId shelved.temporary
    (withFinalPath existing file.fileId record (host.render path))
  have listedFields : ∃ files, existing.get (py "files") = some (.obj files) ∧
      storedFiles existing = files := by
    cases listing : existing.get (py "files") with
    | none => simp [storedFiles, listing, fieldsOf, findEntry] at found
    | some value =>
        cases value with
        | obj files => exact ⟨files, rfl, by simp [storedFiles, listing, fieldsOf]⟩
        | _ => simp [storedFiles, listing, fieldsOf, findEntry] at found
  obtain ⟨files, listing, stored⟩ := listedFields
  obtain ⟨fields, rfl⟩ : ∃ fields, existing = .obj fields := by
    cases existing with
    | obj fields => exact ⟨fields, rfl⟩
    | _ => cases listing
  rw [stored] at found
  have filesFormed : (Json.obj files).WellFormed :=
    Json.wellFormed_findEntry formed.2 listing
  have recordFormed : (Json.obj record).WellFormed :=
    Json.wellFormed_findEntry filesFormed.2 found
  have identified := pairFree_fileId (offerable.identified file member)
  have recordKept : (Json.obj (putEntry (py "final_path") (.str (host.render path)) record)).WellFormed :=
    Json.wellFormed_putEntry recordFormed (pairFree_py _) kept.free
  have filesKept : (Json.obj (putEntry file.fileId
      (.obj (putEntry (py "final_path") (.str (host.render path)) record)) files)).WellFormed :=
    Json.wellFormed_putEntry filesFormed identified recordKept
  have valueKept : (withFinalPath (.obj fields) file.fileId record (host.render path)).WellFormed := by
    rw [withFinalPath, stored]
    exact Json.wellFormed_putEntry formed (pairFree_py _) filesKept
  have relisted : (withFinalPath (.obj fields) file.fileId record (host.render path)).get (py "files") =
      some (.obj (putEntry file.fileId
        (.obj (putEntry (py "final_path") (.str (host.render path)) record)) files)) := by
    rw [withFinalPath, stored]
    simp only [Json.get, fieldsOf, findEntry_putEntry, if_true]
  have spared {other : FilePath} (outside : other.directory ≠ .session offer.transferId) :
      ¬ MetadataNames offer.transferId other := by
    intro named
    cases named with
    | inl temporary => exact outside (temporary ▸ rfl)
    | inr written => exact outside (written ▸ rfl)
  have frame := rewritten.frame
  have partials (other : IncomingFile) :
      ¬ MetadataNames offer.transferId (partialPath offer.transferId other.fileId) :=
    not_or.mpr ⟨partialPath_ne_temporary _ _, partialPath_ne_metadata _ _⟩
  have keeps {other : IncomingFile} {place : FilePath}
      (before : host.Kept disk offer.transferId other place) :
      host.Kept next offer.transferId other place := by
    have untouched := spared before.outside
    refine ⟨before.outside, before.resolves, before.free, fun target => ?_, ?_⟩
    · rw [frame.nodes place untouched]
      exact before.direct target
    · rw [verifies_congr (frame.read untouched before.direct)]
      exact before.verified
  refine ⟨next, ?_, ⟨?_, .free rewritten.moved, ?_, ?_, ?_⟩, frame⟩
  · simp only [markCompleted, read, stored, found]
    exact written
  · refine ⟨_, _, rewritten.stored, parseMetadata_written lawful valueKept relisted,
      Json.wellFormed_sortKeys _ valueKept, fun other included => ?_⟩
    rw [findEntry_sorted valueKept relisted, findEntry_putEntry]
    by_cases same : other = file
    · subst same
      rw [if_pos rfl, if_pos rfl]
      refine ⟨_, rfl, ?_, ?_⟩
      · have sorted := (@matchesOffer_sortKeys _ other recordKept).trans
          ((matchesOffer_put _).trans matched)
        simpa only [Json.sortKeys] using sorted
      · have sorted := (recordedFinal_sortKeys recordKept).trans (recordedFinal_put _)
        simpa only [Json.sortKeys, Option.map_some] using sorted
    · have apart : other.fileId ≠ file.fileId := fun equal =>
        same (List.inj_on_of_nodup_map offerable.distinct included member equal)
      obtain ⟨old, there, matches', recorded⟩ := records other included
      rw [stored] at there
      have oldFormed : (Json.obj old).WellFormed :=
        Json.wellFormed_findEntry filesFormed.2 there
      rw [if_neg apart, if_neg same, there]
      refine ⟨_, rfl, ?_, ?_⟩
      · simpa only [Json.sortKeys] using (matchesOffer_sortKeys oldFormed).trans matches'
      · simpa only [Json.sortKeys] using (recordedFinal_sortKeys oldFormed).trans recorded
  · intro other included
    exact (shelved.partials other included).frame frame (partials other)
  · intro other included place finished
    by_cases same : other = file
    · subst same
      simp only [if_true, Option.some.injEq] at finished
      exact finished ▸ keeps kept
    · rw [if_neg same] at finished
      exact keeps (shelved.kept other included place finished)
  · intro other included finished
    rw [frame.nodes _ (partials other)]
    by_cases same : other = file
    · rw [same]
      exact vacant
    · rw [if_neg same] at finished
      exact shelved.vacant other included finished

end

end StoreHost

end DirectTransfer
