import DirectTransfer.Core.CommitProperties
import DirectTransfer.Core.PayloadErrors
import DirectTransfer.Core.ResumeStore

/-! What `prepare` makes of a session directory. The outcome of a file depends
only on the disk as the call found it: the partials removed for other files and
the metadata written at the end are none of the names it reads. -/

set_option autoImplicit false

namespace DirectTransfer

open Library

/-! ## Names of a session directory -/

theorem partialName_inj {left right : PyStr} (same : partialName left = partialName right) :
    left = right := List.append_cancel_right same

theorem partialName_getLast (fileId : PyStr) :
    (partialName fileId).getLast? = some (chr 't') := by
  simp [partialName, py, List.getLast?_append]

theorem partialPath_inj {transferId left right : PyStr}
    (same : partialPath transferId left = partialPath transferId right) : left = right :=
  partialName_inj (congrArg FilePath.name same)

theorem partialPath_ne_metadata (transferId fileId : PyStr) :
    partialPath transferId fileId ≠ metadataPath transferId := by
  intro same
  have last := congrArg (fun path => path.name.getLast?) same
  simp only [partialPath, partialName_getLast] at last
  exact absurd last (by decide : some (chr 't') ≠ metadataName.getLast?)

theorem partialPath_ne_temporary (transferId fileId : PyStr) :
    partialPath transferId fileId ≠ temporaryPath transferId := by
  intro same
  have last := congrArg (fun path => path.name.getLast?) same
  simp only [partialPath, partialName_getLast] at last
  exact absurd last (by decide : some (chr 't') ≠ metadataTemporary.getLast?)

/-! ## Records -/

/-- A stored record has the offered name, size and digest. -/
structure Matches (stored : Option Json) (offered : IncomingFile) : Prop where
  record : ∃ record, stored = some record ∧ record.isDict = true ∧
    (record.field "name").pyEq (.str offered.name) = true ∧
    (record.field "size").pyEq (.int offered.size) = true ∧
    (record.field "sha256").pyEq (.str offered.sha256) = true

theorem matchesOffer_iff {stored : Option Json} {offered : IncomingFile} :
    matchesOffer stored offered = true ↔ Matches stored offered := by
  constructor
  · intro same
    unfold matchesOffer at same
    split at same
    · next fields =>
        simp only [Bool.and_eq_true] at same
        exact ⟨_, rfl, rfl, same.1.1, same.1.2, same.2⟩
    · cases same
  · intro matched
    obtain ⟨record, rfl, dict, name, size, sha256⟩ := matched.record
    cases record with
    | obj fields => simp only [matchesOffer, name, size, sha256, Bool.and_self]
    | null | bool | int | float | str | arr => cases dict

section

variable {platform : Platform} {files : List IncomingFile} {offered : IncomingFile}

theorem wellFormed_fileRecord (offerable : Offerable platform files) (member : offered ∈ files)
    {finalPath : Option PyStr} (free : ∀ text, finalPath = some text → PairFree text) :
    (fileRecord offered finalPath).WellFormed := by
  have name := pairFree_filename (offerable.named offered member)
  have sha256 := pairFree_lowerHex (offerable.hashed offered member).2
  cases finalPath with
  | none => simp [fileRecord, Json.WellFormed, Json.WellFormedFields, name, sha256]
  | some text =>
      have text := free text rfl
      simp [fileRecord, Json.WellFormed, Json.WellFormedFields, name, sha256, text]

theorem fileRecord_matches {finalPath : Option PyStr}
    (formed : (fileRecord offered finalPath).WellFormed) :
    matchesOffer (some (Json.sortKeys (fileRecord offered finalPath))) offered = true := by
  apply matchesOffer_iff.mpr
  refine ⟨_, rfl, rfl, ?_, ?_, ?_⟩
  all_goals rw [Json.field_sortKeys formed]
  all_goals simp [fileRecord, Json.sortKeys, Json.pyEq]

theorem fileRecord_final {finalPath : Option PyStr}
    (formed : (fileRecord offered finalPath).WellFormed) :
    recordedFinal (some (Json.sortKeys (fileRecord offered finalPath))) = finalPath := by
  unfold recordedFinal
  simp only [Json.field_sortKeys formed]
  cases finalPath with
  | none => simp [fileRecord, Json.sortKeys]
  | some text => simp [fileRecord, Json.sortKeys]

end

/-! ## Writing and reading the metadata -/

/-- The name `metadata.tmp` is free, or the only name of a file. -/
def OwnTemporary (disk : Disk FilePath) (transferId : PyStr) : Prop :=
  ∀ node, disk.nodes.get (temporaryPath transferId) = some node → ∃ inode, node = .file inode ∧
    ∀ path, disk.nodes.get path = some (.file inode) → path = temporaryPath transferId

/-- The two names a write of the metadata touches. -/
def MetadataNames (transferId : PyStr) (path : FilePath) : Prop :=
  path = temporaryPath transferId ∨ path = metadataPath transferId

namespace StoreHost

variable {host : StoreHost} {disk : Disk FilePath} {transferId : PyStr}

/-- A write of the metadata leaves its text under `metadata.json` and nothing
under `metadata.tmp`. -/
structure Rewritten (host : StoreHost) (disk next : Disk FilePath) (transferId : PyStr)
    (value : Json) : Prop where
  stored : Stores next (metadataPath transferId)
    (encodeAscii ((Json.sortKeys value).dumps host.floats))
  moved : next.nodes.get (temporaryPath transferId) = none
  frame : Disk.Frame (MetadataNames transferId) disk next

theorem rewritten_of_replace {written next : Disk FilePath} {value : Json}
    (stored : Stores written (temporaryPath transferId)
      (encodeAscii ((Json.sortKeys value).dumps host.floats)))
    (frame : Disk.Frame (MetadataNames transferId) disk written)
    (replaced : written.replace (temporaryPath transferId) (metadataPath transferId) = .ok next) :
    Rewritten host disk next transferId value := by
  obtain ⟨inode, node, content⟩ := stored
  obtain ⟨moved, found, nodes, contents, _⟩ := Disk.replace_ok replaced
  obtain rfl : moved = .file inode := Option.some.inj (found.symm.trans node)
  have apart : metadataPath transferId ≠ temporaryPath transferId := by
    intro same
    exact absurd (congrArg FilePath.name same) (by decide : metadataName ≠ metadataTemporary)
  constructor
  · refine ⟨inode, ?_, ?_⟩
    · rw [nodes, Dict.get_erase_ne apart, Dict.get_set_self]
    · rw [contents, content]
  · rw [nodes, Dict.get_erase_self]
  · exact frame.trans (Disk.frame_replace replaced)

theorem replace_isOk {written : Disk FilePath} {source : FilePath} {inode : Nat}
    (node : written.nodes.get source = some (.file inode)) (target : FilePath) :
    ∃ next, written.replace source target = .ok next := by
  cases replaced : written.replace source target with
  | ok next => exact ⟨next, rfl⟩
  | error error => exact absurd replaced (Disk.replace_of_node node)

theorem atomicWrite_ok (own : OwnTemporary disk transferId) (value : Json) :
    ∃ next, host.atomicWrite disk transferId value = (next, .ok ()) ∧
      Rewritten host disk next transferId value := by
  generalize written : encodeAscii ((Json.sortKeys value).dumps host.floats) = text
  have finish (middle : Disk FilePath) (stored : Stores middle (temporaryPath transferId) text)
      (frame : Disk.Frame (MetadataNames transferId) disk middle)
      (opened : disk.overwrite (temporaryPath transferId) text = some middle) :
      ∃ next, host.atomicWrite disk transferId value = (next, .ok ()) ∧
        Rewritten host disk next transferId value := by
    obtain ⟨inode, node, _⟩ := id stored
    obtain ⟨next, replaced⟩ := replace_isOk node (metadataPath transferId)
    refine ⟨next, ?_, rewritten_of_replace (written ▸ stored) frame replaced⟩
    rw [← written] at opened
    simp only [atomicWrite, opened, replaced]
  cases found : disk.nodes.get (temporaryPath transferId) with
  | none =>
      apply finish _ _ _ (Disk.overwrite_of_free text found)
      · exact ⟨disk.fresh, by simp, by simp [Disk.contents_create]⟩
      · exact (Disk.frame_create disk _ text).widen fun path same => .inl same
  | some node =>
      obtain ⟨inode, rfl, alone⟩ := own node found
      apply finish _ _ _ (Disk.overwrite_of_node text found)
      · exact ⟨inode, by simpa using found, by simp [Disk.contents_write]⟩
      · exact Disk.frame_write (fun path held => .inl (alone path held)) text

theorem readMetadata_of_stores {octets : Bytes}
    (stores : Stores disk (metadataPath transferId) octets) :
    host.readMetadata disk transferId = host.parseMetadata octets := by
  obtain ⟨inode, node, rfl⟩ := stores
  have found : disk.target? Disk.linkLimit (metadataPath transferId) =
      some (metadataPath transferId) := by
    simp [Disk.linkLimit, Disk.target?, node]
  simp only [readMetadata, found, node]

theorem parseMetadata_written (lawful : host.Lawful) {value : Json} (formed : value.WellFormed)
    {files : List (PyStr × Json)} (listed : value.get (py "files") = some (.obj files)) :
    host.parseMetadata (encodeAscii ((Json.sortKeys value).dumps host.floats)) =
      .ok (Json.sortKeys value) := by
  unfold parseMetadata
  rw [lawful.reads _ (Json.wellFormed_sortKeys value formed)]
  simp only [Json.get_sortKeys formed, listed, Option.map_some, Json.sortKeys]

/-- What is read back of the record of a file. -/
theorem findEntry_storedFiles {records : Dict PyStr Json}
    (formed : (metadata transferId records).WellFormed) (fileId : PyStr) :
    findEntry fileId (storedFiles (Json.sortKeys (metadata transferId records))) =
      (records.get fileId).map Json.sortKeys := by
  have inner : (Json.obj records.entries).WellFormed := by
    simp only [metadata, Json.WellFormed, Json.WellFormedFields] at formed
    exact formed.2.2.2.2.1
  have listed : (metadata transferId records).get (py "files") = some (.obj records.entries) := by
    simp [metadata, Json.get, findEntry]
  simp only [storedFiles, Json.get_sortKeys formed, listed, Option.map_some]
  exact Json.get_sortKeys inner fileId

/-! ## One file -/

/-- The names a file's outcome depends on are no others than they seem: its
partial is free or a file, and its recorded final path resolves, to no symbolic
link and to nothing in the session directory. -/
structure Sited (host : StoreHost) (disk : Disk FilePath) (transferId : PyStr)
    (stored : Option Json) (offered : IncomingFile) : Prop where
  regular : ∀ node, disk.nodes.get (partialPath transferId offered.fileId) = some node →
    ∃ inode, node = .file inode
  resolves : matchesOffer stored offered = true → ∀ text, recordedFinal stored = some text →
    ∃ located, host.resolve text = .ok located
  outside : matchesOffer stored offered = true → ∀ text, recordedFinal stored = some text →
    ∀ candidate, host.resolve text = .ok (some candidate) →
      candidate.directory ≠ .session transferId ∧
        ∀ target, disk.nodes.get candidate ≠ some (.symlink target)

section

variable {stored : Option Json} {offered : IncomingFile} {touched : FilePath → Prop}
  {next : Disk FilePath}

theorem Sited.direct (sited : Sited host disk transferId stored offered) (target : FilePath) :
    disk.nodes.get (partialPath transferId offered.fileId) ≠ some (.symlink target) := by
  intro linked
  obtain ⟨inode, same⟩ := sited.regular _ linked
  cases same

/-- Changes elsewhere in the session directory do not alter what is found. -/
theorem Sited.frame (sited : Sited host disk transferId stored offered)
    (frame : Disk.Frame touched disk next)
    (within : ∀ path, touched path → path.directory = .session transferId)
    (other : ¬ touched (partialPath transferId offered.fileId)) :
    Sited host next transferId stored offered where
  regular node found := sited.regular node ((frame.nodes _ other).symm.trans found)
  resolves := sited.resolves
  outside same text recorded candidate resolved := by
    obtain ⟨apart, direct⟩ := sited.outside same text recorded candidate resolved
    refine ⟨apart, fun target => ?_⟩
    rw [frame.nodes candidate fun touches => apart (within candidate touches)]
    exact direct target

theorem verifies_congr {candidate : FilePath} (same : next.read candidate = disk.read candidate) :
    host.verifies next candidate offered = host.verifies disk candidate offered := by
  unfold verifies
  rw [same]

theorem Sited.examine_frame (sited : Sited host disk transferId stored offered)
    (frame : Disk.Frame touched disk next)
    (within : ∀ path, touched path → path.directory = .session transferId)
    (other : ¬ touched (partialPath transferId offered.fileId)) :
    host.examine next transferId stored offered = host.examine disk transferId stored offered := by
  unfold examine
  split
  · rfl
  · next matched =>
      simp only [Bool.not_eq_false] at matched
      cases recorded : recordedFinal stored with
      | none => simp only [frame.read other sited.direct]
      | some text =>
          cases resolved : host.resolve text with
          | error error => simp only [resolved]
          | ok located =>
              cases located with
              | none => simp only [resolved]
              | some candidate =>
                  obtain ⟨apart, direct⟩ := sited.outside matched text recorded candidate resolved
                  have same := frame.read (fun touches => apart (within candidate touches)) direct
                  simp only [resolved, verifies_congr same]

/-- The outcome of a file, where finding it raises nothing. -/
def outcome (host : StoreHost) (disk : Disk FilePath) (transferId : PyStr) (stored : Option Json)
    (offered : IncomingFile) : Examined :=
  match host.examine disk transferId stored offered with
  | .ok examined => examined
  | .error _ => ⟨0, none, false⟩

theorem Sited.examine_ok (sited : Sited host disk transferId stored offered) :
    host.examine disk transferId stored offered =
      .ok (host.outcome disk transferId stored offered) := by
  have returns : ∃ examined, host.examine disk transferId stored offered = .ok examined := by
    unfold examine
    split
    · exact ⟨_, rfl⟩
    · next matched =>
        cases recorded : recordedFinal stored with
        | none =>
            dsimp only
            repeat' split
            all_goals exact ⟨_, rfl⟩
        | some text =>
            obtain ⟨located, resolved⟩ := sited.resolves (by simpa using matched) text recorded
            simp only [resolved]
            repeat' split
            all_goals first | exact ⟨_, rfl⟩ | next failed => cases failed
  obtain ⟨examined, found⟩ := returns
  rw [outcome, found]

end

/-! ## The loop over the files -/

/-- The partials removed for the files of a list. -/
def Removed (transferId : PyStr) (found : IncomingFile → Examined) (files : List IncomingFile)
    (path : FilePath) : Prop :=
  ∃ file ∈ files, (found file).dropped = true ∧ path = partialPath transferId file.fileId

theorem removed_within {found : IncomingFile → Examined} {files : List IncomingFile}
    {path : FilePath} (removed : Removed transferId found files path) :
    path.directory = .session transferId := by
  obtain ⟨file, _, _, rfl⟩ := removed
  rfl

theorem not_removed_of_fresh {found : IncomingFile → Examined} {files : List IncomingFile}
    {fileId : PyStr} (fresh : fileId ∉ files.map IncomingFile.fileId) :
    ¬ Removed transferId found files (partialPath transferId fileId) := by
  intro removed
  obtain ⟨file, member, _, same⟩ := removed
  exact fresh (List.mem_map.mpr ⟨file, member, (partialPath_inj same).symm⟩)

/-- The dicts after the loop. -/
def extendAll (host : StoreHost) (found : IncomingFile → Examined) (files : List IncomingFile)
    (prepared : Prepared) : Prepared :=
  files.foldl (fun prepared file => host.extend prepared file (found file)) prepared

/-- The disk after the loop: the partials to be removed are, and nothing else is. -/
structure Pruned (disk next : Disk FilePath) (transferId : PyStr)
    (found : IncomingFile → Examined) (files : List IncomingFile) : Prop where
  frame : Disk.Frame (Removed transferId found files) disk next
  gone : ∀ file ∈ files, (found file).dropped = true →
    next.nodes.get (partialPath transferId file.fileId) = none

theorem prepareFiles_ok {listed : List (PyStr × Json)} {found : IncomingFile → Examined}
    {files : List IncomingFile} (distinct : (files.map IncomingFile.fileId).Nodup)
    (sited : ∀ file ∈ files, host.Sited disk transferId (findEntry file.fileId listed) file)
    (finds : ∀ file ∈ files,
      host.examine disk transferId (findEntry file.fileId listed) file = .ok (found file))
    (prepared : Prepared) :
    ∃ next, host.prepareFiles transferId listed files disk prepared =
        (next, .ok (host.extendAll found files prepared)) ∧
      Pruned disk next transferId found files := by
  induction files generalizing disk prepared with
  | nil => exact ⟨disk, rfl, .refl, fun file member => nomatch member⟩
  | cons file rest ih =>
      rw [List.map_cons, List.nodup_cons] at distinct
      have first := finds file List.mem_cons_self
      have own := sited file List.mem_cons_self
      have later (path : FilePath) (removed : Removed transferId found rest path) :
          Removed transferId found (file :: rest) path := by
        obtain ⟨other, member, dropped, same⟩ := removed
        exact ⟨other, List.mem_cons_of_mem _ member, dropped, same⟩
      cases dropped : (found file).dropped with
      | false =>
          obtain ⟨next, looped, pruned⟩ := ih distinct.2
            (fun other member => sited other (List.mem_cons_of_mem _ member))
            (fun other member => finds other (List.mem_cons_of_mem _ member))
            (host.extend prepared file (found file))
          refine ⟨next, ?_, pruned.frame.widen later, ?_⟩
          · simp only [prepareFiles, first, dropped, looped]
            rfl
          · intro other member gone
            cases List.mem_cons.mp member with
            | inl same => rw [same, dropped] at gone; cases gone
            | inr inside => exact pruned.gone other inside gone
      | true =>
          have frame := Disk.frame_unlink disk (partialPath transferId file.fileId)
          have within (path : FilePath) (same : path = partialPath transferId file.fileId) :
              path.directory = .session transferId := by
            rw [same]
            rfl
          have apart {other : IncomingFile} (member : other ∈ rest) :
              partialPath transferId other.fileId ≠ partialPath transferId file.fileId := by
            intro same
            exact distinct.1 (List.mem_map.mpr ⟨other, member, partialPath_inj same⟩)
          obtain ⟨next, looped, pruned⟩ := ih distinct.2
            (fun other member =>
              (sited other (List.mem_cons_of_mem _ member)).frame frame within (apart member))
            (fun other member => by
              rw [(sited other (List.mem_cons_of_mem _ member)).examine_frame frame within
                (apart member)]
              exact finds other (List.mem_cons_of_mem _ member))
            (host.extend prepared file (found file))
          have removable : unlinkMissingOk disk (partialPath transferId file.fileId) =
              .ok (disk.unlink (partialPath transferId file.fileId)) := by
            unfold unlinkMissingOk
            rw [if_neg]
            intro directory
            obtain ⟨inode, same⟩ := own.regular _ directory
            cases same
          refine ⟨next, ?_, ?_, ?_⟩
          · simp only [prepareFiles, first, dropped, removable, looped]
            rfl
          · refine (frame.widen fun path same => ?_).trans (pruned.frame.widen later)
            exact ⟨file, List.mem_cons_self, dropped, same⟩
          · intro other member gone
            cases List.mem_cons.mp member with
            | inl same =>
                subst same
                rw [pruned.frame.nodes _ (not_removed_of_fresh distinct.1), Disk.nodes_unlink,
                  Dict.get_erase_self]
            | inr inside => exact pruned.gone other inside gone

theorem extendAll_states {found : IncomingFile → Examined} {files : List IncomingFile}
    (distinct : (files.map IncomingFile.fileId).Nodup) :
    (host.extendAll found files ⟨Dict.empty, Dict.empty⟩).states.entries =
      files.map fun file => (file.fileId, host.state (found file)) := by
  have folded : (host.extendAll found files ⟨Dict.empty, Dict.empty⟩).states =
      files.foldl (fun dict file => dict.set file.fileId (host.state (found file))) Dict.empty :=
    (List.foldl_hom Prepared.states fun _ _ => rfl).symm
  rw [folded, Dict.entries_foldl_set distinct fun _ _ => by simp [Dict.keys, Dict.empty]]
  rfl

theorem extendAll_records {found : IncomingFile → Examined} {files : List IncomingFile}
    (distinct : (files.map IncomingFile.fileId).Nodup) :
    (host.extendAll found files ⟨Dict.empty, Dict.empty⟩).records.entries =
      files.map fun file => (file.fileId, host.record file (found file)) := by
  have folded : (host.extendAll found files ⟨Dict.empty, Dict.empty⟩).records =
      files.foldl (fun dict file => dict.set file.fileId (host.record file (found file)))
        Dict.empty :=
    (List.foldl_hom Prepared.records fun _ _ => rfl).symm
  rw [folded, Dict.entries_foldl_set distinct fun _ _ => by simp [Dict.keys, Dict.empty]]
  rfl

end StoreHost

end DirectTransfer
