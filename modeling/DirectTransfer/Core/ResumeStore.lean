import DirectTransfer.Core.Receiver
import DirectTransfer.Core.RecordLoading
import DirectTransfer.Core.Resume

/-! The store of partial files: what an offer finds of earlier sessions on the
disk, the record of a completed file, and the removal of a finished session. A
call that raises leaves behind what it had changed until then. -/

set_option autoImplicit false

namespace DirectTransfer

open Library

/-! ## Paths -/

def partialPath (transferId fileId : PyStr) : FilePath :=
  ⟨.session transferId, partialName fileId⟩

def metadataPath (transferId : PyStr) : FilePath := ⟨.session transferId, metadataName⟩

def temporaryPath (transferId : PyStr) : FilePath := ⟨.session transferId, metadataTemporary⟩

/-- What the store uses of its host. `resolve` is `Path(text).resolve()` with the
test that the result lies in the receive directory, and `render` is `str`. -/
structure StoreHost where
  reader : FileReader
  floats : FloatRepr
  digests : Digests
  resolve : PyStr → Except Raised (Option FilePath)
  render : FilePath → PyStr

/-- What the host keeps to: `json.loads` reads what `json.dumps` has written, and
a resolved path is written as a text that resolves to it again. -/
structure StoreHost.Lawful (host : StoreHost) : Prop where
  reads : ∀ value : Json, value.WellFormed →
    host.reader.read (encodeAscii (value.dumps host.floats)) = .ok value
  renders : ∀ text path, host.resolve text = .ok (some path) →
    host.resolve (host.render path) = .ok (some path) ∧ PairFree (host.render path)

/-! ## Metadata -/

def invalidMetadata : Raised := raised .protocolError "Invalid resume metadata"

/-- The object in a metadata file, which has an object under `files`. -/
def StoreHost.parseMetadata (host : StoreHost) (octets : Bytes) : Except Raised Json :=
  match host.reader.read octets with
  | .error error =>
      if error.kind.isOSError = true ∨ error.kind = .jsonDecodeError then .error invalidMetadata
      else .error error
  | .ok value => match value.get (py "files") with
    | some (.obj _) => .ok value
    | _ => .error invalidMetadata

/-- `_read_metadata`; an absent file reads as an empty object. -/
def StoreHost.readMetadata (host : StoreHost) (disk : Disk FilePath) (transferId : PyStr) :
    Except Raised Json :=
  match disk.target? Disk.linkLimit (metadataPath transferId) with
  | none => .error invalidMetadata
  | some name => match disk.nodes.get name with
    | none => .ok (.obj [])
    | some (.file inode) => host.parseMetadata (disk.contents inode)
    | some _ => .error invalidMetadata

/-- `_atomic_write` -/
def StoreHost.atomicWrite (host : StoreHost) (disk : Disk FilePath) (transferId : PyStr)
    (value : Json) : Disk FilePath × Except Raised Unit :=
  match disk.overwrite (temporaryPath transferId)
      (encodeAscii ((Json.sortKeys value).dumps host.floats)) with
  | none => (disk, .error (raised .osError "Is a directory"))
  | some written => match written.replace (temporaryPath transferId) (metadataPath transferId) with
    | .ok replaced => (replaced, .ok ())
    | .error _ => (written, .error (raised .osError "No such file or directory"))

/-- The entries of an object, none for another value. -/
def fieldsOf (value : Option Json) : List (PyStr × Json) :=
  match value with
  | some (.obj fields) => fields
  | _ => []

/-- `existing.get("files", {}) if existing else {}` -/
def storedFiles (existing : Json) : List (PyStr × Json) := fieldsOf (existing.get (py "files"))

/-- `{"name": …, "size": …, "sha256": …}`, with the final path where there is one. -/
def fileRecord (offered : IncomingFile) (finalPath : Option PyStr) : Json :=
  .obj ([(py "name", .str offered.name), (py "size", .int offered.size),
    (py "sha256", .str offered.sha256)] ++
      match finalPath with
      | some text => [(py "final_path", .str text)]
      | none => [])

def metadata (transferId : PyStr) (records : Dict PyStr Json) : Json :=
  .obj [(py "transfer_id", .str transferId), (py "files", .obj records.entries)]

/-! ## One offered file -/

/-- Whether a stored record is about the offered file. -/
def matchesOffer (stored : Option Json) (offered : IncomingFile) : Bool :=
  match stored with
  | some (.obj fields) =>
      ((Json.obj fields).field "name").pyEq (.str offered.name) &&
      ((Json.obj fields).field "size").pyEq (.int offered.size) &&
      ((Json.obj fields).field "sha256").pyEq (.str offered.sha256)
  | _ => false

/-- The recorded final path of a file. -/
def recordedFinal (stored : Option Json) : Option PyStr :=
  match stored with
  | none => none
  | some record => match record.field "final_path" with
    | .str text => some text
    | _ => none

/-- What is found of an offered file, and whether its partial is to be removed. -/
structure Examined where
  offset : Nat
  finalPath : Option FilePath
  dropped : Bool
  deriving DecidableEq

namespace StoreHost

variable (host : StoreHost)

/-- Whether a final path leads to a file of the offered size and digest. -/
def verifies (disk : Disk FilePath) (candidate : FilePath) (offered : IncomingFile) : Bool :=
  (disk.read candidate).any fun octets =>
    octets.length = offered.size && host.digests.hexdigest octets = offered.sha256

/-- The tests of the loop over the offered files. -/
def examine (disk : Disk FilePath) (transferId : PyStr) (stored : Option Json)
    (offered : IncomingFile) : Except Raised Examined :=
  if matchesOffer stored offered = false then .ok ⟨0, none, true⟩
  else match recordedFinal stored with
    | some text => match host.resolve text with
      | .error error => .error error
      | .ok none => .ok ⟨0, none, false⟩
      | .ok (some candidate) =>
          if host.verifies disk candidate offered then .ok ⟨offered.size, some candidate, false⟩
          else .ok ⟨0, none, false⟩
    | none => match disk.read (partialPath transferId offered.fileId) with
      | none => .ok ⟨0, none, false⟩
      | some octets =>
          if octets.length > offered.size then .ok ⟨0, none, true⟩
          else .ok ⟨octets.length, none, false⟩

def shown (path : FilePath) : FinalPath := ⟨host.render path, path.name⟩

def state (examined : Examined) : ResumeFileState :=
  ⟨examined.offset, examined.finalPath.map host.shown⟩

def record (offered : IncomingFile) (examined : Examined) : Json :=
  fileRecord offered (examined.finalPath.map host.render)

end StoreHost

/-- `unlink(missing_ok=True)` -/
def unlinkMissingOk (disk : Disk FilePath) (path : FilePath) : Except Raised (Disk FilePath) :=
  if disk.nodes.get path = some .directory then .error (raised .osError "Is a directory")
  else .ok (disk.unlink path)

/-! ## All offered files -/

/-- The two dicts of `prepare`. -/
structure Prepared where
  states : Dict PyStr ResumeFileState
  records : Dict PyStr Json

namespace StoreHost

variable (host : StoreHost)

/-- A file's entries in both dicts. -/
def extend (prepared : Prepared) (offered : IncomingFile) (examined : Examined) : Prepared where
  states := prepared.states.set offered.fileId (host.state examined)
  records := prepared.records.set offered.fileId (host.record offered examined)

/-- The loop over the offered files. -/
def prepareFiles (transferId : PyStr) (stored : List (PyStr × Json)) :
    List IncomingFile → Disk FilePath → Prepared → Disk FilePath × Except Raised Prepared
  | [], disk, prepared => (disk, .ok prepared)
  | offered :: rest, disk, prepared =>
      match host.examine disk transferId (findEntry offered.fileId stored) offered with
      | .error error => (disk, .error error)
      | .ok examined =>
          let next := host.extend prepared offered examined
          if examined.dropped then
            match unlinkMissingOk disk (partialPath transferId offered.fileId) with
            | .error error => (disk, .error error)
            | .ok removed => prepareFiles transferId stored rest removed next
          else prepareFiles transferId stored rest disk next

def prepare (disk : Disk FilePath) (offer : TransferOffer) :
    Disk FilePath × Except Raised (Dict PyStr ResumeFileState) :=
  match host.readMetadata disk offer.transferId with
  | .error error => (disk, .error error)
  | .ok existing =>
      match host.prepareFiles offer.transferId (storedFiles existing) offer.files disk
          ⟨Dict.empty, Dict.empty⟩ with
      | (next, .error error) => (next, .error error)
      | (next, .ok prepared) =>
          match host.atomicWrite next offer.transferId
              (metadata offer.transferId prepared.records) with
          | (final, .error error) => (final, .error error)
          | (final, .ok ()) => (final, .ok prepared.states)

/-! ## After a file and after a session -/

/-- `record["final_path"] = …` in the object of a metadata file. -/
def withFinalPath (existing : Json) (fileId : PyStr) (record : List (PyStr × Json))
    (text : PyStr) : Json :=
  .obj (putEntry (py "files") (.obj (putEntry fileId
    (.obj (putEntry (py "final_path") (.str text) record)) (storedFiles existing)))
      (fieldsOf (some existing)))

def markCompleted (disk : Disk FilePath) (transferId fileId : PyStr) (finalPath : FinalPath) :
    Disk FilePath × Except Raised Unit :=
  match host.readMetadata disk transferId with
  | .error error => (disk, .error error)
  | .ok existing => match findEntry fileId (storedFiles existing) with
    | some (.obj record) =>
        host.atomicWrite disk transferId (withFinalPath existing fileId record finalPath.text)
    | _ => (disk, .error (raised .protocolError "Missing resume metadata"))

end StoreHost

/-- `complete_session`: the directory is removed with what is in it. -/
def completeSession (disk : Disk FilePath) (transferId : PyStr) : Disk FilePath :=
  disk.removeAll fun path => path.directory = .session transferId

end DirectTransfer
