import DirectTransfer.Core.Models
import DirectTransfer.Library.Json
import DirectTransfer.Library.PurePath

/-! Encrypted frames and the validated protocol-v3 control messages. -/

set_option autoImplicit false

namespace DirectTransfer

open Library

def protocolVersion : Nat := 3

def maxTransferMessageLength : Nat := 4096

/-! ## Frames -/

/-- AES-256-GCM: what was encrypted decrypts, and sixteen octets are added. -/
structure Aead where
  encrypt : Bytes → Bytes → Bytes → Bytes
  decrypt : Bytes → Bytes → Bytes → Option Bytes
  decrypt_encrypt : ∀ key nonce data, decrypt key nonce (encrypt key nonce data) = some data
  encrypt_length : ∀ key nonce data, (encrypt key nonce data).length = data.length + 16

/-- What the runtime provides for messages: float printing, the JSON decoder
(`none` where `json.loads` or the UTF-8 decoding before it raises), and the
cipher. -/
structure Codec where
  floats : FloatRepr
  loads : Bytes → Option Json
  aead : Aead

def encryptChunk (aead : Aead) (nonce key data : Bytes) : Except Raised Bytes :=
  if key.length ≠ 32 then .error (raised .valueError "AES-256-GCM requires a 32-byte key")
  else .ok (nonce ++ aead.encrypt key nonce data)

def decryptChunk (aead : Aead) (key payload : Bytes) : Except Raised Bytes :=
  if key.length ≠ 32 then .error (raised .valueError "AES-256-GCM requires a 32-byte key")
  else if payload.length < nonceSize + 16 then
    .error (raised .valueError "Encrypted frame is too short")
  else match aead.decrypt key (payload.take nonceSize) (payload.drop nonceSize) with
    | some data => .ok data
    | none => .error (raised .invalidTag "")

/-- `struct.pack(">I", value)`. -/
def bigEndian (value : Nat) : Bytes :=
  [UInt8.ofNat (value / 0x1000000), UInt8.ofNat (value / 0x10000), UInt8.ofNat (value / 0x100),
    UInt8.ofNat value]

def packFrame (data : Bytes) : Except Raised Bytes :=
  if data.length < 2 ^ 32 then .ok (bigEndian data.length ++ data)
  else .error (raised .structError "'I' format requires 0 <= number <= 4294967295")

/-- Read one frame off the octets still to arrive; the peer closes after them. -/
def unpackFrame (maxSize : Nat) (stream : Bytes) : Except Raised (Bytes × Bytes) :=
  match stream with
  | first :: second :: third :: fourth :: rest =>
      let length := first.toNat * 0x1000000 + second.toNat * 0x10000 + third.toNat * 0x100 +
        fourth.toNat
      if length > maxSize then
        .error ⟨.valueError, py "Frame size " ++ natText length ++ py " exceeds maximum allowed " ++
          natText maxSize⟩
      else if rest.length < length then
        .error (raised .osError "Connection closed while reading frame data")
      else .ok (rest.take length, rest.drop length)
  | _ => .error (raised .osError "Connection closed while reading frame length")

/-- The octets put on the wire for a control payload. -/
def encodeControl (codec : Codec) (payload : Json) : Bytes :=
  encodeAscii (payload.dumps codec.floats)

/-- `json.loads` inverts `json.dumps` on every value it can return. -/
def Codec.Inverts (codec : Codec) : Prop :=
  ∀ value : Json, value.WellFormed → codec.loads (encodeControl codec value) = some value

def sendEncryptedFrame (codec : Codec) (nonce key raw : Bytes) : Except Raised Bytes := do
  packFrame (← encryptChunk codec.aead nonce key raw)

/-- The payload of a decrypted control frame. -/
def decodeControl (codec : Codec) (raw : Bytes) : Except Raised Json :=
  match codec.loads raw with
  | none => .error (raised .protocolError "Invalid transfer control frame")
  | some payload =>
      if payload.isDict then .ok payload
      else .error (raised .protocolError "Transfer control frame must be an object")

def receiveControlFrame (codec : Codec) (key stream : Bytes) : Except Raised (Json × Bytes) := do
  let (encrypted, rest) ← unpackFrame (headerMaxSize + 64) stream
  let raw ← decryptChunk codec.aead key encrypted
  let payload ← decodeControl codec raw
  return (payload, rest)

def receiveDataFrame (codec : Codec) (key stream : Bytes) : Except Raised (Bytes × Bytes) := do
  let (encrypted, rest) ← unpackFrame (chunkSize + 64) stream
  return (← decryptChunk codec.aead key encrypted, rest)

/-! ## Filenames -/

/-- Properties of the host: the Unicode tables behind `str.isprintable`,
`str.isdecimal` and `str.upper`, `os.path.isreserved` where it exists, and the
flavour of `Path`. The visible ASCII characters are printable, surrogates and
control characters are not. -/
structure Platform where
  isPrintable : CodePoint → Bool
  isDecimal : CodePoint → Bool
  upper : PyStr → PyStr
  isReserved : Option (PyStr → Bool)
  windows : Bool
  printable_of_ascii : ∀ point : CodePoint, 0x20 ≤ point.val → point.val ≤ 0x7E →
    isPrintable point = true
  printable_not_surrogate : ∀ point, isPrintable point = true → point.isSurrogate = false
  printable_not_control : ∀ point, isPrintable point = true → point.isControl = false

/-- Last component of a relative path, empty when there is none. -/
def lastComponent (isSeparator : CodePoint → Bool) (path : PyStr) : PyStr :=
  (pathComponents isSeparator path).getLastD []

def isSlash (point : CodePoint) : Bool := point = chr '/'

def isWindowsSlash (point : CodePoint) : Bool := point = chr '/' || point = chr '\\'

def purePosixPathName (path : PyStr) : PyStr := lastComponent isSlash path

/-- A drive prefix `X:` is not part of the name. As from Python 3.12 on, any character
may name a drive; 3.10 and 3.11, which the package also allows, take letters only. -/
def pureWindowsPathName (path : PyStr) : PyStr :=
  match path with
  | letter :: second :: rest =>
      if second = chr ':' then lastComponent isWindowsSlash rest
      else lastComponent isWindowsSlash (letter :: second :: rest)
  | short => lastComponent isWindowsSlash short

def pathName (platform : Platform) (path : PyStr) : PyStr :=
  if platform.windows then pureWindowsPathName path else purePosixPathName path

def windowsReservedNames : List PyStr :=
  [py "CON", py "PRN", py "AUX", py "NUL", py "CONIN$", py "CONOUT$"] ++
    ([chr '1', chr '2', chr '3', chr '4', chr '5', chr '6', chr '7', chr '8', chr '9',
      codePoint 0xB9, codePoint 0xB2, codePoint 0xB3].flatMap fun digit =>
        [py "COM" ++ [digit], py "LPT" ++ [digit]])

/-- `PureWindowsPath(name).is_reserved()` of a single component. -/
def pureWindowsPathIsReserved (platform : Platform) (name : PyStr) : Bool :=
  let stem := (name.takeWhile fun point => point ≠ chr '.').takeWhile fun point => point ≠ chr ':'
  windowsReservedNames.contains (platform.upper (rstrip (fun point => point = chr ' ') stem))

def isReservedFilename (platform : Platform) (name : PyStr) : Bool :=
  match platform.isReserved with
  | some isReserved => isReserved name
  | none => pureWindowsPathIsReserved platform name

/-- Validate remote file basenames defensively against path injection. -/
def sanitizeFilename (platform : Platform) (value : PyStr) : Except Raised PyStr :=
  if value = [] ∨ 255 < value.length then .error (raised .protocolError "Invalid filename")
  else match utf8Length value with
    | none => .error (raised .valueError "surrogates not allowed")
    | some octets =>
        if 255 < octets ∨ value.all platform.isPrintable = false ∨
            value ≠ rstrip (fun point => point = chr ' ' || point = chr '.') value then
          .error (raised .protocolError "Invalid filename")
        else if pathName platform value ≠ value ∨ pureWindowsPathName value ≠ value ∨
            isReservedFilename platform value = true ∨ value ∈ [py ".", py ".."] then
          .error (raised .protocolError "Invalid filename")
        else .ok value

def validateFilename (platform : Platform) (value : Json) : Except Raised PyStr :=
  match value with
  | .str text => sanitizeFilename platform text
  | _ => .error (raised .protocolError "Invalid filename")

/-! ## Offers -/

def isLowerHex (point : CodePoint) : Bool :=
  (0x30 ≤ point.val && point.val ≤ 0x39) || (0x61 ≤ point.val && point.val ≤ 0x66)

/-- `^[0-9a-f]{32}$` -/
def isTransferId (text : PyStr) : Bool := text.length = 32 && text.all isLowerHex

/-- `^[A-Za-z0-9_-]{1,64}$` -/
def isFileId (text : PyStr) : Bool :=
  1 ≤ text.length && text.length ≤ 64 && text.all fun point =>
    (0x30 ≤ point.val && point.val ≤ 0x39) || (0x41 ≤ point.val && point.val ≤ 0x5A) ||
      (0x61 ≤ point.val && point.val ≤ 0x7A) || point = chr '_' || point = chr '-'

def validateTransferId (value : Json) : Except Raised PyStr :=
  match value with
  | .str text =>
      if isTransferId text then .ok text else .error (raised .protocolError "Invalid transfer ID")
  | _ => .error (raised .protocolError "Invalid transfer ID")

/-- Validate one bounded v3 chunk header and return its declared size. -/
def validateChunkControl (payload : Json) (transferId fileId : PyStr)
    (expectedIndex expectedOffset remaining : Nat) : Except Raised Nat := do
  if payload.isDict = false ∨ payload.field "type" ≠ .str (py "chunk") then
    throw (raised .protocolError "Invalid chunk metadata")
  let _ ← validateTransferId (.str transferId)
  if isFileId fileId = false then throw (raised .protocolError "Invalid file ID")
  match payload.field "index", payload.field "offset", payload.field "size" with
  | .int index, .int offset, .int size =>
      if payload.field "transfer_id" ≠ .str transferId ∨ payload.field "file_id" ≠ .str fileId ∨
          index < 0 ∨ index ≠ expectedIndex ∨ offset < 0 ∨ offset ≠ expectedOffset ∨
          ¬ (0 < size ∧ size ≤ min chunkSize remaining) then
        throw (raised .protocolError "Invalid chunk metadata")
      else return size.toNat
  | _, _, _ => throw (raised .protocolError "Invalid chunk metadata")

/-- One entry of `files`, given the identifiers seen so far. -/
def validateFile (platform : Platform) (seen : List PyStr) (raw : Json) :
    Except Raised IncomingFile := do
  if raw.isDict = false then throw (raised .protocolError "Invalid file metadata")
  match raw.field "file_id" with
  | .str fileId =>
      if isFileId fileId = false ∨ fileId ∈ seen then
        throw (raised .protocolError "Invalid file ID")
      let name ← validateFilename platform (raw.field "name")
      match raw.field "size" with
      | .int size =>
          if ¬ (0 ≤ size ∧ size ≤ maxFileSize) then
            throw (raised .protocolError "Invalid file size")
          match raw.field "sha256" with
          | .str digest =>
              if digest.length ≠ 64 ∨ digest.all isLowerHex = false then
                throw (raised .protocolError "Invalid SHA-256 digest")
              return ⟨fileId, name, size.toNat, digest⟩
          | _ => throw (raised .protocolError "Invalid SHA-256 digest")
      | _ => throw (raised .protocolError "Invalid file size")
  | _ => throw (raised .protocolError "Invalid file ID")

/-- The validation loop over `files`, with the running set and total. -/
def validateFiles (platform : Platform) : List Json → List PyStr → Nat →
    Except Raised (List IncomingFile × Nat)
  | [], _, total => .ok ([], total)
  | raw :: rest, seen, total => do
      let file ← validateFile platform seen raw
      if total + file.size > maxSessionSize then
        throw (raised .protocolError "Transfer session exceeds size limit")
      let (files, sum) ← validateFiles platform rest (file.fileId :: seen) (total + file.size)
      return (file :: files, sum)

/-- The optional message of an offer. -/
def validateMessage (value : Json) : Except Raised (Option PyStr) :=
  match value with
  | .null => .ok none
  | .str text =>
      if text.length > maxTransferMessageLength then
        .error (raised .protocolError "Invalid transfer message")
      else .ok (some text)
  | _ => .error (raised .protocolError "Invalid transfer message")

/-- Validate a bounded transfer offer before publishing it to the inbox. -/
def validateOffer (platform : Platform) (payload : Json) : Except Raised TransferOffer := do
  if payload.isDict = false ∨ payload.field "type" ≠ .str (py "transfer_offer") then
    throw (raised .protocolError "Expected transfer offer")
  if (Json.int protocolVersion).pyEq (payload.field "version") = false then
    throw (raised .protocolError "Protocol version mismatch")
  let transferId ← validateTransferId (payload.field "transfer_id")
  match payload.field "files", payload.field "count" with
  | .arr rawFiles, .int count =>
      if count ≠ rawFiles.length ∨ ¬ (1 ≤ count ∧ count ≤ maxFilesPerSession) then
        throw (raised .protocolError "Invalid file count")
      let (files, computedTotal) ← validateFiles platform rawFiles [] 0
      match payload.field "total_size" with
      | .int totalSize =>
          if totalSize ≠ computedTotal then
            throw (raised .protocolError "Invalid total transfer size")
          let message ← validateMessage (payload.field "message")
          return ⟨transferId, files, totalSize.toNat, message⟩
      | _ => throw (raised .protocolError "Invalid total transfer size")
  | _, _ => throw (raised .protocolError "Invalid file count")

/-! ## Responses -/

def buildResponse (transferId : PyStr) (accepted : Bool) (reason : Option PyStr) :
    Except Raised Json := do
  let transferId ← validateTransferId (.str transferId)
  return .obj ([(py "type", .str (py "transfer_response")), (py "transfer_id", .str transferId),
    (py "accepted", .bool accepted)] ++
      match reason with
      | some (first :: rest) => [(py "reason", .str ((first :: rest).take 512))]
      | _ => [])

def validateResponse (payload : Json) (transferId : PyStr) :
    Except Raised (Bool × Option PyStr) := do
  if payload.isDict = false ∨ payload.field "type" ≠ .str (py "transfer_response") then
    throw (raised .protocolError "Invalid transfer response")
  let transferId ← validateTransferId (.str transferId)
  if payload.field "transfer_id" ≠ .str transferId then
    throw (raised .protocolError "Transfer response ID mismatch")
  match payload.field "accepted" with
  | .bool accepted =>
      match payload.field "reason" with
      | .null => return (accepted, none)
      | .str reason =>
          if reason.length > 512 then
            throw (raised .protocolError "Invalid transfer response reason")
          return (accepted, some reason)
      | _ => throw (raised .protocolError "Invalid transfer response reason")
  | _ => throw (raised .protocolError "Invalid transfer response")

/-! ## Control payloads -/

/-- The description of a file in an offer and in a resume query. -/
def fileDescription (file : IncomingFile) : Json :=
  .obj [(py "file_id", .str file.fileId), (py "name", .str file.name), (py "size", .int file.size),
    (py "sha256", .str file.sha256)]

def control (type : String) (transferId : PyStr) : Json :=
  .obj [(py "type", .str (py type)), (py "transfer_id", .str transferId)]

def fileControl (type : String) (transferId fileId : PyStr) : Json :=
  .obj [(py "type", .str (py type)), (py "transfer_id", .str transferId),
    (py "file_id", .str fileId)]

/-- One entry of `file_meta`: the name of its path, its size and its digest. -/
structure FileMeta where
  name : PyStr
  size : Nat
  sha256 : PyStr
  deriving DecidableEq

/-- The files of a batch under the identifiers the sender gives them. -/
def announcedFiles (fileMeta : List FileMeta) : List IncomingFile :=
  fileMeta.mapIdx fun index file =>
    ⟨py "file-" ++ natText index, file.name, file.size, file.sha256⟩

/-- The offer the sender announces; an empty message is left out. -/
def offerFrame (transferId : PyStr) (files : List IncomingFile) (message : Option PyStr) : Json :=
  .obj ([(py "type", .str (py "transfer_offer")), (py "version", .int protocolVersion),
    (py "transfer_id", .str transferId), (py "count", .int files.length),
    (py "total_size", .int ((files.map IncomingFile.size).sum : Nat)),
    (py "files", .arr (files.map fileDescription))] ++
      match message with
      | some (first :: rest) => [(py "message", .str (first :: rest))]
      | _ => [])

def resumeQuery (offer : TransferOffer) : Json :=
  .obj [(py "type", .str (py "resume_query")), (py "transfer_id", .str offer.transferId),
    (py "files", .arr (offer.files.map fileDescription))]

def resumeState (offer : TransferOffer) (offset : PyStr → Nat) : Json :=
  .obj [(py "type", .str (py "resume_state")), (py "transfer_id", .str offer.transferId),
    (py "files", .arr (offer.files.map fun file =>
      .obj [(py "file_id", .str file.fileId), (py "offset", .int (offset file.fileId))]))]

def chunkHeader (transferId fileId : PyStr) (index offset size : Nat) : Json :=
  .obj [(py "type", .str (py "chunk")), (py "transfer_id", .str transferId),
    (py "file_id", .str fileId), (py "index", .int index), (py "offset", .int offset),
    (py "size", .int size)]

/-! ## Resume controls -/

def validateResumeQuery (payload : Json) (offer : TransferOffer) : Except Raised Unit := do
  if payload.isDict = false ∨ payload.field "type" ≠ .str (py "resume_query") then
    throw (raised .protocolError "Expected resume query")
  if payload.field "transfer_id" ≠ .str offer.transferId then
    throw (raised .protocolError "Resume transfer ID mismatch")
  if (Json.arr (offer.files.map fileDescription)).pyEq (payload.field "files") = false then
    throw (raised .protocolError "Resume metadata mismatch")

/-- One entry of a resume state, given the offsets read so far. -/
def validateOffset (offer : TransferOffer) (offsets : Dict PyStr Nat) (item : Json) :
    Except Raised (Dict PyStr Nat) := do
  if item.isDict = false then throw (raised .protocolError "Invalid resume file ID")
  match item.field "file_id" with
  | .str fileId =>
      match offer.files.reverse.find? fun file => file.fileId = fileId with
      | some file =>
          match item.field "offset" with
          | .int offset =>
              if (offsets.get fileId).isSome ∨ ¬ (0 ≤ offset ∧ offset ≤ file.size) then
                throw (raised .protocolError "Invalid resume offset")
              return offsets.set fileId offset.toNat
          | _ => throw (raised .protocolError "Invalid resume offset")
      | none => throw (raised .protocolError "Invalid resume file ID")
  | .arr _ => throw (raised .typeError "unhashable type: 'list'")
  | .obj _ => throw (raised .typeError "unhashable type: 'dict'")
  | _ => throw (raised .protocolError "Invalid resume file ID")

def validateOffsets (offer : TransferOffer) : List Json → Dict PyStr Nat →
    Except Raised (Dict PyStr Nat)
  | [], offsets => .ok offsets
  | item :: rest, offsets => do validateOffsets offer rest (← validateOffset offer offsets item)

def validateResumeState (payload : Json) (offer : TransferOffer) :
    Except Raised (Dict PyStr Nat) := do
  if payload.isDict = false ∨ payload.field "type" ≠ .str (py "resume_state") then
    throw (raised .protocolError "Expected resume state")
  if payload.field "transfer_id" ≠ .str offer.transferId then
    throw (raised .protocolError "Resume transfer ID mismatch")
  match payload.field "files" with
  | .arr rawFiles =>
      if rawFiles.length ≠ offer.files.length then
        throw (raised .protocolError "Invalid resume state")
      let offsets ← validateOffsets offer rawFiles Dict.empty
      if offer.files.any fun file => (offsets.get file.fileId).isNone then
        throw (raised .protocolError "Incomplete resume state")
      return offsets
  | _ => throw (raised .protocolError "Invalid resume state")

end DirectTransfer
