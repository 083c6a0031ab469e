import DirectTransfer.Core.RecordLoading

/-! The identity directory: `identity.key` with the device's private key and
`identity.json` with what is derived from it. Every call of the file system may
fail; the key that counts is the one in `identity.key`. -/

set_option autoImplicit false

namespace DirectTransfer

open Library

/-! ## Calls of the file system -/

inductive CallResult where
  | success
  | osError
  deriving DecidableEq, Repr

/-- `Path.is_file` takes some errors for a file that is not there. -/
inductive StatResult where
  | success
  | missing
  | osError
  deriving DecidableEq, Repr

structure WriteResults where
  mkdir : CallResult
  mkstemp : CallResult
  write : CallResult
  chmod : CallResult
  replace : CallResult
  deriving DecidableEq, Repr

/-- What the calls of one `load_or_create` give, in their order. -/
structure LoadResults where
  keyStat : StatResult
  keyRead : CallResult
  keyChmod : CallResult
  generated : { seed : Bytes // seed.length = 32 }
  keyWrite : WriteResults
  metadataStat : StatResult
  metadataRead : CallResult
  now : PyFloat
  metadataWrite : WriteResults

def osFailure : Raised := raised .osError "Input/output error"

/-- `_atomic_write` on what the path holds; an error of the clean-up is one more `OSError`. -/
def atomicWriteFile (results : WriteResults) (data : Bytes) (held : Option Bytes) :
    Option Bytes × Except Raised Unit :=
  if results.mkdir = .osError ∨ results.mkstemp = .osError then (held, .error osFailure)
  else if results.write = .osError ∨ results.chmod = .osError ∨ results.replace = .osError then
    (held, .error osFailure)
  else (some data, .ok ())

/-! ## The key -/

/-- The regular files of the directory. -/
structure IdentityDirectory where
  key : Option Bytes
  metadata : Option Bytes

/-- `bytes.strip` takes off ASCII whitespace. -/
def isOctetSpace (octet : UInt8) : Bool := octet = 0x20 || (0x09 ≤ octet && octet ≤ 0x0D)

def stripOctets (octets : Bytes) : Bytes :=
  ((octets.dropWhile isOctetSpace).reverse.dropWhile isOctetSpace).reverse

/-- The octets as characters, as `base64.b64decode` takes either. -/
def octetText (octets : Bytes) : PyStr := octets.map fun octet => codePoint octet.toNat

/-- The private key a file stands for: base64 of 32 octets. -/
def decodePrivateKey (digests : Digests) (octets : Bytes) : Option Bytes :=
  (digests.b64decode (octetText (stripOctets octets))).filter fun raw => raw.length = 32

/-- `_load_private_key` -/
def loadPrivateKey (digests : Digests) (results : LoadResults) (key : Option Bytes) :
    Except Raised (Option Bytes) :=
  match results.keyStat, key with
  | .osError, _ => .error osFailure
  | .missing, _ | .success, none => .ok none
  | .success, some octets =>
      if results.keyRead = .osError then .ok none
      else match decodePrivateKey digests octets with
        | none => .ok none
        | some raw => if results.keyChmod = .osError then .ok none else .ok (some raw)

def keyFile (privateKey : Bytes) : Bytes := encodeAscii (b64encode privateKey) ++ [0x0A]

/-! ## Metadata -/

/-- Readers and writers of the metadata: `float` of an integer and of a text, `none`
where it raises `ValueError`, and `json.dumps(value, indent=2, sort_keys=True)`. -/
structure IdentityFormat where
  reader : FileReader
  floatOfInt : Int → PyFloat
  floatOfText : PyStr → Option PyFloat
  indented : Json → PyStr

/-- `_load_metadata` -/
def loadMetadata (reader : FileReader) (results : LoadResults) (metadata : Option Bytes) :
    Except Raised (List (PyStr × Json)) :=
  match results.metadataStat, metadata with
  | .osError, _ => .error osFailure
  | .missing, _ | .success, none => .ok []
  | .success, some octets =>
      if results.metadataRead = .osError then .ok []
      else match reader.read octets with
        | .ok (.obj fields) => .ok fields
        | .ok _ => .ok []
        | .error error =>
            if error.kind.isOSError = true ∨ error.kind = .jsonDecodeError then .ok []
            else .error error

/-- `float(stored_metadata.get("created_at"))`, and the clock for what is no number. -/
def createdAt (format : IdentityFormat) (now : PyFloat) (stored : Option Json) :
    Except Raised PyFloat :=
  match stored with
  | some (.bool value) => .ok (.finite (if value then 1 else 0))
  | some (.int number) =>
      if floatLimit ≤ number.natAbs then
        .error (raised .overflowError "int too large to convert to float")
      else .ok (format.floatOfInt number)
  | some (.float number) => .ok number
  | some (.str text) => .ok ((format.floatOfText text).getD now)
  | _ => .ok now

structure LoadedIdentity where
  deviceId : PyStr
  publicKey : PyStr
  fingerprint : PyStr
  createdAt : PyFloat
  privateKey : Bytes
  deriving DecidableEq

def identityVersion : Nat := 1

def metadataFile (format : IdentityFormat) (identity : LoadedIdentity) : Bytes :=
  encodeAscii (format.indented (.obj [
    (py "version", .int identityVersion),
    (py "device_id", .str identity.deviceId),
    (py "public_key", .str identity.publicKey),
    (py "fingerprint", .str identity.fingerprint),
    (py "created_at", .float identity.createdAt)])) ++ [0x0A]

variable (crypto : Crypto) (format : IdentityFormat)

/-- The identity of a private key, with the creation time the metadata give. -/
def describeIdentity (results : LoadResults) (privateKey : Bytes) (metadata : Option Bytes) :
    Except Raised LoadedIdentity := do
  let publicKey := b64encode (crypto.ed25519Public privateKey)
  let stored ← loadMetadata format.reader results metadata
  let deviceId ← deviceIdFromPublicKey crypto.toDigests publicKey
  let fingerprint ← fingerprintFromPublicKey crypto.toDigests publicKey
  let createdAt ← createdAt format results.now (findEntry (py "created_at") stored)
  return ⟨deviceId, publicKey, fingerprint, createdAt, privateKey⟩

/-- `load_or_create` from the private key on: it writes the metadata anew. -/
def finishLoading (results : LoadResults) (directory : IdentityDirectory) (privateKey : Bytes) :
    IdentityDirectory × Except Raised LoadedIdentity :=
  match describeIdentity crypto format results privateKey directory.metadata with
  | .error error => (directory, .error error)
  | .ok identity =>
      let (metadata, written) := atomicWriteFile results.metadataWrite
        (metadataFile format identity) directory.metadata
      ({ directory with metadata }, written.map fun _ => identity)

/-- `DeviceIdentity.load_or_create`: what the directory holds after it, and how it ends. -/
def loadOrCreate (results : LoadResults) (directory : IdentityDirectory) :
    IdentityDirectory × Except Raised LoadedIdentity :=
  match loadPrivateKey crypto.toDigests results directory.key with
  | .error error => (directory, .error error)
  | .ok (some privateKey) => finishLoading crypto format results directory privateKey
  | .ok none =>
      let privateKey := results.generated.val
      let (key, written) := atomicWriteFile results.keyWrite (keyFile privateKey) directory.key
      match written with
      | .error error => ({ directory with key }, .error error)
      | .ok () => finishLoading crypto format results { directory with key } privateKey

end DirectTransfer
