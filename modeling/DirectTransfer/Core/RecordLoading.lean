import DirectTransfer.Core.TrustPersistence

/-! The files of the trust store and of the address book as a new process reads
them. A record may hold any value in any field, and each conversion raises what
Python raises for it; the loops over the records catch `TypeError` and
`ValueError`. -/

set_option autoImplicit false

namespace DirectTransfer

open Library

/-! ## Files -/

/-- Decoding of UTF-8, `json.loads` of a text, and `int` of a text, `none` where
it raises `ValueError`. A parser out of its depth raises `RecursionError`, and
an integer of too many digits a `ValueError` of its own. -/
structure FileReader where
  utf8 : Bytes → Option PyStr
  parse : PyStr → Except Raised Json
  intOf : PyStr → Option Int
  formed : ∀ text value, parse text = .ok value → value.WellFormed
  failures : ∀ text error, parse text = .error error →
    error.kind = .jsonDecodeError ∨ error.kind = .recursionError ∨ error.kind = .valueError

/-- What stands under the path of a store. -/
inductive StoredFile where
  | absent
  | unreadable
  | content (octets : Bytes)

def FileReader.read (reader : FileReader) (octets : Bytes) : Except Raised Json :=
  match reader.utf8 octets with
  | none => .error (raised .unicodeDecodeError "invalid start byte")
  | some text => reader.parse text

/-- The entry `devices` of a payload, `{}` where there is none. -/
def devicesOf (payload : Json) : Except Raised (List (PyStr × Json)) :=
  match payload with
  | .obj fields => match findEntry (py "devices") fields with
    | none => .ok []
    | some (.obj devices) => .ok devices
    | some _ => .error (raised .typeError "devices must be an object")
  | _ => .error (raised .typeError "store must be an object")

/-- The loop over the records; one that raises a caught exception is skipped. -/
def loadRecords {α : Type} (convert : PyStr → Json → Except Raised α) :
    List (PyStr × Json) → Dict PyStr α → Except Raised (Dict PyStr α)
  | [], loaded => .ok loaded
  | (key, value) :: rest, loaded => match convert key value with
    | .ok record => loadRecords convert rest (loaded.set key record)
    | .error error =>
        if error.kind = .typeError ∨ error.kind.isValueError = true then
          loadRecords convert rest loaded
        else .error error

/-- `_load`: a file that cannot be read as a store is ignored. -/
def loadFile {α : Type} (reader : FileReader) (convert : PyStr → Json → Except Raised α)
    (file : StoredFile) : Except Raised (Dict PyStr α) :=
  match file with
  | .absent | .unreadable => .ok Dict.empty
  | .content octets => match reader.read octets >>= devicesOf with
    | .ok records => loadRecords convert records Dict.empty
    | .error error =>
        if error.kind.isOSError = true ∨ error.kind = .typeError ∨ error.kind = .jsonDecodeError then
          .ok Dict.empty
        else .error error

/-! ## Fields -/

/-- `Class(**record)`: every required field, and no other than the optional ones. -/
def checkKeywords (required optional : List String) (record : Json) : Except Raised Unit :=
  match record with
  | .obj fields =>
      if fields.any fun entry => !((required ++ optional).map py).contains entry.1 then
        .error (raised .typeError "got an unexpected keyword argument")
      else if required.any fun name => (record.get (py name)).isNone then
        .error (raised .typeError "missing required positional arguments")
      else .ok ()
  | _ => .error (raised .typeError "argument after ** must be a mapping")

/-- Integers from here on have no float: the halfway point to `2 ** 1024` rounds up. -/
def floatLimit : Nat := 2 ^ 1024 - 2 ^ 970

/-- The check of one timestamp, in the order `float(value)` and `value < 0`. -/
def checkTimestamp (message : String) (value : Json) : Except Raised Unit :=
  match value with
  | .int number =>
      if floatLimit ≤ number.natAbs then
        .error (raised .overflowError "int too large to convert to float")
      else if number < 0 then .error (raised .valueError message)
      else .ok ()
  | .float (.finite number) => if number < 0 then .error (raised .valueError message) else .ok ()
  | .float .negativeZero => .ok ()
  | _ => .error (raised .valueError message)

/-- `validate_port` up to its bounds. -/
def portNumber (reader : FileReader) (value : Json) : Except Raised Int :=
  match value with
  | .bool _ => .error (raised .typeError "port must be an integer port")
  | .int number => .ok number
  | .float (.finite number) => .ok (number.num.tdiv number.den)
  | .float .negativeZero => .ok 0
  | .float (.infinity _) =>
      .error (raised .overflowError "cannot convert float infinity to integer")
  | .str text => match reader.intOf text with
    | some number => .ok number
    | none => .error (raised .valueError "port must be an integer port")
  | _ => .error (raised .valueError "port must be an integer port")

/-- `Endpoint(host, port)` of any two values. -/
def checkStoredEndpoint (reader : FileReader) (platform : Platform) (host port : Json) :
    Except Raised Unit :=
  match host with
  | .str host => do
      if host = [] then throw (endpointError "Host is required")
      if host ≠ strip host ∨ host.any CodePoint.isSpace then
        throw (endpointError "Address must not contain whitespace")
      if 253 < host.length then throw (endpointError "Host name is too long")
      let _ ← asEndpointError (portNumber reader port >>= validatePort)
      validateHost platform host
  | _ => .error (endpointError "Host is required")

/-! ## Trusted devices -/

/-- `TrustedDevice`, with any value in any field. -/
structure StoredDevice where
  deviceId : Json
  hostname : Json
  publicKey : Json
  fingerprint : Json
  firstTrustedAt : Json
  lastSeenAt : Json
  status : Json
  deriving DecidableEq

/-- `TrustedDevice(**record)` -/
def trustedDevice (record : Json) : Except Raised StoredDevice := do
  checkKeywords ["device_id", "hostname", "public_key", "fingerprint", "first_trusted_at",
    "last_seen_at"] ["status"] record
  return {
    deviceId := record.field "device_id"
    hostname := record.field "hostname"
    publicKey := record.field "public_key"
    fingerprint := record.field "fingerprint"
    firstTrustedAt := record.field "first_trusted_at"
    lastSeenAt := record.field "last_seen_at"
    status := (record.get (py "status")).getD (.str (py "trusted")) }

namespace StoredDevice

variable (digests : Digests) (platform : Platform)

/-- `_validate`, giving the public key. -/
def validate (device : StoredDevice) : Except Raised PyStr :=
  match device.publicKey, device.deviceId with
  | .str publicKey, .str deviceId => do
      TrustStore.validate digests deviceId publicKey
      return publicKey
  | .str publicKey, _ => do
      let _ ← decodePublicKey digests publicKey
      throw (raised .valueError "Invalid device ID")
  | _, _ => .error (raised .valueError "Invalid Ed25519 public key")

def validateHostname (device : StoredDevice) : Except Raised Unit :=
  match device.hostname with
  | .str hostname =>
      if isHostname platform hostname then .ok ()
      else .error (raised .valueError "Invalid trusted hostname")
  | _ => .error (raised .valueError "Invalid trusted hostname")

def validateStatus (device : StoredDevice) : Except Raised Unit :=
  match device.status with
  | .str status =>
      if status = py "trusted" ∨ status = py "rejected" then .ok ()
      else .error (raised .valueError "Invalid trust status")
  | .arr _ | .obj _ => .error (raised .typeError "unhashable type")
  | _ => .error (raised .valueError "Invalid trust status")

/-- `_validate_record` -/
def validateRecord (device : StoredDevice) : Except Raised Unit := do
  let publicKey ← device.validate digests
  device.validateHostname platform
  device.validateStatus
  if device.fingerprint ≠ .str (← fingerprintFromPublicKey digests publicKey) then
    throw (raised .valueError "Invalid identity fingerprint")
  checkTimestamp "Invalid trust timestamp" device.firstTrustedAt
  checkTimestamp "Invalid trust timestamp" device.lastSeenAt

/-- The `try` block of `_load`. -/
def load (deviceId : PyStr) (record : Json) : Except Raised StoredDevice := do
  if record.isDict = false ∨ record.field "device_id" ≠ .str deviceId then
    throw (raised .valueError "record key does not match device ID")
  let candidate ← trustedDevice record
  candidate.validateRecord digests platform
  return candidate

end StoredDevice

/-- `TrustStore(path)` -/
def loadTrustStore (reader : FileReader) (digests : Digests) (platform : Platform)
    (file : StoredFile) : Except Raised (Dict PyStr StoredDevice) :=
  loadFile reader (StoredDevice.load digests platform) file

/-! ## Entries of the address book -/

/-- `AddressBookEntry`, with any value in any field. -/
structure StoredEntry where
  deviceId : Json
  friendlyName : Json
  fingerprint : Json
  publicKey : Json
  lastHostname : Json
  lastResolvedIp : Json
  transferPort : Json
  lastSuccessfulConnection : Json
  lastConnectionError : Json
  deriving DecidableEq

/-- `AddressBookEntry(**value)` -/
def addressBookEntry (value : Json) : Except Raised StoredEntry := do
  checkKeywords ["device_id", "friendly_name", "fingerprint", "public_key", "last_hostname",
    "last_resolved_ip", "transfer_port"] ["last_successful_connection", "last_connection_error"]
    value
  return {
    deviceId := value.field "device_id"
    friendlyName := value.field "friendly_name"
    fingerprint := value.field "fingerprint"
    publicKey := value.field "public_key"
    lastHostname := value.field "last_hostname"
    lastResolvedIp := value.field "last_resolved_ip"
    transferPort := value.field "transfer_port"
    lastSuccessfulConnection := value.field "last_successful_connection"
    lastConnectionError := value.field "last_connection_error" }

namespace StoredEntry

variable (reader : FileReader) (digests : Digests) (platform : Platform)

/-- What is raised on the way makes an identity invalid. -/
def validIdentity (entry : StoredEntry) : Bool :=
  match entry.deviceId, entry.publicKey with
  | .str deviceId, .str publicKey => isDeviceId deviceId &&
      match deviceIdFromPublicKey digests publicKey, fingerprintFromPublicKey digests publicKey with
      | .ok derived, .ok fingerprint => derived = deviceId && .str fingerprint = entry.fingerprint
      | _, _ => false
  | _, _ => false

def validateFriendlyName (entry : StoredEntry) : Except Raised Unit :=
  match entry.friendlyName with
  | .str name =>
      if isFriendlyName platform name then .ok ()
      else .error (raised .valueError "Invalid friendly name")
  | _ => .error (raised .valueError "Invalid friendly name")

def validateResolvedIp (entry : StoredEntry) : Except Raised Unit :=
  match entry.lastResolvedIp with
  | .null => .ok ()
  | .str ip =>
      if (ipVersion ip).isSome then .ok ()
      else .error (raised .valueError "does not appear to be an IPv4 or IPv6 address")
  | _ => .error (raised .valueError "Invalid resolved address")

def validateConnection (entry : StoredEntry) : Except Raised Unit :=
  match entry.lastSuccessfulConnection with
  | .null => .ok ()
  | timestamp => checkTimestamp "Invalid connection timestamp" timestamp

def validateError (entry : StoredEntry) : Except Raised Unit :=
  match entry.lastConnectionError with
  | .null => .ok ()
  | .str error =>
      if error.length ≤ 512 ∧ error.all platform.isPrintable = true then .ok ()
      else .error (raised .valueError "Invalid connection error")
  | _ => .error (raised .valueError "Invalid connection error")

/-- `_validate_entry` -/
def validateEntry (entry : StoredEntry) : Except Raised Unit := do
  if entry.validIdentity digests = false then
    throw (raised .valueError "Invalid cryptographic identity")
  checkStoredEndpoint reader platform entry.lastHostname entry.transferPort
  entry.validateFriendlyName platform
  entry.validateResolvedIp
  entry.validateConnection
  entry.validateError platform

/-- The `try` block of `_load`. -/
def load (key : PyStr) (value : Json) : Except Raised StoredEntry := do
  if value.isDict = false then throw (raised .typeError "record must be an object")
  let entry ← addressBookEntry value
  if entry.deviceId ≠ .str key then
    throw (raised .valueError "record key does not match device ID")
  entry.validateEntry reader digests platform
  return entry

end StoredEntry

/-- `AddressBook(path)` -/
def loadAddressBook (reader : FileReader) (digests : Digests) (platform : Platform)
    (file : StoredFile) : Except Raised (Dict PyStr StoredEntry) :=
  loadFile reader (StoredEntry.load reader digests platform) file

end DirectTransfer
