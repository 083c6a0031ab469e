import DirectTransfer.Core.Endpoint
import DirectTransfer.Core.Identity

/-! Persistent address book keyed by cryptographic device identity. -/

set_option autoImplicit false

namespace DirectTransfer

open Library

structure AddressBookEntry where
  deviceId : PyStr
  friendlyName : PyStr
  fingerprint : PyStr
  publicKey : PyStr
  lastHostname : PyStr
  lastResolvedIp : Option PyStr
  transferPort : Nat
  lastSuccessfulConnection : Option Time
  lastConnectionError : Option PyStr
  deriving DecidableEq

/-- The endpoint an entry was last reached at. -/
def AddressBookEntry.endpoint (platform : Platform) (entry : AddressBookEntry) :
    Except Raised (Endpoint platform) :=
  Endpoint.make platform entry.lastHostname entry.transferPort

/-- The names an entry may be shown under. -/
def isFriendlyName (platform : Platform) (name : PyStr) : Bool :=
  name ≠ [] && name = strip name && name.length ≤ 80 && name.all platform.isPrintable

structure AddressBook where
  entries : Dict PyStr AddressBookEntry
  file : Dict PyStr AddressBookEntry

namespace AddressBook

def empty : AddressBook := ⟨Dict.empty, Dict.empty⟩

def validIdentity (digests : Digests) (entry : AddressBookEntry) : Bool :=
  isDeviceId entry.deviceId &&
  match deviceIdFromPublicKey digests entry.publicKey,
      fingerprintFromPublicKey digests entry.publicKey with
  | .ok deviceId, .ok fingerprint =>
      deviceId = entry.deviceId && fingerprint = entry.fingerprint
  | _, _ => false

def validateEntry (digests : Digests) (platform : Platform) (entry : AddressBookEntry) :
    Except Raised Unit := do
  if validIdentity digests entry = false then
    throw (raised .valueError "Invalid cryptographic identity")
  let _ ← entry.endpoint platform
  if isFriendlyName platform entry.friendlyName = false then
    throw (raised .valueError "Invalid friendly name")
  if entry.lastResolvedIp.any (fun ip => (ipVersion ip).isNone) then
    throw (raised .valueError "does not appear to be an IPv4 or IPv6 address")
  if entry.lastSuccessfulConnection.any (fun timestamp => timestamp < 0) then
    throw (raised .valueError "Invalid connection timestamp")
  if entry.lastConnectionError.any
      (fun error => 512 < error.length || error.all platform.isPrintable = false) then
    throw (raised .valueError "Invalid connection error")

def get (book : AddressBook) (deviceId : PyStr) : Option AddressBookEntry :=
  book.entries.get deviceId

def findEndpoint (book : AddressBook) (host : PyStr) (port : Nat) : Option AddressBookEntry :=
  book.entries.values.find? fun item => item.lastHostname = host && item.transferPort = port

/-- The file is written in the order of the keys. -/
def save (book : AddressBook) : AddressBook := { book with file := book.entries.sorted textLe }

def put (digests : Digests) (platform : Platform) (book : AddressBook) (entry : AddressBookEntry) :
    Except Raised AddressBook := do
  validateEntry digests platform entry
  return { book with entries := book.entries.set entry.deviceId entry }.save

def recordSuccess {platform : Platform} (book : AddressBook) (deviceId : PyStr)
    (endpoint : Endpoint platform) (resolvedIp : PyStr) (now : Time) : Except Raised AddressBook :=
  match book.entries.get deviceId with
  | none => .error ⟨.keyError, deviceId⟩
  | some current => .ok { book with entries := book.entries.set deviceId { current with
      lastHostname := endpoint.host
      transferPort := endpoint.port
      lastResolvedIp := some resolvedIp
      lastSuccessfulConnection := some now
      lastConnectionError := none } }.save

def recordError (book : AddressBook) (deviceId message : PyStr) : AddressBook :=
  match book.entries.get deviceId with
  | none => book
  | some current => { book with entries := book.entries.set deviceId { current with
      lastConnectionError := some (message.take 512) } }.save

def forget (book : AddressBook) (deviceId : PyStr) : AddressBook × Bool :=
  match book.entries.get deviceId with
  | none => (book, false)
  | some _ => ({ book with entries := book.entries.erase deviceId }.save, true)

/-- An entry read back from its JSON text. -/
def reread (entry : AddressBookEntry) : AddressBookEntry :=
  { entry with
    friendlyName := joinPairs entry.friendlyName
    lastHostname := joinPairs entry.lastHostname
    lastResolvedIp := entry.lastResolvedIp.map joinPairs
    lastConnectionError := entry.lastConnectionError.map joinPairs }

/-- The book a new process reads: the valid entries of the file. -/
def load (digests : Digests) (platform : Platform) (book : AddressBook) : AddressBook :=
  { book with entries := (book.file.map reread).filter fun key entry =>
      key = entry.deviceId && (validateEntry digests platform entry).isOk }

end AddressBook

end DirectTransfer
