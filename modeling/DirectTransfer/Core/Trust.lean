import DirectTransfer.Core.Identity
import DirectTransfer.Library.Dictionary

/-! Persistent trust decisions keyed by cryptographic device identity: what each call
makes of the records in memory, and the store, whose file holds the records as they
were last written. It takes whatever float it is given as a timestamp. -/

set_option autoImplicit false

namespace DirectTransfer

open Library

/-- A local decision about a directly connected cryptographic identity. -/
inductive TrustStatus where
  | new
  | trusted
  | rejected
  | changed
  deriving DecidableEq, Repr

/-- A float. -/
inductive Timestamp where
  | finite (value : Time)
  | infinite (negative : Bool)
  | nan
  deriving DecidableEq

namespace Timestamp

/-- `timestamp - last < 30` -/
def withinThirty : Timestamp → Timestamp → Bool
  | .finite timestamp, .finite last => timestamp - last < 30
  | .finite _, .infinite negative => !negative
  | .infinite negative, .finite _ => negative
  | .infinite negative, .infinite other => negative && !other
  | .nan, _ | _, .nan => false

/-- `timestamp or now` -/
def orNow (timestamp : Option Timestamp) (now : Time) : Timestamp :=
  match timestamp with
  | some (.finite value) => if value = 0 then .finite now else .finite value
  | some other => other
  | none => .finite now

/-- A timestamp the loader takes. -/
def isStorable : Timestamp → Bool
  | .finite value => 0 ≤ value
  | .infinite _ | .nan => false

end Timestamp

/-- Persisted public information and local trust decision for a peer. -/
structure TrustedDevice where
  deviceId : PyStr
  hostname : PyStr
  publicKey : PyStr
  fingerprint : PyStr
  firstTrustedAt : Timestamp
  lastSeenAt : Timestamp
  status : TrustStatus
  deriving DecidableEq

/-- Validate that a device identifier is bound to its public key. -/
def TrustStore.validate (digests : Digests) (deviceId publicKey : PyStr) : Except Raised Unit := do
  let _ ← decodePublicKey digests publicKey
  if isDeviceId deviceId = false then throw (raised .valueError "Invalid device ID")
  let expected ← deviceIdFromPublicKey digests publicKey
  if deviceId ≠ expected then
    throw (raised .valueError "Device ID does not match the supplied public key")

def isHostname (platform : Platform) (hostname : PyStr) : Bool :=
  hostname ≠ [] && hostname.length ≤ 255 && hostname.all platform.isPrintable

/-- The records of a store in memory. -/
abbrev Devices := Dict PyStr TrustedDevice

namespace Devices

variable (digests : Digests)

def validateRecord (platform : Platform) (candidate : TrustedDevice) : Except Raised Unit := do
  TrustStore.validate digests candidate.deviceId candidate.publicKey
  if isHostname platform candidate.hostname = false then
    throw (raised .valueError "Invalid trusted hostname")
  if candidate.status ≠ .trusted ∧ candidate.status ≠ .rejected then
    throw (raised .valueError "Invalid trust status")
  if candidate.fingerprint ≠ (← fingerprintFromPublicKey digests candidate.publicKey) then
    throw (raised .valueError "Invalid identity fingerprint")
  if candidate.firstTrustedAt.isStorable = false ∨ candidate.lastSeenAt.isStorable = false then
    throw (raised .valueError "Invalid trust timestamp")

/-- A record read back from its JSON text. -/
def reread (record : TrustedDevice) : TrustedDevice :=
  { record with hostname := joinPairs record.hostname }

/-- The records a new process keeps of a file. -/
def load (platform : Platform) (file : Devices) : Devices :=
  (file.map reread).filter fun deviceId record =>
    record.deviceId = deviceId && (validateRecord digests platform record).isOk

/-- Assess an advertised identity without changing trust. -/
def assess (devices : Devices) (deviceId publicKey : PyStr) : TrustStatus :=
  if deviceId = [] ∨ publicKey = [] then .new
  else match devices.get deviceId with
    | none => .new
    | some record => if record.publicKey ≠ publicKey then .changed else record.status

/-- Persist explicit trust for a validated public identity. -/
def trust (devices : Devices) (deviceId hostname publicKey : PyStr) (lastSeenAt : Option Timestamp)
    (now : Time) : Except Raised (Devices × TrustedDevice) := do
  TrustStore.validate digests deviceId publicKey
  let fingerprint ← fingerprintFromPublicKey digests publicKey
  let firstTrustedAt := match devices.get deviceId with
    | some existing => existing.firstTrustedAt
    | none => .finite now
  let record : TrustedDevice :=
    { deviceId, hostname := hostname.take 255, publicKey, fingerprint, firstTrustedAt,
      lastSeenAt := Timestamp.orNow lastSeenAt now, status := .trusted }
  return (devices.set deviceId record, record)

/-- Persist an explicit rejection for a validated public identity. -/
def reject (devices : Devices) (deviceId hostname publicKey : PyStr) (now : Time) :
    Except Raised (Devices × TrustedDevice) := do
  TrustStore.validate digests deviceId publicKey
  let fingerprint ← fingerprintFromPublicKey digests publicKey
  let record : TrustedDevice :=
    { deviceId, hostname := hostname.take 255, publicKey, fingerprint,
      firstTrustedAt := .finite now, lastSeenAt := .finite now, status := .rejected }
  return (devices.set deviceId record, record)

/-- Remove a local decision; nothing is written where there was none. -/
def untrust (devices : Devices) (deviceId : PyStr) : Option Devices :=
  (devices.get deviceId).map fun _ => devices.erase deviceId

/-- Update a known device's last-seen timestamp, at most every thirty seconds. -/
def updateLastSeen (devices : Devices) (deviceId : PyStr) (timestamp : Timestamp) :
    Option Devices :=
  match devices.get deviceId with
  | none => none
  | some record =>
      if timestamp.withinThirty record.lastSeenAt then none
      else some (devices.set deviceId { record with lastSeenAt := timestamp })

end Devices

structure TrustStore where
  devices : Devices
  file : Devices

namespace TrustStore

def empty : TrustStore := ⟨Dict.empty, Dict.empty⟩

def save (store : TrustStore) : TrustStore := { store with file := store.devices }

/-- The store a new process reads: the valid records of the file. -/
def load (digests : Digests) (platform : Platform) (store : TrustStore) : TrustStore :=
  { store with devices := Devices.load digests platform store.file }

def get (store : TrustStore) (deviceId : PyStr) : Option TrustedDevice :=
  store.devices.get deviceId

def assess (store : TrustStore) (deviceId publicKey : PyStr) : TrustStatus :=
  Devices.assess store.devices deviceId publicKey

def trust (digests : Digests) (store : TrustStore) (deviceId hostname publicKey : PyStr)
    (now : Time) : Except Raised (TrustStore × TrustedDevice) := do
  let (devices, record) ← Devices.trust digests store.devices deviceId hostname publicKey none now
  return ({ store with devices }.save, record)

def untrust (store : TrustStore) (deviceId : PyStr) : TrustStore × Bool :=
  match Devices.untrust store.devices deviceId with
  | none => (store, false)
  | some devices => ({ store with devices }.save, true)

/-- A known identity is trusted exactly when its record is, under the same key. -/
theorem assess_trusted {store : TrustStore} {deviceId publicKey : PyStr}
    (trusted : store.assess deviceId publicKey = .trusted) :
    ∃ record, store.get deviceId = some record ∧ record.status = .trusted ∧
      record.publicKey = publicKey := by
  unfold assess Devices.assess at trusted
  split at trusted
  · cases trusted
  · split at trusted
    · cases trusted
    · next record found =>
        split at trusted
        · cases trusted
        · next same => exact ⟨record, found, trusted, not_not.mp same⟩

end TrustStore

end DirectTransfer
