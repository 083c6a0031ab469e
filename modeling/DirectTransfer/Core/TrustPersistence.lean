import DirectTransfer.Core.Service
import DirectTransfer.Library.Persistence

/-! The mutators of the trust store and of the address book, each the next map
computed from the one in memory; the file write that follows may fail. -/

set_option autoImplicit false

namespace DirectTransfer

open Library

inductive TrustOperation where
  | trust (deviceId hostname publicKey : PyStr) (lastSeenAt : Option Timestamp) (now : Instant)
  | reject (deviceId hostname publicKey : PyStr) (now : Instant)
  | untrust (deviceId : PyStr)
  | updateLastSeen (deviceId : PyStr) (timestamp : Timestamp)

/-- The map an operation of the trust store assigns and saves. -/
def trustChange (digests : Digests) (devices : Devices) :
    TrustOperation → Except Raised (Option Devices)
  | .trust deviceId hostname publicKey lastSeenAt now =>
      (devices.trust digests deviceId hostname publicKey lastSeenAt now.time).map
        fun (devices, _) => some devices
  | .reject deviceId hostname publicKey now =>
      (devices.reject digests deviceId hostname publicKey now.time).map
        fun (devices, _) => some devices
  | .untrust deviceId => .ok (devices.untrust deviceId)
  | .updateLastSeen deviceId timestamp => .ok (devices.updateLastSeen deviceId timestamp)

inductive BookOperation (platform : Platform) where
  | put (entry : AddressBookEntry)
  | recordSuccess (deviceId : PyStr) (endpoint : Endpoint platform) (resolvedIp : PyStr)
      (now : Instant)
  | recordError (deviceId message : PyStr)
  | forget (deviceId : PyStr)

/-- The map an operation of the address book assigns and saves. -/
def bookChange (digests : Digests) (platform : Platform) (entries : Dict PyStr AddressBookEntry) :
    BookOperation platform → Except Raised (Option (Dict PyStr AddressBookEntry))
  | .put entry =>
      (AddressBook.put digests platform ⟨entries, entries⟩ entry).map fun book => some book.entries
  | .recordSuccess deviceId endpoint resolvedIp now =>
      (AddressBook.recordSuccess ⟨entries, entries⟩ deviceId endpoint resolvedIp now.time).map
        fun book => some book.entries
  | .recordError deviceId message => .ok ((entries.get deviceId).map fun _ =>
      (AddressBook.recordError ⟨entries, entries⟩ deviceId message).entries)
  | .forget deviceId => .ok ((entries.get deviceId).map fun _ =>
      (AddressBook.forget ⟨entries, entries⟩ deviceId).1.entries)

/-- What a failed file write raises. -/
def writeFailed : Raised := raised .osError "No space left on device"

/-- One call of a trust store, with the outcome of its write. -/
abbrev trustStep (digests : Digests) := Persisted.step (trustChange digests) writeFailed

abbrev bookStep (digests : Digests) (platform : Platform) :=
  Persisted.step (bookChange digests platform) writeFailed

end DirectTransfer
