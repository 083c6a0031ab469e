import DirectTransfer.Core.Handshake
import DirectTransfer.Library.Binary64

/-! Signed identity exchange used before protocol-v3 trust exists, and the inbox
of identities other devices have offered. -/

set_option autoImplicit false

namespace DirectTransfer

open Library

def pairingVersion : Nat := 1

def pairingDomain : Bytes := encodeAscii (py "direct-transfer-pairing-v1") ++ [0]

structure PairingIdentity where
  deviceId : PyStr
  publicKey : PyStr
  fingerprint : PyStr
  peerIp : PyStr
  receivedAt : Time
  transferPort : Nat
  deriving DecidableEq

/-- `PAIRING_REQUEST_TTL`, in seconds. -/
def pairingRequestTtl : Time := 90

/-- Identities other devices have offered, each with its deadline. -/
structure PairingInbox where
  items : Dict PyStr (PairingIdentity × Time)
  maxPending : Nat
  ttl : Time

namespace PairingInbox

/-- `PairingInbox(max_pending, ttl)` -/
def create (maxPending : Int) (ttl : Time) : Except Raised PairingInbox :=
  if maxPending ≤ 0 then .error (raised .valueError "max_pending must be positive")
  else if ttl ≤ 0 then .error (raised .valueError "ttl must be positive")
  else .ok ⟨Dict.empty, maxPending.toNat, ttl⟩

def empty : PairingInbox := ⟨Dict.empty, 32, pairingRequestTtl⟩

def pruneExpired (inbox : PairingInbox) (clock : Time) : PairingInbox :=
  { inbox with items := inbox.items.filter fun _ item => clock < item.2 }

/-- The identifiers a pruning removes. -/
def expired (inbox : PairingInbox) (clock : Time) : List PyStr :=
  (inbox.items.filter fun _ item => item.2 ≤ clock).keys

/-- The clock is read for what has expired, and `later` for the new deadline. -/
def publish (inbox : PairingInbox) (identity : PairingIdentity) (clock later : Time) :
    PairingInbox × Except Raised Unit :=
  let live := inbox.pruneExpired clock
  if (live.items.get identity.deviceId).isNone ∧ live.maxPending ≤ live.items.entries.length then
    (live, .error (raised .protocolError "Pairing inbox is full"))
  else ({ live with
    items := live.items.set identity.deviceId (identity, floatAdd later live.ttl) }, .ok ())

/-- Looking an identity up removes what has expired. -/
def get (inbox : PairingInbox) (deviceId : PyStr) (clock : Time) :
    PairingInbox × Option PairingIdentity :=
  let live := inbox.pruneExpired clock
  (live, (live.items.get deviceId).map Prod.fst)

/-- The live identities, the latest received first. -/
def all (inbox : PairingInbox) (clock : Time) : PairingInbox × List PairingIdentity :=
  let live := inbox.pruneExpired clock
  (live, (live.items.entries.map fun entry => entry.2.1).mergeSort fun left right =>
    decide (right.receivedAt ≤ left.receivedAt))

def remove (inbox : PairingInbox) (deviceId : PyStr) : PairingInbox :=
  { inbox with items := inbox.items.erase deviceId }

/-- Dismiss a pending identity without persisting any trust decision. -/
def reject (inbox : PairingInbox) (deviceId : PyStr) : PairingInbox := inbox.remove deviceId

end PairingInbox

def pairingSigned (floats : FloatRepr) (value : Json) : Bytes :=
  pairingDomain ++ canonical floats (unsigned value)

variable {crypto : Crypto}

def pairingFields (role : String) (identity : DeviceIdentity crypto) (nonce : Bytes)
    (transferPort : Nat) (peerHash : Option PyStr) : List (PyStr × Json) :=
  [(py "type", .str (py "pair_hello")), (py "version", .int pairingVersion),
    (py "role", .str (py role)), (py "device_id", .str identity.deviceId),
    (py "identity_key", .str identity.publicKey), (py "nonce", .str (b64encode nonce)),
    (py "transfer_port", .int transferPort)] ++
  match peerHash with
  | some hash => [(py "peer_hello_hash", .str hash)]
  | none => []

def pairingHello (floats : FloatRepr) (role : String) (identity : DeviceIdentity crypto)
    (nonce : Bytes) (transferPort : Nat) (peerHash : Option PyStr) : Json :=
  let fields := pairingFields role identity nonce transferPort peerHash
  let signature := identity.sign (pairingSigned floats (.obj fields))
  .obj (fields ++ [(py "signature", .str (b64encode signature))])

/-- `base64.b64decode(value.get(key, ""), validate=True)`. -/
def decodeProof (digests : Digests) (value : Json) (key : String) : Option Bytes :=
  match (value.get (py key)).getD (.str []) with
  | .str text => digests.b64decode text
  | _ => none

def validatePairing (crypto : Crypto) (floats : FloatRepr) (value : Json) (role : String) :
    Except Raised (PyStr × PyStr × Nat) := do
  if value.isDict = false ∨ value.field "type" ≠ .str (py "pair_hello") ∨
      (value.field "version").pyEq (.int pairingVersion) = false ∨
      value.field "role" ≠ .str (py role) then
    throw (raised .protocolError "Peer uses incompatible pairing protocol")
  match value.field "device_id", value.field "identity_key" with
  | .str deviceId, .str publicKey =>
      if isDeviceId deviceId = false then
        throw (raised .protocolError "Invalid pairing identity")
      match decodePublicKey crypto.toDigests publicKey,
          deviceIdFromPublicKey crypto.toDigests publicKey with
      | .ok key, .ok derivedDeviceId =>
          if derivedDeviceId ≠ deviceId then
            throw (raised .protocolError "Pairing identity does not match public key")
          match decodeProof crypto.toDigests value "nonce",
              decodeProof crypto.toDigests value "signature" with
          | some nonce, some signature =>
              if nonce.length ≠ 32 ∨ signature.length ≠ 64 then
                throw (raised .protocolError "Invalid pairing proof")
              match value.field "transfer_port" with
              | .int port =>
                  if ¬ (1 ≤ port ∧ port ≤ 65535) then
                    throw (raised .protocolError "Invalid pairing port")
                  if crypto.ed25519Verify key signature (pairingSigned floats value) = false then
                    throw (raised .protocolError "Pairing signature verification failed")
                  return (deviceId, publicKey, port.toNat)
              | _ => throw (raised .protocolError "Invalid pairing port")
          | _, _ => throw (raised .protocolError "Invalid pairing proof")
      | _, _ => throw (raised .protocolError "Invalid pairing identity key")
  | _, _ => throw (raised .protocolError "Invalid pairing identity")

/-- The identity a validated pairing hello speaks for. -/
def pairingResult (digests : Digests) (hello : PyStr × PyStr × Nat) (peerIp : PyStr) (now : Time) :
    Except Raised PairingIdentity := do
  let (deviceId, publicKey, transferPort) := hello
  let fingerprint ← fingerprintFromPublicKey digests publicKey
  return ⟨deviceId, publicKey, fingerprint, peerIp, now, transferPort⟩

/-- `client_pair` up to the hello it sends. -/
def clientPairOpening (floats : FloatRepr) (identity : DeviceIdentity crypto) (nonce : Bytes)
    (localPort : Nat) : Except Raised Json := do
  let hello := pairingHello floats "client" identity nonce localPort none
  let _ ← sendJson floats hello
  return hello

/-- `client_pair` from the answer it receives. -/
def clientPairClosing (crypto : Crypto) (codec : Codec) (hello : Json) (peerIp : PyStr)
    (stream : Bytes) (now : Time) : Except Raised PairingIdentity := do
  let response ← receiveJson codec stream
  let valid ← validatePairing crypto codec.floats response "server"
  if response.field "peer_hello_hash" ≠
      .str (crypto.hexdigest (canonical codec.floats hello)) then
    throw (raised .protocolError "Pairing transcript mismatch")
  pairingResult crypto.toDigests valid peerIp now

/-- `server_pair`: its hello, and the identity it returns once that is sent. -/
def serverPair (codec : Codec) (identity : DeviceIdentity crypto) (peerIp : PyStr) (hello : Json)
    (nonce : Bytes) (localPort : Nat) (now : Time) :
    Except Raised (Json × Except Raised PairingIdentity) := do
  let request ← validatePairing crypto codec.floats hello "client"
  let response := pairingHello codec.floats "server" identity nonce localPort
    (some (crypto.hexdigest (canonical codec.floats hello)))
  let _ ← sendJson codec.floats response
  return (response, pairingResult crypto.toDigests request peerIp now)

end DirectTransfer
