import DirectTransfer.Core.Trust

/-! Authenticated protocol-v3 session handshake. Persistent identities sign
fresh ephemeral keys, and the shared secret is expanded under the transcript
into one key for each connection. -/

set_option autoImplicit false

namespace DirectTransfer

open Library

def maxHandshakeSize : Nat := 8192

def nonceBytes : Nat := 32

def handshakeDomain : Bytes :=
  encodeAscii (py "direct-transfer-v3-authenticated-handshake") ++ [0]

/-- Result of a successful key agreement. -/
structure AuthenticatedSession where
  key : Bytes
  peerDeviceId : PyStr
  deriving DecidableEq

/-- A hello that has been validated, with what later code reads from it. -/
structure ValidHello where
  payload : Json
  deviceId : PyStr
  identityKey : PyStr
  ephemeral : Bytes
  nonce : Bytes
  deriving DecidableEq

/-- `json.dumps(payload, sort_keys=True, separators=(",", ":")).encode("utf-8")`. -/
def canonical (floats : FloatRepr) (payload : Json) : Bytes :=
  encodeAscii (payload.sortKeys.dumps floats)

/-- The payload without the entry `signature`. -/
def unsigned : Json → Json
  | .obj fields => .obj (fields.filter fun field => field.1 ≠ py "signature")
  | other => other

def signedBytes (floats : FloatRepr) (payload : Json) : Bytes :=
  handshakeDomain ++ canonical floats (unsigned payload)

def decodeField (digests : Digests) (value : Json) (expectedLength : Nat) (field : String) :
    Except Raised Bytes :=
  match value with
  | .str text =>
      if 256 < text.length then .error (raised .protocolError ("Invalid " ++ field))
      else match digests.b64decode text with
        | none => .error (raised .protocolError ("Invalid " ++ field))
        | some raw =>
            if raw.length ≠ expectedLength then
              .error (raised .protocolError ("Invalid " ++ field ++ " length"))
            else .ok raw
  | _ => .error (raised .protocolError ("Invalid " ++ field))

variable {crypto : Crypto}

/-- The entries of a hello before it is signed. -/
def helloFields (role : String) (identity : DeviceIdentity crypto) (ephemeralKey nonce : Bytes)
    (peerHelloHash : Option PyStr) : List (PyStr × Json) :=
  [(py "type", .str (py "hello")), (py "protocol", .int protocolVersion),
    (py "role", .str (py role)), (py "device_id", .str identity.deviceId),
    (py "identity_key", .str identity.publicKey),
    (py "ephemeral_key", .str (b64encode ephemeralKey)), (py "nonce", .str (b64encode nonce))] ++
  match peerHelloHash with
  | some hash => [(py "peer_hello_hash", .str hash)]
  | none => []

def createHello (floats : FloatRepr) (role : String) (identity : DeviceIdentity crypto)
    (ephemeralKey nonce : Bytes) (peerHelloHash : Option PyStr) : Json :=
  let fields := helloFields role identity ephemeralKey nonce peerHelloHash
  let signature := identity.sign (signedBytes floats (.obj fields))
  .obj (fields ++ [(py "signature", .str (b64encode signature))])

def validateHello (crypto : Crypto) (floats : FloatRepr) (payload : Json) (expectedRole : String) :
    Except Raised ValidHello := do
  if payload.isDict = false then throw (raised .protocolError "Handshake must be a JSON object")
  if payload.field "type" ≠ .str (py "hello") then
    throw (raised .protocolError "Invalid handshake type")
  if (payload.field "protocol").pyEq (.int protocolVersion) = false then
    throw (raised .protocolError "Protocol version mismatch")
  if payload.field "role" ≠ .str (py expectedRole) then
    throw (raised .protocolError "Invalid handshake role")
  match payload.field "device_id", payload.field "identity_key" with
  | .str deviceId, .str identityKey =>
      if isDeviceId deviceId = false then throw (raised .protocolError "Missing peer identity")
      match decodePublicKey crypto.toDigests identityKey with
      | .error _ => throw (raised .protocolError "Invalid peer identity key")
      | .ok publicKey =>
          let ephemeral ← decodeField crypto.toDigests (payload.field "ephemeral_key") 32
            "ephemeral key"
          let nonce ← decodeField crypto.toDigests (payload.field "nonce") nonceBytes "nonce"
          let signature ← decodeField crypto.toDigests (payload.field "signature") 64 "signature"
          if crypto.ed25519Verify publicKey signature (signedBytes floats payload) = false then
            throw (raised .authenticationError "Signature verification failed")
          return ⟨payload, deviceId, identityKey, ephemeral, nonce⟩
  | _, _ => throw (raised .protocolError "Missing peer identity")

/-- The frame handed to the network. -/
def sendJson (floats : FloatRepr) (payload : Json) : Except Raised Bytes :=
  let encoded := canonical floats payload
  if maxHandshakeSize < encoded.length then
    .error (raised .protocolError "Handshake frame is too large")
  else packFrame encoded

/-- The object in a frame the network delivers. -/
def receiveJson (codec : Codec) (stream : Bytes) : Except Raised Json := do
  let (raw, _) ← unpackFrame maxHandshakeSize stream
  match codec.loads raw with
  | none => throw (raised .protocolError "Invalid pairing response")
  | some payload =>
      if payload.isDict = false then throw (raised .protocolError "Invalid pairing response")
      return payload

def deriveKey (crypto : Crypto) (floats : FloatRepr) (privateKey remoteEphemeral : Bytes)
    (clientHello serverHello : Json) (clientNonce serverNonce : Bytes) : Except Raised Bytes :=
  match crypto.x25519 privateKey remoteEphemeral with
  | none => .error (raised .protocolError "Invalid ephemeral key")
  | some sharedSecret =>
      let transcript :=
        crypto.sha256 (canonical floats clientHello ++ [0] ++ canonical floats serverHello)
      let salt := crypto.sha256 (clientNonce ++ serverNonce)
      .ok (crypto.hkdf salt (handshakeDomain ++ transcript) sharedSecret)

/-- The client's code from its identity to the hello it sends. -/
def clientOpening (floats : FloatRepr) (identity : DeviceIdentity crypto)
    (trustedPeer : TrustedDevice) (ephemeralPrivate clientNonce : Bytes) : Except Raised Json := do
  if trustedPeer.status ≠ .trusted then
    throw (raised .authenticationError "Peer is not trusted")
  let clientHello := createHello floats "client" identity (crypto.x25519Public ephemeralPrivate)
    clientNonce none
  let _ ← sendJson floats clientHello
  return clientHello

/-- The client's code from the answer it receives to the session key. -/
def clientClosing (crypto : Crypto) (codec : Codec) (trustedPeer : TrustedDevice)
    (ephemeralPrivate clientNonce : Bytes) (clientHello : Json) (stream : Bytes) :
    Except Raised (ValidHello × AuthenticatedSession) := do
  let payload ← receiveJson codec stream
  let serverHello ← validateHello crypto codec.floats payload "server"
  if serverHello.deviceId ≠ trustedPeer.deviceId ∨
      serverHello.identityKey ≠ trustedPeer.publicKey then
    throw (raised .authenticationError "Wrong peer identity")
  let expectedHash := crypto.hexdigest (canonical codec.floats clientHello)
  if serverHello.payload.field "peer_hello_hash" ≠ .str expectedHash then
    throw (raised .authenticationError "Handshake transcript mismatch")
  let key ← deriveKey crypto codec.floats ephemeralPrivate serverHello.ephemeral clientHello
    serverHello.payload clientNonce serverHello.nonce
  return (serverHello, ⟨key, trustedPeer.deviceId⟩)

/-- `client_handshake` over an open connection. -/
def clientHandshake (crypto : Crypto) (codec : Codec) (identity : DeviceIdentity crypto)
    (trustedPeer : TrustedDevice) (ephemeralPrivate clientNonce stream : Bytes) :
    Except Raised AuthenticatedSession := do
  let clientHello ← clientOpening codec.floats identity trustedPeer ephemeralPrivate clientNonce
  let (_, session) ←
    clientClosing crypto codec trustedPeer ephemeralPrivate clientNonce clientHello stream
  return session

/-- The server's code up to the hello it sends in answer to a payload. -/
def serverAnswer (codec : Codec) (identity : DeviceIdentity crypto) (trustStore : TrustStore)
    (payload : Json) (ephemeralPrivate serverNonce : Bytes) : Except Raised (ValidHello × Json) := do
  let clientHello ← validateHello crypto codec.floats payload "client"
  if trustStore.assess clientHello.deviceId clientHello.identityKey ≠ .trusted then
    throw (raised .authenticationError "Untrusted peer")
  let serverHello := createHello codec.floats "server" identity
    (crypto.x25519Public ephemeralPrivate) serverNonce
    (some (crypto.hexdigest (canonical codec.floats clientHello.payload)))
  let _ ← sendJson codec.floats serverHello
  return (clientHello, serverHello)

/-- What the server returns once its hello is sent. -/
def serverSession (crypto : Crypto) (floats : FloatRepr) (clientHello : ValidHello)
    (serverHello : Json) (ephemeralPrivate serverNonce : Bytes) :
    Except Raised AuthenticatedSession := do
  let key ← deriveKey crypto floats ephemeralPrivate clientHello.ephemeral clientHello.payload
    serverHello clientHello.nonce serverNonce
  return ⟨key, clientHello.deviceId⟩

end DirectTransfer
