import DirectTransfer.Core.Pairing
import DirectTransfer.Library.Transition

/-! Any number of handshakes and pairings over a network the attacker controls:
every octet a device receives is the attacker's choice, and the attacker sees
everything a device sends. -/

set_option autoImplicit false

namespace DirectTransfer

open Library

/-- A `client_handshake` that has sent its hello. -/
structure ClientRun (crypto : Crypto) where
  identity : DeviceIdentity crypto
  trustedPeer : TrustedDevice
  ephemeralPrivate : Bytes
  nonce : Bytes
  clientHello : Json
  result : Option (Except Raised (ValidHello × AuthenticatedSession))

/-- A `server_handshake` that has sent its hello. -/
structure ServerRun (crypto : Crypto) where
  identity : DeviceIdentity crypto
  trustStore : TrustStore
  ephemeralPrivate : Bytes
  nonce : Bytes
  clientHello : ValidHello
  serverHello : Json
  result : Except Raised AuthenticatedSession

/-- A `client_pair` or `server_pair` that has sent its hello. -/
structure PairingRun (crypto : Crypto) where
  identity : DeviceIdentity crypto
  hello : Json
  result : Option (Except Raised PairingIdentity)

structure Handshakes (crypto : Crypto) where
  clients : List (ClientRun crypto)
  servers : List (ServerRun crypto)
  pairings : List (PairingRun crypto)

inductive HandshakeLabel (crypto : Crypto) where
  | client (identity : DeviceIdentity crypto) (trustedPeer : TrustedDevice)
      (ephemeralPrivate nonce : Bytes)
  | clientReceives (index : Nat) (stream : Bytes)
  | incoming (identity : DeviceIdentity crypto) (trustStore : TrustStore) (stream : Bytes)
      (ephemeralPrivate nonce : Bytes) (peerIp : PyStr) (localPort : Nat) (now : Time)
  | pairClient (identity : DeviceIdentity crypto) (nonce : Bytes) (localPort : Nat)
  | pairClientReceives (index : Nat) (peerIp : PyStr) (stream : Bytes) (now : Time)

variable {crypto : Crypto}

/-- The octets the attacker delivers in a step. -/
def HandshakeLabel.stream? : HandshakeLabel crypto → Option Bytes
  | .clientReceives _ stream | .incoming _ _ stream _ _ _ _ _ | .pairClientReceives _ _ stream _ =>
      some stream
  | _ => none

/-- One call of a device between two uses of its connection. A call that raises
before it has sent a hello leaves nothing behind. -/
def handshakeStep (codec : Codec) (state : Handshakes crypto) :
    HandshakeLabel crypto → Option (Handshakes crypto)
  | .client identity trustedPeer ephemeralPrivate nonce =>
      match clientOpening codec.floats identity trustedPeer ephemeralPrivate nonce with
      | .error _ => some state
      | .ok clientHello => some { state with clients := state.clients ++
          [⟨identity, trustedPeer, ephemeralPrivate, nonce, clientHello, none⟩] }
  | .clientReceives index stream => do
      let run ← state.clients[index]?
      if run.result.isSome then none
      let result := clientClosing crypto codec run.trustedPeer run.ephemeralPrivate run.nonce
        run.clientHello stream
      return { state with clients := state.clients.set index { run with result := some result } }
  | .incoming identity trustStore stream ephemeralPrivate nonce peerIp localPort now =>
      match receiveJson codec stream with
      | .error _ => some state
      | .ok payload =>
          if payload.field "type" = .str (py "pair_hello") then
            match serverPair codec identity peerIp payload nonce localPort now with
            | .error _ => some state
            | .ok (hello, result) =>
                some { state with pairings := state.pairings ++ [⟨identity, hello, some result⟩] }
          else match serverAnswer codec identity trustStore payload ephemeralPrivate nonce with
            | .error _ => some state
            | .ok (clientHello, serverHello) =>
                let result := serverSession crypto codec.floats clientHello serverHello
                  ephemeralPrivate nonce
                some { state with servers := state.servers ++
                  [⟨identity, trustStore, ephemeralPrivate, nonce, clientHello, serverHello, result⟩] }
  | .pairClient identity nonce localPort =>
      match clientPairOpening codec.floats identity nonce localPort with
      | .error _ => some state
      | .ok hello => some { state with pairings := state.pairings ++ [⟨identity, hello, none⟩] }
  | .pairClientReceives index peerIp stream now => do
      let run ← state.pairings[index]?
      if run.result.isSome then none
      let result := clientPairClosing crypto codec run.hello peerIp stream now
      return { state with pairings := state.pairings.set index { run with result := some result } }

/-- Nothing has run yet. -/
def Handshakes.start : Handshakes crypto := ⟨[], [], []⟩

/-- A device has signed a message in one of its runs. -/
def SignedBy (floats : FloatRepr) (state : Handshakes crypto) (identity : DeviceIdentity crypto)
    (message : Bytes) : Prop :=
  (∃ run ∈ state.clients, run.identity = identity ∧
    signedBytes floats run.clientHello = message) ∨
  (∃ run ∈ state.servers, run.identity = identity ∧
    signedBytes floats run.serverHello = message) ∨
  ∃ run ∈ state.pairings, run.identity = identity ∧ pairingSigned floats run.hello = message

/-- Ed25519 is unforgeable: the attacker delivers a signature that verifies
under an honest key only on a message its device has signed. -/
def Unforged (codec : Codec) (honest : DeviceIdentity crypto → Prop) (state : Handshakes crypto)
    (label : HandshakeLabel crypto) : Prop :=
  ∀ stream payload, label.stream? = some stream → receiveJson codec stream = .ok payload →
    ∀ identity, honest identity → ∀ domain ∈ [handshakeDomain, pairingDomain],
    ∀ text signature, payload.field "signature" = .str text →
      crypto.b64decode text = some signature →
      crypto.ed25519Verify identity.publicBytes signature
        (domain ++ canonical codec.floats (unsigned payload)) = true →
      SignedBy codec.floats state identity (domain ++ canonical codec.floats (unsigned payload))

/-- The decoder returns values of the shape JSON texts have. -/
def Codec.Sound (codec : Codec) : Prop :=
  ∀ octets value, codec.loads octets = some value → value.WellFormed

end DirectTransfer
