import DirectTransfer.Core.AddressBook
import DirectTransfer.Core.Pairing

/-! The direct peer service: pairing, connecting, trusting and forgetting
devices, over two persistent stores, an inbox and two maps in memory. The
network answers each call with what its label says. -/

set_option autoImplicit false

namespace DirectTransfer

open Library

/-- The packages and the host a service runs on. -/
structure Runtime where
  crypto : Crypto
  codec : Codec
  platform : Platform

inductive ConnectionState where
  | identityReceived
  | awaitingTrust
  | authenticated
  | identityChanged
  deriving DecidableEq, Repr

/-- The numeric address of a connected socket. -/
structure SocketAddress where
  ip : PyStr
  numeric : (ipVersion ip).isSome = true
  pairFree : PairFree ip

/-- Why no connection is opened. -/
inductive DialFailure where
  | hostNotFound
  | notEncodable
  | timedOut
  | refused
  | unreachable
  deriving DecidableEq, Repr

structure ResolvedPeer where
  deviceId : PyStr
  publicKey : PyStr
  trustStatus : TrustStatus
  hostname : PyStr
  deriving DecidableEq

structure ConnectionResult (platform : Platform) where
  endpoint : Endpoint platform
  resolvedIp : SocketAddress
  identity : PairingIdentity
  state : ConnectionState

/-- What `time.time()` returns: seconds since the epoch. -/
structure Instant where
  time : Time
  afterEpoch : 0 ≤ time

/-- An endpoint, or the text of one. -/
inductive EndpointArgument (platform : Platform) where
  | endpoint (target : Endpoint platform)
  | text (value : PyStr)

/-- `TRANSFER_PORT` -/
def transferPort : Nat := 5000

def EndpointArgument.parse {platform : Platform} :
    EndpointArgument platform → Except Raised (Endpoint platform)
  | .endpoint target => .ok target
  | .text value => Endpoint.parse platform value transferPort

/-- What the network and the clock answer to `client_pair`. -/
structure PairDial where
  dialled : Except DialFailure SocketAddress
  nonce : Bytes
  stream : Bytes
  now : Time

/-- What the network and the clock answer to `client_handshake`. -/
structure HandshakeDial where
  dialled : Except DialFailure SocketAddress
  ephemeralPrivate : Bytes
  nonce : Bytes
  stream : Bytes
  now : Instant

structure DirectPeerService (runtime : Runtime) where
  identity : DeviceIdentity runtime.crypto
  port : Nat
  trustStore : TrustStore
  addressBook : AddressBook
  pairingInbox : PairingInbox
  outboundPairings : Dict PyStr (PairingIdentity × Endpoint runtime.platform)
  resolved : Dict PyStr ResolvedPeer

/-! ## Messages -/

def DialFailure.message : DialFailure → PyStr
  | .hostNotFound => py "Host not found"
  | .notEncodable => py "Connection failed"
  | .timedOut => py "Connection timed out"
  | .refused => py "Connection refused"
  | .unreachable => py "Peer unreachable"

/-- `_friendly_error`: the text of the `DirectConnectionError` for an exception. -/
def friendlyError (error : Raised) : PyStr :=
  if error.kind = .timeoutError then py "Connection timed out"
  else if error.kind = .authenticationError then py "Authentication failed"
  else if error.kind.isProtocolError then
    if py "incompatible" <:+: asciiLower error.message ∨
        py "version" <:+: asciiLower error.message then py "Peer uses incompatible protocol"
    else py "Authentication failed"
  else if error.kind.isOSError then py "Peer unreachable"
  else py "Connection failed"

/-- An exception out of a connection. -/
inductive NetworkError where
  | dial (failure : DialFailure)
  | raised (error : Raised)

namespace NetworkError

/-- Whether `except (AuthenticationError, ProtocolError, ValueError, OSError)` catches it. -/
def isCaught : NetworkError → Bool
  | .dial _ => true
  | .raised error => error.kind.isOSError || error.kind.isValueError

def message : NetworkError → PyStr
  | .dial failure => failure.message
  | .raised error => friendlyError error

/-- The exception that leaves the clause: a `DirectConnectionError` where it was caught. -/
def friendly (error : NetworkError) : Raised :=
  match error with
  | .dial failure => ⟨.osError, failure.message⟩
  | .raised original =>
      if error.isCaught then ⟨.osError, friendlyError original⟩ else original

end NetworkError

namespace DirectPeerService

variable {runtime : Runtime} (service : DirectPeerService runtime)

/-- The name is encoded before it is looked up. -/
def openConnection (endpoint : Endpoint runtime.platform)
    (dialled : Except DialFailure SocketAddress) : Except DialFailure SocketAddress :=
  if (utf8Length endpoint.host).isNone then .error .notEncodable else dialled

/-- `client_pair` over a new connection. -/
def exchange (target : Endpoint runtime.platform) (dial : PairDial) :
    Except NetworkError (SocketAddress × PairingIdentity) :=
  match openConnection target dial.dialled with
  | .error failure => .error (.dial failure)
  | .ok resolved =>
      match clientPairOpening runtime.codec.floats service.identity dial.nonce service.port with
      | .error error => .error (.raised error)
      | .ok hello =>
          match clientPairClosing runtime.crypto runtime.codec hello resolved.ip dial.stream
            dial.now with
          | .error error => .error (.raised error)
          | .ok remote => .ok (resolved, remote)

def pairState (target : Endpoint runtime.platform) (remote : PairingIdentity) : ConnectionState :=
  let status := service.trustStore.assess remote.deviceId remote.publicKey
  let moved := (service.addressBook.findEndpoint target.host target.port).any fun known =>
    known.deviceId ≠ remote.deviceId
  if moved ∨ status = .changed then .identityChanged
  else if status = .trusted then .identityReceived
  else .awaitingTrust

def pair (endpoint : EndpointArgument runtime.platform) (dial : PairDial) :
    DirectPeerService runtime × Except Raised (ConnectionResult runtime.platform) :=
  match endpoint.parse with
  | .error error => (service, .error error)
  | .ok target => match service.exchange target dial with
    | .error error => (service, .error error.friendly)
    | .ok (resolved, remote) =>
        let status := service.trustStore.assess remote.deviceId remote.publicKey
        ({ service with
            outboundPairings := service.outboundPairings.set remote.deviceId (remote, target)
            resolved := service.resolved.set resolved.ip
              ⟨remote.deviceId, remote.publicKey, status, target.host⟩ },
          .ok ⟨target, resolved, remote, service.pairState target remote⟩)

/-- `client_handshake` over a new connection. -/
def authenticate (endpoint : Endpoint runtime.platform) (trusted : TrustedDevice)
    (dial : HandshakeDial) : Except NetworkError (SocketAddress × AuthenticatedSession) :=
  match openConnection endpoint dial.dialled with
  | .error failure => .error (.dial failure)
  | .ok resolved =>
      match clientHandshake runtime.crypto runtime.codec service.identity trusted
        dial.ephemeralPrivate dial.nonce dial.stream with
      | .error error => .error (.raised error)
      | .ok session => .ok (resolved, session)

/-- `connect` up to its `except` clause: what pairing returned, and what the handshake
with a trusted device came to. -/
def contact (endpoint : EndpointArgument runtime.platform) (pairDial : PairDial)
    (dial : HandshakeDial) :
    DirectPeerService runtime × Except Raised (ConnectionResult runtime.platform ×
      Option (Except NetworkError (SocketAddress × AuthenticatedSession))) :=
  let (service, paired) := service.pair endpoint pairDial
  match paired with
  | .error error => (service, .error error)
  | .ok result =>
      let deviceId := result.identity.deviceId
      if result.state = .identityChanged then
        (service, .error (raised .osError "Device identity changed"))
      else if service.trustStore.assess deviceId result.identity.publicKey ≠ .trusted then
        (service, .ok (result, none))
      else (service, .ok (result, (service.trustStore.get deviceId).map fun trusted =>
        service.authenticate result.endpoint trusted dial))

def connect (endpoint : EndpointArgument runtime.platform) (pairDial : PairDial)
    (dial : HandshakeDial) :
    DirectPeerService runtime × Except Raised (ConnectionResult runtime.platform) :=
  match service.contact endpoint pairDial dial with
  | (service, .error error) => (service, .error error)
  | (service, .ok (result, none)) => (service, .ok result)
  | (service, .ok (result, some (.error error))) =>
      if error.isCaught then
        ({ service with addressBook :=
            service.addressBook.recordError result.identity.deviceId error.message },
          .error error.friendly)
      else (service, .error error.friendly)
  | (service, .ok (result, some (.ok (resolved, _)))) =>
      match service.addressBook.recordSuccess result.identity.deviceId result.endpoint resolved.ip
          dial.now.time with
      | .error error => (service, .error error)
      | .ok addressBook =>
          ({ service with addressBook },
            .ok { result with resolvedIp := resolved, state := .authenticated })

/-- The identity a trust call is about, with the endpoint to remember for it. -/
def pairing (deviceId : PyStr) (clock : Time) : DirectPeerService runtime ×
    Except Raised (PairingIdentity × Endpoint runtime.platform) :=
  match service.outboundPairings.get deviceId with
  | some found => (service, .ok found)
  | none =>
      let (pairingInbox, found) := service.pairingInbox.get deviceId clock
      ({ service with pairingInbox }, match found with
        | none => .error ⟨.keyError, deviceId⟩
        | some identity => do
            let endpoint ← Endpoint.make runtime.platform identity.peerIp identity.transferPort
            return (identity, endpoint))

/-- `(friendly_name or endpoint.host)[:80]` -/
def shownName (friendlyName : Option PyStr) (endpoint : Endpoint runtime.platform) : PyStr :=
  match friendlyName with
  | some (first :: rest) => (first :: rest).take 80
  | _ => endpoint.host.take 80

def trust (deviceId : PyStr) (friendlyName : Option PyStr) (now : Instant) (clock : Time) :
    DirectPeerService runtime × Except Raised AddressBookEntry :=
  let (service, found) := service.pairing deviceId clock
  match found with
  | .error error => (service, .error error)
  | .ok (identity, endpoint) =>
      let name := shownName friendlyName endpoint
      match service.trustStore.trust runtime.crypto.toDigests deviceId name identity.publicKey
          now.time with
      | .error error => (service, .error error)
      | .ok (trustStore, trusted) =>
          let service := { service with trustStore }
          let entry : AddressBookEntry :=
            { deviceId, friendlyName := name, fingerprint := trusted.fingerprint,
              publicKey := trusted.publicKey, lastHostname := endpoint.host,
              lastResolvedIp := some identity.peerIp, transferPort := endpoint.port,
              lastSuccessfulConnection := none, lastConnectionError := none }
          match service.addressBook.put runtime.crypto.toDigests runtime.platform entry with
          | .error error => (service, .error error)
          | .ok addressBook =>
              ({ service with
                  addressBook
                  pairingInbox := service.pairingInbox.remove deviceId
                  resolved := service.resolved.set identity.peerIp
                    ⟨deviceId, identity.publicKey, .trusted, endpoint.host⟩ }, .ok entry)

def dismissPairing (deviceId : PyStr) : DirectPeerService runtime :=
  { service with pairingInbox := service.pairingInbox.remove deviceId }

def forgetDevice (deviceId : PyStr) : DirectPeerService runtime :=
  { service with
    trustStore := (service.trustStore.untrust deviceId).1
    addressBook := (service.addressBook.forget deviceId).1 }

/-- A new process on the same files. -/
def restart : DirectPeerService runtime :=
  { service with
    trustStore := service.trustStore.load runtime.crypto.toDigests runtime.platform
    addressBook := service.addressBook.load runtime.crypto.toDigests runtime.platform
    pairingInbox := .empty
    outboundPairings := Dict.empty
    resolved := Dict.empty }

/-- An incoming pairing connection. -/
def incomingPairing (peer : SocketAddress) (hello : Json) (nonce : Bytes) (now clock : Time) :
    DirectPeerService runtime :=
  match serverPair runtime.codec service.identity peer.ip hello nonce service.port now with
  | .ok (_, .ok identity) =>
      { service with pairingInbox := (service.pairingInbox.publish identity clock clock).1 }
  | _ => service

/-! ## Sending -/

/-- What `send_files` hands to a background worker. -/
structure Dispatch where
  deviceId : PyStr
  peerIp : PyStr
  port : Nat

def notAuthenticated (message : String) : Raised := raised .authenticationError message

/-- The device a target names, once connected where the target is an address. -/
def addressed (target : EndpointArgument runtime.platform) (pairDial : PairDial)
    (dial : HandshakeDial) : DirectPeerService runtime ×
      Except Raised (PyStr × Option (ConnectionResult runtime.platform)) :=
  let connected :=
    match service.connect target pairDial dial with
    | (service, .error error) => (service, .error error)
    | (service, .ok result) =>
        if result.state ≠ .authenticated then
          (service, .error (notAuthenticated "New device requires fingerprint approval"))
        else (service, .ok (result.identity.deviceId, some result))
  match target with
  | .endpoint _ => connected
  | .text value => if value.take 3 = py "mp-" then (service, .ok (value, none)) else connected

def sendFiles (target : EndpointArgument runtime.platform) (pairDial : PairDial)
    (dial : HandshakeDial) : DirectPeerService runtime × Except Raised Dispatch :=
  match service.addressed target pairDial dial with
  | (service, .error error) => (service, .error error)
  | (service, .ok (deviceId, connected)) =>
      match service.addressBook.get deviceId, service.trustStore.get deviceId with
      | some entry, some trusted =>
          let dispatch (service : DirectPeerService runtime)
              (result : ConnectionResult runtime.platform) :
              DirectPeerService runtime × Except Raised Dispatch :=
            if result.state ≠ .authenticated then
              (service, .error (notAuthenticated "Peer authentication failed"))
            else ({ service with
                resolved := service.resolved.set result.resolvedIp.ip
                  ⟨deviceId, trusted.publicKey, .trusted, entry.lastHostname⟩ },
              .ok ⟨deviceId, result.resolvedIp.ip, entry.transferPort⟩)
          match connected with
          | some result => dispatch service result
          | none => match entry.endpoint runtime.platform with
            | .error error => (service, .error error)
            | .ok endpoint => match service.connect (.endpoint endpoint) pairDial dial with
              | (service, .error error) => (service, .error error)
              | (service, .ok result) => dispatch service result
      | _, _ => (service, .error (notAuthenticated "Peer is not trusted"))

def resolvePeer (peerIp : PyStr) : Option ResolvedPeer :=
  match service.resolved.get peerIp with
  | some resolved => some resolved
  | none => (service.addressBook.get peerIp).map fun entry =>
      ⟨entry.deviceId, entry.publicKey, .trusted, entry.friendlyName⟩

/-! ## Runs -/

inductive Label (runtime : Runtime) where
  | pair (endpoint : EndpointArgument runtime.platform) (dial : PairDial)
  | connect (endpoint : EndpointArgument runtime.platform) (pairDial : PairDial)
      (dial : HandshakeDial)
  | trust (deviceId : PyStr) (friendlyName : Option PyStr) (now : Instant) (clock : Time)
  | forgetDevice (deviceId : PyStr)
  | dismissPairing (deviceId : PyStr)
  | incomingPairing (peer : SocketAddress) (hello : Json) (nonce : Bytes) (now clock : Time)
  | sendFiles (target : EndpointArgument runtime.platform) (pairDial : PairDial)
      (dial : HandshakeDial)
  | restart

def step (service : DirectPeerService runtime) :
    Label runtime → Option (DirectPeerService runtime)
  | .pair target dial => some (service.pair target dial).1
  | .connect target pairDial dial => some (service.connect target pairDial dial).1
  | .trust deviceId friendlyName now clock =>
      some (service.trust deviceId friendlyName now clock).1
  | .forgetDevice deviceId => some (service.forgetDevice deviceId)
  | .dismissPairing deviceId => some (service.dismissPairing deviceId)
  | .incomingPairing peer hello nonce now clock =>
      some (service.incomingPairing peer hello nonce now clock)
  | .sendFiles target pairDial dial => some (service.sendFiles target pairDial dial).1
  | .restart => some service.restart

/-- A service on empty stores. -/
def fresh (identity : DeviceIdentity runtime.crypto) (port : Nat) : DirectPeerService runtime :=
  ⟨identity, port, .empty, .empty, .empty, Dict.empty, Dict.empty⟩

end DirectPeerService

end DirectTransfer
