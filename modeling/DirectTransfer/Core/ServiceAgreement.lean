import DirectTransfer.Core.EndpointText
import DirectTransfer.Core.ServiceProperties

/-! Trusting a device writes both stores or neither, every trusted device has an
entry, and connecting never misses one: in every run that trusts devices only
under names the address book accepts. -/

set_option autoImplicit false

namespace DirectTransfer

open Library

/-! ## Exceptions that are never a missing key -/

section NoKeyError

variable {α β : Type}

/-- No exception of the computation is a `KeyError`. -/
def NoKeyError (result : Except Raised α) : Prop :=
  ∀ error, result = .error error → error.kind ≠ .keyError

theorem noKeyError_ok (value : α) : NoKeyError (.ok value : Except Raised α) :=
  fun _ failed => nomatch failed

theorem noKeyError_error {error : Raised} (other : error.kind ≠ .keyError) :
    NoKeyError (.error error : Except Raised α) := fun _ failed => by
  cases failed
  exact other

/-- What a failed step raises may be raised again at another type. -/
theorem NoKeyError.again {result : Except Raised α} (safe : NoKeyError result) {error : Raised}
    (failed : result = .error error) : NoKeyError (.error error : Except Raised β) :=
  noKeyError_error (safe error failed)

theorem unpackFrame_noKeyError (maxSize : Nat) (stream : Bytes) :
    NoKeyError (unpackFrame maxSize stream) := by
  unfold unpackFrame
  simp only
  repeat' split
  all_goals first | exact noKeyError_ok _ | exact noKeyError_error (by simp [raised])

theorem receiveJson_noKeyError (codec : Codec) (stream : Bytes) :
    NoKeyError (receiveJson codec stream) := by
  unfold receiveJson
  simp only [bind, Except.bind, pure, Except.pure, throw, throwThe, MonadExceptOf.throw]
  split
  · next failed => exact (unpackFrame_noKeyError _ _).again failed
  · repeat' split
    all_goals first | exact noKeyError_ok _ | exact noKeyError_error (by decide)

theorem sendJson_noKeyError (floats : FloatRepr) (payload : Json) :
    NoKeyError (sendJson floats payload) := by
  unfold sendJson packFrame
  simp only
  repeat' split
  all_goals first | exact noKeyError_ok _ | exact noKeyError_error (by decide)

theorem decodeField_noKeyError (digests : Digests) (value : Json) (expectedLength : Nat)
    (field : String) : NoKeyError (decodeField digests value expectedLength field) := by
  unfold decodeField
  repeat' split
  all_goals first | exact noKeyError_ok _ | exact noKeyError_error (by simp [raised])

variable {crypto : Crypto}

theorem validateHello_noKeyError (floats : FloatRepr) (payload : Json) (role : String) :
    NoKeyError (validateHello crypto floats payload role) := by
  have decoded := decodeField_noKeyError crypto.toDigests
  unfold validateHello
  simp only [bind, Except.bind, pure, Except.pure, throw, throwThe, MonadExceptOf.throw]
  repeat' split
  all_goals first
    | exact noKeyError_ok _
    | exact noKeyError_error (by decide)
    | next failed => exact (decoded _ _ _).again failed

theorem deriveKey_noKeyError (floats : FloatRepr) (privateKey remoteEphemeral : Bytes)
    (clientHello serverHello : Json) (clientNonce serverNonce : Bytes) :
    NoKeyError (deriveKey crypto floats privateKey remoteEphemeral clientHello serverHello
      clientNonce serverNonce) := by
  unfold deriveKey
  split
  · exact noKeyError_error (by decide)
  · exact noKeyError_ok _

theorem clientOpening_noKeyError (floats : FloatRepr) (identity : DeviceIdentity crypto)
    (trusted : TrustedDevice) (ephemeralPrivate nonce : Bytes) :
    NoKeyError (clientOpening floats identity trusted ephemeralPrivate nonce) := by
  unfold clientOpening
  simp only [bind, Except.bind, pure, Except.pure, throw, throwThe, MonadExceptOf.throw]
  repeat' split
  all_goals first
    | exact noKeyError_ok _
    | exact noKeyError_error (by decide)
    | next failed => exact (sendJson_noKeyError _ _).again failed

theorem clientClosing_noKeyError (codec : Codec) (trusted : TrustedDevice)
    (ephemeralPrivate nonce : Bytes) (hello : Json) (stream : Bytes) :
    NoKeyError (clientClosing crypto codec trusted ephemeralPrivate nonce hello stream) := by
  unfold clientClosing
  simp only [bind, Except.bind, pure, Except.pure, throw, throwThe, MonadExceptOf.throw]
  repeat' split
  all_goals first
    | exact noKeyError_ok _
    | exact noKeyError_error (by decide)
    | next failed => exact (receiveJson_noKeyError _ _).again failed
    | next failed => exact (validateHello_noKeyError _ _ _).again failed
    | next failed => exact (deriveKey_noKeyError _ _ _ _ _ _ _).again failed

theorem clientHandshake_noKeyError (codec : Codec) (identity : DeviceIdentity crypto)
    (trusted : TrustedDevice) (ephemeralPrivate nonce stream : Bytes) :
    NoKeyError (clientHandshake crypto codec identity trusted ephemeralPrivate nonce stream) := by
  unfold clientHandshake
  simp only [bind, Except.bind, pure, Except.pure]
  split
  · next opening => exact (clientOpening_noKeyError _ _ _ _ _).again opening
  split
  · next closing => exact (clientClosing_noKeyError _ _ _ _ _ _).again closing
  · exact noKeyError_ok _

theorem validatePairing_noKeyError (floats : FloatRepr) (value : Json) (role : String) :
    NoKeyError (validatePairing crypto floats value role) := by
  unfold validatePairing
  simp only [bind, Except.bind, pure, Except.pure, throw, throwThe, MonadExceptOf.throw]
  repeat' split
  all_goals first | exact noKeyError_ok _ | exact noKeyError_error (by decide)

theorem pairingResult_noKeyError (digests : Digests) (hello : PyStr × PyStr × Nat) (peerIp : PyStr)
    (now : Time) : NoKeyError (pairingResult digests hello peerIp now) := by
  obtain ⟨deviceId, publicKey, transferPort⟩ := hello
  simp only [pairingResult, fingerprintFromPublicKey]
  cases digests.b64decode publicKey with
  | none => exact noKeyError_error (by decide)
  | some raw => exact noKeyError_ok _

theorem clientPairOpening_noKeyError (floats : FloatRepr) (identity : DeviceIdentity crypto)
    (nonce : Bytes) (localPort : Nat) :
    NoKeyError (clientPairOpening floats identity nonce localPort) := by
  unfold clientPairOpening
  simp only [bind, Except.bind, pure, Except.pure]
  split
  · next failed => exact (sendJson_noKeyError _ _).again failed
  · exact noKeyError_ok _

theorem clientPairClosing_noKeyError (codec : Codec) (hello : Json) (peerIp : PyStr)
    (stream : Bytes) (now : Time) :
    NoKeyError (clientPairClosing crypto codec hello peerIp stream now) := by
  unfold clientPairClosing
  simp only [bind, Except.bind, throw, throwThe, MonadExceptOf.throw]
  repeat' split
  all_goals first
    | exact noKeyError_error (by decide)
    | exact pairingResult_noKeyError _ _ _ _
    | next failed => exact (receiveJson_noKeyError _ _).again failed
    | next failed => exact (validatePairing_noKeyError _ _ _).again failed

variable {platform : Platform}

theorem Endpoint.parse_noKeyError (value : PyStr) (defaultPort : Nat) :
    NoKeyError (Endpoint.parse platform value defaultPort) := by
  intro error failed
  simp [Endpoint.parse_error failed]

end NoKeyError

namespace DirectPeerService

variable {runtime : Runtime}

theorem NetworkError.friendly_noKeyError {error : NetworkError}
    (safe : ∀ original, error = .raised original → original.kind ≠ .keyError) :
    error.friendly.kind ≠ .keyError := by
  cases error with
  | dial failure => exact nofun
  | raised original =>
      simp only [NetworkError.friendly]
      split
      · exact nofun
      · exact safe original rfl

theorem exchange_noKeyError {service : DirectPeerService runtime}
    {target : Endpoint runtime.platform} {dial : PairDial} {error : NetworkError}
    (failed : service.exchange target dial = .error error) :
    error.friendly.kind ≠ .keyError := by
  refine NetworkError.friendly_noKeyError fun original same => ?_
  subst same
  unfold exchange at failed
  split at failed
  · cases failed
  split at failed
  · next opening =>
      cases failed
      exact clientPairOpening_noKeyError _ _ _ _ _ opening
  split at failed
  · next closing =>
      cases failed
      exact clientPairClosing_noKeyError _ _ _ _ _ _ closing
  · cases failed

theorem authenticate_noKeyError {service : DirectPeerService runtime}
    {target : Endpoint runtime.platform} {trusted : TrustedDevice} {dial : HandshakeDial}
    {error : NetworkError} (failed : service.authenticate target trusted dial = .error error) :
    error.friendly.kind ≠ .keyError := by
  refine NetworkError.friendly_noKeyError fun original same => ?_
  subst same
  unfold authenticate at failed
  split at failed
  · cases failed
  split at failed
  · next shaken =>
      cases failed
      exact clientHandshake_noKeyError _ _ _ _ _ _ _ shaken
  · cases failed

theorem parse_noKeyError (endpoint : EndpointArgument runtime.platform) :
    NoKeyError endpoint.parse := by
  cases endpoint with
  | endpoint target => exact noKeyError_ok _
  | text value => exact Endpoint.parse_noKeyError _ _

theorem pair_noKeyError (service : DirectPeerService runtime)
    (endpoint : EndpointArgument runtime.platform) (dial : PairDial) :
    NoKeyError (service.pair endpoint dial).2 := by
  unfold DirectPeerService.pair
  split
  · next parsed => exact (parse_noKeyError endpoint).again parsed
  · split
    · next failed => exact noKeyError_error (exchange_noKeyError failed)
    · exact noKeyError_ok _

/-- An entry is there whenever a handshake with the device is tried. -/
theorem connect_noKeyError {service : DirectPeerService runtime}
    (endpoint : EndpointArgument runtime.platform) (pairDial : PairDial) (dial : HandshakeDial)
    (linked : Linked (service.pair endpoint pairDial).1.trustStore
      (service.pair endpoint pairDial).1.addressBook) :
    NoKeyError (service.connect endpoint pairDial dial).2 := by
  have pairSafe := pair_noKeyError service endpoint pairDial
  obtain ⟨same, raises, shakes⟩ := contact_cases service endpoint pairDial dial
  unfold DirectPeerService.connect
  revert same raises shakes
  obtain ⟨contacted, outcome⟩ := service.contact endpoint pairDial dial
  intro same raises shakes
  simp only at same raises shakes
  subst same
  split
  · next error equal =>
      cases equal
      cases raises error rfl with
      | inl paired => exact pairSafe.again paired
      | inr changed => exact noKeyError_error (by rw [changed]; decide)
  · exact noKeyError_ok _
  · next error equal =>
      cases equal
      obtain ⟨trusted, _, _, failed⟩ := shakes _ _ rfl
      have safe := authenticate_noKeyError failed.symm
      split <;> exact noKeyError_error safe
  · next result address session equal =>
      cases equal
      obtain ⟨trusted, stored, status, _⟩ := shakes _ _ rfl
      obtain ⟨entry, present, _⟩ := linked _ _ stored status
      simp only [AddressBook.recordSuccess]
      rw [show (service.pair endpoint pairDial).1.addressBook.entries.get result.identity.deviceId =
        some entry from present]
      exact noKeyError_ok _

/-- A trust call that raises changes neither store, and the inbox holds the same
offers from then on: what has expired is dropped by every look at it. -/
def RaisesClean (service : DirectPeerService runtime) (deviceId : PyStr)
    (friendlyName : Option PyStr) (now : Instant) (clock : Time) : Prop :=
  ∀ error, (service.trust deviceId friendlyName now clock).2 = .error error →
    (service.trust deviceId friendlyName now clock).1.trustStore = service.trustStore ∧
    (service.trust deviceId friendlyName now clock).1.addressBook = service.addressBook ∧
    ∀ later, clock ≤ later →
      (service.trust deviceId friendlyName now clock).1.pairingInbox.pruneExpired later =
        service.pairingInbox.pruneExpired later

theorem RaisesClean.trustStore_eq {service : DirectPeerService runtime} {deviceId : PyStr}
    {friendlyName : Option PyStr} {now : Instant} {clock : Time} {error : Raised}
    (clean : RaisesClean service deviceId friendlyName now clock)
    (failed : (service.trust deviceId friendlyName now clock).2 = .error error) :
    (service.trust deviceId friendlyName now clock).1.trustStore = service.trustStore :=
  (clean error failed).1

theorem pruneExpired_later (inbox : PairingInbox) {clock later : Time} (after : clock ≤ later) :
    (inbox.pruneExpired clock).pruneExpired later = inbox.pruneExpired later := by
  have kept : ∀ entry : PyStr × PairingIdentity × Time,
      (decide (later < entry.2.2) && decide (clock < entry.2.2)) = decide (later < entry.2.2) := by
    intro entry
    by_cases live : later < entry.2.2
    · simp [live, lt_of_le_of_lt after live]
    · simp [live]
  simp only [PairingInbox.pruneExpired, Dict.filter, List.filter_filter, kept]

theorem Consistent.raisesClean {service : DirectPeerService runtime} (holds : Consistent service)
    {deviceId : PyStr} {friendlyName : Option PyStr} {now : Instant} {clock : Time}
    (accepted : NameAccepted service deviceId friendlyName clock) :
    RaisesClean service deviceId friendlyName now clock := by
  intro error failed
  rcases trust_cases holds accepted with ⟨_, raised⟩ | ⟨_, _, _, _, _, _, _, _, _, done⟩
  · rw [raised]
    rcases pairing_cases service deviceId clock with same | same
    · rw [same]; exact ⟨rfl, rfl, fun _ _ => rfl⟩
    · rw [same]; exact ⟨rfl, rfl, fun _ after => pruneExpired_later _ after⟩
  · rw [done] at failed
    cases failed

/-- While every trust call meets a name the address book accepts, a call that
raises changes nothing, trusted devices have entries, and connecting finds them. -/
theorem stores_change_together {identity : DeviceIdentity runtime.crypto} {port : Nat}
    {labels : List (Label runtime)} {service : DirectPeerService runtime}
    (run : Run step NamesAccepted (fresh identity port) labels service) :
    (∀ deviceId friendlyName now clock, NameAccepted service deviceId friendlyName clock →
      RaisesClean service deviceId friendlyName now clock) ∧
    Linked service.trustStore service.addressBook ∧
    ∀ endpoint pairDial dial, NoKeyError (service.connect endpoint pairDial dial).2 := by
  have holds := run.invariant (fun _ _ _ holds accepted stepped =>
    step_consistent holds accepted stepped) (fresh_consistent identity port)
  exact ⟨fun _ _ _ _ accepted => holds.raisesClean accepted, holds.linked,
    fun endpoint pairDial dial => connect_noKeyError endpoint pairDial dial
      (holds.pair endpoint pairDial).linked⟩

/-! ## A run -/

noncomputable def sampleRuntime : Runtime := ⟨plainCrypto, referenceCodec, asciiPlatform⟩

noncomputable def sampleService : DirectPeerService sampleRuntime := fresh (seedDevice 2) 5000

def samplePeer : SocketAddress :=
  ⟨py "192.0.2.1", by decide +kernel, pairFree_of_no_surrogate (forall_of_all (by decide))⟩

def epoch : Instant := ⟨0, le_rfl⟩

/-- The pairing hello of another device. -/
def offeredHello : Json := pairingHello quotientFloats "client" (seedDevice 1) (seedOctets 12) 5000 none

noncomputable def offeredService : DirectPeerService sampleRuntime :=
  sampleService.incomingPairing samplePeer offeredHello (seedOctets 22) 0 0

def sampleOffer : Label sampleRuntime :=
  .incomingPairing samplePeer offeredHello (seedOctets 22) 0 0

def trustAs (name : String) : Label sampleRuntime :=
  .trust (py "mp-00000000") (some (py name)) epoch 0

noncomputable def namedService (name : String) : DirectPeerService sampleRuntime :=
  (offeredService.trust (py "mp-00000000") (some (py name)) epoch 0).1

theorem sampleRun (guard : DirectPeerService sampleRuntime → Label sampleRuntime → Prop)
    (name : String) (offered : guard sampleService sampleOffer)
    (trusted : guard offeredService (trustAs name)) :
    Run step guard sampleService [sampleOffer, trustAs name] (namedService name) :=
  .cons offered rfl (.cons trusted rfl .refl)

/-- A device trusted as "bob" is trusted, and has its entry. -/
theorem bob_trusted :
    (∃ record, (namedService "bob").trustStore.get (py "mp-00000000") = some record ∧
      record.status = .trusted) ∧
    Linked (namedService "bob").trustStore (namedService "bob").addressBook := by
  have stored : ((namedService "bob").trustStore.get (py "mp-00000000")).any
      (fun record => record.status = .trusted) = true := by decide +kernel
  obtain ⟨record, found, trusted⟩ := (Option.any_eq_true _ _).mp stored
  refine ⟨⟨record, found, by simpa using trusted⟩, ?_⟩
  have run := sampleRun NamesAccepted "bob" trivial fun identity endpoint _ =>
    show isFriendlyName asciiPlatform (py "bob") = true by decide
  exact (stores_change_together run).2.1

theorem incomingPairing_trustStore (service : DirectPeerService runtime) (peer : SocketAddress)
    (hello : Json) (nonce : Bytes) (now clock : Time) :
    (service.incomingPairing peer hello nonce now clock).trustStore = service.trustStore := by
  unfold incomingPairing
  split <;> rfl

theorem spaced_outcome :
    (offeredService.trust (py "mp-00000000") (some (py " bob")) epoch 0).2 =
      .error (raised .valueError "Invalid friendly name") ∧
    ((namedService " bob").trustStore.get (py "mp-00000000")).any
      (fun record => record.status = .trusted) = true ∧
    (namedService " bob").addressBook.get (py "mp-00000000") = none := by
  decide +kernel

/-- Trusting a device as " bob" raises, with the trust kept and no entry written. -/
theorem spaced_name_splits_stores :
    (¬ ∀ (runtime : Runtime) (identity : DeviceIdentity runtime.crypto) (port : Nat)
      (labels : List (Label runtime)) (service : DirectPeerService runtime),
      Run step anyStep (fresh identity port) labels service →
      ∀ deviceId friendlyName now clock, RaisesClean service deviceId friendlyName now clock) ∧
    ¬ ∀ (runtime : Runtime) (identity : DeviceIdentity runtime.crypto) (port : Nat)
      (labels : List (Label runtime)) (service : DirectPeerService runtime),
      Run step anyStep (fresh identity port) labels service →
      Linked service.trustStore service.addressBook := by
  obtain ⟨raises, stored, missing⟩ := spaced_outcome
  obtain ⟨record, found, trusted⟩ := (Option.any_eq_true _ _).mp stored
  constructor
  · intro always
    have run : Run step anyStep sampleService [sampleOffer] offeredService :=
      .single trivial rfl
    have clean := always sampleRuntime (seedDevice 2) 5000 _ offeredService run
      (py "mp-00000000") (some (py " bob")) epoch 0
    rw [namedService, clean.trustStore_eq raises, offeredService, incomingPairing_trustStore] at found
    cases found
  · intro always
    obtain ⟨entry, present, _⟩ := always _ _ _ _ _ (sampleRun anyStep " bob" trivial trivial)
      (py "mp-00000000") record found (by simpa using trusted)
    rw [missing] at present
    cases present

end DirectPeerService

end DirectTransfer
