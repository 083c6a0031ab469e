import DirectTransfer.Core.Revocation

/-! What the user is shown, and what a trust call writes. The call carries the
short device id alone, and the service looks the key up again among the
pairings it keeps at that time. -/

set_option autoImplicit false

namespace DirectTransfer

open Library

namespace DirectPeerService

variable {runtime : Runtime} (service : DirectPeerService runtime)

/-! ## Showing and approving -/

/-- The record a trust call writes to the trust store. -/
def storedRecord (deviceId : PyStr) (friendlyName : Option PyStr) (now : Instant) (clock : Time) :
    Option TrustedDevice :=
  match service.pairing deviceId clock with
  | (_, .error _) => none
  | (looked, .ok (identity, endpoint)) =>
      match looked.trustStore.trust runtime.crypto.toDigests deviceId
        (shownName friendlyName endpoint) identity.publicKey now.time with
      | .error _ => none
      | .ok (_, record) => some record

/-- Two texts of one key. -/
def SameKey (digests : Digests) (left right : PyStr) : Prop :=
  digests.b64decode left = digests.b64decode right

/-- Approving a pairing leaves the trust store with the key it was shown with,
written over no other key. -/
def TrustsShown (shown : PairingIdentity) (friendlyName : Option PyStr) (now : Instant)
    (clock : Time) : Prop :=
  ∀ record, service.storedRecord shown.deviceId friendlyName now clock = some record →
    (service.trust shown.deviceId friendlyName now clock).1.trustStore.get shown.deviceId =
      some record ∧
    record.fingerprint = shown.fingerprint ∧
    ∀ pinned, service.trustStore.get shown.deviceId = some pinned →
      SameKey runtime.crypto.toDigests record.publicKey pinned.publicKey

/-- The pairing the service keeps for a device: the one the user opened, or else
a live one that was offered. -/
inductive Keeps (deviceId : PyStr) (clock : Time) :
    PairingIdentity → Endpoint runtime.platform → Prop where
  | outbound {identity : PairingIdentity} {endpoint : Endpoint runtime.platform} :
      service.outboundPairings.get deviceId = some (identity, endpoint) →
      Keeps deviceId clock identity endpoint
  | offered {identity : PairingIdentity} {deadline : Time} {endpoint : Endpoint runtime.platform} :
      service.outboundPairings.get deviceId = none →
      service.pairingInbox.items.get deviceId = some (identity, deadline) → clock < deadline →
      Endpoint.make runtime.platform identity.peerIp identity.transferPort = .ok endpoint →
      Keeps deviceId clock identity endpoint

/-- The pairing kept for a device is the one shown, and its key the one pinned. -/
def KeepsShown (shown : PairingIdentity) (clock : Time) : Prop :=
  ∀ identity endpoint, service.Keeps shown.deviceId clock identity endpoint →
    identity.fingerprint = shown.fingerprint ∧
    ∀ pinned, service.trustStore.get shown.deviceId = some pinned →
      SameKey runtime.crypto.toDigests identity.publicKey pinned.publicKey

/-- The pairings a call shows its caller. -/
def displayed : Label runtime → List PairingIdentity
  | .pair endpoint dial => match (service.pair endpoint dial).2 with
      | .error _ => []
      | .ok result => [result.identity]
  | .connect endpoint pairDial dial => match (service.connect endpoint pairDial dial).2 with
      | .error _ => []
      | .ok result => [result.identity]
  | _ => []

end DirectPeerService

/-- A service, and every pairing its user has been shown. -/
structure ReviewedService (runtime : Runtime) where
  service : DirectPeerService runtime
  shown : List PairingIdentity

namespace ReviewedService

variable {runtime : Runtime}

open DirectPeerService (Label)

/-- A call of the service, or a look at its pairing inbox. -/
inductive Move (runtime : Runtime) where
  | call (label : Label runtime)
  | list (clock : Time)

def step (reviewed : ReviewedService runtime) : Move runtime → Option (ReviewedService runtime)
  | .call label => (reviewed.service.step label).map fun service =>
      ⟨service, reviewed.service.displayed label ++ reviewed.shown⟩
  | .list clock =>
      let (pairingInbox, identities) := reviewed.service.pairingInbox.all clock
      some ⟨{ reviewed.service with pairingInbox }, identities ++ reviewed.shown⟩

/-- A process started on the files of a service. -/
def start (service : DirectPeerService runtime) : ReviewedService runtime := ⟨service.restart, []⟩

end ReviewedService

/-! ## Kept pairings -/

/-- An identity whose names are those of its key. -/
structure Bound (digests : Digests) (deviceId : PyStr) (identity : PairingIdentity) : Prop where
  named : identity.deviceId = deviceId
  valid : TrustStore.validate digests deviceId identity.publicKey = .ok ()
  fingerprint : fingerprintFromPublicKey digests identity.publicKey = .ok identity.fingerprint

/-- Such an identity can be trusted. -/
theorem Bound.trusted {digests : Digests} {deviceId : PyStr} {identity : PairingIdentity}
    (bound : Bound digests deviceId identity) (store : TrustStore) (name : PyStr) (now : Time) :
    ∃ next record, store.trust digests deviceId name identity.publicKey now = .ok (next, record) ∧
      record.fingerprint = identity.fingerprint ∧ record.publicKey = identity.publicKey := by
  simp [TrustStore.trust, Devices.trust, bound.valid, bound.fingerprint, bind, Except.bind, pure, Except.pure]

theorem validatePairing_valid {crypto : Crypto} {floats : FloatRepr} {value : Json} {role : String}
    {deviceId publicKey : PyStr} {port : Nat}
    (accepted : validatePairing crypto floats value role = .ok (deviceId, publicKey, port)) :
    TrustStore.validate crypto.toDigests deviceId publicKey = .ok () := by
  unfold validatePairing at accepted
  simp only [bind, Except.bind, pure, Except.pure, throw, throwThe, MonadExceptOf.throw] at accepted
  split at accepted
  · cases accepted
  split at accepted
  · split at accepted
    · cases accepted
    next pattern =>
    split at accepted
    · next decoded derived =>
        split at accepted
        · cases accepted
        next same =>
        repeat' split at accepted
        all_goals try cases accepted
        rw [not_not] at same
        subst same
        simp [TrustStore.validate, decoded, derived, pattern, bind, Except.bind, pure,
          Except.pure]
    · cases accepted
  · cases accepted

theorem pairingResult_bound {crypto : Crypto} {floats : FloatRepr} {value : Json} {role : String}
    {hello : PyStr × PyStr × Nat} {peerIp : PyStr} {now : Time} {identity : PairingIdentity}
    (accepted : validatePairing crypto floats value role = .ok hello)
    (made : pairingResult crypto.toDigests hello peerIp now = .ok identity) :
    Bound crypto.toDigests identity.deviceId identity := by
  unfold pairingResult at made
  simp only [bind, Except.bind, pure, Except.pure] at made
  split at made
  · cases made
  next found =>
    cases made
    constructor
    · rfl
    · exact validatePairing_valid accepted
    · exact found

theorem clientPairClosing_bound {crypto : Crypto} {codec : Codec} {hello : Json} {peerIp : PyStr}
    {stream : Bytes} {now : Time} {identity : PairingIdentity}
    (closed : clientPairClosing crypto codec hello peerIp stream now = .ok identity) :
    Bound crypto.toDigests identity.deviceId identity := by
  unfold clientPairClosing at closed
  simp only [bind, Except.bind, throw, throwThe, MonadExceptOf.throw] at closed
  split at closed
  · cases closed
  split at closed
  · cases closed
  next accepted =>
    split at closed
    · cases closed
    · exact pairingResult_bound accepted closed

theorem serverPair_bound {crypto : Crypto} {codec : Codec} {device : DeviceIdentity crypto}
    {peerIp : PyStr} {hello response : Json} {nonce : Bytes} {localPort : Nat} {now : Time}
    {identity : PairingIdentity}
    (paired : serverPair codec device peerIp hello nonce localPort now =
      .ok (response, .ok identity)) : Bound crypto.toDigests identity.deviceId identity := by
  unfold serverPair at paired
  simp only [bind, Except.bind, pure, Except.pure] at paired
  split at paired
  · cases paired
  next accepted =>
    split at paired
    · cases paired
    · obtain ⟨_, made⟩ := Prod.mk.inj (Except.ok.inj paired)
      exact pairingResult_bound accepted made

namespace DirectPeerService

variable {runtime : Runtime} {service : DirectPeerService runtime}

/-- Every pairing a service keeps stands under the id of its key. -/
structure PairingsBound (service : DirectPeerService runtime) : Prop where
  outbound : ∀ deviceId found, service.outboundPairings.get deviceId = some found →
    Bound runtime.crypto.toDigests deviceId found.1
  inbox : ∀ deviceId item, service.pairingInbox.items.get deviceId = some item →
    Bound runtime.crypto.toDigests deviceId item.1

theorem PairingsBound.of_eq (holds : PairingsBound service) {next : DirectPeerService runtime}
    (sameOutbound : next.outboundPairings = service.outboundPairings)
    (sameInbox : next.pairingInbox = service.pairingInbox) : PairingsBound next := by
  constructor
  · rw [sameOutbound]
    exact holds.outbound
  · rw [sameInbox]
    exact holds.inbox

theorem PairingsBound.prune (holds : PairingsBound service) (clock : Time) :
    PairingsBound { service with pairingInbox := service.pairingInbox.pruneExpired clock } := by
  constructor
  · exact holds.outbound
  · intro deviceId item present
    exact holds.inbox deviceId item (pruneExpired_get present)

theorem PairingsBound.remove (holds : PairingsBound service) (deviceId : PyStr) :
    PairingsBound { service with pairingInbox := service.pairingInbox.remove deviceId } := by
  constructor
  · exact holds.outbound
  · intro other item present
    change (service.pairingInbox.items.erase deviceId).get other = some item at present
    rw [Dict.get_erase] at present
    split at present
    · cases present
    · exact holds.inbox other item present

theorem exchange_bound {target : Endpoint runtime.platform} {dial : PairDial}
    {resolved : SocketAddress} {remote : PairingIdentity}
    (done : service.exchange target dial = .ok (resolved, remote)) :
    Bound runtime.crypto.toDigests remote.deviceId remote := by
  unfold exchange at done
  split at done
  · cases done
  split at done
  · cases done
  split at done
  · cases done
  next closed =>
    cases done
    exact clientPairClosing_bound closed

theorem PairingsBound.pair (holds : PairingsBound service)
    (endpoint : EndpointArgument runtime.platform) (dial : PairDial) :
    PairingsBound (service.pair endpoint dial).1 := by
  cases pair_cases service endpoint dial with
  | inl raised =>
      obtain ⟨error, same⟩ := raised
      rw [same]
      exact holds
  | inr paired =>
      obtain ⟨target, resolved, remote, exchanged, changed⟩ := paired
      rw [changed]
      constructor
      · intro deviceId found present
        rw [Dict.get_set] at present
        split at present
        · next same =>
            cases present
            rw [same]
            exact exchange_bound exchanged
        · exact holds.outbound deviceId found present
      · exact holds.inbox

theorem PairingsBound.connect (holds : PairingsBound service)
    (endpoint : EndpointArgument runtime.platform) (pairDial : PairDial) (dial : HandshakeDial) :
    PairingsBound (service.connect endpoint pairDial dial).1 := by
  have paired := holds.pair endpoint pairDial
  cases connect_cases service endpoint pairDial dial with
  | inl same =>
      rw [same]
      exact paired
  | inr changed =>
      obtain ⟨book, changed, _⟩ := changed
      rw [changed]
      exact paired.of_eq rfl rfl

theorem PairingsBound.sendFiles (holds : PairingsBound service)
    (target : EndpointArgument runtime.platform) (pairDial : PairDial) (dial : HandshakeDial) :
    PairingsBound (service.sendFiles target pairDial dial).1 :=
  sendFiles_preserves (fun _ endpoint holds => holds.connect endpoint pairDial dial)
    (fun _ _ holds => holds.of_eq rfl rfl) holds target

theorem PairingsBound.pairing (holds : PairingsBound service) (deviceId : PyStr) (clock : Time) :
    PairingsBound (service.pairing deviceId clock).1 := by
  cases pairing_cases service deviceId clock with
  | inl same =>
      rw [same]
      exact holds
  | inr same =>
      rw [same]
      exact holds.prune clock

theorem PairingsBound.trust (holds : PairingsBound service) (deviceId : PyStr)
    (friendlyName : Option PyStr) (now : Instant) (clock : Time) :
    PairingsBound (service.trust deviceId friendlyName now clock).1 := by
  have looked := holds.pairing deviceId clock
  unfold DirectPeerService.trust
  revert looked
  obtain ⟨next, outcome⟩ := service.pairing deviceId clock
  intro looked
  cases outcome with
  | error error => exact looked
  | ok found =>
      simp only
      split
      · exact looked
      · split
        · exact looked.of_eq rfl rfl
        · exact (looked.remove deviceId).of_eq rfl rfl

theorem PairingsBound.incomingPairing (holds : PairingsBound service) (peer : SocketAddress)
    (hello : Json) (nonce : Bytes) (now clock : Time) :
    PairingsBound (service.incomingPairing peer hello nonce now clock) := by
  unfold DirectPeerService.incomingPairing
  split
  · next response identity paired =>
      constructor
      · exact holds.outbound
      · intro deviceId item present
        simp only [PairingInbox.publish] at present
        split at present
        · exact holds.inbox deviceId item (pruneExpired_get present)
        · rw [Dict.get_set] at present
          split at present
          · next same =>
              cases present
              rw [same]
              exact serverPair_bound paired
          · exact holds.inbox deviceId item (pruneExpired_get present)
  · exact holds

theorem PairingsBound.step (holds : PairingsBound service) {label : Label runtime}
    {next : DirectPeerService runtime} (stepped : service.step label = some next) :
    PairingsBound next := by
  cases label with
  | pair endpoint dial =>
      cases stepped
      exact holds.pair endpoint dial
  | connect endpoint pairDial dial =>
      cases stepped
      exact holds.connect endpoint pairDial dial
  | trust deviceId friendlyName now clock =>
      cases stepped
      exact holds.trust deviceId friendlyName now clock
  | forgetDevice deviceId =>
      cases stepped
      exact holds.of_eq rfl rfl
  | dismissPairing deviceId =>
      cases stepped
      exact holds.remove deviceId
  | incomingPairing peer hello nonce now clock =>
      cases stepped
      exact holds.incomingPairing peer hello nonce now clock
  | sendFiles target pairDial dial =>
      cases stepped
      exact holds.sendFiles target pairDial dial
  | restart =>
      cases stepped
      constructor
      · intro deviceId found present
        cases present
      · intro deviceId item present
        cases present

/-! ## Approving -/

/-- The pairing a trust call finds is the one kept. -/
theorem pairing_keeps {deviceId : PyStr} {clock : Time} {identity : PairingIdentity}
    {endpoint : Endpoint runtime.platform} :
    (service.pairing deviceId clock).2 = .ok (identity, endpoint) ↔
      service.Keeps deviceId clock identity endpoint := by
  constructor
  · intro found
    unfold pairing at found
    cases known : service.outboundPairings.get deviceId with
    | some pair =>
        simp only [known, Except.ok.injEq] at found
        subst found
        exact .outbound known
    | none =>
        simp only [known, PairingInbox.get, PairingInbox.pruneExpired, Dict.get_filter] at found
        cases item : service.pairingInbox.items.get deviceId with
        | none => simp [item] at found
        | some offer =>
            obtain ⟨offered, deadline⟩ := offer
            by_cases live : clock < deadline
            · simp only [item, Option.filter, live, decide_true, ↓reduceIte, Option.map_some, bind,
                Except.bind, pure, Except.pure] at found
              split at found
              · cases found
              next made =>
                cases found
                exact .offered known item live made
            · simp [item, Option.filter, live] at found
  · intro kept
    cases kept with
    | outbound known => simp only [pairing, known]
    | offered unopened item live made =>
        simp [pairing, unopened, PairingInbox.get, PairingInbox.pruneExpired, Dict.get_filter, item,
          Option.filter, live, made, bind, Except.bind, pure, Except.pure]

theorem storedRecord_of_keeps (holds : PairingsBound service) {deviceId : PyStr} {clock : Time}
    {identity : PairingIdentity} {endpoint : Endpoint runtime.platform}
    (kept : service.Keeps deviceId clock identity endpoint) (friendlyName : Option PyStr)
    (now : Instant) :
    ∃ record, service.storedRecord deviceId friendlyName now clock = some record ∧
      record.fingerprint = identity.fingerprint ∧ record.publicKey = identity.publicKey := by
  have bound : Bound runtime.crypto.toDigests deviceId identity := by
    cases kept with
    | outbound known => exact holds.outbound deviceId _ known
    | offered _ item _ _ => exact holds.inbox deviceId _ item
  have found := pairing_keeps.mpr kept
  unfold storedRecord
  revert found
  obtain ⟨looked, outcome⟩ := service.pairing deviceId clock
  intro found
  simp only at found
  subst found
  obtain ⟨next, record, trusted, sameFingerprint, sameKey⟩ :=
    bound.trusted looked.trustStore (shownName friendlyName endpoint) now.time
  exact ⟨record, by simp only [trusted], sameFingerprint, sameKey⟩

theorem keeps_of_storedRecord {deviceId : PyStr} {friendlyName : Option PyStr} {now : Instant}
    {clock : Time} {record : TrustedDevice}
    (stored : service.storedRecord deviceId friendlyName now clock = some record) :
    ∃ identity endpoint, service.Keeps deviceId clock identity endpoint := by
  cases found : (service.pairing deviceId clock).2 with
  | ok pair => exact ⟨pair.1, pair.2, pairing_keeps.mp found⟩
  | error error =>
      unfold storedRecord at stored
      revert found stored
      obtain ⟨looked, outcome⟩ := service.pairing deviceId clock
      intro stored found
      cases found
      cases stored

/-- What a trust call writes is what the trust store holds after it. -/
theorem storedRecord_stored {deviceId : PyStr} {friendlyName : Option PyStr} {now : Instant}
    {clock : Time} {record : TrustedDevice}
    (stored : service.storedRecord deviceId friendlyName now clock = some record) :
    (service.trust deviceId friendlyName now clock).1.trustStore.get deviceId = some record := by
  unfold storedRecord at stored
  unfold DirectPeerService.trust
  revert stored
  obtain ⟨looked, outcome⟩ := service.pairing deviceId clock
  intro stored
  cases outcome with
  | error error => cases stored
  | ok found =>
      simp only at stored
      split at stored
      · cases stored
      next next written trusted =>
        cases stored
        obtain ⟨_, _, devices, _⟩ := TrustStore.trust_ok trusted
        have present : next.get deviceId = some record := by
          rw [TrustStore.get, devices, Dict.get_set, if_pos rfl]
        simp only [trusted]
        split <;> exact present

theorem trustsShown_iff (holds : PairingsBound service) (shown : PairingIdentity)
    (friendlyName : Option PyStr) (now : Instant) (clock : Time) :
    service.TrustsShown shown friendlyName now clock ↔ service.KeepsShown shown clock := by
  constructor
  · intro trusts identity endpoint kept
    obtain ⟨record, stored, sameFingerprint, sameKey⟩ :=
      storedRecord_of_keeps holds kept friendlyName now
    rw [← sameFingerprint, ← sameKey]
    exact (trusts record stored).2
  · intro keeps record stored
    obtain ⟨identity, endpoint, kept⟩ := keeps_of_storedRecord stored
    obtain ⟨again, storedAgain, sameFingerprint, sameKey⟩ :=
      storedRecord_of_keeps holds kept friendlyName now
    cases stored.symm.trans storedAgain
    constructor
    · exact storedRecord_stored stored
    · rw [sameFingerprint, sameKey]
      exact keeps identity endpoint kept

end DirectPeerService

namespace ReviewedService

variable {runtime : Runtime}

theorem step_bound {reviewed next : ReviewedService runtime} {move : Move runtime}
    (holds : reviewed.service.PairingsBound) (stepped : reviewed.step move = some next) :
    next.service.PairingsBound := by
  cases move with
  | call label =>
      simp only [step, Option.map_eq_some_iff] at stepped
      obtain ⟨service, called, rfl⟩ := stepped
      exact holds.step called
  | list clock =>
      cases stepped
      exact holds.prune clock

/-- Approving a pairing that was shown trusts its key exactly when the pairing
the service keeps by then is that one. -/
theorem approval_trusts_shown_iff {service : DirectPeerService runtime} {moves : List (Move runtime)}
    {reviewed : ReviewedService runtime} (run : Run step anyStep (start service) moves reviewed)
    {shown : PairingIdentity} (_ : shown ∈ reviewed.shown) (friendlyName : Option PyStr)
    (now : Instant) (clock : Time) :
    reviewed.service.TrustsShown shown friendlyName now clock ↔
      reviewed.service.KeepsShown shown clock := by
  have started : (start service).service.PairingsBound := by
    constructor
    · intro deviceId found present
      cases present
    · intro deviceId item present
      cases present
  have holds := run.invariant (fun _ _ _ holds _ stepped => step_bound holds stepped) started
  exact DirectPeerService.trustsShown_iff holds shown friendlyName now clock

/-! ## Runs -/

theorem mem_all {inbox : PairingInbox} {clock deadline : Time} {deviceId : PyStr}
    {identity : PairingIdentity} (item : inbox.items.get deviceId = some (identity, deadline))
    (live : clock < deadline) : identity ∈ (inbox.all clock).2 := by
  have kept : (inbox.pruneExpired clock).items.get deviceId = some (identity, deadline) := by
    simp [PairingInbox.pruneExpired, Dict.get_filter, item, Option.filter, live]
  rw [PairingInbox.all, List.mem_mergeSort]
  exact List.mem_map.mpr ⟨_, findEntry_mem kept, rfl⟩

/-- A service whose user looks at the pairing inbox. -/
def listed (service : DirectPeerService runtime) (clock : Time) : DirectPeerService runtime :=
  { service with pairingInbox := (service.pairingInbox.all clock).1 }

theorem listed_run {service next : DirectPeerService runtime}
    {label : DirectPeerService.Label runtime}
    (called : service.restart.step label = some next) (clock : Time) :
    Run step anyStep (start service) [.call label, .list clock]
      ⟨listed next clock, (next.pairingInbox.all clock).2 ++
        (service.restart.displayed label ++ [])⟩ := by
  have first : step (start service) (.call label) =
      some ⟨next, service.restart.displayed label ++ []⟩ := by
    rw [step, start, called]
    rfl
  exact .cons trivial first (.single trivial rfl)

/-- A call after the user has looked. -/
theorem called_after_listed {service next last : DirectPeerService runtime}
    {label again : DirectPeerService.Label runtime} {clock : Time} {identity : PairingIdentity}
    (called : service.restart.step label = some next)
    (calledAgain : (listed next clock).step again = some last)
    (seen : identity ∈ (next.pairingInbox.all clock).2) :
    ∃ moves reviewed, Run step anyStep (start service) moves reviewed ∧
      identity ∈ reviewed.shown ∧ reviewed.service = last := by
  have stepped : step ⟨listed next clock, (next.pairingInbox.all clock).2 ++
      (service.restart.displayed label ++ [])⟩ (.call again) =
      some ⟨last, (listed next clock).displayed again ++ ((next.pairingInbox.all clock).2 ++
        (service.restart.displayed label ++ []))⟩ := by
    rw [step, calledAgain]
    rfl
  refine ⟨_, _, (listed_run called clock).trans (.single trivial stepped), ?_, rfl⟩
  exact List.mem_append_right _ (List.mem_append_left _ seen)

/-- An offer of an unknown device is kept as it was shown. -/
theorem listed_keeps {service : DirectPeerService runtime} {identity : PairingIdentity}
    {clock deadline : Time} (unopened : service.outboundPairings = Dict.empty)
    (unpinned : service.trustStore = .empty)
    (item : service.pairingInbox.items.get identity.deviceId = some (identity, deadline)) :
    (listed service clock).KeepsShown identity clock := by
  intro other endpoint kept
  cases kept with
  | outbound known =>
      change service.outboundPairings.get identity.deviceId = _ at known
      rw [unopened] at known
      cases known
  | offered _ found _ _ =>
      cases (DirectPeerService.pruneExpired_get found).symm.trans item
      constructor
      · rfl
      · intro pinned found
        change service.trustStore.get identity.deviceId = _ at found
        rw [unpinned] at found
        cases found

open DirectPeerService (sampleRuntime sampleService samplePeer sampleOffer offeredService epoch)

def offeredIdentity : PairingIdentity :=
  ⟨py "mp-00000000", b64encode (seedOctets 1), py "0000 0000 0000 0000", py "192.0.2.1", 0, 5000⟩

theorem offered_kept : ∃ deadline, 0 < deadline ∧
    offeredService.pairingInbox.items.get (py "mp-00000000") =
      some (offeredIdentity, deadline) := by
  have kept : (offeredService.pairingInbox.items.get (py "mp-00000000")).any
      (fun item => item.1 = offeredIdentity ∧ 0 < item.2) = true := by
    decide +kernel
  obtain ⟨item, found, same⟩ := (Option.any_eq_true _ _).mp kept
  obtain ⟨same, live⟩ := of_decide_eq_true same
  refine ⟨item.2, live, ?_⟩
  rw [← same]
  exact found

theorem offered_called : sampleService.restart.step sampleOffer = some offeredService := rfl

theorem offered_shown : offeredIdentity ∈ (offeredService.pairingInbox.all 0).2 := by
  obtain ⟨deadline, live, item⟩ := offered_kept
  exact mem_all item live

/-- A device that is approved as it was shown. -/
theorem shown_offer_trusted : ∃ moves reviewed, Run step anyStep (start sampleService) moves reviewed ∧
    reviewed.service.TrustsShown offeredIdentity none epoch 0 := by
  obtain ⟨deadline, _, item⟩ := offered_kept
  have run := listed_run offered_called 0
  have unopened : offeredService.outboundPairings = Dict.empty := by
    rw [offeredService, DirectPeerService.incomingPairing_outboundPairings]
    rfl
  have unpinned : offeredService.trustStore = .empty := by
    rw [offeredService, DirectPeerService.incomingPairing_trustStore]
    rfl
  exact ⟨_, _, run, (approval_trusts_shown_iff run (List.mem_append_left _ offered_shown) none epoch 0).mpr
    (listed_keeps unopened unpinned item)⟩

/-- The first four octets of its key are those of the other samples. -/
def crowdedDevice : DeviceIdentity plainCrypto where
  privateKey := [0, 0, 0, 0, 1] ++ List.replicate 27 0
  publicKey := b64encode ([0, 0, 0, 0, 1] ++ List.replicate 27 0)
  deviceId := py "mp-00000000"
  encoded := rfl
  derived := by
    rw [deviceIdFromPublicKey, plainCrypto.b64decode_b64encode]
    rfl

def crowdedHello : Json :=
  pairingHello quotientFloats "client" crowdedDevice (seedOctets 13) 5000 none

def crowdedOffer : DirectPeerService.Label sampleRuntime :=
  .incomingPairing samplePeer crowdedHello (seedOctets 23) 0 0

noncomputable def crowdedService : DirectPeerService sampleRuntime :=
  (listed offeredService 0).incomingPairing samplePeer crowdedHello (seedOctets 23) 0 0

theorem crowded_stored : (crowdedService.storedRecord (py "mp-00000000") none epoch 0).any
    (fun record => record.fingerprint = py "0000 0000 0100 0000") = true := by
  decide +kernel

/-- A second device with the same id is offered after the first has been shown. -/
theorem other_key_trusted : ¬ ∀ (runtime : Runtime) (service : DirectPeerService runtime)
    (moves : List (Move runtime)) (reviewed : ReviewedService runtime),
    Run step anyStep (start service) moves reviewed → ∀ shown ∈ reviewed.shown,
    ∀ friendlyName now clock, reviewed.service.TrustsShown shown friendlyName now clock := by
  intro always
  have called : (listed offeredService 0).step crowdedOffer = some crowdedService := rfl
  obtain ⟨moves, reviewed, run, shown, same⟩ :=
    called_after_listed offered_called called offered_shown
  have trusts := always _ _ _ _ run offeredIdentity shown none epoch 0
  rw [same] at trusts
  obtain ⟨record, stored, other⟩ := (Option.any_eq_true _ _).mp crowded_stored
  have fingerprint : record.fingerprint = py "0000 0000 0000 0000" := (trusts record stored).2.1
  rw [of_decide_eq_true other] at fingerprint
  revert fingerprint
  decide

end ReviewedService

end DirectTransfer
