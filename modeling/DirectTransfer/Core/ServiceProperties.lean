import DirectTransfer.Core.HandshakeAgreement
import DirectTransfer.Core.Service
import DirectTransfer.Core.TrustRecords

/-! Trust and address book change together as long as every name that is trusted
is one the address book accepts: the trust store truncates a name and keeps it,
the address book rejects it after the trust store has been written. -/

set_option autoImplicit false

namespace DirectTransfer

open Library

/-! ## Stored records -/

namespace TrustStore

variable {digests : Digests} {platform : Platform}

/-- What trusting a device writes. -/
theorem trust_ok {store next : TrustStore} {deviceId hostname publicKey : PyStr} {now : Time}
    {record : TrustedDevice}
    (trusted : trust digests store deviceId hostname publicKey now = .ok (next, record)) :
    validate digests deviceId publicKey = .ok () ∧
    fingerprintFromPublicKey digests publicKey = .ok record.fingerprint ∧
    next.devices = store.devices.set deviceId record ∧ next.file = next.devices ∧
    record.deviceId = deviceId ∧ record.publicKey = publicKey ∧ record.hostname = hostname.take 255 ∧
    record.status = .trusted ∧ record.lastSeenAt = .finite now ∧
    (record.firstTrustedAt = .finite now ∨ ∃ existing,
      store.devices.get deviceId = some existing ∧
        record.firstTrustedAt = existing.firstTrustedAt) := by
  unfold trust at trusted
  cases Devices.trust_cases store.devices deviceId hostname publicKey none now with
  | inl raises =>
      obtain ⟨error, raises⟩ := raises
      rw [raises] at trusted
      cases trusted
  | inr writes =>
      obtain ⟨written, valid, derived, fields, writes⟩ := writes
      rw [writes] at trusted
      cases trusted
      refine ⟨valid, derived, rfl, rfl, ?_⟩
      rw [fields]
      refine ⟨rfl, rfl, rfl, rfl, rfl, ?_⟩
      cases known : store.devices.get deviceId with
      | none => exact .inl rfl
      | some existing => exact .inr ⟨existing, rfl, rfl⟩

theorem load_get {store : TrustStore} (deviceId : PyStr)
    (stored : ∀ deviceId record, store.get deviceId = some record →
      Devices.Kept digests platform deviceId record)
    (written : ∀ deviceId, store.file.get deviceId = store.get deviceId) :
    (store.load digests platform).get deviceId = store.get deviceId := by
  rw [get, load, Devices.load_get, written]
  cases found : store.get deviceId with
  | none => rfl
  | some record =>
      obtain ⟨keyed, valid, stable⟩ := stored deviceId record found
      simp [stable, keyed, valid, Except.isOk, Except.toBool, Option.filter]

theorem isFriendlyName_cases {name : PyStr} (friendly : isFriendlyName platform name = true) :
    name ≠ [] ∧ name.length ≤ 80 ∧ name.all platform.isPrintable = true := by
  simp only [isFriendlyName, Bool.and_eq_true, decide_eq_true_eq] at friendly
  exact ⟨friendly.1.1.1, friendly.1.2, friendly.2⟩

/-- Trust under a name the address book accepts is written to last. -/
theorem trust_stored {store next : TrustStore} {deviceId name publicKey : PyStr} {now : Instant}
    {record : TrustedDevice}
    (trusted : trust digests store deviceId name publicKey now.time = .ok (next, record))
    (friendly : isFriendlyName platform name = true)
    (stored : ∀ deviceId record, store.get deviceId = some record →
      Devices.Kept digests platform deviceId record) :
    Devices.Kept digests platform deviceId record := by
  obtain ⟨valid, fingerprint, _, _, keyed, key, host, status, seen, first⟩ := trust_ok trusted
  obtain ⟨nonempty, short, printable⟩ := isFriendlyName_cases friendly
  have whole : record.hostname = name := by rw [host, List.take_of_length_le (by omega)]
  have since : record.firstTrustedAt.isStorable = true := by
    cases first with
    | inl same => rw [same]; exact decide_eq_true now.afterEpoch
    | inr kept =>
        obtain ⟨existing, found, same⟩ := kept
        have fields := (Devices.validateRecord_iff existing).mp (stored deviceId existing found).valid
        rw [same]
        exact fields.2.2.2.2.1
  apply (Devices.kept_iff keyed (key ▸ valid) (key ▸ fingerprint) (.inl status) since).mpr
  constructor
  · rw [whole]
    simp [isHostname, nonempty, printable, show name.length ≤ 255 by omega]
  · rw [seen]
    exact decide_eq_true now.afterEpoch

end TrustStore

namespace AddressBook

variable {digests : Digests} {platform : Platform}

/-- An entry that survives being written and read back. -/
structure Stored (digests : Digests) (platform : Platform) (deviceId : PyStr)
    (entry : AddressBookEntry) : Prop where
  keyed : entry.deviceId = deviceId
  valid : validateEntry digests platform entry = .ok ()
  stable : reread entry = entry

theorem load_get {book : AddressBook} (deviceId : PyStr)
    (stored : ∀ deviceId entry, book.get deviceId = some entry →
      Stored digests platform deviceId entry)
    (written : ∀ deviceId, book.file.get deviceId = book.get deviceId) :
    (book.load digests platform).get deviceId = book.get deviceId := by
  rw [get, load, Dict.get_filter, Dict.get_map, written]
  cases found : book.get deviceId with
  | none => rfl
  | some entry =>
      obtain ⟨keyed, valid, stable⟩ := stored deviceId entry found
      simp [stable, keyed, valid, Except.isOk, Except.toBool, Option.filter]

/-- The checks of an entry, one by one. -/
theorem validateEntry_iff (entry : AddressBookEntry) :
    validateEntry digests platform entry = .ok () ↔
      validIdentity digests entry = true ∧ (∃ endpoint, entry.endpoint platform = .ok endpoint) ∧
      isFriendlyName platform entry.friendlyName = true ∧
      (∀ ip, entry.lastResolvedIp = some ip → (ipVersion ip).isSome = true) ∧
      (∀ timestamp, entry.lastSuccessfulConnection = some timestamp → 0 ≤ timestamp) ∧
      ∀ error, entry.lastConnectionError = some error →
        error.length ≤ 512 ∧ error.all platform.isPrintable = true := by
  unfold validateEntry
  simp only [bind, Except.bind, pure, Except.pure, throw, throwThe, MonadExceptOf.throw]
  constructor
  · intro valid
    split at valid
    · cases valid
    next identity =>
    split at valid
    · cases valid
    next endpoint made =>
    split at valid
    · cases valid
    next name =>
    split at valid
    · cases valid
    next address =>
    split at valid
    · cases valid
    next timestamp =>
    split at valid
    · cases valid
    next message =>
    refine ⟨by simpa using identity, ⟨endpoint, made⟩, by simpa using name, ?_, ?_, ?_⟩
    · intro ip stored
      simpa [stored, Option.isSome_iff_ne_none] using address
    · intro time stored
      simpa [stored] using timestamp
    · intro error stored
      simpa [stored] using message
  · rintro ⟨identity, ⟨endpoint, made⟩, name, address, timestamp, message⟩
    rw [if_neg (by simp [identity]), made]
    simp only
    rw [if_neg (by simp [name]), if_neg, if_neg, if_neg]
    · intro bad
      obtain ⟨error, stored, long⟩ := (Option.any_eq_true _ _).mp bad
      have fine := message error stored
      simp [fine.2, Nat.not_lt.mpr fine.1] at long
    · intro bad
      obtain ⟨time, stored, early⟩ := (Option.any_eq_true _ _).mp bad
      exact absurd (timestamp time stored) (by simpa using early)
    · intro bad
      obtain ⟨ip, stored, unknown⟩ := (Option.any_eq_true _ _).mp bad
      have known := address ip stored
      simp [Option.isNone_iff_eq_none.mp unknown] at known

theorem put_ok {book next : AddressBook} {entry : AddressBookEntry}
    (done : put digests platform book entry = .ok next) :
    validateEntry digests platform entry = .ok () ∧
      next = { book with entries := book.entries.set entry.deviceId entry }.save := by
  unfold put at done
  simp only [bind, Except.bind, pure, Except.pure] at done
  split at done
  · cases done
  next valid =>
  cases done
  exact ⟨valid, rfl⟩

/-- A connection that was made keeps the entry fit to be read back. -/
theorem Stored.succeed {deviceId : PyStr} {entry : AddressBookEntry}
    (stored : Stored digests platform deviceId entry) (endpoint : Endpoint platform)
    (hostFree : PairFree endpoint.host) (address : SocketAddress) (now : Instant) :
    Stored digests platform deviceId { entry with
      lastHostname := endpoint.host
      transferPort := endpoint.port
      lastResolvedIp := some address.ip
      lastSuccessfulConnection := some now.time
      lastConnectionError := none } := by
  obtain ⟨keyed, valid, stable⟩ := stored
  obtain ⟨identity, _, name, _, _, _⟩ := (validateEntry_iff entry).mp valid
  refine ⟨keyed, (validateEntry_iff _).mpr ⟨identity, ⟨endpoint, endpoint.make_self⟩, name, ?_, ?_, ?_⟩,
    ?_⟩
  · rintro ip ⟨⟩; exact address.numeric
  · rintro time ⟨⟩; exact now.afterEpoch
  · rintro error ⟨⟩
  · have nameStable := congrArg AddressBookEntry.friendlyName stable
    simp only [reread] at nameStable
    simp [reread, nameStable, joinPairs_of_pairFree hostFree, joinPairs_of_pairFree address.pairFree]

theorem Stored.fail {deviceId message : PyStr} {entry : AddressBookEntry}
    (stored : Stored digests platform deviceId entry) (plain : Plain message) :
    Stored digests platform deviceId { entry with
      lastConnectionError := some (message.take 512) } := by
  obtain ⟨keyed, valid, stable⟩ := stored
  obtain ⟨identity, endpoint, name, address, timestamp, _⟩ := (validateEntry_iff entry).mp valid
  refine ⟨keyed, (validateEntry_iff _).mpr ⟨identity, endpoint, name, address, timestamp, ?_⟩, ?_⟩
  · rintro error ⟨⟩
    refine ⟨by simp, List.all_eq_true.mpr fun point member => ?_⟩
    have bounds := plain.take 512 point member
    exact platform.printable_of_ascii point bounds.1 bounds.2
  · have fields := stable
    simp only [reread] at fields
    have rewritten := joinPairs_of_pairFree (plain.take 512).pairFree
    cases entry
    simp_all [reread]

end AddressBook

/-! ## Messages of connection failures -/

theorem failure_plain (failure : DialFailure) : Plain failure.message := by
  cases failure <;> exact forall_of_all (by decide)

theorem friendlyError_plain (error : Raised) : Plain (friendlyError error) := by
  unfold friendlyError
  repeat' split
  all_goals exact forall_of_all (by decide)

theorem NetworkError.message_plain (error : NetworkError) : Plain error.message := by
  cases error with
  | dial failure => exact failure_plain failure
  | raised error => exact friendlyError_plain error

/-! ## The service -/

namespace DirectPeerService

variable {runtime : Runtime}

/-- Every trusted device has an entry under the same key. -/
def Linked (store : TrustStore) (book : AddressBook) : Prop :=
  ∀ deviceId record, store.get deviceId = some record → record.status = .trusted →
    ∃ entry, book.get deviceId = some entry ∧ entry.publicKey = record.publicKey

/-- An identity whose address the socket reported. -/
def Offered (identity : PairingIdentity) : Prop :=
  (ipVersion identity.peerIp).isSome = true ∧ PairFree identity.peerIp

/-- The trust store and its file agree on records that can be read back. -/
structure TrustKept (runtime : Runtime) (store : TrustStore) : Prop where
  stored : ∀ deviceId record, store.get deviceId = some record →
    Devices.Kept runtime.crypto.toDigests runtime.platform deviceId record
  written : ∀ deviceId, store.file.get deviceId = store.get deviceId

structure BookKept (runtime : Runtime) (book : AddressBook) : Prop where
  stored : ∀ deviceId entry, book.get deviceId = some entry →
    AddressBook.Stored runtime.crypto.toDigests runtime.platform deviceId entry
  written : ∀ deviceId, book.file.get deviceId = book.get deviceId

structure Consistent (service : DirectPeerService runtime) : Prop where
  trustKept : TrustKept runtime service.trustStore
  bookKept : BookKept runtime service.addressBook
  linked : Linked service.trustStore service.addressBook
  outbound : ∀ deviceId found, service.outboundPairings.get deviceId = some found →
    Offered found.1 ∧ PairFree found.2.host
  inbox : ∀ deviceId item, service.pairingInbox.items.get deviceId = some item → Offered item.1

/-- Writing an entry over one with the same key. -/
theorem Consistent.rewrite {service : DirectPeerService runtime} (holds : Consistent service)
    {deviceId : PyStr} {old new : AddressBookEntry}
    (found : service.addressBook.get deviceId = some old) (sameKey : new.publicKey = old.publicKey)
    (stored : AddressBook.Stored runtime.crypto.toDigests runtime.platform deviceId new) :
    Consistent { service with addressBook := { service.addressBook with
      entries := service.addressBook.entries.set deviceId new }.save } := by
  refine ⟨holds.trustKept, ⟨fun other entry present => ?_, fun _ => Dict.get_sorted _ _⟩,
    fun other record known trusted => ?_, holds.outbound, holds.inbox⟩
  · change (service.addressBook.entries.set deviceId new).get other = some entry at present
    rw [Dict.get_set] at present
    split at present
    · next same => cases present; exact same ▸ stored
    · exact holds.bookKept.stored other entry present
  · obtain ⟨entry, present, key⟩ := holds.linked other record known trusted
    change ∃ entry, (service.addressBook.entries.set deviceId new).get other = some entry ∧ _
    rw [Dict.get_set]
    by_cases here : other = deviceId
    · subst here
      rw [if_pos rfl]
      rw [found] at present
      cases present
      exact ⟨new, rfl, sameKey.trans key⟩
    · rw [if_neg here]
      exact ⟨entry, present, key⟩

theorem Consistent.recordError {service : DirectPeerService runtime} (holds : Consistent service)
    (deviceId : PyStr) {message : PyStr} (plain : Plain message) :
    Consistent { service with addressBook := service.addressBook.recordError deviceId message } := by
  unfold AddressBook.recordError
  cases found : service.addressBook.entries.get deviceId with
  | none => exact holds
  | some current =>
      exact holds.rewrite found rfl ((holds.bookKept.stored deviceId current found).fail plain)

theorem Consistent.recordSuccess {service : DirectPeerService runtime} (holds : Consistent service)
    {deviceId : PyStr} {endpoint : Endpoint runtime.platform} (hostFree : PairFree endpoint.host)
    {address : SocketAddress} {now : Instant} {book : AddressBook}
    (recorded : service.addressBook.recordSuccess deviceId endpoint address.ip now.time = .ok book) :
    Consistent { service with addressBook := book } := by
  unfold AddressBook.recordSuccess at recorded
  cases found : service.addressBook.entries.get deviceId with
  | none => rw [found] at recorded; cases recorded
  | some current =>
      rw [found] at recorded
      cases recorded
      exact holds.rewrite found rfl
        ((holds.bookKept.stored deviceId current found).succeed endpoint hostFree address now)

/-! ## Pairing and connecting -/

theorem openConnection_ok {endpoint : Endpoint runtime.platform}
    {dialled : Except DialFailure SocketAddress} {resolved : SocketAddress}
    (opened : openConnection endpoint dialled = .ok resolved) : PairFree endpoint.host := by
  unfold openConnection at opened
  split at opened
  · cases opened
  · next encodable =>
      exact pairFree_of_utf8Length (by simpa [Option.isSome_iff_ne_none] using encodable)

theorem pairingResult_peerIp {digests : Digests} {hello : PyStr × PyStr × Nat} {peerIp : PyStr}
    {now : Time} {identity : PairingIdentity}
    (made : pairingResult digests hello peerIp now = .ok identity) : identity.peerIp = peerIp := by
  unfold pairingResult at made
  simp only [bind, Except.bind, pure, Except.pure] at made
  split at made <;> cases made
  rfl

theorem exchange_ok {service : DirectPeerService runtime} {target : Endpoint runtime.platform}
    {dial : PairDial} {resolved : SocketAddress} {remote : PairingIdentity}
    (done : service.exchange target dial = .ok (resolved, remote)) :
    remote.peerIp = resolved.ip ∧ PairFree target.host := by
  unfold exchange at done
  split at done
  · cases done
  next address opened =>
  split at done
  · cases done
  split at done
  · cases done
  next identity closed =>
  cases done
  refine ⟨?_, openConnection_ok opened⟩
  unfold clientPairClosing at closed
  simp only [bind, Except.bind, throw, throwThe, MonadExceptOf.throw] at closed
  split at closed
  · cases closed
  split at closed
  · cases closed
  split at closed
  · cases closed
  exact pairingResult_peerIp closed

/-- What pairing changes: nothing, or what is remembered of one peer. -/
theorem pair_cases (service : DirectPeerService runtime)
    (endpoint : EndpointArgument runtime.platform) (dial : PairDial) :
    (∃ error, service.pair endpoint dial = (service, .error error)) ∨
    ∃ target resolved remote, service.exchange target dial = .ok (resolved, remote) ∧
      service.pair endpoint dial = ({ service with
        outboundPairings := service.outboundPairings.set remote.deviceId (remote, target)
        resolved := service.resolved.set resolved.ip ⟨remote.deviceId, remote.publicKey,
          service.trustStore.assess remote.deviceId remote.publicKey, target.host⟩ },
        .ok ⟨target, resolved, remote, service.pairState target remote⟩) := by
  unfold pair
  cases endpoint.parse with
  | error error => exact .inl ⟨error, rfl⟩
  | ok target =>
      cases exchanged : service.exchange target dial with
      | error error => exact .inl ⟨error.friendly, by simp only [exchanged]⟩
      | ok found => exact .inr ⟨target, found.1, found.2, exchanged, by simp only [exchanged]⟩

theorem Consistent.pair {service : DirectPeerService runtime} (holds : Consistent service)
    (endpoint : EndpointArgument runtime.platform) (dial : PairDial) :
    Consistent (service.pair endpoint dial).1 := by
  rcases pair_cases service endpoint dial with ⟨error, same⟩ |
    ⟨target, resolved, remote, exchanged, changed⟩
  · rw [same]; exact holds
  · rw [changed]
    refine ⟨holds.trustKept, holds.bookKept, holds.linked, fun deviceId found present => ?_,
      holds.inbox⟩
    rw [Dict.get_set] at present
    split at present
    · cases present
      obtain ⟨sameIp, hostFree⟩ := exchange_ok exchanged
      exact ⟨⟨sameIp ▸ resolved.numeric, sameIp ▸ resolved.pairFree⟩, hostFree⟩
    · exact holds.outbound deviceId found present

/-- Of the devices that pair, the trusted ones are authenticated against their records. -/
theorem contact_cases (service : DirectPeerService runtime)
    (endpoint : EndpointArgument runtime.platform) (pairDial : PairDial) (dial : HandshakeDial) :
    (service.contact endpoint pairDial dial).1 = (service.pair endpoint pairDial).1 ∧
    (∀ error, (service.contact endpoint pairDial dial).2 = .error error →
      (service.pair endpoint pairDial).2 = .error error ∨
        error = raised .osError "Device identity changed") ∧
    ∀ result shaken, (service.contact endpoint pairDial dial).2 = .ok (result, some shaken) →
      ∃ trusted,
        (service.pair endpoint pairDial).1.trustStore.get result.identity.deviceId = some trusted ∧
        trusted.status = .trusted ∧
        shaken = (service.pair endpoint pairDial).1.authenticate result.endpoint trusted dial := by
  unfold contact
  obtain ⟨paired, outcome⟩ := service.pair endpoint pairDial
  simp only
  cases outcome with
  | error error =>
      refine ⟨rfl, fun other same => ?_, fun result shaken same => ?_⟩
      · cases same
        exact .inl rfl
      · cases same
  | ok result =>
      simp only
      split
      · refine ⟨rfl, fun other same => ?_, fun result shaken same => ?_⟩
        · cases same
          exact .inr rfl
        · cases same
      split
      · refine ⟨rfl, fun other same => ?_, fun result shaken same => ?_⟩
        · cases same
        · cases same
      next trusts =>
        refine ⟨rfl, fun other same => ?_, fun other shaken same => ?_⟩
        · cases same
        · obtain ⟨record, stored, status, _⟩ := TrustStore.assess_trusted (not_not.mp trusts)
          simp only [Except.ok.injEq, Prod.mk.injEq, Option.map_eq_some_iff] at same
          obtain ⟨rfl, trusted, present, rfl⟩ := same
          cases stored.symm.trans present
          exact ⟨record, present, status, rfl⟩

/-- What connecting changes after pairing: at most the entry of one device. -/
theorem connect_cases (service : DirectPeerService runtime)
    (endpoint : EndpointArgument runtime.platform) (pairDial : PairDial) (dial : HandshakeDial) :
    (service.connect endpoint pairDial dial).1 = (service.pair endpoint pairDial).1 ∨
    ∃ book, (service.connect endpoint pairDial dial).1 =
        { (service.pair endpoint pairDial).1 with addressBook := book } ∧
      ((∃ deviceId, ∃ error : NetworkError,
        book = (service.pair endpoint pairDial).1.addressBook.recordError deviceId error.message) ∨
      ∃ (deviceId : PyStr) (target : Endpoint runtime.platform) (address : SocketAddress),
        PairFree target.host ∧ (service.pair endpoint pairDial).1.addressBook.recordSuccess deviceId
          target address.ip dial.now.time = .ok book) := by
  obtain ⟨same, _, shakes⟩ := contact_cases service endpoint pairDial dial
  unfold connect
  revert same shakes
  obtain ⟨contacted, outcome⟩ := service.contact endpoint pairDial dial
  intro same shakes
  simp only at same shakes
  subst same
  split
  · next equal => cases equal; exact .inl rfl
  · next equal => cases equal; exact .inl rfl
  · next error equal =>
      cases equal
      split
      · exact .inr ⟨_, rfl, .inl ⟨_, error, rfl⟩⟩
      · exact .inl rfl
  · next result address session equal =>
      cases equal
      split
      · exact .inl rfl
      · next book recorded =>
          obtain ⟨trusted, _, _, authenticated⟩ := shakes result _ rfl
          refine .inr ⟨book, rfl, .inr ⟨_, result.endpoint, address, ?_, recorded⟩⟩
          unfold authenticate at authenticated
          split at authenticated
          · cases authenticated
          · next opened => exact openConnection_ok opened

theorem Consistent.connect {service : DirectPeerService runtime} (holds : Consistent service)
    (endpoint : EndpointArgument runtime.platform) (pairDial : PairDial) (dial : HandshakeDial) :
    Consistent (service.connect endpoint pairDial dial).1 := by
  have paired := holds.pair endpoint pairDial
  rcases connect_cases service endpoint pairDial dial with same |
    ⟨book, changed, ⟨deviceId, error, rfl⟩ | ⟨deviceId, target, address, hostFree, recorded⟩⟩
  · rw [same]; exact paired
  · rw [changed]; exact paired.recordError _ error.message_plain
  · rw [changed]; exact paired.recordSuccess hostFree recorded

/-- The state in which a connected device's address is remembered. -/
theorem Consistent.resolve {service : DirectPeerService runtime} (holds : Consistent service)
    (resolved : Dict PyStr ResolvedPeer) : Consistent { service with resolved } :=
  ⟨holds.trustKept, holds.bookKept, holds.linked, holds.outbound, holds.inbox⟩

theorem addressed_cases (service : DirectPeerService runtime)
    (target : EndpointArgument runtime.platform) (pairDial : PairDial) (dial : HandshakeDial) :
    (service.addressed target pairDial dial).1 = service ∨
    (service.addressed target pairDial dial).1 = (service.connect target pairDial dial).1 := by
  unfold addressed
  obtain ⟨connected, outcome⟩ := service.connect target pairDial dial
  cases target with
  | endpoint endpoint =>
      cases outcome with
      | error error => exact .inr rfl
      | ok result =>
          simp only
          split <;> exact .inr rfl
  | text value =>
      simp only
      split
      · exact .inl rfl
      · cases outcome with
        | error error => exact .inr rfl
        | ok result =>
            simp only
            split <;> exact .inr rfl

/-- What connecting and remembering an address preserve, sending preserves. -/
theorem sendFiles_preserves {kept : DirectPeerService runtime → Prop} {pairDial : PairDial}
    {dial : HandshakeDial}
    (connects : ∀ service endpoint, kept service → kept (service.connect endpoint pairDial dial).1)
    (resolves : ∀ service resolved, kept service → kept { service with resolved })
    {service : DirectPeerService runtime} (holds : kept service)
    (target : EndpointArgument runtime.platform) : kept (service.sendFiles target pairDial dial).1 := by
  have addressedHolds : kept (service.addressed target pairDial dial).1 := by
    cases addressed_cases service target pairDial dial with
    | inl same => rw [same]; exact holds
    | inr same => rw [same]; exact connects service target holds
  unfold sendFiles
  revert addressedHolds
  obtain ⟨named, outcome⟩ := service.addressed target pairDial dial
  intro addressedHolds
  cases outcome with
  | error error => exact addressedHolds
  | ok found =>
      obtain ⟨deviceId, connected⟩ := found
      simp only
      split
      · split
        · split
          · exact addressedHolds
          · exact resolves named _ addressedHolds
        · split
          · exact addressedHolds
          · next endpoint _ =>
              have connectedHolds := connects named (.endpoint endpoint) addressedHolds
              split
              · next changed => rw [changed] at connectedHolds; exact connectedHolds
              · next changed =>
                  rw [changed] at connectedHolds
                  split
                  · exact connectedHolds
                  · exact resolves _ _ connectedHolds
      · exact addressedHolds

theorem Consistent.sendFiles {service : DirectPeerService runtime} (holds : Consistent service)
    (target : EndpointArgument runtime.platform) (pairDial : PairDial) (dial : HandshakeDial) :
    Consistent (service.sendFiles target pairDial dial).1 :=
  sendFiles_preserves (fun _ endpoint holds => holds.connect endpoint pairDial dial)
    (fun _ resolved holds => holds.resolve resolved) holds target

/-! ## Trusting and forgetting -/

theorem pruneExpired_get {inbox : PairingInbox} {clock : Time} {deviceId : PyStr}
    {item : PairingIdentity × Time}
    (found : (inbox.pruneExpired clock).items.get deviceId = some item) :
    inbox.items.get deviceId = some item := by
  unfold PairingInbox.pruneExpired at found
  rw [Dict.get_filter, Option.filter_eq_some_iff] at found
  exact found.1

/-- Looking a pairing up changes the inbox at most by what has expired. -/
theorem pairing_cases (service : DirectPeerService runtime) (deviceId : PyStr) (clock : Time) :
    (service.pairing deviceId clock).1 = service ∨ (service.pairing deviceId clock).1 =
      { service with pairingInbox := service.pairingInbox.pruneExpired clock } := by
  unfold pairing
  cases service.outboundPairings.get deviceId with
  | some found => exact .inl rfl
  | none => exact .inr rfl

theorem Consistent.prune {service : DirectPeerService runtime} (holds : Consistent service)
    (clock : Time) :
    Consistent { service with pairingInbox := service.pairingInbox.pruneExpired clock } :=
  ⟨holds.trustKept, holds.bookKept, holds.linked, holds.outbound, fun deviceId item found =>
    holds.inbox deviceId item (pruneExpired_get found)⟩

theorem Consistent.pairing {service : DirectPeerService runtime} (holds : Consistent service)
    (deviceId : PyStr) (clock : Time) : Consistent (service.pairing deviceId clock).1 := by
  rcases pairing_cases service deviceId clock with same | same
  · rw [same]; exact holds
  · rw [same]; exact holds.prune clock

/-- The identity found for a device comes from a socket, and so does its host. -/
theorem Consistent.found {service : DirectPeerService runtime} (holds : Consistent service)
    {deviceId : PyStr} {clock : Time} {identity : PairingIdentity}
    {endpoint : Endpoint runtime.platform}
    (found : (service.pairing deviceId clock).2 = .ok (identity, endpoint)) :
    Offered identity ∧ PairFree endpoint.host := by
  unfold DirectPeerService.pairing at found
  cases known : service.outboundPairings.get deviceId with
  | some pair =>
      simp only [known, Except.ok.injEq] at found
      subst found
      exact holds.outbound deviceId _ known
  | none =>
      simp only [known, PairingInbox.get] at found
      cases item : (service.pairingInbox.pruneExpired clock).items.get deviceId with
      | none => simp only [item, Option.map_none] at found; cases found
      | some item' =>
          simp only [item, Option.map_some, bind, Except.bind, pure, Except.pure] at found
          have offered := holds.inbox deviceId item' (pruneExpired_get item)
          split at found
          · cases found
          · next made =>
              cases found
              refine ⟨offered, ?_⟩
              unfold Endpoint.make at made
              split at made <;> cases made
              exact offered.2

/-- A trust call meets a name the address book accepts. -/
def NameAccepted (service : DirectPeerService runtime) (deviceId : PyStr)
    (friendlyName : Option PyStr) (clock : Time) : Prop :=
  ∀ identity endpoint, (service.pairing deviceId clock).2 = .ok (identity, endpoint) →
    isFriendlyName runtime.platform (shownName friendlyName endpoint) = true

/-- The entry a trust call writes passes every check of the address book. -/
theorem trusted_entry_valid {digests : Digests} {platform : Platform} {store next : TrustStore}
    {deviceId name : PyStr} {identity : PairingIdentity} (endpoint : Endpoint platform) {now : Time}
    {record : TrustedDevice}
    (trusted : TrustStore.trust digests store deviceId name identity.publicKey now =
      .ok (next, record))
    (friendly : isFriendlyName platform name = true) (offered : Offered identity) :
    AddressBook.validateEntry digests platform
      { deviceId, friendlyName := name, fingerprint := record.fingerprint,
        publicKey := record.publicKey, lastHostname := endpoint.host,
        lastResolvedIp := some identity.peerIp, transferPort := endpoint.port,
        lastSuccessfulConnection := none, lastConnectionError := none } = .ok () := by
  obtain ⟨valid, fingerprint, _, _, _, key, _⟩ := TrustStore.trust_ok trusted
  obtain ⟨pattern, derived⟩ := TrustStore.validate_ok valid
  refine (AddressBook.validateEntry_iff _).mpr ⟨?_, ⟨endpoint, endpoint.make_self⟩, friendly, ?_, ?_, ?_⟩
  · simp [AddressBook.validIdentity, pattern, key, derived, fingerprint]
  · rintro ip ⟨⟩; exact offered.1
  · rintro time ⟨⟩
  · rintro error ⟨⟩

/-- Trusting either raises and leaves both stores as they were, the inbox at
most without its expired offers, or it writes both. -/
theorem trust_cases {service : DirectPeerService runtime} (holds : Consistent service)
    {deviceId : PyStr} {friendlyName : Option PyStr} {now : Instant} {clock : Time}
    (accepted : NameAccepted service deviceId friendlyName clock) :
    (∃ error, service.trust deviceId friendlyName now clock =
      ((service.pairing deviceId clock).1, .error error)) ∨
    ∃ identity endpoint store record entry,
      (service.pairing deviceId clock).2 = .ok (identity, endpoint) ∧
      TrustStore.trust runtime.crypto.toDigests service.trustStore deviceId
        (shownName friendlyName endpoint) identity.publicKey now.time = .ok (store, record) ∧
      entry.publicKey = record.publicKey ∧
      AddressBook.Stored runtime.crypto.toDigests runtime.platform deviceId entry ∧
      service.trust deviceId friendlyName now clock =
        ({ (service.pairing deviceId clock).1 with
            trustStore := store
            addressBook := { service.addressBook with
              entries := service.addressBook.entries.set deviceId entry }.save
            pairingInbox := (service.pairing deviceId clock).1.pairingInbox.remove deviceId
            resolved := service.resolved.set identity.peerIp
              ⟨deviceId, identity.publicKey, .trusted, endpoint.host⟩ }, .ok entry) := by
  have stores : (service.pairing deviceId clock).1.trustStore = service.trustStore ∧
      (service.pairing deviceId clock).1.addressBook = service.addressBook ∧
      (service.pairing deviceId clock).1.resolved = service.resolved := by
    rcases pairing_cases service deviceId clock with same | same <;> rw [same] <;>
      exact ⟨rfl, rfl, rfl⟩
  unfold DirectPeerService.trust
  have origin := @Consistent.found runtime service holds deviceId clock
  unfold NameAccepted at accepted
  revert accepted stores origin
  obtain ⟨looked, outcome⟩ := service.pairing deviceId clock
  rintro accepted ⟨sameStore, sameBook, sameResolved⟩ origin
  simp only at accepted sameStore sameBook sameResolved origin ⊢
  cases outcome with
  | error error => exact .inl ⟨error, rfl⟩
  | ok found =>
      obtain ⟨identity, endpoint⟩ := found
      simp only [sameStore]
      cases trusted : TrustStore.trust runtime.crypto.toDigests service.trustStore deviceId
          (shownName friendlyName endpoint) identity.publicKey now.time with
      | error error => exact .inl ⟨error, rfl⟩
      | ok written =>
          obtain ⟨store, record⟩ := written
          obtain ⟨offered, hostFree⟩ := origin rfl
          have friendly := accepted identity endpoint rfl
          have valid := trusted_entry_valid endpoint trusted friendly offered
          refine .inr ⟨identity, endpoint, store, record, _, rfl, trusted, rfl, ⟨rfl, valid, ?_⟩, ?_⟩
          · have printable := (TrustStore.isFriendlyName_cases friendly).2.2
            simp [AddressBook.reread, TrustStore.joinPairs_of_printable printable,
              joinPairs_of_pairFree hostFree, joinPairs_of_pairFree offered.2]
          · simp only [AddressBook.put, sameBook, sameResolved, valid, bind, Except.bind, pure,
              Except.pure]

theorem Consistent.trust {service : DirectPeerService runtime} (holds : Consistent service)
    {deviceId : PyStr} {friendlyName : Option PyStr} {now : Instant} {clock : Time}
    (accepted : NameAccepted service deviceId friendlyName clock) :
    Consistent (service.trust deviceId friendlyName now clock).1 := by
  have looked := holds.pairing deviceId clock
  rcases trust_cases holds accepted with ⟨error, raised⟩ |
    ⟨identity, endpoint, store, record, entry, found, trusted, sameKey, stored, done⟩
  · rw [raised]; exact looked
  · rw [done]
    obtain ⟨_, _, devices, file, _, _, _, _, _, _⟩ := TrustStore.trust_ok trusted
    have friendly := accepted identity endpoint found
    have kept := TrustStore.trust_stored trusted friendly holds.trustKept.stored
    have storeGet : ∀ other, store.get other =
        if other = deviceId then some record else service.trustStore.get other := by
      intro other
      rw [TrustStore.get, devices, Dict.get_set]
      rfl
    refine ⟨⟨fun other current present => ?_, fun other => ?_⟩,
      ⟨fun other current present => ?_, fun _ => Dict.get_sorted _ _⟩, fun other current present trusts => ?_,
      looked.outbound, fun other item present => ?_⟩
    · rw [storeGet] at present
      split at present
      · next same => cases present; exact same ▸ kept
      · exact holds.trustKept.stored other current present
    · rw [TrustStore.get, file]
    · change (service.addressBook.entries.set deviceId entry).get other = some current at present
      rw [Dict.get_set] at present
      split at present
      · next same => cases present; exact same ▸ stored
      · exact holds.bookKept.stored other current present
    · change ∃ shown, (service.addressBook.entries.set deviceId entry).get other = some shown ∧ _
      rw [Dict.get_set]
      rw [storeGet] at present
      split at present
      · next same =>
          cases present
          rw [if_pos same]
          exact ⟨entry, rfl, sameKey⟩
      · next other' =>
          rw [if_neg other']
          exact holds.linked other current present trusts
    · unfold PairingInbox.remove at present
      rw [Dict.get_erase] at present
      split at present
      · cases present
      · exact looked.inbox other item present

theorem untrust_get (store : TrustStore) (deviceId other : PyStr) :
    (store.untrust deviceId).1.get other = if other = deviceId then none else store.get other := by
  unfold TrustStore.untrust Devices.untrust
  cases found : store.devices.get deviceId with
  | none =>
      show store.get other = _
      by_cases here : other = deviceId
      · rw [if_pos here, here]; exact found
      · rw [if_neg here]
  | some record => exact Dict.get_erase store.devices deviceId other

theorem forget_get (book : AddressBook) (deviceId other : PyStr) :
    (book.forget deviceId).1.get other = if other = deviceId then none else book.get other := by
  unfold AddressBook.forget
  cases found : book.entries.get deviceId with
  | none =>
      by_cases here : other = deviceId
      · rw [if_pos here, here]; exact found
      · rw [if_neg here]
  | some entry => exact Dict.get_erase book.entries deviceId other

theorem TrustKept.untrust {store : TrustStore} (kept : TrustKept runtime store) (deviceId : PyStr) :
    TrustKept runtime (store.untrust deviceId).1 := by
  refine ⟨fun other record present => ?_, fun other => ?_⟩
  · rw [untrust_get] at present
    split at present
    · cases present
    · exact kept.stored other record present
  · unfold TrustStore.untrust
    split
    · exact kept.written other
    · rfl

theorem BookKept.forget {book : AddressBook} (kept : BookKept runtime book) (deviceId : PyStr) :
    BookKept runtime (book.forget deviceId).1 := by
  refine ⟨fun other entry present => ?_, fun other => ?_⟩
  · rw [forget_get] at present
    split at present
    · cases present
    · exact kept.stored other entry present
  · unfold AddressBook.forget
    split
    · exact kept.written other
    · exact Dict.get_sorted _ _

theorem Consistent.forgetDevice {service : DirectPeerService runtime} (holds : Consistent service)
    (deviceId : PyStr) : Consistent (service.forgetDevice deviceId) := by
  refine ⟨holds.trustKept.untrust deviceId, holds.bookKept.forget deviceId,
    fun other record present trusts => ?_, holds.outbound, holds.inbox⟩
  change (service.trustStore.untrust deviceId).1.get other = some record at present
  rw [untrust_get] at present
  split at present
  · cases present
  · next apart =>
      change ∃ entry, (service.addressBook.forget deviceId).1.get other = some entry ∧ _
      rw [forget_get, if_neg apart]
      exact holds.linked other record present trusts

theorem Consistent.restart {service : DirectPeerService runtime} (holds : Consistent service) :
    Consistent service.restart := by
  have store := fun deviceId => TrustStore.load_get deviceId holds.trustKept.stored
    holds.trustKept.written
  have book := fun deviceId => AddressBook.load_get deviceId holds.bookKept.stored
    holds.bookKept.written
  refine ⟨⟨fun deviceId record present => ?_, fun deviceId => ?_⟩,
    ⟨fun deviceId entry present => ?_, fun deviceId => ?_⟩,
    fun deviceId record present trusts => ?_, (fun _ _ found => nomatch found),
    (fun _ _ found => nomatch found)⟩
  · exact holds.trustKept.stored deviceId record ((store deviceId).symm.trans present)
  · exact (holds.trustKept.written deviceId).trans (store deviceId).symm
  · exact holds.bookKept.stored deviceId entry ((book deviceId).symm.trans present)
  · exact (holds.bookKept.written deviceId).trans (book deviceId).symm
  · obtain ⟨entry, shown, key⟩ :=
      holds.linked deviceId record ((store deviceId).symm.trans present) trusts
    exact ⟨entry, (book deviceId).trans shown, key⟩

theorem Consistent.incomingPairing {service : DirectPeerService runtime} (holds : Consistent service)
    (peer : SocketAddress) (hello : Json) (nonce : Bytes) (now clock : Time) :
    Consistent (service.incomingPairing peer hello nonce now clock) := by
  unfold DirectPeerService.incomingPairing
  split
  · next response identity paired =>
      have offered : Offered identity := by
        unfold serverPair at paired
        simp only [bind, Except.bind, pure, Except.pure] at paired
        split at paired
        · cases paired
        split at paired
        · cases paired
        obtain ⟨_, made⟩ := Prod.mk.inj (Except.ok.inj paired)
        have sameIp := pairingResult_peerIp made
        exact ⟨sameIp ▸ peer.numeric, sameIp ▸ peer.pairFree⟩
      refine ⟨holds.trustKept, holds.bookKept, holds.linked, holds.outbound,
        fun deviceId item present => ?_⟩
      simp only [PairingInbox.publish] at present
      split at present
      · exact holds.inbox deviceId item (pruneExpired_get present)
      · rw [Dict.get_set] at present
        split at present
        · cases present; exact offered
        · exact holds.inbox deviceId item (pruneExpired_get present)
  · exact holds

theorem Consistent.dismissPairing {service : DirectPeerService runtime} (holds : Consistent service)
    (deviceId : PyStr) : Consistent (service.dismissPairing deviceId) := by
  refine ⟨holds.trustKept, holds.bookKept, holds.linked, holds.outbound,
    fun other item present => ?_⟩
  change (service.pairingInbox.items.erase deviceId).get other = some item at present
  rw [Dict.get_erase] at present
  split at present
  · cases present
  · exact holds.inbox other item present

/-! ## Runs -/

/-- Every trust call meets a name the address book accepts. -/
def NamesAccepted (service : DirectPeerService runtime) : Label runtime → Prop
  | .trust deviceId friendlyName _ clock => NameAccepted service deviceId friendlyName clock
  | _ => True

theorem step_consistent {service next : DirectPeerService runtime} {label : Label runtime}
    (holds : Consistent service) (accepted : NamesAccepted service label)
    (stepped : service.step label = some next) : Consistent next := by
  cases label with
  | pair endpoint dial => cases stepped; exact holds.pair endpoint dial
  | connect endpoint pairDial dial => cases stepped; exact holds.connect endpoint pairDial dial
  | trust deviceId friendlyName now clock => cases stepped; exact holds.trust accepted
  | forgetDevice deviceId => cases stepped; exact holds.forgetDevice deviceId
  | dismissPairing deviceId => cases stepped; exact holds.dismissPairing deviceId
  | incomingPairing peer hello nonce now clock =>
      cases stepped; exact holds.incomingPairing peer hello nonce now clock
  | sendFiles target pairDial dial => cases stepped; exact holds.sendFiles target pairDial dial
  | restart => cases stepped; exact holds.restart

theorem fresh_consistent (identity : DeviceIdentity runtime.crypto) (port : Nat) :
    Consistent (fresh identity port) :=
  ⟨⟨(fun _ _ found => nomatch found), fun _ => rfl⟩, ⟨(fun _ _ found => nomatch found), fun _ => rfl⟩,
    (fun _ _ found => nomatch found), (fun _ _ found => nomatch found),
    (fun _ _ found => nomatch found)⟩

end DirectPeerService

end DirectTransfer
