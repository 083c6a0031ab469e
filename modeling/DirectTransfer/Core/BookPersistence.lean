import DirectTransfer.Core.ServiceAgreement
import DirectTransfer.Core.TrustPersistence

/-! An address book read back from its file. The file is sorted by device
identifier and the loader drops what it does not accept, while the book in
memory keeps the order of insertion and takes what it is given. -/

set_option autoImplicit false

namespace DirectTransfer

open Library

/-- A call that returns normally and whose write succeeds. -/
def BookOperation.apply (digests : Digests) {platform : Platform} (book : AddressBook) :
    BookOperation platform → Except Raised AddressBook
  | .put entry => book.put digests platform entry
  | .recordSuccess deviceId endpoint resolvedIp now =>
      book.recordSuccess deviceId endpoint resolvedIp now.time
  | .recordError deviceId message => .ok (book.recordError deviceId message)
  | .forget deviceId => .ok (book.forget deviceId).1

def bookCall (digests : Digests) (platform : Platform) (book : AddressBook)
    (operation : BookOperation platform) : Option AddressBook :=
  (operation.apply digests book).toOption

namespace AddressBook

/-- The book a process opens on a file. -/
def opened (digests : Digests) (platform : Platform) (file : Dict PyStr AddressBookEntry) :
    AddressBook :=
  load digests platform ⟨Dict.empty, file⟩

def SameEndpoint (left right : AddressBookEntry) : Prop :=
  left.lastHostname = right.lastHostname ∧ left.transferPort = right.transferPort

/-- At each endpoint the entry inserted first has the least device identifier. -/
def LeastFirst (entries : Dict PyStr AddressBookEntry) : Prop :=
  ∀ earlier first later, entries.entries = earlier ++ first :: later →
    (∀ entry ∈ earlier, ¬ SameEndpoint entry.2 first.2) →
    ∀ entry ∈ later, SameEndpoint entry.2 first.2 → textLe first.1 entry.1 = true

/-- The entry a successful connection writes. -/
def succeeded {platform : Platform} (current : AddressBookEntry) (endpoint : Endpoint platform)
    (resolvedIp : PyStr) (now : Instant) : AddressBookEntry :=
  { current with
    lastHostname := endpoint.host
    transferPort := endpoint.port
    lastResolvedIp := some resolvedIp
    lastSuccessfulConnection := some now.time
    lastConnectionError := none }

/-- The entry a failed connection writes. -/
def failed (current : AddressBookEntry) (message : PyStr) : AddressBookEntry :=
  { current with lastConnectionError := some (message.take 512) }

/-- The entry is one the loader keeps as it is, and the first at each endpoint
still has the least identifier. -/
def Survives (digests : Digests) (platform : Platform) (entries : Dict PyStr AddressBookEntry)
    (deviceId : PyStr) (entry : AddressBookEntry) : Prop :=
  Stored digests platform deviceId entry ∧ LeastFirst (entries.set deviceId entry)

/-- What a call may write for a restart not to show. -/
def Permitted (digests : Digests) {platform : Platform} (book : AddressBook) :
    BookOperation platform → Prop
  | .put entry => Survives digests platform book.entries entry.deviceId entry
  | .recordSuccess deviceId endpoint resolvedIp now => ∀ current,
      book.get deviceId = some current →
        Survives digests platform book.entries deviceId (succeeded current endpoint resolvedIp now)
  | .recordError deviceId message => ∀ current, book.get deviceId = some current →
      Survives digests platform book.entries deviceId (failed current message)
  | .forget deviceId =>
      (book.get deviceId).isSome = true → LeastFirst (book.entries.erase deviceId)

/-! ## Reading a book back -/

/-- A new book on the same file answers as this one, and so does the service
when it asks whether another device is known at an endpoint. -/
structure Reopens (runtime : Runtime) (book : AddressBook) : Prop where
  get : ∀ deviceId,
    (book.load runtime.crypto.toDigests runtime.platform).get deviceId = book.get deviceId
  findEndpoint : ∀ host port,
    (book.load runtime.crypto.toDigests runtime.platform).findEndpoint host port =
      book.findEndpoint host port
  pairState : ∀ (service : DirectPeerService runtime), service.addressBook = book →
    ∀ target remote,
      DirectPeerService.pairState
          { service with addressBook := book.load runtime.crypto.toDigests runtime.platform }
          target remote =
        service.pairState target remote

variable {runtime : Runtime} {digests : Digests} {platform : Platform}

/-- The entries at an endpoint, as `find_endpoint` tests for them. -/
def atEndpoint (host : PyStr) (port : Nat) (entry : PyStr × AddressBookEntry) : Bool :=
  entry.2.lastHostname = host && entry.2.transferPort = port

theorem findEndpoint_eq (book : AddressBook) (host : PyStr) (port : Nat) :
    book.findEndpoint host port = (book.entries.entries.find? (atEndpoint host port)).map Prod.snd := by
  rw [findEndpoint, Dict.values, List.find?_map]
  rfl

theorem atEndpoint_iff {entry first : PyStr × AddressBookEntry} :
    atEndpoint first.2.lastHostname first.2.transferPort entry = true ↔
      SameEndpoint entry.2 first.2 := by
  simp [atEndpoint, SameEndpoint]

theorem find_sorted_entries (entries : Dict PyStr AddressBookEntry)
    {holds : PyStr × AddressBookEntry → Bool} {first : PyStr × AddressBookEntry} :
    (entries.sorted textLe).entries.find? holds = some first ↔
      first ∈ entries.entries ∧ holds first = true ∧
        ∀ other ∈ entries.entries, holds other = true → textLe first.1 other.1 = true :=
  Dict.find_sorted textLe_total (fun _ _ _ => textLe_trans) (fun _ _ => textLe_antisymm)

theorem textLe_refl (text : PyStr) : textLe text text = true :=
  (textLe_total text text).elim id id

/-- Sorting leaves the first entry at every endpoint exactly when that is the
one with the least identifier. -/
theorem leastFirst_iff (entries : Dict PyStr AddressBookEntry) :
    LeastFirst entries ↔ ∀ host port,
      (entries.sorted textLe).entries.find? (atEndpoint host port) =
        entries.entries.find? (atEndpoint host port) := by
  constructor
  · intro least host port
    cases found : entries.entries.find? (atEndpoint host port) with
    | none =>
        rw [List.find?_eq_none] at found ⊢
        intro entry member
        exact found entry (Dict.mem_sorted.mp member)
    | some first =>
        obtain ⟨here, earlier, later, split, without⟩ := List.find?_eq_some_iff_append.mp found
        have place := here
        simp only [atEndpoint, Bool.and_eq_true, decide_eq_true_eq] at place
        obtain ⟨sameHost, samePort⟩ := place
        subst sameHost samePort
        refine (find_sorted_entries entries).mpr ⟨List.mem_of_find?_eq_some found, here, ?_⟩
        intro other member there
        rw [split] at member
        have elsewhere : ∀ entry ∈ earlier, ¬ SameEndpoint entry.2 first.2 := by
          intro entry before shared
          have misses := without entry before
          rw [atEndpoint_iff.mpr shared] at misses
          cases misses
        cases List.mem_append.mp member with
        | inl before => exact absurd (atEndpoint_iff.mp there) (elsewhere other before)
        | inr rest =>
            cases rest with
            | head => exact textLe_refl _
            | tail _ after =>
                exact least earlier first later split elsewhere other after (atEndpoint_iff.mp there)
  · intro same earlier first later split elsewhere entry member shared
    have found : entries.entries.find? (atEndpoint first.2.lastHostname first.2.transferPort) =
        some first := by
      rw [List.find?_eq_some_iff_append]
      refine ⟨atEndpoint_iff.mpr ⟨rfl, rfl⟩, earlier, later, split, ?_⟩
      intro other before
      rw [Bool.not_eq_true', ← Bool.not_eq_true]
      intro there
      exact elsewhere other before (atEndpoint_iff.mp there)
    rw [← same, find_sorted_entries] at found
    apply found.2.2 entry _ (atEndpoint_iff.mpr shared)
    rw [split]
    exact List.mem_append_right _ (List.mem_cons_of_mem _ member)

theorem reread_reread (entry : AddressBookEntry) : reread (reread entry) = reread entry := by
  have twice (text : PyStr) : joinPairs (joinPairs text) = joinPairs text :=
    joinPairs_of_pairFree (pairFree_joinPairs text)
  simp [reread, twice, Option.map_map, Function.comp_def]

/-- What the loader returns under an identifier, it would return again. -/
theorem stored_of_load {book : AddressBook} {deviceId : PyStr} {entry : AddressBookEntry}
    (loaded : (book.load digests platform).get deviceId = some entry) :
    Stored digests platform deviceId entry := by
  rw [AddressBook.get, load, Dict.get_filter, Dict.get_map, Option.filter_eq_some_iff] at loaded
  obtain ⟨read, checks⟩ := loaded
  obtain ⟨written, _, same⟩ := Option.map_eq_some_iff.mp read
  simp only [Bool.and_eq_true, decide_eq_true_eq] at checks
  constructor
  · exact checks.1.symm
  · cases checked : validateEntry digests platform entry with
    | error error => simp [checked, Except.isOk, Except.toBool] at checks
    | ok => rfl
  · rw [← same, reread_reread]

/-- A book whose entries are all kept is read back as it was written. -/
theorem load_entries {entries : Dict PyStr AddressBookEntry}
    (stored : ∀ deviceId entry, entries.get deviceId = some entry →
      Stored digests platform deviceId entry) :
    (load digests platform ⟨entries, entries.sorted textLe⟩).entries = entries.sorted textLe := by
  have each (entry : PyStr × AddressBookEntry)
      (member : entry ∈ (entries.sorted textLe).entries) :
      Stored digests platform entry.1 entry.2 :=
    stored entry.1 entry.2 (Dict.get_eq_some_iff.mpr (Dict.mem_sorted.mp member))
  have unchanged : ((entries.sorted textLe).map reread) = entries.sorted textLe := by
    ext1
    refine (List.map_congr_left fun entry member => ?_).trans (List.map_id _)
    rw [(each entry member).stable]
    rfl
  have all : ((entries.sorted textLe).filter fun key entry =>
      key = entry.deviceId && (validateEntry digests platform entry).isOk) =
        entries.sorted textLe := by
    ext1
    refine List.filter_eq_self.mpr fun entry member => ?_
    have kept := each entry member
    simp [kept.keyed, kept.valid, Except.isOk, Except.toBool]
  rw [load, unchanged, all]

/-- A book that has just been written is read back as it is exactly when every
entry of it is kept and the first at each endpoint has the least identifier. -/
theorem reopens_saved_iff (entries : Dict PyStr AddressBookEntry) :
    Reopens runtime ⟨entries, entries.sorted textLe⟩ ↔
      (∀ deviceId entry, entries.get deviceId = some entry →
        Stored runtime.crypto.toDigests runtime.platform deviceId entry) ∧
      LeastFirst entries := by
  constructor
  · intro reopens
    have stored : ∀ deviceId entry, entries.get deviceId = some entry →
        Stored runtime.crypto.toDigests runtime.platform deviceId entry := by
      intro deviceId entry known
      exact stored_of_load ((reopens.get deviceId).trans known)
    refine ⟨stored, (leastFirst_iff entries).mpr ?_⟩
    intro host port
    have same := reopens.findEndpoint host port
    rw [findEndpoint_eq, findEndpoint_eq, load_entries stored] at same
    -- an entry and its value determine each other
    have keyed {entry : PyStr × AddressBookEntry} (member : entry ∈ entries.entries) :
        entry.2.deviceId = entry.1 :=
      (stored entry.1 entry.2 (Dict.get_eq_some_iff.mpr member)).keyed
    cases left : (entries.sorted textLe).entries.find? (atEndpoint host port) with
    | none =>
        rw [left] at same
        exact (Option.map_eq_none_iff.mp same.symm).symm
    | some first =>
        rw [left] at same
        obtain ⟨other, found, values⟩ := Option.map_eq_some_iff.mp same.symm
        rw [found]
        have firstMember := Dict.mem_sorted.mp (List.mem_of_find?_eq_some left)
        have keys : first.1 = other.1 := by
          rw [← keyed firstMember, ← keyed (List.mem_of_find?_eq_some found), values]
        rw [Prod.ext keys values.symm]
  · intro kept
    obtain ⟨stored, least⟩ := kept
    have entriesBack := @load_entries runtime.crypto.toDigests runtime.platform entries stored
    have found : ∀ host port,
        (load runtime.crypto.toDigests runtime.platform
            ⟨entries, entries.sorted textLe⟩).findEndpoint host port =
          (⟨entries, entries.sorted textLe⟩ : AddressBook).findEndpoint host port := by
      intro host port
      rw [findEndpoint_eq, findEndpoint_eq, entriesBack]
      exact congrArg _ ((leastFirst_iff entries).mp least host port)
    constructor
    · intro deviceId
      rw [AddressBook.get, entriesBack]
      exact Dict.get_sorted _ _
    · exact found
    · intro service here target remote
      unfold DirectPeerService.pairState
      rw [here]
      dsimp only
      rw [found]

/-! ## Calls -/

theorem Reopens.stored {book : AddressBook} (reopens : Reopens runtime book) {deviceId : PyStr}
    {entry : AddressBookEntry} (known : book.get deviceId = some entry) :
    Stored runtime.crypto.toDigests runtime.platform deviceId entry :=
  stored_of_load ((reopens.get deviceId).trans known)

theorem Reopens.set_iff {book : AddressBook} (reopens : Reopens runtime book) (deviceId : PyStr)
    (entry : AddressBookEntry) :
    Reopens runtime { book with entries := book.entries.set deviceId entry }.save ↔
      Survives runtime.crypto.toDigests runtime.platform book.entries deviceId entry := by
  refine (reopens_saved_iff (book.entries.set deviceId entry)).trans ?_
  refine and_congr_left fun _ => ?_
  constructor
  · intro stored
    exact stored deviceId entry (Dict.get_set_self _ _ _)
  · intro stored other current known
    rw [Dict.get_set] at known
    split at known
    · next same =>
        cases known
        exact same ▸ stored
    · exact reopens.stored known

theorem Reopens.erase_iff {book : AddressBook} (reopens : Reopens runtime book)
    (deviceId : PyStr) :
    Reopens runtime { book with entries := book.entries.erase deviceId }.save ↔
      LeastFirst (book.entries.erase deviceId) := by
  refine (reopens_saved_iff (book.entries.erase deviceId)).trans ?_
  refine and_iff_right fun other current known => ?_
  rw [Dict.get_erase] at known
  split at known
  · cases known
  · exact reopens.stored known

/-- A call that returns leaves a book that reopens exactly when it is permitted. -/
theorem Reopens.apply_iff {book next : AddressBook} (reopens : Reopens runtime book)
    {operation : BookOperation runtime.platform}
    (applied : operation.apply runtime.crypto.toDigests book = .ok next) :
    Reopens runtime next ↔ Permitted runtime.crypto.toDigests book operation := by
  cases operation with
  | put entry =>
      obtain ⟨_, same⟩ := put_ok applied
      rw [same]
      exact reopens.set_iff entry.deviceId entry
  | recordSuccess deviceId endpoint resolvedIp now =>
      cases known : book.entries.get deviceId with
      | none =>
          simp only [BookOperation.apply, recordSuccess, known] at applied
          cases applied
      | some current =>
          simp only [BookOperation.apply, recordSuccess, known] at applied
          cases applied
          refine (reopens.set_iff deviceId (succeeded current endpoint resolvedIp now)).trans ?_
          simp [Permitted, AddressBook.get, known]
  | recordError deviceId message =>
      cases known : book.entries.get deviceId with
      | none =>
          simp only [BookOperation.apply, recordError, known] at applied
          cases applied
          simp [Permitted, AddressBook.get, known, reopens]
      | some current =>
          simp only [BookOperation.apply, recordError, known] at applied
          cases applied
          refine (reopens.set_iff deviceId (failed current message)).trans ?_
          simp [Permitted, AddressBook.get, known]
  | forget deviceId =>
      cases known : book.entries.get deviceId with
      | none =>
          simp only [BookOperation.apply, forget, known] at applied
          cases applied
          simp [Permitted, AddressBook.get, known, reopens]
      | some current =>
          simp only [BookOperation.apply, forget, known] at applied
          cases applied
          refine (reopens.erase_iff deviceId).trans ?_
          simp [Permitted, AddressBook.get, known]

theorem reopens_opened (file : Dict PyStr AddressBookEntry) :
    Reopens runtime (opened runtime.crypto.toDigests runtime.platform file) where
  get _ := rfl
  findEndpoint _ _ := rfl
  pairState service here _ _ := by
    unfold DirectPeerService.pairState
    rw [here]
    rfl

/-- In every sequence of permitted calls a restart does not show in what the
book answers; and the next call that returns keeps it so exactly when it is
permitted. -/
theorem book_survives {file : Dict PyStr AddressBookEntry}
    {operations : List (BookOperation runtime.platform)} {book : AddressBook}
    (run : Run (bookCall runtime.crypto.toDigests runtime.platform)
      (Permitted runtime.crypto.toDigests)
      (opened runtime.crypto.toDigests runtime.platform file) operations book) :
    Reopens runtime book ∧
      ∀ (operation : BookOperation runtime.platform) (next : AddressBook),
        operation.apply runtime.crypto.toDigests book = .ok next →
        (Reopens runtime next ↔ Permitted runtime.crypto.toDigests book operation) := by
  have reopens : Reopens runtime book := by
    refine run.invariant ?_ (reopens_opened file)
    intro store operation next holds permitted called
    cases applied : operation.apply runtime.crypto.toDigests store with
    | error error => simp [bookCall, applied, Except.toOption] at called
    | ok result =>
        simp only [bookCall, applied, Except.toOption, Option.some.injEq] at called
        subst called
        exact (holds.apply_iff applied).mpr permitted
  exact ⟨reopens, fun _ _ applied => reopens.apply_iff applied⟩

/-! ## Samples -/

/-- The text of a key whose identifier begins with the given octet. -/
def leadingKey (octet : UInt8) : PyStr := b64encode (octet :: List.replicate 31 0)

def sharedEndpoint : Endpoint asciiPlatform := ⟨py "n", 5000, by decide +kernel⟩

/-- An entry for that key at an endpoint that all of them share. -/
def sharedEntry (octet : UInt8) (deviceId fingerprint : String) : AddressBookEntry where
  deviceId := py deviceId
  friendlyName := py "peer"
  fingerprint := py fingerprint
  publicKey := leadingKey octet
  lastHostname := sharedEndpoint.host
  lastResolvedIp := none
  transferPort := sharedEndpoint.port
  lastSuccessfulConnection := none
  lastConnectionError := none

theorem validIdentity_of {entry : AddressBookEntry} (isId : isDeviceId entry.deviceId = true)
    (named : deviceIdFromPublicKey digests entry.publicKey = .ok entry.deviceId)
    (shown : fingerprintFromPublicKey digests entry.publicKey = .ok entry.fingerprint) :
    validIdentity digests entry = true := by
  simp [validIdentity, isId, named, shown]

theorem sharedEntry_valid {octet : UInt8} {deviceId fingerprint : String}
    (isId : isDeviceId (py deviceId) = true)
    (named : deviceIdFromPublicKey plainCrypto.toDigests (leadingKey octet) = .ok (py deviceId))
    (shown : fingerprintFromPublicKey plainCrypto.toDigests (leadingKey octet) =
      .ok (py fingerprint)) :
    validateEntry plainCrypto.toDigests asciiPlatform (sharedEntry octet deviceId fingerprint) =
      .ok () := by
  apply (validateEntry_iff _).mpr
  refine ⟨?_, ⟨sharedEndpoint, sharedEndpoint.make_self⟩, ?_, by simp [sharedEntry],
    by simp [sharedEntry], by simp [sharedEntry]⟩
  · exact validIdentity_of isId named shown
  · change isFriendlyName asciiPlatform (py "peer") = true
    decide +kernel

def firstEntry : AddressBookEntry := sharedEntry 1 "mp-01000000" "0100 0000 0000 0000"

def secondEntry : AddressBookEntry := sharedEntry 2 "mp-02000000" "0200 0000 0000 0000"

theorem firstEntry_valid :
    validateEntry plainCrypto.toDigests asciiPlatform firstEntry = .ok () := by
  apply sharedEntry_valid (by decide)
  · rw [deviceIdFromPublicKey, leadingKey, plainCrypto.b64decode_b64encode]
    rfl
  · rw [fingerprintFromPublicKey, leadingKey, plainCrypto.b64decode_b64encode]
    rfl

theorem secondEntry_valid :
    validateEntry plainCrypto.toDigests asciiPlatform secondEntry = .ok () := by
  apply sharedEntry_valid (by decide)
  · rw [deviceIdFromPublicKey, leadingKey, plainCrypto.b64decode_b64encode]
    rfl
  · rw [fingerprintFromPublicKey, leadingKey, plainCrypto.b64decode_b64encode]
    rfl

/-- The book after one entry, put into an empty book. -/
def bookOf (entry : AddressBookEntry) : AddressBook :=
  { (opened plainCrypto.toDigests asciiPlatform Dict.empty) with
    entries := Dict.empty.set entry.deviceId entry }.save

theorem put_first {entry : AddressBookEntry}
    (valid : validateEntry plainCrypto.toDigests asciiPlatform entry = .ok ()) :
    (BookOperation.put entry : BookOperation asciiPlatform).apply plainCrypto.toDigests
      (opened plainCrypto.toDigests asciiPlatform Dict.empty) = .ok (bookOf entry) := by
  simp only [BookOperation.apply, put, valid, bind, Except.bind, pure, Except.pure]
  rfl

/-- Entries in the order of their identifiers are in the order of the file. -/
theorem leastFirst_of_ordered {entries : Dict PyStr AddressBookEntry}
    (ordered : (entries.entries.map Prod.fst).Pairwise fun left right => textLe left right = true) :
    LeastFirst entries := by
  intro earlier first later split _ other member _
  rw [split, List.map_append, List.map_cons] at ordered
  have after := (List.pairwise_cons.mp (List.pairwise_append.mp ordered).2.1).1
  exact after other.1 (List.mem_map_of_mem member)

/-- A test for entries that survive in a book kept in the order of the identifiers. -/
def survives (entries : Dict PyStr AddressBookEntry) (deviceId : PyStr) (entry : AddressBookEntry) :
    Bool :=
  deviceId = entry.deviceId && reread entry = entry &&
    (validateEntry plainCrypto.toDigests asciiPlatform entry).isOk &&
    decide (((entries.set deviceId entry).entries.map Prod.fst).Pairwise fun left right =>
      textLe left right = true)

theorem survives_sound {entries : Dict PyStr AddressBookEntry} {deviceId : PyStr}
    {entry : AddressBookEntry} (survives : survives entries deviceId entry = true) :
    Survives plainCrypto.toDigests asciiPlatform entries deviceId entry := by
  simp only [AddressBook.survives, Bool.and_eq_true, decide_eq_true_eq] at survives
  obtain ⟨⟨⟨named, stable⟩, accepted⟩, ordered⟩ := survives
  refine ⟨⟨named.symm, ?_, stable⟩, leastFirst_of_ordered ordered⟩
  cases checked : validateEntry plainCrypto.toDigests asciiPlatform entry with
  | error error => simp [checked, Except.isOk, Except.toBool] at accepted
  | ok _ => rfl

def permits (book : AddressBook) : BookOperation asciiPlatform → Bool
  | .put entry => survives book.entries entry.deviceId entry
  | .recordSuccess deviceId endpoint resolvedIp now => (book.get deviceId).all fun current =>
      survives book.entries deviceId (succeeded current endpoint resolvedIp now)
  | .recordError deviceId message => (book.get deviceId).all fun current =>
      survives book.entries deviceId (failed current message)
  | .forget deviceId => decide (((book.entries.erase deviceId).entries.map Prod.fst).Pairwise
      fun left right => textLe left right = true)

theorem permits_sound (book : AddressBook) (operation : BookOperation asciiPlatform)
    (permits : permits book operation = true) :
    Permitted plainCrypto.toDigests book operation := by
  cases operation with
  | put entry => exact survives_sound permits
  | recordSuccess deviceId endpoint resolvedIp now =>
      intro current known
      simp only [AddressBook.permits, known, Option.all_some] at permits
      exact survives_sound permits
  | recordError deviceId message =>
      intro current known
      simp only [AddressBook.permits, known, Option.all_some] at permits
      exact survives_sound permits
  | forget deviceId =>
      intro _
      exact leastFirst_of_ordered (of_decide_eq_true permits)

/-- Two devices at one endpoint; the second is forgotten after a failed connection and
put in again. -/
def sharedHistory : List (BookOperation asciiPlatform) :=
  [.put firstEntry, .put secondEntry,
    .recordSuccess firstEntry.deviceId sharedEndpoint (py "10.0.0.2") DirectPeerService.epoch,
    .recordError secondEntry.deviceId (py "Connection refused"), .forget secondEntry.deviceId,
    .put secondEntry, .recordError secondEntry.deviceId (py "Peer unreachable")]

theorem sharedHistory_executed :
    (runLabels (fun book operation => if permits book operation then
        bookCall plainCrypto.toDigests asciiPlatform book operation else none)
      (opened plainCrypto.toDigests asciiPlatform Dict.empty) sharedHistory).any (fun book =>
        (book.entries.values.map fun entry => (entry.lastHostname, entry.transferPort)) =
            [(sharedEndpoint.host, sharedEndpoint.port), (sharedEndpoint.host, sharedEndpoint.port)] &&
          (book.get secondEntry.deviceId).any fun entry =>
            entry.lastConnectionError = some (py "Peer unreachable")) = true := by
  decide +kernel

/-- The devices of such a history are found again after a restart. -/
theorem shared_devices_survive :
    ∃ book, Run (bookCall plainCrypto.toDigests asciiPlatform) (Permitted plainCrypto.toDigests)
        (opened plainCrypto.toDigests asciiPlatform Dict.empty) sharedHistory book ∧
      book.entries.values.length = 2 ∧ Reopens DirectPeerService.sampleRuntime book := by
  obtain ⟨book, executed, shared⟩ := (Option.any_eq_true _ _).mp sharedHistory_executed
  simp only [Bool.and_eq_true, decide_eq_true_eq] at shared
  have run := run_of_checked permits_sound executed
  refine ⟨book, run, ?_, (@book_survives DirectPeerService.sampleRuntime _ _ _ run).1⟩
  have count := congrArg List.length shared.1
  rwa [List.length_map] at count

/-- Of two devices at one endpoint, memory finds the one inserted first and a
new process the one with the lesser identifier. -/
theorem shared_endpoint_reordered :
    ∃ book, Run (bookCall plainCrypto.toDigests asciiPlatform) anyStep
        (opened plainCrypto.toDigests asciiPlatform Dict.empty) [.put secondEntry, .put firstEntry]
        book ∧
      ¬ Reopens DirectPeerService.sampleRuntime book := by
  have firstCall : bookCall plainCrypto.toDigests asciiPlatform
      (opened plainCrypto.toDigests asciiPlatform Dict.empty) (.put secondEntry) =
        some (bookOf secondEntry) := by
    rw [bookCall, put_first secondEntry_valid]
    rfl
  let book : AddressBook := { (bookOf secondEntry) with
    entries := (bookOf secondEntry).entries.set firstEntry.deviceId firstEntry }.save
  have secondCall : bookCall plainCrypto.toDigests asciiPlatform (bookOf secondEntry)
      (.put firstEntry) = some book := by
    simp only [bookCall, BookOperation.apply, put, firstEntry_valid, bind, Except.bind, pure,
      Except.pure]
    rfl
  refine ⟨book, .cons trivial firstCall (.single trivial secondCall), ?_⟩
  intro reopens
  have least := ((reopens_saved_iff book.entries).mp reopens).2
  have wrong := least [] (py "mp-02000000", secondEntry) [(py "mp-01000000", firstEntry)] rfl
    (by simp) _ (List.mem_singleton_self _) ⟨rfl, rfl⟩
  exact absurd wrong (by decide)

end AddressBook

end DirectTransfer
