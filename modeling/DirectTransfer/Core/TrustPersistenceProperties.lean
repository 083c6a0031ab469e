import DirectTransfer.Core.ServiceAgreement
import DirectTransfer.Core.TrustPersistence
import DirectTransfer.Core.TrustRecords

/-! Memory and file of the two stores agree as long as writes succeed, and a
trust store read back from its file is the one that wrote it as long as every
record it was given is one the loader takes. -/

set_option autoImplicit false

namespace DirectTransfer

open Library

/-! ## Memory and file -/

/-- Over any sequence of operations of the trust store and of the address book,
memory and file agree after each operation, and one that raises has changed
nothing, exactly when no failing write belongs to an operation that changes the
map. -/
theorem stores_sound_iff (digests : Digests) (platform : Platform) :
    (∀ (start finish : Persisted Devices) (labels : List (TrustOperation × Bool)), start.Agrees →
      (Run (trustStep digests) (Persisted.Sound (trustChange digests) writeFailed) start labels
          finish ↔
        Run (trustStep digests) (fun store label =>
          Persisted.Settles (trustChange digests) store label.1 label.2) start labels finish)) ∧
    ∀ (start finish : Persisted (Dict PyStr AddressBookEntry))
      (labels : List (BookOperation platform × Bool)), start.Agrees →
      (Run (bookStep digests platform)
          (Persisted.Sound (bookChange digests platform) writeFailed) start labels finish ↔
        Run (bookStep digests platform) (fun store label =>
          Persisted.Settles (bookChange digests platform) store label.1 label.2) start labels
          finish) :=
  ⟨fun _ _ _ agrees => Persisted.run_sound_iff agrees,
    fun _ _ _ agrees => Persisted.run_sound_iff agrees⟩

namespace Devices

variable {digests : Digests} {platform : Platform}

/-! ## Maps that are read back -/

/-- A store whose file would be read back as it is in memory. -/
def Reopens (digests : Digests) (platform : Platform) (store : Persisted Devices) : Prop :=
  ∀ deviceId, (load digests platform store.file).get deviceId = store.memory.get deviceId

theorem Reopens.kept {store : Persisted Devices} (reopens : Reopens digests platform store)
    {deviceId : PyStr} {record : TrustedDevice} (known : store.memory.get deviceId = some record) :
    Kept digests platform deviceId record :=
  kept_of_load ((reopens deviceId).trans known)

theorem reopens_load (file : Devices) :
    Reopens digests platform ⟨load digests platform file, file⟩ := fun _ => rfl

/-- A map that has just been written is read back exactly when all of it is kept. -/
theorem reopens_iff (devices : Devices) :
    Reopens digests platform ⟨devices, devices⟩ ↔
      ∀ deviceId record, devices.get deviceId = some record →
        Kept digests platform deviceId record := by
  constructor
  · intro reopens deviceId record known
    exact reopens.kept known
  · intro kept deviceId
    cases known : devices.get deviceId with
    | none => rw [load_get, known]; rfl
    | some record => exact load_of_kept known (kept deviceId record known)

theorem Reopens.set_iff {store : Persisted Devices} (reopens : Reopens digests platform store)
    (deviceId : PyStr) (record : TrustedDevice) :
    Reopens digests platform
        ⟨store.memory.set deviceId record, store.memory.set deviceId record⟩ ↔
      Kept digests platform deviceId record := by
  rw [reopens_iff]
  constructor
  · intro kept
    exact kept deviceId record (Dict.get_set_self _ _ _)
  · intro kept other stored known
    rw [Dict.get_set] at known
    split at known
    · next same =>
        cases known
        exact same ▸ kept
    · exact reopens.kept known

theorem Reopens.erase {store : Persisted Devices} (reopens : Reopens digests platform store)
    (deviceId : PyStr) :
    Reopens digests platform ⟨store.memory.erase deviceId, store.memory.erase deviceId⟩ := by
  rw [reopens_iff]
  intro other stored known
  rw [Dict.get_erase] at known
  split at known
  · cases known
  · exact reopens.kept known

/-! ## Operations -/

/-- A call that returns was given a name and a timestamp the loader takes. -/
def Storable (digests : Digests) (platform : Platform) (devices : Devices) : TrustOperation → Prop
  | .trust deviceId hostname publicKey lastSeenAt now =>
      (∃ next, devices.trust digests deviceId hostname publicKey lastSeenAt now.time = .ok next) →
      isHostname platform (hostname.take 255) = true ∧
        (Timestamp.orNow lastSeenAt now.time).isStorable = true
  | .reject deviceId hostname publicKey now =>
      (∃ next, devices.reject digests deviceId hostname publicKey now.time = .ok next) →
      isHostname platform (hostname.take 255) = true
  | .untrust _ => True
  | .updateLastSeen deviceId timestamp =>
      (∃ next, devices.updateLastSeen deviceId timestamp = some next) →
      timestamp.isStorable = true

/-- From a store that reopens, a call whose write succeeds leaves one that
reopens exactly when it was given what the loader takes. -/
theorem Reopens.perform_iff {store : Persisted Devices} (reopens : Reopens digests platform store)
    {operation : TrustOperation} {written : Bool}
    (writes : Persisted.Writes (trustChange digests) store operation written) :
    Reopens digests platform
        (store.perform (trustChange digests) writeFailed operation written).1 ↔
      Storable digests platform store.memory operation := by
  have nowStorable : ∀ now : Instant, (Timestamp.finite now.time).isStorable = true :=
    fun now => decide_eq_true now.afterEpoch
  cases operation with
  | trust deviceId hostname publicKey lastSeenAt now =>
      have outcome := @trust_cases digests store.memory deviceId hostname publicKey lastSeenAt now.time
      rcases outcome with ⟨error, raised⟩ | ⟨record, valid, derived, fields, done⟩
      · simp [Persisted.perform, trustChange, Storable, raised, Except.map, reopens]
      · have successful := writes _ (by rw [trustChange, done]; rfl)
        have key : record.publicKey = publicKey := by rw [fields]
        have first : record.firstTrustedAt.isStorable = true := by
          rw [fields]
          cases known : store.memory.get deviceId with
          | none => exact nowStorable now
          | some existing =>
              exact ((validateRecord_iff existing).mp (reopens.kept known).valid).2.2.2.2.1
        simp only [Persisted.perform, trustChange, done, Except.map, successful, ↓reduceIte]
        rw [reopens.set_iff, kept_iff (by rw [fields]) (key ▸ valid) (key ▸ derived)
          (.inl (by rw [fields])) first, fields]
        simp [Storable, done]
  | reject deviceId hostname publicKey now =>
      have outcome := @reject_cases digests store.memory deviceId hostname publicKey now.time
      rcases outcome with ⟨error, raised⟩ | ⟨record, valid, derived, fields, done⟩
      · simp [Persisted.perform, trustChange, Storable, raised, Except.map, reopens]
      · have successful := writes _ (by rw [trustChange, done]; rfl)
        have key : record.publicKey = publicKey := by rw [fields]
        have first : record.firstTrustedAt.isStorable = true := by
          rw [fields]
          exact nowStorable now
        simp only [Persisted.perform, trustChange, done, Except.map, successful, ↓reduceIte]
        rw [reopens.set_iff, kept_iff (by rw [fields]) (key ▸ valid) (key ▸ derived)
          (.inr (by rw [fields])) first, fields]
        simp [Storable, done, nowStorable]
  | untrust deviceId =>
      simp only [Storable, iff_true, Persisted.perform, trustChange, untrust]
      cases known : store.memory.get deviceId with
      | none => exact reopens
      | some record =>
          have successful := writes _ (by rw [trustChange, untrust, known]; rfl)
          simpa [successful] using reopens.erase deviceId
  | updateLastSeen deviceId timestamp =>
      cases known : store.memory.get deviceId with
      | none => simpa [Storable, Persisted.perform, trustChange, updateLastSeen, known] using reopens
      | some record =>
          by_cases early : timestamp.withinThirty record.lastSeenAt = true
          · simpa [Storable, Persisted.perform, trustChange, updateLastSeen, known, early]
              using reopens
          · have successful := writes _ (by
              rw [trustChange, updateLastSeen, known]
              simp only [early, Bool.false_eq_true, ↓reduceIte]
              rfl)
            have kept := reopens.kept known
            obtain ⟨valid, hostname, status, derived, first, _⟩ :=
              (validateRecord_iff record).mp kept.valid
            simp only [Persisted.perform, trustChange, updateLastSeen, known, early,
              Bool.false_eq_true, ↓reduceIte, successful]
            rw [reopens.set_iff]
            refine Iff.trans (kept_iff kept.keyed (kept.keyed ▸ valid) derived status first) ?_
            simp [Storable, updateLastSeen, known, early, hostname]

theorem Reopens.assess_eq {store : Persisted Devices} (reopens : Reopens digests platform store)
    (deviceId publicKey : PyStr) :
    (load digests platform store.file).assess deviceId publicKey =
      store.memory.assess deviceId publicKey := by
  rw [assess, assess, reopens deviceId]

/-! ## Restarts -/

/-- A call whose write succeeds, given what the loader takes. -/
def Guarded (digests : Digests) (platform : Platform) (store : Persisted Devices)
    (label : TrustOperation × Bool) : Prop :=
  Persisted.Writes (trustChange digests) store label.1 label.2 ∧
    Storable digests platform store.memory label.1

theorem step_reopens {store next : Persisted Devices} {label : TrustOperation × Bool}
    (reopens : Reopens digests platform store) (guarded : Guarded digests platform store label)
    (stepped : trustStep digests store label = some next) : Reopens digests platform next := by
  cases stepped
  exact (reopens.perform_iff guarded.1).mpr guarded.2

/-- In every run of guarded calls a new store on the same file holds the same
records and gives the same answers; and the next call that writes keeps it so
exactly when it is given what the loader takes. -/
theorem decisions_survive {file : Devices} {labels : List (TrustOperation × Bool)}
    {store : Persisted Devices}
    (run : Run (trustStep digests) (Guarded digests platform)
      ⟨load digests platform file, file⟩ labels store) :
    (∀ deviceId, (load digests platform store.file).get deviceId = store.memory.get deviceId) ∧
    (∀ deviceId publicKey, (load digests platform store.file).assess deviceId publicKey =
      store.memory.assess deviceId publicKey) ∧
    ∀ operation, Reopens digests platform
        (store.perform (trustChange digests) writeFailed operation true).1 ↔
      Storable digests platform store.memory operation := by
  have reopens : Reopens digests platform store :=
    run.invariant (fun _ _ _ holds guarded stepped => step_reopens holds guarded stepped)
      (reopens_load file)
  exact ⟨reopens, fun deviceId publicKey => reopens.assess_eq deviceId publicKey,
    fun operation => reopens.perform_iff fun _ _ => rfl⟩

/-! ## Samples -/

def sampleDigests : Digests := plainCrypto.toDigests

def sampleKey : PyStr := b64encode (seedOctets 1)

def trustSample (hostname : String) : TrustOperation × Bool :=
  (.trust (py "mp-00000000") (py hostname) sampleKey none DirectPeerService.epoch, true)

def emptyStore : Persisted Devices :=
  ⟨load sampleDigests asciiPlatform Dict.empty, Dict.empty⟩

def trustedStore (hostname : String) : Persisted Devices :=
  (emptyStore.perform (trustChange sampleDigests) writeFailed (trustSample hostname).1 true).1

def carolKey : PyStr := b64encode (1 :: List.replicate 31 0)

def bobSeen (timestamp : Time) (written : Bool) : TrustOperation × Bool :=
  (.updateLastSeen (py "mp-00000000") (.finite timestamp), written)

/-- Two decisions, one of which is removed; the writes that fail belong to calls that
find nothing to write. -/
def decisions : List (TrustOperation × Bool) :=
  [trustSample "bob", (.reject (py "mp-01000000") (py "carol") carolKey DirectPeerService.epoch, true),
    bobSeen 20 false, (.untrust (py "mp-02000000"), false), bobSeen 40 true,
    (.untrust (py "mp-01000000"), true)]

/-- A test for calls whose write succeeds, where they make one, and that are given what
the loader takes. -/
def guards (store : Persisted Devices) (label : TrustOperation × Bool) : Bool :=
  (label.2 || match trustChange sampleDigests store.memory label.1 with
    | .ok (some _) => false
    | _ => true) &&
  match label.1 with
  | .trust _ hostname _ lastSeenAt now => isHostname asciiPlatform (hostname.take 255) &&
      (Timestamp.orNow lastSeenAt now.time).isStorable
  | .reject _ hostname _ _ => isHostname asciiPlatform (hostname.take 255)
  | .untrust _ => true
  | .updateLastSeen _ timestamp => timestamp.isStorable

theorem guards_sound (store : Persisted Devices) (label : TrustOperation × Bool)
    (guards : guards store label = true) : Guarded sampleDigests asciiPlatform store label := by
  obtain ⟨operation, written⟩ := label
  simp only [Devices.guards, Bool.and_eq_true, Bool.or_eq_true] at guards
  obtain ⟨writes, storable⟩ := guards
  constructor
  · intro next changed
    rw [changed] at writes
    simpa using writes
  · cases operation with
    | trust deviceId hostname publicKey lastSeenAt now =>
        intro _
        simpa using storable
    | reject deviceId hostname publicKey now => exact fun _ => storable
    | untrust deviceId => trivial
    | updateLastSeen deviceId timestamp => exact fun _ => storable

theorem decisions_executed : (runLabels (fun store label => if guards store label then
    trustStep sampleDigests store label else none) emptyStore decisions).any (fun store =>
      (store.memory.get (py "mp-00000000")).any fun record =>
        record.lastSeenAt = .finite 40) = true := by
  decide +kernel

/-- After these calls bob is known again after a restart, and trusted. -/
theorem bob_survives : ∃ store, Run (trustStep sampleDigests) (Guarded sampleDigests asciiPlatform)
      emptyStore decisions store ∧
    (∃ record, store.memory.get (py "mp-00000000") = some record ∧
      record.lastSeenAt = .finite 40) ∧
    ∀ deviceId, (load sampleDigests asciiPlatform store.file).get deviceId =
      store.memory.get deviceId := by
  obtain ⟨store, executed, seen⟩ := (Option.any_eq_true _ _).mp decisions_executed
  obtain ⟨record, known, last⟩ := (Option.any_eq_true _ _).mp seen
  have run := run_of_checked guards_sound executed
  exact ⟨store, run, ⟨record, known, of_decide_eq_true last⟩, (decisions_survive run).1⟩

theorem unnamed_outcome : (trustedStore "").memory.get (py "mp-00000000") ≠ none ∧
    (load sampleDigests asciiPlatform (trustedStore "").file).get (py "mp-00000000") = none := by
  decide +kernel

/-- A device trusted without a name is forgotten at the next start. -/
theorem unnamed_device_forgotten :
    ¬ ∀ (digests : Digests) (platform : Platform) (file : Devices)
      (labels : List (TrustOperation × Bool)) (store : Persisted Devices),
      Run (trustStep digests) (fun store label =>
        Persisted.Writes (trustChange digests) store label.1 label.2)
        ⟨load digests platform file, file⟩ labels store →
      ∀ deviceId, (load digests platform store.file).get deviceId = store.memory.get deviceId := by
  intro always
  have run : Run (trustStep sampleDigests) (fun store label =>
      Persisted.Writes (trustChange sampleDigests) store label.1 label.2) emptyStore
      [trustSample ""] (trustedStore "") := .single (fun _ _ => rfl) rfl
  obtain ⟨known, dropped⟩ := unnamed_outcome
  rw [always _ _ _ _ _ run] at dropped
  exact known dropped

def bobStore : Persisted Devices := ⟨(trustedStore "bob").memory, (trustedStore "bob").memory⟩

theorem bob_known : (bobStore.memory.get (py "mp-00000000")).isSome = true := by decide +kernel

/-- The book's entry for bob. -/
def bobEntry : AddressBookEntry where
  deviceId := py "mp-00000000"
  friendlyName := py "bob"
  fingerprint := py "0000 0000 0000 0000"
  publicKey := sampleKey
  lastHostname := py "bob"
  lastResolvedIp := none
  transferPort := 5000
  lastSuccessfulConnection := none
  lastConnectionError := none

def bobEndpoint : Endpoint asciiPlatform := ⟨py "bob", 5000, by decide +kernel⟩

/-- The decisions again, where bob is also trusted once more as he is and nothing is written. -/
def trustCalls : List (TrustOperation × Bool) :=
  trustSample "bob" :: ((trustSample "bob").1, false) :: decisions

def bookCalls : List (BookOperation asciiPlatform × Bool) :=
  [(.put bobEntry, true), (.put bobEntry, false),
    (.recordError (py "mp-02000000") (py "Peer unreachable"), false),
    (.recordError bobEntry.deviceId (py "Peer unreachable"), true),
    (.forget (py "mp-01000000"), false),
    (.recordSuccess bobEntry.deviceId bobEndpoint (py "10.0.0.2") DirectPeerService.epoch, true)]

theorem calls_executed :
    (runLabels (fun store label =>
        if Persisted.settles (trustChange sampleDigests) store label.1 label.2 then
          trustStep sampleDigests store label else none) ⟨Dict.empty, Dict.empty⟩ trustCalls).any
      (fun store => store.memory.entries.length = 1) = true ∧
    (runLabels (fun store label =>
        if Persisted.settles (bookChange sampleDigests asciiPlatform) store label.1 label.2 then
          bookStep sampleDigests asciiPlatform store label else none) ⟨Dict.empty, Dict.empty⟩
        bookCalls).any (fun store => (store.memory.get bobEntry.deviceId).any fun entry =>
          entry.lastResolvedIp = some (py "10.0.0.2")) = true := by
  decide +kernel

/-- Both stores are sound over histories with failed writes of what is already there. -/
theorem bob_kept :
    (∃ store, Run (trustStep sampleDigests)
      (Persisted.Sound (trustChange sampleDigests) writeFailed) ⟨Dict.empty, Dict.empty⟩ trustCalls
      store ∧ store.memory.entries.length = 1) ∧
    ∃ store, Run (bookStep sampleDigests asciiPlatform)
      (Persisted.Sound (bookChange sampleDigests asciiPlatform) writeFailed)
      ⟨Dict.empty, Dict.empty⟩ bookCalls store ∧ ∃ entry,
        store.memory.get bobEntry.deviceId = some entry ∧
          entry.lastResolvedIp = some (py "10.0.0.2") := by
  obtain ⟨trusts, books⟩ := stores_sound_iff sampleDigests asciiPlatform
  constructor
  · obtain ⟨store, executed, alone⟩ := (Option.any_eq_true _ _).mp calls_executed.1
    have run := run_of_checked (fun store label => Persisted.settles_sound) executed
    exact ⟨store, (trusts ⟨Dict.empty, Dict.empty⟩ store trustCalls rfl).mpr run, of_decide_eq_true alone⟩
  · obtain ⟨store, executed, reached⟩ := (Option.any_eq_true _ _).mp calls_executed.2
    obtain ⟨entry, known, address⟩ := (Option.any_eq_true _ _).mp reached
    have run := run_of_checked (fun store label => Persisted.settles_sound) executed
    exact ⟨store, (books ⟨Dict.empty, Dict.empty⟩ store bookCalls rfl).mpr run, entry, known,
      of_decide_eq_true address⟩

/-- When it is not, the device is gone from memory and comes back at the next start. -/
theorem failed_removal_splits_store :
    ¬ ∀ (digests : Digests) (start finish : Persisted Devices)
      (labels : List (TrustOperation × Bool)), start.Agrees →
      Run (trustStep digests) anyStep start labels finish → finish.Agrees := by
  intro always
  have agrees := always sampleDigests bobStore _ [(.untrust (py "mp-00000000"), false)] rfl
    (.single trivial rfl)
  obtain ⟨record, known⟩ := Option.isSome_iff_exists.mp bob_known
  have removed : trustChange sampleDigests bobStore.memory (.untrust (py "mp-00000000")) =
      .ok (some (bobStore.memory.erase (py "mp-00000000"))) := by
    simp [trustChange, untrust, known]
  simp only [Persisted.Agrees, Persisted.perform, removed, Bool.false_eq_true, ↓reduceIte] at agrees
  have gone := congrArg (fun devices => devices.get (py "mp-00000000")) agrees
  simp only [Dict.get_erase_self] at gone
  exact absurd known (by rw [show bobStore.memory = bobStore.file from rfl, ← gone]; simp)

end Devices

end DirectTransfer
