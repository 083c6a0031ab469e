import DirectTransfer.Core.Trust
import DirectTransfer.Library.JsonText

/-! Which records of the trust store a new process reads back as they were written. -/

set_option autoImplicit false

namespace DirectTransfer

open Library

namespace TrustStore

variable {digests : Digests} {platform : Platform}

theorem validate_ok {deviceId publicKey : PyStr}
    (valid : validate digests deviceId publicKey = .ok ()) :
    isDeviceId deviceId = true ∧ deviceIdFromPublicKey digests publicKey = .ok deviceId := by
  unfold validate at valid
  simp only [bind, Except.bind, pure, Except.pure, throw, throwThe, MonadExceptOf.throw] at valid
  split at valid
  · cases valid
  split at valid
  · cases valid
  next pattern =>
  split at valid
  · cases valid
  next expected derived =>
  split at valid
  · cases valid
  next same =>
  exact ⟨by simpa using pattern, by rw [derived, not_not.mp same]⟩

/-- A name without surrogates is read back as it was written. -/
theorem joinPairs_of_printable {name : PyStr} (printable : name.all platform.isPrintable = true) :
    joinPairs name = name :=
  joinPairs_of_pairFree (pairFree_of_no_surrogate fun point member =>
    platform.printable_not_surrogate point (List.all_eq_true.mp printable point member))

end TrustStore

namespace Devices

variable {digests : Digests} {platform : Platform}

/-- A record the loader keeps as it is. -/
structure Kept (digests : Digests) (platform : Platform) (deviceId : PyStr)
    (record : TrustedDevice) : Prop where
  keyed : record.deviceId = deviceId
  valid : validateRecord digests platform record = .ok ()
  stable : reread record = record

theorem validateRecord_iff (record : TrustedDevice) :
    validateRecord digests platform record = .ok () ↔
      TrustStore.validate digests record.deviceId record.publicKey = .ok () ∧
      isHostname platform record.hostname = true ∧
      (record.status = .trusted ∨ record.status = .rejected) ∧
      fingerprintFromPublicKey digests record.publicKey = .ok record.fingerprint ∧
      record.firstTrustedAt.isStorable = true ∧ record.lastSeenAt.isStorable = true := by
  unfold validateRecord
  simp only [bind, Except.bind, pure, Except.pure, throw, throwThe, MonadExceptOf.throw]
  constructor
  · intro valid
    split at valid
    · cases valid
    next identity =>
    split at valid
    · cases valid
    next hostname =>
    split at valid
    · cases valid
    next status =>
    split at valid
    · cases valid
    next fingerprint derived =>
    split at valid
    · cases valid
    next same =>
    split at valid
    · cases valid
    next times =>
    refine ⟨identity, by simpa using hostname, ?_, ?_, ?_⟩
    · by_contra neither
      exact status (not_or.mp neither)
    · rw [derived, not_not.mp same]
    · simpa [not_or] using times
  · rintro ⟨identity, hostname, status, fingerprint, first, last⟩
    have known : ¬ (record.status ≠ .trusted ∧ record.status ≠ .rejected) := by
      rintro ⟨untrusted, unrejected⟩
      exact status.elim untrusted unrejected
    simp [identity, hostname, known, fingerprint, first, last]

theorem reread_stable {record : TrustedDevice} (hostname : isHostname platform record.hostname = true) :
    reread record = record := by
  simp only [isHostname, Bool.and_eq_true] at hostname
  rw [reread, TrustStore.joinPairs_of_printable hostname.2]

theorem load_get (file : Devices) (deviceId : PyStr) :
    (load digests platform file).get deviceId = ((file.get deviceId).map reread).filter
      fun record => record.deviceId = deviceId && (validateRecord digests platform record).isOk := by
  rw [load, Dict.get_filter, Dict.get_map]

/-- What the loader returns under a key, it would return again. -/
theorem kept_of_load {file : Devices} {deviceId : PyStr} {record : TrustedDevice}
    (loaded : (load digests platform file).get deviceId = some record) :
    Kept digests platform deviceId record := by
  rw [load_get, Option.filter_eq_some_iff] at loaded
  obtain ⟨_, checks⟩ := loaded
  simp only [Bool.and_eq_true, decide_eq_true_eq] at checks
  have valid : validateRecord digests platform record = .ok () := by
    cases checked : validateRecord digests platform record with
    | error error => simp [checked, Except.isOk, Except.toBool] at checks
    | ok value => rfl
  exact ⟨checks.1, valid, reread_stable ((validateRecord_iff record).mp valid).2.1⟩

theorem load_of_kept {file : Devices} {deviceId : PyStr} {record : TrustedDevice}
    (stored : file.get deviceId = some record) (kept : Kept digests platform deviceId record) :
    (load digests platform file).get deviceId = some record := by
  rw [load_get, stored, Option.map_some, kept.stable]
  simp [Option.filter, kept.keyed, kept.valid, Except.isOk, Except.toBool]

theorem kept_iff {deviceId : PyStr} {record : TrustedDevice} (keyed : record.deviceId = deviceId)
    (valid : TrustStore.validate digests deviceId record.publicKey = .ok ())
    (derived : fingerprintFromPublicKey digests record.publicKey = .ok record.fingerprint)
    (status : record.status = .trusted ∨ record.status = .rejected)
    (first : record.firstTrustedAt.isStorable = true) :
    Kept digests platform deviceId record ↔
      isHostname platform record.hostname = true ∧ record.lastSeenAt.isStorable = true := by
  constructor
  · intro kept
    obtain ⟨_, hostname, _, _, _, last⟩ := (validateRecord_iff record).mp kept.valid
    exact ⟨hostname, last⟩
  · rintro ⟨hostname, last⟩
    have checked := (@validateRecord_iff digests platform record).mpr
      ⟨keyed ▸ valid, hostname, status, derived, first, last⟩
    exact ⟨keyed, checked, reread_stable hostname⟩

/-! ## Decisions -/

theorem trust_cases (devices : Devices) (deviceId hostname publicKey : PyStr)
    (lastSeenAt : Option Timestamp) (now : Time) :
    (∃ error, devices.trust digests deviceId hostname publicKey lastSeenAt now = .error error) ∨
    ∃ record, TrustStore.validate digests deviceId publicKey = .ok () ∧
      fingerprintFromPublicKey digests publicKey = .ok record.fingerprint ∧
      record = { record with
        deviceId, publicKey, hostname := hostname.take 255
        firstTrustedAt := ((devices.get deviceId).map TrustedDevice.firstTrustedAt).getD
          (.finite now)
        lastSeenAt := Timestamp.orNow lastSeenAt now, status := .trusted } ∧
      devices.trust digests deviceId hostname publicKey lastSeenAt now =
        .ok (devices.set deviceId record, record) := by
  unfold trust
  cases valid : TrustStore.validate digests deviceId publicKey with
  | error error => exact .inl ⟨error, rfl⟩
  | ok _ =>
      cases derived : fingerprintFromPublicKey digests publicKey with
      | error error => exact .inl ⟨error, rfl⟩
      | ok fingerprint =>
          cases devices.get deviceId with
          | none => exact .inr ⟨_, rfl, rfl, rfl, rfl⟩
          | some existing => exact .inr ⟨_, rfl, rfl, rfl, rfl⟩

theorem reject_cases (devices : Devices) (deviceId hostname publicKey : PyStr) (now : Time) :
    (∃ error, devices.reject digests deviceId hostname publicKey now = .error error) ∨
    ∃ record, TrustStore.validate digests deviceId publicKey = .ok () ∧
      fingerprintFromPublicKey digests publicKey = .ok record.fingerprint ∧
      record = { record with
        deviceId, publicKey, hostname := hostname.take 255, firstTrustedAt := .finite now
        lastSeenAt := .finite now, status := .rejected } ∧
      devices.reject digests deviceId hostname publicKey now =
        .ok (devices.set deviceId record, record) := by
  unfold reject
  cases valid : TrustStore.validate digests deviceId publicKey with
  | error error => exact .inl ⟨error, rfl⟩
  | ok _ =>
      cases derived : fingerprintFromPublicKey digests publicKey with
      | error error => exact .inl ⟨error, rfl⟩
      | ok fingerprint => exact .inr ⟨_, rfl, rfl, rfl, rfl⟩

end Devices

end DirectTransfer
