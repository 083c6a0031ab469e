import DirectTransfer.Core.IdentityFile
import DirectTransfer.Core.RecordLoadingProperties
import DirectTransfer.Core.HandshakeAgreement

/-! When a device keeps its identity. An error of the file system on a valid key
counts as no key, and a new one replaces it. -/

set_option autoImplicit false

namespace DirectTransfer

open Library

/-- The private key `identity.key` holds. -/
def heldKey (digests : Digests) (directory : IdentityDirectory) : Option Bytes :=
  directory.key.bind (decodePrivateKey digests)

/-- The identity is that of the private key. -/
structure BelongsTo (crypto : Crypto) (privateKey : Bytes) (identity : LoadedIdentity) : Prop where
  key : identity.privateKey = privateKey
  encoded : identity.publicKey = b64encode (crypto.ed25519Public privateKey)
  derived : deviceIdFromPublicKey crypto.toDigests identity.publicKey = .ok identity.deviceId
  shown : fingerprintFromPublicKey crypto.toDigests identity.publicKey = .ok identity.fingerprint

/-- An identity that was loaded is one that can sign. -/
def BelongsTo.deviceIdentity {crypto : Crypto} {privateKey : Bytes} {identity : LoadedIdentity}
    (belongs : BelongsTo crypto privateKey identity) : DeviceIdentity crypto where
  privateKey := privateKey
  publicKey := identity.publicKey
  deviceId := identity.deviceId
  encoded := belongs.encoded
  derived := belongs.derived

def WriteResults.succeed (results : WriteResults) : Prop :=
  results.mkdir = .success ∧ results.mkstemp = .success ∧ results.write = .success ∧
    results.chmod = .success ∧ results.replace = .success

/-- The call reads the key, or raises before it has replaced it. -/
def LoadResults.Spares (results : LoadResults) (privateKey : Bytes) : Prop :=
  results.keyStat = .osError ∨
  (results.keyStat = .success ∧ results.keyRead = .success ∧ results.keyChmod = .success) ∨
  ¬ results.keyWrite.succeed ∨
  results.generated.val = privateKey

variable (crypto : Crypto) (format : IdentityFormat)

/-- Every call returns the identity of the key or raises, and the key is still there. -/
def KeepsIdentity (privateKey : Bytes) : IdentityDirectory → List LoadResults → Prop
  | _, [] => True
  | directory, results :: rest =>
      let (after, outcome) := loadOrCreate crypto format results directory
      (∀ identity, outcome = .ok identity → BelongsTo crypto privateKey identity) ∧
      heldKey crypto.toDigests after = some privateKey ∧
      KeepsIdentity privateKey after rest

variable {crypto : Crypto} {format : IdentityFormat}

/-! ## Files -/

theorem atomicWriteFile_cases (results : WriteResults) (data : Bytes) (held : Option Bytes) :
    (results.succeed ∧ atomicWriteFile results data held = (some data, .ok ())) ∨
    (¬ results.succeed ∧ atomicWriteFile results data held = (held, .error osFailure)) := by
  obtain ⟨mkdir, mkstemp, write, chmod, replace⟩ := results
  unfold atomicWriteFile WriteResults.succeed
  cases mkdir <;> cases mkstemp <;> cases write <;> cases chmod <;> cases replace <;> simp

theorem not_isOctetSpace_of_plain {point : CodePoint} (plain : 0x20 < point.val ∧ point.val ≤ 0x7E) :
    isOctetSpace (UInt8.ofNat point.val) = false := by
  have value : (UInt8.ofNat point.val).toNat = point.val := toNat_ofNat_octet (by omega)
  simp only [isOctetSpace, Bool.or_eq_false_iff, Bool.and_eq_false_iff, decide_eq_false_iff_not]
  constructor
  · intro same
    have octet := congrArg UInt8.toNat same
    rw [value] at octet
    simp at octet
    omega
  · rw [UInt8.le_iff_toNat_le, UInt8.le_iff_toNat_le, value]
    right
    simp
    omega

theorem dropWhile_of_none {octets : Bytes} (inked : ∀ octet ∈ octets, isOctetSpace octet = false) :
    octets.dropWhile isOctetSpace = octets := by
  cases octets with
  | nil => rfl
  | cons first rest =>
      exact List.dropWhile_cons_of_neg (by simp [inked first List.mem_cons_self])

/-- Only the line end is taken off a file without other spaces. -/
theorem stripOctets_newline {octets : Bytes} (inked : ∀ octet ∈ octets, isOctetSpace octet = false) :
    stripOctets (octets ++ [0x0A]) = octets := by
  cases octets with
  | nil => rfl
  | cons first rest =>
      have start : (first :: rest ++ [0x0A]).dropWhile isOctetSpace = first :: rest ++ [0x0A] :=
        List.dropWhile_cons_of_neg (by simp [inked first List.mem_cons_self])
      have end_ : ((first :: rest ++ [0x0A]).reverse).dropWhile isOctetSpace =
          (first :: rest).reverse := by
        rw [List.reverse_append, List.reverse_singleton, List.singleton_append,
          List.dropWhile_cons_of_pos (by decide)]
        apply dropWhile_of_none
        intro octet member
        exact inked octet (List.mem_reverse.mp member)
      rw [stripOctets, start, end_, List.reverse_reverse]

theorem octetText_encodeAscii {text : PyStr} (plain : Plain text) :
    octetText (encodeAscii text) = text := by
  rw [octetText, encodeAscii, List.map_map]
  conv_rhs => rw [← List.map_id text]
  apply List.map_congr_left
  intro point member
  have bound := plain point member
  have value : (UInt8.ofNat point.val).toNat = point.val := toNat_ofNat_octet (by omega)
  apply Fin.ext
  simp only [Function.comp_apply, id_eq, value]
  exact codePoint_val point.isLt

/-- A key that was written is read back. -/
theorem decodePrivateKey_keyFile (digests : Digests) {privateKey : Bytes}
    (sized : privateKey.length = 32) :
    decodePrivateKey digests (keyFile privateKey) = some privateKey := by
  have plain := b64encode_plain privateKey
  have inked : ∀ octet ∈ encodeAscii (b64encode privateKey), isOctetSpace octet = false := by
    intro octet member
    obtain ⟨point, pointMember, same⟩ := List.mem_map.mp member
    rw [← same]
    apply not_isOctetSpace_of_plain
    refine ⟨Nat.lt_of_le_of_ne (plain point pointMember).1 ?_, (plain point pointMember).2⟩
    intro space
    have blank : point = chr ' ' := Fin.ext space.symm
    exact space_not_mem_b64encode privateKey (blank ▸ pointMember)
  rw [decodePrivateKey, keyFile, stripOctets_newline inked, octetText_encodeAscii plain,
    digests.b64decode_b64encode]
  simp [sized]

/-! ## One call -/

theorem describeIdentity_belongs {results : LoadResults} {privateKey : Bytes}
    {metadata : Option Bytes} {identity : LoadedIdentity}
    (described : describeIdentity crypto format results privateKey metadata = .ok identity) :
    BelongsTo crypto privateKey identity := by
  unfold describeIdentity at described
  obtain ⟨stored, _, described⟩ := except_bind_ok described
  obtain ⟨deviceId, derived, described⟩ := except_bind_ok described
  obtain ⟨fingerprint, shown, described⟩ := except_bind_ok described
  obtain ⟨created, _, described⟩ := except_bind_ok described
  cases described
  exact ⟨rfl, rfl, derived, shown⟩

theorem finishLoading_key (results : LoadResults) (directory : IdentityDirectory)
    (privateKey : Bytes) :
    (finishLoading crypto format results directory privateKey).1.key = directory.key := by
  unfold finishLoading
  split <;> rfl

theorem finishLoading_belongs {results : LoadResults} {directory : IdentityDirectory}
    {privateKey : Bytes} {identity : LoadedIdentity}
    (returned : (finishLoading crypto format results directory privateKey).2 = .ok identity) :
    BelongsTo crypto privateKey identity := by
  unfold finishLoading at returned
  split at returned
  · cases returned
  · next described =>
      dsimp only at returned
      cases written : (atomicWriteFile results.metadataWrite (metadataFile format _)
          directory.metadata).2 with
      | error error => rw [written] at returned; cases returned
      | ok done =>
          rw [written] at returned
          cases returned
          exact describeIdentity_belongs described

theorem decodePrivateKey_length {digests : Digests} {octets privateKey : Bytes}
    (decoded : decodePrivateKey digests octets = some privateKey) : privateKey.length = 32 := by
  rw [decodePrivateKey, Option.filter_eq_some_iff] at decoded
  exact of_decide_eq_true decoded.2

/-- Only an error of `is_file` that it raises, or no error at all, spares a valid key. -/
theorem loadPrivateKey_of_held {digests : Digests} {results : LoadResults} {octets privateKey : Bytes}
    (decoded : decodePrivateKey digests octets = some privateKey) :
    (results.keyStat = .osError ∧
      loadPrivateKey digests results (some octets) = .error osFailure) ∨
    ((results.keyStat = .success ∧ results.keyRead = .success ∧ results.keyChmod = .success) ∧
      loadPrivateKey digests results (some octets) = .ok (some privateKey)) ∨
    ((results.keyStat ≠ .osError ∧
        ¬ (results.keyStat = .success ∧ results.keyRead = .success ∧ results.keyChmod = .success)) ∧
      loadPrivateKey digests results (some octets) = .ok none) := by
  unfold loadPrivateKey
  cases stat : results.keyStat with
  | osError => exact .inl ⟨rfl, rfl⟩
  | missing => simp
  | success =>
      cases read : results.keyRead with
      | osError => simp
      | success =>
          cases chmod : results.keyChmod with
          | osError => simp [decoded]
          | success => simp [decoded]

/-- A key that is found by a call stands in the file. -/
theorem held_of_loadPrivateKey {digests : Digests} {results : LoadResults} {key : Option Bytes}
    {privateKey : Bytes} (loaded : loadPrivateKey digests results key = .ok (some privateKey)) :
    key.bind (decodePrivateKey digests) = some privateKey := by
  unfold loadPrivateKey at loaded
  split at loaded
  · cases loaded
  · cases loaded
  · cases loaded
  · next octets =>
      split at loaded
      · cases loaded
      · split at loaded
        · cases loaded
        · next raw decoded =>
            split at loaded
            · cases loaded
            · cases loaded
              exact decoded

/-- A call that returns leaves the key of the identity it returns. -/
theorem held_of_returned {results : LoadResults} {directory : IdentityDirectory}
    {identity : LoadedIdentity}
    (returned : (loadOrCreate crypto format results directory).2 = .ok identity) :
    heldKey crypto.toDigests (loadOrCreate crypto format results directory).1 =
      some identity.privateKey := by
  unfold loadOrCreate at returned ⊢
  cases loaded : loadPrivateKey crypto.toDigests results directory.key with
  | error error => rw [loaded] at returned; cases returned
  | ok found =>
      rw [loaded] at returned
      cases found with
      | some privateKey =>
          dsimp only at returned ⊢
          rw [heldKey, finishLoading_key, held_of_loadPrivateKey loaded,
            (finishLoading_belongs returned).key]
      | none =>
          dsimp only at returned ⊢
          cases atomicWriteFile_cases results.keyWrite (keyFile results.generated.val)
              directory.key with
          | inr failed =>
              rw [failed.2] at returned
              cases returned
          | inl written =>
              rw [written.2] at returned ⊢
              rw [heldKey, finishLoading_key, (finishLoading_belongs returned).key]
              exact decodePrivateKey_keyFile crypto.toDigests results.generated.property

/-- One call on a directory that holds a key. -/
theorem call_keeps_iff {results : LoadResults} {directory : IdentityDirectory} {privateKey : Bytes}
    (held : heldKey crypto.toDigests directory = some privateKey) :
    ((∀ identity, (loadOrCreate crypto format results directory).2 = .ok identity →
        BelongsTo crypto privateKey identity) ∧
      heldKey crypto.toDigests (loadOrCreate crypto format results directory).1 =
        some privateKey) ↔
    results.Spares privateKey := by
  obtain ⟨key, metadata⟩ := directory
  obtain ⟨octets, stands, decoded⟩ := Option.bind_eq_some_iff.mp held
  have stands : key = some octets := stands
  subst stands
  unfold loadOrCreate LoadResults.Spares
  rcases @loadPrivateKey_of_held crypto.toDigests results octets privateKey decoded with raises | reads | loses
  · rw [raises.2]
    refine iff_of_true ⟨?_, held⟩ (.inl raises.1)
    intro identity returned
    cases returned
  · rw [reads.2]
    refine iff_of_true ⟨fun _ returned => finishLoading_belongs returned, ?_⟩ (.inr (.inl reads.1))
    rw [heldKey, finishLoading_key]
    exact held
  · rw [loses.2]
    dsimp only
    cases atomicWriteFile_cases results.keyWrite (keyFile results.generated.val)
        (some octets) with
    | inr failed =>
        rw [failed.2]
        refine iff_of_true ⟨?_, held⟩ (.inr (.inr (.inl failed.1)))
        intro identity returned
        cases returned
    | inl written =>
        rw [written.2]
        have now : heldKey crypto.toDigests (finishLoading crypto format results
            ⟨some (keyFile results.generated.val), metadata⟩ results.generated.val).1 =
            some results.generated.val := by
          rw [heldKey, finishLoading_key]
          exact decodePrivateKey_keyFile crypto.toDigests results.generated.property
        constructor
        · intro kept
          exact .inr (.inr (.inr (Option.some.inj (now.symm.trans kept.2))))
        · intro spares
          have same : results.generated.val = privateKey := by
            rcases spares with raises | reads | fails | same
            · exact absurd raises loses.1.1
            · exact absurd reads loses.1.2
            · exact absurd written.1 fails
            · exact same
          refine ⟨?_, now.trans (congrArg some same)⟩
          intro identity returned
          exact same ▸ finishLoading_belongs returned

/-! ## Any number of calls -/

theorem keepsIdentity_iff {privateKey : Bytes} {directory : IdentityDirectory}
    (held : heldKey crypto.toDigests directory = some privateKey) (calls : List LoadResults) :
    KeepsIdentity crypto format privateKey directory calls ↔
      ∀ results ∈ calls, results.Spares privateKey := by
  induction calls generalizing directory with
  | nil => simp [KeepsIdentity]
  | cons results rest ih =>
      have one := @call_keeps_iff crypto format results directory privateKey held
      constructor
      · intro keeps
        obtain ⟨returns, stays, later⟩ := keeps
        have spares := one.mp ⟨returns, stays⟩
        intro other member
        cases member with
        | head => exact spares
        | tail _ member => exact (ih stays).mp later other member
      · intro spares
        obtain ⟨returns, stays⟩ := one.mpr (spares results List.mem_cons_self)
        exact ⟨returns, stays, (ih stays).mpr fun other member =>
          spares other (List.mem_cons_of_mem _ member)⟩

/-- A key that the directory holds, or that the first successful call has left there, is
kept by any further calls exactly when each of them spares it. -/
theorem identity_kept_iff (crypto : Crypto) (format : IdentityFormat)
    (directory : IdentityDirectory) (calls : List LoadResults) :
    (∀ privateKey, heldKey crypto.toDigests directory = some privateKey →
      (KeepsIdentity crypto format privateKey directory calls ↔
        ∀ results ∈ calls, results.Spares privateKey)) ∧
    (∀ first identity, (loadOrCreate crypto format first directory).2 = .ok identity →
      (KeepsIdentity crypto format identity.privateKey
          (loadOrCreate crypto format first directory).1 calls ↔
        ∀ results ∈ calls, results.Spares identity.privateKey)) := by
  constructor
  · intro privateKey held
    exact keepsIdentity_iff held calls
  · intro first identity returned
    exact keepsIdentity_iff (held_of_returned returned) calls

/-- A reader that finds no JSON, for directories without metadata. -/
def bareFormat : IdentityFormat where
  reader := {
    utf8 := fun octets => some (octetText octets)
    parse := fun _ => .error (raised .jsonDecodeError "Expecting value")
    intOf := fun _ => none
    formed := by intro text value parsed; cases parsed
    failures := by intro text error failed; cases failed; exact .inl rfl }
  floatOfInt := fun value => .finite value
  floatOfText := fun _ => none
  indented := fun value => value.dumps quotientFloats

def allWritten : WriteResults := ⟨.success, .success, .success, .success, .success⟩

/-- A call on a directory without metadata in which only `chmod` may fail. -/
def loadWith (chmod : CallResult) : LoadResults :=
  ⟨.success, .success, chmod, ⟨seedOctets 2, by decide⟩, allWritten, .success, .success, .finite 0,
    allWritten⟩

def seededDirectory : IdentityDirectory := ⟨some (keyFile (seedOctets 1)), none⟩

theorem seededDirectory_held :
    heldKey plainCrypto.toDigests seededDirectory = some (seedOctets 1) := by
  have sized : (seedOctets 1).length = 32 := by decide
  exact decodePrivateKey_keyFile plainCrypto.toDigests sized

def seededIdentity (seed : UInt8) : LoadedIdentity :=
  ⟨py "mp-00000000", b64encode (seedOctets seed), py "0000 0000 0000 0000", .finite 0,
    seedOctets seed⟩

/-- Two calls on a key, and two after a first one. -/
theorem seeded_identity_kept :
    (KeepsIdentity plainCrypto bareFormat (seedOctets 1) seededDirectory
        [loadWith .success, loadWith .osError] ↔
      ∀ results ∈ [loadWith .success, loadWith .osError], results.Spares (seedOctets 1)) ∧
    (KeepsIdentity plainCrypto bareFormat (seedOctets 1)
        (loadOrCreate plainCrypto bareFormat (loadWith .success) seededDirectory).1
        [loadWith .success] ↔
      ∀ results ∈ [loadWith .success], results.Spares (seedOctets 1)) := by
  have returned : (loadOrCreate plainCrypto bareFormat (loadWith .success) seededDirectory).2 =
      .ok (seededIdentity 1) := by decide +kernel
  exact ⟨(identity_kept_iff plainCrypto bareFormat seededDirectory _).1 _ seededDirectory_held,
    (identity_kept_iff plainCrypto bareFormat seededDirectory _).2 _ _ returned⟩

/-- The key was read, its permissions could not be set, and another key took its place. -/
theorem chmod_error_discards_key :
    heldKey plainCrypto.toDigests seededDirectory = some (seedOctets 1) ∧
    (loadOrCreate plainCrypto bareFormat (loadWith .osError) seededDirectory).2 =
      .ok (seededIdentity 2) ∧
    heldKey plainCrypto.toDigests
      (loadOrCreate plainCrypto bareFormat (loadWith .osError) seededDirectory).1 =
        some (seedOctets 2) := by
  have returned : (loadOrCreate plainCrypto bareFormat (loadWith .osError) seededDirectory).2 =
      .ok (seededIdentity 2) := by decide +kernel
  exact ⟨seededDirectory_held, returned, held_of_returned returned⟩

end DirectTransfer
