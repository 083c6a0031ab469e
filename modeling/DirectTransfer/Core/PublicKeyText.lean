import DirectTransfer.Core.HandshakeAgreement

/-! Public keys as text. Keys are pinned and compared as strings, while their
octets are what they sign with; the decoder takes four strings to each key. -/

set_option autoImplicit false

namespace DirectTransfer

open Library

/-- The character before the padding of a key of thirty-two octets leaves its two
unused bits clear. -/
def CanonicalKey (text : PyStr) : Prop :=
  ∃ value, text[42]?.bind b64Value = some value ∧ value % 4 = 0

/-- A text the decoder accepts, with the key it denotes. -/
def Denotes (digests : Digests) (text : PyStr) (key : Bytes) : Prop :=
  decodePublicKey digests text = .ok key

variable {digests : Digests}

theorem denotes_iff {text : PyStr} {key : Bytes} : Denotes digests text key ↔
    text.length ≤ 64 ∧ digests.b64decode text = some key ∧ key.length = 32 := by
  unfold Denotes decodePublicKey
  constructor
  · intro accepted
    repeat' split at accepted
    all_goals cases accepted
    next short _ decoded sized => exact ⟨Nat.not_lt.mp short, decoded, not_not.mp sized⟩
  · intro accepted
    obtain ⟨short, decoded, sized⟩ := accepted
    simp only [if_neg (Nat.not_lt.mpr short), decoded, sized, ne_eq, not_true_eq_false, if_false]

/-- `encode_public_key` writes what decodes to the same key. -/
theorem denotes_encoded {key : Bytes} (sized : key.length = 32) :
    Denotes digests (b64encode key) key := by
  apply denotes_iff.mpr
  refine ⟨?_, digests.b64decode_b64encode key, sized⟩
  rw [b64encode_length, sized]
  decide

theorem encoded_iff {text : PyStr} {key : Bytes} (standard : digests.b64decode = b64decode)
    (accepted : Denotes digests text key) : b64encode key = text ↔ CanonicalKey text := by
  obtain ⟨_, decoded, sized⟩ := denotes_iff.mp accepted
  rw [standard] at decoded
  exact @Base64.encode_iff text key (base64_of_decode decoded) 10 sized

/-- The strings of keys stand for the keys: both are what the encoder writes,
they are equal exactly where the keys are, and of a device pinned under the one,
the other is assessed as changed only where the keys differ. -/
structure TextsStandForKeys (digests : Digests) (pinned advertised : PyStr)
    (pinnedKey advertisedKey : Bytes) : Prop where
  decodes : ∀ key : Bytes, key.length = 32 → Denotes digests (b64encode key) key
  encodes : b64encode pinnedKey = pinned ∧ b64encode advertisedKey = advertised
  sameKey : pinnedKey = advertisedKey ↔ pinned = advertised
  changed : ∀ (store : TrustStore) (deviceId : PyStr) (record : TrustedDevice),
    store.get deviceId = some record → record.publicKey = pinned →
    (record.status = .trusted ∨ record.status = .rejected) →
    store.assess deviceId advertised = .changed → pinnedKey ≠ advertisedKey

/-- The key of thirty-two zero octets, as the encoder writes it. -/
def zeroKeyText : PyStr := List.replicate 43 (chr 'A') ++ [chr '=']

/-- The same key with one of the unused bits set. -/
def looseKeyText : PyStr := List.replicate 42 (chr 'A') ++ [chr 'B', chr '=']

theorem zeroKeyText_denotes : Denotes plainCrypto.toDigests zeroKeyText (List.replicate 32 0) := by
  apply denotes_iff.mpr
  refine ⟨by decide, ?_, by decide⟩
  show b64decode zeroKeyText = _
  decide +kernel

theorem looseKeyText_denotes :
    Denotes plainCrypto.toDigests looseKeyText (List.replicate 32 0) := by
  apply denotes_iff.mpr
  refine ⟨by decide, ?_, by decide⟩
  show b64decode looseKeyText = _
  decide +kernel

/-- An accepted text is one of its key's only texts exactly when it is canonical. -/
theorem key_text_canonical_iff {digests : Digests} {pinned advertised : PyStr}
    {pinnedKey advertisedKey : Bytes} (standard : digests.b64decode = b64decode)
    (pins : Denotes digests pinned pinnedKey) (advertises : Denotes digests advertised advertisedKey) :
    TextsStandForKeys digests pinned advertised pinnedKey advertisedKey ↔
      CanonicalKey pinned ∧ CanonicalKey advertised := by
  rw [← encoded_iff standard pins, ← encoded_iff standard advertises]
  constructor
  · intro stands
    exact stands.encodes
  · intro encodes
    obtain ⟨pinnedText, advertisedText⟩ := encodes
    have sameKey : pinnedKey = advertisedKey ↔ pinned = advertised := by
      constructor
      · intro same
        rw [← pinnedText, ← advertisedText, same]
      · intro same
        have decoded := (denotes_iff.mp pins).2.1
        rw [same, (denotes_iff.mp advertises).2.1] at decoded
        exact (Option.some.inj decoded).symm
    constructor
    · exact fun key sized => denotes_encoded sized
    · exact ⟨pinnedText, advertisedText⟩
    · exact sameKey
    · intro store deviceId record found text decided assessed same
      have equal := sameKey.mp same
      unfold TrustStore.assess Devices.assess at assessed
      split at assessed
      · cases assessed
      · simp only [TrustStore.get] at found
        rw [found] at assessed
        simp only [text, equal, ne_eq, not_true_eq_false, if_false] at assessed
        rw [assessed] at decided
        cases decided with
        | inl trusted => cases trusted
        | inr rejected => cases rejected

theorem zero_key_text_stands : TextsStandForKeys plainCrypto.toDigests zeroKeyText zeroKeyText
    (List.replicate 32 0) (List.replicate 32 0) := by
  have canonical : CanonicalKey zeroKeyText := ⟨0, by decide +kernel, rfl⟩
  exact (key_text_canonical_iff rfl zeroKeyText_denotes zeroKeyText_denotes).mpr
    ⟨canonical, canonical⟩

/-- A device pinned under the text of the encoder, seen under the other one. -/
def looseStore : TrustStore where
  devices := Dict.empty.set (py "mp-00000000") ⟨py "mp-00000000", py "peer", zeroKeyText,
    py "0000 0000 0000 0000", .finite 0, .finite 0, .trusted⟩
  file := Dict.empty

/-- Both texts are accepted and denote one key, which the store assesses as
changed although the octets are the same. -/
theorem loose_text_changed :
    Denotes plainCrypto.toDigests zeroKeyText (List.replicate 32 0) ∧
    Denotes plainCrypto.toDigests looseKeyText (List.replicate 32 0) ∧
    b64encode (List.replicate 32 0) ≠ looseKeyText ∧ zeroKeyText ≠ looseKeyText ∧
    looseStore.assess (py "mp-00000000") looseKeyText = .changed ∧
    ¬ TextsStandForKeys plainCrypto.toDigests zeroKeyText looseKeyText (List.replicate 32 0)
      (List.replicate 32 0) := by
  have differ : zeroKeyText ≠ looseKeyText := by decide
  refine ⟨zeroKeyText_denotes, looseKeyText_denotes, by decide +kernel, differ, by decide, ?_⟩
  intro stands
  exact differ (stands.sameKey.mp rfl)

end DirectTransfer
