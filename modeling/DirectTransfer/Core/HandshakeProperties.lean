import DirectTransfer.Core.Pairing

/-! Who signed a hello that a device accepts. A signature covers the domain and
every entry but itself, and the canonical octets determine the entries, so the
run that signed an accepted hello agrees with it on all of them. -/

set_option autoImplicit false

namespace DirectTransfer

open Library

variable {crypto : Crypto}

/-! ## The hellos honest devices create -/

theorem get_unsigned {payload : Json} {key : PyStr} (other : key ≠ py "signature") :
    (unsigned payload).get key = payload.get key := by
  cases payload with
  | obj fields =>
      simp only [unsigned, Json.get]
      induction fields with
      | nil => rfl
      | cons field rest ih =>
          obtain ⟨name, value⟩ := field
          by_cases signature : name = py "signature"
          · have apart : name ≠ key := fun same => other (same ▸ signature)
            rw [List.filter_cons_of_neg (by simp [signature]), ih]
            simp [findEntry, apart]
          · rw [List.filter_cons_of_pos (by simp [signature])]
            simp only [findEntry, ih]
  | null | bool | int | float | str | arr => rfl

theorem get_unsigned_signature (payload : Json) : (unsigned payload).get (py "signature") = none := by
  cases payload with
  | obj fields =>
      refine findEntry_eq_none_iff.mpr fun member => ?_
      obtain ⟨field, kept, same⟩ := List.mem_map.mp member
      simpa [same] using (List.mem_filter.mp kept).2
  | null | bool | int | float | str | arr => rfl

theorem unsigned_wellFormed {payload : Json} (formed : payload.WellFormed) :
    (unsigned payload).WellFormed := by
  cases payload with
  | obj fields =>
      refine ⟨formed.1.sublist (List.filter_sublist.map Prod.fst), ?_⟩
      rw [Json.wellFormedFields_iff]
      intro field member
      exact (Json.wellFormedFields_iff fields).mp formed.2 field (List.mem_of_mem_filter member)
  | null | bool | int | float | str | arr => exact formed

/-- Distinct plain keys with plain texts and numbers under them. -/
structure PlainFields (fields : List (PyStr × Json)) : Prop where
  unique : (fields.map Prod.fst).Nodup
  keys : ∀ field ∈ fields, PairFree field.1
  values : ∀ field ∈ fields, (∃ text, field.2 = .str text ∧ Plain text) ∨
    ∃ number, field.2 = .int number

namespace PlainFields

variable {fields : List (PyStr × Json)}

theorem wellFormed (plain : PlainFields fields) : (Json.obj fields).WellFormed := by
  refine ⟨plain.unique, (Json.wellFormedFields_iff fields).mpr fun field member => ?_⟩
  refine ⟨plain.keys field member, ?_⟩
  rcases plain.values field member with ⟨text, written, isPlain⟩ | ⟨number, written⟩
  · rw [written]; exact isPlain.pairFree
  · rw [written]; trivial

theorem flat (plain : PlainFields fields) : (Json.obj fields).Flat := by
  intro key value found
  rcases plain.values _ (findEntry_mem found) with ⟨text, written, _⟩ | ⟨number, written⟩
  · rw [show value = .str text from written]; rfl
  · rw [show value = .int number from written]; rfl

end PlainFields

/-- The fields of a session hello, with or without its signature. -/
theorem helloFields_plain {role : String} (rolePlain : Plain (py role))
    (identity : DeviceIdentity crypto) (ephemeralKey nonce : Bytes) {hash : Option PyStr}
    (hashPlain : ∀ text, hash = some text → Plain text) {signature : PyStr}
    (signaturePlain : Plain signature) :
    PlainFields (helloFields role identity ephemeralKey nonce hash ++
      [(py "signature", .str signature)]) := by
  have texts : Plain (py "hello") := forall_of_all (by decide)
  have ephemeral := b64encode_plain ephemeralKey
  have nonces := b64encode_plain nonce
  cases hash with
  | none =>
      refine ⟨by simp [helloFields], by simp [helloFields], ?_⟩
      simp [helloFields, texts, rolePlain, identity.deviceId_plain, identity.publicKey_plain,
        ephemeral, nonces, signaturePlain]
  | some text =>
      refine ⟨by simp [helloFields], by simp [helloFields], ?_⟩
      simp [helloFields, texts, rolePlain, identity.deviceId_plain, identity.publicKey_plain,
        ephemeral, nonces, signaturePlain, hashPlain text rfl]

theorem createHello_plain (floats : FloatRepr) {role : String} (rolePlain : Plain (py role))
    (identity : DeviceIdentity crypto) (ephemeralKey nonce : Bytes) (hash : Option PyStr)
    (hashPlain : ∀ text, hash = some text → Plain text) :
    ∃ fields, createHello floats role identity ephemeralKey nonce hash = .obj fields ∧
      PlainFields fields :=
  ⟨_, rfl, helloFields_plain rolePlain identity ephemeralKey nonce hashPlain (b64encode_plain _)⟩

theorem role_plain : Plain (py "client") ∧ Plain (py "server") :=
  ⟨forall_of_all (by decide), forall_of_all (by decide)⟩

/-- The same entries, the signature apart. -/
def SameEntries (left right : Json) : Prop :=
  ∀ key, key ≠ py "signature" → left.get key = right.get key

theorem SameEntries.field {left right : Json} (same : SameEntries left right) (key : String)
    (other : key ≠ "signature") : left.field key = right.field key := by
  rw [Json.field, Json.field, same (py key) (by simpa using other)]

/-- Octets signed for a hello of an honest device determine its entries. -/
theorem sameEntries_of_signedBytes {floats : FloatRepr} {payload : Json}
    (formed : payload.WellFormed) {fields : List (PyStr × Json)} (plain : PlainFields fields)
    (same : signedBytes floats (.obj fields) = signedBytes floats payload) :
    SameEntries payload (.obj fields) := by
  have octets := List.append_cancel_left same
  have flat : (unsigned (.obj fields)).Flat := by
    intro key value found
    by_cases signature : key = py "signature"
    · rw [signature, get_unsigned_signature] at found
      cases found
    · rw [get_unsigned signature] at found
      exact plain.flat key value found
  intro key other
  rw [← get_unsigned other, ← @get_unsigned (.obj fields) key other]
  exact Json.get_eq_of_sorted_octets floats (unsigned_wellFormed formed)
    (unsigned_wellFormed plain.wellFormed) flat octets.symm key

/-- A signature made for a pairing is never one for a session. -/
theorem signedBytes_ne_pairingSigned (floats : FloatRepr) (left right : Json) :
    signedBytes floats left ≠ pairingSigned floats right := by
  intro same
  have starts := congrArg (List.take 20) same
  unfold signedBytes pairingSigned at starts
  rw [List.take_append_of_le_length (by decide), List.take_append_of_le_length (by decide)] at starts
  revert starts
  decide

/-! ## Accepted hellos -/

theorem decodeField_ok {digests : Digests} {value : Json} {expectedLength : Nat} {field : String}
    {raw : Bytes} (decoded : decodeField digests value expectedLength field = .ok raw) :
    ∃ text, value = .str text ∧ digests.b64decode text = some raw := by
  cases value with
  | str text =>
      simp only [decodeField] at decoded
      split at decoded
      · cases decoded
      · split at decoded
        · cases decoded
        · next octets found =>
            split at decoded <;> cases decoded
            exact ⟨text, rfl, found⟩
  | null | bool | int | float | arr | obj => cases decoded

/-- What `validateHello` has checked of a payload it returns. -/
structure HelloChecked (crypto : Crypto) (floats : FloatRepr) (expectedRole : String)
    (hello : ValidHello) : Prop where
  isDict : hello.payload.isDict = true
  type : hello.payload.field "type" = .str (py "hello")
  role : hello.payload.field "role" = .str (py expectedRole)
  deviceId : hello.payload.field "device_id" = .str hello.deviceId
  identityKey : hello.payload.field "identity_key" = .str hello.identityKey
  ephemeral : ∃ text, hello.payload.field "ephemeral_key" = .str text ∧
    crypto.b64decode text = some hello.ephemeral
  nonce : ∃ text, hello.payload.field "nonce" = .str text ∧
    crypto.b64decode text = some hello.nonce
  verified : ∃ publicKey text signature,
    decodePublicKey crypto.toDigests hello.identityKey = .ok publicKey ∧
    hello.payload.field "signature" = .str text ∧ crypto.b64decode text = some signature ∧
    crypto.ed25519Verify publicKey signature (signedBytes floats hello.payload) = true

theorem validateHello_ok {floats : FloatRepr} {payload : Json} {expectedRole : String}
    {hello : ValidHello} (valid : validateHello crypto floats payload expectedRole = .ok hello) :
    hello.payload = payload ∧ HelloChecked crypto floats expectedRole hello := by
  unfold validateHello at valid
  simp only [bind, Except.bind, pure, Except.pure, throw, throwThe, MonadExceptOf.throw] at valid
  split at valid
  · cases valid
  next isDict =>
  split at valid
  · cases valid
  next type =>
  split at valid
  · cases valid
  next protocol =>
  split at valid
  · cases valid
  next role =>
  split at valid
  next deviceId identityKey foundId foundKey =>
      split at valid
      · cases valid
      split at valid
      · cases valid
      next publicKey decodedKey =>
      split at valid
      · cases valid
      next ephemeral decodedEphemeral =>
      split at valid
      · cases valid
      next nonce decodedNonce =>
      split at valid
      · cases valid
      next signature decodedSignature =>
      split at valid
      · cases valid
      next verified =>
      cases valid
      obtain ⟨text, foundSignature, decoded⟩ := decodeField_ok decodedSignature
      exact ⟨rfl, by simpa using isDict, by simpa using type, by simpa using role, foundId, foundKey,
        decodeField_ok decodedEphemeral, decodeField_ok decodedNonce,
        publicKey, text, signature, decodedKey, foundSignature, decoded, by simpa using verified⟩
  · cases valid

/-! ## Hellos of honest devices -/

/-- A hello with the given text for its signature. -/
def signedHello (role : String) (identity : DeviceIdentity crypto) (ephemeralKey nonce : Bytes)
    (hash : Option PyStr) (signature : PyStr) : Json :=
  .obj (helloFields role identity ephemeralKey nonce hash ++ [(py "signature", .str signature)])

theorem createHello_eq (floats : FloatRepr) (role : String) (identity : DeviceIdentity crypto)
    (ephemeralKey nonce : Bytes) (hash : Option PyStr) :
    createHello floats role identity ephemeralKey nonce hash =
      signedHello role identity ephemeralKey nonce hash (b64encode (identity.sign
        (signedBytes floats (.obj (helloFields role identity ephemeralKey nonce hash))))) := rfl

section Fields

variable (role : String) (identity : DeviceIdentity crypto) (ephemeralKey nonce : Bytes)
  (hash : Option PyStr) (signature : PyStr)

/-- A hello holds every field it is written with. -/
theorem signedHello_field {name : String} {value : Json}
    (member : (py name, value) ∈ helloFields role identity ephemeralKey nonce hash ++
      [(py "signature", .str signature)]) :
    (signedHello role identity ephemeralKey nonce hash signature).field name = value := by
  have unique : ((helloFields role identity ephemeralKey nonce hash ++
      [(py "signature", Json.str signature)]).map Prod.fst).Nodup := by
    cases hash with
    | none => simp [helloFields]
    | some text => simp [helloFields]
  have found : (signedHello role identity ephemeralKey nonce hash signature).get (py name) =
      some value := findEntry_of_mem unique member
  rw [Json.field, found, Option.getD_some]

theorem createHello_field (floats : FloatRepr) {name : String} {value : Json}
    (member : (py name, value) ∈ helloFields role identity ephemeralKey nonce hash) :
    (createHello floats role identity ephemeralKey nonce hash).field name = value := by
  rw [createHello_eq]
  exact signedHello_field _ _ _ _ _ _ (List.mem_append_left _ member)

theorem signedHello_signature :
    (signedHello role identity ephemeralKey nonce hash signature).field "signature" =
      .str signature := by
  apply signedHello_field
  exact List.mem_append_right _ (List.mem_singleton_self _)

theorem unsigned_signedHello : unsigned (signedHello role identity ephemeralKey nonce hash signature) =
    .obj (helloFields role identity ephemeralKey nonce hash) := by
  cases hash <;> simp [unsigned, signedHello, helloFields]

theorem unsigned_helloFields : unsigned (.obj (helloFields role identity ephemeralKey nonce hash)) =
    .obj (helloFields role identity ephemeralKey nonce hash) := by
  cases hash <;> simp [unsigned, helloFields]

end Fields

theorem decodeField_b64 {digests : Digests} {text : PyStr} {raw : Bytes}
    (short : text.length ≤ 256) (decoded : digests.b64decode text = some raw) (field : String) :
    decodeField digests (.str text) raw.length field = .ok raw := by
  simp [decodeField, decoded, Nat.not_lt.mpr short]

theorem decodeField_b64encode (digests : Digests) {octets : Bytes} {size : Nat}
    (sized : octets.length = size) (small : size ≤ 64) (field : String) :
    decodeField digests (.str (b64encode octets)) size field = .ok octets := by
  subst sized
  exact decodeField_b64 (by rw [b64encode_length]; omega) (digests.b64decode_b64encode octets) field

/-- A hello of an honest device is accepted, in whatever text its signature is
written. -/
theorem validateHello_signedHello (floats : FloatRepr) (role : String)
    (identity : DeviceIdentity crypto) {ephemeralKey nonce : Bytes} (hash : Option PyStr)
    {text : PyStr} {signature : Bytes} (known : isDeviceId identity.deviceId = true)
    (keyed : identity.publicBytes.length = 32) (ephemeralSized : ephemeralKey.length = 32)
    (nonceSized : nonce.length = nonceBytes) (short : text.length ≤ 256)
    (decoded : crypto.b64decode text = some signature) (sized : signature.length = 64)
    (verified : crypto.ed25519Verify identity.publicBytes signature
      (signedBytes floats (.obj (helloFields role identity ephemeralKey nonce hash))) = true) :
    validateHello crypto floats (signedHello role identity ephemeralKey nonce hash text) role =
      .ok ⟨signedHello role identity ephemeralKey nonce hash text, identity.deviceId,
        identity.publicKey, ephemeralKey, nonce⟩ := by
  have key : decodePublicKey crypto.toDigests identity.publicKey = .ok identity.publicBytes := by
    have size : identity.publicKey.length = 44 := by
      rw [identity.encoded, b64encode_length]
      exact congrArg (fun count => 4 * ((count + 2) / 3)) keyed
    rw [decodePublicKey, if_neg (by omega), identity.encoded, crypto.b64decode_b64encode]
    simp [show (crypto.ed25519Public identity.privateKey).length = 32 from keyed,
      DeviceIdentity.publicBytes]
  have ephemerals := decodeField_b64encode crypto.toDigests ephemeralSized (by decide) "ephemeral key"
  have nonces := decodeField_b64encode crypto.toDigests nonceSized (by decide) "nonce"
  have signatures := sized ▸ decodeField_b64 short decoded "signature"
  have covered : crypto.ed25519Verify identity.publicBytes signature
      (signedBytes floats (signedHello role identity ephemeralKey nonce hash text)) = true := by
    rw [signedBytes, unsigned_signedHello]
    rwa [signedBytes, unsigned_helloFields] at verified
  have protocol : (Json.int protocolVersion).pyEq (.int protocolVersion) = true := by decide
  have isDict : (signedHello role identity ephemeralKey nonce hash text).isDict = true := rfl
  have written (name : String) (value : Json) :=
    @signedHello_field crypto role identity ephemeralKey nonce hash text name value
  simp only [validateHello, isDict, written "type" (.str (py "hello")) (by simp [helloFields]),
    written "protocol" (.int protocolVersion) (by simp [helloFields]),
    written "role" (.str (py role)) (by simp [helloFields]),
    written "device_id" (.str identity.deviceId) (by simp [helloFields]),
    written "identity_key" (.str identity.publicKey) (by simp [helloFields]),
    written "ephemeral_key" (.str (b64encode ephemeralKey)) (by simp [helloFields]),
    written "nonce" (.str (b64encode nonce)) (by simp [helloFields]),
    written "signature" (.str text) (by simp), protocol, known, key, ephemerals, nonces,
    signatures, covered, bind,
    Except.bind, pure, Except.pure]
  simp

theorem validatePairing_ok {floats : FloatRepr} {value : Json} {role : String}
    {valid : PyStr × PyStr × Nat} (accepted : validatePairing crypto floats value role = .ok valid) :
    value.field "type" = .str (py "pair_hello") ∧ value.field "role" = .str (py role) := by
  unfold validatePairing at accepted
  simp only [bind, Except.bind, pure, Except.pure, throw, throwThe, MonadExceptOf.throw] at accepted
  split at accepted
  · cases accepted
  · next compatible =>
      simp only [not_or, not_not] at compatible
      exact ⟨compatible.2.1, compatible.2.2.2⟩

/-- The octets in a checked field are those its text was encoded from. -/
theorem decoded_of_field {payload : Json} {key : String} {octets raw : Bytes}
    (decoded : ∃ text, payload.field key = .str text ∧ crypto.b64decode text = some raw)
    (written : payload.field key = .str (b64encode octets)) : raw = octets := by
  obtain ⟨text, found, value⟩ := decoded
  cases found.symm.trans written
  rw [crypto.b64decode_b64encode] at value
  exact (Option.some.inj value).symm

theorem isDict_eq {payload : Json} (isDict : payload.isDict = true) :
    ∃ fields, payload = .obj fields := by
  cases payload with
  | obj fields => exact ⟨fields, rfl⟩
  | null | bool | int | float | str | arr => cases isDict

/-- Dicts with the same entries have the same canonical octets. -/
theorem canonical_eq (floats : FloatRepr) {left right : Json} (leftFormed : left.WellFormed)
    (rightFormed : right.WellFormed) (leftDict : left.isDict = true) (rightDict : right.isDict = true)
    (same : ∀ key, left.get key = right.get key) : canonical floats left = canonical floats right := by
  obtain ⟨leftFields, rfl⟩ := isDict_eq leftDict
  obtain ⟨rightFields, rfl⟩ := isDict_eq rightDict
  rw [canonical, canonical, Json.sortKeys_eq_of_get_eq leftFormed.1 rightFormed.1 same]

theorem get_of_field {payload : Json} {key : String} {text : PyStr}
    (found : payload.field key = .str text) : payload.get (py key) = some (.str text) := by
  unfold Json.field at found
  cases stored : payload.get (py key) with
  | none => rw [stored] at found; cases found
  | some value => rw [stored] at found; exact congrArg some found

/-! ## Calls that return -/

theorem clientClosing_ok {codec : Codec} {trustedPeer : TrustedDevice}
    {ephemeralPrivate clientNonce : Bytes} {clientHello : Json} {stream : Bytes}
    {serverHello : ValidHello} {session : AuthenticatedSession}
    (closed : clientClosing crypto codec trustedPeer ephemeralPrivate clientNonce clientHello stream =
      .ok (serverHello, session)) :
    (∃ payload, receiveJson codec stream = .ok payload ∧
      validateHello crypto codec.floats payload "server" = .ok serverHello) ∧
    serverHello.deviceId = trustedPeer.deviceId ∧ serverHello.identityKey = trustedPeer.publicKey ∧
    serverHello.payload.field "peer_hello_hash" =
      .str (crypto.hexdigest (canonical codec.floats clientHello)) ∧
    session.peerDeviceId = trustedPeer.deviceId ∧
    deriveKey crypto codec.floats ephemeralPrivate serverHello.ephemeral clientHello
      serverHello.payload clientNonce serverHello.nonce = .ok session.key := by
  unfold clientClosing at closed
  simp only [bind, Except.bind, pure, Except.pure, throw, throwThe, MonadExceptOf.throw] at closed
  split at closed
  · cases closed
  next payload received =>
  split at closed
  · cases closed
  next hello valid =>
  split at closed
  · cases closed
  next samePeer =>
  split at closed
  · cases closed
  next sameHash =>
  split at closed
  · cases closed
  next key derived =>
  cases closed
  rw [not_or, not_not, not_not] at samePeer
  exact ⟨⟨payload, received, valid⟩, samePeer.1, samePeer.2, not_not.mp sameHash, rfl, derived⟩

theorem serverAnswer_ok {codec : Codec} {identity : DeviceIdentity crypto} {trustStore : TrustStore}
    {payload : Json} {ephemeralPrivate serverNonce : Bytes} {clientHello : ValidHello}
    {serverHello : Json}
    (answered : serverAnswer codec identity trustStore payload ephemeralPrivate serverNonce =
      .ok (clientHello, serverHello)) :
    validateHello crypto codec.floats payload "client" = .ok clientHello ∧
    trustStore.assess clientHello.deviceId clientHello.identityKey = .trusted ∧
    serverHello = createHello codec.floats "server" identity (crypto.x25519Public ephemeralPrivate)
      serverNonce (some (crypto.hexdigest (canonical codec.floats clientHello.payload))) := by
  unfold serverAnswer at answered
  simp only [bind, Except.bind, pure, Except.pure, throw, throwThe, MonadExceptOf.throw] at answered
  split at answered
  · cases answered
  next hello valid =>
  split at answered
  · cases answered
  next trusted =>
  split at answered
  · cases answered
  · cases answered
    exact ⟨valid, not_not.mp trusted, rfl⟩

section Success

variable {codec : Codec} {identity : DeviceIdentity crypto} {ephemeralPrivate ownNonce : Bytes}

theorem deriveKey_of (floats : FloatRepr) {privateKey remoteEphemeral shared : Bytes}
    (exchanged : crypto.x25519 privateKey remoteEphemeral = some shared)
    (clientHello serverHello : Json) (clientNonce serverNonce : Bytes) :
    deriveKey crypto floats privateKey remoteEphemeral clientHello serverHello clientNonce
      serverNonce = .ok (crypto.hkdf (crypto.sha256 (clientNonce ++ serverNonce))
        (handshakeDomain ++ crypto.sha256 (canonical floats clientHello ++ [0] ++
          canonical floats serverHello)) shared) := by
  rw [deriveKey, exchanged]

theorem clientOpening_of {floats : FloatRepr} {trustedPeer : TrustedDevice} {frame : Bytes}
    (trusted : trustedPeer.status = .trusted)
    (sent : sendJson floats (createHello floats "client" identity
      (crypto.x25519Public ephemeralPrivate) ownNonce none) = .ok frame) :
    clientOpening floats identity trustedPeer ephemeralPrivate ownNonce =
      .ok (createHello floats "client" identity (crypto.x25519Public ephemeralPrivate) ownNonce
        none) := by
  simp [clientOpening, trusted, sent, bind, Except.bind, pure, Except.pure]

theorem clientClosing_of {trustedPeer : TrustedDevice} {clientHello payload : Json} {stream : Bytes}
    {serverHello : ValidHello} {key : Bytes} (received : receiveJson codec stream = .ok payload)
    (valid : validateHello crypto codec.floats payload "server" = .ok serverHello)
    (sameId : serverHello.deviceId = trustedPeer.deviceId)
    (sameKey : serverHello.identityKey = trustedPeer.publicKey)
    (sameHash : serverHello.payload.field "peer_hello_hash" =
      .str (crypto.hexdigest (canonical codec.floats clientHello)))
    (derived : deriveKey crypto codec.floats ephemeralPrivate serverHello.ephemeral clientHello
      serverHello.payload ownNonce serverHello.nonce = .ok key) :
    clientClosing crypto codec trustedPeer ephemeralPrivate ownNonce clientHello stream =
      .ok (serverHello, ⟨key, trustedPeer.deviceId⟩) := by
  simp [clientClosing, received, valid, sameId, sameKey, sameHash, derived, bind, Except.bind, pure,
    Except.pure]

theorem serverAnswer_of {trustStore : TrustStore} {payload : Json} {clientHello : ValidHello}
    {frame : Bytes} (valid : validateHello crypto codec.floats payload "client" = .ok clientHello)
    (trusted : trustStore.assess clientHello.deviceId clientHello.identityKey = .trusted)
    (sent : sendJson codec.floats (createHello codec.floats "server" identity
      (crypto.x25519Public ephemeralPrivate) ownNonce
      (some (crypto.hexdigest (canonical codec.floats clientHello.payload)))) = .ok frame) :
    serverAnswer codec identity trustStore payload ephemeralPrivate ownNonce =
      .ok (clientHello, createHello codec.floats "server" identity
        (crypto.x25519Public ephemeralPrivate) ownNonce
        (some (crypto.hexdigest (canonical codec.floats clientHello.payload)))) := by
  simp [serverAnswer, valid, trusted, sent, bind, Except.bind, pure, Except.pure]

end Success

end DirectTransfer
