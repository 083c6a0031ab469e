import DirectTransfer.Core.HandshakeProperties
import DirectTransfer.Core.HandshakeRuns
import DirectTransfer.Core.ProtocolProperties

/-! Agreement of any number of handshakes over an attacker's network. The runs
keep who signed what; a hello under an honest key leads back to the run that
signed it, and the hash in an answer back to the hello that was answered. -/

set_option autoImplicit false

namespace DirectTransfer

open Library

variable {crypto : Crypto}

/-! ## Runs -/

/-- A hello under the key of an honest device was signed in one of its runs. -/
def Authentic (floats : FloatRepr) (honest : DeviceIdentity crypto → Prop)
    (state : Handshakes crypto) (hello : ValidHello) : Prop :=
  ∀ identity, honest identity →
    decodePublicKey crypto.toDigests hello.identityKey = .ok identity.publicBytes →
    SignedBy floats state identity (signedBytes floats hello.payload)

/-- A received hello that has passed every check of `validateHello`. -/
structure Received (floats : FloatRepr) (honest : DeviceIdentity crypto → Prop)
    (state : Handshakes crypto) (expectedRole : String) (hello : ValidHello) : Prop where
  checked : HelloChecked crypto floats expectedRole hello
  formed : hello.payload.WellFormed
  authentic : Authentic floats honest state hello

structure ClientFacts (floats : FloatRepr) (honest : DeviceIdentity crypto → Prop)
    (state : Handshakes crypto) (run : ClientRun crypto) : Prop where
  created : run.clientHello = createHello floats "client" run.identity
    (crypto.x25519Public run.ephemeralPrivate) run.nonce none
  returned : ∀ serverHello session, run.result = some (.ok (serverHello, session)) →
    Received floats honest state "server" serverHello ∧
    serverHello.deviceId = run.trustedPeer.deviceId ∧
    serverHello.identityKey = run.trustedPeer.publicKey ∧
    serverHello.payload.field "peer_hello_hash" =
      .str (crypto.hexdigest (canonical floats run.clientHello)) ∧
    session.peerDeviceId = run.trustedPeer.deviceId ∧
    deriveKey crypto floats run.ephemeralPrivate serverHello.ephemeral run.clientHello
      serverHello.payload run.nonce serverHello.nonce = .ok session.key

structure ServerFacts (floats : FloatRepr) (honest : DeviceIdentity crypto → Prop)
    (state : Handshakes crypto) (run : ServerRun crypto) : Prop where
  received : Received floats honest state "client" run.clientHello
  trusted : run.trustStore.assess run.clientHello.deviceId run.clientHello.identityKey = .trusted
  created : run.serverHello = createHello floats "server" run.identity
    (crypto.x25519Public run.ephemeralPrivate) run.nonce
    (some (crypto.hexdigest (canonical floats run.clientHello.payload)))
  returned : run.result = serverSession crypto floats run.clientHello run.serverHello
    run.ephemeralPrivate run.nonce

structure HandshakeInvariant (floats : FloatRepr) (honest : DeviceIdentity crypto → Prop)
    (state : Handshakes crypto) : Prop where
  clients : ∀ run ∈ state.clients, ClientFacts floats honest state run
  servers : ∀ run ∈ state.servers, ServerFacts floats honest state run

/-- Every message a device has signed stays signed. -/
def Grows (floats : FloatRepr) (state next : Handshakes crypto) : Prop :=
  ∀ identity message, SignedBy floats state identity message → SignedBy floats next identity message

section Growth

variable {floats : FloatRepr} {honest : DeviceIdentity crypto → Prop} {state next : Handshakes crypto}

theorem Received.grow {expectedRole : String} {hello : ValidHello}
    (received : Received floats honest state expectedRole hello) (grows : Grows floats state next) :
    Received floats honest next expectedRole hello :=
  ⟨received.checked, received.formed, fun identity isHonest sameKey =>
    grows _ _ (received.authentic identity isHonest sameKey)⟩

theorem ClientFacts.grow {run : ClientRun crypto} (facts : ClientFacts floats honest state run)
    (grows : Grows floats state next) : ClientFacts floats honest next run :=
  ⟨facts.created, fun serverHello session finished =>
    (facts.returned serverHello session finished).imp_left (·.grow grows)⟩

theorem ServerFacts.grow {run : ServerRun crypto} (facts : ServerFacts floats honest state run)
    (grows : Grows floats state next) : ServerFacts floats honest next run :=
  ⟨facts.received.grow grows, facts.trusted, facts.created, facts.returned⟩

theorem grows_of_clients {clients : List (ClientRun crypto)}
    (kept : ∀ run ∈ state.clients, ∃ later ∈ clients, later.identity = run.identity ∧
      later.clientHello = run.clientHello) : Grows floats state { state with clients } := by
  rintro identity message (⟨run, member, rfl, signed⟩ | signed)
  · obtain ⟨later, laterMember, sameIdentity, sameHello⟩ := kept run member
    exact .inl ⟨later, laterMember, sameIdentity, by rw [sameHello, signed]⟩
  · exact .inr signed

theorem grows_of_pairings {pairings : List (PairingRun crypto)}
    (kept : ∀ run ∈ state.pairings, ∃ later ∈ pairings, later.identity = run.identity ∧
      later.hello = run.hello) : Grows floats state { state with pairings } := by
  rintro identity message (signed | signed | ⟨run, member, rfl, signed⟩)
  · exact .inl signed
  · exact .inr (.inl signed)
  · obtain ⟨later, laterMember, sameIdentity, sameHello⟩ := kept run member
    exact .inr (.inr ⟨later, laterMember, sameIdentity, by rw [sameHello, signed]⟩)

theorem grows_of_server (run : ServerRun crypto) :
    Grows floats state { state with servers := state.servers ++ [run] } := by
  rintro identity message (signed | ⟨other, member, same, signed⟩ | signed)
  · exact .inl signed
  · exact .inr (.inl ⟨other, List.mem_append_left _ member, same, signed⟩)
  · exact .inr (.inr signed)

/-- Pairings leave the session runs as they are. -/
theorem HandshakeInvariant.pairings (holds : HandshakeInvariant floats honest state)
    {pairings : List (PairingRun crypto)}
    (kept : ∀ run ∈ state.pairings, ∃ later ∈ pairings, later.identity = run.identity ∧
      later.hello = run.hello) :
    HandshakeInvariant floats honest { state with pairings } :=
  ⟨fun run member => (holds.clients run member).grow (grows_of_pairings kept),
    fun run member => (holds.servers run member).grow (grows_of_pairings kept)⟩

end Growth

/-- A run list with one run replaced still holds every hello it held. -/
theorem kept_of_set {Run Identity Hello : Type} {runs : List Run} {index : Nat} {old new : Run}
    (identity : Run → Identity) (hello : Run → Hello) (found : runs[index]? = some old)
    (sameIdentity : identity new = identity old) (sameHello : hello new = hello old) :
    ∀ run ∈ runs, ∃ later ∈ runs.set index new,
      identity later = identity run ∧ hello later = hello run := by
  intro run member
  obtain ⟨position, bounded, rfl⟩ := List.getElem_of_mem member
  by_cases here : index = position
  · subst here
    have same : runs[index] = old := Option.some.inj ((List.getElem?_eq_getElem bounded).symm.trans found)
    rw [same]
    exact ⟨new, List.mem_set bounded _, sameIdentity, sameHello⟩
  · refine ⟨runs[position], ?_, rfl, rfl⟩
    have still : (runs.set index new)[position]? = some runs[position] := by
      rw [List.getElem?_set_ne here, List.getElem?_eq_getElem bounded]
    exact List.mem_of_getElem? still

theorem receiveJson_formed {codec : Codec} (sound : codec.Sound) {stream : Bytes} {payload : Json}
    (received : receiveJson codec stream = .ok payload) : payload.WellFormed := by
  unfold receiveJson at received
  simp only [bind, Except.bind, pure, Except.pure, throw, throwThe, MonadExceptOf.throw] at received
  repeat' split at received
  all_goals cases received
  next decoded _ => exact sound _ _ decoded

/-- A hello that arrives in an unforged step and is valid has been signed by
the honest device whose key it carries. -/
theorem received_of_valid {codec : Codec} (sound : codec.Sound)
    {honest : DeviceIdentity crypto → Prop} {state : Handshakes crypto}
    {label : HandshakeLabel crypto} (unforged : Unforged codec honest state label)
    {stream : Bytes} (delivered : label.stream? = some stream) {payload : Json}
    (received : receiveJson codec stream = .ok payload) {expectedRole : String} {hello : ValidHello}
    (valid : validateHello crypto codec.floats payload expectedRole = .ok hello) :
    Received codec.floats honest state expectedRole hello := by
  obtain ⟨rfl, checked⟩ := validateHello_ok valid
  refine ⟨checked, receiveJson_formed sound received, fun identity isHonest sameKey => ?_⟩
  obtain ⟨publicKey, text, signature, decodedKey, found, decoded, verified⟩ := checked.verified
  cases decodedKey.symm.trans sameKey
  exact unforged stream hello.payload delivered received identity isHonest handshakeDomain (by simp)
    text signature found decoded verified

theorem handshakeStep_invariant {codec : Codec} (sound : codec.Sound)
    {honest : DeviceIdentity crypto → Prop} {state next : Handshakes crypto}
    {label : HandshakeLabel crypto} (holds : HandshakeInvariant codec.floats honest state)
    (unforged : Unforged codec honest state label)
    (stepped : handshakeStep codec state label = some next) :
    HandshakeInvariant codec.floats honest next := by
  cases label with
  | client identity trustedPeer ephemeralPrivate nonce =>
      simp only [handshakeStep] at stepped
      split at stepped
      · cases stepped; exact holds
      · next clientHello opened =>
          cases stepped
          have grows : Grows codec.floats state { state with clients := state.clients ++
              [⟨identity, trustedPeer, ephemeralPrivate, nonce, clientHello, none⟩] } :=
            grows_of_clients fun run member => ⟨run, List.mem_append_left _ member, rfl, rfl⟩
          refine ⟨fun run member => ?_, fun run member => (holds.servers run member).grow grows⟩
          rcases List.mem_append.mp member with earlier | last
          · exact (holds.clients run earlier).grow grows
          · cases List.mem_singleton.mp last
            refine ⟨?_, fun _ _ finished => by cases finished⟩
            unfold clientOpening at opened
            simp only [bind, Except.bind, pure, Except.pure, throw, throwThe,
              MonadExceptOf.throw] at opened
            repeat' split at opened
            all_goals cases opened
            rfl
  | clientReceives index stream =>
      simp only [handshakeStep, bind, Option.bind_eq_some_iff] at stepped
      obtain ⟨run, found, stepped⟩ := stepped
      split at stepped
      · cases stepped
      cases stepped
      let result := clientClosing crypto codec run.trustedPeer run.ephemeralPrivate run.nonce
        run.clientHello stream
      have grows : Grows codec.floats state { state with
          clients := state.clients.set index { run with result := some result } } :=
        grows_of_clients (kept_of_set ClientRun.identity ClientRun.clientHello found rfl rfl)
      refine ⟨fun other member => ?_, fun other member => (holds.servers other member).grow grows⟩
      rcases List.mem_or_eq_of_mem_set member with earlier | rfl
      · exact (holds.clients other earlier).grow grows
      · refine ⟨(holds.clients run (List.mem_of_getElem? found)).created,
          fun serverHello session finished => ?_⟩
        obtain ⟨⟨payload, received, valid⟩, rest⟩ := clientClosing_ok (Option.some.inj finished)
        exact ⟨(received_of_valid sound unforged rfl received valid).grow grows, rest⟩
  | incoming identity trustStore stream ephemeralPrivate nonce peerIp localPort now =>
      simp only [handshakeStep] at stepped
      split at stepped
      · cases stepped; exact holds
      next payload received =>
      split at stepped
      · split at stepped
        · cases stepped; exact holds
        · cases stepped
          exact holds.pairings fun run member => ⟨run, List.mem_append_left _ member, rfl, rfl⟩
      · split at stepped
        · cases stepped; exact holds
        next clientHello serverHello answered =>
        cases stepped
        have grows : Grows codec.floats state _ := grows_of_server
          ⟨identity, trustStore, ephemeralPrivate, nonce, clientHello, serverHello,
            serverSession crypto codec.floats clientHello serverHello ephemeralPrivate nonce⟩
        refine ⟨fun run member => (holds.clients run member).grow grows, fun run member => ?_⟩
        rcases List.mem_append.mp member with earlier | last
        · exact (holds.servers run earlier).grow grows
        · cases List.mem_singleton.mp last
          obtain ⟨valid, trusted, created⟩ := serverAnswer_ok answered
          exact ⟨(received_of_valid sound unforged rfl received valid).grow grows, trusted, created,
            rfl⟩
  | pairClient identity nonce localPort =>
      simp only [handshakeStep] at stepped
      split at stepped <;> cases stepped
      · exact holds
      · exact holds.pairings fun run member => ⟨run, List.mem_append_left _ member, rfl, rfl⟩
  | pairClientReceives index peerIp stream now =>
      simp only [handshakeStep, bind, Option.bind_eq_some_iff] at stepped
      obtain ⟨run, found, stepped⟩ := stepped
      split at stepped
      · cases stepped
      cases stepped
      exact holds.pairings (kept_of_set PairingRun.identity PairingRun.hello found rfl rfl)

/-! ## Agreement -/

section Signers

variable {floats : FloatRepr} {honest : DeviceIdentity crypto → Prop} {state : Handshakes crypto}

/-- A signed hello has the role of the run that signed it. -/
theorem signer (holds : HandshakeInvariant floats honest state) {payload : Json}
    (formed : payload.WellFormed) {identity : DeviceIdentity crypto}
    (signed : SignedBy floats state identity (signedBytes floats payload)) :
    (∃ run ∈ state.clients, run.identity = identity ∧ SameEntries payload run.clientHello ∧
      payload.field "role" = .str (py "client")) ∨
    ∃ run ∈ state.servers, run.identity = identity ∧ SameEntries payload run.serverHello ∧
      payload.field "role" = .str (py "server") := by
  rcases signed with ⟨run, member, same, octets⟩ | ⟨run, member, same, octets⟩ |
    ⟨run, member, same, octets⟩
  · have created := (holds.clients run member).created
    obtain ⟨fields, written, plain⟩ := createHello_plain floats role_plain.1 run.identity
      (crypto.x25519Public run.ephemeralPrivate) run.nonce none (by simp)
    rw [created, written] at octets
    have entries := sameEntries_of_signedBytes formed plain octets
    rw [← written, ← created] at entries
    refine .inl ⟨run, member, same, entries, ?_⟩
    rw [entries.field _ (by decide), created]
    exact createHello_field _ _ _ _ _ _ (by simp [helloFields])
  · have created := (holds.servers run member).created
    obtain ⟨fields, written, plain⟩ := createHello_plain floats role_plain.2 run.identity
      (crypto.x25519Public run.ephemeralPrivate) run.nonce
      (some (crypto.hexdigest (canonical floats run.clientHello.payload)))
      (fun text found => by cases found; exact hexText_plain _)
    rw [created, written] at octets
    have entries := sameEntries_of_signedBytes formed plain octets
    rw [← written, ← created] at entries
    refine .inr ⟨run, member, same, entries, ?_⟩
    rw [entries.field _ (by decide), created]
    exact createHello_field _ _ _ _ _ _ (by simp [helloFields])
  · exact absurd octets.symm (signedBytes_ne_pairingSigned floats payload run.hello)

theorem client_signer (holds : HandshakeInvariant floats honest state) {hello : ValidHello}
    (received : Received floats honest state "client" hello) {peer : DeviceIdentity crypto}
    (isHonest : honest peer)
    (pinned : decodePublicKey crypto.toDigests hello.identityKey = .ok peer.publicBytes) :
    ∃ run ∈ state.clients, run.identity = peer ∧ SameEntries hello.payload run.clientHello := by
  rcases signer holds received.formed (received.authentic peer isHonest pinned) with
    ⟨run, member, same, entries, _⟩ | ⟨_, _, _, _, role⟩
  · exact ⟨run, member, same, entries⟩
  · have clash := role.symm.trans received.checked.role
    simp at clash

theorem server_signer (holds : HandshakeInvariant floats honest state) {hello : ValidHello}
    (received : Received floats honest state "server" hello) {peer : DeviceIdentity crypto}
    (isHonest : honest peer)
    (pinned : decodePublicKey crypto.toDigests hello.identityKey = .ok peer.publicBytes) :
    ∃ run ∈ state.servers, run.identity = peer ∧ SameEntries hello.payload run.serverHello := by
  rcases signer holds received.formed (received.authentic peer isHonest pinned) with
    ⟨_, _, _, _, role⟩ | ⟨run, member, same, entries, _⟩
  · have clash := role.symm.trans received.checked.role
    simp at clash
  · exact ⟨run, member, same, entries⟩

end Signers

/-- A client and the server run that answered it. The two transcripts, and so
the two keys, are the same once the signature arrives in the text it was sent. -/
structure Agreement (client : ClientRun crypto) (serverHello : ValidHello)
    (session : AuthenticatedSession) (server : ServerRun crypto) : Prop where
  sameHello : ∀ key, server.clientHello.payload.get key = client.clientHello.get key
  sameAnswer : SameEntries serverHello.payload server.serverHello
  returned : ∃ key, server.result = .ok ⟨key, client.identity.deviceId⟩
  sameKey : serverHello.payload.field "signature" = server.serverHello.field "signature" →
    server.result = .ok ⟨session.key, client.identity.deviceId⟩

theorem client_agreement {floats : FloatRepr} {honest : DeviceIdentity crypto → Prop}
    {state : Handshakes crypto} (holds : HandshakeInvariant floats honest state)
    {client : ClientRun crypto} (member : client ∈ state.clients) {serverHello : ValidHello}
    {session : AuthenticatedSession} (finished : client.result = some (.ok (serverHello, session)))
    {peer : DeviceIdentity crypto} (isHonest : honest peer)
    (pinned : decodePublicKey crypto.toDigests client.trustedPeer.publicKey = .ok peer.publicBytes) :
    ∃ server ∈ state.servers, server.identity = peer ∧
      Agreement client serverHello session server := by
  obtain ⟨created, returned⟩ := holds.clients client member
  obtain ⟨received, _, sameKey, sameHash, _, derived⟩ := returned serverHello session finished
  obtain ⟨server, serverMember, identity, entries⟩ :=
    server_signer holds received isHonest (sameKey ▸ pinned)
  have facts := holds.servers server serverMember
  have answered := facts.received
  obtain ⟨clientFields, clientWritten, clientPlain⟩ := createHello_plain floats role_plain.1
    client.identity (crypto.x25519Public client.ephemeralPrivate) client.nonce none (by simp)
  rw [← created] at clientWritten
  obtain ⟨serverFields, serverWritten, serverPlain⟩ := createHello_plain floats role_plain.2
    server.identity (crypto.x25519Public server.ephemeralPrivate) server.nonce
    (some (crypto.hexdigest (canonical floats server.clientHello.payload)))
    (fun text found => by cases found; exact hexText_plain _)
  rw [← facts.created] at serverWritten
  have clientSays {name : String} (value : Json) (member : (py name, value) ∈ helloFields "client"
      client.identity (crypto.x25519Public client.ephemeralPrivate) client.nonce none) :
      client.clientHello.field name = value := by
    rw [created]
    exact createHello_field _ _ _ _ _ _ member
  have serverSays {name : String} (value : Json) (member : (py name, value) ∈ helloFields "server"
      server.identity (crypto.x25519Public server.ephemeralPrivate) server.nonce
      (some (crypto.hexdigest (canonical floats server.clientHello.payload)))) :
      server.serverHello.field name = value := by
    rw [facts.created]
    exact createHello_field _ _ _ _ _ _ member
  -- the hash in the answer pins the hello the server had received
  have transcript : canonical floats server.clientHello.payload =
      canonical floats client.clientHello := by
    have hashes := (entries.field "peer_hello_hash" (by decide)).symm.trans sameHash
    rw [serverSays _ (List.mem_append_right _ (List.mem_singleton_self _))] at hashes
    exact crypto.sha256_injective (hexText_inj (Json.str.inj hashes))
  have sameHello : ∀ key, server.clientHello.payload.get key = client.clientHello.get key := by
    rw [clientWritten] at transcript ⊢
    exact Json.get_eq_of_sorted_octets floats answered.formed clientPlain.wellFormed
      clientPlain.flat transcript
  have helloField : ∀ key, server.clientHello.payload.field key = client.clientHello.field key :=
    fun key => by rw [Json.field, Json.field, sameHello]
  have deviceId : server.clientHello.deviceId = client.identity.deviceId := by
    have sameId := answered.checked.deviceId
    rw [helloField, clientSays (.str client.identity.deviceId) (by simp [helloFields])] at sameId
    exact (Json.str.inj sameId).symm
  have clientEphemeral := decoded_of_field answered.checked.ephemeral
    ((helloField _).trans (clientSays (.str (b64encode (crypto.x25519Public
      client.ephemeralPrivate))) (by simp [helloFields])))
  have clientNonce := decoded_of_field answered.checked.nonce
    ((helloField _).trans (clientSays (.str (b64encode client.nonce)) (by simp [helloFields])))
  have serverEphemeral := decoded_of_field received.checked.ephemeral
    ((entries.field _ (by decide)).trans (serverSays (.str (b64encode (crypto.x25519Public
      server.ephemeralPrivate))) (by simp [helloFields])))
  have serverNonce := decoded_of_field received.checked.nonce
    ((entries.field _ (by decide)).trans (serverSays (.str (b64encode server.nonce))
      (by simp [helloFields])))
  rw [deriveKey, serverEphemeral, crypto.exchange_comm] at derived
  have served := facts.returned
  rw [serverSession, deriveKey, clientEphemeral] at served
  cases shared : crypto.x25519 server.ephemeralPrivate (crypto.x25519Public client.ephemeralPrivate) with
  | none => rw [shared] at derived; cases derived
  | some secret =>
      rw [shared] at derived served
      simp only [bind, Except.bind, pure, Except.pure, deviceId, clientNonce, transcript] at served
      refine ⟨server, serverMember, identity, sameHello, entries, ⟨_, served⟩, fun sameSignature => ?_⟩
      have all : ∀ key, serverHello.payload.get key = server.serverHello.get key := by
        intro key
        by_cases signature : key = py "signature"
        · obtain ⟨_, text, _, _, found, _⟩ := received.checked.verified
          rw [signature, get_of_field found, get_of_field (sameSignature.symm.trans found)]
        · exact entries key signature
      have answers := canonical_eq floats received.formed
        (serverWritten ▸ serverPlain.wellFormed) received.checked.isDict (by rw [serverWritten]; rfl) all
      simp only [serverNonce, answers, Except.ok.injEq] at derived
      rw [served, derived]

theorem server_agreement {floats : FloatRepr} {honest : DeviceIdentity crypto → Prop}
    {state : Handshakes crypto} (holds : HandshakeInvariant floats honest state)
    {server : ServerRun crypto} (member : server ∈ state.servers) {session : AuthenticatedSession}
    (finished : server.result = .ok session) :
    session.peerDeviceId = server.clientHello.deviceId ∧
    (∃ record, server.trustStore.get session.peerDeviceId = some record ∧
      record.status = .trusted ∧
      server.clientHello.payload.field "identity_key" = .str record.publicKey) ∧
    ∀ peer, honest peer →
      decodePublicKey crypto.toDigests server.clientHello.identityKey = .ok peer.publicBytes →
      peer.deviceId = session.peerDeviceId ∧ ∃ client ∈ state.clients, client.identity = peer ∧
        SameEntries server.clientHello.payload client.clientHello := by
  obtain ⟨received, trusted, _, returned⟩ := holds.servers server member
  have sameId : session.peerDeviceId = server.clientHello.deviceId := by
    rw [finished, serverSession] at returned
    simp only [bind, Except.bind, pure, Except.pure] at returned
    split at returned <;> cases returned
    rfl
  refine ⟨sameId, ?_, fun peer isHonest pinned => ?_⟩
  · obtain ⟨record, found, status, key⟩ := TrustStore.assess_trusted trusted
    exact ⟨record, sameId ▸ found, status, by rw [received.checked.identityKey, key]⟩
  · obtain ⟨client, clientMember, identity, entries⟩ := client_signer holds received isHonest pinned
    refine ⟨?_, client, clientMember, identity, entries⟩
    have announced := received.checked.deviceId
    have written : client.clientHello.field "device_id" = .str client.identity.deviceId := by
      rw [(holds.clients client clientMember).created]
      exact createHello_field _ _ _ _ _ _ (by simp [helloFields])
    rw [entries.field _ (by decide), written, identity] at announced
    rw [sameId, Json.str.inj announced]

/-- In every run over an attacker's network, a client that returns a session
with an honest pinned peer was answered by that peer on exactly its own hello,
and both derive the same key when the signature arrives as it was sent. A server
that returns a session held a trusted record for exactly the presented key, and
if that key is honest its device signed the hello as a client. A hello is
accepted under one protocol and in one role only. -/
theorem handshake_agreement {codec : Codec} (sound : codec.Sound)
    (honest : DeviceIdentity crypto → Prop) {labels : List (HandshakeLabel crypto)}
    {state : Handshakes crypto}
    (run : Run (handshakeStep codec) (Unforged codec honest) .start labels state) :
    (∀ client ∈ state.clients, ∀ serverHello session,
      client.result = some (.ok (serverHello, session)) → ∀ peer, honest peer →
      decodePublicKey crypto.toDigests client.trustedPeer.publicKey = .ok peer.publicBytes →
      ∃ server ∈ state.servers, server.identity = peer ∧
        Agreement client serverHello session server) ∧
    (∀ server ∈ state.servers, ∀ session, server.result = .ok session →
      (∃ record, server.trustStore.get session.peerDeviceId = some record ∧
        record.status = .trusted ∧
        server.clientHello.payload.field "identity_key" = .str record.publicKey) ∧
      ∀ peer, honest peer →
        decodePublicKey crypto.toDigests server.clientHello.identityKey = .ok peer.publicBytes →
        peer.deviceId = session.peerDeviceId ∧ ∃ client ∈ state.clients, client.identity = peer ∧
          SameEntries server.clientHello.payload client.clientHello) ∧
    (∀ payload role pairRole hello paired,
      validateHello crypto codec.floats payload role = .ok hello →
      validatePairing crypto codec.floats payload pairRole ≠ .ok paired) ∧
    (∀ payload role other hello answer, validateHello crypto codec.floats payload role = .ok hello →
      validateHello crypto codec.floats payload other = .ok answer → role = other) ∧
    ∀ payload role other hello answer,
      validatePairing crypto codec.floats payload role = .ok hello →
      validatePairing crypto codec.floats payload other = .ok answer → role = other := by
  have holds : HandshakeInvariant codec.floats honest state :=
    run.invariant (fun _ _ _ holds unforged stepped =>
      handshakeStep_invariant sound holds unforged stepped)
      ⟨by simp [Handshakes.start], by simp [Handshakes.start]⟩
  refine ⟨fun client member serverHello session finished peer isHonest pinned =>
      client_agreement holds member finished isHonest pinned,
    fun server member session finished => (server_agreement holds member finished).2, ?_, ?_, ?_⟩
  · intro payload role pairRole hello paired valid accepted
    obtain ⟨rfl, checked⟩ := validateHello_ok valid
    have clash := checked.type.symm.trans (validatePairing_ok accepted).1
    simp at clash
  · intro payload role other hello answer valid again
    obtain ⟨rfl, checked⟩ := validateHello_ok valid
    obtain ⟨same, rechecked⟩ := validateHello_ok again
    have roles := checked.role.symm.trans (same ▸ rechecked.role)
    simpa using roles
  · intro payload role other hello answer valid again
    have roles := (validatePairing_ok valid).2.symm.trans (validatePairing_ok again).2
    simpa using roles

/-! ## A runtime and a run -/

theorem referenceCodec_sound : referenceCodec.Sound := fun _ _ parsed => parseText_wellFormed parsed

/-- Keys that are their own seeds, and signatures that name the signer and the
first octets of the message. -/
def plainCrypto : Crypto where
  sha256 := id
  b64decode := b64decode
  b64decode_b64encode := b64decode_b64encode
  ed25519Public seed := seed
  ed25519Sign seed message := seed ++ message.take 32
  ed25519Verify key signature message := signature = key ++ message.take 32
  x25519Public seed := seed
  x25519 left right := some (List.zipWith (· + ·) left right)
  hkdf salt info secret := salt ++ info ++ secret
  sha256_injective := Function.injective_id
  exchange_comm _ _ := congrArg some (List.zipWith_comm_of_comm UInt8.add_comm)

def seedOctets (seed : UInt8) : Bytes := List.replicate 31 0 ++ [seed]

theorem seedOctets_inj {left right : UInt8} (same : seedOctets left = seedOctets right) :
    left = right := by
  simpa [seedOctets] using same

/-- Device identifiers hold 32 bits of the key, so all of these share one. -/
def seedDevice (seed : UInt8) : DeviceIdentity plainCrypto where
  privateKey := seedOctets seed
  publicKey := b64encode (seedOctets seed)
  deviceId := py "mp-00000000"
  encoded := rfl
  derived := by
    rw [deviceIdFromPublicKey, plainCrypto.b64decode_b64encode]
    rfl

def seedRecord (seed : UInt8) : TrustedDevice :=
  ⟨py "mp-00000000", py "peer", b64encode (seedOctets seed), py "", .finite 0, .finite 0, .trusted⟩

def seedStore (seed : UInt8) : TrustStore :=
  ⟨Dict.empty.set (py "mp-00000000") (seedRecord seed), Dict.empty⟩

def seedSignature (seed : UInt8) : Bytes := seedOctets seed ++ handshakeDomain.take 32

theorem sign_seed (seed : UInt8) (floats : FloatRepr) (payload : Json) :
    (seedDevice seed).sign (signedBytes floats payload) = seedSignature seed := by
  change seedOctets seed ++ (handshakeDomain ++ _).take 32 = _
  rw [List.take_append_of_le_length (by decide)]
  rfl

/-- A signature verifies for its signer and for session hellos only. -/
theorem verify_seed {seed other : UInt8} {domain rest : Bytes}
    (known : domain ∈ [handshakeDomain, pairingDomain])
    (verified : plainCrypto.ed25519Verify (seedDevice other).publicBytes (seedSignature seed)
      (domain ++ rest) = true) : other = seed ∧ domain = handshakeDomain := by
  have same : seedOctets seed ++ handshakeDomain.take 32 =
      seedOctets other ++ (domain ++ rest).take 32 := of_decide_eq_true verified
  obtain ⟨keys, starts⟩ := List.append_inj same (by simp [seedOctets])
  refine ⟨(seedOctets_inj keys).symm, ?_⟩
  simp only [List.mem_cons, List.not_mem_nil, or_false] at known
  rcases known with rfl | rfl
  · rfl
  · have shorter := congrArg (List.take 20) starts
    rw [List.take_take, List.take_take, List.take_append_of_le_length (by decide)] at shorter
    revert shorter
    decide

/-- The JSON text of a payload, in the order of its entries. -/
def textOf (payload : Json) : Bytes := encodeAscii (payload.dumps quotientFloats)

def frameOf (payload : Json) : Bytes := bigEndian (textOf payload).length ++ textOf payload

theorem receiveJson_frameOf {payload : Json} (formed : payload.WellFormed)
    (isDict : payload.isDict = true) (small : (textOf payload).length ≤ maxHandshakeSize) :
    receiveJson referenceCodec (frameOf payload) = .ok payload := by
  have limit : maxHandshakeSize = 8192 := rfl
  have parsed : referenceCodec.loads (textOf payload) = some payload :=
    parseText_dumps quotientFloats formed
  rw [receiveJson, frameOf, unpackFrame_bigEndian _ _ (by omega), if_neg (by omega),
    if_neg (by omega), List.take_length]
  simp [bind, Except.bind, pure, Except.pure, parsed, isDict]

theorem sendJson_small (payload : Json)
    (small : (canonical quotientFloats payload).length ≤ maxHandshakeSize) :
    ∃ frame, sendJson quotientFloats payload = .ok frame := by
  have limit : maxHandshakeSize = 8192 := rfl
  refine ⟨bigEndian (canonical quotientFloats payload).length ++ canonical quotientFloats payload, ?_⟩
  rw [sendJson, if_neg (by omega), packFrame, if_pos (by omega)]

def sampleHello : Json :=
  signedHello "client" (seedDevice 1) (seedOctets 11) (seedOctets 12) none
    (b64encode (seedSignature 1))

/-- The answer of the second device, its signature written as the given text. -/
def sampleAnswer (signature : PyStr) : Json :=
  signedHello "server" (seedDevice 2) (seedOctets 21) (seedOctets 22)
    (some (plainCrypto.hexdigest (canonical quotientFloats sampleHello))) signature

/-- Another text of the same signature: one unused bit is set. -/
def recodedSignature : PyStr := (b64encode (seedSignature 2)).set 85 (chr 'B')

theorem recodedSignature_decodes : b64decode recodedSignature = some (seedSignature 2) := by
  decide +kernel

theorem recodedSignature_ne : recodedSignature ≠ b64encode (seedSignature 2) := by decide +kernel

theorem verified_seed (seed : UInt8) (floats : FloatRepr) (payload : Json) :
    plainCrypto.ed25519Verify (seedDevice seed).publicBytes (seedSignature seed)
      (signedBytes floats payload) = true := by
  refine decide_eq_true ?_
  change seedSignature seed = seedOctets seed ++ (handshakeDomain ++ _).take 32
  rw [List.take_append_of_le_length (by decide)]
  rfl

/-- A hello of one of these devices, in any text of its signature, is valid. -/
theorem validateHello_seed (role : String) (seed : UInt8) {ephemeralKey nonce : Bytes}
    (hash : Option PyStr) {text : PyStr} (ephemeralSized : ephemeralKey.length = 32)
    (nonceSized : nonce.length = nonceBytes) (short : text.length ≤ 256)
    (decoded : b64decode text = some (seedSignature seed)) :
    validateHello plainCrypto quotientFloats
      (signedHello role (seedDevice seed) ephemeralKey nonce hash text) role =
      .ok ⟨signedHello role (seedDevice seed) ephemeralKey nonce hash text, py "mp-00000000",
        b64encode (seedOctets seed), ephemeralKey, nonce⟩ :=
  validateHello_signedHello quotientFloats role (seedDevice seed) hash
    (show isDeviceId (py "mp-00000000") = true by decide) rfl ephemeralSized
    nonceSized short decoded rfl (verified_seed seed _ _)

theorem unforged_seed {state : Handshakes plainCrypto} {label : HandshakeLabel plainCrypto}
    {honest : DeviceIdentity plainCrypto → Prop} {payload : Json} {seed : UInt8} {text : PyStr}
    (received : ∀ stream, label.stream? = some stream →
      receiveJson referenceCodec stream = .ok payload)
    (sealed : payload.field "signature" = .str text)
    (decoded : b64decode text = some (seedSignature seed))
    (devices : ∀ identity, honest identity → ∃ other, identity = seedDevice other)
    (signed : honest (seedDevice seed) →
      SignedBy quotientFloats state (seedDevice seed) (signedBytes quotientFloats payload)) :
    Unforged referenceCodec honest state label := by
  intro stream other delivered arrived identity isHonest domain known otherText signature found
    otherDecoded verified
  cases (received stream delivered).symm.trans arrived
  cases sealed.symm.trans found
  cases decoded.symm.trans otherDecoded
  obtain ⟨signer, rfl⟩ := devices identity isHonest
  obtain ⟨rfl, rfl⟩ := verify_seed known verified
  exact signed isHonest

/-- The key both sides derive when the answer arrives under the given text. -/
def sampleKey (signature : PyStr) : Bytes :=
  plainCrypto.hkdf (plainCrypto.sha256 (seedOctets 12 ++ seedOctets 22))
    (handshakeDomain ++ plainCrypto.sha256 (canonical quotientFloats sampleHello ++ [0] ++
      canonical quotientFloats (sampleAnswer signature))) (seedOctets 32)

def sampleSession (signature : PyStr) : AuthenticatedSession :=
  ⟨sampleKey signature, py "mp-00000000"⟩

def validSampleHello : ValidHello :=
  ⟨sampleHello, py "mp-00000000", b64encode (seedOctets 1), seedOctets 11, seedOctets 12⟩

def validSampleAnswer (signature : PyStr) : ValidHello :=
  ⟨sampleAnswer signature, py "mp-00000000", b64encode (seedOctets 2), seedOctets 21, seedOctets 22⟩

def sampleClient (result : Option (Except Raised (ValidHello × AuthenticatedSession))) :
    ClientRun plainCrypto :=
  ⟨seedDevice 1, seedRecord 2, seedOctets 11, seedOctets 12, sampleHello, result⟩

def sampleServer : ServerRun plainCrypto :=
  ⟨seedDevice 2, seedStore 1, seedOctets 21, seedOctets 22, validSampleHello,
    sampleAnswer (b64encode (seedSignature 2)), .ok (sampleSession (b64encode (seedSignature 2)))⟩

def sampleLabels (signature : PyStr) : List (HandshakeLabel plainCrypto) :=
  [.client (seedDevice 1) (seedRecord 2) (seedOctets 11) (seedOctets 12),
    .incoming (seedDevice 2) (seedStore 1) (frameOf sampleHello) (seedOctets 21) (seedOctets 22)
      (py "10.0.0.1") 9999 0,
    .clientReceives 0 (frameOf (sampleAnswer signature))]

theorem signature_plain (seed : UInt8) : Plain (b64encode (seedSignature seed)) := b64encode_plain _

theorem sampleHello_plain : sampleHello.WellFormed ∧ sampleHello.isDict = true :=
  ⟨(helloFields_plain role_plain.1 _ _ _ (by simp) (signature_plain 1)).wellFormed, rfl⟩

theorem sampleAnswer_formed {signature : PyStr} (plain : Plain signature) :
    (sampleAnswer signature).WellFormed :=
  (helloFields_plain role_plain.2 _ _ _ (fun _ found => by cases found; exact hexText_plain _)
    plain).wellFormed

/-- A hello of one of these devices is short. -/
theorem signedHello_length (role : String) (seed : UInt8) (ephemeralKey nonce : Bytes)
    (hash : Option PyStr) {text : PyStr} (roleShort : quotedLength (py role) ≤ 8)
    (ephemeralSized : ephemeralKey.length = 32) (nonceSized : nonce.length = 32)
    (hashPlain : ∀ digest, hash = some digest → Plain digest) (plain : Plain text) :
    ((signedHello role (seedDevice seed) ephemeralKey nonce hash text).dumps quotientFloats).length ≤
      500 + 2 * (hash.elim 0 List.length) + 2 * text.length := by
  have encoded (octets : Bytes) (sized : octets.length = 32) :
      quotedLength (b64encode octets) ≤ 90 := by
    have bound := (b64encode_plain octets).quotedLength_le
    rw [b64encode_length, sized] at bound
    exact bound
  have key := encoded (seedOctets seed) (by simp [seedOctets])
  have ephemeral := encoded ephemeralKey ephemeralSized
  have fresh := encoded nonce nonceSized
  have signature := plain.quotedLength_le
  have device : quotedLength (py "mp-00000000") = 13 := by decide
  have names : [py "type", py "protocol", py "role", py "device_id", py "identity_key",
      py "ephemeral_key", py "nonce", py "peer_hello_hash", py "signature"].map quotedLength =
      [6, 10, 6, 11, 14, 15, 7, 17, 11] := by decide
  simp only [List.map_cons, List.map_nil, List.cons.injEq, and_true] at names
  have greeting : quotedLength (py "hello") = 7 := by decide
  have version : decimalLength protocolVersion = 1 := by decide
  unfold signedHello helloFields
  cases hash with
  | none =>
      simp only [List.append_nil, List.cons_append, List.nil_append, Json.dumps_obj_length,
        Json.dumps_str_length, Json.dumps_nat_length, List.map_cons, List.map_nil, List.sum_cons,
        List.sum_nil, Option.elim_none, seedDevice, names]
      omega
  | some digest =>
      have hashed := (hashPlain digest rfl).quotedLength_le
      simp only [List.cons_append, List.nil_append, Json.dumps_obj_length,
        Json.dumps_str_length, Json.dumps_nat_length, List.map_cons, List.map_nil, List.sum_cons,
        List.sum_nil, Option.elim_some, seedDevice, names]
      omega

theorem seedSignature_text (seed : UInt8) : (b64encode (seedSignature seed)).length = 88 := by
  have length : (seedSignature seed).length = 64 := by
    rw [seedSignature, List.length_append, seedOctets, List.length_append, List.length_replicate]
    rfl
  rw [b64encode_length, length]

theorem canonical_length (floats : FloatRepr) (payload : Json) :
    (canonical floats payload).length = (payload.dumps floats).length := by
  rw [canonical, encodeAscii_length, Json.dumps_sortKeys_length]

theorem sampleHello_length : (sampleHello.dumps quotientFloats).length ≤ 700 := by
  have bound : (sampleHello.dumps quotientFloats).length ≤
      500 + 2 * 0 + 2 * (b64encode (seedSignature 1)).length :=
    signedHello_length "client" 1 _ _ none (by decide) rfl rfl (by simp) (signature_plain 1)
  rw [seedSignature_text] at bound
  exact Nat.le_trans bound (by decide)

theorem sampleAnswer_length {signature : PyStr} (plain : Plain signature)
    (short : signature.length ≤ 256) :
    ((sampleAnswer signature).dumps quotientFloats).length ≤ 4000 := by
  have digest : (plainCrypto.hexdigest (canonical quotientFloats sampleHello)).length ≤ 1400 := by
    have text : plainCrypto.hexdigest (canonical quotientFloats sampleHello) =
        hexText (canonical quotientFloats sampleHello) := rfl
    rw [text, hexText_length, canonical_length]
    have bound := sampleHello_length
    omega
  have bound := signedHello_length "server" 2 (seedOctets 21) (seedOctets 22)
    (some (plainCrypto.hexdigest (canonical quotientFloats sampleHello))) (by decide) rfl rfl
    (fun _ same => by cases same; exact hexText_plain _) plain
  rw [Option.elim_some] at bound
  unfold sampleAnswer
  omega

theorem signature_short (seed : UInt8) : (b64encode (seedSignature seed)).length ≤ 256 := by
  rw [seedSignature_text]
  decide

theorem createHello_sample : createHello quotientFloats "client" (seedDevice 1) (seedOctets 11)
    (seedOctets 12) none = sampleHello := by
  rw [createHello_eq, sign_seed]
  rfl

theorem createHello_answer : createHello quotientFloats "server" (seedDevice 2) (seedOctets 21)
    (seedOctets 22) (some (plainCrypto.hexdigest (canonical quotientFloats sampleHello))) =
      sampleAnswer (b64encode (seedSignature 2)) := by
  rw [createHello_eq, sign_seed]
  rfl

theorem sampleHello_valid :
    validateHello plainCrypto quotientFloats sampleHello "client" = .ok validSampleHello :=
  validateHello_seed "client" 1 none rfl rfl (signature_short 1) (b64decode_b64encode _)

theorem sampleAnswer_valid {signature : PyStr} (short : signature.length ≤ 256)
    (decoded : b64decode signature = some (seedSignature 2)) :
    validateHello plainCrypto quotientFloats (sampleAnswer signature) "server" =
      .ok (validSampleAnswer signature) :=
  validateHello_seed "server" 2 _ rfl rfl short decoded

theorem sample_opening : clientOpening quotientFloats (seedDevice 1) (seedRecord 2) (seedOctets 11)
    (seedOctets 12) = .ok sampleHello := by
  have small : (canonical quotientFloats sampleHello).length ≤ maxHandshakeSize := by
    rw [canonical_length]
    exact Nat.le_trans sampleHello_length (by decide)
  obtain ⟨frame, sent⟩ := sendJson_small sampleHello small
  rw [← createHello_sample] at sent ⊢
  exact clientOpening_of rfl sent

theorem sampleHello_answered {store : TrustStore}
    (trusted : store.assess (py "mp-00000000") (b64encode (seedOctets 1)) = .trusted) :
    serverAnswer referenceCodec (seedDevice 2) store sampleHello (seedOctets 21) (seedOctets 22) =
      .ok (validSampleHello, sampleAnswer (b64encode (seedSignature 2))) := by
  have small : (canonical quotientFloats
      (sampleAnswer (b64encode (seedSignature 2)))).length ≤ maxHandshakeSize := by
    rw [canonical_length]
    exact Nat.le_trans (sampleAnswer_length (signature_plain 2) (signature_short 2)) (by decide)
  obtain ⟨frame, sent⟩ := sendJson_small (sampleAnswer (b64encode (seedSignature 2))) small
  rw [← createHello_answer] at sent ⊢
  exact serverAnswer_of sampleHello_valid trusted sent

theorem sample_answer : serverAnswer referenceCodec (seedDevice 2) (seedStore 1) sampleHello
    (seedOctets 21) (seedOctets 22) =
      .ok (validSampleHello, sampleAnswer (b64encode (seedSignature 2))) :=
  sampleHello_answered (by decide +kernel)

theorem sample_exchange : plainCrypto.x25519 (seedOctets 21) (seedOctets 11) = some (seedOctets 32) ∧
    plainCrypto.x25519 (seedOctets 11) (seedOctets 21) = some (seedOctets 32) := by
  decide +kernel

theorem sample_session (signature : PyStr) : serverSession plainCrypto quotientFloats
    validSampleHello (sampleAnswer signature) (seedOctets 21) (seedOctets 22) =
      .ok (sampleSession signature) := by
  have derived := deriveKey_of quotientFloats sample_exchange.1 validSampleHello.payload
    (sampleAnswer signature) validSampleHello.nonce (seedOctets 22)
  rw [serverSession, show validSampleHello.ephemeral = seedOctets 11 from rfl, derived]
  rfl

theorem receive_sampleAnswer {signature : PyStr} (plain : Plain signature)
    (short : signature.length ≤ 256) :
    receiveJson referenceCodec (frameOf (sampleAnswer signature)) = .ok (sampleAnswer signature) := by
  refine receiveJson_frameOf (sampleAnswer_formed plain) rfl ?_
  rw [textOf, encodeAscii_length]
  exact Nat.le_trans (sampleAnswer_length plain short) (by decide)

theorem sample_closing {signature : PyStr} (plain : Plain signature) (short : signature.length ≤ 256)
    (decoded : b64decode signature = some (seedSignature 2)) :
    clientClosing plainCrypto referenceCodec (seedRecord 2) (seedOctets 11) (seedOctets 12)
      sampleHello (frameOf (sampleAnswer signature)) =
      .ok (validSampleAnswer signature, sampleSession signature) := by
  have derived := deriveKey_of quotientFloats sample_exchange.2 sampleHello
    (sampleAnswer signature) (seedOctets 12) (seedOctets 22)
  exact clientClosing_of (receive_sampleAnswer plain short)
    (sampleAnswer_valid short decoded) rfl rfl
    (signedHello_field _ _ _ _ _ _ (List.mem_append_left _
      (List.mem_append_right _ (List.mem_singleton_self _)))) derived

/-- The run in which the answer reaches the client under the given text. -/
theorem sampleRun {honest : DeviceIdentity plainCrypto → Prop}
    (devices : ∀ identity, honest identity → ∃ seed, identity = seedDevice seed)
    {signature : PyStr} (plain : Plain signature) (short : signature.length ≤ 256)
    (decoded : b64decode signature = some (seedSignature 2)) :
    Run (handshakeStep referenceCodec) (Unforged referenceCodec honest) .start
      (sampleLabels signature)
      ⟨[sampleClient (some (.ok (validSampleAnswer signature, sampleSession signature)))],
        [sampleServer], []⟩ := by
  have small : (textOf sampleHello).length ≤ maxHandshakeSize := by
    rw [textOf, encodeAscii_length]
    exact Nat.le_trans sampleHello_length (by decide)
  have helloArrives := receiveJson_frameOf sampleHello_plain.1 sampleHello_plain.2 small
  have answerArrives := receive_sampleAnswer plain short
  have opens : handshakeStep referenceCodec .start (.client (seedDevice 1) (seedRecord 2)
      (seedOctets 11) (seedOctets 12)) = some ⟨[sampleClient none], [], []⟩ := by
    simp only [handshakeStep, show referenceCodec.floats = quotientFloats from rfl, sample_opening]
    rfl
  have answers : handshakeStep referenceCodec ⟨[sampleClient none], [], []⟩
      (.incoming (seedDevice 2) (seedStore 1) (frameOf sampleHello) (seedOctets 21) (seedOctets 22)
        (py "10.0.0.1") 9999 0) = some ⟨[sampleClient none], [sampleServer], []⟩ := by
    have apart : sampleHello.field "type" ≠ .str (py "pair_hello") := by
      have type : sampleHello.field "type" = .str (py "hello") :=
        signedHello_field _ _ _ _ _ _ (by simp [helloFields])
      rw [type]
      simp
    simp only [handshakeStep, show referenceCodec.floats = quotientFloats from rfl, helloArrives,
      if_neg apart, sample_answer, sample_session, List.nil_append, sampleServer]
  have closes : handshakeStep referenceCodec ⟨[sampleClient none], [sampleServer], []⟩
      (.clientReceives 0 (frameOf (sampleAnswer signature))) = some
        ⟨[sampleClient (some (.ok (validSampleAnswer signature, sampleSession signature)))],
          [sampleServer], []⟩ := by
    have closed := sample_closing plain short decoded
    simp only [handshakeStep, List.getElem?_cons_zero, sampleClient, Option.isSome_none,
      Bool.false_eq_true, ↓reduceIte, closed, bind, Option.bind_some, pure, List.set_cons_zero]
  refine .cons ?_ opens (.cons ?_ answers (.cons ?_ closes .refl))
  · intro stream payload delivered
    cases delivered
  · refine unforged_seed (fun stream delivered => by cases delivered; exact helloArrives)
      (signedHello_signature _ _ _ _ _ _) (b64decode_b64encode _) devices fun _ => ?_
    exact .inl ⟨_, List.mem_singleton_self _, rfl, rfl⟩
  · refine unforged_seed (fun stream delivered => by cases delivered; exact answerArrives)
      (signedHello_signature _ _ _ _ _ _) decoded devices fun _ => ?_
    refine .inr (.inl ⟨_, List.mem_singleton_self _, rfl, ?_⟩)
    simp only [signedBytes, sampleServer, sampleAnswer, unsigned_signedHello]

def firstTwo (identity : DeviceIdentity plainCrypto) : Prop :=
  identity = seedDevice 1 ∨ identity = seedDevice 2

theorem firstTwo_devices (identity : DeviceIdentity plainCrypto) (isHonest : firstTwo identity) :
    ∃ seed, identity = seedDevice seed :=
  isHonest.elim (fun same => ⟨1, same⟩) fun same => ⟨2, same⟩

theorem seedRecord_key (seed : UInt8) :
    decodePublicKey plainCrypto.toDigests (seedRecord seed).publicKey =
      .ok (seedDevice seed).publicBytes := by
  have size : (b64encode (seedOctets seed)).length = 44 := by
    simp [b64encode_length, seedOctets]
  rw [decodePublicKey, show (seedRecord seed).publicKey = b64encode (seedOctets seed) from rfl,
    if_neg (by omega), plainCrypto.b64decode_b64encode]
  rfl

/-- A run with the answer delivered as it was sent ends with one key. -/
theorem sample_agreement :
    ∃ state, Run (handshakeStep referenceCodec) (Unforged referenceCodec firstTwo) .start
      (sampleLabels (b64encode (seedSignature 2))) state ∧
      ∃ server ∈ state.servers, server.identity = seedDevice 2 ∧
        server.result = .ok (sampleSession (b64encode (seedSignature 2))) := by
  have run := sampleRun firstTwo_devices (signature_plain 2) (signature_short 2)
    (b64decode_b64encode _)
  obtain ⟨server, member, identity, agreement⟩ :=
    (handshake_agreement referenceCodec_sound firstTwo run).1 _ (List.mem_singleton_self _) _ _ rfl
      (seedDevice 2) (.inr rfl) (seedRecord_key 2)
  refine ⟨_, run, server, member, identity, ?_⟩
  cases List.mem_singleton.mp member
  exact agreement.sameKey rfl

theorem sampleKey_inj {left right : PyStr} (leftPlain : Plain left) (rightPlain : Plain right)
    (same : sampleKey left = sampleKey right) : left = right := by
  have transcripts := List.append_cancel_right same
  have answers := List.append_cancel_left (List.append_cancel_left
    (List.append_cancel_left transcripts))
  have flat : (sampleAnswer right).Flat :=
    (helloFields_plain role_plain.2 _ _ _ (fun _ found => by cases found; exact hexText_plain _)
      rightPlain).flat
  have signatures := Json.get_eq_of_sorted_octets quotientFloats (sampleAnswer_formed leftPlain)
    (sampleAnswer_formed rightPlain) flat answers (py "signature")
  rw [sampleAnswer, sampleAnswer, get_of_field (signedHello_signature _ _ _ _ _ _),
    get_of_field (signedHello_signature _ _ _ _ _ _)] at signatures
  simpa using signatures

theorem recodedSignature_plain : Plain recodedSignature := by
  intro point member
  rcases List.mem_or_eq_of_mem_set member with kept | rfl
  · exact signature_plain 2 point kept
  · decide

theorem recodedSignature_short : recodedSignature.length ≤ 256 := by
  rw [recodedSignature, List.length_set]
  exact signature_short 2

/-- With another text of the same signature both sides accept, under different
keys; and a device identifier alone does not tell whose key was trusted. -/
theorem recoded_signature_splits_keys :
    (¬ ∀ (crypto : Crypto) (codec : Codec) (honest : DeviceIdentity crypto → Prop)
      (labels : List (HandshakeLabel crypto)) (state : Handshakes crypto), codec.Sound →
      Run (handshakeStep codec) (Unforged codec honest) .start labels state →
      ∀ client ∈ state.clients, ∀ serverHello session,
      client.result = some (.ok (serverHello, session)) → ∀ peer, honest peer →
      decodePublicKey crypto.toDigests client.trustedPeer.publicKey = .ok peer.publicBytes →
      ∃ server ∈ state.servers, server.identity = peer ∧
        server.result = .ok ⟨session.key, client.identity.deviceId⟩) ∧
    ¬ ∀ (crypto : Crypto) (codec : Codec) (honest : DeviceIdentity crypto → Prop)
      (labels : List (HandshakeLabel crypto)) (state : Handshakes crypto), codec.Sound →
      Run (handshakeStep codec) (Unforged codec honest) .start labels state →
      ∀ server ∈ state.servers, ∀ session, server.result = .ok session →
      ∀ peer, honest peer → peer.deviceId = session.peerDeviceId →
      ∃ client ∈ state.clients, client.identity = peer ∧
        SameEntries server.clientHello.payload client.clientHello := by
  constructor
  · intro always
    have run := sampleRun firstTwo_devices recodedSignature_plain recodedSignature_short
      recodedSignature_decodes
    obtain ⟨server, member, _, returned⟩ := always plainCrypto referenceCodec firstTwo _ _
      referenceCodec_sound run _ (List.mem_singleton_self _) _ _ rfl (seedDevice 2) (.inr rfl)
      (seedRecord_key 2)
    cases List.mem_singleton.mp member
    have keys := congrArg AuthenticatedSession.key (Except.ok.inj returned)
    exact recodedSignature_ne
      (sampleKey_inj (signature_plain 2) recodedSignature_plain keys).symm
  · intro always
    let stranger : DeviceIdentity plainCrypto → Prop := fun identity => identity = seedDevice 3
    have devices : ∀ identity, stranger identity → ∃ seed, identity = seedDevice seed :=
      fun _ same => ⟨3, same⟩
    have run := sampleRun devices (signature_plain 2) (signature_short 2)
      (b64decode_b64encode _)
    obtain ⟨client, member, identity, _⟩ := always plainCrypto referenceCodec stranger _ _
      referenceCodec_sound run _ (List.mem_singleton_self _) _ rfl (seedDevice 3) rfl rfl
    cases List.mem_singleton.mp member
    have keys := congrArg DeviceIdentity.privateKey identity
    exact absurd (seedOctets_inj keys) (by decide)

end DirectTransfer
