import DirectTransfer.Core.PeerTasks
import DirectTransfer.Core.HandshakeAgreement
import DirectTransfer.Core.ServiceAgreement

/-! A forgotten device stays forgotten. Whatever the maps in memory still hold,
a session needs a record of the trust store, and only trusting the device
writes one; a call that finds a record has found it before the device was
forgotten. -/

set_option autoImplicit false

namespace DirectTransfer

open Library

/-! ## The recorded run -/

/-- The device has been forgotten, and not trusted since. -/
def Revoked (deviceId : PyStr) : List PeerOccurrence → Prop
  | [] => False
  | .forgotten other :: log => other = deviceId ∨ Revoked deviceId log
  | .trusted other :: log => other ≠ deviceId ∧ Revoked deviceId log
  | .authenticated _ _ :: log => Revoked deviceId log
  | .sent _ _ :: log => Revoked deviceId log

/-- What started at the given moment had started before each time the device
was forgotten and not trusted again. -/
def StartedBefore (deviceId : PyStr) (since : Nat) : List PeerOccurrence → Prop
  | [] => True
  | .forgotten other :: log =>
      (other = deviceId → since ≤ log.length) ∧ StartedBefore deviceId since log
  | .trusted other :: log => other = deviceId ∨ StartedBefore deviceId since log
  | .authenticated _ _ :: log => StartedBefore deviceId since log
  | .sent _ _ :: log => StartedBefore deviceId since log

/-- Each session was authenticated by what had started before the device was forgotten. -/
def Effective : List PeerOccurrence → Prop
  | [] => True
  | .authenticated deviceId since :: log => StartedBefore deviceId since log ∧ Effective log
  | .trusted _ :: log => Effective log
  | .forgotten _ :: log => Effective log
  | .sent _ _ :: log => Effective log

theorem startedBefore_of_not_revoked {deviceId : PyStr} {log : List PeerOccurrence}
    (still : ¬ Revoked deviceId log) (since : Nat) : StartedBefore deviceId since log := by
  induction log with
  | nil => trivial
  | cons occurrence log ih =>
      cases occurrence with
      | trusted other =>
          by_cases same : other = deviceId
          · exact .inl same
          · exact .inr (ih fun revoked => still ⟨same, revoked⟩)
      | forgotten other =>
          constructor
          · intro same
            exact absurd (.inl same) still
          · exact ih fun revoked => still (.inr revoked)
      | authenticated other moment => exact ih still
      | sent job peer => exact ih still

theorem StartedBefore.later {deviceId : PyStr} {since : Nat} {log : List PeerOccurrence}
    (before : StartedBefore deviceId since log) (started : since ≤ log.length)
    (occurrence : PeerOccurrence) : StartedBefore deviceId since (occurrence :: log) := by
  cases occurrence with
  | trusted other => exact .inr before
  | forgotten other =>
      constructor
      · intro _
        exact started
      · exact before
  | authenticated other moment => exact before
  | sent job peer => exact before

/-- Between the two, the device was not trusted. -/
theorem StartedBefore.forgotten {deviceId : PyStr} {since : Nat} {newer older : List PeerOccurrence}
    (before : StartedBefore deviceId since (newer ++ .forgotten deviceId :: older))
    (untrusted : .trusted deviceId ∉ newer) : since ≤ older.length := by
  induction newer with
  | nil => exact before.1 rfl
  | cons occurrence newer ih =>
      have rest : PeerOccurrence.trusted deviceId ∉ newer := fun member =>
        untrusted (List.mem_cons_of_mem _ member)
      cases occurrence with
      | trusted other =>
          cases before with
          | inl same =>
              subst same
              exact absurd List.mem_cons_self untrusted
          | inr before => exact ih before rest
      | forgotten other => exact ih before.2 rest
      | authenticated other moment => exact ih before rest
      | sent job peer => exact ih before rest

theorem Effective.of_append {newer older : List PeerOccurrence} (effective : Effective (newer ++ older)) :
    Effective older := by
  induction newer with
  | nil => exact effective
  | cons occurrence newer ih =>
      cases occurrence with
      | trusted other => exact ih effective
      | forgotten other => exact ih effective
      | authenticated other moment => exact ih effective.2
      | sent job peer => exact ih effective

theorem Effective.started {deviceId : PyStr} {since : Nat} {newer older : List PeerOccurrence}
    (effective : Effective (newer ++ .forgotten deviceId :: older))
    (untrusted : .trusted deviceId ∉ newer) (member : .authenticated deviceId since ∈ newer) :
    since ≤ older.length := by
  obtain ⟨latest, earlier, rfl⟩ := List.append_of_mem member
  rw [List.append_assoc, List.cons_append] at effective
  have before := effective.of_append.1
  apply before.forgotten
  intro again
  exact untrusted (List.mem_append_right _ (List.mem_cons_of_mem _ again))

/-! ## The trust store -/

namespace TrustStore

/-- Records stand under their own ids, and a new process finds no others. -/
structure Keyed (digests : Digests) (platform : Platform) (store : TrustStore) : Prop where
  keyed : ∀ deviceId record, store.get deviceId = some record → record.deviceId = deviceId
  reopened : ∀ deviceId, store.get deviceId = none →
    (store.load digests platform).get deviceId = none

variable {digests : Digests} {platform : Platform} {store : TrustStore}

theorem get_load (deviceId : PyStr) :
    (store.load digests platform).get deviceId =
      ((store.file.get deviceId).map Devices.reread).filter fun record =>
        record.deviceId = deviceId && (Devices.validateRecord digests platform record).isOk :=
  Devices.load_get store.file deviceId

theorem load_keyed (store : TrustStore) : (store.load digests platform).Keyed digests platform := by
  constructor
  · intro deviceId record found
    rw [get_load, Option.filter_eq_some_iff, Bool.and_eq_true] at found
    exact of_decide_eq_true found.2.1
  · intro deviceId missing
    exact missing

/-- A store just written. -/
theorem Keyed.of_written {next : TrustStore} (written : next.file = next.devices)
    (keyed : ∀ deviceId record, next.get deviceId = some record → record.deviceId = deviceId) :
    next.Keyed digests platform := by
  constructor
  · exact keyed
  · intro deviceId missing
    have absent : next.devices.get deviceId = none := missing
    rw [get_load, written, absent]
    rfl

theorem Keyed.trust (kept : store.Keyed digests platform) {next : TrustStore}
    {deviceId hostname publicKey : PyStr} {now : Time} {record : TrustedDevice}
    (trusted : TrustStore.trust digests store deviceId hostname publicKey now = .ok (next, record)) :
    next.Keyed digests platform ∧
    ∀ other, other ≠ deviceId → next.get other = store.get other := by
  obtain ⟨_, _, devices, written, named, _⟩ := trust_ok trusted
  have found : ∀ other, next.get other = if other = deviceId then some record else store.get other := by
    intro other
    rw [get, devices, Dict.get_set]
    rfl
  constructor
  · apply Keyed.of_written written
    intro other current present
    rw [found] at present
    split at present
    · next same =>
        cases present
        rw [named, same]
    · exact kept.keyed other current present
  · intro other apart
    rw [found, if_neg apart]

theorem Keyed.untrust (kept : store.Keyed digests platform) (deviceId : PyStr) :
    (store.untrust deviceId).1.Keyed digests platform := by
  unfold TrustStore.untrust Devices.untrust
  cases known : store.devices.get deviceId with
  | none => exact kept
  | some record =>
      apply Keyed.of_written rfl
      intro other current present
      change (store.devices.erase deviceId).get other = some current at present
      rw [Dict.get_erase] at present
      split at present
      · cases present
      · exact kept.keyed other current present

end TrustStore

namespace DirectPeerService

variable {runtime : Runtime}

theorem trust_identity (service : DirectPeerService runtime) (deviceId : PyStr)
    (friendlyName : Option PyStr) (now : Instant) (clock : Time) :
    (service.trust deviceId friendlyName now clock).1.identity = service.identity := by
  have kept : (service.pairing deviceId clock).1.identity = service.identity := by
    cases pairing_cases service deviceId clock with
    | inl same => rw [same]
    | inr same => rw [same]
  unfold DirectPeerService.trust
  revert kept
  obtain ⟨looked, outcome⟩ := service.pairing deviceId clock
  intro kept
  cases outcome with
  | error error => exact kept
  | ok found =>
      simp only
      split
      · exact kept
      · split <;> exact kept

theorem incomingPairing_identity (service : DirectPeerService runtime) (peer : SocketAddress)
    (hello : Json) (nonce : Bytes) (now clock : Time) :
    (service.incomingPairing peer hello nonce now clock).identity = service.identity := by
  unfold incomingPairing
  split <;> rfl

theorem incomingPairing_outboundPairings (service : DirectPeerService runtime) (peer : SocketAddress)
    (hello : Json) (nonce : Bytes) (now clock : Time) :
    (service.incomingPairing peer hello nonce now clock).outboundPairings =
      service.outboundPairings := by
  unfold incomingPairing
  split <;> rfl

/-- What a call does to the trust store: only trust writes a record. -/
inductive StoreChange (store : TrustStore) : Label runtime → TrustStore → Prop where
  | same {label : Label runtime} : (∀ deviceId, label ≠ .forgetDevice deviceId) →
      StoreChange store label store
  | trusted {deviceId name publicKey : PyStr} {friendlyName : Option PyStr} {now : Instant}
      {clock time : Time} {next : TrustStore} {record : TrustedDevice} :
      store.trust runtime.crypto.toDigests deviceId name publicKey time = .ok (next, record) →
      StoreChange store (.trust deviceId friendlyName now clock) next
  | forgotten {deviceId : PyStr} :
      StoreChange store (.forgetDevice deviceId) (store.untrust deviceId).1
  | reopened :
      StoreChange store .restart (store.load runtime.crypto.toDigests runtime.platform)

theorem pair_trustStore (service : DirectPeerService runtime)
    (endpoint : EndpointArgument runtime.platform) (dial : PairDial) :
    (service.pair endpoint dial).1.trustStore = service.trustStore := by
  cases pair_cases service endpoint dial with
  | inl raised =>
      obtain ⟨error, same⟩ := raised
      rw [same]
  | inr paired =>
      obtain ⟨target, resolved, remote, _, changed⟩ := paired
      rw [changed]

theorem connect_trustStore (service : DirectPeerService runtime)
    (endpoint : EndpointArgument runtime.platform) (pairDial : PairDial) (dial : HandshakeDial) :
    (service.connect endpoint pairDial dial).1.trustStore = service.trustStore := by
  cases connect_cases service endpoint pairDial dial with
  | inl same => rw [same, pair_trustStore]
  | inr changed =>
      obtain ⟨book, changed, _⟩ := changed
      rw [changed]
      exact pair_trustStore service endpoint pairDial

theorem sendFiles_trustStore (service : DirectPeerService runtime)
    (target : EndpointArgument runtime.platform) (pairDial : PairDial) (dial : HandshakeDial) :
    (service.sendFiles target pairDial dial).1.trustStore = service.trustStore := by
  apply @sendFiles_preserves runtime (fun next => next.trustStore = service.trustStore)
  · intro next endpoint kept
    exact (connect_trustStore next endpoint pairDial dial).trans kept
  · intro next resolved kept
    exact kept
  · rfl

theorem pairing_trustStore (service : DirectPeerService runtime) (deviceId : PyStr) (clock : Time) :
    (service.pairing deviceId clock).1.trustStore = service.trustStore := by
  cases pairing_cases service deviceId clock with
  | inl same => rw [same]
  | inr same => rw [same]

theorem trust_storeChange (service : DirectPeerService runtime) (deviceId : PyStr)
    (friendlyName : Option PyStr) (now : Instant) (clock : Time) :
    StoreChange service.trustStore (.trust deviceId friendlyName now clock : Label runtime)
      (service.trust deviceId friendlyName now clock).1.trustStore := by
  have kept := pairing_trustStore service deviceId clock
  unfold DirectPeerService.trust
  revert kept
  obtain ⟨looked, outcome⟩ := service.pairing deviceId clock
  intro kept
  simp only at kept
  cases outcome with
  | error error =>
      simp only [kept]
      exact .same nofun
  | ok found =>
      obtain ⟨identity, endpoint⟩ := found
      simp only [kept]
      cases trusted : service.trustStore.trust runtime.crypto.toDigests deviceId
          (shownName friendlyName endpoint) identity.publicKey now.time with
      | error error =>
          simp only [kept]
          exact .same nofun
      | ok written =>
          obtain ⟨store, record⟩ := written
          simp only
          split <;> exact .trusted trusted

theorem storeChange_of_step {service next : DirectPeerService runtime} {label : Label runtime}
    (stepped : service.step label = some next) :
    StoreChange service.trustStore label next.trustStore := by
  cases label with
  | pair endpoint dial =>
      cases stepped
      rw [pair_trustStore]
      exact .same nofun
  | connect endpoint pairDial dial =>
      cases stepped
      rw [connect_trustStore]
      exact .same nofun
  | trust deviceId friendlyName now clock =>
      cases stepped
      exact trust_storeChange service deviceId friendlyName now clock
  | forgetDevice deviceId =>
      cases stepped
      exact .forgotten
  | dismissPairing deviceId =>
      cases stepped
      exact .same nofun
  | incomingPairing peer hello nonce now clock =>
      cases stepped
      rw [incomingPairing_trustStore]
      exact .same nofun
  | sendFiles target pairDial dial =>
      cases stepped
      rw [sendFiles_trustStore]
      exact .same nofun
  | restart =>
      cases stepped
      exact .reopened

end DirectPeerService

/-! ## Handshakes -/

theorem clientHandshake_peer {crypto : Crypto} {codec : Codec} {identity : DeviceIdentity crypto}
    {trusted : TrustedDevice} {ephemeralPrivate nonce stream : Bytes} {session : AuthenticatedSession}
    (returned : clientHandshake crypto codec identity trusted ephemeralPrivate nonce stream =
      .ok session) : session.peerDeviceId = trusted.deviceId := by
  unfold clientHandshake at returned
  simp only [bind, Except.bind, pure, Except.pure] at returned
  split at returned
  · cases returned
  split at returned
  · cases returned
  next closed =>
    cases returned
    exact (clientClosing_ok closed).2.2.2.2.1

theorem serverSession_peer {crypto : Crypto} {floats : FloatRepr} {clientHello : ValidHello}
    {serverHello : Json} {ephemeralPrivate nonce : Bytes} {session : AuthenticatedSession}
    (returned : serverSession crypto floats clientHello serverHello ephemeralPrivate nonce =
      .ok session) : session.peerDeviceId = clientHello.deviceId := by
  unfold serverSession at returned
  simp only [bind, Except.bind, pure, Except.pure] at returned
  split at returned
  · cases returned
  · cases returned
    rfl

namespace DirectPeerService

variable {runtime : Runtime} {service : DirectPeerService runtime}

theorem authenticate_peer {target : Endpoint runtime.platform} {trusted : TrustedDevice}
    {dial : HandshakeDial} {address : SocketAddress} {session : AuthenticatedSession}
    (authenticated : service.authenticate target trusted dial = .ok (address, session)) :
    session.peerDeviceId = trusted.deviceId := by
  unfold authenticate at authenticated
  split at authenticated
  · cases authenticated
  split at authenticated
  · cases authenticated
  · next shaken =>
      cases authenticated
      exact clientHandshake_peer shaken

/-- Connecting authenticates a device against its record. -/
theorem connectSession_stored {endpoint : EndpointArgument runtime.platform} {pairDial : PairDial}
    {dial : HandshakeDial} {session : AuthenticatedSession}
    (returned : service.connectSession endpoint pairDial dial = some session) :
    ∃ deviceId record, service.trustStore.get deviceId = some record ∧
      session.peerDeviceId = record.deviceId := by
  unfold connectSession at returned
  split at returned
  · next result address other contacted =>
      cases returned
      obtain ⟨_, _, shakes⟩ := contact_cases service endpoint pairDial dial
      obtain ⟨record, present, _, authenticated⟩ := shakes result _ contacted
      rw [pair_trustStore] at present
      exact ⟨result.identity.deviceId, record, present, authenticate_peer authenticated.symm⟩
  · cases returned

theorem sendFilesSession_stored {target : EndpointArgument runtime.platform} {pairDial : PairDial}
    {dial : HandshakeDial} {session : AuthenticatedSession}
    (returned : service.sendFilesSession target pairDial dial = some session) :
    ∃ deviceId record, service.trustStore.get deviceId = some record ∧
      session.peerDeviceId = record.deviceId := by
  unfold sendFilesSession at returned
  cases target with
  | endpoint endpoint => exact connectSession_stored returned
  | text value =>
      simp only at returned
      split at returned
      · simp only [bind, Option.bind_eq_some_iff] at returned
        obtain ⟨_, _, _, _, _, _, connected⟩ := returned
        exact connectSession_stored connected
      · exact connectSession_stored returned

theorem resolveTrustedPeer_stored {peer : Option ResolvedPeer} {trusted : TrustedDevice}
    (found : service.resolveTrustedPeer peer = .ok trusted) :
    ∃ deviceId, service.trustStore.get deviceId = some trusted := by
  unfold resolveTrustedPeer at found
  split at found
  · cases found
  split at found
  · cases found
  split at found
  · cases found
  next record present =>
    split at found
    · cases found
    · cases found
      exact ⟨_, present⟩

end DirectPeerService

namespace PeerTask

/-- A task that may yet authenticate a device had started before the device was forgotten. -/
def Sound (log : List PeerOccurrence) : PeerTask → Prop
  | .connecting _ since => since ≤ log.length
  | .resolved _ _ since => since ≤ log.length
  | .handshaking _ trusted since => since ≤ log.length ∧ StartedBefore trusted.deviceId since log
  | .accepted since => since ≤ log.length
  | .answering clientHello _ _ _ since =>
      since ≤ log.length ∧ StartedBefore clientHello.deviceId since log
  | .working _ => True
  | .sending _ _ => True
  | .receiving _ => True
  | .ended => True

theorem Sound.later {log : List PeerOccurrence} {task : PeerTask} (sound : task.Sound log)
    (occurrence : PeerOccurrence) : task.Sound (occurrence :: log) := by
  cases task with
  | connecting job since => exact Nat.le_succ_of_le sound
  | resolved job peer since => exact Nat.le_succ_of_le sound
  | handshaking job trusted since =>
      exact ⟨Nat.le_succ_of_le sound.1, sound.2.later sound.1 occurrence⟩
  | accepted since => exact Nat.le_succ_of_le sound
  | answering clientHello serverHello ephemeralPrivate nonce since =>
      exact ⟨Nat.le_succ_of_le sound.1, sound.2.later sound.1 occurrence⟩
  | working job => trivial
  | sending job session => trivial
  | receiving session => trivial
  | ended => trivial

theorem Sound.append {log : List PeerOccurrence} {task : PeerTask} (sound : task.Sound log)
    (newer : List PeerOccurrence) : task.Sound (newer ++ log) := by
  induction newer with
  | nil => exact sound
  | cons occurrence newer ih => exact ih.later occurrence

end PeerTask

namespace PeerSystem

open DirectPeerService (Label)

variable {runtime : Runtime}

/-! ## Every run -/

structure Revoking (system : PeerSystem runtime) : Prop where
  stored : system.service.trustStore.Keyed runtime.crypto.toDigests runtime.platform
  revoked : ∀ deviceId, Revoked deviceId system.log →
    system.service.trustStore.get deviceId = none
  tasks : ∀ task ∈ system.tasks, task.Sound system.log
  effective : Effective system.log

/-- A device with a record has not been forgotten since it was trusted. -/
theorem Revoking.startedBefore {system : PeerSystem runtime} (holds : Revoking system)
    {deviceId : PyStr} {record : TrustedDevice}
    (found : system.service.trustStore.get deviceId = some record) (since : Nat) :
    StartedBefore record.deviceId since system.log := by
  apply startedBefore_of_not_revoked
  intro revoked
  rw [holds.stored.keyed deviceId record found] at revoked
  rw [holds.revoked deviceId revoked] at found
  cases found

theorem authenticates_effective {system : PeerSystem runtime} (holds : Revoking system)
    {session : Option AuthenticatedSession}
    (stored : ∀ returned, session = some returned → ∃ deviceId record,
      system.service.trustStore.get deviceId = some record ∧
      returned.peerDeviceId = record.deviceId) :
    Effective (system.authenticates session ++ system.log) := by
  cases session with
  | none => exact holds.effective
  | some session =>
      obtain ⟨deviceId, record, found, same⟩ := stored session rfl
      constructor
      · rw [same]
        exact holds.startedBefore found _
      · exact holds.effective

theorem recorded_effective {system : PeerSystem runtime} (holds : Revoking system)
    (label : Label runtime) : Effective (system.recorded label ++ system.log) := by
  cases label with
  | connect endpoint pairDial dial =>
      exact authenticates_effective holds fun _ returned =>
        DirectPeerService.connectSession_stored returned
  | sendFiles target pairDial dial =>
      exact authenticates_effective holds fun _ returned =>
        DirectPeerService.sendFilesSession_stored returned
  | pair endpoint dial => exact holds.effective
  | trust deviceId friendlyName now clock => exact holds.effective
  | forgetDevice deviceId => exact holds.effective
  | dismissPairing deviceId => exact holds.effective
  | incomingPairing peer hello nonce now clock => exact holds.effective
  | restart => exact holds.effective

/-- Sessions and sent frames revoke nothing. -/
theorem revoked_authenticates {system : PeerSystem runtime} {session : Option AuthenticatedSession}
    {deviceId : PyStr} (revoked : Revoked deviceId (system.authenticates session ++ system.log)) :
    Revoked deviceId system.log := by
  cases session with
  | none => exact revoked
  | some session => exact revoked

theorem tasksAfter_sound {system : PeerSystem runtime} (holds : Revoking system)
    (label : Label runtime) : ∀ task ∈ system.tasksAfter label, task.Sound system.log := by
  intro task member
  cases label with
  | sendFiles target pairDial dial =>
      unfold tasksAfter at member
      simp only at member
      split at member
      · exact holds.tasks task member
      · cases List.mem_append.mp member with
        | inl known => exact holds.tasks task known
        | inr started =>
            cases List.mem_singleton.mp started
            trivial
  | restart => cases member
  | pair endpoint dial => exact holds.tasks task member
  | connect endpoint pairDial dial => exact holds.tasks task member
  | trust deviceId friendlyName now clock => exact holds.tasks task member
  | forgetDevice deviceId => exact holds.tasks task member
  | dismissPairing deviceId => exact holds.tasks task member
  | incomingPairing peer hello nonce now clock => exact holds.tasks task member

theorem Revoking.store_kept {system : PeerSystem runtime} (holds : Revoking system)
    {label : Label runtime} {store : TrustStore}
    (change : DirectPeerService.StoreChange system.service.trustStore label store) :
    store.Keyed runtime.crypto.toDigests runtime.platform := by
  cases change with
  | same _ => exact holds.stored
  | trusted written => exact (holds.stored.trust written).1
  | forgotten => exact holds.stored.untrust _
  | reopened => exact system.service.trustStore.load_keyed

theorem Revoking.revoked_kept {system : PeerSystem runtime} (holds : Revoking system)
    {label : Label runtime} {store : TrustStore}
    (change : DirectPeerService.StoreChange system.service.trustStore label store)
    {deviceId : PyStr} (revoked : Revoked deviceId (system.recorded label ++ system.log)) :
    store.get deviceId = none := by
  cases change with
  | same other =>
      cases label with
      | forgetDevice forgotten => exact absurd rfl (other forgotten)
      | trust other friendlyName now clock => exact holds.revoked deviceId revoked.2
      | connect endpoint pairDial dial => exact holds.revoked deviceId (revoked_authenticates revoked)
      | sendFiles target pairDial dial => exact holds.revoked deviceId (revoked_authenticates revoked)
      | pair endpoint dial => exact holds.revoked deviceId revoked
      | dismissPairing other => exact holds.revoked deviceId revoked
      | incomingPairing peer hello nonce now clock => exact holds.revoked deviceId revoked
      | restart => exact holds.revoked deviceId revoked
  | trusted written =>
      obtain ⟨apart, revoked⟩ := revoked
      rw [(holds.stored.trust written).2 deviceId (Ne.symm apart)]
      exact holds.revoked deviceId revoked
  | @forgotten other =>
      rw [DirectPeerService.untrust_get]
      split
      · rfl
      · next apart =>
          cases revoked with
          | inl same => exact absurd same.symm apart
          | inr revoked => exact holds.revoked deviceId revoked
  | reopened => exact holds.stored.reopened deviceId (holds.revoked deviceId revoked)

/-- A step of a task looks the trust store up before it authenticates. -/
theorem Revoking.advance {system : PeerSystem runtime} (holds : Revoking system)
    {task next : PeerTask} {move : TaskMove} {occurrences : List PeerOccurrence}
    (sound : task.Sound system.log)
    (advanced : task.advance system.service system.log.length move = some (next, occurrences)) :
    next.Sound system.log ∧ Effective (occurrences ++ system.log) ∧
    ∀ deviceId, Revoked deviceId (occurrences ++ system.log) → Revoked deviceId system.log := by
  have quiet : Effective ([] ++ system.log) ∧
      ∀ deviceId, Revoked deviceId ([] ++ system.log) → Revoked deviceId system.log :=
    ⟨holds.effective, fun _ revoked => revoked⟩
  unfold PeerTask.advance at advanced
  split at advanced
  -- begin
  · split at advanced
    · cases advanced
      exact ⟨trivial, quiet⟩
    · cases advanced
      exact ⟨Nat.le_refl _, quiet⟩
  -- resolve
  · cases advanced
    exact ⟨sound, quiet⟩
  -- lookUp
  · split at advanced
    · cases advanced
      exact ⟨trivial, quiet⟩
    · next trusted found =>
        cases advanced
        obtain ⟨deviceId, present⟩ := DirectPeerService.resolveTrustedPeer_stored found
        exact ⟨⟨sound, holds.startedBefore present _⟩, quiet⟩
  -- handshake
  · split at advanced
    · cases advanced
      refine ⟨?_, quiet⟩
      split <;> trivial
    · next session returned =>
        cases advanced
        rw [clientHandshake_peer returned]
        exact ⟨trivial, ⟨sound.2, holds.effective⟩, fun _ revoked => revoked⟩
  -- send
  · cases advanced
    exact ⟨trivial, holds.effective, fun _ revoked => revoked⟩
  -- interrupt
  · cases advanced
    exact ⟨trivial, quiet⟩
  · cases advanced
    exact ⟨trivial, quiet⟩
  · cases advanced
    exact ⟨trivial, quiet⟩
  -- hello
  · split at advanced
    · cases advanced
      exact ⟨trivial, quiet⟩
    · next clientHello serverHello answered =>
        cases advanced
        obtain ⟨record, found, _, _⟩ := TrustStore.assess_trusted (serverAnswer_ok answered).2.1
        have before := holds.startedBefore found ‹Nat›
        rw [holds.stored.keyed _ _ found] at before
        exact ⟨⟨sound, before⟩, quiet⟩
  -- answered
  · split at advanced
    · cases advanced
      exact ⟨trivial, quiet⟩
    · next session returned =>
        cases advanced
        rw [serverSession_peer returned]
        exact ⟨trivial, ⟨sound.2, holds.effective⟩, fun _ revoked => revoked⟩
  -- finish
  · cases advanced
    exact ⟨trivial, quiet⟩
  · cases advanced

theorem Revoking.step {system next : PeerSystem runtime} (holds : Revoking system)
    {move : Move runtime} (stepped : system.step move = some next) : Revoking next := by
  cases move with
  | call label =>
      simp only [PeerSystem.step, Option.map_eq_some_iff] at stepped
      obtain ⟨service, called, rfl⟩ := stepped
      have change := DirectPeerService.storeChange_of_step called
      constructor
      · exact holds.store_kept change
      · intro deviceId revoked
        exact holds.revoked_kept change revoked
      · intro task member
        exact (tasksAfter_sound holds label task member).append _
      · exact recorded_effective holds label
  | accept =>
      cases stepped
      constructor
      · exact holds.stored
      · exact holds.revoked
      · intro task member
        cases List.mem_append.mp member with
        | inl known => exact holds.tasks task known
        | inr started =>
            cases List.mem_singleton.mp started
            exact Nat.le_refl _
      · exact holds.effective
  | advance index move =>
      simp only [PeerSystem.step, bind, Option.bind_eq_some_iff] at stepped
      obtain ⟨task, present, ⟨advancedTask, occurrences⟩, advanced, same⟩ := stepped
      cases same
      obtain ⟨sound, effective, revoked⟩ :=
        holds.advance (holds.tasks task (List.mem_of_getElem? present)) advanced
      constructor
      · exact holds.stored
      · intro deviceId still
        exact holds.revoked deviceId (revoked deviceId still)
      · intro other member
        cases List.mem_or_eq_of_mem_set member with
        | inl known => exact (holds.tasks other known).append _
        | inr same =>
            subst same
            exact sound.append _
      · exact effective

theorem start_revoking (service : DirectPeerService runtime) : Revoking (start service) := by
  constructor
  · exact service.trustStore.load_keyed
  · intro deviceId revoked
    cases revoked
  · intro task member
    cases member
  · trivial

/-- After a device is forgotten and until it is trusted again, nothing that
starts later authenticates it: not a call, an attempt or an incoming session. -/
theorem revocation_effective {service : DirectPeerService runtime} {moves : List (Move runtime)}
    {system : PeerSystem runtime} (run : Run step anyStep (start service) moves system)
    {newer older : List PeerOccurrence} {deviceId : PyStr} {since : Nat}
    (forgotten : system.log = newer ++ .forgotten deviceId :: older)
    (untrusted : .trusted deviceId ∉ newer) (member : .authenticated deviceId since ∈ newer) :
    since ≤ older.length := by
  have holds := run.invariant (fun _ _ _ holds _ stepped => Revoking.step holds stepped)
    (start_revoking service)
  have effective := holds.effective
  rw [forgotten] at effective
  exact effective.started untrusted member

/-! ## A run -/

open DirectPeerService (sampleRuntime sampleService namedService sampleOffer trustAs)

theorem bob_assessed : (namedService "bob").trustStore.assess (py "mp-00000000")
    (b64encode (seedOctets 1)) = .trusted := by
  decide +kernel

theorem start_sample : start sampleService = ⟨sampleService, [], []⟩ := rfl

theorem bob_identity : (namedService "bob").identity = seedDevice 2 := by
  rw [namedService, DirectPeerService.trust_identity, DirectPeerService.offeredService,
    DirectPeerService.incomingPairing_identity]
  rfl

theorem step_advance {system : PeerSystem runtime} {index : Nat} {task next : PeerTask}
    {move : TaskMove} {occurrences : List PeerOccurrence} (present : system.tasks[index]? = some task)
    (advanced : task.advance system.service system.log.length move = some (next, occurrences)) :
    system.step (.advance index move) = some { system with
      tasks := system.tasks.set index next, log := occurrences ++ system.log } := by
  simp [step, present, advanced]

theorem advance_hello {service : DirectPeerService runtime} {payload serverHello : Json}
    {clientHello : ValidHello} {ephemeralPrivate nonce : Bytes} (since moment : Nat)
    (answered : serverAnswer runtime.codec service.identity service.trustStore payload
      ephemeralPrivate nonce = .ok (clientHello, serverHello)) :
    PeerTask.advance service moment (.accepted since) (.hello payload ephemeralPrivate nonce) =
      some (.answering clientHello serverHello ephemeralPrivate nonce since, []) := by
  simp [PeerTask.advance, answered]

theorem advance_answered {service : DirectPeerService runtime} {clientHello : ValidHello}
    {serverHello : Json} {ephemeralPrivate nonce : Bytes} {session : AuthenticatedSession}
    (since moment : Nat)
    (returned : serverSession runtime.crypto runtime.codec.floats clientHello serverHello
      ephemeralPrivate nonce = .ok session) :
    PeerTask.advance service moment (.answering clientHello serverHello ephemeralPrivate nonce since)
      .answered = some (.receiving session, [.authenticated session.peerDeviceId since]) := by
  simp [PeerTask.advance, returned]

def greeting : PeerTask :=
  .answering validSampleHello (sampleAnswer (b64encode (seedSignature 2))) (seedOctets 21)
    (seedOctets 22) 1

/-- An incoming session is answered, its device is forgotten, and it ends authenticated. -/
def forgottenMoves : List (Move sampleRuntime) :=
  [.accept, .advance 0 (.hello sampleHello (seedOctets 21) (seedOctets 22)),
    .call (.forgetDevice (py "mp-00000000")), .advance 0 .answered]

def forgottenLog : List PeerOccurrence :=
  [.authenticated (py "mp-00000000") 1, .forgotten (py "mp-00000000"), .trusted (py "mp-00000000")]

theorem forgotten_run {service : DirectPeerService sampleRuntime}
    (identity : service.identity = seedDevice 2)
    (trusted : service.trustStore.assess (py "mp-00000000") (b64encode (seedOctets 1)) = .trusted) :
    Run step anyStep ⟨service, [], [.trusted (py "mp-00000000")]⟩ forgottenMoves
      ⟨service.forgetDevice (py "mp-00000000"),
        [.receiving (sampleSession (b64encode (seedSignature 2)))], forgottenLog⟩ := by
  have answered : PeerTask.advance service 1 (.accepted 1)
      (.hello sampleHello (seedOctets 21) (seedOctets 22)) = some (greeting, []) := by
    apply advance_hello
    rw [identity]
    exact sampleHello_answered trusted
  have greeted := @step_advance sampleRuntime ⟨service, [.accepted 1],
    [.trusted (py "mp-00000000")]⟩ 0 _ _ _ _ rfl answered
  have ended := @step_advance sampleRuntime ⟨service.forgetDevice (py "mp-00000000"), [greeting],
    [.forgotten (py "mp-00000000"), .trusted (py "mp-00000000")]⟩ 0 _ _ _ _ rfl
    (advance_answered 1 2 (sample_session (b64encode (seedSignature 2))))
  exact .cons trivial rfl (.cons trivial greeted (.cons trivial rfl (.single trivial ended)))

theorem bob_called : DirectPeerService.offeredService.step (trustAs "bob") =
    some (namedService "bob") := rfl

theorem bob_run : Run step anyStep (start sampleService) [.call sampleOffer, .call (trustAs "bob")]
    ⟨namedService "bob", [], [.trusted (py "mp-00000000")]⟩ := by
  have offered : (start sampleService).step (.call sampleOffer) =
      some ⟨DirectPeerService.offeredService, [], []⟩ := rfl
  have trusted : (⟨DirectPeerService.offeredService, [], []⟩ : PeerSystem sampleRuntime).step
      (.call (trustAs "bob")) = some ⟨namedService "bob", [], [.trusted (py "mp-00000000")]⟩ := by
    rw [step, bob_called]
    rfl
  exact .cons trivial offered (.single trivial trusted)

theorem answered_before_forgotten : ∃ system moves, Run step anyStep (start sampleService) moves system ∧
    system.log = forgottenLog ∧ 1 ≤ [PeerOccurrence.trusted (py "mp-00000000")].length := by
  have run := bob_run.trans (forgotten_run bob_identity bob_assessed)
  exact ⟨_, _, run, rfl, revocation_effective run
    (show forgottenLog = [.authenticated (py "mp-00000000") 1] ++ .forgotten (py "mp-00000000") ::
      [.trusted (py "mp-00000000")] from rfl) (by decide) (by decide)⟩

end PeerSystem

end DirectTransfer
