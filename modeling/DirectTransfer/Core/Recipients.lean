import DirectTransfer.Core.Revocation

/-! Whom the frames of a send worker reach. A worker keeps an address, and on
each attempt asks again which device was last seen there. -/

set_option autoImplicit false

namespace DirectTransfer

open Library

/-- A worker past its look-up works with the device it was started for. -/
def PeerTask.Addressed : PeerTask → Prop
  | .handshaking job trusted _ => trusted.deviceId = job.deviceId
  | .sending job session => session.peerDeviceId = job.deviceId
  | _ => True

/-- Every frame went to the device it was meant for. -/
def SentAsAddressed (log : List PeerOccurrence) : Prop :=
  ∀ deviceId peerDeviceId, .sent deviceId peerDeviceId ∈ log → peerDeviceId = deviceId

theorem SentAsAddressed.append {newer older : List PeerOccurrence} (new : SentAsAddressed newer)
    (old : SentAsAddressed older) : SentAsAddressed (newer ++ older) := by
  intro deviceId peerDeviceId member
  cases List.mem_append.mp member with
  | inl inNewer => exact new deviceId peerDeviceId inNewer
  | inr inOlder => exact old deviceId peerDeviceId inOlder

theorem sentAsAddressed_nil : SentAsAddressed [] := by
  intro deviceId peerDeviceId member
  cases member

/-- A peer a worker may authenticate: the store holds its key under its identifier. -/
inductive Authenticates (store : TrustStore) (peer : ResolvedPeer) : Prop where
  | pinned (record : TrustedDevice) : peer.trustStatus = .trusted →
      store.get peer.deviceId = some record → record.publicKey = peer.publicKey →
      Authenticates store peer

namespace DirectPeerService

variable {runtime : Runtime} {service : DirectPeerService runtime}

/-- A look-up finds the record of the peer that was at the address. -/
theorem resolveTrustedPeer_peer {peer : Option ResolvedPeer} {trusted : TrustedDevice}
    (found : service.resolveTrustedPeer peer = .ok trusted) :
    ∃ resolved, peer = some resolved ∧ service.trustStore.get resolved.deviceId = some trusted ∧
      Authenticates service.trustStore resolved := by
  cases peer with
  | none => cases found
  | some resolved =>
      simp only [resolveTrustedPeer] at found
      split at found
      · cases found
      · next checked =>
          simp only [not_or, not_not] at checked
          split at found
          · cases found
          · next record present =>
              split at found
              · cases found
              · next same =>
                  cases found
                  exact ⟨resolved, rfl, present, .pinned trusted checked.2.2 present (not_not.mp same)⟩

end DirectPeerService

namespace PeerSystem

variable {runtime : Runtime} {system next : PeerSystem runtime}

/-- The condition on a step: of the peers a worker may authenticate, the one it
has read at its address is its device. -/
def FindsItsDevice (system : PeerSystem runtime) : Move runtime → Prop
  | .advance index .lookUp => ∀ job peer since,
      system.tasks[index]? = some (.resolved job (some peer) since) →
      Authenticates system.service.trustStore peer → peer.deviceId = job.deviceId
  | _ => True

structure Addressing (system : PeerSystem runtime) : Prop where
  tasks : ∀ task ∈ system.tasks, task.Addressed
  log : SentAsAddressed system.log

/-- Calls send no frames of a worker. -/
theorem recorded_sentAsAddressed (system : PeerSystem runtime)
    (label : DirectPeerService.Label runtime) : SentAsAddressed (system.recorded label) := by
  have quiet (session : Option AuthenticatedSession) :
      SentAsAddressed (system.authenticates session) := by
    intro deviceId peerDeviceId member
    cases session with
    | none => cases member
    | some session => simp [authenticates] at member
  cases label with
  | connect endpoint pairDial dial => exact quiet _
  | sendFiles target pairDial dial => exact quiet _
  | trust deviceId friendlyName now clock =>
      intro _ _ member
      simp [recorded] at member
  | forgetDevice deviceId =>
      intro _ _ member
      simp [recorded] at member
  | pair | dismissPairing | incomingPairing | restart => exact sentAsAddressed_nil

/-- The worker a call starts has looked nothing up. -/
theorem tasksAfter_addressed (holds : Addressing system)
    (label : DirectPeerService.Label runtime) :
    ∀ task ∈ system.tasksAfter label, task.Addressed := by
  intro task member
  unfold tasksAfter at member
  split at member
  · cases member
  · split at member
    · exact holds.tasks task member
    · cases List.mem_append.mp member with
      | inl known => exact holds.tasks task known
      | inr started =>
          cases List.mem_singleton.mp started
          trivial
  · exact holds.tasks task member

/-- One step of a task that looks up no device but its own. -/
theorem advance_addressed {service : DirectPeerService runtime} {task after : PeerTask}
    {move : TaskMove} {occurrences : List PeerOccurrence} {moment : Nat}
    (keyed : service.trustStore.Keyed runtime.crypto.toDigests runtime.platform)
    (addressed : task.Addressed)
    (finds : move = .lookUp → ∀ job peer since, task = .resolved job (some peer) since →
      Authenticates service.trustStore peer → peer.deviceId = job.deviceId)
    (advanced : task.advance service moment move = some (after, occurrences)) :
    after.Addressed ∧ SentAsAddressed occurrences := by
  unfold PeerTask.advance at advanced
  split at advanced
  -- begin
  · split at advanced <;> cases advanced <;> exact ⟨trivial, sentAsAddressed_nil⟩
  -- resolve
  · cases advanced
    exact ⟨trivial, sentAsAddressed_nil⟩
  -- lookUp
  · split at advanced
    · cases advanced
      exact ⟨trivial, sentAsAddressed_nil⟩
    · next trusted found =>
        cases advanced
        obtain ⟨peer, rfl, present, pinned⟩ := DirectPeerService.resolveTrustedPeer_peer found
        have named := keyed.keyed _ _ present
        exact ⟨named.trans (finds rfl _ _ _ rfl pinned), sentAsAddressed_nil⟩
  -- handshake
  · split at advanced
    · cases advanced
      refine ⟨?_, sentAsAddressed_nil⟩
      split <;> trivial
    · next session returned =>
        cases advanced
        constructor
        · exact (clientHandshake_peer returned).trans addressed
        · intro deviceId peerDeviceId member
          simp at member
  -- send
  · cases advanced
    refine ⟨addressed, ?_⟩
    intro deviceId peerDeviceId member
    cases List.mem_singleton.mp member
    exact addressed
  -- interrupt
  · cases advanced
    exact ⟨trivial, sentAsAddressed_nil⟩
  · cases advanced
    exact ⟨trivial, sentAsAddressed_nil⟩
  · cases advanced
    exact ⟨trivial, sentAsAddressed_nil⟩
  -- hello
  · split at advanced <;> cases advanced <;> exact ⟨trivial, sentAsAddressed_nil⟩
  -- answered
  · split at advanced
    · cases advanced
      exact ⟨trivial, sentAsAddressed_nil⟩
    · cases advanced
      refine ⟨trivial, ?_⟩
      intro deviceId peerDeviceId member
      simp at member
  -- finish
  · cases advanced
    exact ⟨trivial, sentAsAddressed_nil⟩
  · cases advanced

theorem Addressing.step (holds : Addressing system) (revoking : Revoking system)
    {move : Move runtime} (finds : FindsItsDevice system move)
    (stepped : system.step move = some next) : Addressing next := by
  cases move with
  | call label =>
      simp only [PeerSystem.step, Option.map_eq_some_iff] at stepped
      obtain ⟨service, called, rfl⟩ := stepped
      constructor
      · exact tasksAfter_addressed holds label
      · exact (recorded_sentAsAddressed system label).append holds.log
  | accept =>
      cases stepped
      constructor
      · intro task member
        cases List.mem_append.mp member with
        | inl known => exact holds.tasks task known
        | inr started =>
            cases List.mem_singleton.mp started
            trivial
      · exact holds.log
  | advance index move =>
      simp only [PeerSystem.step, bind, Option.bind_eq_some_iff] at stepped
      obtain ⟨task, present, ⟨after, occurrences⟩, advanced, same⟩ := stepped
      cases same
      have looked : move = .lookUp → ∀ job peer since, task = .resolved job (some peer) since →
          Authenticates system.service.trustStore peer → peer.deviceId = job.deviceId := by
        intro isLookUp job peer since standing
        subst isLookUp standing
        exact finds job peer since present
      obtain ⟨addressed, sent⟩ := advance_addressed revoking.stored
        (holds.tasks task (List.mem_of_getElem? present)) looked advanced
      constructor
      · intro other member
        cases List.mem_or_eq_of_mem_set member with
        | inl known => exact holds.tasks other known
        | inr same =>
            subst same
            exact addressed
      · exact sent.append holds.log

/-! ## Two devices behind one address -/

def numberedOctets (octet : UInt8) : Bytes := octet :: List.replicate 31 0

def numberedDevice (octet : UInt8) : DeviceIdentity plainCrypto where
  privateKey := numberedOctets octet
  publicKey := b64encode (numberedOctets octet)
  deviceId := py "mp-" ++ hexText [octet, 0, 0, 0]
  encoded := rfl
  derived := by
    rw [deviceIdFromPublicKey, plainCrypto.b64decode_b64encode]
    rfl

def workerHello : Json :=
  createHello quotientFloats "client" (seedDevice 2) (seedOctets 11) (seedOctets 12) none

/-- What a device answers to the hello of a worker. -/
def numberedAnswer (octet : UInt8) : Json :=
  createHello quotientFloats "server" (numberedDevice octet) (seedOctets 21) (seedOctets 22)
    (some (plainCrypto.hexdigest (canonical quotientFloats workerHello)))

def numberedPairing (octet : UInt8) : Json :=
  pairingHello quotientFloats "server" (numberedDevice octet) (seedOctets 22) 5000
    (some (plainCrypto.hexdigest (canonical quotientFloats
      (pairingHello quotientFloats "client" (seedDevice 2) (seedOctets 12) 5000 none))))

/-- A decoder that knows the messages of these devices. -/
def numberedCodec : Codec where
  floats := quotientFloats
  loads octets := [numberedAnswer 1, numberedAnswer 2, numberedPairing 1].find? fun message =>
    textOf message = octets
  aead := paddedAead

def numberedRuntime : Runtime := ⟨plainCrypto, numberedCodec, asciiPlatform⟩

open DirectPeerService (Label fresh samplePeer epoch)

/-- A device offers itself from the one address, and is trusted. -/
def trustNumbered (octet : UInt8) (name : String) : List (Move numberedRuntime) :=
  [.call (.incomingPairing samplePeer (pairingHello quotientFloats "client" (numberedDevice octet)
      (seedOctets 12) 5000 none) (seedOctets 22) 0 0),
    .call (.trust (numberedDevice octet).deviceId (some (py name)) epoch 0)]

def sendToFirst : Label numberedRuntime :=
  .sendFiles (.text (numberedDevice 1).deviceId)
    ⟨.ok samplePeer, seedOctets 12, frameOf (numberedPairing 1), 0⟩
    ⟨.ok samplePeer, seedOctets 11, seedOctets 12, frameOf (numberedAnswer 1), epoch⟩

/-- The worker's attempt, with the device at the address answering. -/
def attemptAt (octet : UInt8) : List (Move numberedRuntime) :=
  [.advance 0 .begin, .advance 0 .resolve, .advance 0 .lookUp,
    .advance 0 (.handshake (seedOctets 11) (seedOctets 12) (frameOf (numberedAnswer octet))),
    .advance 0 .send]

def numberedStart : PeerSystem numberedRuntime := start (fresh (seedDevice 2) 5000)

/-- The worker for the first device, which is still at the address. -/
def ownMoves : List (Move numberedRuntime) :=
  trustNumbered 1 "laptop" ++ [.call sendToFirst] ++ attemptAt 1

/-- The second device is trusted at the same address before the worker's attempt. -/
def strayMoves : List (Move numberedRuntime) :=
  trustNumbered 1 "laptop" ++ [.call sendToFirst] ++ trustNumbered 2 "phone" ++ attemptAt 2

def findsItsDevice (system : PeerSystem runtime) : Move runtime → Bool
  | .advance index .lookUp => match system.tasks[index]? with
    | some (.resolved job (some peer) _) => peer.deviceId = job.deviceId
    | _ => true
  | _ => true

theorem findsItsDevice_sound (system : PeerSystem runtime) (move : Move runtime)
    (finds : findsItsDevice system move = true) : FindsItsDevice system move := by
  unfold FindsItsDevice
  split
  · intro job peer since standing _
    simp only [findsItsDevice, standing] at finds
    exact of_decide_eq_true finds
  · trivial

theorem own_executed : (runLabels (fun system move => if findsItsDevice system move then
    system.step move else none) numberedStart ownMoves).any (fun system => system.log.head? =
      some (.sent (numberedDevice 1).deviceId (numberedDevice 1).deviceId)) = true := by
  decide +kernel

theorem stray_executed : (runLabels step numberedStart strayMoves).any (fun system =>
    system.log.head? =
      some (.sent (numberedDevice 1).deviceId (numberedDevice 2).deviceId)) = true := by
  decide +kernel

/-! ## Every run -/

/-- While every worker that looks its peer up finds its own device at its address,
every frame goes to the device it is meant for, and every session a worker has is with it. -/
theorem frames_reach_device {service : DirectPeerService runtime} {moves : List (Move runtime)}
    (run : Run step FindsItsDevice (start service) moves system) :
    SentAsAddressed system.log ∧
    ∀ job session, .sending job session ∈ system.tasks → session.peerDeviceId = job.deviceId := by
  have holds : Revoking system ∧ Addressing system := by
    refine @Run.invariant _ _ _ _ (fun system => Revoking system ∧ Addressing system) ?_ _ _ _ run ?_
    · intro system move next kept finds stepped
      exact ⟨kept.1.step stepped, kept.2.step kept.1 finds stepped⟩
    · refine ⟨start_revoking service, ?_, sentAsAddressed_nil⟩
      intro task member
      cases member
  exact ⟨holds.2.log, fun job session member => holds.2.tasks _ member⟩

theorem first_device_reached : ∃ system, Run step FindsItsDevice numberedStart ownMoves system ∧
    SentAsAddressed system.log ∧ system.log.head? =
      some (.sent (numberedDevice 1).deviceId (numberedDevice 1).deviceId) := by
  obtain ⟨system, executed, sent⟩ := (Option.any_eq_true _ _).mp own_executed
  have run := run_of_checked findsItsDevice_sound executed
  exact ⟨system, run, (frames_reach_device run).1, of_decide_eq_true sent⟩

/-- A frame for the first device is encrypted for the second. -/
theorem frame_goes_astray : ¬ ∀ (runtime : Runtime) (service : DirectPeerService runtime)
    (moves : List (Move runtime)) (system : PeerSystem runtime),
    Run step anyStep (start service) moves system → SentAsAddressed system.log := by
  intro always
  obtain ⟨system, executed, sent⟩ := (Option.any_eq_true _ _).mp stray_executed
  have first := List.mem_of_mem_head? (of_decide_eq_true sent)
  have same := always _ _ _ system (run_of_runLabels executed) _ _ first
  revert same
  decide

end PeerSystem

end DirectTransfer
