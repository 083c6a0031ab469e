import DirectTransfer.Core.StoredFrames

/-! All sessions of a receiver over its disk: what holds of every transfer, whatever
frames arrive, in whatever order its sessions are cut and taken up again. -/

set_option autoImplicit false

namespace DirectTransfer

open Library

/-- A session that has not ended. -/
def StoredSession.Live (stored : StoredSession) : Prop :=
  ∀ outcome, stored.session.phase ≠ .ended outcome

/-! ## One step of a receiver -/

/-- Everything a step of the receiver can be. -/
inductive StoredMove (host : StoreHost) (platform : Platform) (state : StoredReceiver) :
    StoredLabel → StoredReceiver → Prop where
  | accepted {peerIp peerDeviceId : PyStr} {payload : Json} {offer : TransferOffer} :
      validateOffer platform payload = .ok offer →
      StoredMove host platform state (.accept peerIp peerDeviceId payload)
        { state with sessions := state.sessions ++
          [⟨⟨⟨peerIp, peerDeviceId, offer⟩, .resumeQuery, [], [], none⟩, none, none⟩] }
  | told {index : Nat} {event : ReceiveEvent} {stored : StoredSession} {registry : Registry}
      {session : ReceiveSession} : state.sessions[index]? = some stored →
      stored.session.phase.stores = false →
      stored.session.step state.registry event = some (registry, session) →
      StoredMove host platform state (.network index event)
        ⟨registry, state.disk, state.sessions.set index { stored with session }⟩
  | waits {index : Nat} {now : Time} {temp : PyStr} {failure : Option Raised}
      {stored after : StoredSession} {disk : Disk FilePath} : state.sessions[index]? = some stored →
      stored.call host platform state.registry state.disk temp failure = some (disk, after, none) →
      StoredMove host platform state (.storage index now temp failure)
        ⟨state.registry, disk, state.sessions.set index after⟩
  | returned {index : Nat} {now : Time} {temp : PyStr} {failure : Option Raised}
      {stored after : StoredSession} {disk : Disk FilePath} {answer : ReceiveAnswer}
      {registry : Registry} {session : ReceiveSession} : state.sessions[index]? = some stored →
      stored.call host platform state.registry state.disk temp failure =
        some (disk, after, some answer) →
      after.session.step state.registry ⟨now, answer⟩ = some (registry, session) →
      StoredMove host platform state (.storage index now temp failure)
        ⟨registry, disk, state.sessions.set index { after with session }⟩
  | restarted : StoredMove host platform state .restart ⟨.empty, state.disk, []⟩

section

variable {host : StoreHost} {platform : Platform} {state next : StoredReceiver}
  {label : StoredLabel} {stored after : StoredSession} {index : Nat}

theorem storedStep_cases (stepped : storedStep host platform state label = some next) :
    StoredMove host platform state label next := by
  cases label with
  | accept peerIp peerDeviceId payload =>
      simp only [storedStep] at stepped
      split at stepped
      · cases stepped
      · next offer valid =>
          cases stepped
          exact .accepted valid
  | network place event =>
      simp only [storedStep, Option.bind_eq_bind, Option.bind_eq_some_iff] at stepped
      obtain ⟨stored, found, rest⟩ := stepped
      split at rest
      · cases rest
      · next quiet =>
          simp only [Option.bind_eq_some_iff] at rest
          obtain ⟨⟨registry, session⟩, sessionStepped, finished⟩ := rest
          cases finished
          exact .told found (by simpa using quiet) sessionStepped
  | storage place now temp failure =>
      simp only [storedStep, Option.bind_eq_bind, Option.bind_eq_some_iff] at stepped
      obtain ⟨stored, found, ⟨disk, after, answer⟩, called, rest⟩ := stepped
      cases answer with
      | none =>
          cases rest
          exact .waits found called
      | some answer =>
          simp only [Option.bind_eq_some_iff] at rest
          obtain ⟨⟨registry, session⟩, sessionStepped, finished⟩ := rest
          cases finished
          exact .returned found called sessionStepped
  | restart =>
      cases stepped
      exact .restarted

/-- A call to the disk is made where the session stands at one, and leaves the session. -/
theorem call_stores {registry : Registry} {disk changed : Disk FilePath} {temp : PyStr}
    {failure : Option Raised} {answer : Option ReceiveAnswer}
    (called : stored.call host platform registry disk temp failure = some (changed, after, answer)) :
    stored.session.phase.stores = true ∧ after.session = stored.session := by
  unfold StoredSession.call at called
  split at called
  · next block standing =>
      unfold StoredSession.commitCall at called
      refine ⟨by rw [standing]; rfl, ?_⟩
      dsimp only at called
      split at called
      · cases called
        rfl
      · cases called
        rfl
      · simp only [Option.map_eq_some_iff] at called
        obtain ⟨⟨_, call⟩, _, same⟩ := called
        cases same
        rfl
  · unfold StoredSession.storeCall at called
    split at called
    · next standing =>
        refine ⟨by rw [standing]; rfl, ?_⟩
        split at called <;> cases called <;> rfl
    · next standing =>
        refine ⟨by rw [standing]; rfl, ?_⟩
        split at called
        · cases called
        · split at called <;> cases called <;> rfl
    · next standing =>
        refine ⟨by rw [standing]; rfl, ?_⟩
        simp only [Option.map_eq_some_iff] at called
        obtain ⟨handle, _, same⟩ := called
        cases same
        rfl
    · next standing =>
        refine ⟨by rw [standing]; rfl, ?_⟩
        split at called <;> cases called <;> rfl
    · next standing =>
        refine ⟨by rw [standing]; rfl, ?_⟩
        split at called <;> cases called <;> rfl
    · next standing =>
        cases called
        exact ⟨by rw [standing]; rfl, rfl⟩
    · cases called
  · split at called
    · next stores =>
        cases called
        exact ⟨stores, rfl⟩
    · cases called

/-- A call to the disk is one of a session that stands there. -/
theorem storage_cases {now : Time} {temp : PyStr} {failure : Option Raised}
    (stepped : storedStep host platform state (.storage index now temp failure) = some next) :
    ∃ stored, state.sessions[index]? = some stored ∧ stored.session.phase.stores = true := by
  cases storedStep_cases stepped with
  | waits found called => exact ⟨_, found, (call_stores called).1⟩
  | returned found called => exact ⟨_, found, (call_stores called).1⟩

theorem live_of_stores (stores : stored.session.phase.stores = true) : stored.Live := by
  intro outcome closed
  rw [closed] at stores
  cases stores

theorem live_of_step {registry changed : Registry} {event : ReceiveEvent} {session : ReceiveSession}
    (stepped : stored.session.step registry event = some (changed, session)) : stored.Live := by
  intro outcome closed
  simp [ReceiveSession.step, ReceiveSession.advance, closed] at stepped

end

/-! ## All transfers -/

/-- The offers a receiver is made, one for each transfer. -/
structure OfferedOnce (platform : Platform) (offers : TransferOffer → Prop) : Prop where
  valid : ∀ offer, offers offer → ∃ payload, validateOffer platform payload = .ok offer
  apart : ∀ one other, offers one → offers other → one.transferId = other.transferId → one = other

/-- What is expected of every offer. -/
structure Undertaken (host : StoreHost) (platform : Platform) (offers : TransferOffer → Prop)
    (expected : Consignment → Prop) : Prop where
  covers : ∀ offer, offers offer → ∃ goods, expected goods ∧ goods.offer = offer
  offerable : ∀ goods, expected goods → Offerable platform goods.offer.files
  identified : ∀ goods, expected goods → isTransferId goods.offer.transferId = true
  restarts : ∀ goods, expected goods → goods.Restarts host
  apart : ∀ one other, expected one → expected other →
    one.offer.transferId = other.offer.transferId → one = other

/-- The final paths of every transfer. -/
abbrev Finals := PyStr → IncomingFile → Option FilePath

/-- A transfer as its live session needs it, or as the next session does. -/
structure Tended (host : StoreHost) (state : StoredReceiver) (goods : Consignment)
    (finals : IncomingFile → Option FilePath) : Prop where
  stands : ∀ stored ∈ state.sessions, stored.Live → stored.transferId = goods.offer.transferId →
    Stands host state.registry state.disk goods finals stored
  rests : (∀ stored ∈ state.sessions, stored.Live → stored.transferId ≠ goods.offer.transferId) →
    host.Rests state.disk goods finals

/-- What holds of a receiver and its disk between two steps. -/
structure Attended (host : StoreHost) (expected : Consignment → Prop) (state : StoredReceiver)
    (finals : Finals) : Prop where
  keyed : state.registry.Keyed
  anchored : ∀ stored ∈ state.sessions, stored.session.Anchored state.registry
  idle : ∀ stored ∈ state.sessions, (∀ block, stored.session.phase ≠ .inside block .commit) →
    stored.commit = none
  known : ∀ stored ∈ state.sessions, ∃ goods, expected goods ∧
    stored.session.origin.offer = goods.offer
  single : ∀ (first second : Nat) (one other : StoredSession), state.sessions[first]? = some one →
    state.sessions[second]? = some other → one.Live → other.Live →
    one.transferId = other.transferId → first = second
  tended : ∀ goods, expected goods → Tended host state goods (finals goods.offer.transferId)

/-- The condition on a step: a transfer has one live session at a time and is retried with
the offer it began with, the calls of a commit succeed, and the process is not stopped
between the two names of a file that is being committed. -/
def Attends (platform : Platform) (offers : TransferOffer → Prop) (state : StoredReceiver) :
    StoredLabel → Prop
  | .accept _ _ payload => ∀ offer, validateOffer platform payload = .ok offer → offers offer ∧
      ∀ stored ∈ state.sessions, stored.Live → stored.transferId ≠ offer.transferId
  | .network _ _ => True
  | .storage index _ _ failure => ∀ stored block, state.sessions[index]? = some stored →
      stored.session.phase = .inside block .commit → failure = none
  | .restart => ∀ stored ∈ state.sessions, ∀ call name, stored.commit = some call →
      call.phase ≠ .unlinkLinked name

/-- A step whose frame, if it is one, brings what is expected. -/
def Brings (expected : Consignment → Prop) (state : StoredReceiver) : StoredLabel → Prop
  | .network index event => ∀ stored, state.sessions[index]? = some stored → ∀ goods, expected goods →
      stored.session.origin.offer = goods.offer → Handed state.disk goods stored.session event
  | _ => True

section

variable {host : StoreHost} {platform : Platform} {offers : TransferOffer → Prop}
  {expected : Consignment → Prop} {state next : StoredReceiver} {finals : Finals}
  {goods : Consignment} {index : Nat} {stored after : StoredSession} {registry : Registry} {disk : Disk FilePath}

theorem keepsCursor_of_foreign {origin : Origin} {record : Nat} {transferId : PyStr}
    (evolves : state.registry.Evolves origin registry)
    (apart : transferId ≠ origin.offer.transferId)
    (owned : ∀ info, state.registry.transfers[record]? = some info → info.transferId = transferId) :
    KeepsCursor record state.registry registry := by
  intro info found
  obtain ⟨new, again, _, _, same⟩ := evolves.kept record info found
  rw [same (by rw [owned info found]; exact apart)] at again
  exact ⟨info, again, rfl⟩

/-- The final paths once those of one transfer have changed. -/
def Finals.with (finals : Finals) (transferId : PyStr) (changed : IncomingFile → Option FilePath) :
    Finals := fun other => if other = transferId then changed else finals other

theorem Finals.with_same (finals : Finals) (transferId : PyStr)
    (changed : IncomingFile → Option FilePath) : finals.with transferId changed transferId = changed :=
  if_pos rfl

/-- A step of one live session, with what it does to its own transfer. -/
theorem Attended.advance (undertaken : Undertaken host platform offers expected)
    (attended : Attended host expected state finals) (known : expected goods)
    (found : state.sessions[index]? = some stored) (live : stored.Live)
    (same : stored.session.origin.offer = goods.offer)
    (evolves : state.registry.Evolves stored.session.origin registry)
    (anchored : after.session.Anchored registry)
    (origin : after.session.origin = stored.session.origin)
    (idle : (∀ block, after.session.phase ≠ .inside block .commit) → after.commit = none)
    (changed : IncomingFile → Option FilePath)
    (stands : Stands host registry disk goods changed after)
    (frame : Disk.Frame (TouchedBy state.disk goods.offer.transferId) state.disk disk) :
    Attended host expected ⟨registry, disk, state.sessions.set index after⟩
      (finals.with goods.offer.transferId changed) := by
  have bound := (List.getElem?_eq_some_iff.mp found).1
  have member := List.mem_of_getElem? found
  have placed : (state.sessions.set index after)[index]? = some after := List.getElem?_set_self bound
  have transferId : after.transferId = goods.offer.transferId := by
    rw [StoredSession.transferId, ReceiveSession.transferId, origin, same]
  have before {place : Nat} {other : StoredSession} (apart : place ≠ index)
      (there : (state.sessions.set index after)[place]? = some other) :
      state.sessions[place]? = some other := by
    rw [List.getElem?_set_ne (Ne.symm apart)] at there
    exact there
  have alone {place : Nat} {other : StoredSession} (apart : place ≠ index)
      (there : (state.sessions.set index after)[place]? = some other) (lives : other.Live) :
      other.transferId ≠ goods.offer.transferId := by
    intro equal
    apply apart
    refine attended.single place index other stored (before apart there) found lives live ?_
    rw [equal, ← same]
    rfl
  refine ⟨evolves.keyed attended.keyed, ?_, ?_, ?_, ?_, ?_⟩
  · intro other among
    cases List.mem_or_eq_of_mem_set among with
    | inl old => exact (attended.anchored other old).evolves evolves
    | inr new =>
        rw [new]
        exact anchored
  · intro other among
    cases List.mem_or_eq_of_mem_set among with
    | inl old => exact attended.idle other old
    | inr new =>
        rw [new]
        exact idle
  · intro other among
    cases List.mem_or_eq_of_mem_set among with
    | inl old => exact attended.known other old
    | inr new =>
        rw [new, origin]
        exact ⟨goods, known, same⟩
  · intro first second one other here there lives lives' equal
    by_cases own : first = index
    · by_cases own' : second = index
      · exact own.trans own'.symm
      · rw [own, placed] at here
        cases here
        exact absurd (equal.symm.trans transferId) (alone own' there lives')
    · by_cases own' : second = index
      · rw [own', placed] at there
        cases there
        exact absurd (equal.trans transferId) (alone own here lives)
      · exact attended.single first second one other (before own here) (before own' there) lives
          lives' equal
  · intro others expects
    by_cases own : others.offer.transferId = goods.offer.transferId
    · cases undertaken.apart others goods expects known own
      rw [Finals.with_same]
      constructor
      · intro other among lives equal
        obtain ⟨place, there⟩ := List.mem_iff_getElem?.mp among
        by_cases here : place = index
        · rw [here, placed] at there
          cases there
          exact stands
        · exact absurd equal (alone here there lives)
      · intro nobody
        apply stands.rests
        intro block standing
        refine nobody after (List.mem_of_getElem? placed) ?_ transferId
        intro outcome closed
        cases standing.symm.trans closed
    · have elsewhere : goods.offer.transferId ≠ others.offer.transferId := Ne.symm own
      have foreign : stored.session.origin.offer.transferId ≠ others.offer.transferId := by
        rw [same]
        exact elsewhere
      rw [show finals.with goods.offer.transferId changed others.offer.transferId =
        finals others.offer.transferId from if_neg own]
      obtain ⟨standing, resting⟩ := attended.tended others expects
      constructor
      · intro other among lives equal
        have old : other ∈ state.sessions := by
          cases List.mem_or_eq_of_mem_set among with
          | inl old => exact old
          | inr new =>
              rw [new, transferId] at equal
              exact absurd equal elsewhere
        refine (standing other old lives equal).foreign elsewhere frame fun block at' => ?_
        refine keepsCursor_of_foreign evolves (Ne.symm foreign) fun info there => ?_
        obtain ⟨held, here, owner, _⟩ := (attended.anchored other old).anchored block at'
        cases here.symm.trans there
        exact owner.trans equal
      · intro nobody
        refine (resting fun other old lives equal => ?_).foreign elsewhere frame
        obtain ⟨place, there⟩ := List.mem_iff_getElem?.mp old
        have here : place ≠ index := by
          intro here
          rw [here, found] at there
          cases there
          apply elsewhere
          rw [← same]
          exact equal
        have still : (state.sessions.set index after)[place]? = some other := by
          rw [List.getElem?_set_ne (Ne.symm here)]
          exact there
        exact nobody other (List.mem_of_getElem? still) lives equal

/-! ## One step -/

/-- A step that neither records a file nor completes a transfer. -/
def Silent (state : StoredReceiver) (label : StoredLabel) : Prop :=
  ∀ index now temp stored, label = .storage index now temp none →
    state.sessions[index]? = some stored →
    (∀ block finalPath, stored.session.phase ≠ .inside block (.markCompleted finalPath)) ∧
      stored.session.phase ≠ .completeSession

/-- What a step does to the recorded final paths. -/
inductive Records (host : StoreHost) (state : StoredReceiver) :
    StoredLabel → Finals → Finals → Prop where
  | silent {label : StoredLabel} {finals : Finals} : Silent state label →
      Records host state label finals finals
  | marked {index : Nat} {now : Time} {temp : PyStr} {stored : StoredSession} {block : FileBlock}
      {finalPath : FinalPath} {path : FilePath} {finals : Finals} :
      state.sessions[index]? = some stored →
      stored.session.phase = .inside block (.markCompleted finalPath) →
      finals stored.transferId block.offered = none → finalPath = host.shown path →
      Records host state (.storage index now temp none) finals (finals.with stored.transferId
        (withFinal (finals stored.transferId) block.offered path))
  | completed {index : Nat} {now : Time} {temp : PyStr} {stored : StoredSession} {finals : Finals} :
      state.sessions[index]? = some stored → stored.session.phase = .completeSession →
      Records host state (.storage index now temp none) finals
        (finals.with stored.transferId fun _ => none)

theorem silent_of_phase {now : Time} {temp : PyStr}
    (found : state.sessions[index]? = some stored)
    (unmarked : ∀ block finalPath, stored.session.phase ≠ .inside block (.markCompleted finalPath))
    (ongoing : stored.session.phase ≠ .completeSession) :
    Silent state (.storage index now temp none) := by
  intro place clock name other same there
  cases same
  cases found.symm.trans there
  exact ⟨unmarked, ongoing⟩

/-- What the sessions leave alone: every name in the receive directory that is taken. -/
def ReceivedName (disk : Disk FilePath) (path : FilePath) : Prop :=
  path.directory = .received ∧ disk.nodes.get path ≠ none

/-- The name a step gives a file in the receive directory, if it gives one. -/
def NamedBy (state : StoredReceiver) : StoredLabel → FilePath → Prop
  | .storage index _ _ none, path => ∃ stored, state.sessions[index]? = some stored ∧
      stored.Links path
  | _, _ => False

/-- What a step leaves. -/
structure Moved (host : StoreHost) (expected : Consignment → Prop) (state : StoredReceiver)
    (label : StoredLabel) (next : StoredReceiver) (finals changed : Finals) : Prop where
  attended : Attended host expected next changed
  records : Records host state label finals changed
  frame : Disk.Frame (fun path => ¬ ReceivedName state.disk path) state.disk next.disk
  newFiles : NewFiles (NamedBy state label) state.disk next.disk

theorem not_receivedName {transferId : PyStr} {path : FilePath}
    (touched : TouchedBy disk transferId path) : ¬ ReceivedName disk path := by
  intro untouched
  exact untouched_received untouched.1 untouched.2 touched

theorem with_self (transferId : PyStr) : finals.with transferId (finals transferId) = finals := by
  funext other
  unfold Finals.with
  split
  · next same => rw [same]
  · rfl

/-- The session a call belongs to, and its transfer. -/
theorem Attended.transfer (attended : Attended host expected state finals)
    (found : state.sessions[index]? = some stored) (live : stored.Live) :
    ∃ goods, expected goods ∧ stored.session.origin.offer = goods.offer ∧
      Stands host state.registry state.disk goods (finals goods.offer.transferId) stored := by
  have member := List.mem_of_getElem? found
  obtain ⟨goods, known, same⟩ := attended.known stored member
  refine ⟨goods, known, same, (attended.tended goods known).stands stored member live ?_⟩
  rw [← same]
  rfl

/-- A step of a session that leaves the recorded final paths as they are. -/
theorem Attended.advances {label : StoredLabel} (undertaken : Undertaken host platform offers expected)
    (attended : Attended host expected state finals) (known : expected goods)
    (found : state.sessions[index]? = some stored) (live : stored.Live)
    (same : stored.session.origin.offer = goods.offer)
    (evolves : state.registry.Evolves stored.session.origin registry)
    (anchored : after.session.Anchored registry)
    (origin : after.session.origin = stored.session.origin)
    (idle : (∀ block, after.session.phase ≠ .inside block .commit) → after.commit = none)
    (stands : Stands host registry disk goods (finals goods.offer.transferId) after)
    (frame : Disk.Frame (TouchedBy state.disk goods.offer.transferId) state.disk disk)
    (newFiles : NewFiles (NamedBy state label) state.disk disk) (silent : Silent state label) :
    ∃ changed, Moved host expected state label ⟨registry, disk, state.sessions.set index after⟩
      finals changed := by
  have moved := attended.advance undertaken known found live same evolves anchored origin idle _
    stands frame
  rw [with_self] at moved
  exact ⟨finals, moved, .silent silent, frame.widen fun path touched => not_receivedName touched,
    newFiles⟩

/-- A frame or a notification. -/
theorem Attended.network {event : ReceiveEvent} (undertaken : Undertaken host platform offers expected)
    (attended : Attended host expected state finals)
    (brings : Brings expected state (.network index event))
    (stepped : storedStep host platform state (.network index event) = some next) :
    ∃ changed, Moved host expected state (.network index event) next finals changed := by
  cases storedStep_cases stepped with
  | @told _ _ stored registry session found quiet sessionStepped =>
      have member := List.mem_of_getElem? found
      have live := live_of_step sessionStepped
      have transition := ReceiveSession.step_transition sessionStepped
      obtain ⟨goods, known, same, stands⟩ := attended.transfer found live
      obtain ⟨evolves, anchored, origin⟩ :=
        transition.anchored attended.keyed (attended.anchored stored member)
      have idle : stored.commit = none := by
        apply attended.idle stored member
        intro block standing
        rw [standing] at quiet
        cases quiet
      refine attended.advances undertaken known found live same
        evolves anchored origin (fun _ => idle) ?_ .refl newFiles_refl ?_
      · exact stands.network same attended.keyed (attended.anchored stored member) quiet
          (brings stored found goods known same) transition
      · intro place now temp other equal
        cases equal

/-- A call to the disk that raises. -/
theorem Attended.failure {now : Time} {temp : PyStr} {error : Raised}
    (undertaken : Undertaken host platform offers expected)
    (attended : Attended host expected state finals)
    (attends : Attends platform offers state (.storage index now temp (some error)))
    (stepped : storedStep host platform state (.storage index now temp (some error)) = some next) :
    ∃ changed, Moved host expected state (.storage index now temp (some error)) next finals
      changed := by
  simp only [storedStep, Option.bind_eq_bind, Option.bind_eq_some_iff] at stepped
  obtain ⟨stored, found, ⟨disk, after, answer⟩, called, rest⟩ := stepped
  have member := List.mem_of_getElem? found
  have elsewhere : ∀ block, stored.session.phase ≠ .inside block .commit := by
    intro block standing
    cases attends stored block found standing
  have raises : stored.session.phase.stores = true ∧
      (disk, after, answer) = (state.disk, stored, some (.raised error)) := by
    unfold StoredSession.call at called
    split at called
    · next block standing => exact absurd standing (elsewhere block)
    · next impossible _ => cases impossible
    · next same _ =>
        cases same
        split at called
        · next stores =>
            cases called
            exact ⟨stores, rfl⟩
        · cases called
  obtain ⟨stores, equal⟩ := raises
  cases equal
  simp only [Option.bind_eq_some_iff] at rest
  obtain ⟨⟨registry, session⟩, sessionStepped, finished⟩ := rest
  cases finished
  have live := live_of_stores stores
  have transition := ReceiveSession.step_transition sessionStepped
  obtain ⟨goods, known, same, stands⟩ := attended.transfer found live
  obtain ⟨evolves, anchored, origin⟩ :=
    transition.anchored attended.keyed (attended.anchored stored member)
  refine attended.advances undertaken known found live same evolves
    anchored origin (fun _ => attended.idle stored member elsewhere)
    (stands.fails stores elsewhere rfl transition) .refl newFiles_refl ?_
  intro place clock name other equal
  cases equal

/-- A call that has returned, and the code up to the next call. -/
theorem returned_of_called {now : Time} {temp : PyStr} {answer : ReceiveAnswer}
    {after : StoredSession} (found : state.sessions[index]? = some stored)
    (called : stored.call host platform state.registry state.disk temp none =
      some (disk, after, some answer))
    (stepped : storedStep host platform state (.storage index now temp none) = some next) :
    ∃ registry session, after.session.step state.registry ⟨now, answer⟩ = some (registry, session) ∧
      next = ⟨registry, disk, state.sessions.set index { after with session }⟩ := by
  simp only [storedStep, found, called, Option.bind_eq_bind, Option.bind_some,
    Option.bind_eq_some_iff] at stepped
  obtain ⟨⟨registry, session⟩, sessionStepped, finished⟩ := stepped
  cases finished
  exact ⟨registry, session, sessionStepped, rfl⟩

/-- A call to the disk that succeeds. -/
theorem Attended.storage {now : Time} {temp : PyStr} (lawful : host.Lawful)
    (places : host.Places platform) (undertaken : Undertaken host platform offers expected)
    (attended : Attended host expected state finals)
    (stepped : storedStep host platform state (.storage index now temp none) = some next) :
    ∃ changed, Moved host expected state (.storage index now temp none) next finals changed := by
  obtain ⟨stored, found, stores⟩ := storage_cases stepped
  have member := List.mem_of_getElem? found
  have live := live_of_stores stores
  have calm := attended.idle stored member
  have anchors := attended.anchored stored member
  obtain ⟨goods, known, same, stands⟩ := attended.transfer found live
  have offerable := undertaken.offerable goods known
  have restarts := undertaken.restarts goods known
  have transferId : stored.transferId = goods.offer.transferId := by
    rw [← same]
    rfl
  have spared (path : FilePath) (within : path.directory = .session goods.offer.transferId) :
      path.directory ≠ .received := by
    intro place
    cases within.symm.trans place
  have onward {disk : Disk FilePath} {handle : Option OpenPartial} {commit : Option CommitCall}
      {answer : ReceiveAnswer} {registry : Registry} {moved : ReceiveSession}
      (unmarked : ∀ block finalPath, stored.session.phase ≠ .inside block (.markCompleted finalPath))
      (ongoing : stored.session.phase ≠ .completeSession)
      (called : stored.call host platform state.registry state.disk temp none =
        some (disk, ⟨stored.session, handle, commit⟩, some answer))
      (follows : stored.session.step state.registry ⟨now, answer⟩ = some (registry, moved))
      (idle : commit = none)
      (stands : Stands host registry disk goods (finals goods.offer.transferId)
        ⟨moved, handle, commit⟩)
      (frame : Disk.Frame (·.directory = .session goods.offer.transferId) state.disk disk) :
      ∃ changed, Moved host expected state (.storage index now temp none) next finals changed := by
    obtain ⟨registry', session, again, rfl⟩ := returned_of_called found called stepped
    cases follows.symm.trans again
    have transition := ReceiveSession.step_transition again
    obtain ⟨evolves, anchored, origin⟩ := transition.anchored attended.keyed anchors
    exact attended.advances undertaken known found live same evolves anchored origin
      (fun _ => idle) stands (frame.widen fun path within => .inl within)
      (newFiles_of_frame frame spared) (silent_of_phase found unmarked ongoing)
  cases standing : stored.session.phase with
  | prepare =>
      obtain ⟨disk, states, called, follows, stands, _, frame⟩ := stands.prepare lawful offerable
        (undertaken.identified goods known) same standing
      refine onward (by simp [standing]) (by simp [standing]) (called temp) (follows now)
        (calm (by simp [standing])) stands frame
  | completeSession =>
      obtain ⟨called, follows, stands, frame⟩ := stands.complete restarts standing same
      obtain ⟨registry, session, again, rfl⟩ := returned_of_called found (called temp) stepped
      cases (follows now).symm.trans again
      have transition := ReceiveSession.step_transition again
      obtain ⟨evolves, anchored, origin⟩ := transition.anchored attended.keyed anchors
      have idle := calm (by simp [standing])
      have moved := @Attended.advance host platform offers expected state finals goods index stored
        { stored with session := stored.session.moveTo (.ended (.ok ())) } _ _ undertaken attended
        known found live same evolves anchored origin (fun _ => idle) _ stands
        (frame.widen fun path within => .inl within)
      refine ⟨_, moved, ?_, frame.widen fun path within => not_receivedName (.inl within),
        newFiles_of_frame frame spared⟩
      rw [← transferId]
      exact .completed found standing
  | inside block call =>
      cases call with
      | openPartial =>
          obtain ⟨disk, inode, moved, called, follows, stands, frame⟩ :=
            stands.openPartial offerable.distinct same standing
          exact onward (by simp [standing]) (by simp [standing]) (called temp) (follows now)
            (calm (by simp [standing])) stands (frame.widen fun path same => same ▸ rfl)
      | write index raw =>
          obtain ⟨disk, handle, called, follows, stands, _, frame⟩ :=
            stands.write offerable.distinct standing
          exact onward (by simp [standing]) (by simp [standing]) (called temp) (follows now)
            (calm (by simp [standing])) stands (frame.widen fun path same => same ▸ rfl)
      | hash =>
          have idle := calm (by simp [standing])
          obtain ⟨called, moved, follows, stands, _⟩ := stands.hash same idle standing
          exact onward (by simp [standing]) (by simp [standing]) (called temp) (follows now)
            idle stands .refl
      | commit =>
          have accepted : sanitizeFilename platform block.offered.name = .ok block.offered.name := by
            have listed := anchors.offered block (by rw [ReceiveSession.fileBlock?, standing])
            rw [same] at listed
            exact offerable.named _ (List.mem_of_getElem? listed)
          cases stands.commit restarts offerable.distinct same places accepted standing temp with
          | inl waiting =>
              obtain ⟨disk, call, called, stands, frame, newFiles⟩ := waiting
              simp only [storedStep, found, called, Option.bind_eq_bind, Option.bind_some,
                Option.pure_def, Option.some.injEq] at stepped
              subst stepped
              exact attended.advances undertaken known found live same .refl anchors rfl
                (fun elsewhere => absurd standing (elsewhere block)) stands
                (frame.widen fun path => touchedBy_commit)
                (fun path place => (newFiles path place).imp_right fun new =>
                  ⟨⟨stored, found, new.1⟩, new.2⟩)
                (silent_of_phase found (by simp [standing]) (by simp [standing]))
          | inr returns =>
              obtain ⟨name, called, follows, stands⟩ := returns
              exact onward (by simp [standing]) (by simp [standing]) called (follows now) rfl stands
                .refl
      | markCompleted finalPath =>
          obtain ⟨disk, path, called, unfinished, shown, follows, frame⟩ :=
            stands.mark lawful offerable same attended.keyed anchors standing
          obtain ⟨registry, session, again, rfl⟩ := returned_of_called found (called temp) stepped
          have transition := ReceiveSession.step_transition again
          obtain ⟨evolves, anchored, origin⟩ := transition.anchored attended.keyed anchors
          have idle := calm (by simp [standing])
          have moved := @Attended.advance host platform offers expected state finals goods index stored
            { stored with session } _ _ undertaken attended known found live same evolves anchored
            origin (fun _ => idle) _ (follows now registry session again)
            (frame.widen fun path => touchedBy_metadata)
          refine ⟨_, moved, ?_,
            frame.widen fun path touched => not_receivedName (touchedBy_metadata touched),
            newFiles_of_frame frame fun path touched => spared path (within_metadata touched)⟩
          rw [← transferId] at unfinished ⊢
          exact .marked found standing unfinished shown
      | _ => simp [standing, ReceivePhase.stores] at stores
  | _ => simp [standing, ReceivePhase.stores] at stores

/-- A session that is stopped anywhere but between the two names of its file. -/
theorem Stands.stopped (holds : Stands host registry disk goods (finals goods.offer.transferId) stored)
    (unlinked : ∀ call name, stored.commit = some call → call.phase ≠ .unlinkLinked name) :
    host.Rests disk goods (finals goods.offer.transferId) := by
  by_cases committing : ∃ block, stored.session.phase = .inside block .commit
  · obtain ⟨block, standing⟩ := committing
    simp only [Stands, standing] at holds
    generalize began : stored.commit = commit at holds
    cases holds with
    | unbegun filled verified => exact .left filled.resting
    | unlinked filled verified early => exact .left filled.resting
    | linked unrecorded => exact absurd rfl (unlinked _ _ began)
    | ended unrecorded => exact .left unrecorded.resting
  · exact holds.rests fun block standing => committing ⟨block, standing⟩

/-- A new process finds every transfer as the next session needs it. -/
theorem Attended.restart (attended : Attended host expected state finals)
    (attends : Attends platform offers state .restart) :
    Moved host expected state .restart ⟨.empty, state.disk, []⟩ finals finals where
  attended := {
    keyed := SoundReceiving.start.keyed
    anchored := fun stored member => absurd member List.not_mem_nil
    idle := fun stored member => absurd member List.not_mem_nil
    known := fun stored member => absurd member List.not_mem_nil
    single := fun first second one other here => by cases here
    tended := fun goods known => by
      obtain ⟨stands, rests⟩ := attended.tended goods known
      refine ⟨fun stored member => absurd member List.not_mem_nil, fun _ => ?_⟩
      by_cases someone : ∃ stored ∈ state.sessions, stored.Live ∧
          stored.transferId = goods.offer.transferId
      · obtain ⟨stored, member, live, same⟩ := someone
        exact (stands stored member live same).stopped (attends stored member)
      · exact rests fun stored member live same => someone ⟨stored, member, live, same⟩ }
  records := .silent fun index now temp stored same => by cases same
  frame := .refl
  newFiles := newFiles_refl

/-- A further session of a transfer that has none. -/
theorem Attended.accept {peerIp peerDeviceId : PyStr} {payload : Json}
    (undertaken : Undertaken host platform offers expected)
    (attended : Attended host expected state finals)
    (attends : Attends platform offers state (.accept peerIp peerDeviceId payload))
    (stepped : storedStep host platform state (.accept peerIp peerDeviceId payload) = some next) :
    Moved host expected state (.accept peerIp peerDeviceId payload) next finals finals := by
  simp only [storedStep] at stepped
  split at stepped
  · cases stepped
  · next offer valid =>
      cases stepped
      obtain ⟨offered, absent⟩ := attends offer valid
      obtain ⟨goods, known, same⟩ := undertaken.covers offer offered
      refine ⟨⟨attended.keyed, ?_, ?_, ?_, ?_, ?_⟩,
        .silent fun index now temp stored same => (by cases same), .refl, newFiles_refl⟩
      · intro stored among
        cases List.mem_append.mp among with
        | inl old => exact attended.anchored stored old
        | inr new =>
            cases List.mem_singleton.mp new
            exact fresh_anchored _
      · intro stored among
        cases List.mem_append.mp among with
        | inl old => exact attended.idle stored old
        | inr new =>
            cases List.mem_singleton.mp new
            exact fun _ => rfl
      · intro stored among
        cases List.mem_append.mp among with
        | inl old => exact attended.known stored old
        | inr new =>
            cases List.mem_singleton.mp new
            exact ⟨goods, known, same.symm⟩
      · intro first second one other here there lives lives' equal
        rw [List.getElem?_append] at here there
        split at here
        · split at there
          · exact attended.single first second one other here there lives lives' equal
          · cases List.mem_singleton.mp (List.mem_of_getElem? there)
            exact absurd equal (absent one (List.mem_of_getElem? here) lives)
        · split at there
          · cases List.mem_singleton.mp (List.mem_of_getElem? here)
            exact absurd equal.symm (absent other (List.mem_of_getElem? there) lives')
          · have first' := (List.getElem?_eq_some_iff.mp here).1
            have second' := (List.getElem?_eq_some_iff.mp there).1
            simp only [List.length_singleton] at first' second'
            omega
      · intro others expects
        obtain ⟨stands, rests⟩ := attended.tended others expects
        constructor
        · intro stored among live equal
          cases List.mem_append.mp among with
          | inl old => exact stands stored old live equal
          | inr new =>
              cases List.mem_singleton.mp new
              refine rests fun other old lives busy => ?_
              exact absent other old lives (busy.trans equal.symm)
        · intro nobody
          exact rests fun stored old => nobody stored (List.mem_append_left _ old)

/-- Whatever a receiver does, every transfer is as its session or the next one needs it. -/
theorem Attended.step {label : StoredLabel} (lawful : host.Lawful) (places : host.Places platform)
    (undertaken : Undertaken host platform offers expected)
    (attended : Attended host expected state finals)
    (attends : Attends platform offers state label) (brings : Brings expected state label)
    (stepped : storedStep host platform state label = some next) :
    ∃ changed, Moved host expected state label next finals changed := by
  cases label with
  | accept peerIp peerDeviceId payload => exact ⟨finals, attended.accept undertaken attends stepped⟩
  | network index event => exact attended.network undertaken brings stepped
  | storage index now temp failure =>
      cases failure with
      | none => exact attended.storage lawful places undertaken stepped
      | some error => exact attended.failure undertaken attends stepped
  | restart =>
      cases stepped
      exact ⟨finals, attended.restart attends⟩

theorem Attended.run {start finish : StoredReceiver} {labels : List StoredLabel}
    (lawful : host.Lawful) (places : host.Places platform)
    (undertaken : Undertaken host platform offers expected)
    (attended : Attended host expected start finals)
    (run : Run (storedStep host platform)
      (fun state label => Attends platform offers state label ∧ Brings expected state label) start
      labels finish) :
    ∃ changed, Attended host expected finish changed := by
  induction run with
  | refl => exact ⟨finals, attended⟩
  | snoc _ admitted stepped ih =>
      obtain ⟨before, still⟩ := ih
      obtain ⟨changed, moved⟩ :=
        still.step lawful places undertaken admitted.1 admitted.2 stepped
      exact ⟨changed, moved.attended⟩

/-- A new process on a disk that earlier ones have left. -/
theorem Attended.begin (registry : state.registry = .empty) (none_yet : state.sessions = [])
    (rests : ∀ goods, expected goods → host.Rests state.disk goods (finals goods.offer.transferId)) :
    Attended host expected state finals where
  keyed := by
    rw [registry]
    exact SoundReceiving.start.keyed
  anchored stored member := by
    rw [none_yet] at member
    cases member
  idle stored member := by
    rw [none_yet] at member
    cases member
  known stored member := by
    rw [none_yet] at member
    cases member
  single first second one other here := by
    rw [none_yet] at here
    cases here
  tended goods known := by
    refine ⟨fun stored member => ?_, fun _ => rests goods known⟩
    rw [none_yet] at member
    cases member

end

/-! ## New processes -/

/-- An offer of which nothing is expected but what the receiver checks itself. -/
def TransferOffer.plain (offer : TransferOffer) : Consignment := ⟨offer, fun _ _ => True⟩

/-- The offers with what is expected of the files of each. -/
def expecting (offers : TransferOffer → Prop) (genuine : TransferOffer → IncomingFile → Bytes → Prop) :
    Consignment → Prop :=
  fun goods => offers goods.offer ∧ goods.genuine = genuine goods.offer

/-- A new process over a disk that earlier ones have left to the sessions to come. -/
structure Begins (host : StoreHost) (offers : TransferOffer → Prop) (start : StoredReceiver) :
    Prop where
  registry : start.registry = .empty
  sessions : start.sessions = []
  rests : ∀ offer, offers offer → ∃ finals, host.Rests start.disk offer.plain finals

section

variable {host : StoreHost} {platform : Platform} {offers : TransferOffer → Prop}
  {genuine : TransferOffer → IncomingFile → Bytes → Prop} {expected : Consignment → Prop}
  {start finish : StoredReceiver} {labels : List StoredLabel}

theorem OfferedOnce.undertaken (once : OfferedOnce platform offers)
    (restarts : ∀ offer, offers offer → (Consignment.mk offer (genuine offer)).Restarts host) :
    Undertaken host platform offers (expecting offers genuine) where
  covers offer offered := ⟨⟨offer, genuine offer⟩, ⟨offered, rfl⟩, rfl⟩
  offerable goods known := by
    obtain ⟨payload, valid⟩ := once.valid goods.offer known.1
    exact (validateOffer_offerable valid).1
  identified goods known := by
    obtain ⟨payload, valid⟩ := once.valid goods.offer known.1
    exact (validateOffer_offerable valid).2
  restarts goods known := by
    obtain ⟨offer, _⟩ := goods
    obtain ⟨offered, same⟩ := known
    dsimp only at offered same
    rw [same]
    exact restarts offer offered
  apart one other expects expects' same := by
    obtain ⟨offer, _⟩ := one
    obtain ⟨offer', _⟩ := other
    obtain ⟨offered, equal⟩ := expects
    obtain ⟨offered', equal'⟩ := expects'
    dsimp only at offered offered' equal equal' same
    cases once.apart offer offer' offered offered' same
    rw [equal, equal']

/-- Nothing need be expected. -/
theorem OfferedOnce.plain (once : OfferedOnce platform offers) :
    Undertaken host platform offers (expecting offers fun _ _ _ => True) :=
  once.undertaken fun _ _ _ _ _ _ _ _ => trivial

theorem brings_plain {state : StoredReceiver} {label : StoredLabel} :
    Brings (expecting offers fun _ _ _ => True) state label := by
  cases label with
  | network index event =>
      intro stored found goods known same block chunk raw standing answer before
      rw [known.2]
      trivial
  | _ => trivial

theorem attended_of_rests (undertaken : Undertaken host platform offers expected)
    (registry : start.registry = .empty) (sessions : start.sessions = [])
    (rests : ∀ goods, expected goods → ∃ finals, host.Rests start.disk goods finals) :
    ∃ finals, Attended host expected start finals := by
  have chosen (transferId : PyStr) : ∃ finals : IncomingFile → Option FilePath,
      ∀ goods, expected goods → goods.offer.transferId = transferId →
        host.Rests start.disk goods finals := by
    by_cases someone : ∃ goods, expected goods ∧ goods.offer.transferId = transferId
    · obtain ⟨goods, known, same⟩ := someone
      obtain ⟨finals, rests⟩ := rests goods known
      refine ⟨finals, fun other expects equal => ?_⟩
      cases undertaken.apart goods other known expects (same.trans equal.symm)
      exact rests
    · exact ⟨fun _ => none, fun goods known same => absurd ⟨goods, known, same⟩ someone⟩
  obtain ⟨finals, rests⟩ := Classical.axiomOfChoice chosen
  exact ⟨finals, Attended.begin registry sessions fun goods known =>
    rests goods.offer.transferId goods known rfl⟩

/-- A run of a receiver of which nothing is expected. -/
theorem Begins.run (lawful : host.Lawful) (places : host.Places platform)
    (once : OfferedOnce platform offers) (begins : Begins host offers start)
    (run : Run (storedStep host platform) (Attends platform offers) start labels finish) :
    ∃ finals, Attended host (expecting offers fun _ _ _ => True) finish finals := by
  obtain ⟨finals, attended⟩ := attended_of_rests once.plain begins.registry begins.sessions
    fun goods known => by
      obtain ⟨finals, rests⟩ := begins.rests goods.offer known.1
      refine ⟨finals, ?_⟩
      obtain ⟨offer, _⟩ := goods
      cases known.2
      exact rests
  exact attended.run lawful places once.plain
    (run.weaken fun state label admitted => ⟨admitted, brings_plain⟩)

end

end DirectTransfer
