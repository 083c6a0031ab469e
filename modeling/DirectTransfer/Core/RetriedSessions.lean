import DirectTransfer.Core.HonestSessions
import DirectTransfer.Core.ReceiveGains
import DirectTransfer.Core.StoredOnce

/-! Sessions of one offer against one receiver process, one after another: each goes on with
its sender or loses its connection. -/

set_option autoImplicit false

namespace DirectTransfer

open Library

/-- A connection that is lost. -/
def Lost (answer : ReceiveAnswer) : Prop :=
  ∃ error : Raised, answer = .raised error ∧ (error.kind = .osError ∨ error.kind = .timeoutError)

/-- The steps of sessions of one offer, each begun once those before it have ended. -/
def Retried (platform : Platform) (offer : TransferOffer) (source : IncomingFile → Bytes)
    (state : StoredReceiver) : StoredLabel → Prop
  | .accept _ _ payload => validateOffer platform payload = .ok offer ∧
      ∀ stored ∈ state.sessions, ¬ stored.Live
  | .network index event => ∀ stored, state.sessions[index]? = some stored →
      Answers offer source state.registry stored.session.phase event.answer ∨ Lost event.answer
  | .storage _ _ _ failure => failure = none
  | .restart => False

/-- The steps of a session that is not cut. -/
def Uncut (offer : TransferOffer) (source : IncomingFile → Bytes) (state : StoredReceiver) :
    StoredLabel → Prop
  | .network index event => ∀ stored, state.sessions[index]? = some stored →
      Answers offer source state.registry stored.session.phase event.answer
  | .storage _ _ _ failure => failure = none
  | .accept _ _ _ | .restart => False

/-! ## Records -/

/-- A file whose record in this process is complete. -/
def Recorded.Complete (registry : Registry) (offer : TransferOffer) (file : IncomingFile) : Prop :=
  ∃ record info, registry.index.get (offer.transferId, file.fileId) = some record ∧
    registry.transfers[record]? = some info ∧ info.status = .complete

section

variable {registry next : Registry} {session after : ReceiveSession} {event : ReceiveEvent}
  {offer : TransferOffer} {origin : Origin} {file : IncomingFile}

theorem onlyLost_of_lost (lost : Lost event.answer) : OnlyLost registry session event := by
  obtain ⟨raised, told, kind⟩ := lost
  intro middle error raises
  have same : middle = registry ∧ error = raised := by
    unfold ReceiveSession.advance ReceiveSession.advanceInside at raises
    rw [told] at raises
    cases standing : session.phase with
    | inside block call =>
        rw [standing] at raises
        cases call <;> dsimp only at raises <;> first
          | cases raises
          | (split at raises
             · cases raises
               exact ⟨rfl, rfl⟩
             · cases raises)
    | _ =>
        rw [standing] at raises
        dsimp only at raises
        first
          | cases raises
          | (split at raises
             · cases raises
               exact ⟨rfl, rfl⟩
             · cases raises)
  rw [same.2]
  exact ⟨same.1, kind⟩

/-- How many of the files of its offer a session has received. -/
def ReceivePhase.passed (offer : TransferOffer) : ReceivePhase → Nat
  | .fileStart _ index => index
  | .created block => block.file
  | .inside block call => match call with
    | .sendResult _ | .completed => block.file + 1
    | _ => block.file
  | .fin | .sessionComplete | .completeSession => offer.files.length
  | _ => 0

/-- The files before one are recorded as complete in this process. -/
def CompleteTo (registry : Registry) (offer : TransferOffer) (first : Nat) : Prop :=
  ∀ index file, index < first → offer.files[index]? = some file →
    Recorded.Complete registry offer file

theorem Recorded.Complete.evolves (complete : Recorded.Complete registry offer file)
    (keyed : registry.Keyed) (evolves : registry.Evolves origin next) :
    Recorded.Complete next offer file := by
  obtain ⟨record, info, listed, found, status⟩ := complete
  obtain ⟨old, before, transfer, named⟩ := keyed.indexed _ _ _ listed
  cases found.symm.trans before
  obtain ⟨new, again, same, reaches, _⟩ := evolves.kept record info found
  obtain ⟨fileId, shown, indexed⟩ := (evolves.keyed keyed).keyed record new again
  rw [same.fileId, named] at shown
  cases shown
  rw [same.transferId, transfer] at indexed
  refine ⟨record, new, indexed, again, ?_⟩
  rw [status] at reaches
  rcases reaches with kept | allowed
  · exact kept.symm
  · cases allowed

theorem CompleteTo.evolves {first : Nat} (complete : CompleteTo registry offer first)
    (keyed : registry.Keyed) (evolves : registry.Evolves origin next) :
    CompleteTo next offer first :=
  fun index file before listed => (complete index file before listed).evolves keyed evolves

theorem completeTo_nextFile {states : Dict PyStr ResumeFileState} {index : Nat}
    (complete : CompleteTo registry offer index) (same : session.origin.offer = offer) :
    CompleteTo registry offer ((session.nextFile states index).phase.passed offer) := by
  unfold ReceiveSession.nextFile ReceiveSession.moveTo
  split
  · exact complete
  · next past =>
      rw [same] at past
      exact fun place file before listed => complete place file
        (before.trans_le (Nat.le_of_not_lt past)) listed

open ReceiveSession in
/-- What a session has received is recorded as complete. -/
theorem CompleteTo.transition (complete : CompleteTo registry offer (session.phase.passed offer))
    (keyed : registry.Keyed) (anchored : session.Anchored registry)
    (same : session.origin.offer = offer)
    (transition : Transition registry session event next after) :
    CompleteTo next offer (after.phase.passed offer) := by
  obtain ⟨evolves, _, _⟩ := transition.anchored keyed anchored
  have later := complete.evolves keyed evolves
  have nothing : CompleteTo next offer 0 :=
    fun index file before => absurd before (Nat.not_lt_zero index)
  have received {block : FileBlock} {call : BlockCall} (standing : session.phase = .inside block call)
      (before : (ReceivePhase.inside block call).passed offer = block.file)
      (status : ∀ info, next.transfers[block.record]? = some info → info.status = .complete) :
      CompleteTo next offer (block.file + 1) := by
    have here : session.fileBlock? = some block := by rw [ReceiveSession.fileBlock?, standing]
    intro index file within listed
    cases Nat.lt_succ_iff_lt_or_eq.mp within with
    | inl earlier =>
        refine later index file ?_ listed
        rw [standing, before]
        exact earlier
    | inr equal =>
        obtain ⟨info, found, transfer, named⟩ := anchored.anchored block here
        have offered := anchored.offered block here
        rw [same, ← equal, listed] at offered
        cases offered
        obtain ⟨new, again, kept, _⟩ := evolves.kept _ info found
        obtain ⟨fileId, shown, indexed⟩ := (evolves.keyed keyed).keyed _ new again
        rw [kept.fileId, named] at shown
        cases shown
        rw [kept.transferId, transfer] at indexed
        refine ⟨_, new, ?_, again, status new again⟩
        rw [← same]
        exact indexed
  cases transition with
  | queried | prepared | settled | escaped | handled | refused | closed => exact nothing
  | stateSent => exact completeTo_nextFile nothing same
  | began standing | known standing | entered standing | header standing | data standing
  | written standing | finished standing | committed standing | resultSent standing | fin standing
  | confirmed standing =>
      rw [standing] at later
      exact later
  | absent => exact complete
  | opened standing | progressed standing =>
      rw [standing] at later
      unfold ReceiveSession.chunkLoop ReceiveSession.moveTo
      split
      · split <;> exact later
      · exact later
  | hashed standing =>
      rw [standing] at later
      dsimp only [ReceiveSession.moveTo]
      split <;> exact later
  | marked standing answer moved => exact received standing rfl (status_of_setStatus moved)
  | recognised standing answer expected moved =>
      exact received standing rfl (status_of_setStatus moved)
  | notified standing =>
      rw [standing] at later
      exact completeTo_nextFile later same

end

/-! ## Between two steps -/

/-- What a session that has not ended keeps to. -/
structure Running (registry : Registry) (offer : TransferOffer)
    (finals : IncomingFile → Option FilePath) (session : ReceiveSession) : Prop where
  recorded : Recorded registry offer finals session
  alike : CountsAlike registry session
  orderly : InOrder session
  complete : CompleteTo registry offer (session.phase.passed offer)
  failing : ∀ block, session.phase ≠ .settling block (.ok ())

/-- The name in the receive directory that is given and not recorded yet, if there is one. -/
def StoredReceiver.Placing (state : StoredReceiver) (placing : Option FilePath) : Prop :=
  (∀ stored ∈ state.sessions, stored.Live → stored.placing = placing) ∧
    ((∀ stored ∈ state.sessions, ¬ stored.Live) → placing = none)

/-- A receiver none of whose sessions has come to its end. -/
structure Retrying (host : StoreHost) (offer : TransferOffer) (source : IncomingFile → Bytes)
    (start : Disk FilePath) (state : StoredReceiver) (finals : Finals) : Prop where
  attended : Attended host (expecting (· = offer) (fromSource offer source)) state finals
  direct : Direct state.disk
  resumable : AllResumable state.registry offer (finals offer.transferId)
  running : ∀ stored ∈ state.sessions, stored.Live →
    Running state.registry offer (finals offer.transferId) stored.session
  unended : ∀ stored ∈ state.sessions, stored.session.phase ≠ .ended (.ok ())
  gained : ∃ placing, state.Placing placing ∧
    Gained start offer state.disk (finals offer.transferId) placing

section

variable {host : StoreHost} {platform : Platform} {offer : TransferOffer}
  {source : IncomingFile → Bytes} {start : Disk FilePath} {state next : StoredReceiver}
  {finals changed : Finals} {stored after : StoredSession} {index : Nat} {registry : Registry}
  {session moved : ReceiveSession} {event : ReceiveEvent} {disk : Disk FilePath}

theorem expecting_sourced : expecting (· = offer) (fromSource offer source) (sourced offer source) :=
  ⟨rfl, congrArg Consignment.genuine sourced_eq.symm⟩

/-- All sessions are of the one offer. -/
theorem Attended.ours (attended : Attended host (expecting (· = offer) (fromSource offer source)) state
    finals) (member : stored ∈ state.sessions) : stored.session.origin.offer = offer := by
  obtain ⟨goods, known, same⟩ := attended.known stored member
  exact same.trans known.1

/-- Where one session goes on, the others have ended. -/
theorem Attended.alone (attended : Attended host (expecting (· = offer) (fromSource offer source)) state
    finals) (found : state.sessions[index]? = some stored) (live : stored.Live) {other : StoredSession}
    {place : Nat} (there : state.sessions[place]? = some other) (apart : place ≠ index) :
    ¬ other.Live := by
  intro lives
  refine apart (attended.single place index other stored there found lives live ?_)
  rw [StoredSession.transferId, StoredSession.transferId, ReceiveSession.transferId,
    ReceiveSession.transferId, attended.ours (List.mem_of_getElem? there),
    attended.ours (List.mem_of_getElem? found)]

theorem Retrying.steady (retrying : Retrying host offer source start state finals)
    (member : stored ∈ state.sessions) (live : stored.Live) :
    Steady host (sourced offer source) state.registry state.disk (finals offer.transferId) stored := by
  have same := retrying.attended.ours member
  have running := retrying.running stored member live
  refine ⟨(retrying.attended.tended _ expecting_sourced).stands stored member live ?_,
    retrying.attended.keyed, retrying.attended.anchored stored member, running.recorded,
    running.alike, retrying.attended.idle stored member, same, retrying.direct⟩
  exact congrArg TransferOffer.transferId same

theorem not_live_of_ended {outcome : Except Raised Unit}
    (closed : stored.session.phase = .ended outcome) : ¬ stored.Live :=
  fun live => live outcome closed

/-- A session whose sender keeps to its program is sent the file's own octets. -/
theorem Retrying.sends (retrying : Retrying host offer source start state finals)
    (answers : ∀ stored, state.sessions[index]? = some stored →
      Answers offer source state.registry stored.session.phase event.answer ∨ Lost event.answer) :
    FromSource offer source state (.network index event) := by
  intro stored found _ block chunk raw standing sent
  have member := List.mem_of_getElem? found
  have live : stored.Live := by
    intro outcome closed
    cases standing.symm.trans closed
  have steady := retrying.steady member live
  cases answers stored found with
  | inl answers => exact answers.sends steady.stands steady.alike standing sent
  | inr lost =>
      obtain ⟨error, raised, _⟩ := lost
      cases raised.symm.trans sent

/-- Only the loss of its connection brings such a session to its handlers. -/
theorem Running.transition (running : Running registry offer (finals offer.transferId) session)
    {next : Registry} {changed : IncomingFile → Option FilePath} (keyed : registry.Keyed)
    (anchored : session.Anchored registry) (same : session.origin.offer = offer)
    (distinct : (offer.files.map IncomingFile.fileId).Nodup) (lost : OnlyLost registry session event)
    (verified : ∀ block text, session.phase = .inside block .hash → event.answer = .digest text →
      text = block.offered.sha256)
    (transition : ReceiveSession.Transition registry session event next moved)
    (grown : ∀ file, finals offer.transferId file ≠ none → changed file ≠ none)
    (finished : ∀ block finalPath, moved.phase = .inside block (.sendResult finalPath) →
      changed block.offered ≠ none) :
    Running next offer changed moved where
  recorded := running.recorded.transition keyed anchored same distinct lost transition grown finished
  alike := running.alike.transition transition
  orderly := running.orderly.transition verified transition
  complete := running.complete.transition keyed anchored same transition
  failing block standing := by
    cases transition with
    | handled inside raises _ handler _ =>
        obtain ⟨_, kind⟩ := lost _ _ raises
        have outcome := (ReceivePhase.settling.inj standing).2
        unfold ReceiveSession.settledOutcome at outcome
        rcases kind with late | late <;> simp [late] at outcome
    | absent => exact running.failing block standing
    | stateSent | notified =>
        unfold ReceiveSession.nextFile ReceiveSession.moveTo at standing
        split at standing <;> cases standing
    | opened | progressed =>
        unfold ReceiveSession.chunkLoop ReceiveSession.moveTo at standing
        split at standing <;> cases standing
    | _ => cases standing

/-- Only its last call brings such a session to its end. -/
theorem ended_of_transition (running : Running registry offer (finals offer.transferId) session)
    {next : Registry} (transition : ReceiveSession.Transition registry session event next moved)
    (closed : moved.phase = .ended (.ok ())) : session.phase = .completeSession := by
  cases transition with
  | closed standing => exact standing
  | @settled block outcome standing answer =>
      cases closed
      exact absurd standing (running.failing block)
  | absent standing =>
      cases standing.symm.trans closed
  | stateSent | notified =>
      unfold ReceiveSession.nextFile ReceiveSession.moveTo at closed
      split at closed <;> cases closed
  | opened | progressed =>
      unfold ReceiveSession.chunkLoop ReceiveSession.moveTo at closed
      split at closed <;> cases closed
  | _ => cases closed

theorem placing_of_ended (past : ¬ stored.Live) : stored.placing = none := by
  cases standing : stored.session.phase with
  | ended outcome => simp only [StoredSession.placing, standing]
  | _ => exact absurd (fun outcome closed => by cases standing.symm.trans closed) past

theorem placing_idle {handle : Option OpenPartial}
    (unmarked : ∀ block finalPath, session.phase ≠ .inside block (.markCompleted finalPath)) :
    StoredSession.placing ⟨session, handle, none⟩ = none := by
  cases standing : session.phase with
  | inside block call =>
      cases call with
      | markCompleted finalPath => exact absurd standing (unmarked block finalPath)
      | _ => simp only [StoredSession.placing, standing]
  | _ => simp only [StoredSession.placing, standing]

theorem Retrying.placing (retrying : Retrying host offer source start state finals)
    (member : stored ∈ state.sessions) (live : stored.Live) :
    Gained start offer state.disk (finals offer.transferId) stored.placing := by
  obtain ⟨placing, ⟨given, _⟩, gained⟩ := retrying.gained
  rw [given stored member live]
  exact gained

theorem Attended.others (attended : Attended host (expecting (· = offer) (fromSource offer source)) state
    finals) (found : state.sessions[index]? = some stored) (live : stored.Live) {other : StoredSession}
    (among : other ∈ state.sessions.set index after) :
    other = after ∨ (other ∈ state.sessions ∧ ¬ other.Live) := by
  obtain ⟨place, there⟩ := List.mem_iff_getElem?.mp among
  by_cases here : place = index
  · rw [here, List.getElem?_set_self (List.getElem?_eq_some_iff.mp found).1] at there
    cases there
    exact .inl rfl
  · rw [List.getElem?_set_ne (Ne.symm here)] at there
    exact .inr ⟨List.mem_of_getElem? there, attended.alone found live there here⟩

/-- Outside a commit the disk is left for the next session. -/
theorem Retrying.rests {label : StoredLabel} (retrying : Retrying host offer source start state finals)
    (found : state.sessions[index]? = some stored) (live : stored.Live)
    (left : Moved host (expecting (· = offer) (fromSource offer source)) state label
      ⟨registry, disk, state.sessions.set index after⟩ finals changed)
    (origin : after.session.origin = stored.session.origin)
    (uncommitted : ∀ block, after.session.phase ≠ .inside block .commit) :
    host.Rests disk (sourced offer source) (changed offer.transferId) := by
  have tended := left.attended.tended _ expecting_sourced
  have member := List.mem_of_getElem? found
  by_cases lives : after.Live
  · have placed : (state.sessions.set index after)[index]? = some after :=
      List.getElem?_set_self (List.getElem?_eq_some_iff.mp found).1
    refine (tended.stands after (List.mem_of_getElem? placed) lives ?_).rests uncommitted
    have ours : after.session.origin.offer = offer :=
      (congrArg Origin.offer origin).trans (retrying.attended.ours member)
    exact congrArg TransferOffer.transferId ours
  · refine tended.rests fun other among living => ?_
    rcases retrying.attended.others found live among with rfl | ⟨_, past⟩
    · exact absurd living lives
    · exact absurd living past

/-- One session goes on. -/
theorem Retrying.goes {label : StoredLabel} (retrying : Retrying host offer source start state finals)
    (found : state.sessions[index]? = some stored) (live : stored.Live)
    (left : Moved host (expecting (· = offer) (fromSource offer source)) state label
      ⟨registry, disk, state.sessions.set index after⟩ finals changed)
    (running : Running registry offer (changed offer.transferId) after.session)
    (unended : after.session.phase ≠ .ended (.ok ()))
    (gained : Gained start offer disk (changed offer.transferId) after.placing) :
    Retrying host offer source start ⟨registry, disk, state.sessions.set index after⟩ changed := by
  have bound := (List.getElem?_eq_some_iff.mp found).1
  have past {other : StoredSession} (among : other ∈ state.sessions.set index after) :=
    retrying.attended.others found live among
  refine ⟨left.attended, retrying.direct.newFiles left.newFiles, running.recorded.resumable,
    fun other among lives => ?_, fun other among => ?_, after.placing, ⟨fun other among lives => ?_,
    fun nobody => ?_⟩, gained⟩
  · rcases past among with rfl | ⟨_, finished⟩
    · exact running
    · exact absurd lives finished
  · rcases past among with rfl | ⟨old, _⟩
    · exact unended
    · exact retrying.unended other old
  · rcases past among with rfl | ⟨_, finished⟩
    · rfl
    · exact absurd lives finished
  · exact placing_of_ended (nobody after (List.mem_of_getElem? (List.getElem?_set_self bound)))

/-- A call that has returned, or a frame, with what it leaves of the session. -/
theorem Retrying.advances {label : StoredLabel} {handle : Option OpenPartial}
    (retrying : Retrying host offer source start state finals)
    (once : OfferedOnce platform (· = offer))
    (found : state.sessions[index]? = some stored) (live : stored.Live)
    (left : Moved host (expecting (· = offer) (fromSource offer source)) state label
      ⟨registry, disk, state.sessions.set index ⟨moved, handle, none⟩⟩ finals changed)
    (lost : OnlyLost state.registry stored.session event)
    (stepped : stored.session.step state.registry event = some (registry, moved))
    (verified : ∀ block text, stored.session.phase = .inside block .hash →
      event.answer = .digest text → text = block.offered.sha256)
    (grown : ∀ file, finals offer.transferId file ≠ none → changed offer.transferId file ≠ none)
    (ongoing : stored.session.phase ≠ .completeSession)
    (gained : Gained start offer disk (changed offer.transferId)
      (StoredSession.placing ⟨moved, handle, none⟩)) :
    Retrying host offer source start
      ⟨registry, disk, state.sessions.set index ⟨moved, handle, none⟩⟩ changed := by
  have member := List.mem_of_getElem? found
  have same := retrying.attended.ours member
  have running := retrying.running stored member live
  have transition := ReceiveSession.step_transition stepped
  obtain ⟨payload, valid⟩ := once.valid offer rfl
  have distinct := (validateOffer_offerable valid).1.distinct
  have placed : (state.sessions.set index ⟨moved, handle, none⟩)[index]? =
      some ⟨moved, handle, none⟩ := List.getElem?_set_self (List.getElem?_eq_some_iff.mp found).1
  obtain ⟨_, _, origin⟩ :=
    transition.anchored retrying.attended.keyed (retrying.attended.anchored stored member)
  refine retrying.goes found live left ?_ ?_ gained
  · refine running.transition retrying.attended.keyed (retrying.attended.anchored stored member) same
      distinct lost verified transition grown fun block finalPath standing => ?_
    have among := List.mem_of_getElem? placed
    have ours : moved.origin.offer = offer := (congrArg Origin.offer origin).trans same
    have stands := (left.attended.tended _ expecting_sourced).stands _ among
      (fun outcome closed => by cases standing.symm.trans closed)
      (congrArg TransferOffer.transferId ours)
    exact stands.told standing
  · intro closed
    exact ongoing (ended_of_transition running transition closed)

/-! ## Steps -/

theorem undertaken_fromSource (once : OfferedOnce platform (· = offer)) :
    Undertaken host platform (· = offer) (expecting (· = offer) (fromSource offer source)) :=
  once.undertaken fun _ _ _ _ _ _ _ _ _ => List.nil_prefix

/-- A further session begins. -/
theorem Retrying.accept {peerIp peerDeviceId : PyStr} {payload : Json}
    (retrying : Retrying host offer source start state finals)
    (once : OfferedOnce platform (· = offer))
    (retried : Retried platform offer source state (.accept peerIp peerDeviceId payload))
    (stepped : storedStep host platform state (.accept peerIp peerDeviceId payload) = some next) :
    Retrying host offer source start next finals := by
  obtain ⟨valid, past⟩ := retried
  have left := retrying.attended.accept (undertaken_fromSource once) (attends_accept valid rfl past)
    stepped
  obtain ⟨registry, disk, sessions⟩ := state
  rw [step_accepts valid] at stepped
  cases stepped
  have among {other : StoredSession}
      (member : other ∈ sessions ++ [⟨accepted peerIp peerDeviceId offer, none, none⟩]) :
      (other ∈ sessions ∧ ¬ other.Live) ∨
        other = ⟨accepted peerIp peerDeviceId offer, none, none⟩ := by
    cases List.mem_append.mp member with
    | inl old => exact .inl ⟨old, past other old⟩
    | inr new => exact .inr (List.mem_singleton.mp new)
  obtain ⟨placing, ⟨_, none_yet⟩, gained⟩ := retrying.gained
  refine ⟨left.attended, retrying.direct.newFiles left.newFiles, retrying.resumable,
    fun other member lives => ?_, fun other member => ?_, placing,
    ⟨fun other member lives => ?_, fun _ => none_yet past⟩, gained⟩
  · rcases among member with ⟨_, finished⟩ | rfl
    · exact absurd lives finished
    · exact ⟨⟨retrying.resumable, fun block inside => (by cases inside)⟩, countsAlike_of_none rfl,
        trivial, fun index file before => absurd before (Nat.not_lt_zero index),
        fun block standing => (by cases standing)⟩
  · rcases among member with ⟨old, _⟩ | rfl
    · exact retrying.unended other old
    · intro closed
      cases closed
  · rcases among member with ⟨_, finished⟩ | rfl
    · exact absurd lives finished
    · exact (none_yet past).symm

/-- A frame or a notification. -/
theorem Retrying.network (retrying : Retrying host offer source start state finals)
    (lawful : host.Lawful) (places : host.Places platform)
    (once : OfferedOnce platform (· = offer))
    (sized : ∀ file ∈ offer.files, (source file).length = file.size)
    (retried : Retried platform offer source state (.network index event))
    (stepped : storedStep host platform state (.network index event) = some next) :
    Retrying host offer source start next finals := by
  obtain ⟨changed, left⟩ := retrying.attended.network (undertaken_fromSource once)
    (brings_fromSource (retrying.sends retried)) stepped
  have same : changed = finals := by
    cases left.records
    rfl
  rw [same] at left
  cases storedStep_cases stepped with
  | @told _ _ stored registry session found quiet sessionStepped =>
      have member := List.mem_of_getElem? found
      have live := live_of_step sessionStepped
      have steady := retrying.steady member live
      have running := retrying.running stored member live
      obtain ⟨payload, valid⟩ := once.valid offer rfl
      have provides := provides_sourced lawful places valid sized
      have calls {block : FileBlock} {call : BlockCall}
          (standing : stored.session.phase = .inside block call)
          (stores : (ReceivePhase.inside block call).stores = true) : False := by
        rw [standing, stores] at quiet
        cases quiet
      have calm : stored.commit = none := steady.idle fun block standing => calls standing rfl
      have lost : OnlyLost state.registry stored.session event := by
        cases retried stored found with
        | inl answers =>
            rcases steady.takes provides running.orderly quiet answers with
              none | ⟨middle, moved, advanced⟩
            · simp [ReceiveSession.step, none] at sessionStepped
            · exact ReceiveSession.onlyLost_of_advance advanced
        | inr cut => exact onlyLost_of_lost cut
      have transition := ReceiveSession.step_transition sessionStepped
      have gained := retrying.placing member live
      have before : stored.placing = none := by
        obtain ⟨current, handle, commit⟩ := stored
        dsimp only at calm
        subst calm
        exact placing_idle fun block finalPath standing => calls standing rfl
      rw [before] at gained
      have moves : ({ stored with session } : StoredSession) = ⟨session, stored.handle, none⟩ := by
        rw [← calm]
      rw [moves] at left ⊢
      refine retrying.advances once found live left lost sessionStepped
        (fun block text standing _ => (calls standing rfl).elim) (fun _ finished => finished)
        (fun closing => by rw [closing] at quiet; cases quiet) ?_
      rw [placing_idle fun block finalPath standing =>
        calls ((Transition.follows transition standing).2 finalPath rfl) rfl]
      exact gained

theorem placing_returned {temp name : PyStr} {block : FileBlock} {answer : StoredSession}
    (standing : stored.session.phase = .inside block .commit)
    (accepted : sanitizeFilename platform block.offered.name = .ok block.offered.name)
    (called : stored.call host platform registry disk temp none =
      some (disk, answer, some (.committed (host.shown (received name))))) :
    stored.placing = some (received name) := by
  simp only [StoredSession.call, StoredSession.commitCall, standing] at called
  cases began : stored.commit with
  | none =>
      simp only [began, Option.getD_none, CommitCall.start, accepted] at called
      obtain ⟨_, _, impossible⟩ := Option.map_eq_some_iff.mp called
      cases impossible
  | some call =>
      rw [began, Option.getD_some] at called
      simp only [StoredSession.placing, standing, began]
      split at called
      · next other finished =>
          simp only [Option.some.injEq, Prod.mk.injEq, ReceiveAnswer.committed.injEq] at called
          have named : other = name := congrArg FinalPath.name called.2.2
          simp only [CommitCall.placing, finished, named]
      · cases called
      · obtain ⟨_, _, impossible⟩ := Option.map_eq_some_iff.mp called
        cases impossible

/-- The call of the commit behind one that has not returned. -/
theorem ahead_of_waiting {temp : PyStr} {block : FileBlock} {call : CommitCall} {later : Disk FilePath}
    (standing : stored.session.phase = .inside block .commit)
    (same : stored.session.origin.offer = offer)
    (called : stored.call host platform registry disk temp none =
      some (later, { stored with commit := some call }, none)) :
    (stored.commit.getD (.start platform (partialPath offer.transferId block.offered.fileId)
      block.offered.name temp)).step disk none = some (later, call) := by
  simp only [StoredSession.call, StoredSession.commitCall, standing,
    @partialOf_eq (sourced offer fun _ => []) stored block same] at called
  split at called
  · cases called
  · cases called
  · obtain ⟨⟨_, _⟩, ahead, equal⟩ := Option.map_eq_some_iff.mp called
    cases equal
    exact ahead

/-- A call of a commit. -/
theorem Retrying.commits {now : Time} {temp : PyStr} {block : FileBlock}
    (retrying : Retrying host offer source start state finals)
    (lawful : host.Lawful) (places : host.Places platform)
    (once : OfferedOnce platform (· = offer)) (found : state.sessions[index]? = some stored)
    (standing : stored.session.phase = .inside block .commit)
    (stepped : storedStep host platform state (.storage index now temp none) = some next) :
    Retrying host offer source start next finals := by
  have undertaken := @undertaken_fromSource host platform offer source once
  obtain ⟨changed, left⟩ := retrying.attended.storage lawful places undertaken stepped
  have unchanged : changed = finals := by
    cases left.records with
    | silent quiet => rfl
    | marked there marks =>
        cases found.symm.trans there
        cases standing.symm.trans marks
    | completed there completes =>
        cases found.symm.trans there
        cases standing.symm.trans completes
  rw [unchanged] at left
  have member := List.mem_of_getElem? found
  have live : stored.Live := by
    intro outcome closed
    cases standing.symm.trans closed
  have steady := retrying.steady member live
  have running := retrying.running stored member live
  have gained := retrying.placing member live
  have stands := steady.stands
  obtain ⟨payload, valid⟩ := once.valid offer rfl
  have offerable := (validateOffer_offerable valid).1
  have accepted : sanitizeFilename platform block.offered.name = .ok block.offered.name := by
    have listed := steady.anchored.offered block (by rw [ReceiveSession.fileBlock?, standing])
    rw [steady.same] at listed
    exact offerable.named _ (List.mem_of_getElem? listed)
  have restarts : (sourced offer source).Restarts host := fun _ _ _ _ _ _ => List.nil_prefix
  cases stands.commit restarts offerable.distinct steady.same places accepted standing temp with
  | inl waiting =>
      obtain ⟨disk, call, called, stands', _⟩ := waiting
      simp only [storedStep, found, called, Option.bind_eq_bind, Option.bind_some, Option.pure_def,
        Option.some.injEq] at stepped
      subst stepped
      refine retrying.goes found live left running (by rw [standing]; intro closed; cases closed) ?_
      simp only [Stands, standing] at stands
      have started := @Committing.start host platform _ _ _ _ block stored.commit temp accepted stands
      have before : stored.placing = (stored.commit.getD (.start platform (partialPath
          offer.transferId block.offered.fileId) block.offered.name temp)).placing := by
        simp only [StoredSession.placing, standing]
        cases stored.commit with
        | some call => rfl
        | none => simp only [Option.getD_none, CommitCall.start, accepted, CommitCall.placing]
      have after : StoredSession.placing { stored with commit := some call } = call.placing := by
        simp only [StoredSession.placing, standing]
      have places := started.places (ahead_of_waiting standing steady.same called)
      rw [before] at gained
      rw [after]
      change Places _ _ (CommitCall.placing (stored.commit.getD (.start platform (partialPath
        offer.transferId block.offered.fileId) block.offered.name temp))) _ at places
      generalize CommitCall.placing _ = given at gained places
      generalize call.placing = named at places
      cases places with
      | still same => exact gained.still same
      | named place free taken same => exact gained.place place free taken same
  | inr returns =>
      obtain ⟨name, called, follows, _⟩ := returns
      obtain ⟨registry, session, again, rfl⟩ := returned_of_called found called stepped
      cases (follows now).symm.trans again
      refine retrying.advances once found live left
        (ReceiveSession.onlyLost_of_advance (advance_of_undisturbed rfl (follows now))) (follows now)
        (fun other text hashing => by cases standing.symm.trans hashing) (fun _ finished => finished)
        (by rw [standing]; intro closing; cases closing) ?_
      rw [placing_returned standing accepted called] at gained
      exact gained

/-- A call to the disk, but the last of a session. -/
theorem Retrying.storage {now : Time} {temp : PyStr}
    (retrying : Retrying host offer source start state finals)
    (lawful : host.Lawful) (places : host.Places platform)
    (once : OfferedOnce platform (· = offer)) (honest : Honest host offer source)
    (ongoing : ∀ stored, state.sessions[index]? = some stored →
      stored.session.phase ≠ .completeSession)
    (stepped : storedStep host platform state (.storage index now temp none) = some next) :
    ∃ changed, Retrying host offer source start next changed := by
  obtain ⟨stored, found, stores⟩ := storage_cases stepped
  by_cases committing : ∃ block, stored.session.phase = .inside block .commit
  · obtain ⟨block, standing⟩ := committing
    exact ⟨finals, retrying.commits lawful places once found standing stepped⟩
  have undertaken := @undertaken_fromSource host platform offer source once
  obtain ⟨changed, left⟩ := retrying.attended.storage lawful places undertaken stepped
  have member := List.mem_of_getElem? found
  have live := live_of_stores stores
  have steady := retrying.steady member live
  have uncommitted : ∀ block, stored.session.phase ≠ .inside block .commit :=
    fun block standing => committing ⟨block, standing⟩
  obtain ⟨payload, valid⟩ := once.valid offer rfl
  obtain ⟨disk, handle, answer, called, advanced, verified⟩ :=
    steady.calls (provides_sourced lawful places valid honest.sized) honest.verified stores uncommitted
  obtain ⟨registry, session, again, rfl⟩ := returned_of_called found (called temp) stepped
  obtain ⟨middle, moved, going⟩ := advanced now
  have transition := ReceiveSession.step_transition again
  have gained := retrying.placing member live
  have idle : StoredSession.placing ⟨session, handle, none⟩ = none :=
    placing_idle fun block finalPath standing =>
      uncommitted block ((Transition.follows transition standing).2 finalPath rfl)
  have calm := steady.idle uncommitted
  have same : ∀ path : FilePath, path.directory = .received →
      disk.nodes.get path = state.disk.nodes.get path := by
    intro path place
    cases left.newFiles path place with
    | inl same => exact same
    | inr new =>
        obtain ⟨⟨other, there, call, name, began, _⟩, _⟩ := new
        cases found.symm.trans there
        cases calm.symm.trans began
  have onward := @Retrying.advances host platform offer source start state finals changed stored index
    registry session ⟨now, answer⟩ disk (.storage index now temp none) handle retrying once found live
    left (ReceiveSession.onlyLost_of_advance going) again
  have records := left.records
  cases records with
  | completed there completes =>
      cases found.symm.trans there
      exact absurd completes (ongoing stored found)
  | silent quiet =>
      refine ⟨finals, onward verified (fun _ finished => finished) (ongoing stored found) ?_⟩
      have unmarked := (quiet index now temp stored rfl found).1
      have before : stored.placing = none := by
        obtain ⟨current, held, commit⟩ := stored
        dsimp only at calm
        subst calm
        exact placing_idle unmarked
      rw [before] at gained
      rw [idle]
      exact gained.still same
  | @marked _ _ _ marking block finalPath path _ there standing unfinished shown =>
      cases found.symm.trans there
      have ours : stored.transferId = offer.transferId := congrArg TransferOffer.transferId
        (retrying.attended.ours member)
      rw [ours] at unfinished
      have listed := steady.anchored.offered block (by rw [ReceiveSession.fileBlock?, standing])
      rw [retrying.attended.ours member] at listed
      have included := List.mem_of_getElem? listed
      have own : finals.with stored.transferId (withFinal (finals stored.transferId) block.offered path)
          offer.transferId = withFinal (finals offer.transferId) block.offered path := by
        rw [ours, Finals.with_same]
      refine ⟨_, onward verified (fun file finished => ?grown) (ongoing stored found) ?gains⟩
      case grown =>
        rw [own, withFinal]
        split
        · exact Option.some_ne_none _
        · exact finished
      case gains =>
        have final : finals.with stored.transferId
            (withFinal (finals stored.transferId) block.offered path) offer.transferId block.offered =
              some path := by
          rw [own]
          exact if_pos rfl
        obtain ⟨_, _, origin⟩ :=
          transition.anchored retrying.attended.keyed (retrying.attended.anchored stored member)
        have rests := retrying.rests found live left origin fun other commits => by
          cases standing.symm.trans ((Transition.follows transition commits).1 rfl)
        have place : path.directory = .received := by
          cases rests with
          | bare _ none _ => cases (none block.offered).symm.trans final
          | left resting => exact (resting.ended _ included path final).1
        have before : stored.placing = some path := by
          have name : (host.shown path).name = path.name := rfl
          simp only [StoredSession.placing, standing, shown, name, received, ← place]
        rw [idle, own]
        rw [before] at gained
        exact (gained.record included unfinished).still same

end

end DirectTransfer
