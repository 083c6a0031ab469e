import DirectTransfer.Core.LinkedReceiver

/-! A sending worker and its receiver together: over every run of both, however often
their connection is lost and whichever frames are lost with it, the receiver gets what
the source files hold, and a file the sender shows as complete has arrived. -/

set_option autoImplicit false

namespace DirectTransfer

open Library

/-- The condition on a step: the receiver attends to its transfers, and nobody else makes
the offer. -/
def LinkAttends (platform : Platform) (offers : TransferOffer → Prop) (offer : TransferOffer)
    (link : TransferLink) : LinkLabel → Prop
  | .sender _ _ | .deliver _ _ => True
  | .respond wire accepted _ peerIp peerDeviceId => accepted = true → ∀ there payload rest,
      link.wires[wire]? = some there → there.frames.receive? = some (.control payload, rest) →
      Attends platform offers link.receiver (.accept peerIp peerDeviceId payload)
  | .receiver label _ => Attends platform offers link.receiver label ∧
      ∀ peerIp peerDeviceId payload, label = .accept peerIp peerDeviceId payload →
        validateOffer platform payload ≠ .ok offer

/-- A file with the octets of its source, in the receive directory. -/
def InPlace (disk : Disk FilePath) (source : IncomingFile → Bytes) (file : IncomingFile) : Prop :=
  ∃ path, path.directory = .received ∧ (∀ target, disk.nodes.get path ≠ some (.symlink target)) ∧
    disk.read path = some (source file)

/-- A worker with an offer to make to a receiver of which it has heard nothing yet. -/
structure LinkBegins (host : StoreHost) (offers : TransferOffer → Prop) (offer : TransferOffer)
    (start : TransferLink) : Prop where
  registers : start.worker.phase = .register 0
  unregistered : start.worker.infos = []
  announced : validateOffer start.worker.sending.platform start.worker.sending.offerFrame = .ok offer
  unconnected : start.wires = []
  receiver : Begins host offers start.receiver
  bare : StoreHost.Bare start.receiver.disk offer.transferId
  direct : Direct start.receiver.disk

/-- What holds of a connection and the receiver at its end. -/
structure Wired (offer : TransferOffer) (source : IncomingFile → Bytes) (state : StoredReceiver)
    (wire : Wire) : Prop where
  chain : wire.frames.history.IsChain (HeaderFirst offer source)
  bounded : ∀ index, wire.receiver = .session index → index < state.sessions.length
  headed : ∀ index stored block chunk declared, wire.receiver = .session index →
    state.sessions[index]? = some stored →
    stored.session.phase = .inside block (.chunkData chunk declared) →
    Headed wire.frames.arrived.getLast? state.registry block
  told : ∀ answer ∈ wire.answers.history, ∀ file ∈ offer.files,
    acknowledges offer.transferId file.fileId answer = true → InPlace state.disk source file

/-- The receiver's end of the connection at a place. -/
def endAt (wires : List Wire) (place : Nat) : Option WireEnd := (wires[place]?).map Wire.receiver

/-- Everything sent on the connection at a place. -/
def sentAt (wires : List Wire) (place : Nat) : Option (List WireFrame) :=
  (wires[place]?).map fun wire => wire.frames.history

/-- What holds between two steps of both. -/
structure Linked (host : StoreHost) (platform : Platform) (offers : TransferOffer → Prop)
    (offer : TransferOffer) (source : IncomingFile → Bytes) (start : StoredReceiver)
    (link : TransferLink) : Prop where
  reached : ∃ labels, Run (storedStep host platform)
    (fun state label => Attends platform offers state label ∧ FromSource offer source state label)
    start labels link.receiver
  worker : LinkedWorker offer source link
  wired : ∀ (place : Nat) (wire : Wire), link.wires[place]? = some wire →
    Wired offer source link.receiver wire
  apart : ∀ first second index, endAt link.wires first = some (.session index) →
    endAt link.wires second = some (.session index) → first = second
  served : ∀ (index : Nat) (stored : StoredSession), link.receiver.sessions[index]? = some stored →
    stored.session.origin.offer = offer → ∃ place, endAt link.wires place = some (.session index)
  completed : ∀ (index : Nat) (info : TransferInfo) (file : IncomingFile),
    link.worker.infos[index]? = some info → info.status = .complete →
    offer.files[index]? = some file → InPlace link.receiver.disk source file

section

variable {host : StoreHost} {platform : Platform} {offers : TransferOffer → Prop}
  {offer : TransferOffer} {source : IncomingFile → Bytes} {start : StoredReceiver}
  {link after : TransferLink} {state next : StoredReceiver} {label : StoredLabel}
  {disk changed : Disk FilePath} {file : IncomingFile} {wire : Wire} {finals : Finals}

/-! ## What has arrived stays -/

theorem InPlace.kept (inPlace : InPlace disk source file)
    (frame : Disk.Frame (fun path => ¬ ReceivedName disk path) disk changed) :
    InPlace changed source file := by
  obtain ⟨path, received, direct, read⟩ := inPlace
  have held : disk.nodes.get path ≠ none := by
    intro absent
    rw [Disk.read_of_free absent] at read
    cases read
  have stays : ¬ ¬ ReceivedName disk path := not_not.mpr ⟨received, held⟩
  refine ⟨path, received, fun target => ?_, ?_⟩
  · rw [frame.nodes path stays]
    exact direct target
  · rw [frame.read stays direct]
    exact read

theorem StoredMove.grows (move : StoredMove host platform state label next)
    (stays : label ≠ .restart) : state.sessions.length ≤ next.sessions.length := by
  cases move with
  | accepted =>
      dsimp only
      rw [List.length_append]
      exact Nat.le_add_right _ _
  | told | waits | returned =>
      dsimp only
      rw [List.length_set]
  | restarted => exact absurd rfl stays

/-- The receiver's side of a step, as seen from a connection on which nothing has been read. -/
theorem Wired.steps (wired : Wired offer source state wire)
    (attended : Attended host (expecting offers (fromSource offer source)) state finals)
    (move : StoredMove host platform state label next)
    (unread : ∀ index event, wire.receiver = .session index → label ≠ .network index event ∨
      ∀ payload, event.answer ≠ .control payload)
    (stays : label ≠ .restart)
    (frame : Disk.Frame (fun path => ¬ ReceivedName state.disk path) state.disk next.disk) :
    Wired offer source next wire := by
  refine ⟨wired.chain, ?_, ?_, fun answer among file member acknowledged =>
    (wired.told answer among file member acknowledged).kept frame⟩
  · intro index ends
    exact Nat.lt_of_lt_of_le (wired.bounded index ends) (move.grows stays)
  · intro index stored block chunk declared ends found standing
    cases move.headed attended found standing with
    | inl before =>
        obtain ⟨there, _, keeps⟩ := before
        exact (wired.headed index stored block chunk declared ends there standing).keeps keeps
    | inr read =>
        obtain ⟨now, payload, same, _⟩ := read
        cases unread index ⟨now, .control payload⟩ ends with
        | inl other => exact absurd same other
        | inr other => exact absurd rfl (other payload)

/-! ## What is told -/

theorem fileResult_acknowledges {transferId other fileId named : PyStr} {ok : Bool}
    {detail : PyStr × Json} (acknowledged : acknowledges transferId fileId
      (fileResult other named ok detail) = true) :
    other = transferId ∧ named = fileId ∧ ok = true := by
  simpa [acknowledges, fileResult, and_assoc] using acknowledged

theorem response_acknowledges {transferId other fileId : PyStr} {accepted : Bool}
    {reason : Option PyStr} {response : Json} (built : buildResponse other accepted reason = .ok response) :
    acknowledges transferId fileId response = false := by
  unfold buildResponse at built
  simp only [bind, Except.bind, pure, Except.pure] at built
  split at built
  · cases built
  · cases built
    simp [acknowledges]

/-- What a session confirms is in place. -/
theorem frame_inPlace {index : Nat} {stored : StoredSession} {payload : Json}
    (once : OfferedOnce platform offers) (offered : offers offer)
    (sized : ∀ file ∈ offer.files, (source file).length = file.size)
    (attended : Attended host (expecting offers (fromSource offer source)) state finals)
    (found : state.sessions[index]? = some stored)
    (sends : stored.session.phase.frame stored.session.origin.offer = some payload)
    (member : file ∈ offer.files)
    (acknowledged : acknowledges offer.transferId file.fileId payload = true) :
    InPlace state.disk source file := by
  cases standing : stored.session.phase with
  | inside block call =>
      cases call with
      | sendResult finalPath =>
          rw [standing] at sends
          cases sends
          obtain ⟨transfer, named, _⟩ := fileResult_acknowledges acknowledged
          obtain ⟨goods, known, same, stands⟩ :=
            attended.transfer found fun outcome ends => (by cases standing.symm.trans ends)
          have ours : goods.offer = offer :=
            once.apart goods.offer offer known.1 offered (same ▸ transfer)
          simp only [Stands, standing] at stands
          obtain ⟨cursor, working⟩ := stands.working
          obtain ⟨path, final, _⟩ := stands.final
          obtain ⟨valid, accepts⟩ := once.valid offer offered
          have distinct := (validateOffer_offerable accepts).1.distinct
          have listed : block.offered ∈ goods.offer.files := List.mem_of_getElem? working.listed
          have equal : block.offered = file :=
            List.inj_on_of_nodup_map distinct (ours ▸ listed) member named
          subst equal
          obtain ⟨received, genuine⟩ := stands.resting.ended _ listed path final
          have kept := stands.resting.shelved.kept _ listed path final
          obtain ⟨octets, read, length, _⟩ := StoreHost.verifies_iff.mp kept.verified
          have begins := genuine octets read
          rw [known.2] at begins
          have whole : octets = source block.offered :=
            (begins ours).eq_of_length (length.trans (sized _ member).symm)
          exact ⟨path, received, kept.direct, whole ▸ read⟩
      | hashMismatch =>
          rw [standing] at sends
          cases sends
          cases (fileResult_acknowledges acknowledged).2.2
      | _ =>
          rw [standing] at sends
          cases sends
  | resumeState states =>
      rw [standing] at sends
      cases sends
      simp [acknowledges, resumeState] at acknowledged
  | sessionComplete =>
      rw [standing] at sends
      cases sends
      simp [acknowledges, control] at acknowledged
  | _ =>
      rw [standing] at sends
      cases sends

theorem Wired.reply {index : Nat} {payload : Json} (wired : Wired offer source state wire)
    (honest : ∀ file ∈ offer.files, acknowledges offer.transferId file.fileId payload = true →
      InPlace state.disk source file) :
    Wired offer source state (wire.replyOf index payload) := by
  unfold Wire.replyOf
  split
  · refine ⟨wired.chain, wired.bounded, wired.headed, fun answer among file member acknowledged => ?_⟩
    rw [Wire.reply, Channel.history_send] at among
    cases List.mem_append.mp among with
    | inl old => exact wired.told answer old file member acknowledged
    | inr new =>
        cases List.mem_singleton.mp new
        exact honest file member acknowledged
  · exact wired

theorem Wired.closes (wired : Wired offer source state wire) :
    Wired offer source ⟨.empty, state.disk, []⟩ wire.close where
  chain := wired.chain
  bounded index ends := by cases ends
  headed index stored block chunk declared ends := by cases ends
  told := wired.told

theorem Wired.fresh : Wired offer source state .fresh where
  chain := List.isChain_nil
  bounded index ends := by cases ends
  headed index stored block chunk declared ends := by cases ends
  told answer among := by cases among

theorem Wired.extended {new : Wire} (wired : Wired offer source state wire)
    (extends' : wire.Extends offer source new) : Wired offer source state new where
  chain := extends'.chain wired.chain
  bounded index ends := wired.bounded index (extends'.receiver ▸ ends)
  headed index stored block chunk declared ends := by
    rw [extends'.arrived]
    exact wired.headed index stored block chunk declared (extends'.receiver ▸ ends)
  told answer among := wired.told answer (extends'.answers ▸ among)

/-! ## What is read -/

/-- The octets a session reads off its connection are those of its file. -/
theorem Wired.fromSource {frames : Channel WireFrame} {frame : WireFrame} {index : Nat} {now : Time}
    (once : OfferedOnce platform offers) (offered : offers offer)
    (attended : Attended host (expecting offers (fromSource offer source)) state finals)
    (wired : Wired offer source state wire) (ends : wire.receiver = .session index)
    (taken : wire.frames.receive? = some (frame, frames)) :
    FromSource offer source state (.network index ⟨now, frame.answer⟩) := by
  intro stored found ours block chunk raw standing answer
  have data : frame = .octets raw := by
    cases frame with
    | control payload => cases answer
    | octets other =>
        cases answer
        rfl
  obtain ⟨payload, info, last, record, named, place⟩ :=
    wired.headed index stored block chunk raw.length ends found standing
  obtain ⟨file, member, _, offset, header, slice⟩ :=
    Channel.follows_receive wired.chain last taken raw data
  cases header
  obtain ⟨goods, known, same, stands⟩ :=
    attended.transfer found fun outcome ended => (by cases standing.symm.trans ended)
  simp only [Stands, standing] at stands
  obtain ⟨cursor, _, _, filling⟩ := stands
  obtain ⟨held, there, counted⟩ := filling.working.counted
  cases record.symm.trans there
  have equal : goods.offer = offer := same.symm.trans ours
  obtain ⟨valid, accepts⟩ := once.valid offer offered
  have listed := List.mem_of_getElem? filling.working.listed
  rw [equal] at listed
  have ids : file.fileId = block.offered.fileId := by
    simpa [chunkHeader] using named
  have own : file = block.offered :=
    List.inj_on_of_nodup_map (validateOffer_offerable accepts).1.distinct member listed ids
  have reached : offset = cursor := by
    have equal : (offset : Int) = info.bytesTransferred := by
      simpa [chunkHeader] using place
    omega
  have length := filling.length
  rw [equal] at length
  rw [length, ← reached, ← own]
  exact slice

/-! ## One step of both -/

/-- A session of the receiver has the offer it had before, or has just been accepted. -/
theorem StoredMove.origin {index : Nat} {stored : StoredSession}
    (attended : Attended host (expecting offers (fromSource offer source)) state finals)
    (move : StoredMove host platform state label next)
    (found : next.sessions[index]? = some stored) :
    (∃ before, state.sessions[index]? = some before ∧
      before.session.origin.offer = stored.session.origin.offer) ∨
    ∃ peerIp peerDeviceId payload, label = .accept peerIp peerDeviceId payload ∧
      validateOffer platform payload = .ok stored.session.origin.offer ∧
      index = state.sessions.length := by
  have moves {place : Nat} {before : StoredSession} {event : ReceiveEvent} {registry : Registry}
      {session : ReceiveSession} {moved : StoredSession} (there : state.sessions[place]? = some before)
      (stepped : before.session.step state.registry event = some (registry, session))
      (placed : moved.session = session)
      (now : (state.sessions.set place moved)[index]? = some stored) :
      ∃ before, state.sessions[index]? = some before ∧
        before.session.origin.offer = stored.session.origin.offer := by
    by_cases here : place = index
    · subst here
      rw [List.getElem?_set_self (List.getElem?_eq_some_iff.mp there).1] at now
      cases now
      obtain ⟨_, _, origin⟩ := (ReceiveSession.step_transition stepped).anchored attended.keyed
        (attended.anchored before (List.mem_of_getElem? there))
      exact ⟨before, there, by rw [placed, origin]⟩
    · rw [List.getElem?_set_ne here] at now
      exact ⟨stored, now, rfl⟩
  cases move with
  | @accepted peerIp peerDeviceId payload other valid =>
      dsimp only at found
      rw [List.getElem?_append] at found
      split at found
      · exact .inl ⟨stored, found, rfl⟩
      · have last := (List.getElem?_eq_some_iff.mp found).1
        cases List.mem_singleton.mp (List.mem_of_getElem? found)
        refine .inr ⟨peerIp, peerDeviceId, payload, rfl, valid, ?_⟩
        rw [List.length_singleton] at last
        omega
  | told there quiet stepped => exact .inl (moves there stepped rfl found)
  | @waits place now temp failure before moved disk there called =>
      by_cases here : place = index
      · subst here
        dsimp only at found
        rw [List.getElem?_set_self (List.getElem?_eq_some_iff.mp there).1] at found
        cases found
        exact .inl ⟨before, there, by rw [(call_stores called).2]⟩
      · dsimp only at found
        rw [List.getElem?_set_ne here] at found
        exact .inl ⟨stored, found, rfl⟩
  | returned there called stepped =>
      rw [(call_stores called).2] at stepped
      exact .inl (moves there stepped rfl found)
  | restarted => cases found

/-- What every step of the receiver does to the link. -/
structure ReceiverMoved (host : StoreHost) (platform : Platform) (offers : TransferOffer → Prop)
    (offer : TransferOffer) (source : IncomingFile → Bytes) (start state : StoredReceiver)
    (label : StoredLabel) (next : StoredReceiver) : Prop where
  reached : ∃ labels, Run (storedStep host platform)
    (fun state label => Attends platform offers state label ∧ FromSource offer source state label)
    start labels next
  attended : ∃ finals, Attended host (expecting offers (fromSource offer source)) state finals
  move : StoredMove host platform state label next
  frame : Disk.Frame (fun path => ¬ ReceivedName state.disk path) state.disk next.disk

theorem Linked.attended (lawful : host.Lawful) (places : host.Places platform)
    (once : OfferedOnce platform offers) (begins : Begins host offers start)
    (bare : StoreHost.Bare start.disk offer.transferId) (direct : Direct start.disk)
    (linked : Linked host platform offers offer source start link) :
    ∃ finals, Attended host (expecting offers (fromSource offer source)) link.receiver finals := by
  obtain ⟨labels, run⟩ := linked.reached
  exact (@Begins.run_sourced host platform offers offer source start link.receiver labels lawful places
    once begins bare direct run).1

theorem Linked.receiver_moves (lawful : host.Lawful) (places : host.Places platform)
    (once : OfferedOnce platform offers) (begins : Begins host offers start)
    (bare : StoreHost.Bare start.disk offer.transferId) (direct : Direct start.disk)
    (linked : Linked host platform offers offer source start link)
    (attends : Attends platform offers link.receiver label)
    (sent : FromSource offer source link.receiver label)
    (stepped : storedStep host platform link.receiver label = some next) :
    ReceiverMoved host platform offers offer source start link.receiver label next := by
  obtain ⟨finals, attended⟩ := linked.attended lawful places once begins bare direct
  obtain ⟨labels, run⟩ := linked.reached
  have undertaken : Undertaken host platform offers (expecting offers (fromSource offer source)) :=
    once.undertaken fun other _ file member octets genuine length digest same => List.nil_prefix
  obtain ⟨changed, moved⟩ := attended.step lawful places undertaken attends
    (brings_fromSource sent) stepped
  exact ⟨⟨_, .snoc run ⟨attends, sent⟩ stepped⟩, ⟨finals, attended⟩, storedStep_cases stepped,
    moved.frame⟩

theorem endAt_eq {wires : List Wire} {place : Nat} (found : wires[place]? = some wire) :
    endAt wires place = some wire.receiver := by
  rw [endAt, found, Option.map_some]

theorem endAt_cases {wires : List Wire} {place : Nat} {ends : WireEnd}
    (at' : endAt wires place = some ends) :
    ∃ wire, wires[place]? = some wire ∧ wire.receiver = ends :=
  Option.map_eq_some_iff.mp at'

theorem endAt_set {wires : List Wire} {place : Nat} {old new : Wire}
    (found : wires[place]? = some old) (other : Nat) :
    endAt (wires.set place new) other =
      if place = other then some new.receiver else endAt wires other := by
  unfold endAt
  rw [List.getElem?_set]
  split
  · next same =>
      subst same
      rw [if_pos (List.getElem?_eq_some_iff.mp found).1, Option.map_some]
  · rfl

theorem sentAt_set {wires : List Wire} {place : Nat} {old new : Wire}
    (found : wires[place]? = some old) (same : new.frames.history = old.frames.history)
    (other : Nat) : sentAt (wires.set place new) other = sentAt wires other := by
  unfold sentAt
  rw [List.getElem?_set]
  split
  · next own =>
      subst own
      rw [if_pos (List.getElem?_eq_some_iff.mp found).1, found, Option.map_some, Option.map_some, same]
  · rfl

theorem Extended.session {wires after : List Wire} {place index : Nat}
    (extended : Extended offer source wires after)
    (ends : endAt after place = some (.session index)) :
    endAt wires place = some (.session index) := by
  obtain ⟨new, found, same⟩ := endAt_cases ends
  cases extended.known place new found with
  | inl fresh =>
      rw [fresh] at same
      cases same
  | inr known =>
      obtain ⟨old, there, extends'⟩ := known
      rw [endAt_eq there, ← extends'.receiver, same]

/-- A change of the connections that the sender does not see. -/
theorem LinkedWorker.unseen {wires : List Wire} (worker : LinkedWorker offer source link)
    (receiver : StoredReceiver)
    (sent : ∀ place, sentAt wires place = sentAt link.wires place) :
    LinkedWorker offer source { link with wires, receiver } := by
  refine ⟨worker.prepared, worker.announced, fun attempt phase standing => ?_⟩
  obtain ⟨connected, streams⟩ := worker.outgoing attempt phase standing
  have last : (TransferLink.lastSent { link with wires, receiver }) = link.lastSent := by
    have same := congrArg (Option.bind · List.getLast?) (sent link.wire)
    simpa [sentAt, TransferLink.lastSent, Option.bind_map] using same
  refine ⟨fun joined => ?_, ?_⟩
  · have bound := connected joined
    have same := sent link.wire
    rw [sentAt, sentAt, List.getElem?_eq_getElem bound, Option.map_some] at same
    obtain ⟨wire, found, _⟩ := Option.map_eq_some_iff.mp same
    exact (List.getElem?_eq_some_iff.mp found).1
  · rw [last]
    exact streams

theorem Linked.sender {event : Event} {written : Bool}
    (linked : Linked host platform offers offer source start link)
    (stepped : link.senderStep source event written = some after) :
    Linked host platform offers offer source start after := by
  obtain ⟨worker, receiver, wires, completes⟩ := linked.worker.step stepped
  refine ⟨?_, worker, ?_, ?_, ?_, ?_⟩
  · rw [receiver]
    exact linked.reached
  · intro place wire found
    rw [receiver]
    cases wires.known place wire found with
    | inl fresh =>
        rw [fresh]
        exact .fresh
    | inr known =>
        obtain ⟨old, there, extends'⟩ := known
        exact (linked.wired place old there).extended extends'
  · intro first second index one other
    exact linked.apart first second index (wires.session one) (wires.session other)
  · intro index stored found ours
    rw [receiver] at found
    obtain ⟨place, ends⟩ := linked.served index stored found ours
    obtain ⟨old, there, same⟩ := endAt_cases ends
    obtain ⟨new, still, extends'⟩ := wires.kept place old there
    exact ⟨place, by rw [endAt_eq still, extends'.receiver, same]⟩
  · intro index info file found complete listed
    rw [receiver]
    cases completes index info found complete with
    | inl confirmed =>
        obtain ⟨wire, among, result, told, offered, there, acknowledged⟩ := confirmed
        obtain ⟨place, here⟩ := List.mem_iff_getElem?.mp among
        cases listed.symm.trans there
        exact (linked.wired place wire here).told result told file (List.mem_of_getElem? listed)
          acknowledged
    | inr before =>
        obtain ⟨old, was, already⟩ := before
        exact linked.completed index old file was already listed

/-- A frame is read. -/
theorem Linked.deliver {place : Nat} {now : Time} (lawful : host.Lawful)
    (places : host.Places platform) (once : OfferedOnce platform offers)
    (begins : Begins host offers start) (bare : StoreHost.Bare start.disk offer.transferId)
    (direct : Direct start.disk) (offered : offers offer)
    (linked : Linked host platform offers offer source start link)
    (stepped : linkStep host platform source link (.deliver place now) = some after) :
    Linked host platform offers offer source start after := by
  simp only [linkStep, Option.bind_eq_bind, Option.bind_eq_some_iff] at stepped
  obtain ⟨there, found, ⟨frame, frames⟩, taken, rest⟩ := stepped
  dsimp only at rest
  split at rest
  · next index ends =>
      simp only [Option.bind_eq_some_iff, Option.pure_def, Option.some.injEq] at rest
      obtain ⟨receiver, moved, rfl⟩ := rest
      have bound := (List.getElem?_eq_some_iff.mp found).1
      have wired := linked.wired place there found
      obtain ⟨finals, attended⟩ := linked.attended lawful places once begins bare direct
      have attends : Attends platform offers link.receiver (.network index ⟨now, frame.answer⟩) :=
        trivial
      obtain ⟨reached, _, move, kept⟩ := linked.receiver_moves lawful places once begins bare direct
        attends (wired.fromSource once offered attended ends taken) moved
      have same (other : Nat) : endAt (link.wires.set place { there with frames }) other =
          endAt link.wires other := by
        rw [endAt_set found]
        split
        · next own =>
            subst own
            rw [endAt_eq found]
        · rfl
      refine ⟨reached, linked.worker.unseen receiver (sentAt_set found (Channel.history_receive taken)),
        ?_, ?_, ?_, ?_⟩
      · intro other wire here
        by_cases own : place = other
        · subst own
          rw [List.getElem?_set_self bound] at here
          cases here
          refine ⟨Channel.history_receive taken ▸ wired.chain, ?_, ?_,
            fun answer among file member acknowledged =>
              (wired.told answer among file member acknowledged).kept kept⟩
          · intro index' ends'
            exact Nat.lt_of_lt_of_le (wired.bounded index' ends')
              (move.grows fun restarts => by cases restarts)
          · intro index' stored block chunk declared ends' here standing
            cases ends.symm.trans ends'
            cases move.headed attended here standing with
            | inl before => exact absurd rfl (before.2.1 _)
            | inr read =>
                obtain ⟨now', payload, equal, headed⟩ := read
                rw [Channel.arrived_receive taken]
                cases frame with
                | control other =>
                    cases equal
                    exact headed
                | octets raw => cases equal
        · rw [List.getElem?_set_ne own] at here
          refine (linked.wired other wire here).steps attended move (fun index' event ends' => ?_)
            (fun restarts => by cases restarts) kept
          refine .inl fun equal => own ?_
          cases equal
          exact linked.apart place other index (by rw [endAt_eq found, ends])
            (by rw [endAt_eq here, ends'])
      · intro first second index' one other
        rw [same] at one other
        exact linked.apart first second index' one other
      · intro index' stored here ours
        cases move.origin attended here with
        | inl before =>
            obtain ⟨old, was, equal⟩ := before
            obtain ⟨other, ends'⟩ := linked.served index' old was (equal.trans ours)
            exact ⟨other, by rw [same, ends']⟩
        | inr accepts =>
            obtain ⟨_, _, _, impossible, _⟩ := accepts
            cases impossible
      · intro index' info file here complete listed
        exact (linked.completed index' info file here complete listed).kept kept
  · cases rest

/-- An offer is answered. -/
theorem Linked.respond {place : Nat} {accepted : Bool} {reason : Option PyStr}
    {peerIp peerDeviceId : PyStr} (lawful : host.Lawful)
    (places : host.Places platform) (once : OfferedOnce platform offers)
    (begins : Begins host offers start) (bare : StoreHost.Bare start.disk offer.transferId)
    (direct : Direct start.disk)
    (linked : Linked host platform offers offer source start link)
    (attends : LinkAttends platform offers offer link
      (.respond place accepted reason peerIp peerDeviceId))
    (stepped : linkStep host platform source link (.respond place accepted reason peerIp peerDeviceId) =
      some after) :
    Linked host platform offers offer source start after := by
  simp only [linkStep, Option.bind_eq_bind, Option.bind_eq_some_iff] at stepped
  obtain ⟨there, found, ⟨frame, frames⟩, taken, rest⟩ := stepped
  dsimp only at rest
  split at rest
  · next payload unanswered =>
      split at rest
      · cases rest
      · next other valid =>
          split at rest
          · cases rest
          · next response built =>
              have wired := linked.wired place there found
              have bound := (List.getElem?_eq_some_iff.mp found).1
              have told : ∀ answer ∈ (there.answers.send response).history, ∀ file ∈ offer.files,
                  acknowledges offer.transferId file.fileId answer = true →
                    InPlace link.receiver.disk source file := by
                intro answer among file member acknowledged
                rw [Channel.history_send] at among
                cases List.mem_append.mp among with
                | inl old => exact wired.told answer old file member acknowledged
                | inr new =>
                    cases List.mem_singleton.mp new
                    rw [response_acknowledges built] at acknowledged
                    cases acknowledged
              have serves {ends : WireEnd} {index other : Nat}
                  (at' : endAt link.wires other = some (.session index)) :
                  endAt (link.wires.set place ⟨frames, there.answers.send response, ends⟩) other =
                    some (.session index) := by
                rw [endAt_set found, if_neg]
                · exact at'
                · intro own
                  subst own
                  rw [endAt_eq found, unanswered] at at'
                  cases at'
              have sent (ends : WireEnd) (other : Nat) :=
                @sentAt_set link.wires place there ⟨frames, there.answers.send response, ends⟩ found
                  (Channel.history_receive taken) other
              split at rest
              · next accepts =>
                  simp only [Option.bind_eq_some_iff, Option.pure_def, Option.some.injEq] at rest
                  obtain ⟨receiver, moved, rfl⟩ := rest
                  have admitted := attends accepts there payload frames found taken
                  have honest : FromSource offer source link.receiver
                      (.accept peerIp peerDeviceId payload) := trivial
                  obtain ⟨reached, ⟨finals, attended⟩, move, kept⟩ := linked.receiver_moves lawful
                    places once begins bare direct admitted honest moved
                  have length : receiver.sessions.length = link.receiver.sessions.length + 1 := by
                    cases move
                    exact List.length_append
                  have fresh {other index : Nat} (at' : endAt link.wires other = some (.session index)) :
                      index < link.receiver.sessions.length := by
                    obtain ⟨wire, here, ends⟩ := endAt_cases at'
                    exact (linked.wired other wire here).bounded index ends
                  refine ⟨reached, linked.worker.unseen receiver (sent _), ?_, ?_, ?_, ?_⟩
                  · intro other wire here
                    by_cases own : place = other
                    · subst own
                      rw [List.getElem?_set_self bound] at here
                      cases here
                      refine ⟨Channel.history_receive taken ▸ wired.chain, ?_, ?_,
                        fun answer among file member acknowledged =>
                          (told answer among file member acknowledged).kept kept⟩
                      · intro index ends
                        cases ends
                        rw [length]
                        exact Nat.lt_succ_self _
                      · intro index stored block chunk declared ends at' standing
                        cases ends
                        cases move with
                        | accepted =>
                            rw [List.getElem?_append_right (Nat.le_refl _), Nat.sub_self] at at'
                            cases at'
                            cases standing
                    · rw [List.getElem?_set_ne own] at here
                      exact (linked.wired other wire here).steps attended move
                        (fun _ _ _ => .inl fun equal => by cases equal)
                        (fun restarts => by cases restarts) kept
                  · intro first second index one other
                    rw [endAt_set found] at one other
                    split at one
                    · next own =>
                        split at other
                        · next own' => exact own.symm.trans own'
                        · cases one
                          exact absurd (fresh other) (Nat.lt_irrefl _)
                    · split at other
                      · cases other
                        exact absurd (fresh one) (Nat.lt_irrefl _)
                      · exact linked.apart first second index one other
                  · intro index stored here ours
                    cases move.origin attended here with
                    | inl before =>
                        obtain ⟨old, was, equal⟩ := before
                        obtain ⟨other, ends⟩ := linked.served index old was (equal.trans ours)
                        exact ⟨other, serves ends⟩
                    | inr new =>
                        obtain ⟨_, _, _, _, _, last⟩ := new
                        refine ⟨place, ?_⟩
                        rw [endAt_set found, if_pos rfl, last]
                  · intro index info file here complete listed
                    exact (linked.completed index info file here complete listed).kept kept
              · cases rest
                refine ⟨linked.reached, linked.worker.unseen link.receiver (sent _), ?_, ?_, ?_,
                  linked.completed⟩
                · intro other wire here
                  by_cases own : place = other
                  · subst own
                    rw [List.getElem?_set_self bound] at here
                    cases here
                    refine ⟨Channel.history_receive taken ▸ wired.chain, ?_, ?_, told⟩
                    · intro index ends
                      cases ends
                    · intro index stored block chunk declared ends
                      cases ends
                  · rw [List.getElem?_set_ne own] at here
                    exact linked.wired other wire here
                · intro first second index one other
                  rw [endAt_set found] at one other
                  split at one
                  · cases one
                  · split at other
                    · cases other
                    · exact linked.apart first second index one other
                · intro index stored here ours
                  obtain ⟨other, ends⟩ := linked.served index stored here ours
                  exact ⟨other, serves ends⟩
  · cases rest

/-- The connections after a step of the receiver that reads no frame: a session may have
sent one, or a new process has closed them. -/
inductive Replied (link : TransferLink) : StoredLabel → List Wire → Prop where
  | silent {label : StoredLabel} : label ≠ .restart → Replied link label link.wires
  | sent {index : Nat} {event : ReceiveEvent} {stored : StoredSession} {payload : Json} :
      link.receiver.sessions[index]? = some stored →
      stored.session.phase.frame stored.session.origin.offer = some payload →
      Replied link (.network index event) (link.wires.map (Wire.replyOf index payload))
  | closed : Replied link .restart (link.wires.map Wire.close)

theorem replies_cases (link : TransferLink) (label : StoredLabel) (written : Bool) :
    ∃ wires, link.replies label written = { link with wires } ∧ Replied link label wires := by
  have replies (index : Nat) (event : ReceiveEvent) :
      ∃ wires, link.reply index = { link with wires } ∧ Replied link (.network index event) wires := by
    unfold TransferLink.reply
    split
    · next payload sends =>
        obtain ⟨stored, found, frame⟩ := Option.bind_eq_some_iff.mp sends
        exact ⟨_, rfl, .sent found frame⟩
    · exact ⟨_, rfl, .silent fun restarts => by cases restarts⟩
  cases label with
  | network index event =>
      obtain ⟨now, answer⟩ := event
      cases answer with
      | done => exact replies index _
      | raised error =>
          cases written with
          | true => exact replies index _
          | false => exact ⟨_, rfl, .silent fun restarts => by cases restarts⟩
      | _ => exact ⟨_, rfl, .silent fun restarts => by cases restarts⟩
  | restart => exact ⟨_, rfl, .closed⟩
  | _ => exact ⟨_, rfl, .silent fun restarts => by cases restarts⟩

theorem replyOf_receiver (index : Nat) (payload : Json) (wire : Wire) :
    (wire.replyOf index payload).receiver = wire.receiver := by
  unfold Wire.replyOf
  split <;> rfl

theorem replyOf_frames (index : Nat) (payload : Json) (wire : Wire) :
    (wire.replyOf index payload).frames = wire.frames := by
  unfold Wire.replyOf
  split <;> rfl

/-- A session whose connection is not read takes no octets. -/
theorem Linked.unread (linked : Linked host platform offers offer source start link)
    (unread : link.reads label = false) : FromSource offer source link.receiver label := by
  cases label with
  | network index event =>
      intro stored found ours block chunk raw standing answer
      obtain ⟨now, reply⟩ := event
      dsimp only at answer
      subst answer
      obtain ⟨place, at'⟩ := linked.served index stored found ours
      obtain ⟨wire, there, ends⟩ := endAt_cases at'
      have reads : link.reads (.network index ⟨now, .octets raw⟩) = true := by
        simp only [TransferLink.reads, List.any_eq_true]
        exact ⟨wire, List.mem_of_getElem? there, by simp [ends]⟩
      rw [unread] at reads
      cases reads
  | _ => trivial

/-- A call of a session, a notification, an offer of somebody else or a new process. -/
theorem Linked.receives {written : Bool} (lawful : host.Lawful)
    (places : host.Places platform) (once : OfferedOnce platform offers)
    (begins : Begins host offers start) (bare : StoreHost.Bare start.disk offer.transferId)
    (direct : Direct start.disk) (offered : offers offer)
    (sized : ∀ file ∈ offer.files, (source file).length = file.size)
    (linked : Linked host platform offers offer source start link)
    (attends : LinkAttends platform offers offer link (.receiver label written))
    (stepped : linkStep host platform source link (.receiver label written) = some after) :
    Linked host platform offers offer source start after := by
  simp only [linkStep] at stepped
  split at stepped
  · cases stepped
  · next quiet =>
      simp only [Option.bind_eq_bind, Option.bind_eq_some_iff, Option.pure_def,
        Option.some.injEq] at stepped
      obtain ⟨receiver, moved, rfl⟩ := stepped
      obtain ⟨wires, same, replied⟩ := replies_cases link label written
      rw [same]
      have unread : link.reads label = false := by simpa using quiet
      obtain ⟨reached, ⟨finals, attended⟩, move, kept⟩ := linked.receiver_moves lawful places once
        begins bare direct attends.1 (linked.unread unread) moved
      have completed (index : Nat) (info : TransferInfo) (file : IncomingFile)
          (here : link.worker.infos[index]? = some info) (complete : info.status = .complete)
          (listed : offer.files[index]? = some file) : InPlace receiver.disk source file :=
        (linked.completed index info file here complete listed).kept kept
      have onward (change : Wire → Wire) (running : label ≠ .restart)
          (frames : ∀ wire, (change wire).frames = wire.frames)
          (ends : ∀ wire, (change wire).receiver = wire.receiver)
          (holds : ∀ wire, Wired offer source link.receiver wire →
            Wired offer source link.receiver (change wire)) :
          Linked host platform offers offer source start
            { link with wires := link.wires.map change, receiver } := by
        have endsAt (place : Nat) : endAt (link.wires.map change) place = endAt link.wires place := by
          simp [endAt, Function.comp_def, ends]
        refine ⟨reached, linked.worker.unseen receiver fun place => ?_, ?_, ?_, ?_, completed⟩
        · simp [sentAt, Function.comp_def, frames]
        · intro place wire here
          obtain ⟨old, there, rfl⟩ := Option.map_eq_some_iff.mp
            ((List.getElem?_map ..).symm.trans here)
          refine (holds old (linked.wired place old there)).steps attended move ?_ running kept
          intro index event at'
          by_cases equal : label = .network index event
          · refine .inr fun payload answer => ?_
            obtain ⟨now, reply⟩ := event
            dsimp only at answer
            subst answer
            subst equal
            have reads : link.reads (.network index ⟨now, .control payload⟩) = true := by
              simp only [TransferLink.reads, List.any_eq_true]
              exact ⟨old, List.mem_of_getElem? there, by simpa [ends] using at'⟩
            rw [unread] at reads
            cases reads
          · exact .inl equal
        · intro first second index one other
          rw [endsAt] at one other
          exact linked.apart first second index one other
        · intro index stored here ours
          cases move.origin attended here with
          | inl before =>
              obtain ⟨old, was, equal⟩ := before
              obtain ⟨place, at'⟩ := linked.served index old was (equal.trans ours)
              exact ⟨place, by rw [endsAt, at']⟩
          | inr accepts =>
              obtain ⟨peerIp, peerDeviceId, payload, equal, valid, _⟩ := accepts
              exact absurd (ours ▸ valid) (attends.2 peerIp peerDeviceId payload equal)
      cases replied with
      | silent running =>
          have unchanged := onward id running (fun _ => rfl) (fun _ => rfl) fun _ => id
          rw [List.map_id] at unchanged
          exact unchanged
      | sent found sends =>
          refine onward _ (fun restarts => by cases restarts) (replyOf_frames _ _)
            (replyOf_receiver _ _) fun wire wired => wired.reply fun file member acknowledged => ?_
          exact frame_inPlace once offered sized attended found sends member acknowledged
      | closed =>
          cases move
          refine ⟨reached, linked.worker.unseen _ fun place => ?_, ?_, ?_, ?_, completed⟩
          · simp [sentAt, Function.comp_def, Wire.close]
          · intro place wire here
            obtain ⟨old, there, rfl⟩ := Option.map_eq_some_iff.mp
              ((List.getElem?_map ..).symm.trans here)
            exact (linked.wired place old there).closes
          · intro first second index one
            simp [endAt, Wire.close] at one
          · intro index stored here
            cases here

theorem Linked.step {label : LinkLabel} (lawful : host.Lawful) (places : host.Places platform)
    (once : OfferedOnce platform offers) (begins : Begins host offers start)
    (bare : StoreHost.Bare start.disk offer.transferId) (direct : Direct start.disk)
    (offered : offers offer) (sized : ∀ file ∈ offer.files, (source file).length = file.size)
    (linked : Linked host platform offers offer source start link)
    (attends : LinkAttends platform offers offer link label)
    (stepped : linkStep host platform source link label = some after) :
    Linked host platform offers offer source start after := by
  cases label with
  | sender event written => exact linked.sender stepped
  | respond place accepted reason peerIp peerDeviceId =>
      exact linked.respond lawful places once begins bare direct attends stepped
  | deliver place now => exact linked.deliver lawful places once begins bare direct offered stepped
  | receiver label written =>
      exact linked.receives lawful places once begins bare direct offered sized attends stepped

theorem LinkBegins.linked {begun : TransferLink} (begins : LinkBegins host offers offer begun) :
    Linked host platform offers offer source begun.receiver begun where
  reached := ⟨[], .refl⟩
  worker := {
    prepared := by
      rw [begins.registers]
      rfl
    announced := fun other valid => by
      cases begins.announced.symm.trans valid
      rfl
    outgoing := fun attempt phase standing => by cases begins.registers.symm.trans standing }
  wired place wire found := by
    rw [begins.unconnected] at found
    cases found
  apart first second index one := by
    rw [begins.unconnected] at one
    cases one
  served index stored found := by
    rw [begins.receiver.sessions] at found
    cases found
  completed index info file found := by
    rw [begins.unregistered] at found
    cases found

theorem LinkBegins.run {begun finish : TransferLink} {labels : List LinkLabel} (lawful : host.Lawful)
    (places : host.Places platform) (once : OfferedOnce platform offers) (offered : offers offer)
    (sized : ∀ file ∈ offer.files, (source file).length = file.size)
    (begins : LinkBegins host offers offer begun)
    (run : Run (linkStep host platform source) (LinkAttends platform offers offer) begun labels finish) :
    Linked host platform offers offer source begun.receiver finish :=
  run.invariant (fun _ _ _ linked attends stepped => linked.step lawful places once begins.receiver
    begins.bare begins.direct offered sized attends stepped) begins.linked

/-! ## What both come to -/

/-- A run of both ends is, at the receiver, a run with a sender that keeps to the protocol. -/
theorem link_run_honest {begun finish : TransferLink} {labels : List LinkLabel} (lawful : host.Lawful)
    (places : host.Places platform) (once : OfferedOnce platform offers) (offered : offers offer)
    (sized : ∀ file ∈ offer.files, (source file).length = file.size)
    (begins : LinkBegins host offers offer begun)
    (run : Run (linkStep host platform source) (LinkAttends platform offers offer) begun labels finish) :
    ∃ steps, Run (storedStep host platform)
      (fun state label => Attends platform offers state label ∧ FromSource offer source state label)
      begun.receiver steps finish.receiver :=
  (begins.run lawful places once offered sized run).reached

/-- Wherever connections are lost and sessions are taken up again: a file the sender shows
as complete is in the receive directory, with the octets of its source. -/
theorem complete_files_arrived {begun finish : TransferLink} {labels : List LinkLabel}
    (lawful : host.Lawful) (places : host.Places platform) (once : OfferedOnce platform offers)
    (offered : offers offer) (sized : ∀ file ∈ offer.files, (source file).length = file.size)
    (begins : LinkBegins host offers offer begun)
    (run : Run (linkStep host platform source) (LinkAttends platform offers offer) begun labels finish) :
    ∀ (index : Nat) (info : TransferInfo) (file : IncomingFile),
      finish.worker.infos[index]? = some info → info.status = .complete →
      offer.files[index]? = some file →
      ∃ path, path.directory = .received ∧ finish.receiver.disk.read path = some (source file) := by
  intro index info file found complete listed
  obtain ⟨path, received, _, read⟩ :=
    (begins.run lawful places once offered sized run).completed index info file found complete listed
  exact ⟨path, received, read⟩

end

/-! ## Two files over a connection that is lost -/

/-- Knows some texts beside the reference reader. -/
noncomputable def recallingReader (known : List Json)
    (formed : ∀ value ∈ known, value.WellFormed) : FileReader where
  utf8 := referenceReader.utf8
  parse text := match known.find? fun value =>
      encodeAscii (value.dumps quotientFloats) = encodeAscii text with
    | some value => .ok value
    | none => referenceReader.parse text
  intOf := referenceReader.intOf
  formed text value parsed := by
    split at parsed
    · next found =>
        cases parsed
        exact formed _ (List.mem_of_find?_eq_some found)
    · exact referenceReader.formed text value parsed
  failures text error parsed := by
    split at parsed
    · cases parsed
    · exact referenceReader.failures text error parsed

theorem recallingReader_reads (known : List Json) (formed : ∀ value ∈ known, value.WellFormed)
    {value : Json} (wellFormed : value.WellFormed) :
    (recallingReader known formed).read (encodeAscii (value.dumps quotientFloats)) = .ok value := by
  have reads := referenceReader_reads wellFormed
  simp only [FileReader.read, recallingReader, referenceReader, encodeAscii_octets] at reads ⊢
  split
  · next other found =>
      have same : encodeAscii (other.dumps quotientFloats) =
          encodeAscii (value.dumps quotientFloats) := by simpa using List.find?_some found
      have texts := encodeAscii_inj (Json.ascii_dumps quotientFloats _)
        (Json.ascii_dumps quotientFloats _) same
      have equal := Json.dumps_inj quotientFloats (formed _ (List.mem_of_find?_eq_some found))
        wellFormed texts
      exact congrArg Except.ok equal
  · exact reads

namespace StoreHost

/-- The metadata of a pair, where its first file may be at its final path. -/
def pairMetadata (finalPath : Option PyStr) : Json :=
  Json.sortKeys (metadata pairOffer.transferId
    ((Dict.empty.set firstFile.fileId (fileRecord firstFile finalPath)).set secondFile.fileId
      (fileRecord secondFile none)))

theorem pairMetadata_formed {finalPath : Option PyStr}
    (free : ∀ text, finalPath = some text → PairFree text) : (pairMetadata finalPath).WellFormed := by
  apply Json.wellFormed_sortKeys
  have first : (fileRecord firstFile finalPath).WellFormed :=
    wellFormed_fileRecord pairBatch.offerable (by decide : firstFile ∈ _) free
  have second : (fileRecord secondFile none).WellFormed :=
    wellFormed_fileRecord pairBatch.offerable (by decide : secondFile ∈ _) (by simp)
  have transfer : PairFree pairOffer.transferId := pairFree_lowerHex (by decide)
  simp [metadata, Dict.set, Dict.empty, putEntry, firstFile, secondFile, Json.WellFormed,
    Json.WellFormedFields, transfer] at first second ⊢
  exact ⟨first, second⟩

def pairTexts : List Json := [pairMetadata none, pairMetadata (some (py "/received/a.txt"))]

theorem pairTexts_formed : ∀ value ∈ pairTexts, value.WellFormed := by
  intro value member
  rcases List.mem_cons.mp member with rfl | member
  · exact pairMetadata_formed (by simp)
  · cases List.mem_singleton.mp member
    apply pairMetadata_formed
    intro text written
    cases written
    exact pairFree_py _

noncomputable def recallingHost : StoreHost :=
  { shelfHost with reader := recallingReader pairTexts pairTexts_formed }

theorem recallingHost_lawful : recallingHost.Lawful where
  reads _ formed := recallingReader_reads pairTexts pairTexts_formed formed
  renders := shelfHost_lawful.renders

/-- A worker that is about to register the pair, and a receiver that knows nothing of it. -/
def pairLink : TransferLink where
  worker := ⟨⟨asciiPlatform, py "192.0.2.7", none, pairOffer.transferId,
    pairOffer.files.map fun file => ⟨file.name, file.size, file.sha256⟩⟩, [], .register 0⟩
  wire := 0
  position := 0
  wires := []
  receiver := emptyReceiver

theorem pairLink_begins : LinkBegins recallingHost (· = pairOffer) pairOffer pairLink where
  registers := rfl
  unregistered := rfl
  announced := pairOffer_valid
  unconnected := rfl
  receiver := ⟨rfl, rfl, fun _ _ => ⟨fun _ => none, .bare (empty_bare _) (fun _ => rfl)
    fun _ _ => trivial⟩⟩
  bare := empty_bare _
  direct := empty_direct

def workerTold (answers : List Answer) : List LinkLabel :=
  answers.map fun answer => .sender ⟨0, answer⟩ false

/-- The session at a place reads a frame, or is told of something else. -/
def sessionReads (index : Nat) : LinkLabel := .deliver index 0

def sessionTold (index : Nat) (answer : ReceiveAnswer) : LinkLabel :=
  .receiver (.network index ⟨0, answer⟩) false

def sessionStores (index : Nat) : LinkLabel := .receiver (.storage index 0 (py "temp") none) false

/-- From the connection to the block of the first file, which resumes at an offset. -/
def pairConnects (index offset : Nat) : List LinkLabel :=
  workerTold [.done, .done, .done, .done, .done, .flag true, .flag false] ++
  .respond index true none (py "192.0.2.8") (py "mp-0000000a") ::
  workerTold [.control (.obj [(py "type", .str (py "transfer_response")),
    (py "transfer_id", .str pairOffer.transferId), (py "accepted", .bool true)]), .done] ++
  [sessionReads index, sessionStores index, sessionTold index .done] ++
  workerTold [.control (resumeState pairOffer fun _ => offset), .done, .done]

/-- The only chunk of a file. -/
def fileSent (index : Nat) : List LinkLabel :=
  workerTold [.flag false, .octets (List.replicate 32 0), .done, .done] ++
  [sessionReads index, sessionTold index .done, sessionStores index, sessionReads index,
    sessionReads index, sessionStores index, sessionTold index .done]

def fileCommitted (index : Nat) : List LinkLabel :=
  [sessionReads index] ++ List.replicate 6 (sessionStores index) ++
    [sessionTold index .done, sessionTold index .done]

def fileShown (file : IncomingFile) : Answer :=
  .control (fileResult pairOffer.transferId file.fileId true (py "name", .str file.name))

/-- The connection is lost behind the octets of the second file. The next session knows
the first file, finds the second whole, and comes to its end. -/
def pairLinked : List LinkLabel :=
  let lost := raised .osError "Connection reset by peer"
  workerTold [.peer none, .peer none, .flag false] ++ pairConnects 0 0 ++
  fileSent 0 ++ workerTold [.done] ++ fileCommitted 0 ++
  workerTold [fileShown firstFile, .done, .done] ++
  fileSent 0 ++ workerTold [.raised lost, .flag false, .flag false] ++
  [sessionTold 0 (.raised lost), sessionTold 0 .done] ++ pairConnects 1 32 ++ workerTold [.done] ++
  [sessionReads 1, sessionTold 1 .done, sessionReads 1, sessionTold 1 .done, sessionTold 1 .done] ++
  workerTold [fileShown firstFile, .done, .done, .done] ++
  [sessionReads 1, sessionTold 1 .done, sessionStores 1] ++ fileCommitted 1 ++
  workerTold [fileShown secondFile, .done] ++
  [sessionReads 1, sessionTold 1 .done, sessionStores 1] ++
  workerTold [.control (control "session_complete" pairOffer.transferId)]

/-- The condition on a label, computed for the pair. -/
def linkAttends (link : TransferLink) : LinkLabel → Bool
  | .sender _ _ | .deliver _ _ | .receiver (.network _ _) _ => true
  | .respond wire _ _ _ _ =>
      ((link.wires[wire]?).bind fun there => there.frames.receive?).all fun taken =>
        match taken.1 with
        | .control payload => (match validateOffer asciiPlatform payload with
            | .ok offer => offer = pairOffer
            | .error _ => true) &&
            link.receiver.sessions.all fun stored => match stored.session.phase with
              | .ended _ => true
              | _ => false
        | .octets _ => true
  | .receiver (.storage _ _ _ failure) _ => failure.isNone
  | .receiver _ _ => false

theorem linkAttends_sound (link : TransferLink) (label : LinkLabel)
    (attends : linkAttends link label = true) :
    LinkAttends asciiPlatform (· = pairOffer) pairOffer link label := by
  cases label with
  | sender event written => trivial
  | deliver wire now => trivial
  | respond wire accepted reason peerIp peerDeviceId =>
      intro _ there payload rest found taken offer valid
      simp only [linkAttends, found, Option.bind_some, taken, Option.all_some, valid,
        Bool.and_eq_true, decide_eq_true_eq, List.all_eq_true] at attends
      refine ⟨attends.1, fun stored member live => ?_⟩
      have ended := attends.2 stored member
      split at ended
      · next outcome standing => exact absurd standing (live outcome)
      · cases ended
  | receiver label written =>
      cases label with
      | network index event =>
          refine ⟨trivial, fun peerIp peerDeviceId payload same => ?_⟩
          cases same
      | storage index now temp failure =>
          refine ⟨fun stored block _ _ => ?_, fun peerIp peerDeviceId payload same => ?_⟩
          · exact Option.isNone_iff_eq_none.mp attends
          · cases same
      | accept | restart => cases attends

theorem pairLinked_executed : (runLabels (fun link label => if linkAttends link label then
    linkStep recallingHost asciiPlatform pairSource link label else none) pairLink pairLinked).any
      (fun link => link.worker.phase = .returned && link.wires.length = 2 &&
        link.worker.infos.map TransferInfo.status = [.complete, .complete]) = true := by
  decide +kernel

end StoreHost

open StoreHost in
/-- Both files arrive, and the worker returns from its second session. -/
theorem lost_pair_arrived : ∃ finish,
    Run (linkStep recallingHost asciiPlatform pairSource)
      (LinkAttends asciiPlatform (· = pairOffer) pairOffer) pairLink pairLinked finish ∧
    finish.worker.phase = .returned ∧ finish.wires.length = 2 ∧
    finish.worker.infos.map TransferInfo.status = [.complete, .complete] ∧
    ∀ file ∈ pairOffer.files, ∃ path, path.directory = .received ∧
      finish.receiver.disk.read path = some (pairSource file) := by
  obtain ⟨finish, executed, ended⟩ := (Option.any_eq_true _ _).mp pairLinked_executed
  simp only [Bool.and_eq_true, decide_eq_true_eq] at ended
  obtain ⟨⟨returned, wires⟩, statuses⟩ := ended
  have run := run_of_checked linkAttends_sound executed
  have arrived := complete_files_arrived recallingHost_lawful (shelfHost_places _) pair_once rfl
    pair_honest.sized pairLink_begins run
  refine ⟨finish, run, returned, wires, statuses, fun file member => ?_⟩
  obtain ⟨index, listed⟩ := List.getElem?_of_mem member
  have bound : index < 2 := (List.getElem?_eq_some_iff.mp listed).1
  have status : (finish.worker.infos.map TransferInfo.status)[index]? = some .complete := by
    have place : index = 0 ∨ index = 1 := by omega
    rw [statuses]
    cases place with
    | inl first => rw [first]; rfl
    | inr second => rw [second]; rfl
  obtain ⟨info, found, complete⟩ := Option.map_eq_some_iff.mp ((List.getElem?_map ..).symm.trans status)
  exact arrived index info file found complete listed

end DirectTransfer
