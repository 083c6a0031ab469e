import DirectTransfer.Core.RecordLifecycle
import DirectTransfer.Core.TransferLink

/-! The sender's side of a connection: its frames are those of its source files, and a
file is complete to it only on an answer of the receiver. -/

set_option autoImplicit false

namespace DirectTransfer

open Library

/-! ## What completes a record -/

/-- A record that is complete afterwards was complete before. -/
def CompleteBefore (old new : TransferInfo) : Prop := new.status = .complete → old.status = .complete

section

variable {infos middle next : List TransferInfo} {info : TransferInfo} {status : TransferStatus}
  {error : Option PyStr} {now : Time} {index : Nat}

theorem completeBefore_transition {moved : TransferInfo} (incomplete : status ≠ .complete)
    (stepped : transition info status error now = .ok moved) : CompleteBefore info moved := by
  obtain ⟨_, rfl⟩ := transition_cases stepped
  intro complete
  rw [TransferInfo.moved_status] at complete
  exact absurd complete incomplete

theorem completeBefore_all (infos : List TransferInfo) : List.Forall₂ CompleteBefore infos infos :=
  List.forall₂_same.mpr fun _ _ complete => complete

theorem completeBefore_set {new : TransferInfo}
    (before : ∀ old, infos[index]? = some old → CompleteBefore old new) :
    List.Forall₂ CompleteBefore infos (infos.set index new) := by
  induction infos generalizing index with
  | nil => exact .nil
  | cons head rest ih =>
      cases index with
      | zero => exact .cons (before head rfl) (completeBefore_all rest)
      | succ index => exact .cons id (ih fun old found => before old found)

theorem completeBefore_getElem (before : List.Forall₂ CompleteBefore infos next)
    {new : TransferInfo} (found : next[index]? = some new) (complete : new.status = .complete) :
    ∃ old, infos[index]? = some old ∧ old.status = .complete := by
  induction before generalizing index with
  | nil => cases found
  | cons head _ ih =>
      cases index with
      | zero =>
          cases found
          exact ⟨_, rfl, head complete⟩
      | succ index => exact ih found

theorem completeBefore_trans (first : List.Forall₂ CompleteBefore infos middle)
    (second : List.Forall₂ CompleteBefore middle next) :
    List.Forall₂ CompleteBefore infos next := by
  induction first generalizing next with
  | nil => exact second
  | cons head _ ih =>
      cases second with
      | cons here rest => exact .cons (fun complete => head (here complete)) (ih rest)

theorem settle_completeBefore (infos : List TransferInfo) (text : PyStr)
    (incomplete : status ≠ .complete) :
    List.Forall₂ CompleteBefore infos (settle infos status text now).1 := by
  induction infos with
  | nil => exact .nil
  | cons info rest ih =>
      unfold settle
      split
      · exact .cons id ih
      · split
        · exact completeBefore_all _
        · next moved => exact .cons (completeBefore_transition incomplete moved) ih

theorem resumeAll_completeBefore (infos : List TransferInfo) (attempt : Nat) :
    List.Forall₂ CompleteBefore infos (resumeAll infos attempt now).1 := by
  induction infos with
  | nil => exact .nil
  | cons info rest ih =>
      unfold resumeAll
      dsimp only
      split
      · exact .cons id ih
      · split
        · exact .cons id (completeBefore_all rest)
        · next moved =>
            have before : CompleteBefore { info with retryCount := attempt } _ :=
              completeBefore_transition (by decide) moved
            exact .cons before ih

theorem acceptPending_completeBefore (infos : List TransferInfo) :
    List.Forall₂ CompleteBefore infos (acceptPending infos now).1 := by
  induction infos with
  | nil => exact .nil
  | cons info rest ih =>
      unfold acceptPending
      split
      · split
        · exact completeBefore_all _
        · next moved => exact .cons (completeBefore_transition (by decide) moved) ih
      · exact .cons id ih

theorem countChunk_completeBefore (infos : List TransferInfo) (file : Nat) (raw : Bytes) :
    List.Forall₂ CompleteBefore infos (countChunk infos file raw) := by
  induction infos generalizing file with
  | nil => cases file <;> exact .nil
  | cons head rest ih =>
      cases file with
      | zero => exact .cons id (completeBefore_all rest)
      | succ file => exact .cons id (ih file)

/-- The assignments at the top of a file's block. -/
theorem beginFile_completeBefore (info : TransferInfo) (offset : Nat) :
    CompleteBefore info (beginFile info offset now).1 := by
  unfold beginFile
  dsimp only
  split
  · exact id
  · split
    · exact id
    · next moved begun =>
        have first := completeBefore_transition (by split <;> decide) begun
        split
        · split
          · exact first
          · next active => exact fun complete => first (completeBefore_transition (by decide) active complete)
        · exact first

theorem enterFile_completeBefore (infos : List TransferInfo) (payload : Payload) (file : Nat) :
    List.Forall₂ CompleteBefore infos (enterFile infos payload file now).1 := by
  unfold enterFile
  split
  · next info offered found _ =>
      split
      · exact completeBefore_all _
      · next offset _ =>
          refine completeBefore_set fun old there => ?_
          cases found.symm.trans there
          exact beginFile_completeBefore info offset
  · exact completeBefore_all _

end

/-- The answer by which the receiver confirms a file. -/
def Confirms (phase : SendPhase) (answer : Answer) (index : Nat) : Prop :=
  ∃ payload offered result, phase = .fileResult payload index ∧ answer = .control result ∧
    payload.offer.files[index]? = some offered ∧
    acknowledges payload.offer.transferId offered.fileId result = true

/-- The records that are complete afterwards were complete before or have been confirmed. -/
def Completes (confirmed : Nat → Prop) (infos next : List TransferInfo) : Prop :=
  ∀ index new, next[index]? = some new → new.status = .complete →
    confirmed index ∨ ∃ old, infos[index]? = some old ∧ old.status = .complete

section

variable {infos next : List TransferInfo} {confirmed : Nat → Prop} {sending : Sending}
  {phase : SendPhase} {progress : Progress} {now : Time}

theorem Completes.quiet (before : List.Forall₂ CompleteBefore infos next) :
    Completes confirmed infos next :=
  fun _ _ found complete => .inr (completeBefore_getElem before found complete)

theorem Completes.quietly {later : List TransferInfo} (completes : Completes confirmed infos next)
    (after : List.Forall₂ CompleteBefore next later) : Completes confirmed infos later := by
  intro index new found complete
  obtain ⟨middle, there, already⟩ := completeBefore_getElem after found complete
  exact completes index middle there already

theorem afterResult_completes (payload : Payload) (file : Nat) (result : Json) :
    Completes (Confirms (.fileResult payload file) (.control result)) infos
      (afterResult infos payload file result now).1 := by
  unfold afterResult
  split
  · next info offered found listed =>
      split
      · next acknowledged =>
          split
          · exact .quiet (completeBefore_all _)
          · next complete _ =>
              refine Completes.quietly ?_ (enterFile_completeBefore _ _ _)
              intro index new there whole
              by_cases here : index = file
              · subst here
                exact .inl ⟨payload, offered, result, rfl, rfl, listed, acknowledged⟩
              · rw [List.getElem?_set_ne (Ne.symm here)] at there
                exact .inr ⟨new, there, whole⟩
      · exact .quiet (completeBefore_all _)
  · exact .quiet (completeBefore_all _)

theorem afterResponse_completeBefore (response : Json) :
    List.Forall₂ CompleteBefore infos (afterResponse sending infos response now).1 := by
  unfold afterResponse
  split
  · exact completeBefore_all _
  · split <;> exact completeBefore_all _
  · exact acceptPending_completeBefore _

theorem sessionStep_completes {event : Event}
    (stepped : sessionStep sending infos phase event = some (next, progress)) :
    Completes (Confirms phase event.answer) infos next := by
  obtain ⟨now, answer⟩ := event
  by_cases raises : ∃ error, answer = .raised error
  · obtain ⟨error, rfl⟩ := raises
    obtain ⟨rfl, _⟩ := sessionStep_raised stepped
    exact .quiet (completeBefore_all _)
  cases phase with
  | transferResponse =>
      cases answer with
      | control response =>
          have before := @afterResponse_completeBefore infos sending now response
          rw [Option.some.inj stepped] at before
          exact .quiet before
      | raised error => exact absurd ⟨error, rfl⟩ raises
      | _ => cases stepped
  | resumeState offer =>
      cases answer with
      | control payload =>
          simp only [sessionStep] at stepped
          split at stepped
          · cases stepped
            exact .quiet (completeBefore_all _)
          · next offsets _ =>
              have before := @enterFile_completeBefore now infos ⟨offer, offsets⟩ 0
              rw [Option.some.inj stepped] at before
              exact .quiet before
      | raised error => exact absurd ⟨error, rfl⟩ raises
      | _ => cases stepped
  | openFile payload file =>
      cases answer with
      | done =>
          simp only [sessionStep] at stepped
          split at stepped
          · cases stepped
            exact .quiet (completeBefore_all _)
          · cases stepped
      | raised error => exact absurd ⟨error, rfl⟩ raises
      | _ => cases stepped
  | read payload file chunk =>
      cases answer with
      | octets raw =>
          simp only [sessionStep] at stepped
          split at stepped
          · cases stepped
          · split at stepped <;> cases stepped <;> exact .quiet (completeBefore_all _)
      | raised error => exact absurd ⟨error, rfl⟩ raises
      | _ => cases stepped
  | chunkData payload file chunk raw =>
      cases answer with
      | done =>
          cases stepped
          exact .quiet (countChunk_completeBefore _ _ _)
      | raised error => exact absurd ⟨error, rfl⟩ raises
      | _ => cases stepped
  | fileResult payload file =>
      cases answer with
      | control result =>
          have completes := @afterResult_completes infos now payload file result
          rw [Option.some.inj stepped] at completes
          exact completes
      | raised error => exact absurd ⟨error, rfl⟩ raises
      | _ => cases stepped
  | sessionComplete offer =>
      cases answer with
      | control result =>
          simp only [sessionStep] at stepped
          split at stepped <;> cases stepped <;> exact .quiet (completeBefore_all _)
      | raised error => exact absurd ⟨error, rfl⟩ raises
      | _ => cases stepped
  | approvalDeadline =>
      cases answer with
      | flag value => cases value <;> cases stepped <;> exact .quiet (completeBefore_all _)
      | raised error => exact absurd ⟨error, rfl⟩ raises
      | _ => cases stepped
  | _ =>
      cases answer with
      | raised error => exact absurd ⟨error, rfl⟩ raises
      | _ => cases stepped <;> exact .quiet (completeBefore_all _)

end

/-- The confirmation a worker's step takes. -/
def WorkerConfirms (worker : BatchWorker) (event : Event) (index : Nat) : Prop :=
  ∃ attempt phase, worker.phase = .session attempt phase ∧ Confirms phase event.answer index

theorem afterSession_completeBefore {worker : BatchWorker} {attempt : Nat}
    {infos : List TransferInfo} {outcome : Except Raised Unit} {now : Time} :
    List.Forall₂ CompleteBefore infos (worker.afterSession attempt infos outcome now).infos := by
  have settled (status : TransferStatus) (text : PyStr) (phase : WorkerPhase)
      (incomplete : status ≠ .complete) : List.Forall₂ CompleteBefore infos
        (worker.proceed (settle infos status text now) phase).infos :=
    settle_completeBefore infos text incomplete
  cases outcome with
  | ok => exact completeBefore_all _
  | error error =>
      obtain ⟨kind, message⟩ := error
      cases kind with
      | osError | timeoutError =>
          by_cases last : attempt = maxRetries
          · simp only [BatchWorker.afterSession, last, ↓reduceIte]
            exact settled .failed _ .returned (by decide)
          · simp only [BatchWorker.afterSession, if_neg last]
            exact settled .interrupted _ (.cancelled (attempt + 1)) (by decide)
      | transferRejected => exact settled .rejected _ .returned (by decide)
      | approvalTimeout | authenticationError | protocolError | invalidTag =>
          exact settled .failed _ .returned (by decide)
      | transferCancelled => exact settled .cancelled _ .returned (by decide)
      | valueError | endpointError | invalidTransferTransition | keyError | typeError | structError
      | jsonDecodeError | unicodeDecodeError | recursionError | overflowError =>
          exact completeBefore_all _

/-- Nothing but the receiver's word completes a record of the sender. -/
theorem workerStep_completes {worker next : BatchWorker} {event : Event}
    (stepped : workerStep worker event = some next) :
    Completes (WorkerConfirms worker event) worker.infos next.infos := by
  obtain ⟨sending, infos, phase⟩ := worker
  obtain ⟨now, answer⟩ := event
  cases phase with
  | isFile pending valid =>
      cases pending with
      | nil => cases answer <;> cases stepped
      | cons path pending =>
          cases answer with
          | flag isFile =>
              cases stepped
              exact .quiet (completeBefore_all _)
          | _ => cases stepped
  | stat pending =>
      cases pending with
      | nil =>
          cases answer with
          | raised error =>
              cases stepped
              exact .quiet (completeBefore_all _)
          | _ => cases stepped
      | cons path pending =>
          cases answer with
          | size size =>
              cases stepped
              exact .quiet (completeBefore_all _)
          | raised error =>
              cases stepped
              exact .quiet (completeBefore_all _)
          | _ => cases stepped
  | hash path size pending =>
      cases answer with
      | text digest =>
          cases stepped
          exact .quiet (completeBefore_all _)
      | raised error =>
          cases stepped
          exact .quiet (completeBefore_all _)
      | _ => cases stepped
  | register index =>
      cases answer with
      | peer peerDeviceId =>
          simp only [workerStep, Option.map_eq_some_iff] at stepped
          obtain ⟨source, _, rfl⟩ := stepped
          intro place new found complete
          dsimp only at found
          rw [List.getElem?_append] at found
          split at found
          · exact .inr ⟨new, found, complete⟩
          · cases List.mem_singleton.mp (List.mem_of_getElem? found)
            cases complete
      | _ => cases stepped
  | cancelled attempt =>
      cases answer with
      | flag cancelled =>
          cases cancelled with
          | true =>
              cases stepped
              exact .quiet (settle_completeBefore _ _ (by decide))
          | false =>
              cases stepped
              exact .quiet (completeBefore_all _)
      | _ => cases stepped
  | backoff attempt =>
      cases answer with
      | flag cancelled =>
          cases cancelled with
          | true =>
              cases stepped
              exact .quiet (settle_completeBefore _ _ (by decide))
          | false =>
              cases stepped
              exact .quiet (resumeAll_completeBefore _ _)
      | _ => cases stepped
  | session attempt phase =>
      simp only [workerStep, Option.map_eq_some_iff] at stepped
      obtain ⟨⟨after, progress⟩, advanced, rfl⟩ := stepped
      have completes : Completes (WorkerConfirms ⟨sending, infos, .session attempt phase⟩
          ⟨now, answer⟩) infos after := by
        intro index new found complete
        cases sessionStep_completes advanced index new found complete with
        | inl confirmed => exact .inl ⟨attempt, phase, rfl, confirmed⟩
        | inr before => exact .inr before
      cases progress with
      | stands phase => exact completes
      | ended outcome => exact completes.quietly afterSession_completeBefore
  | returned | escaped => cases answer <;> cases stepped

/-! ## What is sent -/

/-- A data frame follows the header that describes it, and is what the source has there. -/
def HeaderFirst (offer : TransferOffer) (source : IncomingFile → Bytes) (before after : WireFrame) :
    Prop :=
  ∀ raw, after = .octets raw → ∃ file ∈ offer.files, ∃ chunk offset,
    before = .control (chunkHeader offer.transferId file.fileId chunk offset raw.length) ∧
      raw = ((source file).drop offset).take raw.length

/-- Whether a session has a connection at a phase. -/
def SendPhase.connected : SendPhase → Bool
  | .assertPeerProtocol | .connect => false
  | _ => true

/-- The frame the worker has sent last on its connection. -/
def TransferLink.lastSent (link : TransferLink) : Option WireFrame :=
  (link.wires[link.wire]?).bind fun wire => wire.frames.history.getLast?

/-- What a session has read of its source and sent of it. -/
def Streams (offer : TransferOffer) (source : IncomingFile → Bytes) (infos : List TransferInfo)
    (position : Nat) (last : Option WireFrame) : SendPhase → Prop
  | .resumeQuery other | .resumeState other => other = offer
  | .fileStart payload file | .openFile payload file => payload.offer = offer ∧
      ∀ info, infos[file]? = some info → info.bytesTransferred = info.resumeOffset
  | .chunkCancelled payload file _ | .read payload file _ => payload.offer = offer ∧
      ∃ info, infos[file]? = some info ∧ info.bytesTransferred = position
  | .chunkHeader payload file _ raw => payload.offer = offer ∧
      ∃ info offered, infos[file]? = some info ∧ offer.files[file]? = some offered ∧
        position = info.bytesTransferred + raw.length ∧
        raw = ((source offered).drop info.bytesTransferred).take raw.length
  | .chunkData payload file chunk raw => payload.offer = offer ∧
      ∃ info offered, infos[file]? = some info ∧ offer.files[file]? = some offered ∧
        position = info.bytesTransferred + raw.length ∧
        raw = ((source offered).drop info.bytesTransferred).take raw.length ∧
        last = some (.control
          (chunkHeader offer.transferId offered.fileId chunk info.bytesTransferred raw.length))
  | .fileEnd payload _ | .fileResult payload _ => payload.offer = offer
  | _ => True

/-- A session of the worker and its connection. -/
structure Outgoing (offer : TransferOffer) (source : IncomingFile → Bytes) (link : TransferLink)
    (phase : SendPhase) : Prop where
  connected : phase.connected = true → link.wire < link.wires.length
  streams : Streams offer source link.worker.infos link.position link.lastSent phase

/-- A connection to which the sender has added what it may. -/
structure Wire.Extends (offer : TransferOffer) (source : IncomingFile → Bytes) (old new : Wire) :
    Prop where
  receiver : new.receiver = old.receiver
  arrived : new.frames.arrived = old.frames.arrived
  answers : new.answers.history = old.answers.history
  chain : old.frames.history.IsChain (HeaderFirst offer source) →
    new.frames.history.IsChain (HeaderFirst offer source)

/-- The connections after a step of the sender. -/
structure Extended (offer : TransferOffer) (source : IncomingFile → Bytes) (wires next : List Wire) :
    Prop where
  kept : ∀ (place : Nat) (old : Wire), wires[place]? = some old →
    ∃ new, next[place]? = some new ∧ old.Extends offer source new
  known : ∀ (place : Nat) (new : Wire), next[place]? = some new →
    new = .fresh ∨ ∃ old, wires[place]? = some old ∧ old.Extends offer source new

section

variable {offer : TransferOffer} {source : IncomingFile → Bytes} {link called : TransferLink}
  {wires : List Wire} {phase next : SendPhase} {answer : Answer} {written : Bool}
  {frame : WireFrame}

theorem Wire.Extends.refl (wire : Wire) : wire.Extends offer source wire := ⟨rfl, rfl, rfl, id⟩

theorem Extended.refl : Extended offer source wires wires :=
  ⟨fun _ old found => ⟨old, found, .refl old⟩, fun _ new found => .inr ⟨new, found, .refl new⟩⟩

theorem Extended.fresh : Extended offer source wires (wires ++ [.fresh]) := by
  constructor
  · intro place old found
    refine ⟨old, ?_, .refl old⟩
    rw [List.getElem?_append_left (List.getElem?_eq_some_iff.mp found).1]
    exact found
  · intro place new found
    rw [List.getElem?_append] at found
    split at found
    · exact .inr ⟨new, found, .refl new⟩
    · exact .inl (List.mem_singleton.mp (List.mem_of_getElem? found))

/-- One connection changes. -/
theorem Extended.set {place : Nat} {old new : Wire} (found : wires[place]? = some old)
    (extends' : old.Extends offer source new) : Extended offer source wires (wires.set place new) := by
  have bound := (List.getElem?_eq_some_iff.mp found).1
  constructor
  · intro other wire there
    by_cases here : place = other
    · subst here
      cases found.symm.trans there
      exact ⟨new, List.getElem?_set_self bound, extends'⟩
    · refine ⟨wire, ?_, .refl wire⟩
      rw [List.getElem?_set_ne here]
      exact there
  · intro other wire there
    by_cases here : place = other
    · subst here
      rw [List.getElem?_set_self bound] at there
      cases there
      exact .inr ⟨old, found, extends'⟩
    · rw [List.getElem?_set_ne here] at there
      exact .inr ⟨wire, there, .refl wire⟩

/-- What a session sends follows what it has sent. -/
theorem Outgoing.headerFirst (outgoing : Outgoing offer source link phase)
    (sends : phase.wireFrame link.worker.sending link.worker.infos = some frame) :
    ∀ last, link.lastSent = some last → HeaderFirst offer source last frame := by
  intro last sent raw data
  cases phase with
  | chunkData payload file chunk octets =>
      cases sends
      cases data
      obtain ⟨_, info, offered, _, listed, _, slice, header⟩ := outgoing.streams
      cases sent.symm.trans header
      exact ⟨offered, List.mem_of_getElem? listed, chunk, info.bytesTransferred, rfl, slice⟩
  | _ =>
      simp only [SendPhase.wireFrame, Option.map_eq_some_iff] at sends
      obtain ⟨payload, _, rfl⟩ := sends
      cases data

theorem Outgoing.sends (outgoing : Outgoing offer source link phase) :
    Extended offer source link.wires (link.send phase).wires := by
  unfold TransferLink.send
  cases sends : phase.wireFrame link.worker.sending link.worker.infos with
  | none => exact .refl
  | some frame =>
      dsimp only
      cases found : link.wires[link.wire]? with
      | none =>
          rw [List.modify_eq_self (List.getElem?_eq_none_iff.mp found)]
          exact .refl
      | some wire =>
          rw [List.modify_eq_set_getElem? , found]
          refine .set found ⟨rfl, rfl, rfl, fun chain => Channel.chain_send chain fun last sent => ?_⟩
          exact outgoing.headerFirst sends last (by simp [TransferLink.lastSent, found, sent])

theorem send_wire : (link.send phase).wire = link.wire := by
  unfold TransferLink.send
  split <;> rfl

theorem send_length : (link.send phase).wires.length = link.wires.length := by
  unfold TransferLink.send
  split
  · exact List.length_modify _ _ _
  · rfl

theorem send_lastSent (there : link.wire < link.wires.length)
    (sends : phase.wireFrame link.worker.sending link.worker.infos = some frame) :
    (link.send phase).lastSent = some frame := by
  simp [TransferLink.send, sends, TransferLink.lastSent, Wire.send, there]

/-! ### One step -/

theorem hear_cases {payload : Json} (heard : link.hear payload = some called) :
    ∃ wire answers, link.wires[link.wire]? = some wire ∧
      wire.answers.receive? = some (payload, answers) ∧
      called = { link with wires := link.wires.set link.wire { wire with answers } } := by
  simp only [TransferLink.hear, Option.bind_eq_bind, Option.bind_eq_some_iff] at heard
  obtain ⟨wire, found, ⟨answer, answers⟩, taken, rest⟩ := heard
  dsimp only at rest
  split at rest
  · next same =>
      cases rest
      exact ⟨wire, answers, found, same ▸ taken, rfl⟩
  · cases rest

/-- What a call leaves of the link: the worker and the receiver as they were, and the
connections with what the sender may have added. -/
structure CallLeaves (offer : TransferOffer) (source : IncomingFile → Bytes)
    (link called : TransferLink) (phase : SendPhase) (answer : Answer) : Prop where
  worker : called.worker = link.worker
  receiver : called.receiver = link.receiver
  wires : Extended offer source link.wires called.wires
  connected : phase.connected = true → called.wire < called.wires.length
  joined : phase = .connect → answer = .done → called.wire < called.wires.length

theorem Outgoing.call (outgoing : Outgoing offer source link phase)
    (stepped : link.call source phase answer written = some called) :
    CallLeaves offer source link called phase answer := by
  have still (joined : phase = .connect → answer = .done → False) :
      CallLeaves offer source link link phase answer :=
    ⟨rfl, rfl, .refl, outgoing.connected, fun here done => (joined here done).elim⟩
  have sent (joined : phase = .connect → answer = .done → False) :
      CallLeaves offer source link (link.send phase) phase answer := by
    refine ⟨?_, ?_, outgoing.sends, fun connected => ?_, fun here done => (joined here done).elim⟩
    · unfold TransferLink.send
      split <;> rfl
    · unfold TransferLink.send
      split <;> rfl
    · rw [send_wire, send_length]
      exact outgoing.connected connected
  unfold TransferLink.call at stepped
  split at stepped
  · cases stepped
    refine ⟨rfl, rfl, .fresh, fun connected => (by cases connected), fun _ _ => ?_⟩
    dsimp only
    rw [List.length_append, List.length_singleton]
    exact Nat.lt_succ_self _
  · simp only [Option.bind_eq_bind, Option.bind_eq_some_iff, Option.pure_def] at stepped
    obtain ⟨info, _, same⟩ := stepped
    cases same
    exact ⟨rfl, rfl, .refl, outgoing.connected, fun here => by cases here⟩
  · simp only [Option.bind_eq_bind, Option.bind_eq_some_iff, Option.pure_def] at stepped
    obtain ⟨offered, _, same⟩ := stepped
    split at same
    · cases same
      exact ⟨rfl, rfl, .refl, outgoing.connected, fun here => by cases here⟩
    · cases same
  · obtain ⟨wire, answers, found, taken, rfl⟩ := hear_cases stepped
    refine ⟨rfl, rfl, .set found ⟨rfl, rfl, Channel.history_receive taken, id⟩, fun _ => ?_,
      fun _ done => by cases done⟩
    dsimp only
    rw [List.length_set]
    exact (List.getElem?_eq_some_iff.mp found).1
  · split at stepped
    · cases stepped
      exact sent fun _ done => by cases done
    · cases stepped
      exact still fun _ done => by cases done
  · next elsewhere _ =>
      cases stepped
      exact sent fun here _ => elsewhere here
  · next elsewhere _ _ _ _ _ =>
      cases stepped
      exact still fun here done => by contradiction

/-- A session comes to its connection by one call only. -/
theorem sessionStep_joins {sending : Sending} {infos after : List TransferInfo} {event : Event}
    (stepped : sessionStep sending infos phase event = some (after, .stands next))
    (connected : next.connected = true) :
    phase.connected = true ∨ phase = .connect ∧ event.answer = .done := by
  obtain ⟨now, answer⟩ := event
  cases phase with
  | assertPeerProtocol =>
      cases answer with
      | done =>
          cases stepped
          cases connected
      | raised error =>
          obtain ⟨_, _, landed⟩ := sessionStep_raised stepped
          simp at landed
      | _ => cases stepped
  | connect =>
      cases answer with
      | done => exact .inr ⟨rfl, rfl⟩
      | raised error =>
          obtain ⟨_, _, landed⟩ := sessionStep_raised stepped
          simp at landed
      | _ => cases stepped
  | _ => exact .inl rfl

theorem beginFile_counted (info : TransferInfo) (offset : Nat) (now : Time) :
    (beginFile info offset now).1.bytesTransferred = (beginFile info offset now).1.resumeOffset := by
  unfold beginFile
  dsimp only
  split
  · rfl
  · split
    · rfl
    · next moved begun =>
        have same : moved.bytesTransferred = moved.resumeOffset := by
          obtain ⟨_, rfl⟩ := transition_cases begun
          simp
        split
        · split
          · exact same
          · next active again =>
              obtain ⟨_, rfl⟩ := transition_cases again
              simpa using same
        · exact same

theorem enterFile_streams {infos after : List TransferInfo} {payload : Payload} {file : Nat}
    {now : Time} {position : Nat} {last : Option WireFrame} (own : payload.offer = offer)
    (entered : enterFile infos payload file now = (after, .stands next)) :
    Streams offer source after position last next := by
  unfold enterFile at entered
  split at entered
  · next info offered found listed =>
      split at entered
      · cases entered
      · next offset known =>
          dsimp only at entered
          obtain ⟨placed, progress⟩ := Prod.mk.inj entered
          split at progress
          · cases progress
          · cases progress
            refine ⟨own, fun begun there => ?_⟩
            rw [← placed, List.getElem?_set_self (List.getElem?_eq_some_iff.mp found).1] at there
            cases there
            exact beginFile_counted info offset now
  · cases entered
    trivial

theorem chunkLoop_streams {sending : Sending} {infos : List TransferInfo} {payload : Payload}
    {file chunk position : Nat} {last : Option WireFrame} (own : payload.offer = offer)
    (counted : ∀ info, infos[file]? = some info → info.bytesTransferred = position)
    (looped : chunkLoop sending infos payload file chunk = .stands next) :
    Streams offer source infos position last next := by
  unfold chunkLoop at looped
  split at looped
  · next info _ found _ =>
      split at looped
      · cases looped
        exact ⟨own, info, found, counted info found⟩
      · cases looped
        exact own
  · cases looped
    exact own

/-- A call of a session that goes on. -/
theorem Outgoing.stream {event : Event} {infos : List TransferInfo}
    (outgoing : Outgoing offer source link phase)
    (announced : ∀ other, validateOffer link.worker.sending.platform link.worker.sending.offerFrame =
      .ok other → other = offer)
    (called' : link.call source phase event.answer written = some called)
    (stepped : sessionStep link.worker.sending link.worker.infos phase event =
      some (infos, .stands next)) :
    Streams offer source infos called.position called.lastSent next := by
  obtain ⟨now, answer⟩ := event
  by_cases raises : ∃ error, answer = .raised error
  · obtain ⟨error, rfl⟩ := raises
    obtain ⟨_, _, landed⟩ := sessionStep_raised stepped
    cases landed with
    | inl late =>
        cases late.2.2
        trivial
    | inr ends => cases ends
  have streams := outgoing.streams
  cases phase with
  | assertPeerProtocol | connect | resolveTrustedPeer | clientHandshake | transferOffer | fin =>
      cases answer with
      | done =>
          cases stepped
          trivial
      | raised error => exact absurd ⟨error, rfl⟩ raises
      | _ => cases stepped
  | approvalDeadline | approvalCancelled =>
      cases answer with
      | flag value =>
          cases value <;> cases stepped <;> trivial
      | raised error => exact absurd ⟨error, rfl⟩ raises
      | _ => cases stepped
  | approvalCancel | chunkCancel =>
      cases answer with
      | raised error => exact absurd ⟨error, rfl⟩ raises
      | _ => cases stepped
  | transferResponse =>
      cases answer with
      | control response =>
          have answered := Option.some.inj stepped
          unfold afterResponse at answered
          split at answered
          · cases answered
          · split at answered <;> cases answered
          · obtain ⟨_, progress⟩ := Prod.mk.inj answered
            split at progress
            · cases progress
            · split at progress
              · cases progress
              · next valid =>
                  cases progress
                  exact announced _ valid
      | raised error => exact absurd ⟨error, rfl⟩ raises
      | _ => cases stepped
  | resumeQuery other =>
      cases answer with
      | done =>
          cases stepped
          exact streams
      | raised error => exact absurd ⟨error, rfl⟩ raises
      | _ => cases stepped
  | resumeState other =>
      cases answer with
      | control payload =>
          simp only [sessionStep] at stepped
          split at stepped
          · cases stepped
          · next offsets _ =>
              have own : (Payload.mk other offsets).offer = offer := streams
              exact enterFile_streams own (Option.some.inj stepped)
      | raised error => exact absurd ⟨error, rfl⟩ raises
      | _ => cases stepped
  | fileStart payload file =>
      cases answer with
      | done =>
          cases stepped
          exact streams
      | raised error => exact absurd ⟨error, rfl⟩ raises
      | _ => cases stepped
  | openFile payload file =>
      cases answer with
      | done =>
          simp only [sessionStep] at stepped
          split at stepped
          · next info found =>
              simp only [TransferLink.call, found, Option.bind_eq_bind, Option.bind_some,
                Option.pure_def, Option.some.injEq] at called'
              subst called'
              obtain ⟨same, progress⟩ := Prod.mk.inj (Option.some.inj stepped)
              subst same
              refine chunkLoop_streams streams.1 (fun other there => ?_) progress
              cases found.symm.trans there
              exact streams.2 info found
          · cases stepped
      | raised error => exact absurd ⟨error, rfl⟩ raises
      | _ => cases stepped
  | chunkCancelled payload file chunk =>
      cases answer with
      | flag cancelled =>
          cases called'
          cases cancelled with
          | true =>
              cases stepped
              trivial
          | false =>
              cases stepped
              exact streams
      | raised error => exact absurd ⟨error, rfl⟩ raises
      | _ => cases stepped
  | read payload file chunk =>
      cases answer with
      | octets raw =>
          obtain ⟨own, info, found, counted⟩ := streams
          simp only [TransferLink.call, Option.bind_eq_bind, Option.bind_eq_some_iff] at called'
          obtain ⟨offered, listed, rest⟩ := called'
          split at rest
          · next slice =>
              cases rest
              simp only [sessionStep] at stepped
              split at stepped
              · cases stepped
              · split at stepped
                · cases stepped
                · cases stepped
                  refine ⟨own, info, offered, found, own ▸ listed, ?_, ?_⟩
                  · rw [counted]
                  · rw [counted]
                    exact slice
          · cases rest
      | raised error => exact absurd ⟨error, rfl⟩ raises
      | _ => cases stepped
  | chunkHeader payload file chunk raw =>
      cases answer with
      | done =>
          cases stepped
          cases called'
          obtain ⟨own, info, offered, found, listed, place, slice⟩ := streams
          have sends : (SendPhase.chunkHeader payload file chunk raw).wireFrame link.worker.sending
              link.worker.infos = some (.control (chunkHeader offer.transferId offered.fileId chunk
                info.bytesTransferred raw.length)) := by
            simp [SendPhase.wireFrame, SendPhase.frame, found, own, listed]
          refine ⟨own, info, offered, found, listed, ?_, slice,
            send_lastSent (outgoing.connected rfl) sends⟩
          simp only [TransferLink.send, sends]
          exact place
      | raised error => exact absurd ⟨error, rfl⟩ raises
      | _ => cases stepped
  | chunkData payload file chunk raw =>
      cases answer with
      | done =>
          obtain ⟨own, info, offered, found, _, place, _⟩ := streams
          cases called'
          obtain ⟨same, progress⟩ := Prod.mk.inj (Option.some.inj stepped)
          subst same
          refine chunkLoop_streams own (fun other there => ?_) progress
          rw [countChunk, List.getElem?_modify_eq, found] at there
          cases there
          exact place.symm
      | raised error => exact absurd ⟨error, rfl⟩ raises
      | _ => cases stepped
  | fileEnd payload file =>
      cases answer with
      | done =>
          cases stepped
          exact streams
      | raised error => exact absurd ⟨error, rfl⟩ raises
      | _ => cases stepped
  | fileResult payload file =>
      cases answer with
      | control result =>
          have answered := Option.some.inj stepped
          unfold afterResult at answered
          split at answered
          · split at answered
            · split at answered
              · cases answered
              · exact enterFile_streams streams answered
            · cases answered
          · cases answered
            trivial
      | raised error => exact absurd ⟨error, rfl⟩ raises
      | _ => cases stepped
  | sessionComplete other =>
      cases answer with
      | control result =>
          simp only [sessionStep] at stepped
          split at stepped <;> cases stepped
      | raised error => exact absurd ⟨error, rfl⟩ raises
      | _ => cases stepped

end

/-! ## The steps of a worker -/

/-- Whether a worker has read its files. -/
def WorkerPhase.prepared : WorkerPhase → Bool
  | .isFile _ _ | .stat _ | .hash _ _ _ => false
  | _ => true

section

variable {worker next : BatchWorker} {event : Event}

theorem afterSession_sending (attempt : Nat) (infos : List TransferInfo)
    (outcome : Except Raised Unit) (now : Time) :
    (worker.afterSession attempt infos outcome now).sending = worker.sending := by
  cases outcome with
  | ok => rfl
  | error error =>
      unfold BatchWorker.afterSession
      dsimp only
      split <;> first
        | rfl
        | split <;> rfl

/-- What a batch announces does not change once its files are read. -/
theorem workerStep_prepared (prepared : worker.phase.prepared = true)
    (stepped : workerStep worker event = some next) :
    next.phase.prepared = true ∧ next.sending = worker.sending := by
  have proceeds (changed : List TransferInfo × Option Raised) {phase : WorkerPhase}
      (onward : phase.prepared = true) : (worker.proceed changed phase).phase.prepared = true := by
    cases proceed_phase worker changed phase with
    | inl same =>
        rw [same]
        exact onward
    | inr escaped =>
        obtain ⟨error, escaped⟩ := escaped
        rw [escaped]
        rfl
  obtain ⟨now, answer⟩ := event
  cases standing : worker.phase with
  | isFile | stat | hash => simp [WorkerPhase.prepared, standing] at prepared
  | register index =>
      cases answer with
      | peer peerDeviceId =>
          simp only [workerStep, standing, Option.map_eq_some_iff] at stepped
          obtain ⟨source, _, rfl⟩ := stepped
          refine ⟨?_, rfl⟩
          dsimp only
          split <;> rfl
      | _ => simp [workerStep, standing] at stepped
  | cancelled attempt =>
      cases answer with
      | flag cancelled =>
          cases cancelled with
          | true =>
              simp only [workerStep, standing, ↓reduceIte, Option.some.injEq] at stepped
              subst stepped
              exact ⟨proceeds _ rfl, rfl⟩
          | false =>
              simp only [workerStep, standing, Bool.false_eq_true, ↓reduceIte,
                Option.some.injEq] at stepped
              subst stepped
              refine ⟨?_, rfl⟩
              dsimp only
              split <;> rfl
      | _ => simp [workerStep, standing] at stepped
  | backoff attempt =>
      cases answer with
      | flag cancelled =>
          cases cancelled with
          | true =>
              simp only [workerStep, standing, ↓reduceIte, Option.some.injEq] at stepped
              subst stepped
              exact ⟨proceeds _ rfl, rfl⟩
          | false =>
              simp only [workerStep, standing, Bool.false_eq_true, ↓reduceIte,
                Option.some.injEq] at stepped
              subst stepped
              exact ⟨proceeds _ rfl, rfl⟩
      | _ => simp [workerStep, standing] at stepped
  | session attempt phase =>
      simp only [workerStep, standing, Option.map_eq_some_iff] at stepped
      obtain ⟨⟨infos, progress⟩, _, rfl⟩ := stepped
      cases progress with
      | stands phase => exact ⟨rfl, rfl⟩
      | ended outcome =>
          refine ⟨?_, afterSession_sending _ _ _ _⟩
          dsimp only
          cases afterSession_phase worker attempt infos outcome now with
          | inl ends =>
              cases ends with
              | inl returned =>
                  rw [returned]
                  rfl
              | inr escaped =>
                  obtain ⟨error, escaped⟩ := escaped
                  rw [escaped]
                  rfl
          | inr again =>
              rw [again.2]
              rfl
  | returned | escaped => cases answer <;> simp [workerStep, standing] at stepped

theorem afterChecks_elsewhere {attempt : Nat} {phase : SendPhase} (pending valid : List PyStr) :
    afterChecks pending valid ≠ .session attempt phase := by
  unfold afterChecks
  split
  · split <;> simp
  · simp

/-- A session begins without a connection, or goes on by a call of its own. -/
theorem workerStep_session {attempt : Nat} {phase : SendPhase}
    (stepped : workerStep worker event = some next) (standing : next.phase = .session attempt phase) :
    phase = .assertPeerProtocol ∨ ∃ before infos, worker.phase = .session attempt before ∧
      sessionStep worker.sending worker.infos before event = some (infos, .stands phase) ∧
      next = { worker with infos, phase := .session attempt phase } := by
  have proceeds {changed : List TransferInfo × Option Raised} {aim : WorkerPhase}
      (here : (worker.proceed changed aim).phase = .session attempt phase) :
      aim = .session attempt phase := by
    cases proceed_phase worker changed aim with
    | inl same => exact same.symm.trans here
    | inr escaped =>
        obtain ⟨error, escaped⟩ := escaped
        cases escaped.symm.trans here
  obtain ⟨now, answer⟩ := event
  cases before : worker.phase with
  | isFile pending valid =>
      cases pending with
      | nil => cases answer <;> simp [workerStep, before] at stepped
      | cons path pending =>
          cases answer with
          | flag isFile =>
              simp only [workerStep, before, Option.some.injEq] at stepped
              subst stepped
              exact absurd standing (afterChecks_elsewhere _ _)
          | _ => simp [workerStep, before] at stepped
  | stat pending =>
      cases pending with
      | nil =>
          cases answer with
          | raised error =>
              simp only [workerStep, before, Option.some.injEq] at stepped
              subst stepped
              cases standing
          | _ => simp [workerStep, before] at stepped
      | cons path pending =>
          cases answer with
          | size size =>
              simp only [workerStep, before, Option.some.injEq] at stepped
              subst stepped
              dsimp only at standing
              split at standing <;> cases standing
          | raised error =>
              simp only [workerStep, before, Option.some.injEq] at stepped
              subst stepped
              cases standing
          | _ => simp [workerStep, before] at stepped
  | hash path size pending =>
      cases answer with
      | text digest =>
          simp only [workerStep, before, Option.some.injEq] at stepped
          subst stepped
          dsimp only at standing
          split at standing
          · split at standing <;> cases standing
          · cases standing
      | raised error =>
          simp only [workerStep, before, Option.some.injEq] at stepped
          subst stepped
          cases standing
      | _ => simp [workerStep, before] at stepped
  | register index =>
      cases answer with
      | peer peerDeviceId =>
          simp only [workerStep, before, Option.map_eq_some_iff] at stepped
          obtain ⟨source, _, rfl⟩ := stepped
          dsimp only at standing
          split at standing <;> cases standing
      | _ => simp [workerStep, before] at stepped
  | cancelled attempt' =>
      cases answer with
      | flag cancelled =>
          cases cancelled with
          | true =>
              simp only [workerStep, before, ↓reduceIte, Option.some.injEq] at stepped
              subst stepped
              cases proceeds standing
          | false =>
              simp only [workerStep, before, Bool.false_eq_true, ↓reduceIte,
                Option.some.injEq] at stepped
              subst stepped
              dsimp only at standing
              split at standing
              · cases standing
                exact .inl rfl
              · cases standing
      | _ => simp [workerStep, before] at stepped
  | backoff attempt' =>
      cases answer with
      | flag cancelled =>
          cases cancelled with
          | true =>
              simp only [workerStep, before, ↓reduceIte, Option.some.injEq] at stepped
              subst stepped
              cases proceeds standing
          | false =>
              simp only [workerStep, before, Bool.false_eq_true, ↓reduceIte,
                Option.some.injEq] at stepped
              subst stepped
              cases proceeds standing
              exact .inl rfl
      | _ => simp [workerStep, before] at stepped
  | session attempt' phase' =>
      simp only [workerStep, before, Option.map_eq_some_iff] at stepped
      obtain ⟨⟨infos, progress⟩, advanced, rfl⟩ := stepped
      cases progress with
      | stands onward =>
          cases standing
          exact .inr ⟨phase', infos, rfl, advanced, rfl⟩
      | ended outcome =>
          dsimp only at standing
          cases afterSession_phase worker attempt' infos outcome now with
          | inl ends =>
              cases ends with
              | inl returned => cases returned.symm.trans standing
              | inr escaped =>
                  obtain ⟨error, escaped⟩ := escaped
                  cases escaped.symm.trans standing
          | inr again => cases again.2.symm.trans standing
  | returned | escaped => cases answer <;> simp [workerStep, before] at stepped

end

/-! ## The sender's end of a link -/

/-- A confirmation of a file of the offer that the receiver has sent. -/
def Confirmed (offer : TransferOffer) (link : TransferLink) (index : Nat) : Prop :=
  ∃ wire ∈ link.wires, ∃ result ∈ wire.answers.history, ∃ offered, offer.files[index]? = some offered ∧
    acknowledges offer.transferId offered.fileId result = true

/-- A worker with an offer to make, and the connection of its session. -/
structure LinkedWorker (offer : TransferOffer) (source : IncomingFile → Bytes)
    (link : TransferLink) : Prop where
  prepared : link.worker.phase.prepared = true
  announced : ∀ other, validateOffer link.worker.sending.platform link.worker.sending.offerFrame =
    .ok other → other = offer
  outgoing : ∀ attempt phase, link.worker.phase = .session attempt phase →
    Outgoing offer source link phase

/-- What a step of the sender leaves. -/
structure SenderMoved (offer : TransferOffer) (source : IncomingFile → Bytes)
    (link next : TransferLink) : Prop where
  worker : LinkedWorker offer source next
  receiver : next.receiver = link.receiver
  wires : Extended offer source link.wires next.wires
  completes : Completes (Confirmed offer link) link.worker.infos next.worker.infos

section

variable {offer : TransferOffer} {source : IncomingFile → Bytes} {link next : TransferLink}
  {event : Event} {written : Bool}

/-- The worker goes on by itself, or by a call of its session. -/
theorem senderStep_cases (stepped : link.senderStep source event written = some next) :
    ∃ called worker, workerStep link.worker event = some worker ∧ next = { called with worker } ∧
      ((called = link ∧ ∀ attempt phase, link.worker.phase ≠ .session attempt phase) ∨
        ∃ attempt phase, link.worker.phase = .session attempt phase ∧
          link.call source phase event.answer written = some called) := by
  simp only [TransferLink.senderStep, Option.bind_eq_bind, Option.bind_eq_some_iff,
    Option.pure_def, Option.some.injEq] at stepped
  obtain ⟨called, effect, worker, moved, rfl⟩ := stepped
  refine ⟨called, worker, moved, rfl, ?_⟩
  unfold TransferLink.effect at effect
  split at effect
  · next attempt phase standing => exact .inr ⟨attempt, phase, standing, effect⟩
  · next elsewhere =>
      cases effect
      exact .inl ⟨rfl, elsewhere⟩

theorem LinkedWorker.step (linked : LinkedWorker offer source link)
    (stepped : link.senderStep source event written = some next) :
    SenderMoved offer source link next := by
  obtain ⟨called, worker, moved, rfl, how⟩ := senderStep_cases stepped
  obtain ⟨prepared, sending⟩ := workerStep_prepared linked.prepared moved
  have announced := linked.announced
  rw [← sending] at announced
  have completes := workerStep_completes moved
  cases how with
  | inl alone =>
      obtain ⟨rfl, elsewhere⟩ := alone
      refine ⟨⟨prepared, announced, fun attempt phase standing => ?_⟩, rfl, .refl, ?_⟩
      · cases workerStep_session moved standing with
        | inl asks =>
            subst asks
            exact ⟨fun connected => (by cases connected), trivial⟩
        | inr goes =>
            obtain ⟨before, _, there, _⟩ := goes
            exact absurd there (elsewhere attempt before)
      · intro index new found complete
        cases completes index new found complete with
        | inl confirms =>
            obtain ⟨attempt, phase, standing, _⟩ := confirms
            exact absurd standing (elsewhere attempt phase)
        | inr before => exact .inr before
  | inr session =>
      obtain ⟨attempt, phase, standing, effect⟩ := session
      have outgoing := linked.outgoing attempt phase standing
      have leaves := outgoing.call effect
      refine ⟨⟨prepared, announced, fun attempt' phase' standing' => ?_⟩, leaves.receiver,
        leaves.wires, ?_⟩
      · cases workerStep_session moved standing' with
        | inl asks =>
            subst asks
            exact ⟨fun connected => (by cases connected), trivial⟩
        | inr goes =>
            obtain ⟨before, infos, there, advanced, rfl⟩ := goes
            cases standing.symm.trans there
            have streams := outgoing.stream linked.announced effect advanced
            refine ⟨fun connected => ?_, streams⟩
            cases sessionStep_joins advanced connected with
            | inl already => exact leaves.connected already
            | inr joins => exact leaves.joined joins.1 joins.2
      · intro index new found complete
        cases completes index new found complete with
        | inl confirms =>
            obtain ⟨attempt', phase', there, payload, offered, result, rfl, heard, listed,
              acknowledged⟩ := confirms
            cases standing.symm.trans there
            have own : payload.offer = offer := outgoing.streams
            rw [own] at listed acknowledged
            rw [heard] at effect
            obtain ⟨wire, answers, among, taken, _⟩ := hear_cases effect
            exact .inl ⟨wire, List.mem_of_getElem? among, result, Channel.receive?_mem taken, offered,
              listed, acknowledged⟩
        | inr before => exact .inr before

end

end DirectTransfer
