import DirectTransfer.Core.ReceivedRecords

/-! A device that receives in any number of sessions and sends in any number of
batches, and the records both keep of their files. Sessions and batches of one
transfer follow each other or overlap, and any of them may be cut at any call. -/

set_option autoImplicit false

namespace DirectTransfer

open Library

structure TransferNode where
  receiving : Receiving
  workers : List BatchWorker

inductive NodeLabel where
  | receive (label : ReceiveLabel)
  | send (peerIp transferId : PyStr) (message : Option PyStr) (paths : List PyStr)
  | worker (index : Nat) (event : Event)

def nodeStep (platform : Platform) (node : TransferNode) : NodeLabel → Option TransferNode
  | .receive label => (receiveStep platform node.receiving label).map fun receiving =>
      { node with receiving }
  | .send peerIp transferId message paths => some { node with
      workers := node.workers ++ [.start platform peerIp transferId message paths] }
  | .worker index event => do
      let worker ← node.workers[index]?
      let next ← workerStep worker event
      return { node with workers := node.workers.set index next }

def TransferNode.start : TransferNode := ⟨.start, []⟩

/-- Where a record is kept. -/
inductive RecordPlace where
  | received (record : Nat)
  | sent (worker file : Nat)

def TransferNode.recordAt (node : TransferNode) : RecordPlace → Option TransferInfo
  | .received record => node.receiving.registry.transfers[record]?
  | .sent worker file => (node.workers[worker]?).bind fun worker => worker.infos[file]?

/-- Every record stays at its place, and its status stands once it is terminal. -/
def TransferNode.Settles (node next : TransferNode) : Prop :=
  ∀ place info, node.recordAt place = some info →
    ∃ new, next.recordAt place = some new ∧ new.filesize = info.filesize ∧
      (isTerminal info.status = true → new.status = info.status)

theorem TransferNode.Settles.refl (node : TransferNode) : node.Settles node :=
  fun _ info found => ⟨info, found, rfl, fun _ => rfl⟩

theorem TransferNode.Settles.trans {node middle next : TransferNode}
    (first : node.Settles middle) (second : middle.Settles next) : node.Settles next := by
  intro place info found
  obtain ⟨between, there, size, kept⟩ := first place info found
  obtain ⟨new, again, sameSize, still⟩ := second place between there
  refine ⟨new, again, sameSize.trans size, fun ended => ?_⟩
  have same := kept ended
  exact (still (same ▸ ended)).trans same

/-- The condition on a step: what the two sides are told of earlier sessions still
stands, and what is counted fits the size of its file. -/
def FilesRemain (node : TransferNode) : NodeLabel → Prop
  | .receive label => ReceivesWhole node.receiving label
  | .send _ _ _ _ => True
  | .worker index event => ∀ worker, node.workers[index]? = some worker →
      SourcesStand worker event

structure SoundNode (node : TransferNode) : Prop where
  receiving : SoundReceiving node.receiving
  workers : ∀ worker ∈ node.workers, WorkerSound worker

variable {platform : Platform} {node next : TransferNode}

theorem SoundNode.start : SoundNode .start where
  receiving := .start
  workers worker member := by cases member

theorem SoundNode.recordAt (holds : SoundNode node) {place : RecordPlace} {info : TransferInfo}
    (found : node.recordAt place = some info) : SoundRecord info := by
  cases place with
  | received record => exact holds.receiving.sound info (List.mem_of_getElem? found)
  | sent index file =>
      obtain ⟨worker, there, listed⟩ := Option.bind_eq_some_iff.mp found
      exact (holds.workers worker (List.mem_of_getElem? there)).sound info
        (List.mem_of_getElem? listed)

theorem start_sound (peerIp transferId : PyStr) (message : Option PyStr) (paths : List PyStr) :
    WorkerSound (.start platform peerIp transferId message paths) :=
  .unregistered rfl (afterChecks_fits _ _)

/-- One step of either side under its condition. -/
theorem SoundNode.step {label : NodeLabel} (holds : SoundNode node)
    (condition : FilesRemain node label) (stepped : nodeStep platform node label = some next) :
    SoundNode next ∧ node.Settles next := by
  cases label with
  | receive label =>
      obtain ⟨receiving, moved, same⟩ := Option.map_eq_some_iff.mp stepped
      subst same
      obtain ⟨sound, settles⟩ := holds.receiving.step condition moved
      refine ⟨⟨sound, holds.workers⟩, fun place info found => ?_⟩
      cases place with
      | received record => exact settles record info found
      | sent worker file => exact ⟨info, found, rfl, fun _ => rfl⟩
  | send peerIp transferId message paths =>
      cases stepped
      refine ⟨⟨holds.receiving, fun worker member => ?_⟩, fun place info found => ?_⟩
      · cases List.mem_append.mp member with
        | inl before => exact holds.workers worker before
        | inr new =>
            cases List.mem_singleton.mp new
            exact start_sound peerIp transferId message paths
      · refine ⟨info, ?_, rfl, fun _ => rfl⟩
        cases place with
        | received record => exact found
        | sent index file =>
            obtain ⟨worker, there, listed⟩ := Option.bind_eq_some_iff.mp found
            have bound := (List.getElem?_eq_some_iff.mp there).1
            apply Option.bind_eq_some_iff.mpr
            exact ⟨worker, (List.getElem?_append_left bound).trans there, listed⟩
  | worker index event =>
      simp only [nodeStep, Option.bind_eq_bind, Option.bind_eq_some_iff] at stepped
      obtain ⟨worker, found, after, moved, finished⟩ := stepped
      cases finished
      have carries := workerStep_carries (holds.workers worker (List.mem_of_getElem? found))
        (condition worker found) moved
      refine ⟨⟨holds.receiving, fun other member => ?_⟩, fun place info there => ?_⟩
      · cases List.mem_or_eq_of_mem_set member with
        | inl before => exact holds.workers other before
        | inr same =>
            rw [same]
            exact carries.sound
      · cases place with
        | received record => exact ⟨info, there, rfl, fun _ => rfl⟩
        | sent place file =>
            obtain ⟨other, standing, listed⟩ := Option.bind_eq_some_iff.mp there
            by_cases own : place = index
            · subst own
              cases found.symm.trans standing
              have bound := (List.getElem?_eq_some_iff.mp found).1
              obtain ⟨new, again, carried⟩ := carries.kept file info listed
              refine ⟨new, ?_, carried.filesize, carried.settled⟩
              exact Option.bind_eq_some_iff.mpr ⟨after, List.getElem?_set_self bound, again⟩
            · refine ⟨info, ?_, rfl, fun _ => rfl⟩
              apply Option.bind_eq_some_iff.mpr
              exact ⟨other, (List.getElem?_set_ne (Ne.symm own)).trans standing, listed⟩

/-- The promise of every record, at a state and in every run that goes on from it. -/
structure KeepsLifecycle (platform : Platform) (guard : TransferNode → NodeLabel → Prop)
    (node : TransferNode) : Prop where
  sound : ∀ place info, node.recordAt place = some info → SoundRecord info
  settles : ∀ labels later, Run (nodeStep platform) guard node labels later → node.Settles later

theorem SoundNode.run {labels : List NodeLabel} (holds : SoundNode node)
    (run : Run (nodeStep platform) FilesRemain node labels next) :
    SoundNode next ∧ node.Settles next := by
  induction run with
  | refl => exact ⟨holds, .refl _⟩
  | snoc _ admitted stepped ih =>
      obtain ⟨before, settled⟩ := ih
      obtain ⟨sound, settles⟩ := before.step admitted stepped
      exact ⟨sound, settled.trans settles⟩

/-- In every run whose steps meet the condition, every record keeps the promise. -/
theorem lifecycle_kept {labels : List NodeLabel}
    (run : Run (nodeStep platform) FilesRemain .start labels node) :
    KeepsLifecycle platform FilesRemain node := by
  obtain ⟨holds, _⟩ := SoundNode.start.run run
  constructor
  · intro place info found
    exact holds.recordAt found
  · intro more later continued
    exact (holds.run continued).2

/-! ## What sessions find -/

/-- An empty disk knows nothing of an offer. -/
theorem prepare_empty (host : StoreHost) {offer : TransferOffer}
    (distinct : (offer.files.map IncomingFile.fileId).Nodup) :
    ∃ next, host.prepare Disk.empty offer =
      (next, .ok (host.gathered offer (host.foundIn Disk.empty offer [])).states) := by
  have empty (path : FilePath) : (Disk.empty : Disk FilePath).nodes.get path = none := rfl
  have read : host.readMetadata Disk.empty offer.transferId = .ok (.obj []) := rfl
  have directory : host.SessionDirectory Disk.empty offer (storedFiles (.obj [])) := by
    constructor
    · intro node placed
      cases (empty _).symm.trans placed
    · intro file member
      constructor
      · intro node placed
        cases (empty _).symm.trans placed
      · intro _ text recorded
        cases recorded
      · intro _ text recorded
        cases recorded
    · intro file member recorded
      exact empty _
  obtain ⟨next, called, _⟩ := StoreHost.prepare_ok distinct read directory
  exact ⟨next, called⟩

def noteFile : IncomingFile := ⟨py "file-0", py "note.txt", 1, List.replicate 64 (chr 'e')⟩

def noteOffer : TransferOffer := ⟨List.replicate 32 (chr '0'), [noteFile], 1, none⟩

def noteStates : Dict PyStr ResumeFileState := Dict.empty.set noteFile.fileId ⟨0, none⟩

theorem prepare_note (host : StoreHost) :
    ∃ next, host.prepare Disk.empty noteOffer = (next, .ok noteStates) :=
  prepare_empty host (by decide)

open StoreHost in
/-- The states of two files, the first begun. -/
def pairStates (begun : Nat) : Dict PyStr ResumeFileState :=
  (Dict.empty.set firstFile.fileId ⟨begun, none⟩).set StoreHost.secondFile.fileId ⟨0, none⟩

open StoreHost in
/-- An octet of the first file is found again. -/
theorem prepare_begun :
    ∃ next, receivedHost.prepare resumedDisk pairOffer = (next, .ok (pairStates 1)) := by
  have formed := (@oneRecord_formed none (by simp)).2
  have entries := @oneRecord_entries none (by simp)
  have content : resumedDisk.read (partialPath pairOffer.transferId firstFile.fileId) =
      some [0] := by
    have node : resumedDisk.nodes.get (partialPath pairOffer.transferId firstFile.fileId) =
        some (.file 1) := by
      rw [resumedDisk_nodes, if_pos rfl]
    rw [Disk.read_of_node node]
    rfl
  have first := @examine_continued receivedHost _ _ _ firstFile (fileRecord_matches formed) _
    (fileRecord_final formed) content (by decide)
  rw [← entries.1] at first
  have second : resumedDisk.nodes.get secondPartial = none := by
    have apart : secondPartial ≠ partialPath pairOffer.transferId firstFile.fileId :=
      fun same => absurd (partialPath_inj same) (by decide)
    rw [resumedDisk_nodes, if_neg apart, if_neg secondPartial_ne_metadata]
  have own : OwnTemporary (resumedDisk.unlink secondPartial) pairOffer.transferId := by
    intro node placed
    rw [Disk.nodes_unlink, Dict.get_erase_ne secondPartial_ne_temporary.symm, resumedDisk_nodes,
      if_neg (partialPath_ne_temporary _ _).symm, if_neg temporary_ne_metadata] at placed
    cases placed
  obtain ⟨next, written, _⟩ := @atomicWrite_ok receivedHost _ pairOffer.transferId own
    (metadata pairOffer.transferId (receivedHost.extend (receivedHost.extend
      ⟨Dict.empty, Dict.empty⟩ firstFile ⟨1, none, false⟩) StoreHost.secondFile
        ⟨0, none, true⟩).records)
  refine ⟨next, prepare_pair resumedDisk_read first rfl entries.2 ?_ written⟩
  rw [second]
  decide

/-- What a session is told of earlier ones was read from a disk. -/
def PreparesFromDisk (node : TransferNode) : NodeLabel → Prop
  | .receive (.session index event) => ∀ session states,
      node.receiving.sessions[index]? = some session → session.phase = .prepare →
      event.answer = .prepared states → ∃ (host : StoreHost) (disk next : Disk FilePath),
        host.Lawful ∧ host.prepare disk session.origin.offer = (next, .ok states)
  | _ => True

def preparesKnown (node : TransferNode) : NodeLabel → Bool
  | .receive (.session index event) => (node.receiving.sessions[index]?).all fun session =>
      match session.phase, event.answer with
      | .prepare, .prepared states =>
          session.origin.offer = noteOffer && states = noteStates ||
          session.origin.offer = StoreHost.pairOffer &&
            (states = pairStates 0 || states = pairStates 1)
      | _, _ => true
  | _ => true

theorem preparesKnown_sound (node : TransferNode) (label : NodeLabel)
    (prepares : preparesKnown node label = true) : PreparesFromDisk node label := by
  cases label with
  | receive label =>
      cases label with
      | accept peerIp peerDeviceId payload => trivial
      | session index event =>
          intro session states found standing answer
          simp only [preparesKnown, found, Option.all_some, standing, answer, Bool.and_eq_true,
            Bool.or_eq_true, decide_eq_true_eq] at prepares
          refine ⟨StoreHost.receivedHost, ?_⟩
          rcases prepares with ⟨offered, rfl⟩ | ⟨offered, rfl | rfl⟩
          · obtain ⟨next, called⟩ := prepare_note StoreHost.receivedHost
            exact ⟨Disk.empty, next, StoreHost.receivedHost_lawful, offered ▸ called⟩
          · obtain ⟨next, called⟩ := @prepare_empty StoreHost.receivedHost StoreHost.pairOffer
              (by decide)
            exact ⟨Disk.empty, next, StoreHost.receivedHost_lawful, offered ▸ called⟩
          · obtain ⟨next, called⟩ := prepare_begun
            exact ⟨StoreHost.resumedDisk, next, StoreHost.receivedHost_lawful, offered ▸ called⟩
  | send peerIp transferId message paths => trivial
  | worker index event => trivial

/-- A file that is started again has its size, and is whole where its record is complete. -/
def restartsWhole (registry : Registry) (session : ReceiveSession) : Bool :=
  match session.phase with
  | .fileStart states file => (session.origin.offer.files[file]?).all fun offered =>
      (states.get offered.fileId).all fun state =>
        (registry.index.get (session.transferId, offered.fileId)).all fun record =>
          (registry.transfers[record]?).all fun info => info.filesize = offered.size &&
            (info.status ≠ .complete || state.offset = info.filesize)
  | _ => true

/-- No read returns too much, and no file is complete before a session. -/
def sourcesStand (worker : BatchWorker) (event : Event) : Bool :=
  match worker.phase, event.answer with
  | .session _ (.read _ file _), .octets raw => (worker.infos[file]?).all fun info =>
      info.bytesTransferred + raw.length ≤ info.filesize
  | .session _ (.resumeState _), _ => worker.infos.all fun info => info.status ≠ .complete
  | _, _ => true

def filesRemain (node : TransferNode) (label : NodeLabel) : Bool :=
  preparesKnown node label && match label with
    | .receive (.session index _) => ((node.receiving.sessions[index]?).all fun session =>
        restartsWhole node.receiving.registry session) &&
        node.receiving.sessions.zipIdx.all fun entry =>
          entry.2 = index || entry.1.phase.awaited = 0
    | .worker index event => (node.workers[index]?).all fun worker => sourcesStand worker event
    | _ => true

theorem sourcesStand_sound {worker : BatchWorker} {event : Event}
    (stand : sourcesStand worker event = true) : SourcesStand worker event := by
  constructor
  · intro attempt payload file chunk raw info standing answer found
    simpa [sourcesStand, standing, answer, found] using stand
  · intro attempt offer payload offsets standing answer valid file info offered offset found listed
      told complete
    simp only [sourcesStand, standing, List.all_eq_true, decide_eq_true_eq] at stand
    exact absurd complete (stand info (List.mem_of_getElem? found))

theorem filesRemain_sound (node : TransferNode) (label : NodeLabel)
    (remain : filesRemain node label = true) : FilesRemain node label := by
  obtain ⟨prepares, remain⟩ := Bool.and_eq_true_iff.mp remain
  cases label with
  | receive label =>
      cases label with
      | accept peerIp peerDeviceId payload => trivial
      | session index event =>
          obtain ⟨restarts, alone⟩ := Bool.and_eq_true_iff.mp remain
          intro session found
          rw [found, Option.all_some] at restarts
          refine ⟨⟨fun states standing answer => ?_, ?_⟩, ?_⟩
          · obtain ⟨host, disk, next, _, called⟩ :=
              preparesKnown_sound _ _ prepares session states found standing answer
            exact ⟨host, disk, next, called⟩
          · intro states file payload offered state record info standing _ listed _ _ _ told known
              there
            simp only [restartsWhole, standing, listed, told, known, there, Option.all_some,
              Bool.and_eq_true, Bool.or_eq_true, decide_eq_true_eq] at restarts
            exact ⟨restarts.1, fun complete => restarts.2.resolve_left fun other => other complete⟩
          · intro place other block different there standing awaits
            have member : (other, place) ∈ node.receiving.sessions.zipIdx := by
              rw [List.mem_zipIdx_iff_getElem?]
              exact there
            have checked := List.all_eq_true.mp alone _ member
            simp only [Bool.or_eq_true, decide_eq_true_eq] at checked
            exact absurd (checked.resolve_left different) awaits
  | send peerIp transferId message paths => trivial
  | worker index event =>
      intro worker found
      simp only [found, Option.all_some] at remain
      exact sourcesStand_sound remain

/-! ## Runs -/

def sessionAnswers (index : Nat) (now : Time) (answers : List ReceiveAnswer) : List NodeLabel :=
  answers.map fun answer => .receive (.session index ⟨now, answer⟩)

/-- The labels of a session up to the record of its first file. -/
def beginsWith (offer : TransferOffer) (file : IncomingFile) (states : Dict PyStr ResumeFileState)
    (index : Nat) (now : Time) : List NodeLabel :=
  .receive (.accept (py "192.0.2.7") (py "mp-0000000a")
    (offerFrame offer.transferId offer.files none)) ::
  sessionAnswers index now [.control (resumeQuery offer), .prepared states, .done,
    .control (fileControl "file_start" offer.transferId file.fileId)]

/-- The answers from a chunk with the rest of a file to the end of the file. -/
def restReceived (offer : TransferOffer) (file : IncomingFile) (begun : Nat) :
    List ReceiveAnswer :=
  let rest := file.size - begun
  [.control (chunkHeader offer.transferId file.fileId 0 begun rest),
    .octets (List.replicate rest 0), .done, .done,
    .control (fileControl "file_end" offer.transferId file.fileId), .digest file.sha256,
    .committed ⟨py "/inbox/" ++ file.name, file.name⟩, .done, .done, .done]

def sessionEnds (offer : TransferOffer) : List ReceiveAnswer :=
  [.control (control "fin" offer.transferId), .done, .done]

def noteBegins (index : Nat) (now : Time) : List NodeLabel :=
  beginsWith noteOffer noteFile noteStates index now

def noteReceived : List NodeLabel :=
  noteBegins 0 1 ++
    sessionAnswers 0 1 ([.done, .done] ++ restReceived noteOffer noteFile 0 ++ sessionEnds noteOffer)

/-- The answers to a sending session of the note up to the block of its file. -/
def noteSession (offset : Nat) : List Answer :=
  [.done, .done, .done, .done, .done, .flag true, .flag false,
    .control (.obj [(py "type", .str (py "transfer_response")),
      (py "transfer_id", .str noteOffer.transferId), (py "accepted", .bool true)]), .done,
    .control (resumeState noteOffer fun _ => offset), .done, .done]

/-- The connection of a batch is lost after its only chunk, and the next session finds
the file whole at the receiver. -/
def noteResent : List Answer :=
  [.flag true, .size noteFile.size, .text noteFile.sha256, .peer none, .flag false] ++
    noteSession 0 ++ [.flag false, .octets [0], .done, .done,
      .raised (raised .osError "Connection reset by peer"), .flag false, .flag false] ++
    noteSession 1 ++ [.done, .control (.obj [(py "type", .str (py "file_result")),
      (py "transfer_id", .str noteOffer.transferId), (py "file_id", .str noteFile.fileId),
      (py "ok", .bool true)]), .done, .control (control "session_complete" noteOffer.transferId)]

open StoreHost in
/-- A session is lost after the first octet of a pair and the next one goes on after it;
between the two, a note is sent. -/
def pairResumed : List NodeLabel :=
  beginsWith pairOffer firstFile (pairStates 0) 0 1 ++
  sessionAnswers 0 1 [.done, .done, .control (chunkHeader pairOffer.transferId firstFile.fileId 0 0 1),
    .octets [0], .done, .done, .raised (raised .osError "Connection reset by peer"), .done] ++
  .send (py "192.0.2.7") noteOffer.transferId none [py "/home/note.txt"] ::
  noteResent.map (fun answer => .worker 0 ⟨2, answer⟩) ++
  beginsWith pairOffer firstFile (pairStates 1) 1 3 ++
  sessionAnswers 1 3 ([.done, .done] ++ restReceived pairOffer firstFile 1 ++
    [.control (fileControl "file_start" pairOffer.transferId StoreHost.secondFile.fileId),
      .done, .done] ++ restReceived pairOffer StoreHost.secondFile 0 ++ sessionEnds pairOffer)

theorem resumed_pair_kept : ∃ node,
    Run (nodeStep asciiPlatform) FilesRemain .start pairResumed node ∧
    KeepsLifecycle asciiPlatform FilesRemain node ∧
    [.received 0, .received 1, .sent 0 0].map (fun place => (node.recordAt place).map fun info =>
      (info.status, info.resumeOffset, info.bytesTransferred)) =
      [some (.complete, 1, 32), some (.complete, 0, 32), some (.complete, 1, 1)] := by
  have runs : (runLabels (fun node label => if filesRemain node label then
      nodeStep asciiPlatform node label else none) .start pairResumed).any (fun node =>
        [.received 0, .received 1, .sent 0 0].map (fun place => (node.recordAt place).map fun info =>
          (info.status, info.resumeOffset, info.bytesTransferred)) =
          [some (.complete, 1, 32), some (.complete, 0, 32), some (.complete, 1, 1)]) = true := by
    decide +kernel
  obtain ⟨node, executed, records⟩ := (Option.any_eq_true _ _).mp runs
  have run := run_of_checked filesRemain_sound executed
  exact ⟨node, run, lifecycle_kept run, of_decide_eq_true records⟩

/-- A second session of the transfer finds no file: the record that is complete is put
back to the first octet. -/
theorem complete_record_emptied :
    ¬∀ (labels : List NodeLabel) (node : TransferNode),
      Run (nodeStep asciiPlatform) PreparesFromDisk .start labels node →
      KeepsLifecycle asciiPlatform PreparesFromDisk node := by
  intro keeps
  have counted : (runLabels (fun node label => if preparesKnown node label then
      nodeStep asciiPlatform node label else none) .start (noteReceived ++ noteBegins 1 2)).bind
        (fun node => (node.recordAt (.received 0)).map fun info =>
          (info.status, info.bytesTransferred, info.filesize)) = some (.complete, 0, 1) := by
    decide +kernel
  obtain ⟨node, executed, read⟩ := Option.bind_eq_some_iff.mp counted
  obtain ⟨info, found, same⟩ := Option.map_eq_some_iff.mp read
  simp only [Prod.mk.injEq] at same
  obtain ⟨complete, none, size⟩ := same
  have promised := (keeps _ node (run_of_checked preparesKnown_sound executed)).sound _ info found
  have whole := promised.whole complete
  omega

end DirectTransfer
