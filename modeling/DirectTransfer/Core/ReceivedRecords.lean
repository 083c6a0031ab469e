import DirectTransfer.Core.RecordLifecycle
import DirectTransfer.Core.ReceiverTransitions
import DirectTransfer.Core.ResumeSoundness

/-! The records of receiving sessions under the promise made of every record,
while the sessions of one transfer follow each other. -/

set_option autoImplicit false

namespace DirectTransfer

open Library

/-! ## Offsets -/

/-- Some offered file of that identifier is at least that long. -/
def Ranges (files : List IncomingFile) (states : Dict PyStr ResumeFileState) : Prop :=
  ∀ fileId state, states.get fileId = some state →
    ∃ offered ∈ files, offered.fileId = fileId ∧ state.offset ≤ offered.size

theorem prepareFiles_ranges {host : StoreHost} {transferId : PyStr} {listed : List (PyStr × Json)}
    {all files : List IncomingFile} {disk next : Disk FilePath} {prepared result : Prepared}
    (within : ∀ offered ∈ files, offered ∈ all) (before : Ranges all prepared.states)
    (called : host.prepareFiles transferId listed files disk prepared = (next, .ok result)) :
    Ranges all result.states := by
  induction files generalizing disk prepared with
  | nil =>
      cases called
      exact before
  | cons offered rest ih =>
      have later : ∀ other ∈ rest, other ∈ all := fun other member =>
        within other (List.mem_cons_of_mem _ member)
      unfold StoreHost.prepareFiles at called
      split at called
      · cases called
      · next examined found =>
          have ranged := (StoreHost.examine_finds found).ranged
          have extended : Ranges all (host.extend prepared offered examined).states := by
            intro fileId state known
            rw [StoreHost.extend, Dict.get_set] at known
            split at known
            · next same =>
                cases known
                exact ⟨offered, within offered List.mem_cons_self, same.symm, ranged⟩
            · exact before fileId state known
          dsimp only at called
          split at called
          · split at called
            · cases called
            · exact ih later extended called
          · exact ih later extended called

/-- The offsets `prepare` answers lie within the files. -/
theorem prepare_ranges {host : StoreHost} {disk next : Disk FilePath} {offer : TransferOffer}
    {states : Dict PyStr ResumeFileState} (called : host.prepare disk offer = (next, .ok states)) :
    Ranges offer.files states := by
  unfold StoreHost.prepare at called
  split at called
  · cases called
  · split at called
    · cases called
    · next middle prepared looped =>
        split at called
        · cases called
        · cases called
          refine prepareFiles_ranges (fun _ member => member) ?_ looped
          intro fileId state known
          cases known

theorem Ranges.offset_le {files : List IncomingFile} {states : Dict PyStr ResumeFileState}
    (ranges : Ranges files states) (distinct : (files.map IncomingFile.fileId).Nodup)
    {offered : IncomingFile} (member : offered ∈ files) {state : ResumeFileState}
    (known : states.get offered.fileId = some state) : state.offset ≤ offered.size := by
  obtain ⟨other, included, same, ranged⟩ := ranges _ _ known
  rw [← List.inj_on_of_nodup_map distinct included member same]
  exact ranged

/-! ## Records -/

variable {info : TransferInfo} {now : Time}

theorem newRecord_sound {origin : Origin} {offered : IncomingFile} {offset : Nat}
    (ranged : offset ≤ offered.size) : SoundRecord (newRecord origin offered offset now) := by
  have running : isTerminal (newRecord origin offered offset now).status = false := by
    unfold newRecord
    dsimp only
    split <;> rfl
  have incomplete : (newRecord origin offered offset now).status ≠ .complete := by
    intro complete
    rw [complete] at running
    cases running
  refine ⟨ranged, ranged, ?_, fun complete => absurd complete incomplete, fun complete =>
    absurd complete incomplete⟩
  rw [running]
  rfl

/-- A record is taken up again at an offset within its file, which is its whole
size where it is complete. -/
theorem resumeRecord_carries {resumed : TransferInfo} {sha256 : PyStr} {offset : Nat}
    (ranged : offset ≤ info.filesize) (whole : info.status = .complete → offset = info.filesize)
    (ok : resumeRecord info sha256 offset now = .ok resumed) : Carries info resumed := by
  unfold resumeRecord at ok
  simp only [bind, Except.bind, pure, Except.pure] at ok
  by_cases terminal : isTerminal info.status = true
  · simp only [terminal, ↓reduceIte] at ok
    cases ok
    have placed := Carries.placed ranged whole 0
    refine ⟨rfl, rfl, fun _ => rfl, fun sound => ?_⟩
    obtain ⟨first, second, third, fourth, fifth⟩ := placed.sound sound
    exact ⟨first, second, third, fourth, fifth⟩
  · simp only [terminal, Bool.false_eq_true, ↓reduceIte] at ok
    split at ok
    · cases ok
    · next moved transitioned =>
        cases ok
        obtain ⟨reaches, rfl⟩ := transition_cases transitioned
        have status : (info.moved .resuming none now).status = .resuming := by simp
        have size : (info.moved .resuming none now).filesize = info.filesize := by simp
        have incomplete : (info.moved .resuming none now).status ≠ .complete := by
          rw [status]
          decide
        refine ⟨size, by simp, fun ended => absurd ended terminal, fun _ => ⟨?_, ?_, ?_, ?_, ?_⟩⟩
        · exact ranged.trans_eq size.symm
        · exact ranged.trans_eq size.symm
        · show false = isTerminal (info.moved .resuming none now).status
          rw [status]
          rfl
        · intro complete
          exact absurd complete incomplete
        · intro complete
          exact absurd complete incomplete

/-! ## Registries -/

def Registry.AllSound (registry : Registry) : Prop :=
  ∀ info ∈ registry.transfers, SoundRecord info

variable {registry next : Registry} {record : Nat} {block : FileBlock} {finalPath : FinalPath}

theorem Registry.AllSound.set {old new : TransferInfo} (sound : registry.AllSound)
    (found : registry.transfers[record]? = some old) (carries : Carries old new) :
    (registry.set record new).AllSound := by
  intro info member
  cases List.mem_or_eq_of_mem_set member with
  | inl kept => exact sound info kept
  | inr same =>
      rw [same]
      exact carries.sound (sound old (List.mem_of_getElem? found))

theorem Registry.AllSound.update {change : TransferInfo → TransferInfo} (sound : registry.AllSound)
    (carries : ∀ info, registry.transfers[record]? = some info → Carries info (change info)) :
    (registry.update record change).AllSound := by
  unfold Registry.update
  split
  · next info found => exact sound.set found (carries info found)
  · exact sound

theorem Registry.AllSound.setStatus {status : TransferStatus} {error : Option PyStr}
    (sound : registry.AllSound)
    (completes : status = .complete → ∀ info, registry.transfers[record]? = some info →
      Completable info)
    (moved : registry.setStatus record status error now = .ok next) : next.AllSound := by
  rcases Registry.setStatus_cases moved with ⟨_, rfl⟩ | ⟨info, found, reaches, rfl⟩
  · exact sound
  · exact sound.set found (.moved reaches fun complete => completes complete info found)

/-- Verifying a file of the offered size makes its record whole. -/
theorem Registry.AllSound.verify (sound : registry.AllSound)
    (sized : ∀ info, registry.transfers[block.record]? = some info →
      info.filesize = block.offered.size) : (registry.verify block finalPath).AllSound := by
  apply sound.update
  intro info found
  have same := sized info found
  exact ⟨rfl, rfl, fun _ => rfl, fun sound =>
    ⟨sound.resumed, same.ge, sound.timed, fun _ => same.symm, fun _ _ => rfl⟩⟩

theorem verify_completable
    (sized : ∀ info, registry.transfers[block.record]? = some info →
      info.filesize = block.offered.size)
    {verified : TransferInfo}
    (found : (registry.verify block finalPath).transfers[block.record]? = some verified) :
    Completable verified := by
  unfold Registry.verify Registry.update at found
  split at found
  · next info there =>
      have bound := (List.getElem?_eq_some_iff.mp there).1
      rw [Registry.set, List.getElem?_set_self bound] at found
      cases found
      exact ⟨(sized info there).symm, fun _ => rfl⟩
  · next missing =>
      rw [missing] at found
      cases found

/-! ## Sessions -/

/-- The resume states a session has. -/
def ReceivePhase.states? : ReceivePhase → Option (Dict PyStr ResumeFileState)
  | .resumeState states | .fileStart states _ => some states
  | .created block | .inside block _ | .settling block _ => some block.states
  | _ => none

def ReceivePhase.fileBlock? : ReceivePhase → Option FileBlock
  | .created block | .inside block _ | .settling block _ => some block
  | _ => none

/-- The octets a session has checked the header of and not yet counted. -/
def ReceivePhase.awaited : ReceivePhase → Nat
  | .inside _ (.chunkData _ declared) => declared
  | .inside _ (.write _ raw) => raw.length
  | _ => 0

/-- What a session relies on of the records. -/
structure Fitting (registry : Registry) (offer : TransferOffer) (phase : ReceivePhase) : Prop where
  ranges : ∀ states, phase.states? = some states → Ranges offer.files states
  sized : ∀ block info, phase.fileBlock? = some block →
    registry.transfers[block.record]? = some info → info.filesize = block.offered.size
  cursor : ∀ block info, phase.fileBlock? = some block →
    registry.transfers[block.record]? = some info →
    info.bytesTransferred + phase.awaited ≤ info.filesize

variable {offer : TransferOffer} {phase other : ReceivePhase}

theorem Fitting.free (stateless : phase.states? = none) (free : phase.fileBlock? = none) :
    Fitting registry offer phase where
  ranges states known := by
    rw [stateless] at known
    cases known
  sized block info here := by
    rw [free] at here
    cases here
  cursor block info here := by
    rw [free] at here
    cases here

/-- A session that has checked nothing it has not counted relies on sound records. -/
theorem Fitting.of_sound (sound : registry.AllSound)
    (ranges : ∀ states, phase.states? = some states → Ranges offer.files states)
    (sized : ∀ block info, phase.fileBlock? = some block →
      registry.transfers[block.record]? = some info → info.filesize = block.offered.size)
    (counted : phase.awaited = 0) : Fitting registry offer phase where
  ranges := ranges
  sized := sized
  cursor block info here found := by
    rw [counted]
    exact (sound info (List.mem_of_getElem? found)).bounded

/-- A session that stays at its file, after its records may have changed. -/
theorem Fitting.stay {origin : Origin} (fit : Fitting registry offer phase)
    (evolves : registry.Evolves origin next) (sound : next.AllSound)
    (anchored : ∀ block, phase.fileBlock? = some block →
      ∃ info, registry.transfers[block.record]? = some info)
    (here : other.fileBlock? = phase.fileBlock?) (states : other.states? = phase.states?)
    (counted : other.awaited = 0) : Fitting next offer other := by
  apply Fitting.of_sound sound
  · intro known same
    exact fit.ranges known (states ▸ same)
  · intro block info at' found
    rw [here] at at'
    obtain ⟨old, there⟩ := anchored block at'
    obtain ⟨new, again, same, _⟩ := evolves.kept _ old there
    cases found.symm.trans again
    exact same.filesize.trans (fit.sized block old at' there)
  · exact counted

theorem Fitting.nextFile {session : ReceiveSession} {states : Dict PyStr ResumeFileState}
    {file : Nat} (ranges : Ranges offer.files states) :
    Fitting registry offer (session.nextFile states file).phase := by
  unfold ReceiveSession.nextFile ReceiveSession.moveTo
  dsimp only
  split
  · constructor
    · intro known same
      cases same
      exact ranges
    · intro block info here
      cases here
    · intro block info here
      cases here
  · exact .free rfl rfl

/-- The condition on a step of a session. What it is told of earlier sessions comes
from `prepare`, and a record it takes up again is of a file of the same size, which is
still there if the record is complete. -/
structure RestartsWhole (registry : Registry) (session : ReceiveSession) (event : ReceiveEvent) :
    Prop where
  prepared : ∀ states, session.phase = .prepare → event.answer = .prepared states →
    ∃ (host : StoreHost) (disk next : Disk FilePath),
      host.prepare disk session.origin.offer = (next, .ok states)
  restarted : ∀ states file payload offered state record info,
    session.phase = .fileStart states file → event.answer = .control payload →
    session.origin.offer.files[file]? = some offered →
    payload.field "type" = .str (py "file_start") →
    payload.field "transfer_id" = .str session.transferId →
    payload.field "file_id" = .str offered.fileId →
    states.get offered.fileId = some state →
    registry.index.get (session.transferId, offered.fileId) = some record →
    registry.transfers[record]? = some info →
    info.filesize = offered.size ∧ (info.status = .complete → state.offset = info.filesize)

/-- What the file of a session finds of its record, or makes of it. -/
theorem getOrCreate_sound {origin : Origin} {offered : IncomingFile} {offset : Nat}
    (sound : registry.AllSound) (keyed : registry.Keyed) (ranged : offset ≤ offered.size)
    (restarted : ∀ record info,
      registry.index.get (origin.offer.transferId, offered.fileId) = some record →
      registry.transfers[record]? = some info →
      info.filesize = offered.size ∧ (info.status = .complete → offset = info.filesize))
    (ok : getOrCreate registry origin offered offset now = .ok (next, record)) :
    next.AllSound ∧ ∀ info, next.transfers[record]? = some info → info.filesize = offered.size := by
  unfold getOrCreate at ok
  dsimp only at ok
  split at ok
  · cases ok
    constructor
    · intro info member
      cases List.mem_append.mp member with
      | inl old => exact sound info old
      | inr new =>
          cases List.mem_singleton.mp new
          exact newRecord_sound ranged
    · intro info found
      have last : (registry.append (origin.offer.transferId, offered.fileId)
          (newRecord origin offered offset now)).transfers[registry.transfers.length]? =
            some (newRecord origin offered offset now) := by
        simp [Registry.append]
      cases last.symm.trans found
      rfl
  · next known found =>
      split at ok
      · cases ok
      · next resumed resumedOk =>
          cases ok
          obtain ⟨info, there, _⟩ := keyed.indexed _ _ _ found
          have existing : registry.transfers.get ⟨record, registry.indexed _ record found⟩ = info := by
            rw [List.get_eq_getElem]
            exact (List.getElem?_eq_some_iff.mp there).2
          rw [existing] at resumedOk
          obtain ⟨size, whole⟩ := restarted record info found there
          have carries := resumeRecord_carries (ranged.trans_eq size.symm) whole resumedOk
          refine ⟨sound.set there carries, fun new again => ?_⟩
          have bound := (List.getElem?_eq_some_iff.mp there).1
          rw [Registry.set, List.getElem?_set_self bound] at again
          cases again
          exact carries.filesize.trans size

/-- The chunk loop stays at its file. -/
theorem chunkLoop_phase (registry : Registry) (session : ReceiveSession) (block : FileBlock)
    (index : Nat) : ∃ call, (session.chunkLoop registry block index).phase = .inside block call ∧
      (ReceivePhase.inside block call).awaited = 0 := by
  unfold ReceiveSession.chunkLoop
  split
  · dsimp only [ReceiveSession.moveTo]
    split
    · exact ⟨_, rfl, rfl⟩
    · exact ⟨_, rfl, rfl⟩
  · exact ⟨_, rfl, rfl⟩

theorem checkChunk_fits {session : ReceiveSession} {index declared : Nat} {payload : Json}
    {info : TransferInfo} (found : registry.transfers[block.record]? = some info)
    (bounded : info.bytesTransferred ≤ block.offered.size)
    (checked : session.checkChunk registry block index payload = .ok declared) :
    info.bytesTransferred + declared ≤ block.offered.size := by
  unfold ReceiveSession.checkChunk at checked
  split at checked
  · split at checked <;> cases checked
  · simp only [found] at checked
    obtain ⟨_, limited⟩ := validateChunkControl_bounded checked
    have remaining := limited.trans (Nat.min_le_right _ _)
    omega

/-- No exception makes a handler complete a file. -/
theorem handlerStatus_incomplete {error : Raised} {status : TransferStatus} {message : PyStr}
    (handler : ReceiveSession.handlerStatus error = some (status, message)) :
    status ≠ .complete := by
  unfold ReceiveSession.handlerStatus at handler
  repeat' split at handler
  all_goals cases handler
  all_goals decide

/-- One step of a session under the condition: the records stay sound, and the
session may rely on them. -/
theorem Transition.fitting {session after : ReceiveSession} {event : ReceiveEvent}
    (keyed : registry.Keyed) (sound : registry.AllSound) (anchored : session.Anchored registry)
    (distinct : (session.origin.offer.files.map IncomingFile.fileId).Nodup)
    (fit : Fitting registry session.origin.offer session.phase)
    (condition : RestartsWhole registry session event)
    (transition : ReceiveSession.Transition registry session event next after) :
    next.AllSound ∧ Fitting next session.origin.offer after.phase := by
  have evolves := (transition.anchored keyed anchored).1
  have there (block : FileBlock) (here : session.phase.fileBlock? = some block) :
      ∃ info, registry.transfers[block.record]? = some info := by
    obtain ⟨info, found, _⟩ := anchored.anchored block here
    exact ⟨info, found⟩
  have stays {phase : ReceivePhase} (still : next.AllSound)
      (here : phase.fileBlock? = session.phase.fileBlock?)
      (states : phase.states? = session.phase.states?) (counted : phase.awaited = 0) :
      next.AllSound ∧ Fitting next session.origin.offer phase :=
    ⟨still, fit.stay evolves still there here states counted⟩
  have known {states : Dict PyStr ResumeFileState} (same : session.phase.states? = some states) :
      Ranges session.origin.offer.files states := fit.ranges states same
  have sizes {block : FileBlock} (here : session.phase.fileBlock? = some block)
      (info : TransferInfo) (found : registry.transfers[block.record]? = some info) :
      info.filesize = block.offered.size := fit.sized block info here found
  cases transition with
  | queried standing answer valid => exact ⟨sound, .free rfl rfl⟩
  | prepared standing answer complete =>
      obtain ⟨host, disk, final, called⟩ := condition.prepared _ standing answer
      refine ⟨sound, .of_sound sound (fun states same => ?_) (fun _ _ here => ?_) rfl⟩
      · cases same
        exact prepare_ranges called
      · cases here
  | stateSent standing answer =>
      exact ⟨sound, .nextFile (known (by rw [standing]; rfl))⟩
  | @began states file payload next offered state record standing answer listed type transfer named
      told created =>
      have ranges : Ranges session.origin.offer.files states := known (by rw [standing]; rfl)
      have ranged := ranges.offset_le distinct (List.mem_of_getElem? listed) told
      obtain ⟨still, size⟩ := getOrCreate_sound sound keyed ranged (fun record info =>
        condition.restarted states file payload offered state record info standing answer listed type
          transfer named told) created
      refine ⟨still, .of_sound still (fun other same => ?_) (fun block info here found => ?_) rfl⟩
      · cases same
        exact ranges
      · cases here
        exact size info found
  | absent standing beyond => exact ⟨sound, fit⟩
  | known standing answer found =>
      exact stays sound (by rw [standing]; rfl) (by rw [standing]; rfl) rfl
  | entered standing answer unknown moved =>
      exact stays (sound.setStatus (fun complete => by cases complete) moved) (by rw [standing]; rfl)
        (by rw [standing]; rfl) rfl
  | opened standing answer found =>
      obtain ⟨call, at', counted⟩ := chunkLoop_phase registry session _ _
      rw [at']
      exact stays sound (by rw [standing]; rfl) (by rw [standing]; rfl) counted
  | @header block index declared payload standing answer checked =>
      refine ⟨sound, ?_, ?_, ?_⟩
      · intro states same
        exact known (by rw [standing]; exact same)
      · intro other info here found
        exact fit.sized other info (by rw [standing]; exact here) found
      · intro other info here found
        cases here
        have size := sizes (by rw [standing]; rfl) info found
        have bounded := (sound info (List.mem_of_getElem? found)).bounded
        have fits := checkChunk_fits found (bounded.trans_eq size) checked
        rw [size]
        exact fits
  | data standing answer =>
      refine ⟨sound, ?_, ?_, ?_⟩
      · intro states same
        exact known (by rw [standing]; exact same)
      · intro other info here found
        exact fit.sized other info (by rw [standing]; exact here) found
      · intro other info here found
        have checked := fit.cursor other info (by rw [standing]; exact here) found
        rw [standing] at checked
        exact checked
  | @written block index raw standing answer =>
      have still : (registry.receive block raw.length).AllSound := by
        apply sound.update
        intro info found
        have checked := fit.cursor block info (by rw [standing]; rfl) found
        rw [standing] at checked
        exact .counted checked _
      exact stays still (by rw [standing]; rfl) (by rw [standing]; rfl) rfl
  | progressed standing answer =>
      obtain ⟨call, at', counted⟩ :=
        chunkLoop_phase registry { session with unnotified := [] } _ _
      rw [at']
      exact stays sound (by rw [standing]; rfl) (by rw [standing]; rfl) counted
  | finished standing answer expected =>
      exact stays sound (by rw [standing]; rfl) (by rw [standing]; rfl) rfl
  | hashed standing answer =>
      refine stays sound (by rw [standing]; rfl) (by rw [standing]; rfl) ?_
      unfold ReceiveSession.moveTo
      dsimp only
      split <;> rfl
  | committed standing answer =>
      exact stays sound (by rw [standing]; rfl) (by rw [standing]; rfl) rfl
  | marked standing answer moved =>
      have sized := sizes (by rw [standing]; rfl)
      exact stays ((sound.verify sized).setStatus (fun _ _ => verify_completable sized) moved)
        (by rw [standing]; rfl) (by rw [standing]; rfl) rfl
  | recognised standing answer expected moved =>
      have sized := sizes (by rw [standing]; rfl)
      exact stays ((sound.verify sized).setStatus (fun _ _ => verify_completable sized) moved)
        (by rw [standing]; rfl) (by rw [standing]; rfl) rfl
  | resultSent standing answer =>
      exact stays sound (by rw [standing]; rfl) (by rw [standing]; rfl) rfl
  | notified standing answer =>
      exact ⟨sound, .nextFile (known (by rw [standing]; rfl))⟩
  | fin standing answer expected => exact ⟨sound, .free rfl rfl⟩
  | confirmed standing answer => exact ⟨sound, .free rfl rfl⟩
  | closed standing answer => exact ⟨sound, .free rfl rfl⟩
  | settled standing answer => exact ⟨sound, .free rfl rfl⟩
  | escaped outside raises => exact ⟨sound, .free rfl rfl⟩
  | @handled block error middle next status message inside raises verified handler moved =>
      have here := ReceiveSession.block?_fileBlock? inside
      have states : session.phase.states? = some block.states := by
        unfold ReceiveSession.block? at inside
        split at inside <;> cases inside <;> simp [ReceivePhase.states?, *]
      have incomplete := handlerStatus_incomplete handler
      have middleSound : middle.AllSound := by
        rcases verified with rfl | ⟨finalPath, rfl⟩
        · exact sound
        · exact sound.verify (sizes here)
      exact stays (middleSound.setStatus (fun complete => absurd complete incomplete) moved)
        here.symm states.symm rfl
  | @refused block error transitionError middle status message inside raises verified handler moved =>
      have here := ReceiveSession.block?_fileBlock? inside
      refine ⟨?_, .free rfl rfl⟩
      rcases verified with rfl | ⟨finalPath, rfl⟩
      · exact sound
      · exact sound.verify (sizes here)

/-! ## Counters -/

/-- The record whose octets the next step of a session may count anew. -/
def ReceiveSession.recounted (registry : Registry) (session : ReceiveSession) : Option Nat :=
  match session.phase with
  | .fileStart _ file => (session.origin.offer.files[file]?).bind fun offered =>
      registry.index.get (session.transferId, offered.fileId)
  | .inside block (.write _ _) | .inside block (.markCompleted _) | .inside block (.knownEnd _) =>
      some block.record
  | _ => none

/-- Every record but one has as many octets as before. -/
def KeepsCounters (recounted : Option Nat) (registry next : Registry) : Prop :=
  ∀ (record : Nat) (old new : TransferInfo), recounted ≠ some record →
    registry.transfers[record]? = some old → next.transfers[record]? = some new →
    new.bytesTransferred = old.bytesTransferred

variable {recounted : Option Nat} {middle : Registry}

@[refl] theorem KeepsCounters.refl : KeepsCounters recounted registry registry := by
  intro record old new _ found again
  cases found.symm.trans again
  rfl

theorem KeepsCounters.update {change : TransferInfo → TransferInfo} :
    KeepsCounters (some record) registry (registry.update record change) := by
  intro other old new different found again
  have apart : record ≠ other := fun same => different (congrArg some same)
  rw [Registry.update] at again
  split at again
  · rw [Registry.set, List.getElem?_set_ne apart, found] at again
    cases again
    rfl
  · cases found.symm.trans again
    rfl

theorem KeepsCounters.setStatus {status : TransferStatus} {error : Option PyStr}
    (kept : KeepsCounters recounted registry middle)
    (moved : middle.setStatus record status error now = .ok next) :
    KeepsCounters recounted registry next := by
  rcases Registry.setStatus_cases moved with ⟨_, rfl⟩ | ⟨info, found, _, rfl⟩
  · exact kept
  · intro other old new different there again
    have bound := (List.getElem?_eq_some_iff.mp found).1
    by_cases same : other = record
    · subst same
      rw [Registry.set, List.getElem?_set_self bound] at again
      cases again
      rw [TransferInfo.moved_bytesTransferred]
      exact kept other old info different there found
    · rw [Registry.set, List.getElem?_set_ne (Ne.symm same)] at again
      exact kept other old new different there again

theorem getOrCreate_counters {origin : Origin} {offered : IncomingFile} {offset : Nat}
    (ok : getOrCreate registry origin offered offset now = .ok (next, record)) :
    KeepsCounters (registry.index.get (origin.offer.transferId, offered.fileId)) registry next := by
  intro other old new different found again
  have bound := (List.getElem?_eq_some_iff.mp found).1
  unfold getOrCreate at ok
  dsimp only at ok
  split at ok
  · cases ok
    rw [Registry.append, List.getElem?_append_left bound, found] at again
    cases again
    rfl
  · next known indexed =>
      split at ok
      · cases ok
      · cases ok
        have apart : record ≠ other := by
          intro same
          exact different (same ▸ indexed)
        rw [Registry.set, List.getElem?_set_ne apart, found] at again
        cases again
        rfl

/-- What raises an exception inside a block counts only a verified file anew. -/
theorem advanceInside_counters {session : ReceiveSession} {call : BlockCall} {event : ReceiveEvent}
    {error : Raised} (standing : session.phase = .inside block call)
    (advanced : session.advanceInside registry block call event = some (next, .error error)) :
    KeepsCounters (session.recounted registry) registry next := by
  have verifies : (∃ finalPath, call = .markCompleted finalPath ∨ call = .knownEnd finalPath) →
      KeepsCounters (session.recounted registry) registry next := by
    intro counts
    have here : session.recounted registry = some block.record := by
      obtain ⟨finalPath, rfl | rfl⟩ := counts <;> simp [ReceiveSession.recounted, standing]
    rw [here]
    rcases ReceiveSession.advanceInside_raises advanced with rfl | ⟨finalPath, rfl⟩
    · rfl
    · exact .update
  obtain ⟨clock, answer⟩ := event
  cases call with
  | markCompleted finalPath => exact verifies ⟨finalPath, .inl rfl⟩
  | knownEnd finalPath => exact verifies ⟨finalPath, .inr rfl⟩
  | _ =>
      have same : next = registry := by
        unfold ReceiveSession.advanceInside at advanced
        cases answer <;> dsimp only at advanced
        all_goals first
          | (cases advanced; done)
          | (split at advanced <;> cases advanced <;> rfl)
          | (cases advanced; rfl)
      rw [same]

theorem advance_counters {session : ReceiveSession} {event : ReceiveEvent} {error : Raised}
    (advanced : session.advance registry event = some (next, .error error)) :
    KeepsCounters (session.recounted registry) registry next := by
  cases inside : session.block? with
  | none => rw [ReceiveSession.advance_outside inside advanced]
  | some block =>
      cases standing : session.phase with
      | inside other call =>
          simp only [ReceiveSession.advance, standing] at advanced
          exact advanceInside_counters standing advanced
      | created other =>
          rcases ReceiveSession.advance_raises inside advanced with same | ⟨_, _⟩
          · rw [same]
          · cases answer : event.answer <;>
              simp only [ReceiveSession.advance, standing, answer] at advanced
            case done =>
              have entered := Option.some.inj advanced
              unfold ReceiveSession.enterBlock at entered
              split at entered
              · cases entered
              · split at entered <;> cases entered
                rfl
            all_goals cases advanced
      | _ => simp [ReceiveSession.block?, standing] at inside

/-- One step of a session counts the octets of one record at most. -/
theorem Transition.counters {session after : ReceiveSession} {event : ReceiveEvent}
    (transition : ReceiveSession.Transition registry session event next after) :
    KeepsCounters (session.recounted registry) registry next := by
  cases transition with
  | began standing answer listed type transfer named told created =>
      have here := getOrCreate_counters created
      simp only [ReceiveSession.recounted, standing, listed, Option.bind_some]
      exact here
  | entered standing answer unknown moved => exact KeepsCounters.refl.setStatus moved
  | written standing answer =>
      simp only [ReceiveSession.recounted, standing]
      exact .update
  | marked standing answer moved =>
      simp only [ReceiveSession.recounted, standing]
      exact KeepsCounters.update.setStatus moved
  | recognised standing answer expected moved =>
      simp only [ReceiveSession.recounted, standing]
      exact KeepsCounters.update.setStatus moved
  | handled inside raises verified handler moved => exact (advance_counters raises).setStatus moved
  | refused inside raises verified handler refusal => exact advance_counters raises
  | _ => rfl

/-! ## All sessions -/

/-- The condition on a step of the receiver: while a session awaits the octets of a
chunk it has accepted, no other session counts the octets of that record. -/
def ReceivesWhole (state : Receiving) : ReceiveLabel → Prop
  | .accept _ _ _ => True
  | .session index event => ∀ session, state.sessions[index]? = some session →
      RestartsWhole state.registry session event ∧
      ∀ (place : Nat) (other : ReceiveSession) (block : FileBlock), place ≠ index →
        state.sessions[place]? = some other → other.phase.fileBlock? = some block →
        other.phase.awaited ≠ 0 → session.recounted state.registry ≠ some block.record

structure SoundReceiving (state : Receiving) : Prop where
  keyed : state.registry.Keyed
  sound : state.registry.AllSound
  anchored : ∀ session ∈ state.sessions, session.Anchored state.registry
  distinct : ∀ session ∈ state.sessions,
    (session.origin.offer.files.map IncomingFile.fileId).Nodup
  fitting : ∀ session ∈ state.sessions,
    Fitting state.registry session.origin.offer session.phase

/-- Every record stays at its place, and its status stands once it is terminal. -/
def Registry.Settles (registry next : Registry) : Prop :=
  ∀ (record : Nat) (old : TransferInfo), registry.transfers[record]? = some old →
    ∃ new, next.transfers[record]? = some new ∧ new.filesize = old.filesize ∧
      (isTerminal old.status = true → new.status = old.status)

/-- A session that waits while another takes a step that does not count its octets. -/
theorem Fitting.wait {origin : Origin} (fit : Fitting registry offer phase)
    (evolves : registry.Evolves origin next) (sound : next.AllSound)
    (kept : KeepsCounters recounted registry next)
    (anchored : ∀ block, phase.fileBlock? = some block →
      ∃ info, registry.transfers[block.record]? = some info)
    (undisturbed : ∀ block, phase.fileBlock? = some block → phase.awaited ≠ 0 →
      recounted ≠ some block.record) : Fitting next offer phase where
  ranges := fit.ranges
  sized block info here found := by
    obtain ⟨old, there⟩ := anchored block here
    obtain ⟨new, again, same, _⟩ := evolves.kept _ old there
    cases found.symm.trans again
    exact same.filesize.trans (fit.sized block old here there)
  cursor block info here found := by
    obtain ⟨old, there⟩ := anchored block here
    obtain ⟨new, again, same, _⟩ := evolves.kept _ old there
    cases found.symm.trans again
    by_cases idle : phase.awaited = 0
    · rw [idle]
      exact (sound info (List.mem_of_getElem? found)).bounded
    · have counted := kept _ old info (undisturbed block here idle) there found
      rw [counted, same.filesize]
      exact fit.cursor block old here there

/-- A session that has just been accepted. -/
theorem fresh_anchored (origin : Origin) :
    ReceiveSession.Anchored registry ⟨origin, .resumeQuery, [], [], none⟩ where
  offered block here := by cases here
  anchored block here := by cases here
  begun file offered before listed := absurd before (Nat.not_lt_zero file)

theorem SoundReceiving.start : SoundReceiving .start where
  keyed := by
    constructor
    · intro record info found
      cases found
    · intro transferId fileId record found
      cases found
  sound info member := by cases member
  anchored session member := by cases member
  distinct session member := by cases member
  fitting session member := by cases member

/-- One step of the receiver. -/
theorem SoundReceiving.step {platform : Platform} {state next : Receiving} {label : ReceiveLabel}
    (holds : SoundReceiving state) (condition : ReceivesWhole state label)
    (stepped : receiveStep platform state label = some next) :
    SoundReceiving next ∧ state.registry.Settles next.registry := by
  cases label with
  | accept peerIp peerDeviceId payload =>
      simp only [receiveStep] at stepped
      split at stepped
      · cases stepped
      · next offer accepted =>
          cases stepped
          obtain ⟨offerable, _⟩ := validateOffer_offerable accepted
          refine ⟨⟨holds.keyed, holds.sound, ?_, ?_, ?_⟩, fun record old found =>
            ⟨old, found, rfl, fun _ => rfl⟩⟩
          · intro session member
            cases List.mem_append.mp member with
            | inl before => exact holds.anchored session before
            | inr new =>
                cases List.mem_singleton.mp new
                exact fresh_anchored _
          · intro session member
            cases List.mem_append.mp member with
            | inl before => exact holds.distinct session before
            | inr new =>
                cases List.mem_singleton.mp new
                exact offerable.distinct
          · intro session member
            cases List.mem_append.mp member with
            | inl before => exact holds.fitting session before
            | inr new =>
                cases List.mem_singleton.mp new
                exact .free rfl rfl
  | session index event =>
      simp only [receiveStep, Option.bind_eq_bind, Option.bind_eq_some_iff] at stepped
      obtain ⟨session, found, ⟨registry, after⟩, sessionStepped, finished⟩ := stepped
      cases finished
      have member := List.mem_of_getElem? found
      have transition := ReceiveSession.step_transition sessionStepped
      obtain ⟨restarts, undisturbed⟩ := condition session found
      obtain ⟨evolves, anchored, origin⟩ :=
        transition.anchored holds.keyed (holds.anchored session member)
      obtain ⟨sound, fitting⟩ := Transition.fitting holds.keyed holds.sound
        (holds.anchored session member) (holds.distinct session member)
        (holds.fitting session member) restarts transition
      refine ⟨⟨evolves.keyed holds.keyed, sound, ?_, ?_, ?_⟩, ?_⟩
      · intro other among
        cases List.mem_or_eq_of_mem_set among with
        | inl before => exact (holds.anchored other before).evolves evolves
        | inr same =>
            rw [same]
            exact anchored
      · intro other among
        cases List.mem_or_eq_of_mem_set among with
        | inl before => exact holds.distinct other before
        | inr same =>
            rw [same, origin]
            exact holds.distinct session member
      · intro other among
        obtain ⟨place, there⟩ := List.mem_iff_getElem?.mp among
        by_cases own : place = index
        · subst own
          have bound := (List.getElem?_eq_some_iff.mp found).1
          rw [List.getElem?_set_self bound] at there
          cases there
          rw [origin]
          exact fitting
        · rw [List.getElem?_set_ne (Ne.symm own)] at there
          have before := List.mem_of_getElem? there
          apply (holds.fitting other before).wait evolves sound (Transition.counters transition)
          · intro block here
            obtain ⟨info, standing, _⟩ := (holds.anchored other before).anchored block here
            exact ⟨info, standing⟩
          · intro block here busy
            exact undisturbed place other block own there here busy
      · intro record old standing
        obtain ⟨new, again, same, reaches, _⟩ := evolves.kept record old standing
        exact ⟨new, again, same.filesize, fun ended => reaches_terminal ended reaches⟩

end DirectTransfer
