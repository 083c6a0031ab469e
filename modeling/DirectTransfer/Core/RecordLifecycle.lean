import DirectTransfer.Core.BatchWorkerProperties
import DirectTransfer.Core.PayloadErrors

/-! What is promised of a transfer record at every moment, and the records of a
sending worker under that promise. -/

set_option autoImplicit false

namespace DirectTransfer

open Library

/-! ## One record -/

/-- The counters stay within the size, a record is stamped when it has ended, and
a complete one is whole and, where it was received, has its place. -/
structure SoundRecord (info : TransferInfo) : Prop where
  resumed : info.resumeOffset ≤ info.filesize
  bounded : info.bytesTransferred ≤ info.filesize
  timed : info.completedAt.isSome = isTerminal info.status
  whole : info.status = .complete → info.bytesTransferred = info.filesize
  stored : info.status = .complete → info.direction = .recv → info.finalPath.isSome = true

/-- A record of the same file, whose status stands once it is terminal. -/
structure Carries (old new : TransferInfo) : Prop where
  filesize : new.filesize = old.filesize
  direction : new.direction = old.direction
  settled : isTerminal old.status = true → new.status = old.status
  sound : SoundRecord old → SoundRecord new

variable {info : TransferInfo} {status : TransferStatus} {error : Option PyStr} {now : Time}

@[refl] theorem Carries.refl (info : TransferInfo) : Carries info info where
  filesize := rfl
  direction := rfl
  settled _ := rfl
  sound sound := sound

@[trans] theorem Carries.trans {old middle new : TransferInfo} (first : Carries old middle)
    (second : Carries middle new) : Carries old new where
  filesize := second.filesize.trans first.filesize
  direction := second.direction.trans first.direction
  settled terminal := by
    have same := first.settled terminal
    rw [second.settled (by rw [same]; exact terminal), same]
  sound sound := second.sound (first.sound sound)

/-- What completing a record takes. -/
structure Completable (info : TransferInfo) : Prop where
  whole : info.bytesTransferred = info.filesize
  stored : info.direction = .recv → info.finalPath.isSome = true

theorem SoundRecord.moved (sound : SoundRecord info) (reaches : Reaches info.status status)
    (completes : status = .complete → Completable info) :
    SoundRecord (info.moved status error now) := by
  constructor
  · simpa using sound.resumed
  · simpa using sound.bounded
  · rw [TransferInfo.moved_completedAt, TransferInfo.moved_status]
    by_cases same : info.status = status
    · rw [if_pos same, ← same]
      exact sound.timed
    · have running : isTerminal info.status = false := by
        cases terminal : isTerminal info.status with
        | false => rfl
        | true => exact absurd (reaches_terminal terminal reaches).symm same
      rw [if_neg same]
      cases ends : isTerminal status with
      | true => rfl
      | false =>
          have unstamped := sound.timed
          rw [running] at unstamped
          exact unstamped
  · intro complete
    rw [TransferInfo.moved_status] at complete
    simpa using (completes complete).whole
  · intro complete received
    rw [TransferInfo.moved_status] at complete
    rw [TransferInfo.moved_direction] at received
    rw [TransferInfo.moved_finalPath]
    exact (completes complete).stored received

theorem Carries.moved (reaches : Reaches info.status status)
    (completes : status = .complete → Completable info) :
    Carries info (info.moved status error now) where
  filesize := by simp
  direction := by simp
  settled terminal := by
    rw [TransferInfo.moved_status]
    exact reaches_terminal terminal reaches
  sound sound := sound.moved reaches completes

/-- A transition to a status other than complete carries the record. -/
theorem carries_transition {next : TransferInfo} (incomplete : status ≠ .complete)
    (moved : transition info status error now = .ok next) : Carries info next := by
  obtain ⟨reaches, rfl⟩ := transition_cases moved
  exact .moved reaches fun complete => absurd complete incomplete

/-- The counters of a record set to an offset. -/
theorem Carries.placed {offset : Nat} (ranged : offset ≤ info.filesize)
    (whole : info.status = .complete → offset = info.filesize) (count : Nat) :
    Carries info { info with
      resumeOffset := offset
      bytesTransferred := offset
      bytesTransferredThisAttempt := count } where
  filesize := rfl
  direction := rfl
  settled _ := rfl
  sound sound := ⟨ranged, ranged, sound.timed, whole, sound.stored⟩

/-- The counters of a record after one more chunk. -/
theorem Carries.counted {length : Nat} (fits : info.bytesTransferred + length ≤ info.filesize)
    (count : Nat) : Carries info { info with
      bytesTransferred := info.bytesTransferred + length
      bytesTransferredThisAttempt := count } where
  filesize := rfl
  direction := rfl
  settled _ := rfl
  sound sound := by
    refine ⟨sound.resumed, fits, sound.timed, fun complete => ?_, sound.stored⟩
    have whole := sound.whole complete
    show info.bytesTransferred + length = info.filesize
    omega

/-! ## The records of a worker -/

theorem carries_all (infos : List TransferInfo) : List.Forall₂ Carries infos infos :=
  List.forall₂_same.mpr fun info _ => .refl info

theorem carries_set {infos : List TransferInfo} {file : Nat} {new : TransferInfo}
    (carries : ∀ old, infos[file]? = some old → Carries old new) :
    List.Forall₂ Carries infos (infos.set file new) := by
  induction infos generalizing file with
  | nil => exact .nil
  | cons head rest ih =>
      cases file with
      | zero => exact .cons (carries head rfl) (carries_all rest)
      | succ file => exact .cons (.refl head) (ih fun old found => carries old found)

theorem carries_getElem {infos next : List TransferInfo} (carries : List.Forall₂ Carries infos next)
    {file : Nat} {new : TransferInfo} (found : next[file]? = some new) :
    ∃ old, infos[file]? = some old ∧ Carries old new := by
  induction carries generalizing file with
  | nil => cases found
  | cons head _ ih =>
      cases file with
      | zero =>
          cases found
          exact ⟨_, rfl, head⟩
      | succ file => exact ih found

theorem carries_kept {infos next : List TransferInfo} (carries : List.Forall₂ Carries infos next)
    {file : Nat} {old : TransferInfo} (found : infos[file]? = some old) :
    ∃ new, next[file]? = some new ∧ Carries old new := by
  induction carries generalizing file with
  | nil => cases found
  | cons head _ ih =>
      cases file with
      | zero =>
          cases found
          exact ⟨_, rfl, head⟩
      | succ file => exact ih found

theorem carries_sound {infos next : List TransferInfo} (carries : List.Forall₂ Carries infos next)
    (sound : ∀ info ∈ infos, SoundRecord info) : ∀ info ∈ next, SoundRecord info := by
  intro info member
  obtain ⟨file, found⟩ := List.mem_iff_getElem?.mp member
  obtain ⟨old, there, carried⟩ := carries_getElem carries found
  exact carried.sound (sound old (List.mem_of_getElem? there))

theorem carries_trans {infos middle next : List TransferInfo}
    (first : List.Forall₂ Carries infos middle) (second : List.Forall₂ Carries middle next) :
    List.Forall₂ Carries infos next := by
  induction first generalizing next with
  | nil => exact second
  | cons head _ ih =>
      cases second with
      | cons here rest => exact .cons (head.trans here) (ih rest)

/-! ### The loops over all files -/

theorem settle_carries (infos : List TransferInfo) (text : PyStr) (incomplete : status ≠ .complete) :
    List.Forall₂ Carries infos (settle infos status text now).1 := by
  induction infos with
  | nil => exact .nil
  | cons info rest ih =>
      unfold settle
      split
      · exact .cons (.refl info) ih
      · split
        · exact carries_all _
        · next moved => exact .cons (carries_transition incomplete moved) ih

theorem resumeAll_carries (infos : List TransferInfo) (attempt : Nat) :
    List.Forall₂ Carries infos (resumeAll infos attempt now).1 := by
  induction infos with
  | nil => exact .nil
  | cons info rest ih =>
      have counted : Carries info { info with retryCount := attempt } :=
        ⟨rfl, rfl, fun _ => rfl, fun sound =>
          ⟨sound.resumed, sound.bounded, sound.timed, sound.whole, sound.stored⟩⟩
      unfold resumeAll
      dsimp only
      split
      · exact .cons counted ih
      · split
        · exact .cons counted (carries_all rest)
        · next moved => exact .cons (counted.trans (carries_transition (by decide) moved)) ih

theorem acceptPending_carries (infos : List TransferInfo) :
    List.Forall₂ Carries infos (acceptPending infos now).1 := by
  induction infos with
  | nil => exact .nil
  | cons info rest ih =>
      unfold acceptPending
      split
      · split
        · exact carries_all _
        · next moved => exact .cons (carries_transition (by decide) moved) ih
      · exact .cons (.refl info) ih

/-! ### The block of a file -/

theorem beginFile_carries {offset : Nat} (ranged : offset ≤ info.filesize)
    (whole : info.status = .complete → offset = info.filesize) :
    Carries info (beginFile info offset now).1 := by
  have placed := Carries.placed ranged whole 0
  unfold beginFile
  dsimp only
  split
  · exact placed
  · split
    · exact placed
    · next moved begun =>
        have incomplete : (if offset ≠ 0 then TransferStatus.resuming else .active) ≠ .complete := by
          split <;> decide
        have carried := placed.trans (carries_transition incomplete begun)
        split
        · split
          · exact carried
          · next active => exact carried.trans (carries_transition (by decide) active)
        · exact carried

theorem countChunk_carries {infos : List TransferInfo} {file : Nat} {raw : Bytes}
    (fits : ∀ info, infos[file]? = some info → info.bytesTransferred + raw.length ≤ info.filesize) :
    List.Forall₂ Carries infos (countChunk infos file raw) := by
  induction infos generalizing file with
  | nil => cases file <;> exact .nil
  | cons head rest ih =>
      cases file with
      | zero => exact .cons (.counted (fits head rfl) _) (carries_all rest)
      | succ file => exact .cons (.refl head) (ih fun info found => fits info found)

/-! ## The records of a session -/

/-- Every record is of the file that was read in its place. -/
def Sized (fileMeta : List FileMeta) (infos : List TransferInfo) : Prop :=
  ∀ (file : Nat) (info : TransferInfo), infos[file]? = some info →
    ∃ source : FileMeta, fileMeta[file]? = some source ∧ source.size = info.filesize

theorem Sized.carried {fileMeta : List FileMeta} {infos next : List TransferInfo}
    (sized : Sized fileMeta infos) (carries : List.Forall₂ Carries infos next) :
    Sized fileMeta next := by
  intro file info found
  obtain ⟨old, there, carried⟩ := carries_getElem carries found
  obtain ⟨source, read, same⟩ := sized file old there
  exact ⟨source, read, same.trans carried.filesize.symm⟩

/-- The offer is of the files that were read. -/
structure Announces (fileMeta : List FileMeta) (offer : TransferOffer) : Prop where
  sizes : offer.files.map IncomingFile.size = fileMeta.map FileMeta.size
  distinct : (offer.files.map IncomingFile.fileId).Nodup

theorem Announces.size {fileMeta : List FileMeta} {offer : TransferOffer}
    (announces : Announces fileMeta offer) {infos : List TransferInfo}
    (sized : Sized fileMeta infos) {file : Nat} {info : TransferInfo} {offered : IncomingFile}
    (found : infos[file]? = some info) (listed : offer.files[file]? = some offered) :
    offered.size = info.filesize := by
  obtain ⟨source, read, same⟩ := sized file info found
  have sizes := congrArg (fun sizes => sizes[file]?) announces.sizes
  simp only [List.getElem?_map, listed, read, Option.map_some, Option.some.injEq] at sizes
  exact sizes.trans same

/-- The offsets lie within the files, and are the sizes of complete files from
`file` on. -/
structure OffsetsFit (fileMeta : List FileMeta) (infos : List TransferInfo) (payload : Payload)
    (file : Nat) : Prop where
  announces : Announces fileMeta payload.offer
  ranged : ∀ offered ∈ payload.offer.files, ∀ offset,
    payload.offsets.get offered.fileId = some offset → offset ≤ offered.size
  whole : ∀ (later : Nat) (info : TransferInfo) (offered : IncomingFile) (offset : Nat),
    file ≤ later → infos[later]? = some info →
    payload.offer.files[later]? = some offered →
    payload.offsets.get offered.fileId = some offset →
    info.status = .complete → offset = info.filesize

/-- Changing records before `file` leaves the offsets. -/
theorem OffsetsFit.set {fileMeta : List FileMeta} {infos : List TransferInfo} {payload : Payload}
    {file : Nat} {new : TransferInfo} (fit : OffsetsFit fileMeta infos payload file) :
    OffsetsFit fileMeta (infos.set file new) payload (file + 1) := by
  refine ⟨fit.announces, fit.ranged, ?_⟩
  intro later info offered offset after found listed known complete
  rw [List.getElem?_set_ne (by omega)] at found
  exact fit.whole later info offered offset (by omega) found listed known complete

theorem OffsetsFit.next {fileMeta : List FileMeta} {infos : List TransferInfo} {payload : Payload}
    {file : Nat} (fit : OffsetsFit fileMeta infos payload file) :
    OffsetsFit fileMeta infos payload (file + 1) :=
  ⟨fit.announces, fit.ranged, fun later info offered offset after =>
    fit.whole later info offered offset (by omega)⟩

def SessionFits (fileMeta : List FileMeta) (infos : List TransferInfo) : SendPhase → Prop
  | .resumeQuery offer | .resumeState offer => Announces fileMeta offer
  | .fileStart payload file | .openFile payload file | .chunkCancelled payload file _
  | .read payload file _ => OffsetsFit fileMeta infos payload (file + 1)
  | .chunkHeader payload file _ raw | .chunkData payload file _ raw =>
      OffsetsFit fileMeta infos payload (file + 1) ∧ ∀ info, infos[file]? = some info →
        info.bytesTransferred + raw.length ≤ info.filesize
  | .fileEnd payload file | .fileResult payload file =>
      OffsetsFit fileMeta infos payload (file + 1) ∧ ∀ info, infos[file]? = some info →
        info.bytesTransferred = info.filesize
  | _ => True

/-- What a step makes of a session's records, and where it leaves the session. -/
structure SessionCarries (fileMeta : List FileMeta) (infos next : List TransferInfo)
    (progress : Progress) : Prop where
  carries : List.Forall₂ Carries infos next
  fits : ∀ phase, progress = .stands phase → SessionFits fileMeta next phase

theorem SessionCarries.ended {fileMeta : List FileMeta} {infos next : List TransferInfo}
    {outcome : Except Raised Unit} (carries : List.Forall₂ Carries infos next) :
    SessionCarries fileMeta infos next (.ended outcome) where
  carries := carries
  fits phase stands := by cases stands

theorem SessionCarries.stands {fileMeta : List FileMeta} {infos next : List TransferInfo}
    {phase : SendPhase} (carries : List.Forall₂ Carries infos next)
    (fits : SessionFits fileMeta next phase) :
    SessionCarries fileMeta infos next (.stands phase) where
  carries := carries
  fits other stands := by
    cases stands
    exact fits

variable {sending : Sending} {infos : List TransferInfo} {payload : Payload} {file : Nat}

theorem enterFile_carries (sized : Sized sending.fileMeta infos)
    (fit : OffsetsFit sending.fileMeta infos payload file) :
    SessionCarries sending.fileMeta infos (enterFile infos payload file now).1
      (enterFile infos payload file now).2 := by
  unfold enterFile
  split
  · next info offered found listed =>
      split
      · exact .ended (carries_all _)
      · next offset known =>
          have same := fit.announces.size sized found listed
          have ranged := fit.ranged offered (List.mem_of_getElem? listed) offset known
          have whole := fit.whole file info offered offset (Nat.le_refl _) found listed known
          have carries : List.Forall₂ Carries infos
              (infos.set file (beginFile info offset now).1) := by
            apply carries_set
            intro old there
            cases found.symm.trans there
            exact beginFile_carries (by omega) whole
          dsimp only
          split
          · exact .ended carries
          · exact .stands carries fit.set
  · exact .stands (carries_all _) trivial

theorem chunkLoop_carries {chunk : Nat} (sound : ∀ info ∈ infos, SoundRecord info)
    (sized : Sized sending.fileMeta infos)
    (fit : OffsetsFit sending.fileMeta infos payload (file + 1)) :
    SessionCarries sending.fileMeta infos infos (chunkLoop sending infos payload file chunk) := by
  unfold chunkLoop
  split
  · next info source found read =>
      obtain ⟨other, there, same⟩ := sized file info found
      cases read.symm.trans there
      split
      · exact .stands (carries_all _) fit
      · refine .stands (carries_all _) ⟨fit, fun again here => ?_⟩
        cases found.symm.trans here
        have bounded := (sound info (List.mem_of_getElem? found)).bounded
        omega
  · next missing =>
      refine .stands (carries_all _) ⟨fit, fun info found => ?_⟩
      obtain ⟨source, read, _⟩ := sized file info found
      exact absurd read (missing info source found)

theorem afterResult_carries (result : Json) (sized : Sized sending.fileMeta infos)
    (fit : OffsetsFit sending.fileMeta infos payload (file + 1))
    (finished : ∀ info, infos[file]? = some info → info.bytesTransferred = info.filesize)
    (outgoing : ∀ info ∈ infos, info.direction = .send) :
    SessionCarries sending.fileMeta infos (afterResult infos payload file result now).1
      (afterResult infos payload file result now).2 := by
  unfold afterResult
  split
  · next info offered found listed =>
      split
      · split
        · exact .ended (carries_all _)
        · next complete moved =>
            obtain ⟨reaches, rfl⟩ := transition_cases moved
            have completable : Completable info := by
              refine ⟨finished info found, fun received => ?_⟩
              rw [outgoing info (List.mem_of_getElem? found)] at received
              cases received
            have carries : List.Forall₂ Carries infos
                (infos.set file (info.moved .complete none now)) := by
              apply carries_set
              intro old there
              cases found.symm.trans there
              exact .moved reaches fun _ => completable
            have kept : OffsetsFit sending.fileMeta
                (infos.set file (info.moved .complete none now)) payload (file + 1) := by
              refine ⟨fit.announces, fit.ranged, ?_⟩
              intro later other offered offset after there
              rw [List.getElem?_set_ne (by omega)] at there
              exact fit.whole later other offered offset after there
            have entered := @enterFile_carries now sending _ payload (file + 1)
              (sized.carried carries) kept
            exact ⟨carries_trans carries entered.carries, entered.fits⟩
      · exact .ended (carries_all _)
  · exact .stands (carries_all _) trivial

/-! ## The steps of a worker -/

theorem validateFiles_sizes {platform : Platform} {files accepted : List IncomingFile}
    {seen : List PyStr} {total sum : Nat}
    (valid : validateFiles platform (files.map fileDescription) seen total = .ok (accepted, sum)) :
    accepted.map IncomingFile.size = files.map IncomingFile.size := by
  induction files generalizing seen total accepted sum with
  | nil =>
      cases valid
      rfl
  | cons file rest ih =>
      simp only [List.map_cons, validateFiles, bind, Except.bind, pure, Except.pure, throw, throwThe,
        MonadExceptOf.throw] at valid
      repeat' split at valid
      all_goals try cases valid
      next _ head first _ _ _ tail =>
        have described : (fileDescription file).field "size" = .int file.size := rfl
        have same : head.size = file.size := by
          unfold validateFile at first
          simp only [described, bind, Except.bind, pure, Except.pure, throw, throwThe,
            MonadExceptOf.throw] at first
          repeat' split at first
          all_goals try cases first
          rfl
        rw [List.map_cons, List.map_cons, same, ih tail]

theorem validateOffer_announces {offer : TransferOffer}
    (valid : validateOffer sending.platform sending.offerFrame = .ok offer) :
    Announces sending.fileMeta offer := by
  obtain ⟨rawFiles, total, listed, _, _, _, validated, _⟩ := validateOffer_cases valid
  have announced : sending.offerFrame.field "files" = .arr (sending.files.map fileDescription) := rfl
  rw [announced] at listed
  cases listed
  constructor
  · rw [validateFiles_sizes validated, Sending.files, announcedFiles_size]
  · exact (validateOffer_offerable valid).1.distinct

/-- The condition on a step of a worker. A read returns no more than is left of the
size that was announced, and the receiver still has every file that is complete. -/
structure SourcesStand (worker : BatchWorker) (event : Event) : Prop where
  reads : ∀ attempt payload file chunk raw info,
    worker.phase = .session attempt (.read payload file chunk) → event.answer = .octets raw →
    worker.infos[file]? = some info → info.bytesTransferred + raw.length ≤ info.filesize
  reported : ∀ attempt offer payload offsets,
    worker.phase = .session attempt (.resumeState offer) → event.answer = .control payload →
    validateResumeState payload offer = .ok offsets →
    ∀ (file : Nat) (info : TransferInfo) (offered : IncomingFile) (offset : Nat),
      worker.infos[file]? = some info → offer.files[file]? = some offered →
      offsets.get offered.fileId = some offset → info.status = .complete → offset = info.filesize

theorem afterResponse_carries (response : Json) :
    SessionCarries sending.fileMeta infos (afterResponse sending infos response now).1
      (afterResponse sending infos response now).2 := by
  unfold afterResponse
  split
  · exact .ended (carries_all _)
  · split <;> exact .ended (carries_all _)
  · dsimp only
    split
    · exact .ended (acceptPending_carries _)
    · split
      · exact .ended (acceptPending_carries _)
      · next offer valid =>
          exact .stands (acceptPending_carries _) (validateOffer_announces valid)

/-- One step of a session whose sources stand. -/
theorem sessionStep_carries {worker : BatchWorker} {event : Event} {attempt : Nat}
    {phase : SendPhase} {next : List TransferInfo} {progress : Progress}
    (standing : worker.phase = .session attempt phase) (stand : SourcesStand worker event)
    (sound : ∀ info ∈ worker.infos, SoundRecord info)
    (outgoing : ∀ info ∈ worker.infos, info.direction = .send)
    (sized : Sized worker.sending.fileMeta worker.infos)
    (fits : SessionFits worker.sending.fileMeta worker.infos phase)
    (stepped : sessionStep worker.sending worker.infos phase event = some (next, progress)) :
    SessionCarries worker.sending.fileMeta worker.infos next progress := by
  obtain ⟨now, answer⟩ := event
  by_cases raises : ∃ error, answer = .raised error
  · obtain ⟨error, rfl⟩ := raises
    obtain ⟨rfl, _, landed⟩ := sessionStep_raised stepped
    rcases landed with ⟨rfl, _, rfl⟩ | rfl
    · exact .stands (carries_all _) trivial
    · exact .ended (carries_all _)
  cases phase with
  | assertPeerProtocol | connect | resolveTrustedPeer | clientHandshake | transferOffer =>
      cases answer with
      | done =>
          cases stepped
          exact .stands (carries_all _) trivial
      | raised error => exact absurd ⟨error, rfl⟩ raises
      | _ => cases stepped
  | approvalDeadline | approvalCancelled =>
      cases answer with
      | flag value =>
          cases value <;> cases stepped
          · first | exact .ended (carries_all _) | exact .stands (carries_all _) trivial
          · exact .stands (carries_all _) trivial
      | raised error => exact absurd ⟨error, rfl⟩ raises
      | _ => cases stepped
  | approvalCancel | chunkCancel =>
      cases answer with
      | done =>
          cases stepped
          exact .ended (carries_all _)
      | raised error => exact absurd ⟨error, rfl⟩ raises
      | _ => cases stepped
  | transferResponse =>
      cases answer with
      | control response =>
          have carried := @afterResponse_carries now worker.sending worker.infos response
          rwa [Option.some.inj stepped] at carried
      | raised error => exact absurd ⟨error, rfl⟩ raises
      | _ => cases stepped
  | resumeQuery offer =>
      cases answer with
      | done =>
          cases stepped
          exact .stands (carries_all _) fits
      | raised error => exact absurd ⟨error, rfl⟩ raises
      | _ => cases stepped
  | resumeState offer =>
      cases answer with
      | control payload =>
          simp only [sessionStep] at stepped
          cases valid : validateResumeState payload offer with
          | error error =>
              rw [valid] at stepped
              cases stepped
              exact .ended (carries_all _)
          | ok offsets =>
              rw [valid] at stepped
              have announces : Announces worker.sending.fileMeta offer := fits
              have fit : OffsetsFit worker.sending.fileMeta worker.infos ⟨offer, offsets⟩ 0 := by
                refine ⟨announces, (validateResumeState_sound announces.distinct valid).ranged, ?_⟩
                intro later info offered offset _
                exact stand.reported attempt offer payload offsets standing rfl valid later info
                  offered offset
              have carried := @enterFile_carries now worker.sending _ _ _ sized fit
              rwa [Option.some.inj stepped] at carried
      | raised error => exact absurd ⟨error, rfl⟩ raises
      | _ => cases stepped
  | fileStart payload file | chunkHeader payload file chunk raw | fileEnd payload file =>
      cases answer with
      | done =>
          cases stepped
          exact .stands (carries_all _) fits
      | raised error => exact absurd ⟨error, rfl⟩ raises
      | _ => cases stepped
  | openFile payload file =>
      cases answer with
      | done =>
          simp only [sessionStep] at stepped
          split at stepped
          · cases stepped
            exact chunkLoop_carries sound sized fits
          · cases stepped
      | raised error => exact absurd ⟨error, rfl⟩ raises
      | _ => cases stepped
  | chunkCancelled payload file chunk =>
      cases answer with
      | flag cancelled =>
          cases cancelled <;> cases stepped
          · exact .stands (carries_all _) fits
          · exact .stands (carries_all _) trivial
      | raised error => exact absurd ⟨error, rfl⟩ raises
      | _ => cases stepped
  | read payload file chunk =>
      cases answer with
      | octets raw =>
          simp only [sessionStep] at stepped
          split at stepped
          · cases stepped
          · split at stepped <;> cases stepped
            · exact .ended (carries_all _)
            · refine .stands (carries_all _) ⟨fits, fun info found => ?_⟩
              exact stand.reads attempt payload file chunk raw info standing rfl found
      | raised error => exact absurd ⟨error, rfl⟩ raises
      | _ => cases stepped
  | chunkData payload file chunk raw =>
      cases answer with
      | done =>
          cases stepped
          have carries := countChunk_carries fits.2
          have kept : OffsetsFit worker.sending.fileMeta (countChunk worker.infos file raw) payload
              (file + 1) := by
            refine ⟨fits.1.announces, fits.1.ranged, ?_⟩
            intro later info offered offset after found
            have apart : file ≠ later := by omega
            rw [countChunk, List.getElem?_modify_ne _ _ apart] at found
            exact fits.1.whole later info offered offset after found
          have entered := @chunkLoop_carries worker.sending _ payload file (chunk + 1)
            (carries_sound carries sound) (sized.carried carries) kept
          exact ⟨carries_trans carries entered.carries, entered.fits⟩
      | raised error => exact absurd ⟨error, rfl⟩ raises
      | _ => cases stepped
  | fileResult payload file =>
      cases answer with
      | control result =>
          have carried := @afterResult_carries now worker.sending _ payload file result sized fits.1
            fits.2 outgoing
          rwa [Option.some.inj stepped] at carried
      | raised error => exact absurd ⟨error, rfl⟩ raises
      | _ => cases stepped
  | fin offer =>
      cases answer with
      | done =>
          cases stepped
          exact .stands (carries_all _) trivial
      | raised error => exact absurd ⟨error, rfl⟩ raises
      | _ => cases stepped
  | sessionComplete offer =>
      cases answer with
      | control result =>
          simp only [sessionStep] at stepped
          split at stepped <;> cases stepped <;> exact .ended (carries_all _)
      | raised error => exact absurd ⟨error, rfl⟩ raises
      | _ => cases stepped

/-- What is relied on where a worker stands. -/
def PhaseFits (fileMeta : List FileMeta) (infos : List TransferInfo) : WorkerPhase → Prop
  | .isFile _ _ | .stat _ | .hash _ _ _ => infos = []
  | .register index => infos.length = index
  | .session _ phase => SessionFits fileMeta infos phase
  | _ => True

structure WorkerSound (worker : BatchWorker) : Prop where
  sound : ∀ info ∈ worker.infos, SoundRecord info
  outgoing : ∀ info ∈ worker.infos, info.direction = .send
  sized : Sized worker.sending.fileMeta worker.infos
  fits : PhaseFits worker.sending.fileMeta worker.infos worker.phase

/-- A step of a worker: its records are carried, and it is as sound as before. -/
structure WorkerCarries (worker next : BatchWorker) : Prop where
  sound : WorkerSound next
  kept : ∀ (file : Nat) (info : TransferInfo), worker.infos[file]? = some info →
    ∃ new, next.infos[file]? = some new ∧ Carries info new

variable {worker next : BatchWorker} {event : Event}

theorem WorkerSound.carried (holds : WorkerSound worker)
    (carries : List.Forall₂ Carries worker.infos next.infos)
    (same : next.sending = worker.sending)
    (fits : PhaseFits next.sending.fileMeta next.infos next.phase) : WorkerCarries worker next := by
  refine ⟨⟨carries_sound carries holds.sound, ?_, ?_, fits⟩, fun file info found =>
    carries_kept carries found⟩
  · intro info member
    obtain ⟨file, found⟩ := List.mem_iff_getElem?.mp member
    obtain ⟨old, there, carried⟩ := carries_getElem carries found
    exact carried.direction.trans (holds.outgoing old (List.mem_of_getElem? there))
  · rw [same]
    exact holds.sized.carried carries

/-- A worker that has no records yet. -/
theorem WorkerSound.unregistered (none : worker.infos = [])
    (fits : PhaseFits worker.sending.fileMeta worker.infos worker.phase) : WorkerSound worker where
  sound info member := by
    rw [none] at member
    cases member
  outgoing info member := by
    rw [none] at member
    cases member
  sized file info found := by
    rw [none] at found
    cases found
  fits := fits

theorem afterChecks_fits {fileMeta : List FileMeta} (pending valid : List PyStr) :
    PhaseFits fileMeta [] (afterChecks pending valid) := by
  unfold afterChecks
  split
  · split <;> trivial
  · trivial

theorem proceed_carries {changed : List TransferInfo × Option Raised} {phase : WorkerPhase}
    (holds : WorkerSound worker) (carries : List.Forall₂ Carries worker.infos changed.1)
    (fits : PhaseFits worker.sending.fileMeta changed.1 phase) :
    WorkerCarries worker (worker.proceed changed phase) := by
  refine holds.carried carries rfl ?_
  unfold BatchWorker.proceed
  dsimp only
  split
  · trivial
  · exact fits

/-- How a worker goes on after a session. -/
theorem afterSession_carries {attempt : Nat} {infos : List TransferInfo}
    {outcome : Except Raised Unit} (holds : WorkerSound worker)
    (carries : List.Forall₂ Carries worker.infos infos) :
    WorkerCarries worker (worker.afterSession attempt infos outcome now) := by
  have settled (status : TransferStatus) (text : PyStr) (phase : WorkerPhase)
      (incomplete : status ≠ .complete)
      (fits : PhaseFits worker.sending.fileMeta (settle infos status text now).1 phase) :
      WorkerCarries worker (worker.proceed (settle infos status text now) phase) :=
    proceed_carries holds (carries_trans carries (settle_carries infos text incomplete)) fits
  cases outcome with
  | ok => exact holds.carried carries rfl trivial
  | error error =>
      obtain ⟨kind, message⟩ := error
      cases kind with
      | osError | timeoutError =>
          by_cases last : attempt = maxRetries
          · simp only [BatchWorker.afterSession, last, ↓reduceIte]
            exact settled .failed _ .returned (by decide) trivial
          · simp only [BatchWorker.afterSession, if_neg last]
            exact settled .interrupted _ (.cancelled (attempt + 1)) (by decide) trivial
      | transferRejected => exact settled .rejected _ .returned (by decide) trivial
      | approvalTimeout | authenticationError | protocolError | invalidTag =>
          exact settled .failed _ .returned (by decide) trivial
      | transferCancelled => exact settled .cancelled _ .returned (by decide) trivial
      | valueError | endpointError | invalidTransferTransition | keyError | typeError | structError
      | jsonDecodeError | unicodeDecodeError | recursionError | overflowError =>
          exact holds.carried carries rfl trivial

/-- A record that has just been registered. -/
theorem registered_sound (sending : Sending) (index : Nat) (source : FileMeta)
    (peerDeviceId : Option PyStr) (now : Time) :
    SoundRecord (registeredInfo sending index source peerDeviceId now) where
  resumed := Nat.zero_le _
  bounded := Nat.zero_le _
  timed := rfl
  whole complete := by cases complete
  stored complete := by cases complete

theorem register_carries {index : Nat} (standing : worker.phase = .register index)
    (holds : WorkerSound worker) (stepped : workerStep worker event = some next) :
    WorkerCarries worker next := by
  obtain ⟨now, answer⟩ := event
  have counted : worker.infos.length = index := by
    have fits := holds.fits
    rwa [standing] at fits
  cases answer with
  | peer peerDeviceId =>
      simp only [workerStep, standing, Option.map_eq_some_iff] at stepped
      obtain ⟨source, read, same⟩ := stepped
      cases same
      refine ⟨⟨?_, ?_, ?_, ?_⟩, ?_⟩
      · intro info member
        cases List.mem_append.mp member with
        | inl earlier => exact holds.sound info earlier
        | inr last =>
            cases List.mem_singleton.mp last
            exact registered_sound _ _ _ _ _
      · intro info member
        cases List.mem_append.mp member with
        | inl earlier => exact holds.outgoing info earlier
        | inr last =>
            cases List.mem_singleton.mp last
            rfl
      · intro file info found
        dsimp only at found
        rw [List.getElem?_append] at found
        split at found
        · exact holds.sized file info found
        · next beyond =>
            rw [List.getElem?_singleton] at found
            split at found
            · next last =>
                cases found
                have same : file = index := by omega
                rw [same]
                exact ⟨source, read, rfl⟩
            · cases found
      · dsimp only
        split
        · show (worker.infos ++ [_]).length = index + 1
          rw [List.length_append, counted]
          rfl
        · trivial
      · intro file info found
        refine ⟨info, ?_, .refl info⟩
        exact (List.getElem?_append_left (List.getElem?_eq_some_iff.mp found).1).trans found
  | _ => simp [workerStep, standing] at stepped

/-- One step of a worker whose sources stand. -/
theorem workerStep_carries (holds : WorkerSound worker) (stand : SourcesStand worker event)
    (stepped : workerStep worker event = some next) : WorkerCarries worker next := by
  have unregistered {after : BatchWorker} (none : worker.infos = []) (same : after.infos = [])
      (fits : PhaseFits after.sending.fileMeta after.infos after.phase) :
      WorkerCarries worker after := by
    refine ⟨.unregistered same fits, ?_⟩
    intro file info found
    rw [none] at found
    cases found
  obtain ⟨sending, infos, phase⟩ := worker
  obtain ⟨now, answer⟩ := event
  cases phase with
  | isFile pending valid =>
      have none : infos = [] := holds.fits
      subst none
      cases pending with
      | nil => cases answer <;> cases stepped
      | cons path pending =>
          cases answer with
          | flag isFile =>
              cases stepped
              exact unregistered rfl rfl (afterChecks_fits _ _)
          | _ => cases stepped
  | stat pending =>
      have none : infos = [] := holds.fits
      subst none
      cases pending with
      | nil =>
          cases answer with
          | raised error =>
              cases stepped
              exact unregistered rfl rfl trivial
          | _ => cases stepped
      | cons path pending =>
          cases answer with
          | size size =>
              cases stepped
              refine unregistered rfl rfl ?_
              dsimp only
              split
              · trivial
              · rfl
          | raised error =>
              cases stepped
              exact unregistered rfl rfl trivial
          | _ => cases stepped
  | hash path size pending =>
      have none : infos = [] := holds.fits
      subst none
      cases answer with
      | text digest =>
          cases stepped
          refine unregistered rfl rfl ?_
          dsimp only
          split
          · split
            · trivial
            · rfl
          · rfl
      | raised error =>
          cases stepped
          exact unregistered rfl rfl trivial
      | _ => cases stepped
  | register index => exact register_carries rfl holds stepped
  | cancelled attempt =>
      cases answer with
      | flag cancelled =>
          cases cancelled with
          | true =>
              cases stepped
              exact proceed_carries holds (settle_carries _ _ (by decide)) trivial
          | false =>
              cases stepped
              refine holds.carried (carries_all _) rfl ?_
              dsimp only
              split <;> trivial
      | _ => cases stepped
  | backoff attempt =>
      cases answer with
      | flag cancelled =>
          cases cancelled with
          | true =>
              cases stepped
              exact proceed_carries holds (settle_carries _ _ (by decide)) trivial
          | false =>
              cases stepped
              exact proceed_carries holds (resumeAll_carries _ _) trivial
      | _ => cases stepped
  | session attempt phase =>
      simp only [workerStep, Option.map_eq_some_iff] at stepped
      obtain ⟨⟨after, progress⟩, advanced, same⟩ := stepped
      subst same
      have carried := sessionStep_carries rfl stand holds.sound holds.outgoing holds.sized holds.fits
        advanced
      cases progress with
      | stands phase => exact holds.carried carried.carries rfl (carried.fits phase rfl)
      | ended outcome => exact afterSession_carries holds carried.carries
  | returned | escaped => cases answer <;> cases stepped

end DirectTransfer
