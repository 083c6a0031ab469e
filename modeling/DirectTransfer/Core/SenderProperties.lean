import DirectTransfer.Core.Sender
import DirectTransfer.Core.ProtocolProperties

/-! Where a sending session leaves the statuses of its files: which status each
file can have at every call, and at every way the session can end. -/

set_option autoImplicit false

namespace DirectTransfer

open Library

/-! ## Statuses along a session -/

/-- A file the session has not come to; `fresh` tells the first attempt of a
batch from its retries. -/
def NotBegun (fresh : Bool) (status : TransferStatus) : Prop :=
  status = .complete ∨ status = if fresh then .accepted else .resuming

/-- A file the receiver has not answered for. -/
def Unanswered (fresh : Bool) (infos : List TransferInfo) : Prop :=
  ∀ info ∈ infos, if fresh then info.status = .pendingApproval
    else info.status = .resuming ∨ info.status = .complete

def AllComplete (infos : List TransferInfo) : Prop := ∀ info ∈ infos, info.status = .complete

/-- The files before `file` are delivered and none after it has begun. -/
def Waiting (fresh : Bool) (file : Nat) (infos : List TransferInfo) : Prop :=
  ∀ index info, infos[index]? = some info →
    if index < file then info.status = .complete else NotBegun fresh info.status

/-- Like `Waiting`, while the block of `file` runs. -/
def Begun (fresh : Bool) (file : Nat) (infos : List TransferInfo) : Prop :=
  ∀ index info, infos[index]? = some info →
    if index < file then info.status = .complete
    else if index = file then info.status = .active ∨ info.status = .complete
    else NotBegun fresh info.status

/-- Every status a file can have while a session runs. -/
def Underway (fresh : Bool) (status : TransferStatus) : Prop :=
  status = .active ∨ status = .complete ∨
    if fresh then status = .pendingApproval ∨ status = .accepted else status = .resuming

/-- What holds inside the block of a file. -/
structure InFile (fresh : Bool) (payload : Payload) (file : Nat) (infos : List TransferInfo) :
    Prop where
  begun : Begun fresh file infos
  paired : payload.offer.files.length = infos.length
  inside : file < infos.length

def SessionInvariant (fresh : Bool) (infos : List TransferInfo) : SendPhase → Prop
  | .assertPeerProtocol | .connect | .resolveTrustedPeer | .clientHandshake | .transferOffer
  | .approvalDeadline | .approvalCancelled | .approvalCancel | .transferResponse =>
      Unanswered fresh infos
  | .resumeQuery offer | .resumeState offer =>
      Waiting fresh 0 infos ∧ offer.files.length = infos.length
  | .fileStart payload file | .openFile payload file | .chunkCancelled payload file _
  | .read payload file _ | .fileEnd payload file | .fileResult payload file =>
      InFile fresh payload file infos
  | .chunkHeader payload file _ raw | .chunkData payload file _ raw =>
      InFile fresh payload file infos ∧ raw ≠ []
  | .chunkCancel => ∀ info ∈ infos, Underway fresh info.status
  | .fin _ | .sessionComplete _ => AllComplete infos

/-- What holds of the files when a session has ended. -/
structure SessionEnd (fresh : Bool) (infos : List TransferInfo) (outcome : Except Raised Unit) :
    Prop where
  underway : ∀ info ∈ infos, Underway fresh info.status
  delivered : outcome = .ok () → AllComplete infos
  rejected : ∀ error, outcome = .error error → error.kind = .transferRejected →
    Unanswered fresh infos

/-! ## Each invariant implies the weaker ones -/

theorem NotBegun.underway {fresh : Bool} {status : TransferStatus}
    (waiting : NotBegun fresh status) : Underway fresh status := by
  cases fresh <;> simp_all [NotBegun, Underway]; tauto

theorem Unanswered.underway {fresh : Bool} {infos : List TransferInfo}
    (unanswered : Unanswered fresh infos) : ∀ info ∈ infos, Underway fresh info.status := by
  intro info member
  have status := unanswered info member
  cases fresh <;> simp_all [Underway]; tauto

theorem AllComplete.underway {fresh : Bool} {infos : List TransferInfo}
    (complete : AllComplete infos) : ∀ info ∈ infos, Underway fresh info.status :=
  fun info member => .inr (.inl (complete info member))

theorem Waiting.underway {fresh : Bool} {file : Nat} {infos : List TransferInfo}
    (waiting : Waiting fresh file infos) : ∀ info ∈ infos, Underway fresh info.status := by
  intro info member
  obtain ⟨index, found⟩ := List.mem_iff_getElem?.mp member
  have status := waiting index info found
  split at status
  · exact .inr (.inl status)
  · exact status.underway

theorem Begun.underway {fresh : Bool} {file : Nat} {infos : List TransferInfo}
    (begun : Begun fresh file infos) : ∀ info ∈ infos, Underway fresh info.status := by
  intro info member
  obtain ⟨index, found⟩ := List.mem_iff_getElem?.mp member
  have status := begun index info found
  split at status
  · exact .inr (.inl status)
  · split at status
    · exact status.imp id .inl
    · exact status.underway

theorem SessionInvariant.underway {fresh : Bool} {infos : List TransferInfo} {phase : SendPhase}
    (holds : SessionInvariant fresh infos phase) : ∀ info ∈ infos, Underway fresh info.status := by
  cases phase with
  | resumeQuery | resumeState => exact holds.1.underway
  | fileStart | openFile | chunkCancelled | read | fileEnd | fileResult =>
      exact holds.begun.underway
  | chunkHeader | chunkData => exact holds.1.begun.underway
  | chunkCancel => exact holds
  | fin | sessionComplete => exact AllComplete.underway holds
  | _ => exact Unanswered.underway holds

/-- An exception other than a rejection says nothing new about the files. -/
theorem SessionEnd.of_error {fresh : Bool} {infos : List TransferInfo} {error : Raised}
    (underway : ∀ info ∈ infos, Underway fresh info.status)
    (accepted : error.kind ≠ .transferRejected) : SessionEnd fresh infos (.error error) where
  underway
  delivered := by intro ended; cases ended
  rejected := by intro _ ended kind; cases ended; exact absurd kind accepted

/-! ## The code between two calls -/

/-- What `Progress` means for the invariant. -/
def Lands (fresh : Bool) (infos : List TransferInfo) : Progress → Prop
  | .stands phase => SessionInvariant fresh infos phase
  | .ended outcome => SessionEnd fresh infos outcome

theorem acceptPending_spec {fresh : Bool} {infos : List TransferInfo} (now : Time)
    (unanswered : Unanswered fresh infos) :
    ∃ accepted, acceptPending infos now = (accepted, none) ∧ accepted.length = infos.length ∧
      ∀ info ∈ accepted, NotBegun fresh info.status := by
  induction infos with
  | nil => exact ⟨[], rfl, rfl, by simp⟩
  | cons info rest ih =>
      obtain ⟨others, tail, sameLength, waiting⟩ :=
        ih fun other member => unanswered other (by simp [member])
      have status := unanswered info (by simp)
      by_cases pending : info.status = .pendingApproval
      · have moved := @transition_ok info .accepted none now (by rw [pending]; decide)
        refine ⟨info.moved .accepted none now :: others, ?_, by simp [sameLength], ?_⟩
        · simp only [acceptPending, pending, ↓reduceIte, moved, tail]
        · intro other member
          rcases List.mem_cons.mp member with rfl | later
          · cases fresh
            · simp [pending] at status
            · simp [NotBegun]
          · exact waiting other later
      · refine ⟨info :: others, ?_, by simp [sameLength], ?_⟩
        · simp only [acceptPending, pending, ↓reduceIte, tail]
        · intro other member
          rcases List.mem_cons.mp member with rfl | later
          · cases fresh
            · simp only [Bool.false_eq_true, ↓reduceIte] at status
              exact status.symm
            · exact absurd status pending
          · exact waiting other later

theorem waiting_zero {fresh : Bool} {infos : List TransferInfo}
    (waiting : ∀ info ∈ infos, NotBegun fresh info.status) : Waiting fresh 0 infos := by
  intro index info found
  rw [if_neg (by omega)]
  exact waiting info (List.mem_of_getElem? found)

theorem beginFile_spec {fresh : Bool} {info : TransferInfo} (offset : Nat) (now : Time)
    (waiting : NotBegun fresh info.status) :
    ((beginFile info offset now).1.status = .active ∨
      (beginFile info offset now).1.status = .complete) ∧ (beginFile info offset now).2 = none := by
  rcases waiting with complete | waiting
  · simp [beginFile, complete]
  · have reaches (target : TransferStatus) (member : target = .active ∨ target = .resuming) :
        Reaches (if fresh then .accepted else .resuming) target := by
      rcases member with rfl | rfl <;> cases fresh <;> decide
    have running : isTerminal (if fresh then TransferStatus.accepted else .resuming) = false := by
      cases fresh <;> decide
    have resumed : Reaches .resuming .active := by decide
    by_cases zero : offset = 0
    · simp [beginFile, waiting, running, zero, transition_ok, reaches]
    · simp [beginFile, waiting, running, zero, transition_ok, reaches, resumed]

theorem Waiting.begin {fresh : Bool} {file : Nat} {infos : List TransferInfo}
    {info begun : TransferInfo} (waiting : Waiting fresh file infos)
    (found : infos[file]? = some info)
    (status : begun.status = .active ∨ begun.status = .complete) :
    Begun fresh file (infos.set file begun) := by
  intro index other read
  rw [List.getElem?_set] at read
  by_cases here : file = index
  · subst here
    obtain ⟨bounded, _⟩ := List.getElem?_eq_some_iff.mp found
    simp only [↓reduceIte, bounded, Option.some.injEq] at read
    subst read
    simpa using status
  · rw [if_neg here] at read
    have old := waiting index other read
    by_cases before : index < file
    · simpa [before] using old
    · simpa [before, Ne.symm here] using old

theorem Waiting.complete {fresh : Bool} {file : Nat} {infos : List TransferInfo}
    (waiting : Waiting fresh file infos) (all : infos.length ≤ file) : AllComplete infos := by
  intro info member
  obtain ⟨index, found⟩ := List.mem_iff_getElem?.mp member
  obtain ⟨bounded, _⟩ := List.getElem?_eq_some_iff.mp found
  simpa [show index < file by omega] using waiting index info found

theorem enterFile_spec {fresh : Bool} {infos : List TransferInfo} {payload : Payload} {file : Nat}
    (now : Time) (waiting : Waiting fresh file infos)
    (paired : payload.offer.files.length = infos.length) :
    (enterFile infos payload file now).1.length = infos.length ∧
      Lands fresh (enterFile infos payload file now).1 (enterFile infos payload file now).2 := by
  unfold enterFile
  by_cases inside : file < infos.length
  · have offeredHere : file < payload.offer.files.length := by omega
    rw [List.getElem?_eq_getElem inside, List.getElem?_eq_getElem offeredHere]
    simp only
    cases payload.offsets.get payload.offer.files[file].fileId with
    | none => exact ⟨rfl, SessionEnd.of_error waiting.underway (by simp)⟩
    | some offset =>
        have found := List.getElem?_eq_getElem inside
        have status : NotBegun fresh infos[file].status := by
          simpa using waiting file _ found
        obtain ⟨active, noFailure⟩ := beginFile_spec offset now status
        simp only [noFailure]
        exact ⟨by simp, waiting.begin found active, by simpa using paired, by simpa using inside⟩
  · rw [List.getElem?_eq_none (by omega : infos.length ≤ file)]
    exact ⟨rfl, waiting.complete (by omega)⟩

theorem afterResponse_spec {sending : Sending} {fresh : Bool} {infos : List TransferInfo}
    (payload : Json) (now : Time) (unanswered : Unanswered fresh infos)
    (paired : infos.length = sending.fileMeta.length) :
    (afterResponse sending infos payload now).1.length = infos.length ∧
      Lands fresh (afterResponse sending infos payload now).1
        (afterResponse sending infos payload now).2 := by
  unfold afterResponse
  cases refused : validateResponse payload sending.transferId with
  | error error =>
      refine ⟨rfl, SessionEnd.of_error unanswered.underway ?_⟩
      rw [validateResponse_error refused]
      decide
  | ok response =>
      obtain ⟨accepted, reason⟩ := response
      cases accepted with
      | false =>
          by_cases expired : reason = some (py "Transfer request expired")
          · simp only [expired, ↓reduceIte]
            exact ⟨trivial, SessionEnd.of_error unanswered.underway (by simp [raised])⟩
          · simp only [expired, ↓reduceIte]
            exact ⟨trivial, unanswered.underway, (by simp), fun _ _ _ => unanswered⟩
      | true =>
          obtain ⟨accepted, done, sameLength, waiting⟩ := acceptPending_spec now unanswered
          simp only [done]
          refine ⟨sameLength, ?_⟩
          cases valid : validateOffer sending.platform sending.offerFrame with
          | error error =>
              refine SessionEnd.of_error (waiting_zero waiting).underway ?_
              rcases validateOffer_error valid with kind | kind <;> rw [kind] <;> decide
          | ok offer =>
              have offered : offer.files.length = accepted.length := by
                rw [sameLength, paired, validateOffer_length valid, Sending.files,
                  announcedFiles_length]
              exact ⟨waiting_zero waiting, offered⟩

theorem afterResult_spec {fresh : Bool} {infos : List TransferInfo} {payload : Payload}
    {file : Nat} (result : Json) (now : Time) (holds : InFile fresh payload file infos) :
    (afterResult infos payload file result now).1.length = infos.length ∧
      Lands fresh (afterResult infos payload file result now).1
        (afterResult infos payload file result now).2 := by
  unfold afterResult
  obtain ⟨begun, paired, inside⟩ := holds
  have offeredHere : file < payload.offer.files.length := by omega
  rw [List.getElem?_eq_getElem inside, List.getElem?_eq_getElem offeredHere]
  simp only
  have status := begun file _ (List.getElem?_eq_getElem inside)
  simp only [lt_self_iff_false, ↓reduceIte] at status
  have reaches : Reaches infos[file].status .complete := by
    rcases status with active | complete
    · rw [active]; decide
    · rw [complete]; decide
  by_cases verified :
      acknowledges payload.offer.transferId payload.offer.files[file].fileId result = true
  · simp only [verified, ↓reduceIte, transition_ok reaches]
    have waiting : Waiting fresh (file + 1)
        (infos.set file (infos[file].moved .complete none now)) := by
      intro index info found
      rw [List.getElem?_set] at found
      by_cases here : file = index
      · subst here
        simp only [↓reduceIte, inside, Option.some.injEq] at found
        subst found
        simp
      · rw [if_neg here] at found
        have old := begun index info found
        by_cases before : index < file
        · simpa [before, show index < file + 1 by omega] using old
        · simpa [before, Ne.symm here, show ¬ index < file + 1 by omega] using old
    have entered := enterFile_spec now waiting (by simpa using paired)
    simpa using entered
  · simp only [verified, Bool.false_eq_true, ↓reduceIte]
    exact ⟨trivial, SessionEnd.of_error begun.underway (by simp [raised])⟩

theorem chunkLoop_spec {sending : Sending} {fresh : Bool} {infos : List TransferInfo}
    {payload : Payload} {file : Nat} (chunk : Nat) (holds : InFile fresh payload file infos) :
    Lands fresh infos (chunkLoop sending infos payload file chunk) := by
  unfold chunkLoop
  split
  · split <;> exact holds
  · exact holds

theorem countChunk_begun {fresh : Bool} {infos : List TransferInfo} {file : Nat} (raw : Bytes)
    (begun : Begun fresh file infos) : Begun fresh file (countChunk infos file raw) := by
  intro index info found
  rw [countChunk, List.getElem?_modify] at found
  cases old : infos[index]? with
  | none => simp [old] at found
  | some before =>
      have status := begun index before old
      simp only [old, Option.map_eq_map, Option.map_some, Option.some.injEq] at found
      rw [← found]
      by_cases here : file = index
      · simpa [here] using status
      · simpa [here] using status

/-! ## Steps -/

/-- An exception ends the session, but for a timeout while the answer is awaited. -/
theorem sessionStep_raised {sending : Sending} {infos next : List TransferInfo} {phase : SendPhase}
    {now : Time} {error : Raised} {progress : Progress}
    (stepped : sessionStep sending infos phase ⟨now, .raised error⟩ = some (next, progress)) :
    next = infos ∧ error.kind.isInternal = false ∧
      ((phase = .transferResponse ∧ error.kind = .timeoutError ∧
        progress = .stands .approvalDeadline) ∨ progress = .ended (.error error)) := by
  cases internal : error.kind.isInternal with
  | true => cases phase <;> simp [sessionStep, internal] at stepped
  | false =>
      cases phase with
      | transferResponse =>
          by_cases late : error.kind = .timeoutError <;>
            simp [sessionStep, internal, late] at stepped <;> simp [stepped, late]
      | _ =>
          simp [sessionStep, internal] at stepped
          simp [stepped]

/-- One step of a session keeps the statuses where its call requires them, or
ends the session. -/
theorem sessionStep_spec {sending : Sending} {fresh : Bool} {infos next : List TransferInfo}
    {phase : SendPhase} {event : Event} {progress : Progress}
    (holds : SessionInvariant fresh infos phase) (paired : infos.length = sending.fileMeta.length)
    (stepped : sessionStep sending infos phase event = some (next, progress)) :
    next.length = infos.length ∧ Lands fresh next progress := by
  obtain ⟨now, answer⟩ := event
  have ends : ∀ error : Raised, error.kind.isInternal = false →
      SessionEnd fresh infos (.error error) := fun error external =>
    SessionEnd.of_error holds.underway (by rintro same; rw [same] at external; cases external)
  by_cases raises : ∃ error, answer = .raised error
  · obtain ⟨error, rfl⟩ := raises
    obtain ⟨rfl, external, landed⟩ := sessionStep_raised stepped
    refine ⟨rfl, ?_⟩
    rcases landed with ⟨rfl, _, rfl⟩ | rfl
    · exact holds
    · exact ends error external
  · cases phase with
    | assertPeerProtocol | connect | resolveTrustedPeer | clientHandshake | transferOffer =>
        cases answer with
        | done => cases stepped; exact ⟨rfl, holds⟩
        | raised error => exact absurd ⟨error, rfl⟩ raises
        | _ => cases stepped
    | approvalDeadline =>
        cases answer with
        | flag before =>
            cases before
            · cases stepped; exact ⟨rfl, SessionEnd.of_error holds.underway (by simp [raised])⟩
            · cases stepped; exact ⟨rfl, holds⟩
        | raised error => exact absurd ⟨error, rfl⟩ raises
        | _ => cases stepped
    | approvalCancelled =>
        cases answer with
        | flag cancelled => cases stepped; cases cancelled <;> exact ⟨rfl, holds⟩
        | raised error => exact absurd ⟨error, rfl⟩ raises
        | _ => cases stepped
    | approvalCancel | chunkCancel =>
        cases answer with
        | done =>
            cases stepped
            exact ⟨rfl, SessionEnd.of_error holds.underway (by simp [raised])⟩
        | raised error => exact absurd ⟨error, rfl⟩ raises
        | _ => cases stepped
    | transferResponse =>
        cases answer with
        | control payload =>
            have landed := afterResponse_spec payload now holds paired
            rwa [Option.some.inj stepped] at landed
        | raised error => exact absurd ⟨error, rfl⟩ raises
        | _ => cases stepped
    | resumeQuery offer =>
        cases answer with
        | done => cases stepped; exact ⟨rfl, holds⟩
        | raised error => exact absurd ⟨error, rfl⟩ raises
        | _ => cases stepped
    | resumeState offer =>
        cases answer with
        | control payload =>
            simp only [sessionStep] at stepped
            cases valid : validateResumeState payload offer with
            | error error =>
                rw [valid] at stepped
                cases stepped
                refine ⟨rfl, SessionEnd.of_error holds.underway ?_⟩
                rcases validateResumeState_error valid with kind | kind <;> rw [kind] <;> decide
            | ok offsets =>
                rw [valid] at stepped
                have landed := @enterFile_spec _ _ ⟨offer, offsets⟩ _ now holds.1 holds.2
                rwa [Option.some.inj stepped] at landed
        | raised error => exact absurd ⟨error, rfl⟩ raises
        | _ => cases stepped
    | fileStart payload file | chunkHeader payload file chunk raw | fileEnd payload file =>
        cases answer with
        | done => cases stepped; exact ⟨rfl, holds⟩
        | raised error => exact absurd ⟨error, rfl⟩ raises
        | _ => cases stepped
    | openFile payload file =>
        cases answer with
        | done =>
            simp only [sessionStep] at stepped
            split at stepped
            · cases stepped; exact ⟨rfl, chunkLoop_spec _ holds⟩
            · cases stepped
        | raised error => exact absurd ⟨error, rfl⟩ raises
        | _ => cases stepped
    | chunkCancelled payload file chunk =>
        cases answer with
        | flag cancelled =>
            cases stepped
            cases cancelled
            · exact ⟨rfl, holds⟩
            · exact ⟨rfl, holds.begun.underway⟩
        | raised error => exact absurd ⟨error, rfl⟩ raises
        | _ => cases stepped
    | read payload file chunk =>
        cases answer with
        | octets raw =>
            simp only [sessionStep] at stepped
            split at stepped
            · cases stepped
            · split at stepped
              · cases stepped
                exact ⟨rfl, SessionEnd.of_error holds.begun.underway (by simp [raised])⟩
              · next nonempty => cases stepped; exact ⟨rfl, holds, nonempty⟩
        | raised error => exact absurd ⟨error, rfl⟩ raises
        | _ => cases stepped
    | chunkData payload file chunk raw =>
        cases answer with
        | done =>
            cases stepped
            have sameLength : (countChunk infos file raw).length = infos.length := by
              simp [countChunk]
            exact ⟨sameLength, chunkLoop_spec _ ⟨countChunk_begun raw holds.1.begun,
              sameLength ▸ holds.1.paired, sameLength ▸ holds.1.inside⟩⟩
        | raised error => exact absurd ⟨error, rfl⟩ raises
        | _ => cases stepped
    | fileResult payload file =>
        cases answer with
        | control result =>
            have landed := afterResult_spec result now holds
            rwa [Option.some.inj stepped] at landed
        | raised error => exact absurd ⟨error, rfl⟩ raises
        | _ => cases stepped
    | fin offer =>
        cases answer with
        | done => cases stepped; exact ⟨rfl, holds⟩
        | raised error => exact absurd ⟨error, rfl⟩ raises
        | _ => cases stepped
    | sessionComplete offer =>
        cases answer with
        | control result =>
            simp only [sessionStep] at stepped
            split at stepped
            · cases stepped
              exact ⟨rfl, AllComplete.underway holds, fun _ => holds, fun _ ended => by cases ended⟩
            · cases stepped
              exact ⟨rfl, SessionEnd.of_error (AllComplete.underway holds) (by simp [raised])⟩
        | raised error => exact absurd ⟨error, rfl⟩ raises
        | _ => cases stepped

end DirectTransfer
