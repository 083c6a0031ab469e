import DirectTransfer.Core.BatchWorker
import DirectTransfer.Core.SenderProperties
import DirectTransfer.Library.Transition

/-! When a batch settles: how its sessions may end so that the worker returns
with every file in a terminal status, and what goes wrong otherwise. -/

set_option autoImplicit false

namespace DirectTransfer

open Library

/-! ## Settling a list of files -/

theorem settle_spec {infos : List TransferInfo} {status : TransferStatus} {error : PyStr}
    {now : Time}
    (reaches : ∀ info ∈ infos, isTerminal info.status = false → Reaches info.status status) :
    ∃ settled, settle infos status error now = (settled, none) ∧
      settled.length = infos.length ∧
      ∀ info ∈ settled, info.status = status ∨ (info ∈ infos ∧ isTerminal info.status = true) := by
  induction infos with
  | nil => exact ⟨[], rfl, rfl, by simp⟩
  | cons info rest ih =>
      obtain ⟨others, tail, sameLength, settled⟩ :=
        ih fun other member => reaches other (by simp [member])
      cases terminal : isTerminal info.status with
      | true =>
          refine ⟨info :: others, by simp [settle, terminal, tail], by simp [sameLength], ?_⟩
          intro other member
          rcases List.mem_cons.mp member with rfl | later
          · exact .inr ⟨by simp, terminal⟩
          · exact (settled other later).imp id fun kept => ⟨by simp [kept.1], kept.2⟩
      | false =>
          have moved := @transition_ok _ _ (some error) now
            (reaches info (by simp) terminal)
          refine ⟨info.moved status (some error) now :: others, ?_, by simp [sameLength], ?_⟩
          · simp [settle, terminal, moved, tail]
          · intro other member
            rcases List.mem_cons.mp member with rfl | later
            · exact .inl (by simp)
            · exact (settled other later).imp id fun kept => ⟨by simp [kept.1], kept.2⟩

/-- A file from whose status the target is not allowed makes the loop raise. -/
theorem settle_stuck {infos : List TransferInfo} {status : TransferStatus} {error : PyStr}
    {now : Time} {info : TransferInfo} (member : info ∈ infos)
    (running : isTerminal info.status = false) (stuck : ¬ Reaches info.status status) :
    ∃ failure, (settle infos status error now).2 = some failure := by
  induction infos with
  | nil => cases member
  | cons head rest ih =>
      cases terminal : isTerminal head.status with
      | true =>
          rcases List.mem_cons.mp member with rfl | later
          · rw [running] at terminal; cases terminal
          · obtain ⟨failure, raised⟩ := ih later
            exact ⟨failure, by simp [settle, terminal, raised]⟩
      | false =>
          by_cases reaches : Reaches head.status status
          · rcases List.mem_cons.mp member with rfl | later
            · exact absurd reaches stuck
            · obtain ⟨failure, raised⟩ := ih later
              exact ⟨failure, by simp [settle, terminal, transition_ok reaches, raised]⟩
          · exact ⟨⟨.invalidTransferTransition, head.status.value ++ py " -> " ++ status.value⟩,
              by simp [settle, terminal, transition_error reaches]⟩

/-- Failing or cancelling settles every file whatever its status. -/
theorem settle_terminal {infos : List TransferInfo} {status : TransferStatus} {error : PyStr}
    {now : Time} (target : status = .failed ∨ status = .cancelled) :
    ∃ settled, settle infos status error now = (settled, none) ∧
      ∀ info ∈ settled, isTerminal info.status = true := by
  have reaches : ∀ info ∈ infos, isTerminal info.status = false → Reaches info.status status := by
    intro info _ running
    rcases target with rfl | rfl
    · exact reaches_failed _ running
    · exact reaches_cancelled _ running
  obtain ⟨settled, done, _, each⟩ := @settle_spec _ _ error now reaches
  refine ⟨settled, done, fun info member => ?_⟩
  rcases each info member with same | kept
  · rcases target with rfl | rfl <;> simp [same]
  · exact kept.2

/-! ## Between two sessions -/

/-- Statuses while no session runs: pending before the first one, interrupted
or delivered after it. -/
def Between (attempt : Nat) (infos : List TransferInfo) : Prop :=
  ∀ info ∈ infos, if attempt = 0 then info.status = .pendingApproval
    else info.status = .interrupted ∨ info.status = .complete

theorem resumeAll_spec {infos : List TransferInfo} {attempt : Nat} (now : Time)
    (later : attempt ≠ 0) (between : Between attempt infos) :
    ∃ resumed, resumeAll infos attempt now = (resumed, none) ∧
      resumed.length = infos.length ∧ Unanswered false resumed := by
  induction infos with
  | nil => exact ⟨[], rfl, rfl, by simp [Unanswered]⟩
  | cons info rest ih =>
      obtain ⟨others, tail, sameLength, unanswered⟩ :=
        ih fun other member => between other (by simp [member])
      have status := between info (by simp)
      rw [if_neg later] at status
      rcases status with interrupted | complete
      · let counted := { info with retryCount := attempt }
        have moved : transition counted .resuming none now =
            .ok (counted.moved .resuming none now) :=
          transition_ok (by rw [show counted.status = .interrupted from interrupted]; decide)
        refine ⟨counted.moved .resuming none now :: others, ?_, by simp [sameLength], ?_⟩
        · have running : isTerminal info.status = false := by rw [interrupted]; decide
          simp only [resumeAll, running, Bool.false_eq_true, ↓reduceIte, tail]
          rw [show transition { info with retryCount := attempt } .resuming none now = _ from moved]
        · intro other member
          rcases List.mem_cons.mp member with rfl | member
          · simp
          · exact unanswered other member
      · refine ⟨{ info with retryCount := attempt } :: others, ?_, by simp [sameLength], ?_⟩
        · simp [resumeAll, complete, tail]
        · intro other member
          rcases List.mem_cons.mp member with rfl | member
          · simp [complete]
          · exact unanswered other member

/-! ## How a session may end -/

/-- The exceptions that have an `except` clause around the session. -/
def ErrorKind.isHandled : ErrorKind → Bool
  | .valueError | .endpointError | .invalidTransferTransition | .keyError | .typeError
  | .structError | .jsonDecodeError | .unicodeDecodeError | .recursionError | .overflowError => false
  | _ => true

/-- The session ends with an exception the worker handles; the first attempt is
not cut before the block of every file has begun; and a retry is not rejected
while a file is undelivered. -/
structure Handled (attempt : Nat) (infos : List TransferInfo) (error : Raised) : Prop where
  handled : error.kind.isHandled = true
  begun : attempt = 0 → error.kind.isConnectionFailure = true →
    ∀ info ∈ infos, info.status = .active ∨ info.status = .complete
  delivered : attempt ≠ 0 → error.kind = .transferRejected → AllComplete infos

/-- The session of `worker` ends at `event` with an exception. -/
def EndsWith (worker : BatchWorker) (event : Event) (attempt : Nat) (infos : List TransferInfo)
    (error : Raised) : Prop :=
  ∃ phase, worker.phase = .session attempt phase ∧
    sessionStep worker.sending worker.infos phase event = some (infos, .ended (.error error))

/-- The source files can be read while they are hashed, and every session that
ends with an exception ends as `Handled` says. -/
def Survivable (worker : BatchWorker) (event : Event) : Prop :=
  (∀ error, event.answer = .raised error →
    (∀ pending, worker.phase ≠ .stat pending) ∧ ∀ path size pending,
      worker.phase ≠ .hash path size pending) ∧
  ∀ attempt infos error, EndsWith worker event attempt infos error → Handled attempt infos error

def WorkerInvariant (worker : BatchWorker) : Prop :=
  match worker.phase with
  | .isFile pending _ => worker.infos = [] ∧ pending ≠ []
  | .stat _ | .hash _ _ _ => worker.infos = []
  | .register index =>
      worker.infos.length = index ∧ index < worker.sending.fileMeta.length ∧
        Between 0 worker.infos
  | .cancelled attempt =>
      worker.infos.length = worker.sending.fileMeta.length ∧ attempt ≤ maxRetries ∧
        Between attempt worker.infos
  | .backoff attempt =>
      worker.infos.length = worker.sending.fileMeta.length ∧ attempt ≤ maxRetries ∧
        attempt ≠ 0 ∧ Between attempt worker.infos
  | .session attempt phase =>
      worker.infos.length = worker.sending.fileMeta.length ∧ attempt ≤ maxRetries ∧
        SessionInvariant (decide (attempt = 0)) worker.infos phase
  | .returned => ∀ info ∈ worker.infos, isTerminal info.status = true
  | .escaped _ => False

/-! ## The `except` clauses -/

theorem proceed_terminal {worker : BatchWorker} {infos : List TransferInfo}
    {status : TransferStatus} {error : PyStr} {now : Time}
    (target : status = .failed ∨ status = .cancelled) :
    WorkerInvariant (worker.proceed (settle infos status error now) .returned) := by
  obtain ⟨settled, done, terminal⟩ := @settle_terminal infos _ error now target
  rw [done]
  exact terminal

/-- The `except` clauses settle or interrupt every file when the session ended
in a way they can handle. -/
theorem afterSession_handled {worker : BatchWorker} {attempt : Nat} {infos : List TransferInfo}
    {error : Raised} {now : Time} (bounded : attempt ≤ maxRetries)
    (paired : infos.length = worker.sending.fileMeta.length)
    (ended : SessionEnd (decide (attempt = 0)) infos (.error error))
    (handled : Handled attempt infos error) :
    WorkerInvariant (worker.afterSession attempt infos (.error error) now) ∧
      (error.kind.isConnectionFailure = true → attempt < maxRetries →
        (worker.afterSession attempt infos (.error error) now).phase =
          .cancelled (attempt + 1)) := by
  obtain ⟨kind, message⟩ := error
  cases kind with
  | transferRejected =>
      refine ⟨?_, by rintro ⟨⟩⟩
      have reaches : ∀ info ∈ infos, isTerminal info.status = false →
          Reaches info.status .rejected := by
        intro info member running
        by_cases first : attempt = 0
        · have unanswered := ended.rejected _ rfl rfl info member
          simp only [first, decide_true, ↓reduceIte] at unanswered
          rw [unanswered]
          decide
        · rw [handled.delivered first rfl info member] at running
          cases running
      obtain ⟨settled, done, _, each⟩ := @settle_spec _ _
        (py "Transfer rejected by peer.") now reaches
      simp only [BatchWorker.afterSession, done]
      intro info member
      rcases each info member with same | kept
      · simp [same]
      · exact kept.2
  | approvalTimeout | authenticationError | protocolError | invalidTag =>
      exact ⟨proceed_terminal (.inl rfl), by rintro ⟨⟩⟩
  | transferCancelled => exact ⟨proceed_terminal (.inr rfl), by rintro ⟨⟩⟩
  | osError | timeoutError =>
      by_cases last : attempt = maxRetries
      · simp only [BatchWorker.afterSession, last, ↓reduceIte]
        exact ⟨proceed_terminal (.inl rfl), fun _ below => absurd below (lt_irrefl _)⟩
      · have reaches : ∀ info ∈ infos, isTerminal info.status = false →
            Reaches info.status .interrupted := by
          intro info member running
          have underway := ended.underway info member
          by_cases first : attempt = 0
          · rcases handled.begun first rfl info member with active | complete
            · rw [active]; decide
            · rw [complete] at running; cases running
          · simp only [Underway, first, decide_false, Bool.false_eq_true, ↓reduceIte] at underway
            rcases underway with active | complete | resuming
            · rw [active]; decide
            · rw [complete] at running; cases running
            · rw [resuming]; decide
        obtain ⟨settled, done, sameLength, each⟩ := @settle_spec _ _
          (py "Connection interrupted") now reaches
        simp only [BatchWorker.afterSession, last, ↓reduceIte, done]
        refine ⟨⟨sameLength.trans paired, by omega, fun info member => ?_⟩, fun _ _ => rfl⟩
        rw [if_neg (by omega)]
        rcases each info member with interrupted | ⟨old, terminal⟩
        · exact .inl interrupted
        · have underway := ended.underway info old
          refine .inr ?_
          cases status : info.status <;> rw [status] at underway terminal <;>
            revert underway terminal <;> cases decide (attempt = 0) <;> simp [Underway]
  | valueError | endpointError | invalidTransferTransition | keyError | typeError | structError
  | jsonDecodeError | unicodeDecodeError | recursionError | overflowError =>
      exact absurd handled.handled (by simp [ErrorKind.isHandled])

/-- Any other end makes an exception escape. -/
theorem afterSession_unhandled {worker : BatchWorker} {attempt : Nat} {infos : List TransferInfo}
    {error : Raised} {now : Time}
    (ended : SessionEnd (decide (attempt = 0)) infos (.error error))
    (unhandled : ¬ Handled attempt infos error) :
    ∃ failure, (worker.afterSession attempt infos (.error error) now).phase = .escaped failure := by
  obtain ⟨kind, message⟩ := error
  have stuck {status : TransferStatus} {text : PyStr} {phase : WorkerPhase} {info : TransferInfo}
      (member : info ∈ infos) (running : isTerminal info.status = false)
      (forbidden : ¬ Reaches info.status status) :
      ∃ failure, (worker.proceed (settle infos status text now) phase).phase =
        .escaped failure := by
    obtain ⟨failure, raised⟩ := @settle_stuck _ _ text now _ member running forbidden
    exact ⟨failure, by simp [BatchWorker.proceed, raised]⟩
  cases kind with
  | transferRejected =>
      have undelivered : attempt ≠ 0 ∧ ∃ info ∈ infos, info.status ≠ .complete := by
        by_contra fine
        refine unhandled ⟨rfl, by simp [ErrorKind.isConnectionFailure], fun later _ => ?_⟩
        intro info member
        by_contra incomplete
        exact fine ⟨later, info, member, incomplete⟩
      obtain ⟨later, info, member, incomplete⟩ := undelivered
      have underway := ended.underway info member
      simp only [Underway, later, decide_false, Bool.false_eq_true, ↓reduceIte, incomplete,
        false_or] at underway
      refine stuck member ?_ ?_ <;> rcases underway with status | status <;> rw [status] <;> decide
  | osError | timeoutError =>
      have unbegun : attempt = 0 ∧ ∃ info ∈ infos, ¬ (info.status = .active ∨
          info.status = .complete) := by
        by_contra fine
        refine unhandled ⟨rfl, fun first _ info member => ?_, by simp⟩
        by_contra waiting
        exact fine ⟨first, info, member, waiting⟩
      obtain ⟨rfl, info, member, waiting⟩ := unbegun
      have underway := ended.underway info member
      rw [not_or] at waiting
      simp only [Underway, decide_true, ↓reduceIte, waiting, false_or] at underway
      have retries : (0 : Nat) ≠ maxRetries := by decide
      simp only [BatchWorker.afterSession, retries, ↓reduceIte]
      refine stuck member ?_ ?_ <;> rcases underway with status | status <;> rw [status] <;> decide
  | valueError | endpointError | invalidTransferTransition | keyError | typeError | structError
  | jsonDecodeError | unicodeDecodeError | recursionError | overflowError =>
      exact ⟨_, rfl⟩
  | approvalTimeout | authenticationError | protocolError | invalidTag | transferCancelled =>
      exact absurd ⟨rfl, by simp [ErrorKind.isConnectionFailure], by simp⟩ unhandled

/-! ## Runs -/

theorem afterChecks_invariant {worker : BatchWorker} {pending valid : List PyStr}
    (unregistered : worker.infos = []) :
    WorkerInvariant { worker with phase := afterChecks pending valid } := by
  unfold afterChecks
  cases pending with
  | nil =>
      by_cases none : valid = [] ∨ maxFilesPerSession < valid.length
      · simp [WorkerInvariant, none, unregistered]
      · simp [WorkerInvariant, none, unregistered]
  | cons => simp [WorkerInvariant, unregistered]

theorem registered_invariant {worker next : BatchWorker} {index : Nat} {event : Event}
    (registering : worker.phase = .register index) (holds : WorkerInvariant worker)
    (stepped : workerStep worker event = some next) : WorkerInvariant next := by
  obtain ⟨now, answer⟩ := event
  simp only [WorkerInvariant, registering] at holds
  obtain ⟨counted, inside, pending⟩ := holds
  cases answer with
  | peer peerDeviceId =>
      simp only [workerStep, registering, List.getElem?_eq_getElem inside, Option.map_some,
        Option.some.injEq] at stepped
      subst stepped
      have all : Between 0 (worker.infos ++
          [registeredInfo worker.sending index worker.sending.fileMeta[index] peerDeviceId now]) := by
        intro info member
        rcases List.mem_append.mp member with earlier | last
        · exact pending info earlier
        · cases List.mem_singleton.mp last
          rfl
      by_cases more : index + 1 < worker.sending.fileMeta.length
      · simp only [WorkerInvariant, more, ↓reduceIte]
        exact ⟨by simp [counted], trivial, all⟩
      · simp only [WorkerInvariant, more, ↓reduceIte]
        exact ⟨by simp [counted]; omega, by simp, all⟩
  | _ => simp [workerStep, registering] at stepped

/-- One step that ends no session badly keeps the invariant. -/
theorem workerStep_invariant {worker next : BatchWorker} {event : Event}
    (holds : WorkerInvariant worker) (survives : Survivable worker event)
    (stepped : workerStep worker event = some next) : WorkerInvariant next := by
  obtain ⟨sending, infos, phase⟩ := worker
  obtain ⟨now, answer⟩ := event
  cases phase with
  | isFile pending valid =>
      cases pending with
      | nil => cases answer <;> cases stepped
      | cons path pending =>
          cases answer with
          | flag isFile =>
              cases stepped
              exact @afterChecks_invariant ⟨sending, infos, _⟩ _ _ holds.1
          | _ => cases stepped
  | stat pending =>
      cases answer with
      | size size =>
          cases pending with
          | nil => cases stepped
          | cons path pending =>
              have unregistered : infos = [] := holds
              simp only [workerStep, Option.some.injEq] at stepped
              subst stepped unregistered
              by_cases large : maxFileSize < size <;> simp [WorkerInvariant, large]
      | raised error => exact absurd rfl ((survives.1 error rfl).1 pending)
      | _ => cases pending <;> cases stepped
  | hash path size pending =>
      cases answer with
      | text digest =>
          have unregistered : infos = [] := holds
          simp only [workerStep, Option.some.injEq] at stepped
          subst stepped unregistered
          cases pending with
          | nil =>
              by_cases large : maxSessionSize < (sending.fileMeta.map FileMeta.size).sum + size
              · simp [WorkerInvariant, large]
              · simp [WorkerInvariant, large, Between]
          | cons => simp [WorkerInvariant]
      | raised error => exact absurd rfl ((survives.1 error rfl).2 path size pending)
      | _ => cases stepped
  | register index => exact registered_invariant rfl holds stepped
  | cancelled attempt =>
      cases answer with
      | flag cancelled =>
          obtain ⟨paired, bounded, between⟩ := holds
          cases cancelled with
          | true => cases stepped; exact proceed_terminal (.inr rfl)
          | false =>
              simp only [workerStep, Bool.false_eq_true, ↓reduceIte, Option.some.injEq] at stepped
              subst stepped
              by_cases first : attempt = 0
              · subst first
                exact ⟨paired, Nat.zero_le _, between⟩
              · simp only [WorkerInvariant, first, ↓reduceIte]
                exact ⟨paired, bounded, first, between⟩
      | _ => cases stepped
  | backoff attempt =>
      cases answer with
      | flag cancelled =>
          obtain ⟨paired, bounded, later, between⟩ := holds
          cases cancelled with
          | true => cases stepped; exact proceed_terminal (.inr rfl)
          | false =>
              obtain ⟨resumed, done, sameLength, unanswered⟩ := resumeAll_spec now later between
              simp only [workerStep, Bool.false_eq_true, ↓reduceIte, done, Option.some.injEq]
                at stepped
              subst stepped
              refine ⟨sameLength.trans paired, bounded, ?_⟩
              rw [show decide (attempt = 0) = false from decide_eq_false later]
              exact unanswered
      | _ => cases stepped
  | session attempt phase =>
      obtain ⟨paired, bounded, invariant⟩ := holds
      simp only [workerStep] at stepped
      cases moved : sessionStep sending infos phase ⟨now, answer⟩ with
      | none => simp [moved] at stepped
      | some result =>
          obtain ⟨after, progress⟩ := result
          obtain ⟨sameLength, lands⟩ := sessionStep_spec invariant paired moved
          simp only [moved, Option.map_some, Option.some.injEq] at stepped
          subst stepped
          have afterPaired : after.length = sending.fileMeta.length := sameLength.trans paired
          cases progress with
          | stands phase => exact ⟨afterPaired, bounded, lands⟩
          | ended outcome =>
              cases outcome with
              | ok =>
                  intro info member
                  simp [lands.delivered rfl info member]
              | error error =>
                  exact (afterSession_handled bounded afterPaired lands
                    (survives.2 attempt after error ⟨phase, rfl, moved⟩)).1
  | returned | escaped => cases stepped

/-- A step that ends a session otherwise lets an exception escape. -/
theorem workerStep_escapes {worker next : BatchWorker} {event : Event}
    (holds : WorkerInvariant worker) (fatal : ¬ Survivable worker event)
    (stepped : workerStep worker event = some next) :
    ∃ failure, next.phase = .escaped failure := by
  by_cases hashing : ∀ error, event.answer = .raised error →
      (∀ pending, worker.phase ≠ .stat pending) ∧ ∀ path size pending,
        worker.phase ≠ .hash path size pending
  · obtain ⟨attempt, infos, error, ends, unhandled⟩ : ∃ attempt infos error,
        EndsWith worker event attempt infos error ∧ ¬ Handled attempt infos error := by
      by_contra none
      refine fatal ⟨hashing, fun attempt infos error ends => ?_⟩
      by_contra unhandled
      exact none ⟨attempt, infos, error, ends, unhandled⟩
    obtain ⟨phase, standing, moved⟩ := ends
    simp only [WorkerInvariant, standing] at holds
    obtain ⟨_, lands⟩ := sessionStep_spec holds.2.2 holds.1 moved
    simp only [workerStep, standing, moved, Option.map_some, Option.some.injEq] at stepped
    subst stepped
    exact afterSession_unhandled lands unhandled
  · push Not at hashing
    obtain ⟨error, raises, standing⟩ := hashing
    by_cases stat : ∀ pending, worker.phase ≠ .stat pending
    · obtain ⟨path, size, pending, standing⟩ := standing stat
      simp only [workerStep, standing, raises, Option.some.injEq] at stepped
      exact ⟨error, by rw [← stepped]⟩
    · push Not at stat
      obtain ⟨pending, standing⟩ := stat
      cases pending <;> simp only [workerStep, standing, raises, Option.some.injEq] at stepped <;>
        exact ⟨error, by rw [← stepped]⟩

/-- The invariant holds along every run whose sessions end well. -/
theorem run_invariant {start finish : BatchWorker} {events : List Event}
    (run : Run workerStep Survivable start events finish) (initial : WorkerInvariant start) :
    WorkerInvariant finish :=
  run.invariant (fun _ _ _ holds survives stepped => workerStep_invariant holds survives stepped)
    initial

theorem start_invariant (platform : Platform) (peerIp transferId : PyStr) (message : Option PyStr)
    (paths : List PyStr) :
    WorkerInvariant (.start platform peerIp transferId message paths) :=
  @afterChecks_invariant ⟨⟨platform, peerIp, message, transferId, []⟩, [], .returned⟩ _ _ rfl

/-! ## Progress -/

/-- The octets of a file still to be handed over. -/
def remaining (sending : Sending) (infos : List TransferInfo) (file : Nat) : Nat :=
  match infos[file]?, sending.fileMeta[file]? with
  | some info, some source => source.size - info.bytesTransferred
  | _, _ => 0

/-- How far a session is from its end: files, then steps inside a file. -/
def sessionRank (sending : Sending) (infos : List TransferInfo) : SendPhase → Nat × Nat
  | .assertPeerProtocol => (sending.fileMeta.length + 2, 9)
  | .connect => (sending.fileMeta.length + 2, 8)
  | .resolveTrustedPeer => (sending.fileMeta.length + 2, 7)
  | .clientHandshake => (sending.fileMeta.length + 2, 6)
  | .transferOffer => (sending.fileMeta.length + 2, 5)
  | .approvalDeadline => (sending.fileMeta.length + 2, 4)
  | .approvalCancelled => (sending.fileMeta.length + 2, 3)
  | .approvalCancel | .transferResponse => (sending.fileMeta.length + 2, 2)
  | .resumeQuery _ => (sending.fileMeta.length + 1, 1)
  | .resumeState _ => (sending.fileMeta.length + 1, 0)
  | .fileStart _ file =>
      (sending.fileMeta.length - file, 4 * remaining sending infos file + 7)
  | .openFile _ file => (sending.fileMeta.length - file, 4 * remaining sending infos file + 6)
  | .chunkCancelled _ file _ =>
      (sending.fileMeta.length - file, 4 * remaining sending infos file + 5)
  | .read _ file _ => (sending.fileMeta.length - file, 4 * remaining sending infos file + 4)
  | .chunkHeader _ file _ _ =>
      (sending.fileMeta.length - file, 4 * remaining sending infos file + 3)
  | .chunkData _ file _ _ =>
      (sending.fileMeta.length - file, 4 * remaining sending infos file + 2)
  | .fileEnd _ file => (sending.fileMeta.length - file, 1)
  | .fileResult _ file => (sending.fileMeta.length - file, 0)
  | .fin _ => (0, 1)
  | .chunkCancel | .sessionComplete _ => (0, 0)

/-- The order in which ranks fall. -/
abbrev Below : Nat × Nat → Nat × Nat → Prop := Prod.Lex (· < ·) (· < ·)

theorem below_inner {files files' left right : Nat} (same : files = files') (less : left < right) :
    Below (files, left) (files', right) := by
  subst same
  exact .right _ less

theorem enterFile_stands {infos next : List TransferInfo} {payload : Payload} {file : Nat}
    {now : Time} {phase : SendPhase}
    (entered : enterFile infos payload file now = (next, .stands phase)) :
    phase = .fileStart payload file ∨ phase = .fin payload.offer := by
  unfold enterFile at entered
  split at entered
  · split at entered
    · cases entered
    · obtain ⟨_, progress⟩ := Prod.mk.inj entered
      split at progress
      · cases progress
      · cases progress; exact .inl rfl
  · cases entered; exact .inr rfl

theorem enterFile_below {sending : Sending} {infos next : List TransferInfo} {payload : Payload}
    {file files within : Nat} {now : Time} {phase : SendPhase}
    (entered : enterFile infos payload file now = (next, .stands phase))
    (fewer : sending.fileMeta.length - file < files) :
    Below (sessionRank sending next phase) (files, within) := by
  rcases enterFile_stands entered with rfl | rfl
  · exact .left _ _ fewer
  · exact .left _ _ (by omega)

theorem chunkLoop_below {sending : Sending} {infos : List TransferInfo} {payload : Payload}
    {file chunk within : Nat} {phase : SendPhase}
    (looped : chunkLoop sending infos payload file chunk = .stands phase)
    (more : 4 * remaining sending infos file + 5 < within ∨ remaining sending infos file = 0)
    (room : 1 < within) :
    Below (sessionRank sending infos phase) (sending.fileMeta.length - file, within) := by
  unfold chunkLoop at looped
  unfold remaining at more
  split at looped
  · next info source foundInfo foundSource =>
      simp only [foundInfo, foundSource] at more
      split at looped
      · cases looped
        refine below_inner rfl ?_
        simp only [remaining, foundInfo, foundSource]
        omega
      · cases looped; exact below_inner rfl room
  · cases looped; exact below_inner rfl room

theorem remaining_countChunk {sending : Sending} {infos : List TransferInfo} {file : Nat}
    {raw : Bytes} (nonempty : raw ≠ []) :
    remaining sending (countChunk infos file raw) file = 0 ∨
      remaining sending (countChunk infos file raw) file < remaining sending infos file := by
  have positive : 0 < raw.length := List.length_pos_iff.mpr nonempty
  unfold remaining countChunk
  rw [List.getElem?_modify]
  cases infos[file]? with
  | none => exact .inl rfl
  | some info =>
      cases sending.fileMeta[file]? with
      | none => exact .inl rfl
      | some source =>
          simp only [↓reduceIte, Option.map_eq_map, Option.map_some]
          omega

theorem afterResponse_stands {sending : Sending} {infos next : List TransferInfo} {payload : Json}
    {now : Time} {phase : SendPhase}
    (answered : afterResponse sending infos payload now = (next, .stands phase)) :
    ∃ offer, phase = .resumeQuery offer := by
  unfold afterResponse at answered
  split at answered
  · cases answered
  · split at answered <;> cases answered
  · obtain ⟨_, progress⟩ := Prod.mk.inj answered
    split at progress
    · cases progress
    · split at progress
      · cases progress
      · cases progress; exact ⟨_, rfl⟩

theorem afterResult_stands {infos next : List TransferInfo} {payload : Payload} {file : Nat}
    {result : Json} {now : Time} {phase : SendPhase}
    (answered : afterResult infos payload file result now = (next, .stands phase)) :
    phase = .fileStart payload (file + 1) ∨ phase = .fin payload.offer := by
  unfold afterResult at answered
  split at answered
  · split at answered
    · split at answered
      · cases answered
      · exact enterFile_stands answered
    · cases answered
  · cases answered; exact .inr rfl

/-- A timeout while the answer is awaited, after which the worker asks again. -/
def Polls (phase : SendPhase) (event : Event) : Prop :=
  phase = .transferResponse ∧ ∃ error, event.answer = .raised error ∧ error.kind = .timeoutError

/-- Every step within a session but such a timeout brings it nearer to its end. -/
theorem sessionStep_below {sending : Sending} {fresh : Bool} {infos next : List TransferInfo}
    {phase after : SendPhase} {event : Event}
    (holds : SessionInvariant fresh infos phase) (paired : infos.length = sending.fileMeta.length)
    (stepped : sessionStep sending infos phase event = some (next, .stands after))
    (asks : ¬ Polls phase event) :
    Below (sessionRank sending next after) (sessionRank sending infos phase) := by
  obtain ⟨now, answer⟩ := event
  by_cases raises : ∃ error, answer = .raised error
  · obtain ⟨error, rfl⟩ := raises
    obtain ⟨_, _, ⟨rfl, late, _⟩ | ended⟩ := sessionStep_raised stepped
    · exact absurd ⟨rfl, error, rfl, late⟩ asks
    · cases ended
  · cases phase with
    | assertPeerProtocol | connect | resolveTrustedPeer | clientHandshake | transferOffer
    | resumeQuery offer | fin offer | fileStart payload file | chunkHeader payload file chunk raw
    | fileEnd payload file =>
        cases answer with
        | done => cases stepped; exact below_inner rfl (by simp)
        | raised error => exact absurd ⟨error, rfl⟩ raises
        | _ => cases stepped
    | approvalDeadline =>
        cases answer with
        | flag before =>
            cases before <;> cases stepped
            exact below_inner rfl (by simp)
        | raised error => exact absurd ⟨error, rfl⟩ raises
        | _ => cases stepped
    | approvalCancelled =>
        cases answer with
        | flag cancelled =>
            cases stepped
            cases cancelled <;> exact below_inner rfl (by simp)
        | raised error => exact absurd ⟨error, rfl⟩ raises
        | _ => cases stepped
    | approvalCancel | chunkCancel =>
        cases answer with
        | done => cases stepped
        | raised error => exact absurd ⟨error, rfl⟩ raises
        | _ => cases stepped
    | transferResponse =>
        cases answer with
        | control payload =>
            obtain ⟨offer, rfl⟩ := afterResponse_stands (Option.some.inj stepped)
            exact .left _ _ (by simp)
        | raised error => exact absurd ⟨error, rfl⟩ raises
        | _ => cases stepped
    | resumeState offer =>
        cases answer with
        | control payload =>
            simp only [sessionStep] at stepped
            split at stepped
            · cases stepped
            · exact enterFile_below (Option.some.inj stepped) (by omega)
        | raised error => exact absurd ⟨error, rfl⟩ raises
        | _ => cases stepped
    | openFile payload file =>
        cases answer with
        | done =>
            simp only [sessionStep] at stepped
            split at stepped
            · obtain ⟨rfl, looped⟩ := Prod.mk.inj (Option.some.inj stepped)
              exact chunkLoop_below looped (by omega) (by omega)
            · cases stepped
        | raised error => exact absurd ⟨error, rfl⟩ raises
        | _ => cases stepped
    | chunkCancelled payload file chunk =>
        have inside := holds.inside
        cases answer with
        | flag cancelled =>
            cases stepped
            cases cancelled
            · exact below_inner rfl (by simp)
            · exact .left _ _ (by omega)
        | raised error => exact absurd ⟨error, rfl⟩ raises
        | _ => cases stepped
    | read payload file chunk =>
        cases answer with
        | octets raw =>
            simp only [sessionStep] at stepped
            split at stepped
            · cases stepped
            · split at stepped
              · cases stepped
              · cases stepped; exact below_inner rfl (by simp)
        | raised error => exact absurd ⟨error, rfl⟩ raises
        | _ => cases stepped
    | chunkData payload file chunk raw =>
        cases answer with
        | done =>
            obtain ⟨rfl, looped⟩ := Prod.mk.inj (Option.some.inj stepped)
            have fewer := @remaining_countChunk sending infos file _ holds.2
            exact chunkLoop_below looped (by omega) (by omega)
        | raised error => exact absurd ⟨error, rfl⟩ raises
        | _ => cases stepped
    | fileResult payload file =>
        have inside := holds.inside
        cases answer with
        | control result =>
            have entered := afterResult_stands (Option.some.inj stepped)
            rcases entered with rfl | rfl
            · exact .left _ _ (by omega)
            · exact .left _ _ (by omega)
        | raised error => exact absurd ⟨error, rfl⟩ raises
        | _ => cases stepped
    | sessionComplete offer =>
        cases answer with
        | control result =>
            simp only [sessionStep] at stepped
            split at stepped <;> cases stepped
        | raised error => exact absurd ⟨error, rfl⟩ raises
        | _ => cases stepped

/-- How far a worker is from its end. -/
def workerRank (worker : BatchWorker) : Nat × (Nat × Nat) :=
  match worker.phase with
  | .isFile pending _ => (20, pending.length, 0)
  | .stat pending => (19, pending.length, 1)
  | .hash _ _ pending => (19, pending.length, 2)
  | .register index => (18, worker.sending.fileMeta.length - index, 0)
  | .cancelled attempt => (3 * (maxRetries - attempt) + 3, 0, 0)
  | .backoff attempt => (3 * (maxRetries - attempt) + 2, 0, 0)
  | .session attempt phase =>
      (3 * (maxRetries - attempt) + 1, sessionRank worker.sending worker.infos phase)
  | .returned | .escaped _ => (0, 0, 0)

abbrev WorkerBelow : Nat × (Nat × Nat) → Nat × (Nat × Nat) → Prop := Prod.Lex (· < ·) Below

theorem workerBelow_wellFounded : WellFounded WorkerBelow :=
  WellFounded.prod_lex Nat.lt_wfRel.wf (WellFounded.prod_lex Nat.lt_wfRel.wf Nat.lt_wfRel.wf)

/-- A finished worker ranks below every other. -/
theorem finished_below {worker next : BatchWorker}
    (finished : next.phase = .returned ∨ ∃ error, next.phase = .escaped error)
    (positive : 0 < (workerRank worker).1) : WorkerBelow (workerRank next) (workerRank worker) := by
  have zero : workerRank next = (0, 0, 0) := by
    rcases finished with returned | ⟨error, escaped⟩
    · simp [workerRank, returned]
    · simp [workerRank, escaped]
  rw [zero]
  exact .left _ _ positive

theorem proceed_phase (worker : BatchWorker) (changed : List TransferInfo × Option Raised)
    (phase : WorkerPhase) :
    (worker.proceed changed phase).phase = phase ∨
      ∃ error, (worker.proceed changed phase).phase = .escaped error := by
  cases raised : changed.2 with
  | none => exact .inl (by simp [BatchWorker.proceed, raised])
  | some error => exact .inr ⟨error, by simp [BatchWorker.proceed, raised]⟩

theorem afterSession_phase (worker : BatchWorker) (attempt : Nat) (infos : List TransferInfo)
    (outcome : Except Raised Unit) (now : Time) :
    ((worker.afterSession attempt infos outcome now).phase = .returned ∨
      ∃ error, (worker.afterSession attempt infos outcome now).phase = .escaped error) ∨
    (attempt ≠ maxRetries ∧
      (worker.afterSession attempt infos outcome now).phase = .cancelled (attempt + 1)) := by
  cases outcome with
  | ok => exact .inl (.inl rfl)
  | error error =>
      obtain ⟨kind, message⟩ := error
      cases kind with
      | osError | timeoutError =>
          by_cases last : attempt = maxRetries
          · simp only [BatchWorker.afterSession, last, ↓reduceIte]
            exact .inl (proceed_phase _ _ _)
          · simp only [BatchWorker.afterSession, if_neg last]
            rcases proceed_phase worker (settle infos .interrupted (py "Connection interrupted") now)
              (.cancelled (attempt + 1)) with cancelled | escaped
            · exact .inr ⟨last, cancelled⟩
            · exact .inl (.inr escaped)
      | valueError | endpointError | invalidTransferTransition | keyError | typeError | structError
      | jsonDecodeError | unicodeDecodeError | recursionError | overflowError =>
          exact .inl (.inr ⟨_, rfl⟩)
      | _ => exact .inl (proceed_phase _ _ _)

/-- The worker stands at the answer and the receive times out. -/
def WorkerPolls (worker : BatchWorker) (event : Event) : Prop :=
  ∃ attempt phase, worker.phase = .session attempt phase ∧ Polls phase event

/-- Every step of a worker but a timeout of the answer brings it nearer to its end. -/
theorem workerStep_below {worker next : BatchWorker} {event : Event}
    (holds : WorkerInvariant worker) (stepped : workerStep worker event = some next)
    (asks : ¬ WorkerPolls worker event) :
    WorkerBelow (workerRank next) (workerRank worker) := by
  obtain ⟨sending, infos, phase⟩ := worker
  obtain ⟨now, answer⟩ := event
  cases phase with
  | isFile pending valid =>
      cases pending with
      | nil => cases answer <;> cases stepped
      | cons path pending =>
          cases answer with
          | flag isFile =>
              cases stepped
              cases pending with
              | nil =>
                  generalize (if isFile = true then valid ++ [path] else valid) = kept
                  by_cases none : kept = [] ∨ maxFilesPerSession < kept.length
                  · exact finished_below (.inl (by simp [afterChecks, none])) (by simp [workerRank])
                  · simp only [workerRank, afterChecks, none, ↓reduceIte]
                    exact .left _ _ (by omega)
              | cons => exact .right _ (.left _ _ (by simp))
          | _ => cases stepped
  | stat pending =>
      cases pending with
      | nil => cases answer <;> cases stepped; exact finished_below (.inr ⟨_, rfl⟩) (by simp [workerRank])
      | cons path pending =>
          cases answer with
          | size size =>
              simp only [workerStep, Option.some.injEq] at stepped
              subst stepped
              by_cases large : maxFileSize < size
              · exact finished_below (.inl (by simp [large])) (by simp [workerRank])
              · simp only [workerRank, large, ↓reduceIte]
                exact .right _ (.left _ _ (by simp))
          | raised error =>
              cases stepped
              exact finished_below (.inr ⟨_, rfl⟩) (by simp [workerRank])
          | _ => cases stepped
  | hash path size pending =>
      cases answer with
      | text digest =>
          simp only [workerStep, Option.some.injEq] at stepped
          subst stepped
          cases pending with
          | nil =>
              by_cases large : maxSessionSize < (sending.fileMeta.map FileMeta.size).sum + size
              · exact finished_below (.inl (by simp [large])) (by simp [workerRank])
              · simp [workerRank, large]
                exact .left _ _ (by omega)
          | cons => exact .right _ (.right _ (by simp))
      | raised error =>
          cases stepped
          exact finished_below (.inr ⟨_, rfl⟩) (by simp [workerRank])
      | _ => cases stepped
  | register index =>
      have inside : index < sending.fileMeta.length := holds.2.1
      cases answer with
      | peer peerDeviceId =>
          simp only [workerStep, List.getElem?_eq_getElem inside, Option.map_some,
            Option.some.injEq] at stepped
          subst stepped
          by_cases more : index + 1 < sending.fileMeta.length
          · simp only [workerRank, more, ↓reduceIte]
            exact .right _ (.left _ _ (by omega))
          · simp only [workerRank, more, ↓reduceIte, maxRetries]
            exact .left _ _ (by omega)
      | _ => cases stepped
  | cancelled attempt =>
      cases answer with
      | flag cancelled =>
          cases cancelled with
          | true => cases stepped; exact finished_below (proceed_phase _ _ _) (by simp [workerRank])
          | false =>
              simp only [workerStep, Bool.false_eq_true, ↓reduceIte, Option.some.injEq] at stepped
              subst stepped
              by_cases first : attempt = 0
              · subst first
                exact .left _ _ (by simp)
              · simp only [workerRank, first, ↓reduceIte]
                exact .left _ _ (by omega)
      | _ => cases stepped
  | backoff attempt =>
      cases answer with
      | flag cancelled =>
          cases cancelled with
          | true => cases stepped; exact finished_below (proceed_phase _ _ _) (by simp [workerRank])
          | false =>
              simp only [workerStep, Bool.false_eq_true, ↓reduceIte, Option.some.injEq] at stepped
              subst stepped
              obtain ⟨resumed, done, _⟩ := resumeAll_spec now holds.2.2.1 holds.2.2.2
              simp only [workerRank, BatchWorker.proceed, done]
              exact .left _ _ (by omega)
      | _ => cases stepped
  | session attempt phase =>
      obtain ⟨paired, bounded, invariant⟩ := holds
      simp only [workerStep] at stepped
      cases moved : sessionStep sending infos phase ⟨now, answer⟩ with
      | none => simp [moved] at stepped
      | some result =>
          obtain ⟨after, progress⟩ := result
          simp only [moved, Option.map_some, Option.some.injEq] at stepped
          subst stepped
          cases progress with
          | stands next =>
              exact .right _ (sessionStep_below invariant paired moved fun polls =>
                asks ⟨attempt, phase, rfl, polls⟩)
          | ended outcome =>
              rcases afterSession_phase ⟨sending, infos, .session attempt phase⟩ attempt after
                outcome now with finished | ⟨notLast, cancelled⟩
              · exact finished_below finished (by simp [workerRank])
              · simp only [workerRank, cancelled]
                exact .left _ _ (by omega)
  | returned | escaped => cases stepped

/-! ## Settled batches -/

/-- A connection failure before the last attempt leads back to the top of the
retry loop, and from there to a new session unless the batch is cancelled. -/
def Retries (worker : BatchWorker) (event : Event) (next : BatchWorker) : Prop :=
  ∀ attempt infos error, EndsWith worker event attempt infos error →
    error.kind.isConnectionFailure = true → attempt < maxRetries →
    next.phase = .cancelled (attempt + 1) ∧
      ∀ looked waited : Time, ∃ again,
        runLabels workerStep next [⟨looked, .flag false⟩, ⟨waited, .flag false⟩] = some again ∧
          again.phase = .session (attempt + 1) .assertPeerProtocol

/-- What a batch promises of a run of its worker: no exception escapes, the
worker goes on until it returns, and every file it registered is settled then. -/
structure BatchSettles (start : BatchWorker) (events : List Event) (finish : BatchWorker) :
    Prop where
  noEscape : ∀ error, finish.phase ≠ .escaped error
  proceeds : finish.phase ≠ .returned → ∃ event next, workerStep finish event = some next
  returns : ∀ (workers : Nat → BatchWorker) (later : Nat → Event), workers 0 = finish →
    (∀ step, workerStep (workers step) (later step) = some (workers (step + 1))) →
    ∀ step, ∃ polling, step ≤ polling ∧ WorkerPolls (workers polling) (later polling)
  settled : finish.phase = .returned → ∀ info ∈ finish.infos, isTerminal info.status = true
  retried : ∀ before event after worker next, events = before ++ event :: after →
    Run workerStep anyStep start before worker → workerStep worker event = some next →
    Retries worker event next

/-- From the top of the retry loop a new session starts unless the batch is cancelled. -/
theorem cancelled_resumes {worker : BatchWorker} {attempt : Nat} (holds : WorkerInvariant worker)
    (top : worker.phase = .cancelled (attempt + 1)) (looked waited : Time) :
    ∃ again, runLabels workerStep worker [⟨looked, .flag false⟩, ⟨waited, .flag false⟩] =
        some again ∧ again.phase = .session (attempt + 1) .assertPeerProtocol := by
  simp only [WorkerInvariant, top] at holds
  obtain ⟨resumed, done, _⟩ := resumeAll_spec waited (Nat.succ_ne_zero attempt) holds.2.2
  refine ⟨{ worker with infos := resumed, phase := .session (attempt + 1) .assertPeerProtocol },
    ?_, rfl⟩
  have looks : workerStep worker ⟨looked, .flag false⟩ =
      some { worker with phase := .backoff (attempt + 1) } := by
    simp [workerStep, top]
  have waits : workerStep { worker with phase := .backoff (attempt + 1) } ⟨waited, .flag false⟩ =
      some { worker with infos := resumed, phase := .session (attempt + 1) .assertPeerProtocol } := by
    simp [workerStep, done, BatchWorker.proceed]
  simp [runLabels, looks, waits]

theorem survivable_retries {worker next : BatchWorker} {event : Event}
    (holds : WorkerInvariant worker) (survives : Survivable worker event)
    (stepped : workerStep worker event = some next) : Retries worker event next := by
  intro attempt infos error ends failure below
  have handled := survives.2 attempt infos error ends
  have kept := workerStep_invariant holds survives stepped
  obtain ⟨phase, standing, moved⟩ := ends
  simp only [WorkerInvariant, standing] at holds
  obtain ⟨paired, bounded, invariant⟩ := holds
  obtain ⟨sameLength, lands⟩ := sessionStep_spec invariant paired moved
  simp only [workerStep, standing, moved, Option.map_some, Option.some.injEq] at stepped
  subst stepped
  have top := (@afterSession_handled _ _ _ _ event.now bounded (sameLength.trans paired) lands
    handled).2 failure below
  exact ⟨top, cancelled_resumes kept top⟩

theorem invariant_proceeds {worker : BatchWorker} (holds : WorkerInvariant worker)
    (busy : worker.phase ≠ .returned) : ∃ event next, workerStep worker event = some next := by
  obtain ⟨sending, infos, phase⟩ := worker
  cases phase with
  | isFile pending valid =>
      cases pending with
      | nil => exact absurd rfl holds.2
      | cons path pending => exact ⟨⟨0, .flag true⟩, _, rfl⟩
  | stat pending => exact ⟨⟨0, .raised ⟨.osError, []⟩⟩, by cases pending <;> exact ⟨_, rfl⟩⟩
  | hash path size pending => exact ⟨⟨0, .raised ⟨.osError, []⟩⟩, _, rfl⟩
  | register index =>
      have inside : index < sending.fileMeta.length := holds.2.1
      exact ⟨⟨0, .peer none⟩, by simp [workerStep, List.getElem?_eq_getElem inside]⟩
  | cancelled attempt | backoff attempt => exact ⟨⟨0, .flag true⟩, _, rfl⟩
  | session attempt phase =>
      exact ⟨⟨0, .raised ⟨.osError, []⟩⟩, by cases phase <;> exact ⟨_, rfl⟩⟩
  | returned => exact absurd rfl busy
  | escaped => exact holds.elim

/-- A worker that never returns keeps asking for the answer to its offer. -/
theorem endless_polls {workers : Nat → BatchWorker} {events : Nat → Event}
    (holds : WorkerInvariant (workers 0))
    (steps : ∀ step, workerStep (workers step) (events step) = some (workers (step + 1)))
    (step : Nat) : ∃ polling, step ≤ polling ∧ WorkerPolls (workers polling) (events polling) := by
  have invariant : ∀ step, WorkerInvariant (workers step) := by
    intro step
    induction step with
    | zero => exact holds
    | succ step ih =>
        by_cases survives : Survivable (workers step) (events step)
        · exact workerStep_invariant ih survives (steps step)
        · obtain ⟨failure, escaped⟩ := workerStep_escapes ih survives (steps step)
          have stopped := steps (step + 1)
          simp [workerStep, escaped] at stopped
  by_contra quiet
  have asks : ∀ polling, step ≤ polling → ¬ WorkerPolls (workers polling) (events polling) :=
    fun polling later polls => quiet ⟨polling, later, polls⟩
  have falls : ∀ count, WorkerBelow (workerRank (workers (step + (count + 1))))
      (workerRank (workers (step + count))) := fun count =>
    workerStep_below (invariant _) (steps _) (asks _ (by omega))
  exact (wellFounded_iff_isEmpty_descending_chain.mp workerBelow_wellFounded).false
    ⟨fun count => workerRank (workers (step + count)), falls⟩

/-- A run of the worker settles its batch exactly when the source files can be
read, every session ends with an exception the worker handles, the first
attempt is not cut before the block of every file has begun, and no retry is
rejected while a file is undelivered. -/
theorem batch_settles_iff {platform : Platform} {peerIp transferId : PyStr}
    {message : Option PyStr} {paths : List PyStr} {events : List Event} {finish : BatchWorker}
    (run : Run workerStep anyStep (.start platform peerIp transferId message paths) events finish) :
    BatchSettles (.start platform peerIp transferId message paths) events finish ↔
      Run workerStep Survivable (.start platform peerIp transferId message paths) events
        finish := by
  have initial := start_invariant platform peerIp transferId message paths
  generalize BatchWorker.start platform peerIp transferId message paths = start at run initial ⊢
  constructor
  · intro settles
    have noEscape := settles.noEscape
    clear settles
    induction run with
    | refl => exact .refl
    | snoc _ _ stepped ih =>
        have survivable := ih fun error escaped => by simp [workerStep, escaped] at stepped
        refine survivable.snoc ?_ stepped
        by_contra fatal
        obtain ⟨failure, escaped⟩ :=
          workerStep_escapes (run_invariant survivable initial) fatal stepped
        exact noEscape failure escaped
  · intro survivable
    have holds := run_invariant survivable initial
    refine ⟨fun error escaped => ?_, invariant_proceeds holds, fun workers later first steps => ?_,
      fun returned => ?_, fun before event after worker next split earlier stepped => ?_⟩
    · simp [WorkerInvariant, escaped] at holds
    · exact endless_polls (first ▸ holds) steps
    · simpa [WorkerInvariant, returned] using holds
    · subst split
      obtain ⟨middle, survivableEarlier, rest⟩ := survivable.append_inv
      obtain ⟨_, survives, _, _⟩ := rest.cons_inv
      cases survivableEarlier.deterministic earlier
      exact survivable_retries (run_invariant survivableEarlier initial) survives stepped

/-- A batch of one file at a host of the reference platform. -/
def noteWorker : BatchWorker :=
  .start asciiPlatform (py "192.0.2.1") (List.replicate 32 (chr '0')) none [py "note.txt"]

/-- The answers up to the top of the retry loop. -/
def noteRegistered : List Event :=
  [⟨0, .flag true⟩, ⟨0, .size 0⟩, ⟨0, .text (List.replicate 64 (chr '0'))⟩, ⟨0, .peer none⟩]

/-- `Survivable`, computed. -/
def survivable (worker : BatchWorker) (event : Event) : Bool :=
  match worker.phase, event.answer with
  | .stat _, .raised _ | .hash _ _ _, .raised _ => false
  | .session attempt phase, _ =>
      match sessionStep worker.sending worker.infos phase event with
      | some (infos, .ended (.error error)) => error.kind.isHandled &&
          (attempt ≠ 0 || !error.kind.isConnectionFailure ||
            infos.all fun info => info.status = .active || info.status = .complete) &&
          (attempt = 0 || error.kind ≠ .transferRejected ||
            infos.all fun info => info.status = .complete)
      | _ => true
  | _, _ => true

theorem survivable_sound {worker : BatchWorker} {event : Event}
    (checked : survivable worker event = true) : Survivable worker event := by
  obtain ⟨now, answer⟩ := event
  constructor
  · intro error raises
    dsimp only at raises
    subst raises
    constructor
    · intro pending stands
      simp [survivable, stands] at checked
    · intro path size pending stands
      simp [survivable, stands] at checked
  · intro attempt infos error ends
    obtain ⟨phase, stands, moved⟩ := ends
    simp only [survivable, stands, moved, Bool.and_eq_true, Bool.or_eq_true, decide_eq_true_eq,
      List.all_eq_true, Bool.not_eq_true', or_assoc] at checked
    obtain ⟨⟨handled, begun⟩, delivered⟩ := checked
    constructor
    · exact handled
    · intro first fails
      rcases begun with later | quiet | active
      · exact absurd first later
      · rw [fails] at quiet
        cases quiet
      · exact active
    · intro later rejected
      rcases delivered with first | other | complete
      · exact absurd first later
      · exact absurd rejected other
      · exact complete

/-- The answers to a session up to the block of its only file. -/
def noteAccepted : List Answer :=
  let offered := noteWorker.sending.transferId
  let files : List IncomingFile := [⟨py "file-0", py "note.txt", 0, List.replicate 64 (chr '0')⟩]
  [.done, .done, .done, .done, .done, .flag true, .flag false,
    .control (.obj [(py "type", .str (py "transfer_response")), (py "transfer_id", .str offered),
      (py "accepted", .bool true)]), .done,
    .control (resumeState ⟨offered, files, 0, none⟩ fun _ => 0)]

/-- The connection is lost inside the block of the file, and the next session is asked
to cancel while it waits for the answer to its offer. -/
def noteRetries : List Answer :=
  Answer.flag false :: noteAccepted ++ [.raised (raised .osError "Connection reset by peer"),
    .flag false, .flag false, .done, .done, .done, .done, .done, .flag true, .flag true, .done]

def noteRetried : List Event := noteRegistered ++ noteRetries.map fun answer => ⟨1, answer⟩

/-- A lost connection, a second session and its cancellation settle the file. -/
theorem note_retried : ∃ finish, Run workerStep anyStep noteWorker noteRetried finish ∧
    finish.infos.map TransferInfo.status = [.cancelled] ∧
    finish.infos.map TransferInfo.retryCount = [1] ∧ BatchSettles noteWorker noteRetried finish := by
  have ends : ((runLabels (fun worker event => if survivable worker event then
      workerStep worker event else none) noteWorker noteRetried).map fun finish =>
        (finish.infos.map TransferInfo.status, finish.infos.map TransferInfo.retryCount)) =
      some ([.cancelled], [1]) := by
    decide +kernel
  obtain ⟨finish, executed, settled⟩ := Option.map_eq_some_iff.mp ends
  obtain ⟨cancelled, retries⟩ := Prod.mk.inj settled
  have run : Run workerStep Survivable noteWorker noteRetried finish :=
    run_of_checked (fun _ _ checked => survivable_sound checked) executed
  have whole : Run workerStep anyStep noteWorker noteRetried finish :=
    run.weaken fun _ _ _ => trivial
  exact ⟨finish, whole, cancelled, retries, (batch_settles_iff whole).mpr run⟩

/-- A connection refused at the first attempt kills the worker: the files still
wait for an approval, and no transition leads from there to `interrupted`. -/
theorem refused_connection_escapes :
    ¬ ∀ (platform : Platform) (peerIp transferId : PyStr) (message : Option PyStr)
      (paths : List PyStr) (events : List Event) (finish : BatchWorker),
      Run workerStep anyStep (.start platform peerIp transferId message paths) events finish →
        BatchSettles (.start platform peerIp transferId message paths) events finish := by
  intro always
  let events := noteRegistered ++
    [⟨0, .flag false⟩, ⟨0, .done⟩, ⟨0, .raised (raised .osError "Connection refused")⟩]
  have ends : (runLabels workerStep noteWorker events).map BatchWorker.phase =
      some (.escaped (raised .invalidTransferTransition "pending_approval -> interrupted")) := by
    decide
  obtain ⟨finish, executed, escaped⟩ := Option.map_eq_some_iff.mp ends
  exact (always _ _ _ _ _ events finish (run_of_runLabels executed)).noEscape _ escaped

end DirectTransfer
