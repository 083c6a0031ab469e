import DirectTransfer.Core.Models

/-! Small guarded lifecycle for transfer state changes. -/

set_option autoImplicit false

namespace DirectTransfer

open Library

def allowed : TransferStatus → List TransferStatus
  | .pending => [.pendingApproval, .active, .interrupted, .failed, .cancelled]
  | .pendingApproval => [.accepted, .rejected, .failed, .cancelled]
  | .accepted => [.active, .resuming, .failed, .cancelled]
  | .active => [.interrupted, .resuming, .complete, .failed, .cancelled]
  | .interrupted => [.resuming, .failed, .cancelled]
  | .resuming => [.active, .interrupted, .complete, .failed, .cancelled]
  | .rejected | .complete | .failed | .cancelled => []

def isTerminal (status : TransferStatus) : Bool := terminalTransferStatuses.contains status

/-- Apply a valid transition; the flag is false for an idempotent assignment. -/
def setStatus (info : TransferInfo) (status : TransferStatus) (error : Option PyStr)
    (force : Bool) (now : Time) : Except Raised (TransferInfo × Bool) :=
  if info.status = status then
    .ok ({ info with error := error.orElse fun _ => info.error }, false)
  else if force = false ∧ status ∉ allowed info.status then
    .error ⟨.invalidTransferTransition, info.status.value ++ py " -> " ++ status.value⟩
  else
    .ok ({ info with
      status
      error
      completedAt := if isTerminal status then some now else info.completedAt }, true)

/-- A guarded transition, with the flag its callers ignore left out. -/
def transition (info : TransferInfo) (status : TransferStatus) (error : Option PyStr)
    (now : Time) : Except Raised TransferInfo :=
  (setStatus info status error false now).map Prod.fst

/-! ## What a transition changes -/

/-- The transitions that do not raise. -/
def Reaches (current status : TransferStatus) : Prop :=
  current = status ∨ status ∈ allowed current

instance (current status : TransferStatus) : Decidable (Reaches current status) :=
  inferInstanceAs (Decidable (_ ∨ _))

/-- The record a transition leaves. -/
def TransferInfo.moved (info : TransferInfo) (status : TransferStatus) (error : Option PyStr)
    (now : Time) : TransferInfo :=
  if info.status = status then { info with error := error.orElse fun _ => info.error }
  else { info with
    status
    error
    completedAt := if isTerminal status then some now else info.completedAt }

theorem transition_ok {info : TransferInfo} {status : TransferStatus} {error : Option PyStr}
    {now : Time} (reaches : Reaches info.status status) :
    transition info status error now = .ok (info.moved status error now) := by
  unfold transition setStatus TransferInfo.moved
  rcases reaches with same | permitted
  · simp [same, Except.map]
  · split <;> simp [permitted, Except.map]

theorem transition_error {info : TransferInfo} {status : TransferStatus} {error : Option PyStr}
    {now : Time} (stuck : ¬ Reaches info.status status) :
    transition info status error now =
      .error ⟨.invalidTransferTransition, info.status.value ++ py " -> " ++ status.value⟩ := by
  simp only [Reaches, not_or] at stuck
  simp [transition, setStatus, stuck, Except.map]

/-- A transition that returns was permitted, and leaves exactly this record. -/
theorem transition_cases {info next : TransferInfo} {status : TransferStatus}
    {error : Option PyStr} {now : Time} (moved : transition info status error now = .ok next) :
    Reaches info.status status ∧ next = info.moved status error now := by
  by_cases reaches : Reaches info.status status
  · rw [transition_ok reaches] at moved
    exact ⟨reaches, (Except.ok.inj moved).symm⟩
  · rw [transition_error reaches] at moved
    cases moved

namespace TransferInfo

variable (info : TransferInfo) (status : TransferStatus) (error : Option PyStr) (now : Time)

@[simp] theorem moved_status : (info.moved status error now).status = status := by
  unfold moved; split <;> simp_all

@[simp] theorem moved_filename : (info.moved status error now).filename = info.filename := by
  unfold moved; split <;> rfl

@[simp] theorem moved_filesize : (info.moved status error now).filesize = info.filesize := by
  unfold moved; split <;> rfl

@[simp] theorem moved_direction : (info.moved status error now).direction = info.direction := by
  unfold moved; split <;> rfl

@[simp] theorem moved_bytesTransferred :
    (info.moved status error now).bytesTransferred = info.bytesTransferred := by
  unfold moved; split <;> rfl

@[simp] theorem moved_bytesTransferredThisAttempt :
    (info.moved status error now).bytesTransferredThisAttempt = info.bytesTransferredThisAttempt := by
  unfold moved; split <;> rfl

@[simp] theorem moved_resumeOffset :
    (info.moved status error now).resumeOffset = info.resumeOffset := by
  unfold moved; split <;> rfl

@[simp] theorem moved_finalPath : (info.moved status error now).finalPath = info.finalPath := by
  unfold moved; split <;> rfl

@[simp] theorem moved_transferId : (info.moved status error now).transferId = info.transferId := by
  unfold moved; split <;> rfl

@[simp] theorem moved_fileId : (info.moved status error now).fileId = info.fileId := by
  unfold moved; split <;> rfl

theorem moved_completedAt :
    (info.moved status error now).completedAt =
      if info.status = status then info.completedAt
      else if isTerminal status then some now else info.completedAt := by
  unfold moved; split <;> rfl

end TransferInfo

@[simp] theorem isTerminal_iff {status : TransferStatus} :
    isTerminal status = true ↔
      status = .complete ∨ status = .failed ∨ status = .rejected ∨ status = .cancelled := by
  cases status <;> decide

/-- No transition leaves a terminal status. -/
theorem reaches_terminal {current status : TransferStatus} (terminal : isTerminal current = true)
    (reaches : Reaches current status) : status = current := by
  revert terminal reaches
  cases current <;> cases status <;> decide

theorem reaches_failed (current : TransferStatus) (running : isTerminal current = false) :
    Reaches current .failed := by
  revert running; cases current <;> decide

theorem reaches_cancelled (current : TransferStatus) (running : isTerminal current = false) :
    Reaches current .cancelled := by
  revert running; cases current <;> decide

end DirectTransfer
