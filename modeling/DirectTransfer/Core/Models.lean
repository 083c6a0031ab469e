import DirectTransfer.Library.Text
import Mathlib.Data.Rat.Defs

/-! Limits, exceptions and the domain records shared by transfer networking,
persistence and the user interface. -/

set_option autoImplicit false

namespace DirectTransfer

open Library

/-! ## Limits -/

def chunkSize : Nat := 64 * 1024

def headerMaxSize : Nat := 4096

def maxFilesPerSession : Nat := 1024

def maxFileSize : Nat := 100 * 1024 * 1024 * 1024

def maxSessionSize : Nat := 1024 * 1024 * 1024 * 1024

def maxRetries : Nat := 3

def nonceSize : Nat := 12

def maxPendingTransferRequests : Nat := 32

/-! ## Exceptions -/

/-- Classes of the exceptions the transfer code raises or handles. -/
inductive ErrorKind where
  | osError
  | timeoutError
  | protocolError
  | transferRejected
  | approvalTimeout
  | authenticationError
  | transferCancelled
  | invalidTag
  | valueError
  | endpointError
  | invalidTransferTransition
  | keyError
  | typeError
  | structError
  | jsonDecodeError
  | unicodeDecodeError
  | recursionError
  | overflowError
  deriving DecidableEq, Repr

/-- An exception in flight. -/
structure Raised where
  kind : ErrorKind
  message : PyStr
  deriving DecidableEq

/-- `ProtocolError` and its subclasses. -/
def ErrorKind.isProtocolError : ErrorKind → Bool
  | .protocolError | .transferRejected | .approvalTimeout => true
  | _ => false

/-- `OSError` and its subclasses; the protocol errors derive from `ConnectionError`. -/
def ErrorKind.isOSError : ErrorKind → Bool
  | .osError | .timeoutError | .protocolError | .transferRejected | .approvalTimeout
  | .authenticationError | .transferCancelled => true
  | _ => false

def ErrorKind.isValueError : ErrorKind → Bool
  | .valueError | .endpointError | .invalidTransferTransition | .jsonDecodeError
  | .unicodeDecodeError => true
  | _ => false

/-- A failed or timed-out connection, as opposed to a refusal by protocol code. -/
def ErrorKind.isConnectionFailure : ErrorKind → Bool
  | .osError | .timeoutError => true
  | _ => false

def raised (kind : ErrorKind) (message : String) : Raised := ⟨kind, py message⟩

/-! ## Transfer records -/

inductive TransferDirection where
  | send
  | recv
  deriving DecidableEq, Repr

inductive TransferStatus where
  | pending
  | pendingApproval
  | accepted
  | rejected
  | active
  | interrupted
  | resuming
  | complete
  | failed
  | cancelled
  deriving DecidableEq, Repr

def TransferStatus.value : TransferStatus → PyStr
  | .pending => py "pending"
  | .pendingApproval => py "pending_approval"
  | .accepted => py "accepted"
  | .rejected => py "rejected"
  | .active => py "active"
  | .interrupted => py "interrupted"
  | .resuming => py "resuming"
  | .complete => py "complete"
  | .failed => py "failed"
  | .cancelled => py "cancelled"

def terminalTransferStatuses : List TransferStatus :=
  [.complete, .failed, .rejected, .cancelled]

/-- Clock readings. -/
abbrev Time := Rat

/-- Thread-shared runtime state for one file in a transfer session. -/
structure TransferInfo where
  filename : PyStr
  filesize : Nat
  direction : TransferDirection
  peerIp : PyStr
  status : TransferStatus
  bytesTransferred : Nat
  startedAt : Time
  error : Option PyStr
  retryCount : Nat
  peerDeviceId : Option PyStr
  transferId : PyStr
  fileId : Option PyStr
  resumeOffset : Nat
  bytesTransferredThisAttempt : Nat
  completedAt : Option Time
  message : Option PyStr
  sha256 : Option PyStr
  finalPath : Option PyStr
  deriving DecidableEq

/-- Validated metadata for one offered file. -/
structure IncomingFile where
  fileId : PyStr
  name : PyStr
  size : Nat
  sha256 : PyStr
  deriving DecidableEq

structure TransferOffer where
  transferId : PyStr
  files : List IncomingFile
  totalSize : Nat
  message : Option PyStr
  deriving DecidableEq

end DirectTransfer
