import DirectTransfer.Core.Protocol
import DirectTransfer.Library.FileSystem

/-! Collision-safe completion of a partial file, one file-system call a step.
Each step takes what the call raises, if it raises anything the state of the
disk does not already make it raise. -/

set_option autoImplicit false

namespace DirectTransfer

open Library

/-! ## Names -/

/-- The directories a receiver writes to, and those below the receive directory. -/
inductive Directory where
  | received
  | session (transferId : PyStr)
  | nested (components : List PyStr)
  deriving DecidableEq

structure FilePath where
  directory : Directory
  name : PyStr
  deriving DecidableEq

def received (name : PyStr) : FilePath := ⟨.received, name⟩

/-- `"".join(Path(name).suffixes)` of a name that does not end in a dot. -/
def joinedSuffixes (name : PyStr) : PyStr :=
  (name.dropWhile fun point => point = chr '.').dropWhile fun point => point ≠ chr '.'

/-- The names tried for a file, in their order. -/
def candidateName (filename : PyStr) (index : Nat) : PyStr :=
  if index = 0 then filename
  else
    let suffix := joinedSuffixes filename
    filename.take (filename.length - suffix.length) ++ py " (" ++ natText index ++ py ")" ++ suffix

/-! ## Calls -/

/-- The file-system call a commit stands at, with what earlier calls returned. -/
inductive CommitPhase where
  | probe (fallback : Bool) (index : Nat)
  | link (name : PyStr)
  | unlinkLinked (name : PyStr)
  | openPartial
  | openTemp (source : Nat)
  | copy (source target : Nat)
  | sync
  | reserve (name : PyStr)
  | fstat (name : PyStr) (reservation : Nat)
  | stat (name : PyStr) (reservation : Nat)
  | replace (name : PyStr) (reservation : Nat)
  | restat (name : PyStr) (reservation : Nat) (error : Raised)
  | unlinkReservation (name : PyStr) (error : Raised)
  | unlinkCopied (name : PyStr)
  | tempExists (outcome : Except Raised PyStr)
  | unlinkTemp (outcome : Except Raised PyStr)
  | finished (outcome : Except Raised PyStr)

/-- One call of `commit_partial_file`. The temporary name is
`.tmp-commit-{uuid4().hex}`, used only where the file cannot be linked. -/
structure CommitCall where
  partialPath : FilePath
  filename : PyStr
  temp : PyStr
  phase : CommitPhase

def fileNotFound : Raised := raised .osError "No such file or directory"

def reservationChanged : Raised := raised .osError "Destination reservation changed"

namespace CommitCall

/-- The call up to its first file-system call. -/
def start (platform : Platform) (partialPath : FilePath) (filename temp : PyStr) : CommitCall where
  partialPath
  filename
  temp
  phase := match sanitizeFilename platform filename with
    | .ok _ => .probe false 0
    | .error error =>
        if error.kind.isProtocolError then
          .finished (.error (raised .valueError "Invalid destination filename"))
        else .finished (.error error)

def moveTo (call : CommitCall) (phase : CommitPhase) : CommitCall := { call with phase }

/-- The next call, given what the present one raises; `none` once it is over. -/
def step (disk : Disk FilePath) (call : CommitCall) (failure : Option Raised) :
    Option (Disk FilePath × CommitCall) :=
  match call.phase, failure with
  | .probe fallback index, none =>
      let name := candidateName call.filename index
      if disk.holds (received name) then some (disk, call.moveTo (.probe fallback (index + 1)))
      else some (disk, call.moveTo (if fallback then .reserve name else .link name))
  | .probe false _, some error => some (disk, call.moveTo (.finished (.error error)))
  | .probe true _, some error => some (disk, call.moveTo (.tempExists (.error error)))
  | .link name, none => match disk.link call.partialPath (received name) with
    | .ok linked => some (linked, call.moveTo (.unlinkLinked name))
    | .error .exists => some (disk, call.moveTo (.probe false 0))
    | .error .missing => some (disk, call.moveTo .openPartial)
  | .unlinkLinked name, none =>
      some (disk.unlink call.partialPath, call.moveTo (.finished (.ok name)))
  -- the handler of the link's failure encloses the unlink as well
  | .link _, some error | .unlinkLinked _, some error =>
      if error.kind.isOSError then some (disk, call.moveTo .openPartial)
      else some (disk, call.moveTo (.finished (.error error)))
  | .openPartial, none => match disk.inode? call.partialPath with
    | some source => some (disk, call.moveTo (.openTemp source))
    | none => some (disk, call.moveTo (.tempExists (.error fileNotFound)))
  | .openTemp source, none => match disk.inode? (received call.temp) with
    | some target => some (disk.write target [], call.moveTo (.copy source target))
    | none =>
        some (disk.create (received call.temp) [], call.moveTo (.copy source disk.fresh))
  | .copy source target, none =>
      some (disk.write target (disk.contents source), call.moveTo .sync)
  | .sync, none => some (disk, call.moveTo (.probe true 0))
  | .reserve name, none => match disk.createNew (received name) [] with
    | .ok created => some (created, call.moveTo (.fstat name disk.fresh))
    | .error _ => some (disk, call.moveTo (.probe true 0))
  | .fstat name reservation, none => some (disk, call.moveTo (.stat name reservation))
  | .openPartial, some error | .openTemp _, some error | .copy _ _, some error | .sync, some error
  | .reserve _, some error | .fstat _ _, some error =>
      some (disk, call.moveTo (.tempExists (.error error)))
  | .stat name reservation, none => match disk.inode? (received name) with
    | some current =>
        if current = reservation then some (disk, call.moveTo (.replace name reservation))
        else some (disk, call.moveTo (.restat name reservation reservationChanged))
    | none => some (disk, call.moveTo (.restat name reservation fileNotFound))
  | .replace name reservation, none =>
      match disk.replace (received call.temp) (received name) with
      | .ok replaced => some (replaced, call.moveTo (.unlinkCopied name))
      | .error _ => some (disk, call.moveTo (.restat name reservation fileNotFound))
  | .stat name reservation, some error | .replace name reservation, some error =>
      if error.kind.isOSError then some (disk, call.moveTo (.restat name reservation error))
      else some (disk, call.moveTo (.tempExists (.error error)))
  | .restat name reservation error, none =>
      if disk.inode? (received name) = some reservation then
        some (disk, call.moveTo (.unlinkReservation name error))
      else some (disk, call.moveTo (.tempExists (.error error)))
  | .unlinkReservation name error, none =>
      some (disk.unlink (received name), call.moveTo (.tempExists (.error error)))
  | .restat _ _ original, some error | .unlinkReservation _ original, some error =>
      some (disk, call.moveTo (.tempExists (.error (if error.kind.isOSError then original else error))))
  | .unlinkCopied name, none =>
      some (disk.unlink call.partialPath, call.moveTo (.tempExists (.ok name)))
  | .unlinkCopied _, some error => some (disk, call.moveTo (.tempExists (.error error)))
  | .tempExists outcome, none =>
      if disk.holds (received call.temp) then some (disk, call.moveTo (.unlinkTemp outcome))
      else some (disk, call.moveTo (.finished outcome))
  | .unlinkTemp outcome, none =>
      some (disk.unlink (received call.temp), call.moveTo (.finished outcome))
  | .tempExists _, some error | .unlinkTemp _, some error =>
      some (disk, call.moveTo (.finished (.error error)))
  | .finished _, _ => none

end CommitCall

/-! ## Several calls and other programs -/

/-- A disk and the commits under way on it. -/
structure Commits where
  disk : Disk FilePath
  calls : List CommitCall

inductive CommitLabel where
  | call (index : Nat) (failure : Option Raised)
  | create (path : FilePath) (data : Bytes)

/-- One call of one commit, or another program's exclusive creation of a file. -/
def commitStep (state : Commits) : CommitLabel → Option Commits
  | .call index failure => do
      let call ← state.calls[index]?
      let (disk, call) ← call.step state.disk failure
      return ⟨disk, state.calls.set index call⟩
  | .create path data => match state.disk.createNew path data with
    | .ok disk => some { state with disk }
    | .error _ => none

end DirectTransfer
