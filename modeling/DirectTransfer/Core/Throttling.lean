import DirectTransfer.Core.CompletionTimes

/-! Throttled progress. What was last flushed is remembered and a flush is left
out while little has changed since; the row that was written is not looked at
again, and neither is whether it was written. -/

set_option autoImplicit false

namespace DirectTransfer

open Library

/-! ## One transfer's turn -/

/-- Where a turn stands: before its condition, or after its write. -/
inductive TurnPhase where
  | read (turn : PersistTurn)
  | written (turn : PersistTurn)

/-- The store, what is remembered of it, and the turn under way, one at a time
under the history lock. -/
structure Throttle where
  store : TransferHistoryStore
  persisted : Dict PyStr PersistedProgress
  turn : Option TurnPhase

/-- The callbacks of the inbox do not take the history lock. The flags say which
calls of the store are successful. -/
inductive ThrottleMove where
  | read (transferId : PyStr) (rawInfos : List TransferInfo) (now : Time)
      (hostname : Option PyStr) (ok : Bool)
  | skip
  | write (ok : Bool)
  | remember
  | request (request : IncomingTransferRequest) (ok : Bool)
  | decided (request : IncomingTransferRequest) (now : Time) (ok : Bool)
  | restart

namespace Throttle

def flushes (state : Throttle) (turn : PersistTurn) : Bool := turn.flushes state.persisted

def step (state : Throttle) : ThrottleMove → Option Throttle
  | .read transferId rawInfos now hostname ok => match state.turn, resolveFiles rawInfos with
    | none, first :: rest => some { state with turn := some (.read
        { transferId, first, rest, now, hostname,
          aggregate := aggregateStatus ((first :: rest).map TransferInfo.status)
          existing := if ok then state.store.getTransfer transferId else none }) }
    | _, _ => none
  | .skip => match state.turn with
    | some (.read turn) => if state.flushes turn then none else some { state with turn := none }
    | _ => none
  | .write ok => match state.turn with
    | some (.read turn) =>
        if state.flushes turn then some { state with
          store := turn.write state.store ok
          turn := some (.written turn) }
        else none
    | _ => none
  | .remember => match state.turn with
    | some (.written turn) => some { state with
        persisted := turn.remember state.persisted
        turn := none }
    | _ => none
  | .request request ok => some { state with
      store := if ok then handleIncomingRequest state.store request else state.store }
  | .decided request now ok => some { state with
      store := if ok then handleRequestDecision state.store request now else state.store }
  | .restart => some ⟨state.store.migrate, Dict.empty, none⟩

/-- A process that has just opened the store. -/
def opened (store : TransferHistoryStore) : Throttle := ⟨store, Dict.empty, none⟩

/-- The row says what was flushed. -/
def Stores (store : TransferHistoryStore) (transferId : PyStr) (progress : PersistedProgress) : Prop :=
  ∃ row, store.getTransfer transferId = some row ∧ row.status = progress.status ∧
    progress.bytes ≤ row.bytesTransferred

/-- What is remembered of a transfer that has not ended, or is about to be once
its write has been made. -/
inductive Claims (state : Throttle) (transferId : PyStr) (progress : PersistedProgress) : Prop where
  | remembered : isTerminal progress.status = false →
      state.persisted.get transferId = some progress →
      (∀ turn, state.turn = some (.written turn) → turn.transferId ≠ transferId) →
      Claims state transferId progress
  | written (turn : PersistTurn) : isTerminal turn.status = false →
      state.turn = some (.written turn) → transferId = turn.transferId →
      progress = turn.progress → Claims state transferId progress

/-- Wherever a flush is left out, the row has the status just computed and lacks
less than four mebibytes. -/
def SkipsSafely (state : Throttle) : Prop :=
  ∀ turn, state.turn = some (.read turn) → state.flushes turn = false →
    ∃ row, state.store.getTransfer turn.transferId = some row ∧ row.status = turn.status ∧
      turn.bytes < row.bytesTransferred + 4 * 1024 * 1024

/-- The condition on a step. A flush of a transfer that has not ended reaches a
row that is not complete, or one that says so already; a callback writes a row
only as what is remembered of it has it. -/
def Faithful (state : Throttle) : ThrottleMove → Prop
  | .write ok => ∀ turn, state.turn = some (.read turn) → isTerminal turn.status = false →
      (ok = true ∧ ∀ row, state.store.getTransfer turn.transferId = some row →
        row.status ≠ .complete) ∨ Stores state.store turn.transferId turn.progress
  | .request request ok => ok = true → ∀ progress, Claims state request.transferId progress →
      progress.status = .pendingApproval ∧ progress.bytes = 0
  | .decided request _ ok => ok = true → ∀ progress, Claims state request.transferId progress →
      progress.status = decisionStatus request.status
  | _ => True

/-! ## What is remembered -/

/-- Everything remembered of a transfer that has not ended is in its row. -/
def Mirrors (state : Throttle) : Prop :=
  ∀ transferId progress, Claims state transferId progress → Stores state.store transferId progress

variable {state next : Throttle}

/-- A flush is left out only next to a progress of the same status, not four
mebibytes behind. -/
theorem flushes_false {turn : PersistTurn} (skipped : state.flushes turn = false) :
    ∃ progress, state.persisted.get turn.transferId = some progress ∧
      progress.status = turn.status ∧ isTerminal turn.status = false ∧
      turn.bytes < progress.bytes + 4 * 1024 * 1024 := by
  unfold flushes PersistTurn.flushes shouldFlush at skipped
  split at skipped
  · cases skipped
  · next progress remembered =>
      simp only [Bool.or_eq_false_iff, decide_eq_false_iff_not, not_not, not_le] at skipped
      exact ⟨progress, remembered, skipped.1.1.1, skipped.1.1.2, skipped.1.2⟩

theorem Mirrors.skipsSafely (mirrors : Mirrors state) : SkipsSafely state := by
  intro turn reading skipped
  obtain ⟨progress, remembered, same, running, near⟩ := flushes_false skipped
  obtain ⟨row, found, status, bytes⟩ :=
    mirrors _ progress (.remembered (by rw [same]; exact running) remembered fun _ writing => by
      rw [reading] at writing
      cases writing)
  exact ⟨row, found, status.trans same, by omega⟩

theorem stores_createTransfer {store : TransferHistoryStore} {turn : PersistTurn}
    (open_ : ∀ row, store.getTransfer turn.transferId = some row → row.status ≠ .complete) :
    Stores (store.createTransfer turn.record turn.files) turn.transferId turn.progress := by
  have written := TransferHistoryStore.createTransfer_row store turn.record turn.files
  refine ⟨_, written, ?_⟩
  cases found : store.transfers.get turn.record.transferId with
  | none => exact ⟨rfl, Nat.le_refl _⟩
  | some old =>
      have running := open_ old found
      constructor
      · simp [TransferHistoryStore.mergeTransfer, running]
        rfl
      · simp [TransferHistoryStore.mergeTransfer, running]
        exact Nat.le_refl _

theorem stores_handleIncomingRequest {store : TransferHistoryStore}
    {request : IncomingTransferRequest} {progress : PersistedProgress}
    (stored : Stores store request.transferId progress) (waiting : progress.status = .pendingApproval)
    (empty : progress.bytes = 0) :
    Stores (handleIncomingRequest store request) request.transferId progress := by
  obtain ⟨row, found, status, _⟩ := stored
  refine ⟨_, TransferHistoryStore.createTransfer_row _ _ _, ?_⟩
  rw [show store.transfers.get request.transferId = some row from found]
  rw [waiting] at status
  constructor
  · simp [TransferHistoryStore.mergeTransfer, status, waiting]
  · rw [empty]
    exact Nat.zero_le _

theorem stores_handleRequestDecision {store : TransferHistoryStore}
    {request : IncomingTransferRequest} {now : Time} {progress : PersistedProgress}
    (stored : Stores store request.transferId progress) (running : isTerminal progress.status = false)
    (same : progress.status = decisionStatus request.status) :
    Stores (handleRequestDecision store request now) request.transferId progress := by
  obtain ⟨row, found, status, bytes⟩ := stored
  have incomplete : row.status ≠ .complete := by
    intro complete
    rw [← status, complete] at running
    cases running
  refine ⟨_, TransferHistoryStore.updateTransfer_row found, ?_⟩
  rw [if_neg fun kept => incomplete kept.2]
  exact ⟨same.symm, bytes⟩

theorem stores_other {before after : TransferHistoryStore} {transferId : PyStr}
    {progress : PersistedProgress} (same : after.transfers.get transferId =
      before.transfers.get transferId) (stored : Stores before transferId progress) :
    Stores after transferId progress := by
  obtain ⟨row, found, rest⟩ := stored
  exact ⟨row, same.trans found, rest⟩

/-- A claim outlasts a step that neither writes its row nor begins or ends a write. -/
theorem Mirrors.kept (mirrors : Mirrors state) (store : next.store = state.store)
    (claims : ∀ transferId progress, Claims next transferId progress →
      Claims state transferId progress) : Mirrors next := by
  intro transferId progress claimed
  rw [store]
  exact mirrors transferId progress (claims transferId progress claimed)

theorem Claims.running {transferId : PyStr} {progress : PersistedProgress}
    (claimed : Claims state transferId progress) : isTerminal progress.status = false := by
  cases claimed with
  | remembered running _ _ => exact running
  | written turn running _ _ same =>
      rw [same]
      exact running

theorem Claims.congr {transferId : PyStr} {progress : PersistedProgress}
    (persisted : next.persisted = state.persisted) (turn : next.turn = state.turn)
    (claimed : Claims next transferId progress) : Claims state transferId progress := by
  cases claimed with
  | remembered running remembered apart =>
      rw [persisted] at remembered
      rw [turn] at apart
      exact .remembered running remembered apart
  | written writing running stands named same =>
      rw [turn] at stands
      exact .written writing running stands named same

/-- With no write under way before or after, what is remembered is what is claimed. -/
theorem Claims.unwritten {transferId : PyStr} {progress : PersistedProgress}
    (persisted : next.persisted = state.persisted)
    (before : ∀ turn, state.turn ≠ some (.written turn))
    (after : ∀ turn, next.turn ≠ some (.written turn))
    (claimed : Claims next transferId progress) : Claims state transferId progress := by
  cases claimed with
  | remembered running remembered _ =>
      rw [persisted] at remembered
      exact .remembered running remembered fun turn writing => absurd writing (before turn)
  | written turn _ writing _ _ => exact absurd writing (after turn)

theorem Mirrors.step {move : ThrottleMove} (mirrors : Mirrors state)
    (faithful : Faithful state move) (stepped : state.step move = some next) : Mirrors next := by
  cases move with
  | read transferId rawInfos now hostname ok =>
      simp only [Throttle.step] at stepped
      split at stepped
      · next idle _ =>
          cases stepped
          have before : ∀ turn, state.turn ≠ some (.written turn) := by
            intro turn writing
            rw [idle] at writing
            cases writing
          refine mirrors.kept rfl fun _ _ claimed => Claims.unwritten ?_ before ?_ claimed
          · rfl
          · exact fun _ => by simp
      · cases stepped
  | skip =>
      simp only [Throttle.step] at stepped
      split at stepped
      · next reading =>
          split at stepped
          · cases stepped
          · cases stepped
            have before : ∀ turn, state.turn ≠ some (.written turn) := by
              intro turn writing
              rw [reading] at writing
              cases writing
            refine mirrors.kept rfl fun _ _ claimed => Claims.unwritten ?_ before ?_ claimed
            · rfl
            · exact fun _ => by simp
      · cases stepped
  | write ok =>
      simp only [Throttle.step] at stepped
      split at stepped
      · next turn reading =>
          split at stepped
          · cases stepped
            intro transferId progress claimed
            cases claimed with
            | remembered running remembered apart =>
                have before := mirrors transferId progress (.remembered running remembered
                  fun other writing => by
                    rw [reading] at writing
                    cases writing)
                have different : transferId ≠ turn.transferId := Ne.symm (apart turn rfl)
                cases ok with
                | false => exact before
                | true =>
                    exact stores_other (TransferHistoryStore.createTransfer_other different) before
            | written other running writing named same =>
                cases writing
                subst named same
                cases faithful turn reading running with
                | inl written =>
                    rw [written.1]
                    exact stores_createTransfer written.2
                | inr stored =>
                    cases ok with
                    | false => exact stored
                    | true =>
                        apply stores_createTransfer
                        intro row found complete
                        obtain ⟨other, same, status, _⟩ := stored
                        rw [found] at same
                        cases same
                        rw [← show row.status = turn.status from status, complete] at running
                        cases running
          · cases stepped
      · cases stepped
  | remember =>
      simp only [Throttle.step] at stepped
      split at stepped
      · next turn writing =>
          cases stepped
          intro transferId progress claimed
          cases claimed with
          | remembered running remembered _ =>
              simp only [PersistTurn.remember] at remembered
              rw [Dict.get_set] at remembered
              split at remembered
              · next same =>
                  cases remembered
                  exact mirrors _ _ (.written turn running writing same rfl)
              · next different =>
                  refine mirrors _ _ (.remembered running remembered fun other stands => ?_)
                  rw [writing] at stands
                  cases stands
                  exact Ne.symm different
          | written _ _ stands _ _ => cases stands
      · cases stepped
  | request request ok =>
      simp only [Throttle.step] at stepped
      cases stepped
      intro transferId progress claimed
      have before : Claims state transferId progress := by
        refine Claims.congr ?_ ?_ claimed
        · rfl
        · rfl
      cases ok with
      | false => exact mirrors _ _ before
      | true =>
          by_cases same : transferId = request.transferId
          · subst same
            obtain ⟨waiting, empty⟩ := faithful rfl progress before
            exact stores_handleIncomingRequest (mirrors _ _ before) waiting empty
          · exact stores_other (TransferHistoryStore.createTransfer_other same) (mirrors _ _ before)
  | decided request now ok =>
      simp only [Throttle.step] at stepped
      cases stepped
      intro transferId progress claimed
      have before : Claims state transferId progress := by
        refine Claims.congr ?_ ?_ claimed
        · rfl
        · rfl
      cases ok with
      | false => exact mirrors _ _ before
      | true =>
          by_cases same : transferId = request.transferId
          · subst same
            exact stores_handleRequestDecision (mirrors _ _ before) before.running
              (faithful rfl progress before)
          · exact stores_other (TransferHistoryStore.updateTransfer_other same) (mirrors _ _ before)
  | restart =>
      cases stepped
      intro transferId progress claimed
      cases claimed with
      | remembered _ remembered _ => cases remembered
      | written _ _ writing _ _ => cases writing

theorem mirrors_opened (store : TransferHistoryStore) : Mirrors (opened store) := by
  intro transferId progress claimed
  cases claimed with
  | remembered _ remembered _ => cases remembered
  | written _ _ writing _ _ => cases writing

/-- In every run of faithful steps the throttle leaves out no change of status. -/
theorem throttle_skips_safely {store : TransferHistoryStore} {moves : List ThrottleMove}
    (run : Run step Faithful (opened store) moves state) : SkipsSafely state := by
  have mirrors : Mirrors state :=
    run.invariant (fun _ _ _ holds faithful stepped => holds.step faithful stepped)
      (mirrors_opened store)
  exact mirrors.skipsSafely

/-- A turn with nothing in between makes the writes of the loop's body. -/
theorem turn_performs (call : PersistCall) (history : RuntimeHistory) {transferId : PyStr}
    {rawInfos : List TransferInfo} (files : resolveFiles rawInfos ≠ []) :
    let performed := call.persistTransfer history transferId rawInfos
    ∃ moves, Run step anyStep ⟨history.store, history.persisted, none⟩ moves
      ⟨performed.store, performed.persisted, none⟩ := by
  intro performed
  cases resolved : resolveFiles rawInfos with
  | nil => exact absurd resolved files
  | cons first rest =>
      let turn := call.turn history transferId first rest
      let reading : Throttle := ⟨history.store, history.persisted, some (.read turn)⟩
      have read : step ⟨history.store, history.persisted, none⟩ (.read transferId rawInfos call.now
          (call.hostname transferId) (call.ok transferId)) = some reading := by
        simp only [step, resolved]
        rfl
      have outcome : performed = if reading.flushes turn then { history with
          store := turn.write history.store (call.ok transferId)
          persisted := turn.remember history.persisted } else history :=
        PersistCall.persistTransfer_cons resolved
      cases flushed : reading.flushes turn with
      | false =>
          have skip : reading.step .skip = some ⟨history.store, history.persisted, none⟩ := by
            simp only [step, reading] at flushed ⊢
            rw [flushed]
            rfl
          rw [outcome, flushed]
          exact ⟨_, .cons trivial read (.single trivial skip)⟩
      | true =>
          let written : Throttle :=
            ⟨turn.write history.store (call.ok transferId), history.persisted, some (.written turn)⟩
          have write : reading.step (.write (call.ok transferId)) = some written := by
            simp only [step, reading] at flushed ⊢
            rw [flushed]
            rfl
          have remember : written.step .remember = some ⟨written.store,
              turn.remember history.persisted, none⟩ := rfl
          rw [outcome, flushed]
          exact ⟨_, .cons trivial read (.cons trivial write (.single trivial remember))⟩

/-! ## Two updates within a second -/

def sentInfo : TransferInfo := { RuntimeHistory.sentFile "file-0" with status := .active }

def firstUpdate (ok : Bool) : List ThrottleMove :=
  [.read (py "t") [sentInfo] 0 none true, .write ok, .remember]

def secondUpdate : ThrottleMove := .read (py "t") [sentInfo] 1 none true

/-- The steps without callbacks whose writes are successful, of rows that are not complete. -/
def plainStep (state : Throttle) : ThrottleMove → Bool
  | .write ok => ok && state.store.transfers.entries.all fun entry => entry.2.status ≠ .complete
  | .request _ _ | .decided _ _ _ => false
  | _ => true

theorem faithful_of_plain (state : Throttle) (move : ThrottleMove)
    (plain : plainStep state move = true) : Faithful state move := by
  cases move with
  | write ok =>
      simp only [plainStep, Bool.and_eq_true, List.all_eq_true] at plain
      intro turn _ _
      left
      refine ⟨plain.1, fun row found complete => ?_⟩
      have stored := plain.2 _ (Dict.get_eq_some_iff.mp found)
      rw [complete] at stored
      cases stored
  | request => cases plain
  | decided => cases plain
  | read => trivial
  | skip => trivial
  | remember => trivial
  | restart => trivial

def emptyHistory : TransferHistoryStore := ⟨Dict.empty, Dict.empty⟩

/-- The second of two updates of a stored transfer is left out safely. -/
theorem second_update_skipped : ∃ state moves, Run step Faithful (opened emptyHistory) moves state ∧
    (∃ turn, state.turn = some (.read turn) ∧ state.flushes turn = false) ∧ SkipsSafely state := by
  have executed : (runLabels (fun state move => if plainStep state move then step state move else none)
      (opened emptyHistory) (firstUpdate true ++ [secondUpdate])).any (fun state =>
        match state.turn with
        | some (.read turn) => !state.flushes turn
        | _ => false) = true := by
    decide +kernel
  obtain ⟨state, reached, skips⟩ := (Option.any_eq_true _ _).mp executed
  have run : Run step Faithful (opened emptyHistory) (firstUpdate true ++ [secondUpdate]) state :=
    run_of_checked faithful_of_plain reached
  refine ⟨state, _, run, ?_, throttle_skips_safely run⟩
  split at skips
  · next turn reading => exact ⟨turn, reading, by simpa using skips⟩
  · cases skips

/-- After a write that failed, the next update is left out next to no row at all. -/
theorem failed_write_remembered : ∃ state moves, Run step anyStep (opened emptyHistory) moves state ∧
    ¬ SkipsSafely state := by
  have executed : (runLabels step (opened emptyHistory) (firstUpdate false ++ [secondUpdate])).any
      (fun state => match state.turn with
        | some (.read turn) => !state.flushes turn &&
            (state.store.getTransfer turn.transferId).isNone
        | _ => false) = true := by
    decide +kernel
  obtain ⟨state, reached, lost⟩ := (Option.any_eq_true _ _).mp executed
  refine ⟨state, _, run_of_runLabels reached, ?_⟩
  intro safely
  split at lost
  · next turn reading =>
      simp only [Bool.and_eq_true, Bool.not_eq_true', Option.isNone_iff_eq_none] at lost
      obtain ⟨row, found, _⟩ := safely turn reading lost.1
      rw [lost.2] at found
      cases found
  · cases lost

end Throttle

end DirectTransfer
