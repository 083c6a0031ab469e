import DirectTransfer.Core.HistoryMoves

/-! The callbacks of the inbox write a row after the decision they tell has become
visible, so a later write may overtake them. As long as no request is declined before
its row is written, and neither a publication nor an acceptance is written over a row
that has failed, a final row stays final and tells how its request was decided. -/

set_option autoImplicit false

namespace DirectTransfer

open Library

/-! ## Final rows -/

/-- A final status other than complete. -/
def isFatal (status : TransferStatus) : Bool :=
  status = .failed || status = .cancelled || status = .rejected

namespace HistorySystem

/-- Whether the row of a transfer has failed, been cancelled or been rejected. -/
def rowFatal (system : HistorySystem) (transferId : PyStr) : Bool :=
  (system.store.rowStatus transferId).any isFatal

/-- Whether a record of a transfer has. -/
def RecordFatal (system : HistorySystem) (transferId : PyStr) : Prop :=
  ∃ ref info, system.read ref = some info ∧ info.transferId = transferId ∧
    isFatal info.status = true

end HistorySystem

def IncomingRequestStatus.declines : IncomingRequestStatus → Bool
  | .rejected | .expired | .cancelled => true
  | .pendingApproval | .accepted => false

/-- The callbacks that write a status that is not final. -/
def ManagerCallback.reopens : ManagerCallback → Bool
  | .onRequest _ => true
  | .onDecision decided => decided.status = .accepted

/-- Store calls succeed, and decisions and callbacks come in order: a request comes under
an identifier that no failed row and no outgoing record has, it is not declined while its
row has still to be written, and neither it nor its acceptance is written over a row that
has failed since. -/
structure DecisionsInOrder (system : HistorySystem) (label : HistoryLabel) : Prop where
  stored : label.stored = true
  reopens : ∀ callback, system.calls label = some callback → callback.reopens = true →
    system.rowFatal callback.request.transferId = false
  publishes : ∀ index event thread, label = .session index event →
    system.threads[index]? = some thread → thread.approval.phase = .publish →
    system.manager.entries.get thread.transferId = none →
      system.rowFatal thread.transferId = false ∧
        ∀ info ∈ system.sent, info.transferId ≠ thread.transferId
  decides : ∀ transferId how, label = .decide transferId how → how ≠ .accept →
    (system.manager.getRequest transferId).any (fun request => request.status = .pendingApproval) →
      ¬system.Announcing transferId

/-- A final row stays final. -/
def TerminalKept (system next : HistorySystem) : Prop :=
  ∀ transferId status, system.store.rowStatus transferId = some status → isTerminal status = true →
    ∃ later, next.store.rowStatus transferId = some later ∧ isTerminal later = true

/-- The row of a declined request whose callbacks have returned tells how it was declined. -/
def DecisionsTold (system : HistorySystem) : Prop :=
  ∀ transferId entry, system.manager.entries.get transferId = some entry →
    entry.request.status.declines = true →
    (∀ callback, system.InFlight callback → callback.request.transferId ≠ transferId) →
    system.store.rowStatus transferId = some (decisionStatus entry.request.status)

/-! ## What a failed row goes back to -/

section Statuses

open TransferHistoryStore

@[simp] theorem isFatal_iff {status : TransferStatus} :
    isFatal status = true ↔ status = .failed ∨ status = .cancelled ∨ status = .rejected := by
  cases status <;> decide

theorem isTerminal_split {status : TransferStatus} :
    isTerminal status = true ↔ status = .complete ∨ isFatal status = true := by
  cases status <;> decide

/-- A failed record stays as it is. -/
theorem reaches_fatal {current status : TransferStatus} (fatal : isFatal current = true)
    (reaches : Reaches current status) : status = current :=
  reaches_terminal (isTerminal_split.mpr (.inr fatal)) reaches

theorem mergedStatus_fatal {old : Option TransferStatus} {status : TransferStatus}
    (fatal : isFatal (mergedStatus old status) = true) : isFatal status = true := by
  unfold mergedStatus at fatal
  split at fatal
  · cases fatal
  · exact fatal

theorem mergedStatus_complete {old : Option TransferStatus} {status : TransferStatus}
    (complete : mergedStatus old status = .complete) : old = some .complete ∨ status = .complete := by
  unfold mergedStatus at complete
  split at complete
  · next keeps => exact .inl keeps.1
  · exact .inr complete

theorem mergedStatus_terminal {old : Option TransferStatus} {status : TransferStatus}
    (terminal : isTerminal status = true) : isTerminal (mergedStatus old status) = true := by
  unfold mergedStatus
  split
  · rfl
  · exact terminal

theorem updatedStatus_declines {status : IncomingRequestStatus} (declines : status.declines = true)
    (old : TransferStatus) : updatedStatus (decisionStatus status) old = decisionStatus status := by
  cases status <;> first | rfl | cases declines

theorem decisionStatus_declines {status : IncomingRequestStatus} (declines : status.declines = true) :
    isTerminal (decisionStatus status) = true := by
  cases status <;> first | rfl | cases declines

theorem declines_of_settled {status : IncomingRequestStatus} (settled : status ≠ .pendingApproval)
    (other : status ≠ .accepted) : status.declines = true := by
  cases status <;> first | rfl | exact absurd rfl settled | exact absurd rfl other

/-- An acceptance that is written leaves no failed row. -/
theorem updatedStatus_accepted (old : TransferStatus) :
    isFatal (updatedStatus .accepted old) = false ∧
      (updatedStatus .accepted old = .complete → old = .complete) := by
  cases old <;> decide

end Statuses

/-! ## A runtime update among the callbacks -/

/-- One of the records of a group has failed. -/
def GroupFatal (system : HistorySystem) (refs : List RecordRef) (where' : TransferStatus → RecordRef → Prop) :
    Prop :=
  ∃ ref ∈ refs, ∃ info, system.read ref = some info ∧ isFatal info.status = true ∧
    where' info.status ref

/-- A runtime update finds the failed record of a failed row. -/
def PhaseOrderly (system : HistorySystem) (run : PersistRun) (transferId : PyStr)
    (refs : List RecordRef) : Prop :=
  match run.phase with
  | .head => True
  | .scan _ priorities left => system.rowFatal transferId = true →
      GroupFatal system refs fun status ref => Ahead status ref priorities left
  | .existing _ status => (system.rowFatal transferId = true → isFatal status = true) ∧
      (isFatal status = true → GroupFatal system refs fun _ _ => True)
  | .create turn => (system.rowFatal transferId = true → isFatal turn.status = true) ∧
      (system.store.rowStatus transferId = some .complete → turn.status = .complete) ∧
      (isFatal turn.status = true → GroupFatal system refs fun _ _ => True)

structure RunOrderly (system : HistorySystem) (run : PersistRun) : Prop where
  groups : ∀ group ∈ run.groups, system.rowFatal group.1 = true →
    GroupFatal system group.2 fun _ _ => True
  phase : ∀ transferId refs rest, run.groups = (transferId, refs) :: rest →
    PhaseOrderly system run transferId refs

theorem GroupFatal.continues {system next : HistorySystem} {refs : List RecordRef}
    {where' : TransferStatus → RecordRef → Prop} (fatal : GroupFatal system refs where')
    (continues : Continues system next) : GroupFatal next refs where' := by
  obtain ⟨ref, member, info, read, isFatal, there⟩ := fatal
  obtain ⟨new, again, _, reaches⟩ := continues ref info read
  have same := reaches_fatal isFatal reaches
  exact ⟨ref, member, new, again, same ▸ isFatal, same ▸ there⟩

/-- A row neither fails nor completes by another step than the update's own. -/
def RowsKept (system next : HistorySystem) (run : PersistRun) : Prop :=
  ∀ group ∈ run.groups, (next.rowFatal group.1 = true → system.rowFatal group.1 = true) ∧
    (next.store.rowStatus group.1 = some .complete → system.store.rowStatus group.1 = some .complete)

theorem RunOrderly.kept {system next : HistorySystem} {run : PersistRun}
    (orderly : RunOrderly system run) (continues : Continues system next)
    (rows : RowsKept system next run) : RunOrderly next run where
  groups group member failed :=
    (orderly.groups group member ((rows group member).1 failed)).continues continues
  phase transferId refs rest current := by
    obtain ⟨fatal, complete⟩ := rows (transferId, refs) (by rw [current]; simp)
    have phase := orderly.phase transferId refs rest current
    unfold PhaseOrderly at phase ⊢
    cases standing : run.phase with
    | head => trivial
    | scan infos priorities left =>
        rw [standing] at phase
        exact fun failed => (phase (fatal failed)).continues continues
    | existing infos status =>
        rw [standing] at phase
        exact ⟨fun failed => phase.1 (fatal failed), fun failed => (phase.2 failed).continues continues⟩
    | create turn =>
        rw [standing] at phase
        exact ⟨fun failed => phase.1 (fatal failed), fun done => phase.2.1 (complete done),
          fun failed => (phase.2.2 failed).continues continues⟩

section Updating

variable {system next : HistorySystem} {run : PersistRun}

theorem continues_refl : Continues system system := fun _ info read => ⟨info, read, .refl _, .inl rfl⟩

/-- Nothing but the run of a system is looked at by no row and no record. -/
theorem RunOrderly.within {run later : PersistRun} {threads : List SessionThread}
    (orderly : RunOrderly system later) :
    RunOrderly { system with run := some run, threads } later :=
  orderly.kept (continues_of_records rfl rfl) fun _ _ => ⟨id, id⟩

theorem RunOrderly.rest {group : PyStr × List RecordRef} {rest : List (PyStr × List RecordRef)}
    (orderly : RunOrderly system run) (current : run.groups = group :: rest) :
    RunOrderly system { run with groups := rest, phase := .head } :=
  ⟨fun other member => orderly.groups other (by rw [current]; exact List.mem_cons_of_mem _ member),
    fun _ _ _ _ => trivial⟩

theorem RunOrderly.at {phase : PersistPhase} (orderly : RunOrderly system run)
    {transferId : PyStr} {refs : List RecordRef} {rest : List (PyStr × List RecordRef)}
    (current : run.groups = (transferId, refs) :: rest)
    (stands : PhaseOrderly system { run with phase } transferId refs) :
    RunOrderly system { run with phase } :=
  ⟨orderly.groups, fun other others _ at' => by cases current.symm.trans at'; exact stands⟩

/-- The scan looks for failed records first. -/
theorem fatal_first {priority status : TransferStatus} {later : List TransferStatus}
    (suffix : priority :: later <:+ aggregatePriorities) (member : status ∈ later)
    (fatal : isFatal status = true) : isFatal priority = true := by
  unfold aggregatePriorities at suffix
  simp only [List.suffix_cons_iff, List.cons.injEq, List.suffix_nil, reduceCtorEq, or_false] at suffix
  rw [isFatal_iff] at fatal
  rcases suffix with ⟨rfl, rfl⟩ | ⟨rfl, rfl⟩ | ⟨rfl, rfl⟩ | ⟨rfl, rfl⟩ | ⟨rfl, rfl⟩ | ⟨rfl, rfl⟩ |
    ⟨rfl, rfl⟩ | ⟨rfl, rfl⟩ | ⟨rfl, rfl⟩
  · rfl
  · rfl
  · rfl
  all_goals
    rcases fatal with rfl | rfl | rfl <;> simp at member

/-- A failed row keeps the status of an update failed, and a complete one complete. -/
theorem persistedStatus_kept {status : TransferStatus} {known : Nat} {row : TransferRecord} :
    (isFatal row.status = true → isFatal status = true →
      isFatal (persistedStatus status known (some row)) = true) ∧
    (row.status = .complete → persistedStatus status known (some row) = .complete) := by
  constructor
  · intro failed fatal
    unfold persistedStatus
    dsimp only
    split
    · next complete => rw [complete] at failed; cases failed
    · split
      · next complete => rw [complete.1] at fatal; cases fatal
      · exact fatal
  · intro complete
    simp [persistedStatus, complete]

theorem persistedStatus_fatal {status : TransferStatus} {known : Nat} {existing : Option TransferRecord}
    (fatal : isFatal (persistedStatus status known existing) = true) : isFatal status = true := by
  unfold persistedStatus at fatal
  repeat' split at fatal
  all_goals first | exact fatal | cases fatal

theorem persist_orderly {hostname : Option PyStr} (coherent : Coherent system)
    (running : system.run = some run) (orderly : RunOrderly system run)
    (move : PersistMove system run true hostname next) :
    ∀ later, next.run = some later → RunOrderly next later := by
  have sound := coherent.run run running
  have phase := sound.phase
  unfold PhaseSound at phase
  cases move with
  | finished halted => exact fun _ none => nomatch none
  | @resolved transferId refs rest current standing =>
      rintro later ⟨⟩
      obtain ⟨_, distinct, reads⟩ := sound.groups (transferId, refs) (by rw [current]; simp)
      rw [resolve_eq coherent.keyed coherent.received coherent.manager coherent.sent distinct reads]
      refine RunOrderly.within (orderly.at current fun failed => ?_)
      obtain ⟨ref, member, info, read, fatal, _⟩ :=
        orderly.groups (transferId, refs) (by rw [current]; simp) failed
      refine ⟨ref, member, info, read, fatal, .failed, _, rfl, ?_⟩
      rcases isFatal_iff.mp fatal with same | same | same
      · exact .inr ⟨same, List.mem_map_of_mem member⟩
      · exact .inl (by rw [same]; simp)
      · exact .inl (by rw [same]; simp)
  | @exhausted group rest infos left current standing =>
      rintro later ⟨⟩
      obtain ⟨transferId, refs⟩ := group
      have stands := orderly.phase transferId refs rest current
      unfold PhaseOrderly at stands
      rw [standing] at stands
      refine RunOrderly.within (orderly.at current (And.intro (fun failed => ?_) fun fatal => nomatch fatal))
      obtain ⟨_, _, _, _, _, _, _, none, _⟩ := stands failed
      cases none
  | @round group rest infos priority priorities current standing =>
      rintro later ⟨⟩
      obtain ⟨transferId, refs⟩ := group
      rw [standing] at phase
      obtain ⟨_, _, _, at', live, _, _⟩ := phase
      cases current.symm.trans at'
      have stands := orderly.phase transferId refs rest current
      unfold PhaseOrderly at stands
      rw [standing] at stands
      refine RunOrderly.within (orderly.at current fun failed => ?_)
      obtain ⟨ref, member, info, read, fatal, _, _, same, there⟩ := stands failed
      cases same
      rcases there with later' | ⟨_, none⟩
      · cases priorities with
        | nil => cases later'
        | cons first others =>
            refine ⟨ref, member, info, read, fatal, first, others, rfl, ?_⟩
            rcases List.mem_cons.mp later' with head | tail
            · exact .inr ⟨head, by rw [live]; exact List.mem_map_of_mem member⟩
            · exact .inl tail
      · cases none
  | @hit group rest infos left item info priority priorities current standing read same =>
      rintro later ⟨⟩
      obtain ⟨transferId, refs⟩ := group
      rw [standing] at phase
      obtain ⟨_, _, _, at', live, suffix, ahead⟩ := phase
      cases current.symm.trans at'
      have stands := orderly.phase transferId refs rest current
      unfold PhaseOrderly at stands
      rw [standing] at stands
      refine RunOrderly.within (orderly.at current (And.intro (fun failed => ?_) fun fatal => ?_))
      · obtain ⟨_, _, other, _, fatal, _, _, equal, there⟩ := stands failed
        cases equal
        rcases there with later' | ⟨here, _⟩
        · exact fatal_first ahead later' fatal
        · exact here ▸ fatal
      · have isInfo : item ∈ infos := suffix.subset (List.mem_cons_self ..)
        rw [live] at isInfo
        obtain ⟨ref, member, rfl⟩ := List.mem_map.mp isInfo
        exact ⟨ref, member, info, read, same ▸ fatal, trivial⟩
  | @miss group rest infos left item priority priorities current standing other =>
      rintro later ⟨⟩
      obtain ⟨transferId, refs⟩ := group
      have stands := orderly.phase transferId refs rest current
      unfold PhaseOrderly at stands
      rw [standing] at stands
      refine RunOrderly.within (orderly.at current fun failed => ?_)
      obtain ⟨ref, member, info, read, fatal, _, _, equal, there⟩ := stands failed
      cases equal
      refine ⟨ref, member, info, read, fatal, priority, priorities, rfl, ?_⟩
      rcases there with later' | ⟨here, isLeft⟩
      · exact .inl later'
      · rcases List.mem_cons.mp isLeft with rfl | tail
        · exact absurd here (other info read)
        · exact .inr ⟨here, tail⟩
  | @built transferId refs rest infos status first others current standing items =>
      rintro later ⟨⟩
      have stands := orderly.phase transferId refs rest current
      unfold PhaseOrderly at stands
      rw [standing] at stands
      have found : system.existing true transferId = system.store.transfers.get transferId := rfl
      refine RunOrderly.within (orderly.at current
        (And.intro (fun failed => ?_) (And.intro (fun complete => ?_) fun fatal => ?_)))
      · have fatal := stands.1 failed
        obtain ⟨row, there, rowFatal⟩ := (Option.any_eq_true _ _).mp failed
        obtain ⟨record, stored, rfl⟩ := Option.map_eq_some_iff.mp there
        simp only [PersistTurn.status, found, stored]
        exact persistedStatus_kept.1 rowFatal fatal
      · obtain ⟨record, stored, complete⟩ := Option.map_eq_some_iff.mp complete
        simp only [PersistTurn.status, found, stored]
        exact persistedStatus_kept.2 complete
      · exact stands.2 (persistedStatus_fatal fatal)
  | skipped current standing =>
      rintro later ⟨⟩
      exact (orderly.rest current).within
  | @stored transferId refs rest turn current standing =>
      rintro later ⟨⟩
      rw [standing] at phase
      obtain ⟨_, _, _, at', keyed, _⟩ := phase
      cases current.symm.trans at'
      have apart := sound.apart
      rw [current, List.map_cons, List.nodup_cons] at apart
      refine (orderly.rest current).kept (continues_of_records rfl rfl) fun group member => ?_
      have different : group.1 ≠ turn.record.transferId := fun same =>
        apart.1 (List.mem_map.mpr ⟨group, member, same.trans keyed⟩)
      have row : (turn.write system.store true).rowStatus group.1 =
          system.store.rowStatus group.1 := by
        unfold TransferHistoryStore.rowStatus
        exact congrArg _ (TransferHistoryStore.createTransfer_other different)
      simp only [HistorySystem.rowFatal, row]
      exact ⟨id, id⟩

/-- An update that begins takes every failed record with it. -/
theorem runOrderly_start {owner : Option Nat} {now : Time} {threads : List SessionThread}
    (failed : ∀ ref info, system.read ref = some info → system.rowFatal info.transferId = true →
      system.RecordFatal info.transferId) :
    RunOrderly { system with run := some ⟨owner, now, system.grouped, .head⟩, threads }
      ⟨owner, now, system.grouped, .head⟩ := by
  refine RunOrderly.within ⟨fun group member isFailed => ?_, fun _ _ _ _ => trivial⟩
  obtain ⟨some, filtered⟩ := mem_grouped member
  obtain ⟨first, isFirst⟩ := List.exists_mem_of_ne_nil _ some
  rw [filtered, List.mem_filter, decide_eq_true_eq] at isFirst
  obtain ⟨info, read⟩ := mem_refs.mp isFirst.1
  have transfer : info.transferId = group.1 := (transferOf_read read).symm.trans isFirst.2
  obtain ⟨ref, other, there, same, fatal⟩ := failed first info read (transfer ▸ isFailed)
  refine ⟨ref, ?_, other, there, fatal, trivial⟩
  rw [filtered, List.mem_filter, decide_eq_true_eq]
  exact ⟨mem_refs.mpr ⟨other, there⟩, (transferOf_read there).trans (same.trans transfer)⟩

end Updating

/-! ## Decisions and rows -/

/-- How decisions and their callbacks go together with the rows they write. -/
structure Told (system : HistorySystem) : Prop where
  apart : Apart system
  adder : ∀ (index other : Nat) (thread adding : SessionThread) (entry : PendingDecision)
    (request : IncomingTransferRequest), system.threads[index]? = some thread →
    system.threads[other]? = some adding → thread.approval.phase.awaits = true →
    system.manager.entries.get thread.transferId = some entry →
    entry.request.status = .pendingApproval → adding.owes = some (.onRequest request) →
    request.transferId = thread.transferId → index = other
  present : ∀ transferId entry, system.manager.entries.get transferId = some entry →
    ¬system.Announcing transferId → (system.store.rowStatus transferId).isSome = true
  declined : ∀ transferId entry, system.manager.entries.get transferId = some entry →
    entry.request.status.declines = true → ¬system.Announcing transferId ∧
      (system.store.rowStatus transferId = some (decisionStatus entry.request.status) ∨
        system.Telling transferId)

theorem told_start (maxPending : Nat) (store : TransferHistoryStore) :
    Told (.start maxPending store) where
  apart _ member := nomatch member
  adder _ _ _ _ _ _ found := nomatch found
  present _ _ found := nomatch found
  declined _ _ found := nomatch found

/-- How failed rows go together with records as long as decisions come in order. -/
structure Orderly (system : HistorySystem) : Prop where
  told : Told system
  pending : ∀ transferId entry, system.manager.entries.get transferId = some entry →
    entry.request.status = .pendingApproval → system.rowFatal transferId = false
  failed : ∀ transferId, system.Recorded transferId → system.rowFatal transferId = true →
    system.RecordFatal transferId
  run : ∀ run, system.run = some run → RunOrderly system run

theorem orderly_start (maxPending : Nat) (store : TransferHistoryStore) :
    Orderly (.start maxPending store) where
  told := told_start maxPending store
  pending _ _ found := nomatch found
  failed _ recorded := by
    rcases recorded with ⟨_, found, _⟩ | ⟨_, member, _⟩
    · cases found
    · cases member
  run _ running := nomatch running

section Steps

variable {platform : Platform} {system next : HistorySystem} {label : HistoryLabel}
  {transferId : PyStr}

/-- What a step may make of the status of a row: an entry that waits keeps it from failing,
and a recorded transfer fails or completes by its records alone. -/
theorem row_recorded (coherent : Coherent system) (orderly : Orderly system)
    (move : HistoryMove platform system label next) (running : label ≠ .restart)
    (recorded : system.Recorded transferId) :
    (next.rowFatal transferId = true → system.rowFatal transferId = true ∨
      system.RecordFatal transferId) ∧
    ((∀ ok hostname, label ≠ .persist ok hostname) →
      (next.rowFatal transferId = true → system.rowFatal transferId = true) ∧
      (next.store.rowStatus transferId = some .complete →
        system.store.rowStatus transferId = some .complete)) := by
  have status := move.status coherent running transferId
  unfold HistorySystem.rowFatal
  generalize next.store.rowStatus transferId = after at status
  cases status with
  | same => exact ⟨.inl, fun _ => ⟨id, id⟩⟩
  | announced calls own =>
      have unfailed (fatal : isFatal (TransferHistoryStore.mergedStatus
          (system.store.rowStatus transferId) .pendingApproval) = true) : False :=
        nomatch mergedStatus_fatal fatal
      refine ⟨fun fatal => (unfailed fatal).elim, fun _ => ⟨fun fatal => (unfailed fatal).elim, ?_⟩⟩
      intro complete
      rcases mergedStatus_complete (Option.some.inj complete) with before | other
      · exact before
      · cases other
  | @told decided calls own =>
      obtain ⟨entry, found, tells⟩ := calls_known coherent calls
      subst own
      have accepted := orderly.told.apart.accepted recorded found
      rw [(tells decided rfl).1] at accepted
      have kept := updatedStatus_accepted
      rw [accepted]
      cases before : system.store.rowStatus decided.transferId with
      | none =>
          exact ⟨fun fatal => (nomatch fatal),
            fun _ => ⟨fun fatal => (nomatch fatal), fun complete => nomatch complete⟩⟩
      | some old =>
          have unfailed (fatal : isFatal (TransferHistoryStore.updatedStatus .accepted old) = true) :
              False := by rw [(kept old).1] at fatal; cases fatal
          refine ⟨fun fatal => (unfailed fatal).elim, fun _ => ⟨fun fatal => (unfailed fatal).elim, ?_⟩⟩
          exact fun complete => congrArg some ((kept old).2 (Option.some.inj complete))
  | stored is isRunning current standing own =>
      refine ⟨fun fatal => .inr ?_, fun other => absurd is (other _ _)⟩
      have phase := (orderly.run _ isRunning).phase _ _ _ current
      unfold PhaseOrderly at phase
      rw [standing] at phase
      obtain ⟨ref, member, info, read, isFatal, _⟩ := phase.2.2 (mergedStatus_fatal fatal)
      obtain ⟨_, _, reads⟩ := (coherent.run _ isRunning).groups _ (PersistRun.current_mem current)
      obtain ⟨again, there, transfer⟩ := reads ref member
      cases read.symm.trans there
      exact ⟨ref, info, read, transfer, isFatal⟩

/-- The row of a request that is not recorded is written by its callbacks alone. -/
theorem row_unrecorded (coherent : Coherent system) (move : HistoryMove platform system label next)
    (running : label ≠ .restart) (unrecorded : ¬system.Recorded transferId) :
    next.store.rowStatus transferId = system.store.rowStatus transferId ∨
    (∃ request, system.calls label = some (.onRequest request) ∧ request.transferId = transferId ∧
      next.store.rowStatus transferId = some
        (TransferHistoryStore.mergedStatus (system.store.rowStatus transferId) .pendingApproval)) ∨
    ∃ decided, system.calls label = some (.onDecision decided) ∧ decided.transferId = transferId ∧
      next.store.rowStatus transferId = (system.store.rowStatus transferId).map
        (TransferHistoryStore.updatedStatus (decisionStatus decided.status)) := by
  have status := move.status coherent running transferId
  generalize next.store.rowStatus transferId = after at status
  cases status with
  | same => exact .inl rfl
  | announced calls own => exact .inr (.inl ⟨_, calls, own, rfl⟩)
  | told calls own => exact .inr (.inr ⟨_, calls, own, rfl⟩)
  | stored is isRunning current standing own =>
      exact absurd (group_recorded coherent isRunning (PersistRun.current_mem current)) unrecorded

theorem RecordFatal.continues (fatal : system.RecordFatal transferId)
    (continues : Continues system next) : next.RecordFatal transferId := by
  obtain ⟨ref, info, read, own, failed⟩ := fatal
  obtain ⟨new, again, same, reaches⟩ := continues ref info read
  exact ⟨ref, new, again, same.transferId.trans own, reaches_fatal failed reaches ▸ failed⟩

section

variable (coherent : Coherent system) (told : Told system)
  (move : HistoryMove platform system label next)

include coherent told move

theorem adder_step : ∀ (index other : Nat) (thread adding : SessionThread) (entry : PendingDecision)
    (request : IncomingTransferRequest), next.threads[index]? = some thread →
    next.threads[other]? = some adding → thread.approval.phase.awaits = true →
    next.manager.entries.get thread.transferId = some entry →
    entry.request.status = .pendingApproval → adding.owes = some (.onRequest request) →
    request.transferId = thread.transferId → index = other := by
  intro index other thread adding entry request found there waits known pending owes own
  by_cases quiet : label.quiet = true
  · have still := move.isQuiet coherent quiet
    obtain ⟨before, foundBefore, approval, _⟩ := still.before found
    obtain ⟨adder, thereBefore, _, owesBefore⟩ := still.before there
    rw [still.manager] at known
    refine told.adder index other before adder entry request foundBefore thereBefore
      (approval ▸ waits) ?_ pending (owesBefore ▸ owes) ?_
    · rw [SessionThread.transferId, ← approval]; exact known
    · rw [SessionThread.transferId, ← approval]; exact own
  · cases move with
    | @offered payload peerDeviceId peerIp peerName receivedAt offer valid =>
        have earlier {place : Nat} {later : SessionThread}
            (at' : (system.threads ++ [SessionThread.mk
              ⟨incomingRequest offer peerDeviceId peerIp peerName receivedAt, .publish, none, false⟩
              none none .waiting])[place]? = some later)
            (stands : later.approval.phase.awaits = true ∨ ∃ callback, later.owes = some callback) :
            system.threads[place]? = some later := by
          rw [List.getElem?_append] at at'
          split at at'
          · exact at'
          · rw [List.getElem?_singleton] at at'
            split at at' <;> cases at'
            rcases stands with waits | ⟨_, owes⟩
            · cases waits
            · cases owes
        exact told.adder index other thread adding entry request (earlier found (.inl waits))
          (earlier there (.inr ⟨_, owes⟩)) waits known pending owes own
    | @approved place event before after manager at' approved =>
        obtain ⟨idle, _, _, same, _⟩ := approve_cases approved
        have bound := (List.getElem?_eq_some_iff.mp at').1
        have elsewhere {spot : Nat} {later : SessionThread} (different : spot ≠ place)
            (isLater : (system.threads.set place after)[spot]? = some later) :
            system.threads[spot]? = some later := by
          rwa [List.getElem?_set_ne (Ne.symm different)] at isLater
        -- a thread that waits for or has published a request has an entry for it
        have waitsFor {spot : Nat} {later : SessionThread}
            (isLater : system.threads[spot]? = some later)
            (stands : later.approval.phase.awaits = true) :
            ∃ entry, system.manager.entries.get later.transferId = some entry := by
          obtain ⟨entry, present, _⟩ :=
            (coherent.threads later (List.mem_of_getElem? isLater)).awaits stands
          exact ⟨entry, present⟩
        have adds {spot : Nat} {later : SessionThread} (isLater : system.threads[spot]? = some later)
            (owed : later.owes = some (.onRequest request)) :
            ∃ entry, system.manager.entries.get request.transferId = some entry := by
          obtain ⟨_, entry, present, _⟩ :=
            (coherent.threads later (List.mem_of_getElem? isLater)).requests request owed
          exact ⟨entry, present⟩
        by_cases first : index = place
        · subst first
          dsimp only at found there
          rw [List.getElem?_set_self bound] at found
          cases found
          by_contra different
          have added := elsewhere (Ne.symm different) there
          obtain ⟨present, isPresent⟩ := adds added owes
          have sameId : thread.transferId = before.transferId := by
            rw [SessionThread.transferId, same]; rfl
          rw [own, sameId] at isPresent
          rw [sameId] at known own
          cases approve_inbox approved with
          | kept _ waitsBefore =>
              exact different (told.adder index other before adding entry request at' added
                (waitsBefore waits) known pending owes own)
          | published _ free => rw [free] at isPresent; cases isPresent
          | readmitted => rw [Dict.get_set_self] at known; cases known; cases pending
          | declined _ _ _ declined =>
              rw [Dict.get_set_self] at known
              cases known
              exact declined.2 pending
        · have foundBefore := elsewhere first found
          obtain ⟨present, isPresent⟩ := waitsFor foundBefore waits
          by_cases second : other = place
          · subst second
            dsimp only at there
            rw [List.getElem?_set_self bound] at there
            cases there
            cases approve_inbox approved with
            | published _ free owed =>
                cases owed.symm.trans owes
                rw [← own, show before.approval.request.transferId = before.transferId from rfl,
                  free] at isPresent
                cases isPresent
            | kept owed | readmitted _ _ _ _ owed | declined _ _ _ _ owed =>
                rw [owed] at owes
                cases owes
          · have addedBefore := elsewhere second there
            refine told.adder index other thread adding entry request foundBefore addedBefore waits
              ?_ pending owes own
            cases approve_inbox approved with
            | kept => exact known
            | published _ free =>
                by_cases here : thread.transferId = before.transferId
                · rw [here, free] at isPresent; cases isPresent
                · rwa [Dict.get_set_ne here] at known
            | readmitted =>
                by_cases here : thread.transferId = before.transferId
                · rw [here, Dict.get_set_self] at known; cases known; cases pending
                · rwa [Dict.get_set_ne here] at known
            | declined _ _ _ declined =>
                by_cases here : thread.transferId = before.transferId
                · rw [here, Dict.get_set_self] at known; cases known; exact absurd pending declined.2
                · rwa [Dict.get_set_ne here] at known
    | @called place ok now before callback at' owed =>
        dsimp only at found there
        rw [List.getElem?_set] at there
        split at there
        · split at there <;> cases there
          cases owes
        · rw [List.getElem?_set] at found
          split at found
          · next here =>
              split at found <;> cases found
              exact told.adder index other before adding entry request (here ▸ at') there waits known
                pending owes own
          · exact told.adder index other thread adding entry request found there waits known pending
              owes own
    | @decides current how old status reason present isPending settled accepts =>
        by_cases here : thread.transferId = current
        · dsimp only at known
          rw [here, Dict.get_set_self] at known
          cases known
          exact absurd pending settled
        · dsimp only at known
          rw [Dict.get_set_ne here] at known
          exact told.adder index other thread adding entry request found there waits known pending
            owes own
    | restarts => cases found
    | late | told =>
        exact told.adder index other thread adding entry request found there waits known pending
          owes own
    | _ => exact absurd rfl quiet

theorem present_step (stored : label.stored = true) (running : label ≠ .restart) :
    ∀ transferId entry, next.manager.entries.get transferId = some entry →
      ¬next.Announcing transferId → (next.store.rowStatus transferId).isSome = true := by
  intro transferId later found quiet
  have known {entry : PendingDecision} (before : system.manager.entries.get transferId = some entry) :
      (next.store.rowStatus transferId).isSome = true := by
    by_cases announcing : system.Announcing transferId
    · rcases move.announcing_kept coherent running announcing with still | ⟨request, calls, own⟩
      · exact absurd still quiet
      · obtain ⟨now, written⟩ := move.written stored calls
        subst own
        rw [written, TransferHistoryStore.rowStatus]
        simp only [ManagerCallback.write, handleIncomingRequest]
        rw [TransferHistoryStore.createTransfer_status]
        rfl
    · exact row_present coherent move running (told.present _ _ before announcing)
  have entry := move.entry coherent running transferId
  rw [found] at entry
  generalize same : some later = after at entry
  cases entry with
  | kept => exact known same.symm
  | published _ _ _ _ _ announcing => exact absurd announcing quiet
  | readmitted _ _ _ _ found | declined _ _ _ _ _ found | decided _ found => exact known found

theorem declined_step (stored : label.stored = true)
    (decides : ∀ transferId how, label = .decide transferId how → how ≠ .accept →
      (system.manager.getRequest transferId).any (fun request => request.status = .pendingApproval) →
        ¬system.Announcing transferId) (running : label ≠ .restart) :
    ∀ transferId entry, next.manager.entries.get transferId = some entry →
      entry.request.status.declines = true → ¬next.Announcing transferId ∧
        (next.store.rowStatus transferId = some (decisionStatus entry.request.status) ∨
          next.Telling transferId) := by
  intro transferId later found declines
  have entry := move.entry coherent running transferId
  rw [found] at entry
  generalize same : some later = after at entry
  cases entry with
  | kept =>
      obtain ⟨quiet, toldBefore⟩ := told.declined transferId later same.symm declines
      refine ⟨fun announcing => ?_, ?_⟩
      · rcases move.announcing coherent announcing with before | ⟨_, _, _, _, _, _, _, free⟩
        · exact quiet before
        · rw [free] at same; cases same
      have unrecorded : ¬system.Recorded transferId := fun recorded => by
        rw [told.apart.accepted recorded same.symm] at declines
        cases declines
      have tells {decided : IncomingTransferRequest}
          (calls : system.calls label = some (.onDecision decided))
          (own : decided.transferId = transferId) :
          next.store.rowStatus transferId = some (decisionStatus later.request.status) := by
        obtain ⟨entry, there, tells⟩ := calls_known coherent calls
        have found : some entry = some later := by rw [← there, same]; exact congrArg _ own
        cases found
        obtain ⟨status, row⟩ := Option.isSome_iff_exists.mp (told.present _ _ same.symm quiet)
        obtain ⟨now, written⟩ := move.written stored calls
        subst own
        rw [written, TransferHistoryStore.rowStatus]
        simp only [ManagerCallback.write, handleRequestDecision]
        rw [TransferHistoryStore.updateTransfer_status, row, Option.map_some, ← (tells decided rfl).1,
          updatedStatus_declines declines]
      rcases toldBefore with row | telling
      · rcases row_unrecorded coherent move running unrecorded with
          kept | ⟨request, calls, own, _⟩ | ⟨decided, calls, own, _⟩
        · exact .inl (kept.trans row)
        · exact absurd (own ▸ calls_announcing calls) quiet
        · exact .inl (tells calls own)
      · rcases move.telling_kept coherent running telling with still | ⟨decided, calls, own⟩
        · exact .inr still
        · exact .inl (tells calls own)
  | published is at' =>
      cases same
      rw [(coherent.threads _ (List.mem_of_getElem? at')).pending] at declines
      cases declines
  | readmitted => cases same; cases declines
  | declined is at' waits idle own found pending _ telling =>
      refine ⟨fun announcing => ?_, .inr telling⟩
      rcases move.announcing coherent announcing with
        ⟨place, adding, request, there, owes, isOwn⟩ | ⟨_, _, _, again, there, publishing, _, _⟩
      · cases told.adder _ place _ adding _ request at' there waits (own ▸ found) pending owes
          (isOwn.trans own.symm)
        cases at'.symm.trans there
        rw [idle] at owes
        cases owes
      · rw [is] at again
        cases again
        cases at'.symm.trans there
        rw [publishing] at waits
        cases waits
  | @decided how entry status reason is there pending settled accepts telling =>
      refine ⟨fun announcing => ?_, .inr telling⟩
      cases same
      have refuses : how ≠ .accept := fun accept => by
        rw [accepts.mpr accept] at declines
        cases declines
      have guarded := decides _ _ is refuses
        (by simp [IncomingRequestManager.getRequest, there, pending])
      rcases move.announcing coherent announcing with before | ⟨_, _, _, again, _⟩
      · exact guarded before
      · rw [is] at again
        cases again

/-- Callbacks keep telling as long as their writes succeed and no request is declined
before its row is written. -/
theorem told_step (stored : label.stored = true)
    (fresh : ∀ index event thread, label = .session index event →
      system.threads[index]? = some thread → thread.approval.phase = .publish →
      system.manager.entries.get thread.transferId = none →
        ∀ info ∈ system.sent, info.transferId ≠ thread.transferId)
    (decides : ∀ transferId how, label = .decide transferId how → how ≠ .accept →
      (system.manager.getRequest transferId).any (fun request => request.status = .pendingApproval) →
        ¬system.Announcing transferId) : Told next := by
  by_cases running : label = .restart
  · subst running
    cases move
    exact told_start _ _
  · exact {
      apart := told.apart.step coherent move running fresh
      adder := adder_step coherent told move
      present := present_step coherent told move stored running
      declined := declined_step coherent told move stored decides running }

end

section

variable (coherent : Coherent system) (orderly : Orderly system)
  (admitted : DecisionsInOrder system label) (move : HistoryMove platform system label next)

include coherent orderly admitted move

theorem pending_step (running : label ≠ .restart) :
    ∀ transferId entry, next.manager.entries.get transferId = some entry →
      entry.request.status = .pendingApproval → next.rowFatal transferId = false := by
  intro transferId later found waits
  have entry := move.entry coherent running transferId
  rw [found] at entry
  generalize same : some later = after at entry
  cases entry with
  | kept =>
      have unfailed := orderly.pending transferId later same.symm waits
      have unrecorded : ¬system.Recorded transferId := fun recorded => by
        rw [orderly.told.apart.accepted recorded same.symm] at waits
        cases waits
      unfold HistorySystem.rowFatal at unfailed ⊢
      rcases row_unrecorded coherent move running unrecorded with
        kept | ⟨_, _, _, row⟩ | ⟨decided, calls, own, _⟩
      · rw [kept]; exact unfailed
      · rw [row, Option.any_some, ← Bool.not_eq_true]
        exact fun fatal => nomatch mergedStatus_fatal fatal
      · obtain ⟨entry, there, tells⟩ := calls_known coherent calls
        obtain ⟨told, settled⟩ := tells decided rfl
        have found : some entry = some later := by rw [← there, same]; exact congrArg _ own
        cases found
        exact absurd (told.symm.trans waits) settled
  | published is at' standing own free =>
      have unfailed := (admitted.publishes _ _ _ is at' standing (own ▸ free)).1
      subst is
      unfold HistorySystem.rowFatal at unfailed ⊢
      rw [row_quiet coherent move (by simp) rfl (by simp), ← own]
      exact unfailed
  | readmitted => cases same; cases waits
  | declined _ _ _ _ _ _ _ declined => cases same; exact absurd waits declined.2
  | decided _ _ _ settled => cases same; exact absurd waits settled

theorem failed_step (running : label ≠ .restart) (continues : Continues system next) :
    ∀ transferId, next.Recorded transferId → next.rowFatal transferId = true →
      next.RecordFatal transferId := by
  intro transferId recorded failed
  have old (before : system.Recorded transferId) : next.RecordFatal transferId := by
    refine RecordFatal.continues ?_ continues
    rcases (row_recorded coherent orderly move running before).1 failed with still | fatal
    · exact orderly.failed transferId before still
    · exact fatal
  rcases recorded with ⟨later, found, accepted⟩ | ⟨info, member, rfl⟩
  · have entry := move.entry coherent running transferId
    rw [found] at entry
    generalize same : some later = after at entry
    cases entry with
    | kept => exact old (.inl ⟨later, same.symm, accepted⟩)
    | published is at' =>
        cases same
        rw [(coherent.threads _ (List.mem_of_getElem? at')).pending] at accepted
        cases accepted
    | readmitted _ _ _ _ there _ was => exact old (.inl ⟨_, there, was⟩)
    | declined _ _ _ _ _ _ _ declined => cases same; exact absurd accepted declined.1
    | decided is there waits =>
        have unfailed := orderly.pending transferId _ there waits
        subst is
        unfold HistorySystem.rowFatal at failed unfailed
        rw [row_quiet coherent move (by simp) rfl (by simp), unfailed] at failed
        cases failed
  · rcases sent_before move member with ⟨before, isOld, same⟩ | ⟨sends, may⟩
    · exact old (.inr ⟨before, isOld, same⟩)
    · rcases mayAdd_cases may with ⟨before, isOld, same⟩ | ⟨_, absent⟩
      · exact old (.inr ⟨before, isOld, same⟩)
      · subst sends
        unfold HistorySystem.rowFatal at failed
        rw [row_quiet coherent move (by simp) rfl (by simp), TransferHistoryStore.rowStatus,
          absent] at failed
        cases failed

theorem run_step (running : label ≠ .restart) (continues : Continues system next) :
    ∀ run, next.run = some run → RunOrderly next run := by
  have rows (other : ∀ ok hostname, label ≠ .persist ok hostname) (run : PersistRun)
      (standing : system.run = some run) : RunOrderly next run :=
    (orderly.run run standing).kept continues fun group member =>
      (row_recorded coherent orderly move running (group_recorded coherent standing member)).2 other
  intro run standing
  cases move with
  | @persists current ok hostname next isRunning move =>
      cases ok with
      | false => cases admitted.stored
      | true => exact persist_orderly coherent isRunning (orderly.run _ isRunning) move run standing
  | starts idle =>
      cases standing
      exact runOrderly_start fun ref info read failed =>
        orderly.failed _ (read_recorded coherent read) failed
  | notifies =>
      cases standing
      exact runOrderly_start fun ref info read failed =>
        orderly.failed _ (read_recorded coherent read) failed
  | restarts => cases standing
  | _ => exact rows (by simp) run standing

theorem terminal_kept : TerminalKept system next := by
  intro transferId status row terminal
  by_cases running : label = .restart
  · subst running
    cases move with
    | restarts =>
        obtain ⟨record, found, rfl⟩ := Option.map_eq_some_iff.mp row
        have stays : record.status ∉ interruptible := by
          revert terminal
          cases record.status <;> decide
        refine ⟨record.status, ?_, terminal⟩
        rw [TransferHistoryStore.rowStatus, HistorySystem.start, TransferHistoryStore.migrate,
          Dict.get_map, found, Option.map_some, if_neg stays]
        rfl
  have complete (unfailed : system.rowFatal transferId = false) : status = .complete := by
    rcases isTerminal_split.mp terminal with complete | fatal
    · exact complete
    · rw [HistorySystem.rowFatal, row, Option.any_some, fatal] at unfailed
      cases unfailed
  have moved := move.status coherent running transferId
  generalize next.store.rowStatus transferId = after at moved
  cases moved with
  | same => exact ⟨status, row, terminal⟩
  | announced calls own =>
      cases complete (own ▸ admitted.reopens _ calls rfl)
      rw [row]
      exact ⟨_, rfl, by decide⟩
  | @told decided calls own =>
      obtain ⟨_, _, tells⟩ := calls_known coherent calls
      rw [row]
      refine ⟨_, rfl, ?_⟩
      by_cases accepted : decided.status = .accepted
      · cases complete (own ▸ admitted.reopens _ calls (decide_eq_true accepted))
        rw [accepted]
        decide
      · have declines := declines_of_settled (tells decided rfl).2 accepted
        rw [updatedStatus_declines declines]
        exact decisionStatus_declines declines
  | stored is isRunning current standing own =>
      refine ⟨_, rfl, mergedStatus_terminal ?_⟩
      have phase := (orderly.run _ isRunning).phase _ _ _ current
      unfold PhaseOrderly at phase
      rw [standing] at phase
      rw [isTerminal_split]
      rcases isTerminal_split.mp terminal with rfl | fatal
      · exact .inl (phase.2.1 row)
      · exact .inr (phase.1 (by rw [HistorySystem.rowFatal, row]; exact fatal))

end

theorem orderly_step (coherent : Coherent system) (orderly : Orderly system)
    (admitted : DecisionsInOrder system label)
    (stepped : historyStep platform system label = some next) : Orderly next := by
  have move := historyStep_moves coherent stepped
  by_cases running : label = .restart
  · subst running
    cases stepped
    exact orderly_start _ _
  · have continues := step_continues coherent stepped running
    exact {
      told := told_step coherent orderly.told move admitted.stored
        (fun index event thread is found standing free =>
          (admitted.publishes index event thread is found standing free).2) admitted.decides
      pending := pending_step coherent orderly admitted move running
      failed := failed_step coherent orderly admitted move running continues
      run := run_step coherent orderly admitted move running continues }

end Steps

def OrderlyHistory (system : HistorySystem) : Prop := Coherent system ∧ Orderly system

/-- In every run in which decisions and callbacks come in order, a final row stays final,
and the row of a declined request tells how it was declined once its callbacks are done. -/
theorem decisions_reach_history {platform : Platform} {maxPending : Nat}
    {store : TransferHistoryStore} {labels : List HistoryLabel} {state : HistorySystem}
    (run : Run (historyStep platform) DecisionsInOrder (.start maxPending store) labels state) :
    DecisionsTold state ∧ ∀ label next, DecisionsInOrder state label →
      historyStep platform state label = some next → TerminalKept state next := by
  have holds : OrderlyHistory state := run.invariant
    (fun _ _ _ both admitted stepped =>
      ⟨coherent_step both.1 stepped, orderly_step both.1 both.2 admitted stepped⟩)
    ⟨coherent_start maxPending store, orderly_start maxPending store⟩
  refine ⟨fun transferId entry found declines returned => ?_, fun label next admitted stepped =>
    terminal_kept holds.1 holds.2 admitted (historyStep_moves holds.1 stepped)⟩
  rcases (holds.2.told.declined transferId entry found declines).2 with row | ⟨decided, flight, own⟩
  · exact row
  · exact absurd own (returned _ flight)

/-! A request that is cancelled once its row is written, and one that is cancelled before. -/

def emptyPublished : List HistoryLabel :=
  [.offered (offerFrame emptyOffer.transferId [emptyFile] none) (py "mp-0000000a") (py "192.0.2.7") none 2,
    .session 0 ⟨2, .done⟩]

def emptyCancelled : List HistoryLabel :=
  [.decide emptyOffer.transferId (.cancel (py "Shutting down")), .decided 0 true 3]

/-- The conditions on a label, computed. -/
def inOrder (system : HistorySystem) (label : HistoryLabel) : Bool :=
  label.stored &&
    (system.calls label).all (fun callback => !system.rowFatal callback.request.transferId) &&
    match label with
    | .session index _ => (system.threads[index]?).all fun thread =>
        !system.rowFatal thread.transferId &&
          system.sent.all fun info => info.transferId ≠ thread.transferId
    | .decide _ _ => system.threads.all fun thread => thread.owes = none
    | _ => true

theorem inOrder_sound (system : HistorySystem) (label : HistoryLabel)
    (ordered : inOrder system label = true) : DecisionsInOrder system label := by
  simp only [inOrder, Bool.and_eq_true, Option.all_eq_true, Bool.not_eq_true'] at ordered
  obtain ⟨⟨stored, calls⟩, place⟩ := ordered
  refine ⟨stored, fun callback runs _ => calls callback runs, ?_, ?_⟩
  · rintro index event thread rfl found _ _
    simp only [found, Option.all_some, Bool.and_eq_true, Bool.not_eq_true', List.all_eq_true,
      decide_eq_true_eq] at place
    exact place
  · rintro transferId how rfl _ _ ⟨index, thread, request, found, owes, _⟩
    simp only [List.all_eq_true, decide_eq_true_eq] at place
    rw [place thread (List.mem_of_getElem? found)] at owes
    cases owes

theorem cancelled_after_row :
    ∃ state, (DecisionsTold state ∧ ∀ label next, DecisionsInOrder state label →
      historyStep asciiPlatform state label = some next → TerminalKept state next) ∧
      state.store.rowStatus emptyOffer.transferId = some .cancelled := by
  have runs : (runLabels (fun state label => if inOrder state label then
      historyStep asciiPlatform state label else none) (.start 32 ⟨Dict.empty, Dict.empty⟩)
      (emptyPublished ++ .callback 0 true 2 :: emptyCancelled)).any (fun state =>
        state.store.rowStatus emptyOffer.transferId = some .cancelled) = true := by
    decide +kernel
  obtain ⟨state, executed, row⟩ := (Option.any_eq_true _ _).mp runs
  exact ⟨state, decisions_reach_history (run_of_checked inOrder_sound executed), of_decide_eq_true row⟩

/-- A request that is cancelled before its row is written stays pending in the history. -/
theorem cancelled_before_row :
    ¬∀ (store : TransferHistoryStore) (labels : List HistoryLabel) (state : HistorySystem),
      Run (historyStep asciiPlatform) (fun _ label => label.stored = true) (.start 32 store) labels
        state → DecisionsTold state ∧ ∀ label next, label.stored = true →
          historyStep asciiPlatform state label = some next → TerminalKept state next := by
  intro told
  have left : (runLabels (fun state label => if label.stored then
      historyStep asciiPlatform state label else none) (.start 32 ⟨Dict.empty, Dict.empty⟩)
      (emptyPublished ++ emptyCancelled ++ [.callback 0 true 4])).any (fun state =>
        (state.manager.getRequest emptyOffer.transferId).any (fun request =>
          request.status = .cancelled) &&
        state.threads.all (fun thread => thread.owes = none) && state.decisions.isEmpty &&
        state.store.rowStatus emptyOffer.transferId = some .pendingApproval) = true := by
    decide +kernel
  obtain ⟨state, executed, facts⟩ := (Option.any_eq_true _ _).mp left
  simp only [Bool.and_eq_true, decide_eq_true_eq, List.all_eq_true, List.isEmpty_iff] at facts
  obtain ⟨⟨⟨request, returned⟩, decided⟩, row⟩ := facts
  obtain ⟨request, found, cancelled⟩ := (Option.any_eq_true _ _).mp request
  obtain ⟨entry, there, rfl⟩ := Option.map_eq_some_iff.mp found
  have cancelled := of_decide_eq_true cancelled
  have expected := (told _ _ state (run_of_checked (fun _ _ stored => stored) executed)).1 _ entry there
    (by rw [cancelled]; rfl) (by
      rintro callback (⟨thread, member, owes⟩ | ⟨_, member, _⟩)
      · rw [returned thread member] at owes
        cases owes
      · rw [decided] at member
        cases member)
  rw [row, cancelled] at expected
  cases expected

end DirectTransfer
