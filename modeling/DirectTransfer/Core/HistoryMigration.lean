import DirectTransfer.Core.HistoryDatabase

/-! Openings of the history database that stop half way. A stop inside one of the
two scripts leaves a schema that no later opening accepts; every other stop loses
nothing. -/

set_option autoImplicit false

namespace DirectTransfer

open Library

/-- The databases of each schema version, whatever their rows. -/
inductive SchemaAt : Int → HistoryDatabase → Prop where
  | empty : SchemaAt 0 ⟨0, none, none, []⟩
  | first (rows : List TransferRow) (files : List TransferFileRow) (indexes : List PyStr) :
      SchemaAt 1 ⟨1, some ⟨false, false, rows⟩, some files, indexes⟩
  | current (rows : List TransferRow) (files : List TransferFileRow) (indexes : List PyStr) :
      SchemaAt 2 ⟨2, some ⟨true, true, rows⟩, some files, indexes⟩

namespace HistoryDatabase

def transferRows (database : HistoryDatabase) : List TransferRow :=
  (database.transfers.map TransferTable.rows).getD []

def fileRows (database : HistoryDatabase) : List TransferFileRow :=
  database.transferFiles.getD []

end HistoryDatabase

/-- A row of an earlier version as it should be found again. -/
def restoredRow (version : Int) (row : TransferRow) : TransferRow :=
  { row with
    status := if (terminalTransferStatuses.map TransferStatus.value).contains row.status then row.status
      else TransferStatus.interrupted.value
    resumed := if version < 2 then some 0 else row.resumed
    resumeOffset := if version < 2 then some 0 else row.resumeOffset }

structure ContentRestored (before after : HistoryDatabase) : Prop where
  version : after.userVersion = 2
  transfers : after.transfers =
    some ⟨true, true, before.transferRows.map (restoredRow before.userVersion)⟩
  files : after.transferFiles = some before.fileRows

/-- Statements of the scripts up to the first version stamp, and up to the second. -/
def firstStamp (version : Int) : Nat := if version < 1 then versionOneScript.length else 0

def secondStamp (version : Int) : Nat :=
  firstStamp version + if version < 2 then versionTwoScript.length else 0

/-- The process stops before a script or after its version stamp. -/
def outsideScripts (version : Int) (executed : Nat) : Prop :=
  executed = 0 ∨ executed = firstStamp version ∨ secondStamp version ≤ executed

instance (version : Int) (executed : Nat) : Decidable (outsideScripts version executed) :=
  inferInstanceAs (Decidable (_ ∨ _ ∨ _))

/-- The version that is stamped when the process stops outside the scripts. -/
def stampedVersion (version : Int) (executed : Nat) : Int :=
  if secondStamp version ≤ executed then max version 2
  else if firstStamp version ≤ executed then max version 1
  else version

/-- Every stop is outside the scripts of the version found by then. -/
def StopsOutside : Int → List Nat → Prop
  | _, [] => True
  | version, executed :: stops =>
      outsideScripts version executed ∧ StopsOutside (stampedVersion version executed) stops

/-! ## One opening -/

/-- What an opening makes of a row. -/
def updatedRow (version : Int) (row : TransferRow) : TransferRow :=
  TransferRow.marked (if version < 2 then { row with resumed := some 0, resumeOffset := some 0 }
    else row)

theorem marked_marked (row : TransferRow) : row.marked.marked = row.marked := by
  by_cases open_ : row.status ∈ interruptible.map TransferStatus.value
  · have again : TransferStatus.interrupted.value ∈ interruptible.map TransferStatus.value := by
      decide
    simp [TransferRow.marked, open_, again]
  · simp [TransferRow.marked, open_]

theorem updatedRow_updatedRow (version : Int) (row : TransferRow) :
    updatedRow 2 (updatedRow version row) = updatedRow version row := by
  simp only [updatedRow, Int.lt_irrefl, if_false]
  exact marked_marked _

/-- An opening that is not stopped, from a schema it knows. -/
theorem openHistory_eq {version : Int} {database : HistoryDatabase}
    (schema : SchemaAt version database) :
    ∃ indexes, openHistory database = (⟨2, some ⟨true, true,
      database.transferRows.map (updatedRow version)⟩, some database.fileRows, indexes⟩, true) := by
  cases schema with
  | empty => exact ⟨_, rfl⟩
  | first rows files indexes =>
      refine ⟨indexes, ?_⟩
      have marked : ((rows.map fun row => { row with resumed := some 0 }).map fun row =>
          { row with resumeOffset := some 0 }).map TransferRow.marked =
          rows.map (updatedRow 1) := by
        rw [List.map_map, List.map_map]
        rfl
      rw [HistoryDatabase.transferRows, Option.map_some, Option.getD_some, ← marked]
      rfl
  | current rows files indexes => exact ⟨indexes, rfl⟩

/-- A schema on which the next opening fails at its first statement. -/
inductive Stuck : HistoryDatabase → Prop where
  | created (table : TransferTable) (files : Option (List TransferFileRow))
      (indexes : List PyStr) : Stuck ⟨0, some table, files, indexes⟩
  | added (hasResumeOffset : Bool) (rows : List TransferRow)
      (files : Option (List TransferFileRow)) (indexes : List PyStr) :
      Stuck ⟨1, some ⟨true, hasResumeOffset, rows⟩, files, indexes⟩

theorem openHistory_of_stuck {database : HistoryDatabase} (stuck : Stuck database) :
    openHistory database = (database, false) := by
  cases stuck <;> rfl

theorem stopHistory_of_stuck {database : HistoryDatabase} (stuck : Stuck database)
    (executed : Nat) : stopHistory database executed = database := by
  cases executed with
  | zero => cases stuck <;> rfl
  | succ executed =>
      have failed : (executeScript database
          ((migrationScripts database.userVersion).take (executed + 1))).1 = database := by
        cases stuck <;> rfl
      have opened := openHistory_of_stuck stuck
      unfold stopHistory
      dsimp only
      split
      · rfl
      · split
        · exact failed
        · rw [opened]

/-- A stopped opening of a known schema has saved a prefix of the scripts, or all its work. -/
theorem stopHistory_eq {version : Int} {database : HistoryDatabase}
    (schema : SchemaAt version database) (executed : Nat) :
    stopHistory database executed =
      if executed ≤ (migrationScripts version).length + 1 then
        (executeScript database ((migrationScripts version).take executed)).1
      else (openHistory database).1 := by
  cases schema <;> rfl

/-- What later openings are to find is kept. -/
structure KeepsContent (version later : Int) (database stopped : HistoryDatabase) : Prop where
  schema : SchemaAt later stopped
  transfers : stopped.transferRows.map (updatedRow later) =
    database.transferRows.map (updatedRow version)
  files : stopped.fileRows = database.fileRows

theorem openHistory_keeps {version : Int} {database : HistoryDatabase}
    (schema : SchemaAt version database) :
    KeepsContent version 2 database (openHistory database).1 := by
  obtain ⟨indexes, opened⟩ := openHistory_eq schema
  rw [opened]
  constructor
  · exact .current _ _ _
  · simp only [HistoryDatabase.transferRows, Option.map_some, Option.getD_some, List.map_map]
    apply List.map_congr_left
    intro row _
    exact updatedRow_updatedRow version row
  · rfl

theorem KeepsContent.refl {version : Int} {database : HistoryDatabase}
    (schema : SchemaAt version database) : KeepsContent version version database database :=
  ⟨schema, rfl, rfl⟩

theorem stopHistory_committed {version : Int} {database : HistoryDatabase} {executed : Nat}
    (schema : SchemaAt version database)
    (committed : (migrationScripts version).length + 1 < executed) :
    KeepsContent version 2 database (stopHistory database executed) := by
  rw [stopHistory_eq schema, if_neg (Nat.not_le.mpr committed)]
  exact openHistory_keeps schema

theorem stopHistory_outside {version : Int} {database : HistoryDatabase} {executed : Nat}
    (schema : SchemaAt version database) (outside : outsideScripts version executed) :
    KeepsContent version (stampedVersion version executed) database
      (stopHistory database executed) := by
  cases schema with
  | empty =>
      rcases outside with start | first | second
      · subst start
        exact .refl .empty
      · subst first
        exact ⟨.first _ _ _, rfl, rfl⟩
      · have stamped : stampedVersion 0 executed = 2 := if_pos second
        rw [stamped]
        have bound : 9 ≤ executed := second
        have last : executed = 9 ∨ executed = 10 ∨ 10 < executed := by omega
        rcases last with same | same | committed
        · subst same
          exact ⟨.current _ _ _, rfl, rfl⟩
        · subst same
          exact ⟨.current _ _ _, rfl, rfl⟩
        · exact stopHistory_committed .empty committed
  | first rows files indexes =>
      have added : ∀ executed, executed = 3 ∨ executed = 4 → KeepsContent 1 2
          ⟨1, some ⟨false, false, rows⟩, some files, indexes⟩
          (stopHistory ⟨1, some ⟨false, false, rows⟩, some files, indexes⟩ executed) := by
        intro executed last
        have saved : stopHistory ⟨1, some ⟨false, false, rows⟩, some files, indexes⟩ executed =
            ⟨2, some ⟨true, true, (rows.map fun row => { row with resumed := some 0 }).map
              fun row => { row with resumeOffset := some 0 }⟩, some files, indexes⟩ := by
          cases last with
          | inl same => subst same; rfl
          | inr same => subst same; rfl
        rw [saved]
        refine ⟨.current _ _ _, ?_, rfl⟩
        simp only [HistoryDatabase.transferRows, Option.map_some, Option.getD_some, List.map_map]
        rfl
      rcases outside with start | first | second
      · subst start
        exact .refl (.first _ _ _)
      · subst first
        exact .refl (.first _ _ _)
      · have stamped : stampedVersion 1 executed = 2 := if_pos second
        rw [stamped]
        have bound : 3 ≤ executed := second
        have last : (executed = 3 ∨ executed = 4) ∨ 4 < executed := by omega
        cases last with
        | inl last => exact added executed last
        | inr committed => exact stopHistory_committed (.first _ _ _) committed
  | current rows files indexes =>
      have stamped : stampedVersion 2 executed = 2 := if_pos (Nat.zero_le _)
      rw [stamped]
      have last : executed = 0 ∨ executed = 1 ∨ 1 < executed := by omega
      rcases last with same | same | committed
      · subst same
        exact .refl (.current _ _ _)
      · subst same
        exact .refl (.current _ _ _)
      · exact stopHistory_committed (.current _ _ _) committed

theorem stopHistory_inside {version : Int} {database : HistoryDatabase} {executed : Nat}
    (schema : SchemaAt version database) (inside : ¬ outsideScripts version executed) :
    Stuck (stopHistory database executed) := by
  cases schema with
  | empty =>
      have bounds : ¬ (executed = 0 ∨ executed = 6 ∨ 9 ≤ executed) := inside
      have place : (executed = 1 ∨ executed = 2 ∨ executed = 3 ∨ executed = 4 ∨ executed = 5) ∨
          executed = 7 ∨ executed = 8 := by omega
      cases place with
      | inl creating =>
          rcases creating with same | same | same | same | same <;> subst same <;>
            exact .created _ _ _
      | inr adding =>
          cases adding with
          | inl same => subst same; exact .added _ _ _ _
          | inr same => subst same; exact .added _ _ _ _
  | first rows files indexes =>
      have bounds : ¬ (executed = 0 ∨ executed = 0 ∨ 3 ≤ executed) := inside
      have last : executed = 1 ∨ executed = 2 := by omega
      cases last with
      | inl same => subst same; exact .added _ _ _ _
      | inr same => subst same; exact .added _ _ _ _
  | current rows files indexes => exact absurd (.inr (.inr (Nat.zero_le _))) inside

/-! ## Any number of stops -/

theorem stops_stuck {database : HistoryDatabase} (stuck : Stuck database) (stops : List Nat) :
    stops.foldl stopHistory database = database := by
  induction stops with
  | nil => rfl
  | cons executed stops ih => rw [List.foldl_cons, stopHistory_of_stuck stuck, ih]

/-- Stops outside the scripts keep what is to be found, and any other leaves a stuck schema. -/
theorem stops_cases {version : Int} {database : HistoryDatabase}
    (schema : SchemaAt version database) (stops : List Nat) :
    (StopsOutside version stops ∧ ∃ later,
      KeepsContent version later database (stops.foldl stopHistory database)) ∨
    (¬ StopsOutside version stops ∧ Stuck (stops.foldl stopHistory database)) := by
  induction stops generalizing version database with
  | nil => exact .inl ⟨trivial, version, .refl schema⟩
  | cons executed stops ih =>
      rw [List.foldl_cons]
      by_cases outside : outsideScripts version executed
      · have kept := stopHistory_outside schema outside
        cases ih kept.schema with
        | inl rest =>
            obtain ⟨restOutside, later, restKept⟩ := rest
            exact .inl ⟨⟨outside, restOutside⟩, later, restKept.schema,
              restKept.transfers.trans kept.transfers, restKept.files.trans kept.files⟩
        | inr rest => exact .inr ⟨fun all => rest.1 all.2, rest.2⟩
      · have stuck := stopHistory_inside schema outside
        refine .inr ⟨fun all => outside all.1, ?_⟩
        rw [stops_stuck stuck]
        exact stuck

/-! ## Rows -/

theorem updatedRow_eq_restoredRow_iff {version : Int} {row : TransferRow} :
    updatedRow version row = restoredRow version row ↔
      ∃ status : TransferStatus, row.status = status.value := by
  have parts : updatedRow version row = restoredRow version row ↔
      (if (interruptible.map TransferStatus.value).contains row.status then
        TransferStatus.interrupted.value else row.status) =
      (if (terminalTransferStatuses.map TransferStatus.value).contains row.status then row.status
        else TransferStatus.interrupted.value) := by
    unfold updatedRow TransferRow.marked restoredRow
    cases row with
    | mk transferId peerDeviceId peerIp peerHostname direction status =>
        by_cases old : version < 2 <;>
          by_cases open_ : (interruptible.map TransferStatus.value).contains status <;>
            simp only [old, open_, if_true, if_false, Bool.false_eq_true, TransferRow.mk.injEq,
              true_and, and_true]
  rw [parts]
  constructor
  · intro same
    by_cases terminal : (terminalTransferStatuses.map TransferStatus.value).contains row.status
    · obtain ⟨status, _, value⟩ := List.mem_map.mp (List.contains_iff_mem.mp terminal)
      exact ⟨status, value.symm⟩
    · rw [if_neg terminal] at same
      split at same
      · next open_ =>
          obtain ⟨status, _, value⟩ := List.mem_map.mp (List.contains_iff_mem.mp open_)
          exact ⟨status, value.symm⟩
      · exact ⟨.interrupted, same⟩
  · intro known
    obtain ⟨status, value⟩ := known
    rw [value]
    cases status <;> decide

/-- After any stops, the next opening finds everything again exactly when no stop was
inside a script and every stored status is one of the known ones. -/
theorem migration_restartable_iff {version : Int} {database : HistoryDatabase}
    (schema : SchemaAt version database) (stops : List Nat) :
    ((openHistory (stops.foldl stopHistory database)).2 = true ∧
      ContentRestored database (openHistory (stops.foldl stopHistory database)).1) ↔
    StopsOutside version stops ∧
      ∀ row ∈ database.transferRows, ∃ status : TransferStatus, row.status = status.value := by
  have stamped : database.userVersion = version := by cases schema <;> rfl
  cases stops_cases schema stops with
  | inr inside =>
      rw [openHistory_of_stuck inside.2]
      constructor
      · intro restored
        cases restored.1
      · intro condition
        exact absurd condition.1 inside.1
  | inl outside =>
      obtain ⟨between, later, kept⟩ := outside
      obtain ⟨indexes, opened⟩ := openHistory_eq kept.schema
      rw [opened, kept.transfers, kept.files]
      constructor
      · intro restored
        refine ⟨between, ?_⟩
        have same := restored.2.transfers
        simp only [Option.some.injEq, TransferTable.mk.injEq, true_and, stamped] at same
        intro row member
        exact updatedRow_eq_restoredRow_iff.mp (List.map_inj_left.mp same row member)
      · intro condition
        refine ⟨rfl, rfl, ?_, rfl⟩
        rw [stamped]
        have same : database.transferRows.map (updatedRow version) =
            database.transferRows.map (restoredRow version) := by
          apply List.map_congr_left
          intro row member
          exact updatedRow_eq_restoredRow_iff.mpr (condition.2 row member)
        rw [same]

theorem marked_row (record : TransferRecord) :
    record.row.marked =
      (if record.status ∈ interruptible then { record with status := .interrupted } else record).row := by
  have known : ∀ status : TransferStatus,
      (interruptible.map TransferStatus.value).contains status.value ↔ status ∈ interruptible := by
    intro status
    cases status <;> decide
  have same : (interruptible.map TransferStatus.value).contains record.row.status ↔
      record.status ∈ interruptible := known record.status
  by_cases open_ : record.status ∈ interruptible
  · rw [TransferRow.marked, if_pos (same.mpr open_), if_pos open_]
    rfl
  · rw [TransferRow.marked, if_neg (fun found => open_ (same.mp found)), if_neg open_]

/-- On the tables of a store, an opening does what `migrate` does to its records. -/
theorem openHistory_migrate (store : TransferHistoryStore) :
    openHistory store.database = (store.migrate.database, true) := by
  have rows : (store.transfers.values.map TransferRecord.row).map TransferRow.marked =
      store.migrate.transfers.values.map TransferRecord.row := by
    simp only [TransferHistoryStore.migrate, Dict.values, Dict.map, List.map_map]
    apply List.map_congr_left
    intro entry _
    exact marked_row entry.2
  rw [TransferHistoryStore.database, TransferHistoryStore.database, ← rows]
  rfl

/-- A database of version 1 with a transfer that was under way. -/
def versionOneDatabase : HistoryDatabase :=
  ⟨1, some ⟨false, false, [{
    transferId := py "0123456789abcdef0123456789abcdef"
    peerDeviceId := none
    peerIp := py "10.0.0.2"
    peerHostname := none
    direction := py "send"
    status := py "active"
    message := none
    fileCount := 1
    totalSize := 10
    bytesTransferred := 4
    startedAt := 0
    completedAt := none
    error := none
    resumed := none
    resumeOffset := none }]⟩, some [], [py "idx_transfers_status"]⟩

theorem versionOneDatabase_schema : SchemaAt 1 versionOneDatabase := .first _ _ _

/-- Beside it, one that is complete. -/
def twoTransfersDatabase : HistoryDatabase :=
  { versionOneDatabase with
    transfers := some ⟨false, false, versionOneDatabase.transferRows ++
      versionOneDatabase.transferRows.map fun row => { row with
        transferId := py "fedcba9876543210fedcba9876543210"
        status := py "complete"
        bytesTransferred := 10
        completedAt := some 5 }⟩ }

/-- Six openings that stop before the second script, after its stamp, and in an opening
of version 2; among three, one stops before the stamp. -/
theorem stamped_stops_restartable :
    ((openHistory ([0, 0, 3, 1, 0, 2].foldl stopHistory twoTransfersDatabase)).2 = true ∧
      ContentRestored twoTransfersDatabase
        (openHistory ([0, 0, 3, 1, 0, 2].foldl stopHistory twoTransfersDatabase)).1) ∧
    ¬((openHistory ([0, 2, 3].foldl stopHistory twoTransfersDatabase)).2 = true ∧
      ContentRestored twoTransfersDatabase
        (openHistory ([0, 2, 3].foldl stopHistory twoTransfersDatabase)).1) := by
  have schema : SchemaAt 1 twoTransfersDatabase := .first _ _ _
  have known : ∀ row ∈ twoTransfersDatabase.transferRows,
      ∃ status : TransferStatus, row.status = status.value := by
    intro row member
    rcases List.mem_cons.mp member with rfl | member
    · exact ⟨.active, rfl⟩
    · cases List.mem_singleton.mp member
      exact ⟨.complete, rfl⟩
  constructor
  · apply (migration_restartable_iff schema _).mpr
    refine ⟨⟨?_, ?_, ?_, ?_, ?_, ?_, trivial⟩, known⟩
    all_goals decide
  · intro restored
    obtain ⟨_, inside, _⟩ := ((migration_restartable_iff schema _).mp restored).1
    exact absurd inside (by decide)

/-- Stopped after its first column was added, the database is never opened again. -/
theorem stop_between_columns : SchemaAt 1 versionOneDatabase ∧
    (∀ row ∈ versionOneDatabase.transferRows, ∃ status : TransferStatus, row.status = status.value) ∧
    (openHistory (stopHistory versionOneDatabase 1)).2 = false ∧
    stopHistory (stopHistory versionOneDatabase 1) 1 = stopHistory versionOneDatabase 1 := by
  refine ⟨versionOneDatabase_schema, ?_, rfl, rfl⟩
  intro row member
  cases member with
  | head => exact ⟨.active, rfl⟩
  | tail _ none => cases none

end DirectTransfer
