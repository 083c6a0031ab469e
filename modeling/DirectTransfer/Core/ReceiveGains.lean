import DirectTransfer.Core.StoredDelivery

/-! What the receive directory gains while the files of one offer are received. -/

set_option autoImplicit false

namespace DirectTransfer

open Library

/-! ## Names that are given and not recorded yet -/

/-- The name a commit has given its file. -/
def CommitCall.placing (call : CommitCall) : Option FilePath :=
  match call.phase with
  | .unlinkLinked name | .finished (.ok name) => some (received name)
  | _ => none

/-- The name a session has given its file and not recorded yet. -/
def StoredSession.placing (stored : StoredSession) : Option FilePath :=
  match stored.session.phase, stored.commit with
  | .inside _ (.markCompleted finalPath), _ => some (received finalPath.name)
  | .inside _ .commit, some call => call.placing
  | _, _ => none

/-- A name in the receive directory that was free and is taken now. -/
structure Gain (start disk : Disk FilePath) (path : FilePath) : Prop where
  place : path.directory = .received
  free : start.nodes.get path = none
  taken : disk.nodes.get path ≠ none

/-- The receive directory has gained the recorded files and those that are about to be. -/
structure Gained (start : Disk FilePath) (offer : TransferOffer) (disk : Disk FilePath)
    (finals : IncomingFile → Option FilePath) (placing : Option FilePath) : Prop where
  kept : ∀ path, path.directory = .received → start.nodes.get path ≠ none →
    disk.nodes.get path = start.nodes.get path
  recorded : ∀ file ∈ offer.files, ∀ path, finals file = some path → Gain start disk path
  apart : ∀ one ∈ offer.files, ∀ other ∈ offer.files, ∀ path, finals one = some path →
    finals other = some path → one = other
  placed : ∀ path, placing = some path → Gain start disk path ∧
    ∀ file ∈ offer.files, finals file ≠ some path
  only : ∀ path, Gain start disk path →
    (∃ file ∈ offer.files, finals file = some path) ∨ placing = some path

section

variable {start disk after : Disk FilePath} {offer : TransferOffer}
  {finals : IncomingFile → Option FilePath} {placing : Option FilePath} {path : FilePath}
  {file : IncomingFile}

theorem Gained.begin (unfinished : ∀ file ∈ offer.files, finals file = none) :
    Gained start offer start finals none where
  kept _ _ _ := rfl
  recorded file member path final := by
    rw [unfinished file member] at final
    cases final
  apart one member other included path final := by
    rw [unfinished one member] at final
    cases final
  placed _ impossible := by cases impossible
  only path gain := absurd gain.free gain.taken

/-- No name of the receive directory is touched. -/
theorem Gained.still (gained : Gained start offer disk finals placing)
    (same : ∀ path : FilePath, path.directory = .received →
      after.nodes.get path = disk.nodes.get path) : Gained start offer after finals placing := by
  have forth {path : FilePath} (gain : Gain start disk path) : Gain start after path :=
    ⟨gain.place, gain.free, by rw [same path gain.place]; exact gain.taken⟩
  have back {path : FilePath} (gain : Gain start after path) : Gain start disk path :=
    ⟨gain.place, gain.free, by rw [← same path gain.place]; exact gain.taken⟩
  exact ⟨fun path place taken => (same path place).trans (gained.kept path place taken),
    fun file member path final => forth (gained.recorded file member path final), gained.apart,
    fun path given => ⟨forth (gained.placed path given).1, (gained.placed path given).2⟩,
    fun path gain => gained.only path (back gain)⟩

/-- One further file is given its name. -/
theorem Gained.place (gained : Gained start offer disk finals none)
    (place : path.directory = .received) (free : disk.nodes.get path = none)
    (taken : after.nodes.get path ≠ none)
    (same : ∀ other : FilePath, other.directory = .received → other ≠ path →
      after.nodes.get other = disk.nodes.get other) :
    Gained start offer after finals (some path) := by
  have vacant : start.nodes.get path = none := by
    by_contra held
    exact held ((gained.kept path place held).symm.trans free)
  have apart {other : FilePath} (gain : Gain start disk other) : other ≠ path := by
    intro equal
    exact gain.taken (equal ▸ free)
  have forth {other : FilePath} (gain : Gain start disk other) : Gain start after other :=
    ⟨gain.place, gain.free, by rw [same other gain.place (apart gain)]; exact gain.taken⟩
  refine ⟨fun other within held => ?_, fun file member other final =>
    forth (gained.recorded file member other final), gained.apart, fun other given => ?_,
    fun other gain => ?_⟩
  · have different : other ≠ path := fun equal => held (equal ▸ vacant)
    exact (same other within different).trans (gained.kept other within held)
  · cases given
    exact ⟨⟨place, vacant, taken⟩, fun file member final =>
      apart (gained.recorded file member path final) rfl⟩
  · by_cases equal : other = path
    · exact .inr (congrArg some equal.symm)
    · refine .inl ?_
      have before : Gain start disk other :=
        ⟨gain.place, gain.free, by rw [← same other gain.place equal]; exact gain.taken⟩
      exact (gained.only other before).resolve_right (by intro impossible; cases impossible)

/-- The file that was given its name last is recorded. -/
theorem Gained.record (gained : Gained start offer disk finals (some path))
    (member : file ∈ offer.files) (unfinished : finals file = none) :
    Gained start offer disk (withFinal finals file path) none := by
  obtain ⟨gain, unrecorded⟩ := gained.placed path rfl
  refine ⟨gained.kept, fun other included place final => ?_, fun one included other among place
    final final' => ?_, fun _ impossible => (by cases impossible), fun place gains => .inl ?_⟩
  · unfold withFinal at final
    split at final
    · cases final
      exact gain
    · exact gained.recorded other included place final
  · unfold withFinal at final final'
    split at final
    · next first =>
        cases final
        split at final'
        · next second => exact first.trans second.symm
        · exact absurd final' (unrecorded other among)
    · split at final'
      · cases final'
        exact absurd final (unrecorded one included)
      · exact gained.apart one included other among place final final'
  · cases gained.only place gains with
    | inl known =>
        obtain ⟨other, included, final⟩ := known
        refine ⟨other, included, ?_⟩
        have apart : other ≠ file := by
          intro same
          rw [same, unfinished] at final
          cases final
        rw [withFinal, if_neg apart]
        exact final
    | inr new =>
        cases new
        exact ⟨file, member, if_pos rfl⟩

end

/-! ## Commits -/

section

variable {host : StoreHost} {platform : Platform} {registry : Registry} {disk after : Disk FilePath}
  {goods : Consignment} {finals : IncomingFile → Option FilePath} {block : FileBlock}
  {call next : CommitCall}

/-- What a call of a commit does to the receive directory. -/
inductive Places (disk after : Disk FilePath) : Option FilePath → Option FilePath → Prop where
  | still {placing : Option FilePath} : (∀ path : FilePath, path.directory = .received →
      after.nodes.get path = disk.nodes.get path) → Places disk after placing placing
  | named {path : FilePath} : path.directory = .received → disk.nodes.get path = none →
      after.nodes.get path ≠ none → (∀ other : FilePath, other.directory = .received →
        other ≠ path → after.nodes.get other = disk.nodes.get other) →
      Places disk after none (some path)

theorem Committing.places (committing : Committing host registry disk goods finals block (some call))
    (stepped : call.step disk none = some (after, next)) :
    Places disk after call.placing next.placing := by
  cases committing with
  | unlinked filled verified early =>
      obtain ⟨index, rfl | rfl⟩ := early
      · simp only [CommitCall.step, CommitCall.moveTo] at stepped
        split at stepped <;> (cases stepped; exact .still fun _ _ => rfl)
      · obtain ⟨inode, placed⟩ := filled.placed
        simp only [CommitCall.step, CommitCall.moveTo] at stepped
        split at stepped
        · next linked link =>
            cases stepped
            obtain ⟨free, other, _, nodes, _, _⟩ := Disk.link_ok link
            refine .named rfl free ?_ fun path _ apart => ?_
            · rw [nodes, Dict.get_set_self]
              exact Option.some_ne_none _
            · rw [nodes, Dict.get_set_ne apart]
        · cases stepped
          exact .still fun _ _ => rfl
        · next missing => exact absurd missing (link_found placed)
  | linked unrecorded =>
      cases stepped
      refine .still fun path place => ?_
      rw [Disk.nodes_unlink, Dict.get_erase_ne]
      intro same
      rw [same] at place
      cases place
  | ended unrecorded => cases stepped

end

end DirectTransfer
