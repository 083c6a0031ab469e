import DirectTransfer.Core.CommitProperties
import DirectTransfer.Core.NameSafety

/-! One commit on a disk nobody else changes. Its loops come to an end unless a
dangling symbolic link stands in the way of the next free name: `Path.exists`
follows links, while linking and exclusive creation do not. -/

set_option autoImplicit false

namespace DirectTransfer

open Library

/-- One call of a commit with the disk it works on. -/
def commitCallStep (state : Disk FilePath × CommitCall) (failure : Option Raised) :
    Option (Disk FilePath × CommitCall) :=
  state.2.step state.1 failure

/-- A name from `uuid4`: nothing is called so, nothing links to it, and no file is to be. -/
structure TempUnused (disk : Disk FilePath) (filename temp : PyStr) : Prop where
  absent : disk.nodes.get (received temp) = none
  unlinked : ∀ path, disk.nodes.get path ≠ some (.symlink (received temp))
  unnamed : ∀ index, candidateName filename index ≠ temp

/-! ## Names -/

theorem candidateName_length (filename : PyStr) (index : Nat) :
    (candidateName filename (index + 1)).length =
      filename.length + 3 + (natText (index + 1)).length := by
  have suffix := (joinedSuffixes_suffix filename).length_le
  simp only [candidateName, Nat.succ_ne_zero, ↓reduceIte, List.length_append, List.length_take]
  rw [show (py " (").length = 2 from rfl, show (py ")").length = 1 from rfl]
  omega

/-- No two names that are tried are the same. -/
theorem candidateName_inj {filename : PyStr} {left right : Nat}
    (same : candidateName filename left = candidateName filename right) : left = right := by
  cases left with
  | zero =>
      cases right with
      | zero => rfl
      | succ right =>
          have lengths := congrArg List.length same
          rw [candidateName_length] at lengths
          simp only [candidateName, ↓reduceIte] at lengths
          omega
  | succ left =>
      cases right with
      | zero =>
          have lengths := congrArg List.length same
          rw [candidateName_length] at lengths
          simp only [candidateName, ↓reduceIte] at lengths
          omega
      | succ right =>
          simp only [candidateName, Nat.succ_ne_zero, ↓reduceIte, List.append_assoc,
            List.append_cancel_left_eq] at same
          exact natText_inj (List.append_cancel_right same)

/-- The first name that does not exist once links are followed. -/
def FirstFree (disk : Disk FilePath) (filename : PyStr) (index : Nat) : Prop :=
  (∀ earlier < index, disk.holds (received (candidateName filename earlier)) = true) ∧
    disk.holds (received (candidateName filename index)) = false

/-- The first name that does not exist is no dangling link. -/
def Unblocked (disk : Disk FilePath) (filename : PyStr) : Prop :=
  ∀ index, FirstFree disk filename index →
    disk.nodes.get (received (candidateName filename index)) = none

theorem present_of_holds {disk : Disk FilePath} {path : FilePath}
    (held : disk.holds path = true) : path ∈ disk.nodes.keys := by
  by_contra absent
  rw [Disk.holds_of_free (Dict.get_eq_none_iff.mpr absent)] at held
  cases held

/-- A finite directory leaves one of the names free. -/
theorem exists_firstFree (disk : Disk FilePath) (filename : PyStr) :
    ∃ index, FirstFree disk filename index := by
  have free : ∃ index, disk.holds (received (candidateName filename index)) = false := by
    by_contra every
    simp only [not_exists, Bool.not_eq_false] at every
    let names := (List.range (disk.nodes.keys.length + 1)).map fun index =>
      received (candidateName filename index)
    have distinct : names.Nodup := by
      refine List.nodup_range.map fun left right same => ?_
      exact candidateName_inj (FilePath.mk.inj same).2
    have inside : names ⊆ disk.nodes.keys := by
      intro path member
      obtain ⟨index, _, rfl⟩ := List.mem_map.mp member
      exact present_of_holds (every index)
    have few := (distinct.subperm inside).length_le
    simp [names] at few
  refine ⟨Nat.find free, fun earlier before => ?_, Nat.find_spec free⟩
  simpa using Nat.find_min free before

theorem FirstFree.unique {disk : Disk FilePath} {filename : PyStr} {left right : Nat}
    (first : FirstFree disk filename left) (second : FirstFree disk filename right) :
    left = right := by
  rcases Nat.lt_trichotomy left right with less | same | less
  · exact absurd (second.1 left less) (by simp [first.2])
  · exact same
  · exact absurd (first.1 right less) (by simp [second.2])

/-! ## Following links -/

theorem follow_nodes {disk next : Disk FilePath} (same : next.nodes = disk.nodes) (fuel : Nat)
    (path : FilePath) : next.follow fuel path = disk.follow fuel path := by
  induction fuel generalizing path with
  | zero => rfl
  | succ fuel ih =>
      unfold Disk.follow
      rw [same]
      split
      · exact ih _
      · rfl

/-- A file under a name nothing links to is seen under that name only. -/
theorem follow_set {disk next : Disk FilePath} {temp path : FilePath} {node : Node FilePath}
    (created : next.nodes = disk.nodes.set temp node)
    (unlinked : ∀ path, disk.nodes.get path ≠ some (.symlink temp)) (fuel : Nat)
    (other : path ≠ temp) : next.follow fuel path = disk.follow fuel path := by
  induction fuel generalizing path with
  | zero => rfl
  | succ fuel ih =>
      unfold Disk.follow
      rw [created, Dict.get_set_ne other]
      cases found : disk.nodes.get path with
      | none => rfl
      | some node =>
          cases node with
          | symlink target =>
              apply ih
              rintro rfl
              exact unlinked path found
          | file inode => rfl
          | directory => rfl

theorem FirstFree.congr {disk next : Disk FilePath} {filename : PyStr} {index : Nat}
    (same : ∀ index, next.holds (received (candidateName filename index)) =
      disk.holds (received (candidateName filename index))) :
    FirstFree next filename index ↔ FirstFree disk filename index := by
  simp only [FirstFree, same]

theorem Unblocked.congr {disk next : Disk FilePath} {filename : PyStr}
    (unblocked : Unblocked disk filename)
    (same : ∀ index, next.holds (received (candidateName filename index)) =
      disk.holds (received (candidateName filename index)))
    (nodes : ∀ index, next.nodes.get (received (candidateName filename index)) =
      disk.nodes.get (received (candidateName filename index))) : Unblocked next filename := by
  intro index first
  rw [nodes]
  exact unblocked index ((FirstFree.congr same).mp first)

/-- The temporary file takes no name that is tried. -/
theorem Unblocked.create {disk : Disk FilePath} {filename temp : PyStr}
    (unblocked : Unblocked disk filename) (unused : TempUnused disk filename temp) :
    Unblocked (disk.create (received temp) []) filename := by
  have apart (index : Nat) : received (candidateName filename index) ≠ received temp :=
    fun same => unused.unnamed index (FilePath.mk.inj same).2
  refine unblocked.congr (fun index => ?_) fun index => ?_
  · unfold Disk.holds
    rw [follow_set (Disk.nodes_create _ _ _) unused.unlinked _ (apart index)]
  · rw [Disk.nodes_create, Dict.get_set_ne (apart index)]

theorem Unblocked.write {disk : Disk FilePath} {filename : PyStr}
    (unblocked : Unblocked disk filename) (inode : Nat) (data : Bytes) :
    Unblocked (disk.write inode data) filename := by
  refine unblocked.congr (fun index => ?_) fun index => rfl
  unfold Disk.holds
  rw [follow_nodes (Disk.nodes_write _ _ _)]

/-! ## Calls left -/

/-- How many calls are left at most once the loops are behind. -/
def CommitPhase.rank : CommitPhase → Nat
  | .finished _ => 0
  | .unlinkTemp _ => 1
  | .tempExists _ => 2
  | .unlinkReservation _ _ | .unlinkCopied _ => 3
  | .restat _ _ _ => 4
  | .replace _ _ => 5
  | .stat _ _ => 6
  | .fstat _ _ => 7
  | _ => 8

@[simp] theorem CommitCall.phase_moveTo (call : CommitCall) (phase : CommitPhase) :
    (call.moveTo phase).phase = phase := rfl

theorem rank_step {disk next : Disk FilePath} {call after : CommitCall} {failure : Option Raised}
    (tail : call.phase.rank < 8) (stepped : call.step disk failure = some (next, after)) :
    after.phase.rank < call.phase.rank := by
  obtain ⟨partialPath, filename, temp, phase⟩ := call
  cases phase with
  | finished outcome => cases failure <;> cases stepped
  | unlinkTemp outcome => cases failure <;> cases stepped <;> simp [CommitPhase.rank]
  | tempExists outcome =>
      cases failure with
      | none =>
          simp only [CommitCall.step] at stepped
          split at stepped <;> cases stepped <;> simp [CommitPhase.rank]
      | some error => cases stepped; simp [CommitPhase.rank]
  | unlinkReservation name error => cases failure <;> cases stepped <;> simp [CommitPhase.rank]
  | unlinkCopied name => cases failure <;> cases stepped <;> simp [CommitPhase.rank]
  | restat name reservation error =>
      cases failure with
      | none =>
          simp only [CommitCall.step] at stepped
          split at stepped <;> cases stepped <;> simp [CommitPhase.rank]
      | some error => cases stepped; simp [CommitPhase.rank]
  | replace name reservation | stat name reservation =>
      cases failure with
      | none =>
          simp only [CommitCall.step] at stepped
          repeat' split at stepped
          all_goals cases stepped; simp [CommitPhase.rank]
      | some error =>
          simp only [CommitCall.step] at stepped
          split at stepped <;> cases stepped <;> simp [CommitPhase.rank]
  | fstat name reservation => cases failure <;> cases stepped <;> simp [CommitPhase.rank]
  | _ => exact absurd tail (by simp [CommitPhase.rank])

abbrev Ends (disk : Disk FilePath) (call : CommitCall) (bound : Nat) : Prop :=
  Within commitCallStep anyStep (disk, call) bound

theorem Ends.of_steps {disk : Disk FilePath} {call : CommitCall} {bound : Nat}
    (each : ∀ failure next after, call.step disk failure = some (next, after) →
      Ends next after bound) : Ends disk call (bound + 1) :=
  Within.of_steps fun failure state _ stepped => each failure state.1 state.2 stepped

theorem ends_tail {disk : Disk FilePath} {call : CommitCall} (tail : call.phase.rank < 8) :
    Ends disk call 7 := by
  have counted : Ends disk call call.phase.rank :=
    Within.of_measure (fun state => state.2.phase.rank) (fun state => state.2.phase.rank < 8)
      (fun state failure next still _ stepped =>
        have less := rank_step still stepped
        ⟨Nat.lt_trans less still, less⟩) tail
  exact counted.mono (Nat.le_of_lt_succ tail)

section Loops

variable {disk : Disk FilePath} {partialPath : FilePath} {filename temp : PyStr}

/-- The reservation of a name without a node succeeds or raises. -/
theorem ends_reserve {name : PyStr} (free : disk.nodes.get (received name) = none) :
    Ends disk ⟨partialPath, filename, temp, .reserve name⟩ 8 := by
  apply Ends.of_steps
  intro failure next after stepped
  cases failure with
  | none =>
      simp only [CommitCall.step, Disk.createNew, free, Option.isSome_none, Bool.false_eq_true,
        ↓reduceIte] at stepped
      cases stepped
      exact ends_tail (by simp [CommitPhase.rank])
  | some error =>
      cases stepped
      exact ends_tail (by simp [CommitPhase.rank])

theorem ends_probe_fallback (unblocked : Unblocked disk filename) {first index : Nat}
    (free : FirstFree disk filename first) (before : index ≤ first) :
    Ends disk ⟨partialPath, filename, temp, .probe true index⟩ (first - index + 9) := by
  generalize left : first - index = rest
  induction rest generalizing index with
  | zero =>
      apply Ends.of_steps
      intro failure next after stepped
      cases failure with
      | none =>
          cases Nat.le_antisymm before (Nat.le_of_sub_eq_zero left)
          simp only [CommitCall.step, free.2, Bool.false_eq_true, ↓reduceIte] at stepped
          cases stepped
          exact ends_reserve (unblocked _ free)
      | some error =>
          cases stepped
          exact (ends_tail (by simp [CommitPhase.rank])).mono (by decide)
  | succ rest ih =>
      rw [Nat.add_right_comm]
      apply Ends.of_steps
      intro failure next after stepped
      cases failure with
      | none =>
          have held := free.1 index (by omega)
          simp only [CommitCall.step, held, ↓reduceIte] at stepped
          cases stepped
          exact ih (by omega) (by omega)
      | some error =>
          cases stepped
          exact (ends_tail (by simp [CommitPhase.rank])).mono (by omega)

theorem ends_sync (unblocked : Unblocked disk filename) :
    ∃ bound, Ends disk ⟨partialPath, filename, temp, .sync⟩ bound := by
  obtain ⟨first, free⟩ := exists_firstFree disk filename
  refine ⟨first + 9 + 1, Ends.of_steps fun failure next after stepped => ?_⟩
  cases failure with
  | none =>
      cases stepped
      exact ends_probe_fallback unblocked free (Nat.zero_le first)
  | some error =>
      cases stepped
      exact (ends_tail (by simp [CommitPhase.rank])).mono (by omega)

/-- The fallback ends where no link blocks the names, with or without the temporary file. -/
theorem ends_openPartial (unblocked : Unblocked disk filename)
    (unused : TempUnused disk filename temp) :
    ∃ bound, Ends disk ⟨partialPath, filename, temp, .openPartial⟩ bound := by
  cases opened : disk.inode? partialPath with
  | none =>
      refine ⟨8, Ends.of_steps fun failure next after stepped => ?_⟩
      cases failure with
      | none =>
          simp only [CommitCall.step, opened] at stepped
          cases stepped
          exact ends_tail (by simp [CommitPhase.rank])
      | some error =>
          cases stepped
          exact ends_tail (by simp [CommitPhase.rank])
  | some source =>
      let created := disk.create (received temp) []
      let copied := created.write disk.fresh (created.contents source)
      obtain ⟨bound, synced⟩ := @ends_sync copied partialPath filename temp
        ((unblocked.create unused).write _ _)
      refine ⟨bound + 7 + 1 + 1 + 1, Ends.of_steps fun failure next after stepped => ?_⟩
      cases failure with
      | some error =>
          cases stepped
          exact (ends_tail (by simp [CommitPhase.rank])).mono (by omega)
      | none =>
          simp only [CommitCall.step, opened] at stepped
          cases stepped
          refine Ends.of_steps fun failure next after stepped => ?_
          cases failure with
          | some error =>
              cases stepped
              exact (ends_tail (by simp [CommitPhase.rank])).mono (by omega)
          | none =>
              simp only [CommitCall.step, CommitCall.moveTo, Disk.inode?_of_free unused.absent]
                at stepped
              cases stepped
              refine Ends.of_steps fun failure next after stepped => ?_
              cases failure with
              | some error =>
                  cases stepped
                  exact (ends_tail (by simp [CommitPhase.rank])).mono (by omega)
              | none =>
                  cases stepped
                  exact synced.mono (by omega)

end Loops

theorem TempUnused.link {disk linked : Disk FilePath} {filename temp : PyStr} {source : FilePath}
    {index : Nat} (unused : TempUnused disk filename temp)
    (done : disk.link source (received (candidateName filename index)) = .ok linked) :
    TempUnused linked filename temp := by
  obtain ⟨_, inode, _, nodes, _, _⟩ := Disk.link_ok done
  have apart : received temp ≠ received (candidateName filename index) :=
    fun same => unused.unnamed index (FilePath.mk.inj same).2.symm
  constructor
  · rw [nodes, Dict.get_set_ne apart]
    exact unused.absent
  · intro path found
    rw [nodes, Dict.get_set] at found
    split at found
    · cases found
    · exact unused.unlinked path found
  · exact unused.unnamed

/-- What a commit needs of the directory in order to end: the next free name is no
dangling link, neither before the partial has been linked to it nor after. -/
def EndsHere (disk : Disk FilePath) (partialPath : FilePath) (filename : PyStr) : Prop :=
  Unblocked disk filename ∧ ∀ index linked, FirstFree disk filename index →
    disk.link partialPath (received (candidateName filename index)) = .ok linked →
    Unblocked linked filename

section Start

variable {disk : Disk FilePath} {partialPath : FilePath} {filename temp : PyStr}

theorem ends_link (ends : EndsHere disk partialPath filename)
    (unused : TempUnused disk filename temp) {index : Nat} (free : FirstFree disk filename index) :
    ∃ bound, Ends disk
      ⟨partialPath, filename, temp, .link (candidateName filename index)⟩ bound := by
  obtain ⟨fallback, copies⟩ := @ends_openPartial disk partialPath filename temp ends.1 unused
  have absent := ends.1 index free
  cases done : disk.link partialPath (received (candidateName filename index)) with
  | error error =>
      refine ⟨fallback + 8, Ends.of_steps fun failure next after stepped => ?_⟩
      cases failure with
      | none =>
          simp only [CommitCall.step, done] at stepped
          cases error with
          | «exists» => simp [Disk.link, absent] at done; split at done <;> cases done
          | missing =>
              cases stepped
              exact copies.mono (by omega)
      | some raised =>
          simp only [CommitCall.step] at stepped
          split at stepped
          · cases stepped
            exact copies.mono (by omega)
          · cases stepped
            exact (ends_tail (by simp [CommitPhase.rank])).mono (by omega)
  | ok linked =>
      obtain ⟨again, recopies⟩ := @ends_openPartial linked partialPath filename temp
        (ends.2 index linked free done) (unused.link done)
      refine ⟨fallback + again + 7 + 1 + 1, Ends.of_steps fun failure next after stepped => ?_⟩
      cases failure with
      | none =>
          simp only [CommitCall.step, done] at stepped
          cases stepped
          change Ends linked
            ⟨partialPath, filename, temp, .unlinkLinked (candidateName filename index)⟩ _
          refine Ends.of_steps fun failure next after stepped => ?_
          cases failure with
          | none =>
              cases stepped
              exact (ends_tail (by simp [CommitPhase.rank])).mono (by omega)
          | some raised =>
              simp only [CommitCall.step] at stepped
              split at stepped
              · cases stepped
                exact recopies.mono (by omega)
              · cases stepped
                exact (ends_tail (by simp [CommitPhase.rank])).mono (by omega)
      | some raised =>
          simp only [CommitCall.step] at stepped
          split at stepped
          · cases stepped
            exact copies.mono (by omega)
          · cases stepped
            exact (ends_tail (by simp [CommitPhase.rank])).mono (by omega)

theorem ends_probe (ends : EndsHere disk partialPath filename)
    (unused : TempUnused disk filename temp) {first index : Nat}
    (free : FirstFree disk filename first) (before : index ≤ first) :
    ∃ bound, Ends disk ⟨partialPath, filename, temp, .probe false index⟩ bound := by
  generalize left : first - index = rest
  induction rest generalizing index with
  | zero =>
      cases Nat.le_antisymm before (Nat.le_of_sub_eq_zero left)
      obtain ⟨bound, links⟩ := @ends_link disk partialPath filename temp ends unused first free
      refine ⟨bound + 7 + 1, Ends.of_steps fun failure next after stepped => ?_⟩
      cases failure with
      | none =>
          simp only [CommitCall.step, free.2, Bool.false_eq_true, ↓reduceIte] at stepped
          cases stepped
          exact links.mono (by omega)
      | some error =>
          cases stepped
          exact (ends_tail (by simp [CommitPhase.rank])).mono (by omega)
  | succ rest ih =>
      obtain ⟨bound, probes⟩ := @ih (index + 1) (by omega) (by omega)
      refine ⟨bound + 7 + 1, Ends.of_steps fun failure next after stepped => ?_⟩
      cases failure with
      | none =>
          have held := free.1 index (by omega)
          simp only [CommitCall.step, held, ↓reduceIte] at stepped
          cases stepped
          exact probes.mono (by omega)
      | some error =>
          cases stepped
          exact (ends_tail (by simp [CommitPhase.rank])).mono (by omega)

/-- A dangling link in the way is passed over by no loop. -/
theorem circles {first : Nat} (free : FirstFree disk filename first)
    (dangling : disk.nodes.get (received (candidateName filename first)) ≠ none) (fallback : Bool)
    (bound : Nat) : ¬ Ends disk ⟨partialPath, filename, temp, .probe fallback 0⟩ bound := by
  intro ends
  let name := candidateName filename first
  let taken : CommitPhase := if fallback then .reserve name else .link name
  let circling (state : Disk FilePath × CommitCall) : Prop :=
    (∃ index ≤ first, state = (disk, ⟨partialPath, filename, temp, .probe fallback index⟩)) ∨
      state = (disk, ⟨partialPath, filename, temp, taken⟩)
  have present : (disk.nodes.get (received name)).isSome = true := Option.isSome_iff_ne_none.mpr dangling
  have continues : ∀ state, circling state → ∃ label next, anyStep state label ∧
      commitCallStep state label = some next ∧ circling next := by
    rintro state (⟨index, before, rfl⟩ | rfl)
    · by_cases last : index = first
      · subst last
        refine ⟨none, _, trivial, ?_, .inr rfl⟩
        simp [commitCallStep, CommitCall.step, free.2, CommitCall.moveTo, taken, name]
      · have held := free.1 index (Nat.lt_of_le_of_ne before last)
        refine ⟨none, _, trivial, ?_, .inl ⟨index + 1, by omega, rfl⟩⟩
        simp [commitCallStep, CommitCall.step, held, CommitCall.moveTo]
    · refine ⟨none, _, trivial, ?_, .inl ⟨0, Nat.zero_le first, rfl⟩⟩
      cases fallback with
      | true =>
          simp [taken, commitCallStep, CommitCall.step, Disk.createNew, present, CommitCall.moveTo]
      | false =>
          simp [taken, commitCallStep, CommitCall.step, Disk.link, present, CommitCall.moveTo]
  obtain ⟨labels, finish, run, counted, _⟩ :=
    Run.of_length circling continues (.inl ⟨0, Nat.zero_le first, rfl⟩) (bound + 1)
  have few := ends labels finish run
  omega

theorem not_unblocked_iff : ¬ Unblocked disk filename ↔ ∃ first, FirstFree disk filename first ∧
    disk.nodes.get (received (candidateName filename first)) ≠ none := by
  simp only [Unblocked, not_forall, exists_prop]

theorem probes_run {first index : Nat} (free : FirstFree disk filename first)
    (before : index ≤ first) : ∃ labels, Run commitCallStep anyStep
      (disk, ⟨partialPath, filename, temp, .probe false 0⟩) labels
      (disk, ⟨partialPath, filename, temp, .probe false index⟩) := by
  induction index with
  | zero => exact ⟨[], .refl⟩
  | succ index ih =>
      obtain ⟨labels, run⟩ := ih (Nat.le_of_succ_le before)
      have held := free.1 index before
      refine ⟨labels ++ [none], .snoc run trivial ?_⟩
      simp [commitCallStep, CommitCall.step, held, CommitCall.moveTo]

/-- When the partial has been linked and cannot be removed, the fallback begins. -/
theorem fallback_run {inode index : Nat} {linked : Disk FilePath}
    (stored : disk.nodes.get partialPath = some (.file inode))
    (unused : TempUnused disk filename temp) (free : FirstFree disk filename index)
    (done : disk.link partialPath (received (candidateName filename index)) = .ok linked) :
    ∃ labels copied, Run commitCallStep anyStep
        (disk, ⟨partialPath, filename, temp, .probe false 0⟩) labels
        (copied, ⟨partialPath, filename, temp, .probe true 0⟩) ∧
      (∀ index, copied.holds (received (candidateName filename index)) =
        linked.holds (received (candidateName filename index))) ∧
      ∀ index, copied.nodes.get (received (candidateName filename index)) =
        linked.nodes.get (received (candidateName filename index)) := by
  obtain ⟨labels, probed⟩ := @probes_run disk partialPath filename temp index index free le_rfl
  obtain ⟨absent, other, _, nodes, _, _⟩ := Disk.link_ok done
  have kept : linked.nodes.get partialPath = some (.file inode) := by
    rw [nodes, Dict.get_set_ne, stored]
    rintro rfl
    cases absent.symm.trans stored
  have opened := Disk.inode?_of_node kept
  have unlinked := unused.link done
  have apart (index : Nat) : received (candidateName filename index) ≠ received temp :=
    fun same => unused.unnamed index (FilePath.mk.inj same).2
  let created := linked.create (received temp) []
  let copied := created.write linked.fresh (created.contents inode)
  let denied : Raised := raised .osError "Permission denied"
  refine ⟨labels ++ [none] ++ [none] ++ [some denied] ++ [none] ++ [none] ++ [none] ++ [none],
    copied, ?_, fun index => ?_, fun index => ?_⟩
  · apply Run.snoc _ trivial
    · exact show commitCallStep (copied, ⟨partialPath, filename, temp, .sync⟩) none = _ from rfl
    apply Run.snoc _ trivial
    · exact show commitCallStep (created, ⟨partialPath, filename, temp,
        .copy inode linked.fresh⟩) none = _ from rfl
    apply Run.snoc _ trivial
    · show commitCallStep (linked, ⟨partialPath, filename, temp, .openTemp inode⟩) none = _
      simp [commitCallStep, CommitCall.step, Disk.inode?_of_free unlinked.absent, CommitCall.moveTo,
        created]
    apply Run.snoc _ trivial
    · show commitCallStep (linked, ⟨partialPath, filename, temp, .openPartial⟩) none = _
      simp [commitCallStep, CommitCall.step, opened, CommitCall.moveTo]
    apply Run.snoc _ trivial
    · show commitCallStep (linked, ⟨partialPath, filename, temp,
        .unlinkLinked (candidateName filename index)⟩) (some denied) = _
      simp [commitCallStep, CommitCall.step, denied, raised, ErrorKind.isOSError, CommitCall.moveTo]
    apply Run.snoc _ trivial
    · show commitCallStep (disk, ⟨partialPath, filename, temp,
        .link (candidateName filename index)⟩) none = _
      simp [commitCallStep, CommitCall.step, done, CommitCall.moveTo]
    apply Run.snoc probed trivial
    simp [commitCallStep, CommitCall.step, free.2, CommitCall.moveTo]
  · unfold Disk.holds
    rw [follow_nodes (Disk.nodes_write _ _ _),
      follow_set (Disk.nodes_create _ _ _) unlinked.unlinked _ (apart index)]
  · rw [Disk.nodes_write, Disk.nodes_create, Dict.get_set_ne (apart index)]

end Start

theorem finished_of_stuck {state : Disk FilePath × CommitCall}
    (stuck : commitCallStep state none = none) : ∃ outcome, state.2.phase = .finished outcome := by
  obtain ⟨disk, partialPath, filename, temp, phase⟩ := state
  cases phase with
  | finished outcome => exact ⟨outcome, rfl⟩
  | _ =>
      simp only [commitCallStep, CommitCall.step] at stuck
      repeat' split at stuck
      all_goals cases stuck

/-- Nobody else changes the directory, and each call may fail with what it may fail
with: the commit comes to an end exactly when the next free name is no dangling link,
neither before the partial has been linked to it nor after. -/
theorem commit_ends_iff {platform : Platform} {disk : Disk FilePath} {partialPath : FilePath}
    {filename temp : PyStr} {inode : Nat} (accepted : sanitizeFilename platform filename = .ok filename)
    (stored : disk.nodes.get partialPath = some (.file inode))
    (unused : TempUnused disk filename temp) :
    ((∃ bound, ∀ labels finish, Run commitCallStep anyStep
        (disk, CommitCall.start platform partialPath filename temp) labels finish →
        labels.length ≤ bound) ↔ EndsHere disk partialPath filename) ∧
    ∀ state, commitCallStep state none = none → ∃ outcome, state.2.phase = .finished outcome := by
  have begins : CommitCall.start platform partialPath filename temp =
      ⟨partialPath, filename, temp, .probe false 0⟩ := by
    simp [CommitCall.start, accepted]
  rw [begins]
  refine ⟨⟨?_, fun ends => ?_⟩, fun state => finished_of_stuck⟩
  · rintro ⟨bound, within⟩
    constructor
    · by_contra blocked
      obtain ⟨first, free, dangling⟩ := not_unblocked_iff.mp blocked
      exact circles free dangling false bound within
    · intro index linked free done
      by_contra blocked
      obtain ⟨second, other, dangling⟩ := not_unblocked_iff.mp blocked
      obtain ⟨labels, copied, run, holds, nodes⟩ := fallback_run stored unused free done
      exact circles ((FirstFree.congr holds).mpr other) (by rw [nodes]; exact dangling) true bound
        (Within.after_run within run)
  · obtain ⟨first, free⟩ := exists_firstFree disk filename
    exact ends_probe ends unused free (Nat.zero_le first)

/-! ### A dangling link -/

def notePart : FilePath := ⟨.session [], py "file-0.part"⟩

/-- A partial file and an empty receive directory. -/
def noteDisk : Disk FilePath := Disk.empty.create notePart [1, 2, 3]

/-- The same with a link in the receive directory to a file that is not there. -/
def linkedNoteDisk : Disk FilePath :=
  noteDisk.setNode (received (py "note.txt")) (.symlink (received (py "gone.txt"))) fun _ same =>
    nomatch same

theorem note_unnamed (index : Nat) : candidateName (py "note.txt") index ≠ py ".tmp-commit-0" := by
  intro same
  have head := @candidateName_head (py "note.txt") (chr 'n') index (by decide) (by decide)
  rw [same] at head
  revert head
  decide

theorem noteDisk_received (name : PyStr) : noteDisk.nodes.get (received name) = none := by
  rw [noteDisk, Disk.nodes_create, Dict.get_set_ne]
  · rfl
  · intro same
    cases (FilePath.mk.inj same).1

theorem noteDisk_unused : TempUnused noteDisk (py "note.txt") (py ".tmp-commit-0") where
  absent := noteDisk_received _
  unlinked path found := by
    rw [noteDisk, Disk.nodes_create, Dict.get_set] at found
    split at found <;> cases found
  unnamed := note_unnamed

theorem note_commit_ends : ∃ bound, ∀ labels finish, Run commitCallStep anyStep
    (noteDisk, CommitCall.start asciiPlatform notePart (py "note.txt") (py ".tmp-commit-0")) labels
    finish → labels.length ≤ bound := by
  have stored : noteDisk.nodes.get notePart = some (.file 0) := by decide
  refine (commit_ends_iff (by decide) stored noteDisk_unused).1.mpr ⟨?_, ?_⟩
  · intro index free
    exact noteDisk_received _
  · intro index linked free done second other
    obtain ⟨_, inode, _, nodes, _, _⟩ := Disk.link_ok done
    rw [nodes, Dict.get_set]
    split
    · next same =>
        have node : linked.nodes.get (received (candidateName (py "note.txt") second)) =
            some (.file inode) := by rw [nodes, Dict.get_set, if_pos same]
        cases (Disk.holds_of_node node).symm.trans other.2
    · exact noteDisk_received _

/-- `Path.exists` denies a dangling link, and neither `os.link` nor an exclusive
creation takes its name: the loop goes on for ever. -/
theorem dangling_link_loops :
    ¬ ∀ (platform : Platform) (disk : Disk FilePath) (partialPath : FilePath) (filename temp : PyStr)
      (inode : Nat), sanitizeFilename platform filename = .ok filename →
      disk.nodes.get partialPath = some (.file inode) → TempUnused disk filename temp →
      ∃ bound, ∀ labels finish, Run commitCallStep anyStep
        (disk, CommitCall.start platform partialPath filename temp) labels finish →
        labels.length ≤ bound := by
  intro always
  have unused : TempUnused linkedNoteDisk (py "note.txt") (py ".tmp-commit-0") := by
    constructor
    · decide
    · intro path found
      rw [linkedNoteDisk, Disk.nodes_setNode, Dict.get_set] at found
      split at found
      · have same := Node.symlink.inj (Option.some.inj found)
        revert same
        decide
      · exact noteDisk_unused.unlinked path found
    · exact note_unnamed
  obtain ⟨bound, within⟩ := always asciiPlatform linkedNoteDisk notePart (py "note.txt")
    (py ".tmp-commit-0") 0 (by decide) (by decide) unused
  have free : FirstFree linkedNoteDisk (py "note.txt") 0 :=
    ⟨fun earlier before => absurd before (Nat.not_lt_zero earlier), by decide⟩
  exact circles free (by decide) false bound within

end DirectTransfer
