import DirectTransfer.Core.CommitTermination

/-! A commit leaves all or nothing. What a call has added to the directory is
followed through both strategies; a failing call leaves a name behind exactly
where the source has no handler that takes the name away again. -/

set_option autoImplicit false

namespace DirectTransfer

open Library

/-- Some new names, and no other change. -/
structure Adds (before after : Disk FilePath) (added : List (FilePath × Node FilePath)) : Prop where
  nodes : ∀ path, after.nodes.get path =
    (findEntry path added).orElse fun _ => before.nodes.get path
  absent : ∀ path ∈ added.map Prod.fst, before.nodes.get path = none
  contents : ∀ inode < before.fresh, after.contents inode = before.contents inode
  fresh : before.fresh ≤ after.fresh

namespace Adds

variable {before after next : Disk FilePath} {path other : FilePath} {node last : Node FilePath}
  {rest : List (FilePath × Node FilePath)}

theorem refl : Adds before before [] where
  nodes path := by simp [findEntry]
  absent path member := nomatch member
  contents _ _ := rfl
  fresh := Nat.le_refl _

theorem free (adds : Adds before after rest) (free : after.nodes.get path = none) :
    path ∉ rest.map Prod.fst ∧ before.nodes.get path = none := by
  rw [adds.nodes] at free
  cases found : findEntry path rest with
  | none =>
      rw [found] at free
      exact ⟨findEntry_eq_none_iff.mp found, free⟩
  | some node =>
      rw [found] at free
      cases free

theorem head (adds : Adds before after ((path, node) :: rest)) :
    after.nodes.get path = some node := by
  rw [adds.nodes]
  simp [findEntry]

/-- A name that was free gets a node. -/
theorem set (adds : Adds before after rest) (free : after.nodes.get path = none)
    (nodes : next.nodes = after.nodes.set path node)
    (contents : ∀ inode < before.fresh, next.contents inode = after.contents inode)
    (fresh : after.fresh ≤ next.fresh) : Adds before next ((path, node) :: rest) where
  nodes other := by
    rw [nodes, Dict.get_set, findEntry, adds.nodes]
    by_cases same : other = path
    · simp [same]
    · simp [same, Ne.symm same]
  absent other member := by
    simp only [List.map_cons, List.mem_cons] at member
    cases member with
    | inl same => rw [same]; exact (adds.free free).2
    | inr old => exact adds.absent other old
  contents inode old := (contents inode old).trans (adds.contents inode old)
  fresh := Nat.le_trans adds.fresh fresh

theorem create (adds : Adds before after rest) (free : after.nodes.get path = none)
    (data : Bytes) : Adds before (after.create path data) ((path, .file after.fresh) :: rest) := by
  apply adds.set free (Disk.nodes_create _ _ _)
  · intro inode old
    rw [Disk.contents_create, if_neg (Nat.ne_of_lt (Nat.lt_of_lt_of_le old adds.fresh))]
  · exact Nat.le_succ _

theorem write {inode : Nat} (adds : Adds before after rest) (new : before.fresh ≤ inode)
    (data : Bytes) : Adds before (after.write inode data) rest where
  nodes := adds.nodes
  absent := adds.absent
  contents other old := by
    rw [Disk.contents_write, if_neg (Nat.ne_of_lt (Nat.lt_of_lt_of_le old new))]
    exact adds.contents other old
  fresh := adds.fresh

/-- The latest of the new names is removed. -/
theorem unlink (adds : Adds before after ((path, node) :: rest))
    (once : path ∉ rest.map Prod.fst) : Adds before (after.unlink path) rest where
  nodes other := by
    rw [Disk.nodes_unlink, Dict.get_erase]
    split
    · next same =>
        rw [same, findEntry_eq_none_iff.mpr once, adds.absent path (by simp)]
        rfl
    · next different =>
        rw [adds.nodes, findEntry, if_neg (Ne.symm different)]
  absent other member := adds.absent other (by simp [member])
  contents := adds.contents
  fresh := adds.fresh

/-- The file under the earlier of two new names takes the place of the later one. -/
theorem replace (adds : Adds before after [(path, node), (other, last)]) (apart : path ≠ other)
    (replaced : after.replace other path = .ok next) : Adds before next [(path, last)] := by
  obtain ⟨moved, found, nodes, contents, fresh⟩ := Disk.replace_ok replaced
  have same : moved = last := by
    rw [adds.nodes, findEntry, if_neg apart] at found
    simpa [findEntry] using found.symm
  subst same
  constructor
  · intro name
    rw [nodes, Dict.get_erase, Dict.get_set, adds.nodes]
    by_cases isOther : name = other
    · rw [if_pos isOther, isOther]
      simp [findEntry, apart, adds.absent other (by simp)]
    · by_cases isPath : name = path
      · simp [isPath, findEntry, apart]
      · simp [isOther, isPath, findEntry, Ne.symm isOther, Ne.symm isPath]
  · intro name member
    exact adds.absent name (by simp at member; simp [member])
  · intro inode old
    rw [contents]
    exact adds.contents inode old
  · rw [fresh]
    exact adds.fresh

end Adds

/-! ## Outcomes -/

/-- The partial has become the one new file. -/
structure Committed (before after : Disk FilePath) (partialPath : FilePath) (name : PyStr)
    (data : Bytes) : Prop where
  added : before.nodes.get (received name) = none
  stored : Stores after (received name) data
  removed : after.nodes.get partialPath = none
  others : ∀ path, path ≠ partialPath → path ≠ received name →
    after.nodes.get path = before.nodes.get path
  contents : ∀ path inode, before.nodes.get path = some (.file inode) →
    after.contents inode = before.contents inode

/-- Every name is as it was, and every file. -/
structure Restored (before after : Disk FilePath) : Prop where
  nodes : ∀ path, after.nodes.get path = before.nodes.get path
  contents : ∀ path inode, before.nodes.get path = some (.file inode) →
    after.contents inode = before.contents inode

def AllOrNothing (before after : Disk FilePath) (partialPath : FilePath) (data : Bytes) :
    Except Raised PyStr → Prop
  | .ok name => Committed before after partialPath name data
  | .error _ => Restored before after

theorem Adds.restored {before after : Disk FilePath} (adds : Adds before after []) :
    Restored before after where
  nodes path := by simp [adds.nodes, findEntry]
  contents path inode found := adds.contents inode (before.bounded path inode found)

theorem Adds.committed {before after : Disk FilePath} {partialPath : FilePath} {name : PyStr}
    {inode target : Nat} (adds : Adds before after [(received name, .file target)])
    (stored : before.nodes.get partialPath = some (.file inode)) :
    Committed before (after.unlink partialPath) partialPath name (after.contents target) := by
  have added := adds.absent (received name) (by simp)
  have apart : received name ≠ partialPath := by
    rintro rfl
    cases added.symm.trans stored
  constructor
  · exact added
  · refine ⟨target, ?_, rfl⟩
    rw [Disk.nodes_unlink, Dict.get_erase, if_neg apart, adds.nodes]
    simp [findEntry]
  · simp
  · intro path different other
    rw [Disk.nodes_unlink, Dict.get_erase, if_neg different, adds.nodes]
    simp [findEntry, Ne.symm other]
  · intro path inode found
    exact adds.contents inode (before.bounded path inode found)

/-! ## What a call has added -/

/-- A call raises an `OSError` or nothing, and does not fail to remove its own
temporary file and its own reservation. -/
def Cleans (state : Disk FilePath × CommitCall) (failure : Option Raised) : Prop :=
  ∀ error, failure = some error → error.kind.isOSError = true ∧
    match state.2.phase with
    | .unlinkReservation _ _ | .unlinkTemp _ => False
    | _ => True

/-- The call does not fail where it has given a name that no handler takes away. -/
def Careful (state : Disk FilePath × CommitCall) (failure : Option Raised) : Prop :=
  failure ≠ none → match state.2.phase with
    | .unlinkLinked _ | .fstat _ _ | .restat _ _ _ | .unlinkCopied _ | .tempExists (.ok _) => False
    | .tempExists (.error _) => state.1.nodes.get (received state.2.temp) = none
    | _ => True

section Call

variable (before : Disk FilePath) (partialPath : FilePath) (temp : PyStr) (data : Bytes)

/-- The copy of the partial is complete, with some names before it. -/
def CopyAdded (disk : Disk FilePath) (reserved : List (FilePath × Node FilePath)) : Prop :=
  ∃ target, Adds before disk (reserved ++ [(received temp, .file target)]) ∧
    before.fresh ≤ target ∧ disk.contents target = data

/-- What a call has added at each phase. -/
inductive Standing (inode : Nat) : Disk FilePath → CommitPhase → Prop where
  | probing {disk index} : Adds before disk [] → Standing inode disk (.probe false index)
  | linking {disk name} : Adds before disk [] → name ≠ temp → Standing inode disk (.link name)
  | linked {disk name} : Adds before disk [(received name, .file inode)] → name ≠ temp →
      Standing inode disk (.unlinkLinked name)
  | opening {disk} : Adds before disk [] → Standing inode disk .openPartial
  | naming {disk} : Adds before disk [] → Standing inode disk (.openTemp inode)
  | copying {disk target} : Adds before disk [(received temp, .file target)] →
      before.fresh ≤ target → Standing inode disk (.copy inode target)
  | syncing {disk} : CopyAdded before temp data disk [] → Standing inode disk .sync
  | reprobing {disk index} : CopyAdded before temp data disk [] →
      Standing inode disk (.probe true index)
  | reserving {disk name} : CopyAdded before temp data disk [] → name ≠ temp →
      Standing inode disk (.reserve name)
  | reserved {disk name reservation} :
      CopyAdded before temp data disk [(received name, .file reservation)] → name ≠ temp →
      Standing inode disk (.fstat name reservation)
  | checking {disk name reservation} :
      CopyAdded before temp data disk [(received name, .file reservation)] → name ≠ temp →
      Standing inode disk (.stat name reservation)
  | replacing {disk name reservation} :
      CopyAdded before temp data disk [(received name, .file reservation)] → name ≠ temp →
      Standing inode disk (.replace name reservation)
  | failed {disk name reservation error} :
      CopyAdded before temp data disk [(received name, .file reservation)] → name ≠ temp →
      Standing inode disk (.restat name reservation error)
  | releasing {disk name reservation error} :
      CopyAdded before temp data disk [(received name, .file reservation)] → name ≠ temp →
      Standing inode disk (.unlinkReservation name error)
  | copied {disk name target} : Adds before disk [(received name, .file target)] →
      disk.contents target = data → name ≠ temp → Standing inode disk (.unlinkCopied name)
  | committed {disk name} : Committed before disk partialPath name data → name ≠ temp →
      Standing inode disk (.tempExists (.ok name))
  | raising {disk error} : Adds before disk [] → Standing inode disk (.tempExists (.error error))
  | tidying {disk target error} : Adds before disk [(received temp, .file target)] →
      Standing inode disk (.tempExists (.error error))
  | sweeping {disk target error} : Adds before disk [(received temp, .file target)] →
      Standing inode disk (.unlinkTemp (.error error))
  | finished {disk outcome} : AllOrNothing before disk partialPath data outcome →
      Standing inode disk (.finished outcome)

variable {before partialPath temp data} {disk next : Disk FilePath} {filename : PyStr}
  {phase : CommitPhase} {after : CommitCall} {inode : Nat}

theorem Adds.received {added : List (FilePath × Node FilePath)}
    (adds : Adds before disk added) (stored : before.nodes.get partialPath = some (.file inode)) :
    disk.nodes.get partialPath = some (.file inode) ∧
      disk.contents inode = before.contents inode := by
  constructor
  · have apart : findEntry partialPath added = none := by
      rw [findEntry_eq_none_iff]
      intro member
      cases (adds.absent partialPath member).symm.trans stored
    rw [adds.nodes, apart]
    exact stored
  · exact adds.contents inode (before.bounded partialPath inode stored)

theorem CopyAdded.reserve (copy : CopyAdded before temp data disk []) {name : PyStr}
    (free : disk.nodes.get (received name) = none) :
    CopyAdded before temp data (disk.create (received name) [])
      [(received name, .file disk.fresh)] := by
  obtain ⟨target, adds, new, whole⟩ := copy
  refine ⟨target, adds.create free [], new, ?_⟩
  rw [Disk.contents_create, if_neg (Nat.ne_of_lt (disk.bounded _ _ adds.head))]
  exact whole

theorem CopyAdded.reservation {name : PyStr} {node : Node FilePath}
    (copy : CopyAdded before temp data disk [(received name, node)]) :
    disk.nodes.get (received name) = some node := by
  obtain ⟨target, adds, _⟩ := copy
  exact adds.head

/-- What one call adds, or takes away again, when it does not fail. -/
theorem Standing.step (stored : before.nodes.get partialPath = some (.file inode))
    (unused : TempUnused before filename temp)
    (standing : Standing before partialPath temp (before.contents inode) inode disk phase)
    (stepped : CommitCall.step disk ⟨partialPath, filename, temp, phase⟩ none = some (next, after)) :
    ∃ later, after = ⟨partialPath, filename, temp, later⟩ ∧
      Standing before partialPath temp (before.contents inode) inode next later := by
  have unnamed (index : Nat) : candidateName filename index ≠ temp := unused.unnamed index
  cases standing with
  | probing adds =>
      simp only [CommitCall.step] at stepped
      split at stepped
      · cases stepped
        exact ⟨_, rfl, .probing adds⟩
      · cases stepped
        exact ⟨_, rfl, .linking adds (unnamed _)⟩
  | linking adds apart =>
      simp only [CommitCall.step] at stepped
      split at stepped
      · next linked done =>
          cases stepped
          obtain ⟨free, other, found, nodes, contents, fresh⟩ := Disk.link_ok done
          cases (Disk.inode?_of_node (adds.received stored).1).symm.trans found
          refine ⟨_, rfl, .linked (adds.set free nodes (fun _ _ => by rw [contents]) ?_) apart⟩
          exact Nat.le_of_eq fresh.symm
      · cases stepped
        exact ⟨_, rfl, .probing adds⟩
      · cases stepped
        exact ⟨_, rfl, .opening adds⟩
  | linked adds apart =>
      cases stepped
      have committed := adds.committed stored
      rw [(adds.received stored).2] at committed
      exact ⟨_, rfl, .finished committed⟩
  | opening adds =>
      simp only [CommitCall.step, Disk.inode?_of_node (adds.received stored).1] at stepped
      cases stepped
      exact ⟨_, rfl, .naming adds⟩
  | naming adds =>
      have free : disk.nodes.get (received temp) = none := by
        rw [adds.nodes]
        exact unused.absent
      simp only [CommitCall.step, Disk.inode?_of_free free] at stepped
      cases stepped
      exact ⟨_, rfl, .copying (adds.create free []) adds.fresh⟩
  | copying adds new =>
      cases stepped
      refine ⟨_, rfl, .syncing ⟨_, adds.write new _, new, ?_⟩⟩
      rw [Disk.contents_write, if_pos rfl]
      exact (adds.received stored).2
  | syncing copy =>
      cases stepped
      exact ⟨_, rfl, .reprobing copy⟩
  | reprobing copy =>
      simp only [CommitCall.step] at stepped
      split at stepped
      · cases stepped
        exact ⟨_, rfl, .reprobing copy⟩
      · cases stepped
        exact ⟨_, rfl, .reserving copy (unnamed _)⟩
  | reserving copy apart =>
      simp only [CommitCall.step] at stepped
      split at stepped
      · next created done =>
          cases stepped
          obtain ⟨free, rfl⟩ := Disk.createNew_ok done
          exact ⟨_, rfl, .reserved (copy.reserve free) apart⟩
      · cases stepped
        exact ⟨_, rfl, .reprobing copy⟩
  | reserved copy apart =>
      cases stepped
      exact ⟨_, rfl, .checking copy apart⟩
  | checking copy apart =>
      simp only [CommitCall.step, Disk.inode?_of_node copy.reservation, ↓reduceIte] at stepped
      cases stepped
      exact ⟨_, rfl, .replacing copy apart⟩
  | replacing copy apart =>
      obtain ⟨target, adds, new, whole⟩ := copy
      simp only [CommitCall.step] at stepped
      split at stepped
      · next replaced done =>
          cases stepped
          obtain ⟨_, _, _, contents, _⟩ := Disk.replace_ok done
          have distinct : received _ ≠ received temp := fun same => apart (FilePath.mk.inj same).2
          refine ⟨_, rfl, .copied (adds.replace distinct done) ?_ apart⟩
          rw [contents]
          exact whole
      · next error done =>
          have held : disk.nodes.get (received temp) = some (.file target) := by
            rw [adds.nodes]
            simp [findEntry, apart, received]
          exact absurd done (Disk.replace_of_node held)
  | failed copy apart =>
      simp only [CommitCall.step, Disk.inode?_of_node copy.reservation, ↓reduceIte] at stepped
      cases stepped
      exact ⟨_, rfl, .releasing copy apart⟩
  | releasing copy apart =>
      cases stepped
      obtain ⟨target, adds, _, _⟩ := copy
      refine ⟨_, rfl, .tidying (adds.unlink ?_)⟩
      simpa [received] using apart
  | copied adds whole apart =>
      cases stepped
      have committed := adds.committed stored
      rw [whole] at committed
      exact ⟨_, rfl, .committed committed apart⟩
  | committed committed apart =>
      have free : disk.nodes.get (received temp) = none := by
        rw [committed.others, unused.absent]
        · rintro rfl
          cases unused.absent.symm.trans stored
        · intro same
          exact apart (FilePath.mk.inj same).2.symm
      simp only [CommitCall.step, Disk.holds_of_free free] at stepped
      cases stepped
      exact ⟨_, rfl, .finished committed⟩
  | raising adds =>
      have free : disk.nodes.get (received temp) = none := by
        rw [adds.nodes]
        exact unused.absent
      simp only [CommitCall.step, Disk.holds_of_free free] at stepped
      cases stepped
      exact ⟨_, rfl, .finished adds.restored⟩
  | tidying adds =>
      simp only [CommitCall.step, Disk.holds_of_node adds.head, ↓reduceIte] at stepped
      cases stepped
      exact ⟨_, rfl, .sweeping adds⟩
  | sweeping adds =>
      cases stepped
      exact ⟨_, rfl, .finished (adds.unlink (by simp)).restored⟩
  | finished outcome => cases stepped

/-- A careful failure leaves nothing that is not taken away again. -/
theorem Standing.fail (standing : Standing before partialPath temp (before.contents inode) inode disk phase)
    {error : Raised}
    (cleans : Cleans (disk, ⟨partialPath, filename, temp, phase⟩) (some error))
    (careful : Careful (disk, ⟨partialPath, filename, temp, phase⟩) (some error))
    (stepped : CommitCall.step disk ⟨partialPath, filename, temp, phase⟩ (some error) =
      some (next, after)) :
    ∃ later, after = ⟨partialPath, filename, temp, later⟩ ∧
      Standing before partialPath temp (before.contents inode) inode next later := by
  obtain ⟨operating, cleaned⟩ := cleans error rfl
  have allowed := careful (by simp)
  cases standing with
  | probing adds =>
      cases stepped
      exact ⟨_, rfl, .finished adds.restored⟩
  | linking adds apart =>
      simp only [CommitCall.step, operating, ↓reduceIte] at stepped
      cases stepped
      exact ⟨_, rfl, .opening adds⟩
  | opening adds | naming adds =>
      cases stepped
      exact ⟨_, rfl, .raising adds⟩
  | copying adds new =>
      cases stepped
      exact ⟨_, rfl, .tidying adds⟩
  | syncing copy | reprobing copy | reserving copy apart =>
      cases stepped
      obtain ⟨target, adds, _⟩ := copy
      exact ⟨_, rfl, .tidying adds⟩
  | checking copy apart | replacing copy apart =>
      simp only [CommitCall.step, operating, ↓reduceIte] at stepped
      cases stepped
      exact ⟨_, rfl, .failed copy apart⟩
  | raising adds =>
      cases stepped
      exact ⟨_, rfl, .finished adds.restored⟩
  | tidying adds => cases adds.head.symm.trans allowed
  | releasing copy apart => exact cleaned.elim
  | sweeping adds => exact cleaned.elim
  | linked adds apart => exact allowed.elim
  | reserved copy apart => exact allowed.elim
  | failed copy apart => exact allowed.elim
  | copied adds whole apart => exact allowed.elim
  | committed committed apart => exact allowed.elim
  | finished outcome => cases stepped

/-- A new name that the phase, and every later one, leaves alone. -/
def Spared (temp : PyStr) (path : FilePath) : CommitPhase → Prop
  | .probe false _ | .link _ | .unlinkLinked _ => False
  | .fstat name _ | .stat name _ | .replace name _ | .restat name _ _ | .unlinkReservation name _
  | .unlinkCopied name | .tempExists (.ok name) | .unlinkTemp (.ok name) =>
      path ≠ received temp ∧ path ≠ received name
  | .finished (.ok name) => path ≠ received name
  | .finished (.error _) => True
  | .openPartial | .openTemp _ | .copy _ _ | .sync | .probe true _ | .reserve _
  | .tempExists (.error _) | .unlinkTemp (.error _) => path ≠ received temp

/-- A name has been added that stays and is not the one returned. -/
def Littered (before : Disk FilePath) (temp : PyStr) (disk : Disk FilePath) (phase : CommitPhase) :
    Prop :=
  ∃ path, before.nodes.get path = none ∧ disk.nodes.get path ≠ none ∧ Spared temp path phase

theorem Littered.step (stored : before.nodes.get partialPath = some (.file inode))
    (littered : Littered before temp disk phase) {failure : Option Raised}
    (stepped : CommitCall.step disk ⟨partialPath, filename, temp, phase⟩ failure =
      some (next, after)) :
    ∃ later, after = ⟨partialPath, filename, temp, later⟩ ∧ Littered before temp next later := by
  obtain ⟨path, new, present, spared⟩ := littered
  have notPartial : path ≠ partialPath := by
    rintro rfl
    cases new.symm.trans stored
  -- a step that leaves the name alone, into a phase that spares it
  have still {later : CommitPhase} (same : next.nodes.get path = disk.nodes.get path)
      (spares : Spared temp path later) : Littered before temp next later :=
    ⟨path, new, by rwa [same], spares⟩
  cases phase with
  | probe fallback index =>
      cases fallback with
      | false => exact spared.elim
      | true =>
          cases failure with
          | none =>
              simp only [CommitCall.step] at stepped
              split at stepped <;> cases stepped <;> exact ⟨_, rfl, still rfl spared⟩
          | some error =>
              cases stepped
              exact ⟨_, rfl, still rfl spared⟩
  | link name => exact spared.elim
  | unlinkLinked name => exact spared.elim
  | openPartial =>
      cases failure with
      | none =>
          simp only [CommitCall.step] at stepped
          split at stepped <;> cases stepped <;> exact ⟨_, rfl, still rfl spared⟩
      | some error =>
          cases stepped
          exact ⟨_, rfl, still rfl spared⟩
  | openTemp source =>
      cases failure with
      | none =>
          simp only [CommitCall.step] at stepped
          split at stepped
          · cases stepped
            exact ⟨_, rfl, still rfl spared⟩
          · cases stepped
            refine ⟨_, rfl, still ?_ spared⟩
            rw [Disk.nodes_create, Dict.get_set_ne spared]
      | some error =>
          cases stepped
          exact ⟨_, rfl, still rfl spared⟩
  | copy source target =>
      cases failure <;> cases stepped <;> exact ⟨_, rfl, still rfl spared⟩
  | sync => cases failure <;> cases stepped <;> exact ⟨_, rfl, still rfl spared⟩
  | reserve name =>
      cases failure with
      | none =>
          simp only [CommitCall.step] at stepped
          split at stepped
          · next created done =>
              cases stepped
              obtain ⟨free, rfl⟩ := Disk.createNew_ok done
              have other : path ≠ received name := by
                rintro rfl
                exact present free
              refine ⟨_, rfl, still ?_ ⟨spared, other⟩⟩
              rw [Disk.nodes_create, Dict.get_set_ne other]
          · cases stepped
            exact ⟨_, rfl, still rfl spared⟩
      | some error =>
          cases stepped
          exact ⟨_, rfl, still rfl spared⟩
  | fstat name reservation =>
      cases failure with
      | none =>
          cases stepped
          exact ⟨_, rfl, still rfl spared⟩
      | some error =>
          cases stepped
          exact ⟨_, rfl, still rfl spared.1⟩
  | stat name reservation =>
      cases failure with
      | none =>
          simp only [CommitCall.step] at stepped
          repeat' split at stepped
          all_goals
            cases stepped
            exact ⟨_, rfl, still rfl spared⟩
      | some error =>
          simp only [CommitCall.step] at stepped
          split at stepped
          · cases stepped
            exact ⟨_, rfl, still rfl spared⟩
          · cases stepped
            exact ⟨_, rfl, still rfl spared.1⟩
  | replace name reservation =>
      cases failure with
      | none =>
          simp only [CommitCall.step] at stepped
          split at stepped
          · next replaced done =>
              cases stepped
              obtain ⟨_, _, nodes, _, _⟩ := Disk.replace_ok done
              refine ⟨_, rfl, still ?_ spared⟩
              rw [nodes, Dict.get_erase, if_neg spared.1, Dict.get_set_ne spared.2]
          · cases stepped
            exact ⟨_, rfl, still rfl spared⟩
      | some error =>
          simp only [CommitCall.step] at stepped
          split at stepped
          · cases stepped
            exact ⟨_, rfl, still rfl spared⟩
          · cases stepped
            exact ⟨_, rfl, still rfl spared.1⟩
  | restat name reservation error =>
      cases failure with
      | none =>
          simp only [CommitCall.step] at stepped
          split at stepped
          · cases stepped
            exact ⟨_, rfl, still rfl spared⟩
          · cases stepped
            exact ⟨_, rfl, still rfl spared.1⟩
      | some raised =>
          cases stepped
          exact ⟨_, rfl, still rfl spared.1⟩
  | unlinkReservation name error =>
      cases failure with
      | none =>
          cases stepped
          refine ⟨_, rfl, still ?_ spared.1⟩
          rw [Disk.nodes_unlink, Dict.get_erase, if_neg spared.2]
      | some raised =>
          cases stepped
          exact ⟨_, rfl, still rfl spared.1⟩
  | unlinkCopied name =>
      cases failure with
      | none =>
          cases stepped
          refine ⟨_, rfl, still ?_ spared⟩
          rw [Disk.nodes_unlink, Dict.get_erase, if_neg notPartial]
      | some raised =>
          cases stepped
          exact ⟨_, rfl, still rfl spared.1⟩
  | tempExists outcome =>
      have apart : path ≠ received temp := by
        cases outcome with
        | error error => exact spared
        | ok name => exact spared.1
      cases failure with
      | none =>
          simp only [CommitCall.step] at stepped
          split at stepped
          · cases stepped
            refine ⟨_, rfl, still rfl ?_⟩
            cases outcome <;> exact spared
          · cases stepped
            refine ⟨_, rfl, still rfl ?_⟩
            cases outcome with
            | error error => trivial
            | ok name => exact spared.2
      | some raised =>
          cases stepped
          exact ⟨_, rfl, still rfl trivial⟩
  | unlinkTemp outcome =>
      have apart : path ≠ received temp := by
        cases outcome with
        | error error => exact spared
        | ok name => exact spared.1
      cases failure with
      | none =>
          cases stepped
          refine ⟨_, rfl, still ?_ ?_⟩
          · rw [Disk.nodes_unlink, Dict.get_erase, if_neg apart]
          · cases outcome with
            | error error => trivial
            | ok name => exact spared.2
      | some raised =>
          cases stepped
          exact ⟨_, rfl, still rfl trivial⟩
  | finished outcome => cases failure <;> cases stepped

/-- A failure that is not careful leaves a name behind. -/
theorem Standing.litter (unused : TempUnused before filename temp)
    (standing : Standing before partialPath temp (before.contents inode) inode disk phase)
    {failure : Option Raised}
    (cleans : Cleans (disk, ⟨partialPath, filename, temp, phase⟩) failure)
    (careless : ¬ Careful (disk, ⟨partialPath, filename, temp, phase⟩) failure)
    (stepped : CommitCall.step disk ⟨partialPath, filename, temp, phase⟩ failure =
      some (next, after)) :
    ∃ later, after = ⟨partialPath, filename, temp, later⟩ ∧ Littered before temp next later := by
  cases failure with
  | none => exact absurd (fun failed => absurd rfl failed) careless
  | some error =>
      have operating := (cleans error rfl).1
      have named {name : PyStr} {node : Node FilePath} {rest : List (FilePath × Node FilePath)}
          {disk : Disk FilePath} (adds : Adds before disk ((received name, node) :: rest))
          (apart : name ≠ temp) {later : CommitPhase} (spares : Spared temp (received name) later) :
          Littered before temp disk later :=
        ⟨received name, adds.absent _ (by simp), by simp [adds.head], spares⟩
      have other {name : PyStr} (apart : name ≠ temp) : received name ≠ received temp :=
        fun same => apart (FilePath.mk.inj same).2
      cases standing with
      | linked adds apart =>
          simp only [CommitCall.step, operating, ↓reduceIte] at stepped
          cases stepped
          exact ⟨_, rfl, named adds apart (other apart)⟩
      | reserved copy apart | failed copy apart =>
          obtain ⟨target, adds, _⟩ := copy
          cases stepped
          exact ⟨_, rfl, named adds apart (other apart)⟩
      | copied adds whole apart =>
          cases stepped
          exact ⟨_, rfl, named adds apart (other apart)⟩
      | committed committed apart =>
          cases stepped
          obtain ⟨target, held, _⟩ := committed.stored
          exact ⟨_, rfl, received _, committed.added, by simp [held], trivial⟩
      | tidying adds =>
          cases stepped
          exact ⟨_, rfl, received temp, adds.absent _ (by simp), by simp [adds.head], trivial⟩
      | raising adds =>
          refine absurd (fun _ => ?_) careless
          change disk.nodes.get (received temp) = none
          rw [adds.nodes]
          exact unused.absent
      | _ => exact absurd (fun _ => trivial) careless

theorem Littered.spoiled (stored : before.nodes.get partialPath = some (.file inode))
    {outcome : Except Raised PyStr}
    (littered : Littered before temp disk (.finished outcome)) :
    ¬ AllOrNothing before disk partialPath data outcome := by
  intro result
  obtain ⟨path, new, present, spared⟩ := littered
  cases outcome with
  | error error => exact present ((result.nodes path).trans new)
  | ok name =>
      refine present ((result.others path ?_ spared).trans new)
      rintro rfl
      cases new.symm.trans stored

/-- In a careful run the call stands; in any other a name is left behind. -/
theorem stands_or_litters (stored : before.nodes.get partialPath = some (.file inode))
    (unused : TempUnused before filename temp) {labels : List (Option Raised)}
    {state : Disk FilePath × CommitCall}
    (run : Run commitCallStep Cleans (before, ⟨partialPath, filename, temp, .probe false 0⟩) labels
      state) :
    ∃ disk phase, state = (disk, ⟨partialPath, filename, temp, phase⟩) ∧
      (Run commitCallStep (fun state failure => Cleans state failure ∧ Careful state failure)
          (before, ⟨partialPath, filename, temp, .probe false 0⟩) labels state ∧
        Standing before partialPath temp (before.contents inode) inode disk phase ∨
      ¬ Run commitCallStep (fun state failure => Cleans state failure ∧ Careful state failure)
          (before, ⟨partialPath, filename, temp, .probe false 0⟩) labels state ∧
        Littered before temp disk phase) := by
  induction run with
  | refl => exact ⟨before, _, rfl, .inl ⟨.refl, .probing .refl⟩⟩
  | @snoc _ finish labels failure earlier cleans stepped ih =>
      obtain ⟨next, after⟩ := finish
      obtain ⟨disk, phase, rfl, carefully | ⟨carelessly, littered⟩⟩ := ih
      · obtain ⟨whole, standing⟩ := carefully
        by_cases careful : Careful (disk, ⟨partialPath, filename, temp, phase⟩) failure
        · have stands : ∃ later, after = ⟨partialPath, filename, temp, later⟩ ∧
              Standing before partialPath temp (before.contents inode) inode next later := by
            cases failure with
            | none => exact standing.step stored unused stepped
            | some error => exact standing.fail cleans careful stepped
          obtain ⟨later, rfl, still⟩ := stands
          exact ⟨next, later, rfl, .inl ⟨.snoc whole ⟨cleans, careful⟩ stepped, still⟩⟩
        · obtain ⟨later, rfl, littered⟩ := standing.litter unused cleans careful stepped
          refine ⟨next, later, rfl, .inr ⟨fun all => ?_, littered⟩⟩
          obtain ⟨middle, first, last⟩ := all.append_inv
          cases first.deterministic whole
          obtain ⟨_, admitted, _, _⟩ := last.cons_inv
          exact careful admitted.2
      · obtain ⟨later, rfl, still⟩ := littered.step stored stepped
        refine ⟨next, later, rfl, .inr ⟨fun all => ?_, still⟩⟩
        obtain ⟨middle, first, _⟩ := all.append_inv
        cases first.deterministic earlier
        exact carelessly first

end Call

/-- Whatever calls raise an `OSError`, a commit that is over has left all or nothing
exactly when no call has failed that leaves a name behind; and it is over at some
time where no dangling link is in the way. -/
theorem commit_all_or_nothing {platform : Platform} {disk : Disk FilePath} {partialPath : FilePath}
    {filename temp : PyStr} {inode : Nat}
    (accepted : sanitizeFilename platform filename = .ok filename)
    (stored : disk.nodes.get partialPath = some (.file inode))
    (unused : TempUnused disk filename temp) :
    (∀ labels final finish outcome,
      Run commitCallStep Cleans (disk, CommitCall.start platform partialPath filename temp) labels
        (final, finish) → finish.phase = .finished outcome →
      (AllOrNothing disk final partialPath (disk.contents inode) outcome ↔
        Run commitCallStep (fun state failure => Cleans state failure ∧ Careful state failure)
          (disk, CommitCall.start platform partialPath filename temp) labels (final, finish))) ∧
    (EndsHere disk partialPath filename → ∃ bound, ∀ labels finish,
      Run commitCallStep Cleans (disk, CommitCall.start platform partialPath filename temp) labels
        finish → labels.length ≤ bound) := by
  have begins : CommitCall.start platform partialPath filename temp =
      ⟨partialPath, filename, temp, .probe false 0⟩ := by
    simp [CommitCall.start, accepted]
  rw [begins]
  constructor
  · intro labels final finish outcome run finished
    obtain ⟨_, phase, same, cases⟩ := stands_or_litters stored unused run
    cases same
    cases finished
    rcases cases with ⟨carefully, standing⟩ | ⟨carelessly, littered⟩
    · cases standing with
      | finished result => exact iff_of_true result carefully
    · exact iff_of_false (littered.spoiled stored) carelessly
  · intro ends
    obtain ⟨first, free⟩ := exists_firstFree disk filename
    obtain ⟨bound, within⟩ := @ends_probe disk partialPath filename temp ends unused first 0 free
      (Nat.zero_le first)
    refine ⟨bound, fun labels finish run => within labels finish ?_⟩
    exact run.weaken fun _ _ _ => trivial

/-! ### A partial that cannot be removed -/

/-- The guard of both kinds, decided for a call that has not committed yet. -/
def cleansAt (state : Disk FilePath × CommitCall) (failure : Option Raised) : Bool :=
  match failure, state.2.phase with
  | none, _ => true
  | some error, .unlinkLinked _ => error.kind.isOSError
  | some _, _ => false

theorem cleans_of_cleansAt {state : Disk FilePath × CommitCall} {failure : Option Raised}
    (checked : cleansAt state failure = true) : Cleans state failure := by
  intro error failed
  subst failed
  obtain ⟨disk, partialPath, filename, temp, phase⟩ := state
  cases phase with
  | unlinkLinked name => exact ⟨checked, trivial⟩
  | _ => cases checked

def noteStart : Disk FilePath × CommitCall :=
  (noteDisk, CommitCall.start asciiPlatform notePart (py "note.txt") (py ".tmp-commit-0"))

def returned (name : String) (state : Disk FilePath × CommitCall) : Bool :=
  match state.2.phase with
  | .finished (.ok result) => result = py name
  | _ => false

theorem returned_phase {name : String} {state : Disk FilePath × CommitCall}
    (checked : returned name state = true) : state.2.phase = .finished (.ok (py name)) := by
  unfold returned at checked
  split at checked
  · next result finished =>
      rw [finished, of_decide_eq_true checked]
  · cases checked

theorem note_committed : ∃ (final : Disk FilePath) (finish : CommitCall),
    finish.phase = .finished (.ok (py "note.txt")) ∧
    AllOrNothing noteDisk final notePart [1, 2, 3] (.ok (py "note.txt")) := by
  have shape : (runLabels commitCallStep noteStart [none, none, none]).any (returned "note.txt") =
      true := by decide
  obtain ⟨⟨final, finish⟩, executed, checked⟩ := (Option.any_eq_true _ _).mp shape
  have carefully : Run commitCallStep (fun state failure => Cleans state failure ∧
      Careful state failure) noteStart [none, none, none] (final, finish) := by
    apply run_of_admitted _ executed
    intro label member state
    have succeeds : label = none := by simpa using member
    subst succeeds
    exact ⟨fun error failed => (nomatch failed), fun failed => absurd rfl failed⟩
  have finished := returned_phase checked
  have stored : noteDisk.nodes.get notePart = some (.file 0) := by decide
  have outcome := ((commit_all_or_nothing (by decide) stored noteDisk_unused).1 _ final finish _
    (carefully.weaken fun _ _ both => both.1) finished).mpr carefully
  exact ⟨final, finish, finished, outcome⟩

/-- When the partial cannot be removed after it has been linked, the handler of the
link takes that for a failing link, and commits a second copy under the next name. -/
theorem kept_partial_commits_twice :
    ¬ ∀ (platform : Platform) (disk : Disk FilePath) (partialPath : FilePath) (filename temp : PyStr)
      (inode : Nat), sanitizeFilename platform filename = .ok filename →
      disk.nodes.get partialPath = some (.file inode) → TempUnused disk filename temp →
      ∀ labels final finish outcome,
        Run commitCallStep Cleans (disk, CommitCall.start platform partialPath filename temp) labels
          (final, finish) → finish.phase = .finished outcome →
        AllOrNothing disk final partialPath (disk.contents inode) outcome := by
  intro always
  let labels : List (Option Raised) :=
    [none, none, some (raised .osError "Permission denied")] ++ List.replicate 12 none
  have shape : (runLabels (fun state failure => if cleansAt state failure then
      commitCallStep state failure else none) noteStart labels).any (fun state =>
        returned "note (1).txt" state && (state.1.nodes.get (received (py "note.txt"))).isSome) =
      true := by decide
  obtain ⟨⟨final, finish⟩, executed, checked⟩ := (Option.any_eq_true _ _).mp shape
  simp only [Bool.and_eq_true] at checked
  have run : Run commitCallStep Cleans noteStart labels (final, finish) :=
    run_of_checked (fun _ _ checked => cleans_of_cleansAt checked) executed
  have stored : noteDisk.nodes.get notePart = some (.file 0) := by decide
  have outcome := always asciiPlatform noteDisk notePart (py "note.txt") (py ".tmp-commit-0") 0
    (by decide) stored noteDisk_unused labels final finish _ run (returned_phase checked.1)
  have kept := outcome.others (received (py "note.txt")) (by decide) (by decide)
  rw [noteDisk_received] at kept
  rw [kept] at checked
  cases checked.2

end DirectTransfer
