import DirectTransfer.Core.Commit
import DirectTransfer.Core.ProtocolProperties
import DirectTransfer.Library.Transition

/-! Commits do not disturb one another or the files around them: each call
claims a few names, the claims of different calls stay disjoint, and a step
changes nothing but what its call claims. -/

set_option autoImplicit false

namespace DirectTransfer

open Library

/-- A name of a file with the given octets. -/
def Stores (disk : Disk FilePath) (path : FilePath) (data : Bytes) : Prop :=
  ∃ inode, disk.nodes.get path = some (.file inode) ∧ disk.contents inode = data

theorem Stores.frame {touched : FilePath → Prop} {disk next : Disk FilePath} {path : FilePath}
    {data : Bytes} (stores : Stores disk path data) (frame : Disk.Frame touched disk next)
    (untouched : ¬touched path) : Stores next path data := by
  obtain ⟨inode, node, content⟩ := stores
  exact ⟨inode, (frame.nodes path untouched).trans node,
    (frame.contents path inode untouched node).trans content⟩

namespace CommitCall

/-- What a call is given. -/
def request (call : CommitCall) : FilePath × PyStr × PyStr :=
  (call.partialPath, call.filename, call.temp)

/-- The names a call may still remove: its partial, its temporary file and its reservation. -/
def scratch (call : CommitCall) : List FilePath :=
  match call.phase with
  | .probe false _ | .link _ | .unlinkLinked _ | .openPartial | .openTemp _ | .unlinkCopied _ =>
      [call.partialPath]
  | .copy _ _ | .sync | .probe true _ | .reserve _ => [call.partialPath, received call.temp]
  | .fstat name _ | .stat name _ | .replace name _ | .restat name _ _ | .unlinkReservation name _ =>
      [call.partialPath, received call.temp, received name]
  | .tempExists _ | .unlinkTemp _ | .finished _ => []

/-- The name a call has given to its file. -/
def committed (call : CommitCall) : Option PyStr :=
  match call.phase with
  | .unlinkLinked name | .unlinkCopied name | .tempExists (.ok name) | .unlinkTemp (.ok name)
  | .finished (.ok name) => some name
  | _ => none

def claims (call : CommitCall) : List FilePath :=
  call.scratch ++ (call.committed.map received).toList

/-- The temporary file has no other name. -/
def TempHolds (disk : Disk FilePath) (temp : PyStr) (target : Nat) : Prop :=
  disk.nodes.get (received temp) = some (.file target) ∧
    ∀ path, disk.nodes.get path = some (.file target) → path = received temp

/-- The copy of the partial is complete. -/
def Copied (disk : Disk FilePath) (data : Bytes) (temp : PyStr) : Prop :=
  ∃ target, TempHolds disk temp target ∧ disk.contents target = data

/-- What a call that meets no failure but a failing link relies on at each phase. -/
def Sound (disk : Disk FilePath) (data : Bytes) (call : CommitCall) : Prop :=
  match call.phase with
  | .probe false _ | .openPartial =>
      Stores disk call.partialPath data ∧ disk.nodes.get (received call.temp) = none
  | .link name =>
      Stores disk call.partialPath data ∧ disk.nodes.get (received call.temp) = none ∧
        ∃ index, name = candidateName call.filename index
  | .openTemp source =>
      disk.nodes.get call.partialPath = some (.file source) ∧ disk.contents source = data ∧
        disk.nodes.get (received call.temp) = none
  | .copy source target =>
      disk.nodes.get call.partialPath = some (.file source) ∧ disk.contents source = data ∧
        TempHolds disk call.temp target
  | .sync | .probe true _ => Stores disk call.partialPath data ∧ Copied disk data call.temp
  | .reserve name =>
      Stores disk call.partialPath data ∧ Copied disk data call.temp ∧
        ∃ index, name = candidateName call.filename index
  | .fstat name reservation | .stat name reservation | .replace name reservation =>
      Stores disk call.partialPath data ∧ Copied disk data call.temp ∧
        disk.nodes.get (received name) = some (.file reservation) ∧
        received name ≠ call.partialPath ∧ received name ≠ received call.temp
  | .unlinkLinked name | .unlinkCopied name =>
      Stores disk call.partialPath data ∧ disk.nodes.get (received call.temp) = none ∧
        Stores disk (received name) data ∧ received name ≠ call.partialPath
  | .tempExists (.ok name) | .finished (.ok name) =>
      disk.nodes.get (received call.temp) = none ∧ Stores disk (received name) data
  | _ => False

/-- What one step of a sound call does. -/
structure Advances (disk next : Disk FilePath) (data : Bytes) (call after : CommitCall) : Prop where
  sound : Sound next data after
  request : after.request = call.request
  frame : Disk.Frame (fun path => path ∈ call.scratch ∨
    path ∈ after.claims ∧ disk.nodes.get path = none) disk next
  scratch : ∀ path ∈ after.scratch, path ∈ call.scratch ∨ disk.nodes.get path = none
  claims : ∀ path ∈ after.claims, path ∈ call.claims ∨ disk.nodes.get path = none ∧
    (path = received call.temp ∨ ∃ index, path = received (candidateName call.filename index))

/-! ## One step of one call -/

section Step

variable {disk next : Disk FilePath} {data : Bytes} {call after : CommitCall}
  {partialPath : FilePath} {filename temp name : PyStr}

theorem advances_still {phase : CommitPhase} (sound : Sound disk data (call.moveTo phase))
    (scratch : (call.moveTo phase).scratch ⊆ call.scratch)
    (committed : (call.moveTo phase).committed = call.committed) :
    Advances disk disk data call (call.moveTo phase) where
  sound := sound
  request := rfl
  frame := .refl
  scratch path member := .inl (scratch member)
  claims path member := by
    refine .inl ?_
    unfold CommitCall.claims at member ⊢
    rw [committed] at member
    rcases List.mem_append.mp member with kept | named
    · exact List.mem_append_left _ (scratch kept)
    · exact List.mem_append_right _ named

theorem advances_link
    (sound : Sound disk data ⟨partialPath, filename, temp, .link name⟩)
    (unnamed : ∀ index, candidateName filename index ≠ temp)
    (linked : disk.link partialPath (received name) = .ok next) :
    Advances disk next data ⟨partialPath, filename, temp, .link name⟩
      ⟨partialPath, filename, temp, .unlinkLinked name⟩ := by
  simp only [Sound] at sound
  obtain ⟨⟨inode, node, content⟩, free, index, rfl⟩ := sound
  obtain ⟨absent, other, found, nodes, contents, _⟩ := Disk.link_ok linked
  cases (Disk.inode?_of_node node).symm.trans found
  have apart : received (candidateName filename index) ≠ partialPath := by
    rintro rfl
    cases absent.symm.trans node
  constructor
  · refine ⟨⟨inode, ?_, by rw [contents, content]⟩, ?_, ⟨inode, ?_, by rw [contents, content]⟩, apart⟩
    · rw [nodes, Dict.get_set, if_neg (Ne.symm apart), node]
    · have different : received temp ≠ received (candidateName filename index) := by
        simpa [received] using Ne.symm (unnamed index)
      rw [nodes, Dict.get_set, if_neg different, free]
    · rw [nodes, Dict.get_set, if_pos rfl]
  · rfl
  · refine (Disk.frame_link linked node).widen ?_
    rintro path (rfl | rfl)
    · exact .inl (by simp [scratch])
    · exact .inr ⟨by simp [claims, scratch, committed], absent⟩
  · intro path member
    exact .inl member
  · intro path member
    simp only [claims, scratch, committed, Option.map_some, Option.toList_some,
      List.singleton_append, List.mem_cons, List.not_mem_nil, or_false] at member
    rcases member with rfl | rfl
    · exact .inl (by simp [claims, scratch])
    · exact .inr ⟨absent, .inr ⟨index, rfl⟩⟩

theorem advances_openTemp {source : Nat}
    (sound : Sound disk data ⟨partialPath, filename, temp, .openTemp source⟩) :
    Advances disk (disk.create (received temp) []) data
      ⟨partialPath, filename, temp, .openTemp source⟩
      ⟨partialPath, filename, temp, .copy source disk.fresh⟩ := by
  obtain ⟨node, content, free⟩ := sound
  have apart : partialPath ≠ received temp := by
    rintro rfl
    cases free.symm.trans node
  have created := Disk.frame_create disk (received temp) []
  constructor
  · refine ⟨(created.nodes _ apart).trans node, (created.contents _ _ apart node).trans content,
      ?_, ?_⟩
    · rw [Disk.nodes_create, Dict.get_set, if_pos rfl]
    · intro path found
      by_contra different
      rw [created.nodes path different] at found
      exact absurd (disk.bounded path _ found) (Nat.lt_irrefl _)
  · rfl
  · refine created.widen ?_
    rintro path rfl
    exact .inr ⟨by simp [claims, scratch], free⟩
  · intro path member
    simp only [scratch, List.mem_cons, List.not_mem_nil, or_false] at member ⊢
    rcases member with rfl | rfl
    · exact .inl rfl
    · exact .inr free
  · intro path member
    simp only [claims, scratch, committed, Option.map_none, Option.toList_none, List.append_nil,
      List.mem_cons, List.not_mem_nil, or_false] at member ⊢
    rcases member with rfl | rfl
    · exact .inl rfl
    · exact .inr ⟨free, .inl rfl⟩

theorem advances_copy {source target : Nat} (apart : partialPath ≠ received temp)
    (sound : Sound disk data ⟨partialPath, filename, temp, .copy source target⟩) :
    Advances disk (disk.write target (disk.contents source)) data
      ⟨partialPath, filename, temp, .copy source target⟩
      ⟨partialPath, filename, temp, .sync⟩ := by
  obtain ⟨node, content, held, only⟩ := sound
  have written := Disk.frame_write only (disk.contents source)
  constructor
  · refine ⟨⟨source, node, (written.contents _ _ apart node).trans content⟩,
      target, ⟨held, only⟩, ?_⟩
    rw [Disk.contents_write, if_pos rfl, content]
  · rfl
  · refine written.widen ?_
    rintro path rfl
    exact .inl (by simp [scratch])
  · intro path member
    exact .inl member
  · intro path member
    exact .inl member

theorem advances_reserve
    (sound : Sound disk data ⟨partialPath, filename, temp, .reserve name⟩)
    (created : disk.createNew (received name) [] = .ok next) :
    Advances disk next data ⟨partialPath, filename, temp, .reserve name⟩
      ⟨partialPath, filename, temp, .fstat name disk.fresh⟩ := by
  simp only [Sound] at sound
  obtain ⟨⟨source, node, content⟩, ⟨target, ⟨held, only⟩, copied⟩, index, rfl⟩ := sound
  obtain ⟨absent, rfl⟩ := Disk.createNew_ok created
  have frame := Disk.frame_create disk (received (candidateName filename index)) []
  have partialApart : received (candidateName filename index) ≠ partialPath := by
    rintro rfl
    cases absent.symm.trans node
  have tempApart : received (candidateName filename index) ≠ received temp := by
    intro same
    rw [same] at absent
    cases absent.symm.trans held
  constructor
  · refine ⟨Stores.frame ⟨source, node, content⟩ frame (Ne.symm partialApart),
      ⟨target, ⟨(frame.nodes _ (Ne.symm tempApart)).trans held, ?_⟩,
        (frame.contents _ _ (Ne.symm tempApart) held).trans copied⟩, ?_, partialApart, tempApart⟩
    · intro path found
      rcases frame.origins path target found (disk.bounded _ _ held) with same | ⟨origin, rfl, same⟩
      · exact only path same
      · cases absent.symm.trans same
    · rw [Disk.nodes_create, Dict.get_set, if_pos rfl]
  · rfl
  · refine frame.widen ?_
    rintro path rfl
    exact .inr ⟨by simp [claims, scratch], absent⟩
  · intro path member
    simp only [scratch, List.mem_cons, List.not_mem_nil, or_false] at member ⊢
    rcases member with rfl | rfl | rfl
    · exact .inl (.inl rfl)
    · exact .inl (.inr rfl)
    · exact .inr absent
  · intro path member
    simp only [claims, scratch, committed, Option.map_none, Option.toList_none, List.append_nil,
      List.mem_cons, List.not_mem_nil, or_false] at member ⊢
    rcases member with rfl | rfl | rfl
    · exact .inl (.inl rfl)
    · exact .inl (.inr rfl)
    · exact .inr ⟨absent, .inr ⟨index, rfl⟩⟩

theorem advances_replace {reservation : Nat} (apart : partialPath ≠ received temp)
    (sound : Sound disk data ⟨partialPath, filename, temp, .replace name reservation⟩)
    (replaced : disk.replace (received temp) (received name) = .ok next) :
    Advances disk next data ⟨partialPath, filename, temp, .replace name reservation⟩
      ⟨partialPath, filename, temp, .unlinkCopied name⟩ := by
  obtain ⟨stores, ⟨target, ⟨held, only⟩, copied⟩, reserved, partialApart, tempApart⟩ := sound
  obtain ⟨node, found, nodes, contents, _⟩ := Disk.replace_ok replaced
  cases held.symm.trans found
  have frame := Disk.frame_replace replaced
  constructor
  · refine ⟨stores.frame frame ?_, ?_, ⟨target, ?_, by rw [contents, copied]⟩, partialApart⟩
    · rintro (same | same)
      · exact apart same
      · exact partialApart same.symm
    · rw [nodes, Dict.get_erase, if_pos rfl]
    · rw [nodes, Dict.get_erase, if_neg tempApart, Dict.get_set, if_pos rfl]
  · rfl
  · refine frame.widen ?_
    rintro path (rfl | rfl)
    · exact .inl (by simp [scratch])
    · exact .inl (by simp [scratch])
  · intro path member
    simp only [scratch, List.mem_cons, List.not_mem_nil, or_false] at member ⊢
    exact .inl (.inl member)
  · intro path member
    simp only [claims, scratch, committed, Option.map_some, Option.toList_some,
      List.singleton_append, Option.map_none, Option.toList_none, List.append_nil, List.mem_cons,
      List.not_mem_nil, or_false] at member ⊢
    rcases member with rfl | rfl
    · exact .inl (.inl rfl)
    · exact .inl (.inr (.inr rfl))

/-- Removing the partial leaves the committed file. -/
theorem advances_unlink {before after : CommitPhase}
    (stores : Stores disk partialPath data) (free : disk.nodes.get (received temp) = none)
    (stored : Stores disk (received name) data) (apart : received name ≠ partialPath)
    (scratchBefore : scratch ⟨partialPath, filename, temp, before⟩ = [partialPath])
    (scratchAfter : scratch ⟨partialPath, filename, temp, after⟩ = [])
    (committed : CommitCall.committed ⟨partialPath, filename, temp, after⟩ =
      CommitCall.committed ⟨partialPath, filename, temp, before⟩)
    (sound : ∀ next, next.nodes.get (received temp) = none → Stores next (received name) data →
      Sound next data ⟨partialPath, filename, temp, after⟩) :
    Advances disk (disk.unlink partialPath) data ⟨partialPath, filename, temp, before⟩
      ⟨partialPath, filename, temp, after⟩ := by
  have frame := Disk.frame_unlink disk partialPath
  constructor
  · obtain ⟨inode, node, _⟩ := stores
    refine sound _ ?_ (stored.frame frame apart)
    rw [frame.nodes _ ?_, free]
    rintro rfl
    cases free.symm.trans node
  · rfl
  · refine frame.widen ?_
    rintro path rfl
    exact .inl (by simp [scratchBefore])
  · intro path member
    rw [scratchAfter] at member
    cases member
  · intro path member
    unfold CommitCall.claims at member ⊢
    rw [scratchAfter, committed] at member
    exact .inl (List.mem_append_right _ member)

/-- A step that raises nothing of its own keeps a sound call sound and within its claims. -/
theorem step_none_advances (apart : call.partialPath ≠ received call.temp)
    (unnamed : ∀ index, candidateName call.filename index ≠ call.temp)
    (sound : Sound disk data call) (stepped : call.step disk none = some (next, after)) :
    Advances disk next data call after := by
  obtain ⟨partialPath, filename, temp, phase⟩ := call
  cases phase with
  | probe fallback index =>
      cases fallback with
      | false =>
          simp only [step] at stepped
          split at stepped
          · cases stepped
            exact advances_still sound (List.Subset.refl _) rfl
          · cases stepped
            exact advances_still ⟨sound.1, sound.2, index, rfl⟩ (List.Subset.refl _) rfl
      | true =>
          simp only [step] at stepped
          split at stepped
          · cases stepped
            exact advances_still sound (List.Subset.refl _) rfl
          · cases stepped
            exact advances_still ⟨sound.1, sound.2, index, rfl⟩ (List.Subset.refl _) rfl
  | link name =>
      simp only [step] at stepped
      split at stepped
      · next linked linkedOk =>
          cases stepped
          exact advances_link sound unnamed linkedOk
      · cases stepped
        exact advances_still ⟨sound.1, sound.2.1⟩ (List.Subset.refl _) rfl
      · cases stepped
        exact advances_still ⟨sound.1, sound.2.1⟩ (List.Subset.refl _) rfl
  | openPartial =>
      obtain ⟨⟨inode, node, content⟩, free⟩ := sound
      simp only [step, Disk.inode?_of_node node] at stepped
      cases stepped
      exact advances_still ⟨node, content, free⟩ (List.Subset.refl _) rfl
  | openTemp source =>
      have free : disk.nodes.get (received temp) = none := sound.2.2
      simp only [step, Disk.inode?_of_free free] at stepped
      cases stepped
      exact advances_openTemp sound
  | copy source target =>
      cases stepped
      exact advances_copy apart sound
  | sync =>
      cases stepped
      exact advances_still sound (List.Subset.refl _) rfl
  | reserve name =>
      simp only [step] at stepped
      split at stepped
      · next created createdOk =>
          cases stepped
          exact advances_reserve sound createdOk
      · cases stepped
        exact advances_still ⟨sound.1, sound.2.1⟩ (List.Subset.refl _) rfl
  | fstat name reservation =>
      cases stepped
      exact advances_still sound (List.Subset.refl _) rfl
  | stat name reservation =>
      have reserved : disk.nodes.get (received name) = some (.file reservation) := sound.2.2.1
      simp only [step, Disk.inode?_of_node reserved, ↓reduceIte] at stepped
      cases stepped
      exact advances_still sound (List.Subset.refl _) rfl
  | replace name reservation =>
      simp only [step] at stepped
      split at stepped
      · next replaced replacedOk =>
          cases stepped
          exact advances_replace apart sound replacedOk
      · next error replacedError =>
          obtain ⟨target, ⟨held, _⟩, _⟩ := sound.2.1
          exact absurd replacedError (Disk.replace_of_node held)
  | unlinkLinked name | unlinkCopied name =>
      cases stepped
      obtain ⟨stores, free, stored, different⟩ := sound
      exact advances_unlink stores free stored different rfl rfl rfl fun _ free stored =>
        ⟨free, stored⟩
  | tempExists outcome =>
      cases outcome with
      | error error => exact sound.elim
      | ok name =>
          have free : disk.nodes.get (received temp) = none := sound.1
          simp only [step, Disk.holds_of_free free] at stepped
          cases stepped
          exact advances_still sound (List.Subset.refl _) rfl
  | restat name reservation error => exact sound.elim
  | unlinkReservation name error => exact sound.elim
  | unlinkTemp outcome => exact sound.elim
  | finished outcome => cases stepped

/-- Links may fail, and everything else succeeds. -/
def Orderly (call : CommitCall) (failure : Option Raised) : Prop :=
  ∀ error, failure = some error → error.kind.isOSError = true ∧ ∃ name, call.phase = .link name

theorem step_advances (apart : call.partialPath ≠ received call.temp)
    (unnamed : ∀ index, candidateName call.filename index ≠ call.temp)
    (sound : Sound disk data call) {failure : Option Raised} (orderly : Orderly call failure)
    (stepped : call.step disk failure = some (next, after)) : Advances disk next data call after := by
  cases failure with
  | none => exact step_none_advances apart unnamed sound stepped
  | some error =>
      obtain ⟨operating, name, standing⟩ := orderly error rfl
      obtain ⟨partialPath, filename, temp, phase⟩ := call
      cases standing
      simp only [step, operating, ↓reduceIte] at stepped
      cases stepped
      exact advances_still ⟨sound.1, sound.2.1⟩ (List.Subset.refl _) rfl

end Step

/-! ## One call while others step -/

section Others

variable {disk next : Disk FilePath} {data : Bytes} {call : CommitCall} {temp : PyStr}
  {touched : FilePath → Prop}

theorem TempHolds.frame {target : Nat} (holds : TempHolds disk temp target)
    (frame : Disk.Frame touched disk next) (untouched : ¬touched (received temp)) :
    TempHolds next temp target := by
  obtain ⟨held, only⟩ := holds
  refine ⟨(frame.nodes _ untouched).trans held, fun path found => ?_⟩
  rcases frame.origins path target found (disk.bounded _ _ held) with same | ⟨origin, was, node⟩
  · exact only path same
  · cases only origin node
    exact absurd was untouched

theorem Copied.frame (copied : Copied disk data temp) (frame : Disk.Frame touched disk next)
    (untouched : ¬touched (received temp)) : Copied next data temp := by
  obtain ⟨target, holds, content⟩ := copied
  exact ⟨target, holds.frame frame untouched,
    (frame.contents _ _ untouched holds.1).trans content⟩

/-- A step that touches nothing a call claims keeps the call sound. -/
theorem Sound.frame (sound : Sound disk data call) (frame : Disk.Frame touched disk next)
    (untouched : ∀ path ∈ call.claims, ¬touched path)
    (tempUntouched : ¬touched (received call.temp)) : Sound next data call := by
  obtain ⟨partialPath, filename, temp, phase⟩ := call
  have free (was : disk.nodes.get (received temp) = none) :
      next.nodes.get (received temp) = none := (frame.nodes _ tempUntouched).trans was
  have own (member : partialPath ∈ scratch ⟨partialPath, filename, temp, phase⟩) :
      ¬touched partialPath := untouched partialPath (List.mem_append_left _ member)
  cases phase with
  | probe fallback index =>
      cases fallback with
      | false => exact ⟨sound.1.frame frame (own (by simp [scratch])), free sound.2⟩
      | true =>
          exact ⟨sound.1.frame frame (own (by simp [scratch])), sound.2.frame frame tempUntouched⟩
  | link name =>
      obtain ⟨stores, absent, named⟩ := sound
      exact ⟨stores.frame frame (own (by simp [scratch])), free absent, named⟩
  | openPartial => exact ⟨sound.1.frame frame (own (by simp [scratch])), free sound.2⟩
  | openTemp source =>
      obtain ⟨node, content, absent⟩ := sound
      have kept := own (by simp [scratch])
      exact ⟨(frame.nodes _ kept).trans node, (frame.contents _ _ kept node).trans content,
        free absent⟩
  | copy source target =>
      obtain ⟨node, content, holds⟩ := sound
      have kept := own (by simp [scratch])
      exact ⟨(frame.nodes _ kept).trans node, (frame.contents _ _ kept node).trans content,
        holds.frame frame tempUntouched⟩
  | sync =>
      exact ⟨sound.1.frame frame (own (by simp [scratch])), sound.2.frame frame tempUntouched⟩
  | reserve name =>
      obtain ⟨stores, copied, named⟩ := sound
      exact ⟨stores.frame frame (own (by simp [scratch])), copied.frame frame tempUntouched, named⟩
  | fstat name reservation | stat name reservation | replace name reservation =>
      obtain ⟨stores, copied, reserved, apart⟩ := sound
      have kept : ¬touched (received name) := untouched _ (by simp [CommitCall.claims, scratch])
      exact ⟨stores.frame frame (own (by simp [scratch])), copied.frame frame tempUntouched,
        (frame.nodes _ kept).trans reserved, apart⟩
  | unlinkLinked name | unlinkCopied name =>
      obtain ⟨stores, absent, stored, apart⟩ := sound
      have kept : ¬touched (received name) :=
        untouched _ (by simp [CommitCall.claims, scratch, committed])
      exact ⟨stores.frame frame (own (by simp [scratch])), free absent, stored.frame frame kept,
        apart⟩
  | tempExists outcome | finished outcome =>
      cases outcome with
      | error error => exact sound.elim
      | ok name =>
          have kept : ¬touched (received name) :=
            untouched _ (by simp [CommitCall.claims, scratch, committed])
          exact ⟨free sound.1, sound.2.frame frame kept⟩
  | restat name reservation error => exact sound.elim
  | unlinkReservation name error => exact sound.elim
  | unlinkTemp outcome => exact sound.elim

/-- Whatever a call claims is on the disk. -/
theorem Sound.present (sound : Sound disk data call) {path : FilePath} (claimed : path ∈ call.claims) :
    disk.nodes.get path ≠ none := by
  obtain ⟨partialPath, filename, temp, phase⟩ := call
  have stored {path : FilePath} (stores : Stores disk path data) : disk.nodes.get path ≠ none := by
    obtain ⟨inode, node, _⟩ := stores
    simp [node]
  have held (copied : Copied disk data temp) : disk.nodes.get (received temp) ≠ none := by
    obtain ⟨target, ⟨node, _⟩, _⟩ := copied
    simp [node]
  cases phase with
  | probe fallback index =>
      cases fallback with
      | false =>
          obtain rfl : path = partialPath := by simpa [CommitCall.claims, scratch, committed] using claimed
          exact stored sound.1
      | true =>
          obtain rfl | rfl : path = partialPath ∨ path = received temp := by
            simpa [CommitCall.claims, scratch, committed] using claimed
          · exact stored sound.1
          · exact held sound.2
  | link name | openPartial =>
      obtain rfl : path = partialPath := by simpa [CommitCall.claims, scratch, committed] using claimed
      exact stored sound.1
  | openTemp source =>
      obtain rfl : path = partialPath := by simpa [CommitCall.claims, scratch, committed] using claimed
      exact stored ⟨source, sound.1, sound.2.1⟩
  | copy source target =>
      obtain rfl | rfl : path = partialPath ∨ path = received temp := by
        simpa [CommitCall.claims, scratch, committed] using claimed
      · exact stored ⟨source, sound.1, sound.2.1⟩
      · simp [sound.2.2.1]
  | sync =>
      obtain rfl | rfl : path = partialPath ∨ path = received temp := by
        simpa [CommitCall.claims, scratch, committed] using claimed
      · exact stored sound.1
      · exact held sound.2
  | reserve name =>
      obtain rfl | rfl : path = partialPath ∨ path = received temp := by
        simpa [CommitCall.claims, scratch, committed] using claimed
      · exact stored sound.1
      · exact held sound.2.1
  | fstat name reservation | stat name reservation | replace name reservation =>
      obtain rfl | rfl | rfl : path = partialPath ∨ path = received temp ∨ path = received name := by
        simpa [CommitCall.claims, scratch, committed] using claimed
      · exact stored sound.1
      · exact held sound.2.1
      · simp [sound.2.2.1]
  | unlinkLinked name | unlinkCopied name =>
      obtain rfl | rfl : path = partialPath ∨ path = received name := by
        simpa [CommitCall.claims, scratch, committed] using claimed
      · exact stored sound.1
      · exact stored sound.2.2.1
  | tempExists outcome | finished outcome =>
      cases outcome with
      | error error => exact sound.elim
      | ok name =>
          obtain rfl : path = received name := by
            simpa [CommitCall.claims, scratch, committed] using claimed
          exact stored sound.2
  | restat name reservation error => exact sound.elim
  | unlinkReservation name error => exact sound.elim
  | unlinkTemp outcome => exact sound.elim

/-- A temporary file on the disk is its call's. -/
theorem Sound.temp_claimed (sound : Sound disk data call)
    (there : disk.nodes.get (received call.temp) ≠ none) : received call.temp ∈ call.claims := by
  obtain ⟨partialPath, filename, temp, phase⟩ := call
  cases phase with
  | probe fallback index =>
      cases fallback with
      | false => exact absurd sound.2 there
      | true => simp [CommitCall.claims, scratch]
  | link name => exact absurd sound.2.1 there
  | openPartial => exact absurd sound.2 there
  | openTemp source => exact absurd sound.2.2 there
  | unlinkLinked name | unlinkCopied name => exact absurd sound.2.1 there
  | tempExists outcome | finished outcome =>
      cases outcome with
      | error error => exact sound.elim
      | ok name => exact absurd sound.1 there
  | unlinkTemp outcome => exact sound.elim
  | copy | sync | reserve | fstat | stat | replace | restat | unlinkReservation =>
      simp [CommitCall.claims, scratch]

/-- A committed name holds the octets of the call's partial. -/
theorem Sound.stored {name : PyStr} (sound : Sound disk data call)
    (named : call.committed = some name) : Stores disk (received name) data := by
  obtain ⟨partialPath, filename, temp, phase⟩ := call
  cases phase with
  | unlinkLinked other | unlinkCopied other => cases named; exact sound.2.2.1
  | tempExists outcome | finished outcome =>
      cases outcome with
      | error error => cases named
      | ok other => cases named; exact sound.2
  | unlinkTemp outcome => exact sound.elim
  | _ => cases named

/-- A call no longer removes the name it has committed. -/
theorem Sound.committed_kept {name : PyStr} (sound : Sound disk data call)
    (named : call.committed = some name) : received name ∉ call.scratch := by
  obtain ⟨partialPath, filename, temp, phase⟩ := call
  cases phase with
  | unlinkLinked other | unlinkCopied other =>
      cases named
      obtain ⟨_, _, _, apart⟩ := sound
      simpa [scratch] using apart
  | tempExists outcome | unlinkTemp outcome | finished outcome => simp [scratch]
  | _ => cases named

/-- A call that is over has committed its file. -/
theorem Sound.finished_ok {outcome : Except Raised PyStr} (sound : Sound disk data call)
    (halted : call.phase = .finished outcome) : ∃ name, outcome = .ok name := by
  obtain ⟨partialPath, filename, temp, phase⟩ := call
  cases halted
  cases outcome with
  | error error => exact sound.elim
  | ok name => exact ⟨name, rfl⟩

end Others

end CommitCall

/-! ## All calls -/

/-- Calls about to begin: accepted names, distinct partial files, fresh temporary names. -/
structure Ready (platform : Platform) (state : Commits) : Prop where
  begun : ∀ call ∈ state.calls, call = .start platform call.partialPath call.filename call.temp
  accepted : ∀ call ∈ state.calls, ∃ name, sanitizeFilename platform call.filename = .ok name
  files : ∀ call ∈ state.calls, ∃ inode, state.disk.nodes.get call.partialPath = some (.file inode)
  partials : (state.calls.map CommitCall.partialPath).Nodup
  temps : (state.calls.map CommitCall.temp).Nodup
  unused : ∀ call ∈ state.calls, state.disk.nodes.get (received call.temp) = none
  unnamed : ∀ call ∈ state.calls, ∀ other ∈ state.calls, ∀ index,
    candidateName other.filename index ≠ call.temp

/-- Nothing but links may fail, and no other program takes a temporary name. -/
def orderly (state : Commits) : CommitLabel → Prop
  | .call index failure => ∀ call, state.calls[index]? = some call → call.Orderly failure
  | .create path _ => ∀ call ∈ state.calls, path ≠ received call.temp

/-- What every orderly run from `start` keeps. -/
structure CommitsSound (start state : Commits) : Prop where
  requests : state.calls.map CommitCall.request = start.calls.map CommitCall.request
  sound : ∀ call ∈ state.calls, ∃ data, Stores start.disk call.partialPath data ∧
    call.Sound state.disk data
  disjoint : ∀ (i j : Nat) (left right : CommitCall), i ≠ j → state.calls[i]? = some left →
    state.calls[j]? = some right → ∀ path ∈ left.claims, path ∉ right.claims

section Runs

variable {platform : Platform} {start state next : Commits} {label : CommitLabel}

theorem index_unique {α β : Type} {key : α → β} {items : List α} (unique : (items.map key).Nodup)
    {i j : Nat} {left right : α} (leftFound : items[i]? = some left)
    (rightFound : items[j]? = some right) (same : key left = key right) : i = j := by
  have bound : i < (items.map key).length := by
    rw [List.length_map]
    exact (List.getElem?_eq_some_iff.mp leftFound).1
  refine (List.getElem?_inj bound unique).mp ?_
  rw [List.getElem?_map, List.getElem?_map, leftFound, rightFound, Option.map_some,
    Option.map_some, same]

theorem request_fields {call other : CommitCall} (same : call.request = other.request) :
    call.partialPath = other.partialPath ∧ call.filename = other.filename ∧
      call.temp = other.temp := by
  simpa [CommitCall.request] using same

/-- Every call stands for one that was there at the start, at the same place. -/
theorem CommitsSound.origin (sound : CommitsSound start state) {index : Nat} {call : CommitCall}
    (found : state.calls[index]? = some call) :
    ∃ begun, start.calls[index]? = some begun ∧ call.request = begun.request := by
  have same := congrArg (fun requests => requests[index]?) sound.requests
  simp only [List.getElem?_map, found, Option.map_some] at same
  cases begun : start.calls[index]? with
  | none => rw [begun] at same; cases same
  | some first =>
      rw [begun] at same
      exact ⟨first, rfl, Option.some.inj same⟩

theorem Ready.begins (ready : Ready platform start) {call : CommitCall}
    (member : call ∈ start.calls) : call.phase = .probe false 0 := by
  obtain ⟨name, accepted⟩ := ready.accepted call member
  rw [ready.begun call member]
  simp [CommitCall.start, accepted]

theorem Ready.sound (ready : Ready platform start) : CommitsSound start start := by
  constructor
  · rfl
  · intro call member
    obtain ⟨inode, node⟩ := ready.files call member
    refine ⟨_, ⟨inode, node, rfl⟩, ?_⟩
    simp only [CommitCall.Sound, ready.begins member]
    exact ⟨⟨inode, node, rfl⟩, ready.unused call member⟩
  · intro i j left right different leftFound rightFound path leftClaim rightClaim
    have leftMember := List.mem_of_getElem? leftFound
    have rightMember := List.mem_of_getElem? rightFound
    have leftIs : path = left.partialPath := by
      simpa [CommitCall.claims, CommitCall.scratch, CommitCall.committed, ready.begins leftMember]
        using leftClaim
    have rightIs : path = right.partialPath := by
      simpa [CommitCall.claims, CommitCall.scratch, CommitCall.committed, ready.begins rightMember]
        using rightClaim
    exact different (index_unique ready.partials leftFound rightFound (leftIs.symm.trans rightIs))

/-- A temporary name belongs to one call. -/
theorem Ready.temp_inj (ready : Ready platform start) (sound : CommitsSound start state)
    {i j : Nat} {left right : CommitCall} (leftFound : state.calls[i]? = some left)
    (rightFound : state.calls[j]? = some right) (same : left.temp = right.temp) : i = j := by
  obtain ⟨leftBegun, leftBegunFound, leftSame⟩ := sound.origin leftFound
  obtain ⟨rightBegun, rightBegunFound, rightSame⟩ := sound.origin rightFound
  obtain ⟨_, _, leftTemp⟩ := request_fields leftSame
  obtain ⟨_, _, rightTemp⟩ := request_fields rightSame
  exact index_unique ready.temps leftBegunFound rightBegunFound
    (leftTemp.symm.trans (same.trans rightTemp))

theorem Ready.unnamed_later (ready : Ready platform start) (sound : CommitsSound start state)
    {i j : Nat} {call other : CommitCall} (found : state.calls[i]? = some call)
    (otherFound : state.calls[j]? = some other) (index : Nat) :
    candidateName other.filename index ≠ call.temp := by
  obtain ⟨begun, begunFound, same⟩ := sound.origin found
  obtain ⟨otherBegun, otherBegunFound, otherSame⟩ := sound.origin otherFound
  obtain ⟨_, _, tempSame⟩ := request_fields same
  obtain ⟨_, filenameSame, _⟩ := request_fields otherSame
  rw [filenameSame, tempSame]
  exact ready.unnamed begun (List.mem_of_getElem? begunFound) otherBegun
    (List.mem_of_getElem? otherBegunFound) index

theorem Ready.apart (ready : Ready platform start) (sound : CommitsSound start state)
    {i : Nat} {call : CommitCall} (found : state.calls[i]? = some call) :
    call.partialPath ≠ received call.temp := by
  obtain ⟨begun, begunFound, same⟩ := sound.origin found
  obtain ⟨partialSame, _, tempSame⟩ := request_fields same
  have member := List.mem_of_getElem? begunFound
  obtain ⟨inode, node⟩ := ready.files begun member
  rw [partialSame, tempSame]
  intro equal
  rw [equal, ready.unused begun member] at node
  cases node

/-- What a step of one call does, seen from a sound state. -/
theorem CommitsSound.advances (sound : CommitsSound start state) (ready : Ready platform start)
    {index : Nat} {failure : Option Raised} (admitted : orderly state (.call index failure))
    (stepped : commitStep state (.call index failure) = some next) :
    ∃ call after data, state.calls[index]? = some call ∧
      next.calls = state.calls.set index after ∧ Stores start.disk call.partialPath data ∧
      call.Sound state.disk data ∧ call.Advances state.disk next.disk data after := by
  simp only [commitStep, Option.bind_eq_bind, Option.bind_eq_some_iff] at stepped
  obtain ⟨call, found, ⟨disk, after⟩, callStepped, finished⟩ := stepped
  cases finished
  obtain ⟨data, original, callSound⟩ := sound.sound call (List.mem_of_getElem? found)
  exact ⟨call, after, data, found, rfl, original, callSound,
    CommitCall.step_advances (ready.apart sound found) (ready.unnamed_later sound found found)
      callSound (admitted call found) callStepped⟩

/-- The step of one call keeps every other call sound. -/
theorem CommitsSound.other (sound : CommitsSound start state) (ready : Ready platform start)
    {i j : Nat} (different : j ≠ i) {call after other : CommitCall} {data otherData : Bytes}
    (found : state.calls[i]? = some call) (otherFound : state.calls[j]? = some other)
    {disk : Disk FilePath} (callSound : call.Sound state.disk data)
    (otherSound : other.Sound state.disk otherData)
    (advances : call.Advances state.disk disk data after) : other.Sound disk otherData := by
  refine otherSound.frame advances.frame ?_ ?_
  · intro path claimed touched
    rcases touched with used | ⟨_, absent⟩
    · exact sound.disjoint j i other call different otherFound found path claimed
        (List.mem_append_left _ used)
    · exact otherSound.present claimed absent
  · intro touched
    rcases touched with used | ⟨claimed, absent⟩
    · have claimedByCall : received other.temp ∈ call.claims := List.mem_append_left _ used
      exact sound.disjoint i j call other (Ne.symm different) found otherFound _ claimedByCall
        (otherSound.temp_claimed (callSound.present claimedByCall))
    · rcases advances.claims _ claimed with before | ⟨_, same | ⟨index, same⟩⟩
      · exact callSound.present before absent
      · exact different (ready.temp_inj sound otherFound found (by simpa [received] using same))
      · exact ready.unnamed_later sound otherFound found index (by simpa [received] using same.symm)

/-- Other programs' new files are claimed by no call. -/
theorem CommitsSound.create (sound : CommitsSound start state) {path : FilePath} {data : Bytes}
    (admitted : orderly state (.create path data))
    (stepped : commitStep state (.create path data) = some next) :
    next.calls = state.calls ∧ state.disk.nodes.get path = none ∧
      next.disk = state.disk.create path data ∧ CommitsSound start next := by
  simp only [commitStep] at stepped
  split at stepped
  · next disk created =>
      obtain ⟨absent, rfl⟩ := Disk.createNew_ok created
      cases stepped
      refine ⟨rfl, absent, rfl, sound.requests, fun call member => ?_, sound.disjoint⟩
      obtain ⟨original, stores, callSound⟩ := sound.sound call member
      refine ⟨original, stores, callSound.frame (Disk.frame_create _ path data) ?_ ?_⟩
      · rintro other claimed rfl
        exact callSound.present claimed absent
      · exact fun same => admitted call member same.symm
  · cases stepped

theorem CommitsSound.step (ready : Ready platform start) (sound : CommitsSound start state)
    (admitted : orderly state label) (stepped : commitStep state label = some next) :
    CommitsSound start next := by
  cases label with
  | create path data => exact (sound.create admitted stepped).2.2.2
  | call index failure =>
      obtain ⟨call, after, data, found, calls, original, callSound, advances⟩ :=
        sound.advances ready admitted stepped
      obtain ⟨partialSame, _, _⟩ := request_fields advances.request
      have here : next.calls[index]? = some after := by
        rw [calls, List.getElem?_set_self (List.getElem?_eq_some_iff.mp found).1]
      have elsewhere {j : Nat} (different : j ≠ index) : next.calls[j]? = state.calls[j]? := by
        rw [calls, List.getElem?_set_ne (Ne.symm different)]
      constructor
      · rw [calls, List.map_set, advances.request, ← sound.requests]
        obtain ⟨bound, rfl⟩ := List.getElem?_eq_some_iff.mp found
        rw [← List.map_set, List.set_getElem_self bound]
      · intro other member
        obtain ⟨j, otherFound⟩ := List.mem_iff_getElem?.mp member
        by_cases same : j = index
        · cases same
          cases here.symm.trans otherFound
          exact ⟨data, partialSame ▸ original, advances.sound⟩
        · rw [elsewhere same] at otherFound
          obtain ⟨otherData, otherOriginal, otherSound⟩ :=
            sound.sound other (List.mem_of_getElem? otherFound)
          exact ⟨otherData, otherOriginal,
            sound.other ready same found otherFound callSound otherSound advances⟩
      · -- what the call claims anew was absent, and the others' claims are present
        have fresh {j : Nat} {other : CommitCall} (different : j ≠ index)
            (otherFound : state.calls[j]? = some other) (path : FilePath)
            (claimed : path ∈ after.claims) : path ∉ other.claims := by
          intro otherClaimed
          rcases advances.claims path claimed with before | ⟨absent, _⟩
          · exact sound.disjoint index j call other (Ne.symm different) found otherFound path before
              otherClaimed
          · obtain ⟨_, _, otherSound⟩ := sound.sound other (List.mem_of_getElem? otherFound)
            exact otherSound.present otherClaimed absent
        intro i j left right different leftFound rightFound path leftClaimed rightClaimed
        by_cases leftIs : i = index
        · cases leftIs
          cases here.symm.trans leftFound
          rw [elsewhere (Ne.symm different)] at rightFound
          exact fresh (Ne.symm different) rightFound path leftClaimed rightClaimed
        · rw [elsewhere leftIs] at leftFound
          by_cases rightIs : j = index
          · cases rightIs
            cases here.symm.trans rightFound
            exact fresh leftIs leftFound path rightClaimed leftClaimed
          · rw [elsewhere rightIs] at rightFound
            exact sound.disjoint i j left right different leftFound rightFound path leftClaimed
              rightClaimed

/-- A name no call may still remove, and what it refers to, stay as they are. -/
def Settled (state : Commits) (path : FilePath) (node : Node FilePath) : Prop :=
  state.disk.nodes.get path = some node ∧ ∀ call ∈ state.calls, path ∉ call.scratch

/-- The octets a node stands for are the same on both disks. -/
def SameContents (before after : Disk FilePath) (node : Node FilePath) : Prop :=
  ∀ inode, node = .file inode → after.contents inode = before.contents inode

theorem settled_step (ready : Ready platform start) (sound : CommitsSound start state)
    (admitted : orderly state label) (stepped : commitStep state label = some next)
    {path : FilePath} {node : Node FilePath} (settled : Settled state path node) :
    Settled next path node ∧ SameContents state.disk next.disk node := by
  obtain ⟨found, untouched⟩ := settled
  cases label with
  | create other data =>
      obtain ⟨calls, absent, disk, _⟩ := sound.create admitted stepped
      have different : path ≠ other := by
        rintro rfl
        cases absent.symm.trans found
      have frame := Disk.frame_create state.disk other data
      rw [← disk] at frame
      refine ⟨⟨(frame.nodes path different).trans found, calls ▸ untouched⟩, ?_⟩
      rintro inode rfl
      exact frame.contents path inode different found
  | call index failure =>
      obtain ⟨call, after, data, callFound, calls, _, _, advances⟩ :=
        sound.advances ready admitted stepped
      have notOwn := untouched call (List.mem_of_getElem? callFound)
      have kept : ¬(path ∈ call.scratch ∨ path ∈ after.claims ∧
          state.disk.nodes.get path = none) := by
        rintro (own | ⟨_, absent⟩)
        · exact notOwn own
        · cases absent.symm.trans found
      refine ⟨⟨(advances.frame.nodes path kept).trans found, fun other member => ?_⟩, ?_⟩
      · rw [calls] at member
        rcases List.mem_or_eq_of_mem_set member with before | rfl
        · exact untouched other before
        · intro used
          rcases advances.scratch path used with own | absent
          · exact notOwn own
          · cases absent.symm.trans found
      · rintro inode rfl
        exact advances.frame.contents path inode kept found

theorem CommitsSound.run (ready : Ready platform start) (sound : CommitsSound start state)
    {labels : List CommitLabel} (run : Run commitStep orderly state labels next) :
    CommitsSound start next :=
  run.invariant (fun _ _ _ sound admitted stepped => sound.step ready admitted stepped) sound

theorem settled_run (ready : Ready platform start) (sound : CommitsSound start state)
    {labels : List CommitLabel} (run : Run commitStep orderly state labels next)
    {path : FilePath} {node : Node FilePath} (settled : Settled state path node) :
    Settled next path node ∧ SameContents state.disk next.disk node := by
  induction run with
  | refl => exact ⟨settled, fun _ _ => rfl⟩
  | snoc earlier admitted stepped ih =>
      obtain ⟨middle, same⟩ := ih
      obtain ⟨last, again⟩ := settled_step ready (sound.run ready earlier) admitted stepped middle
      exact ⟨last, fun inode file => (again inode file).trans (same inode file)⟩

/-- A file another program creates is there to stay. -/
theorem created_settled (ready : Ready platform start) {labels : List CommitLabel}
    (run : Run commitStep orderly start labels state) {path : FilePath} {data : Bytes}
    (created : CommitLabel.create path data ∈ labels) :
    ∃ inode, Settled state path (.file inode) ∧ state.disk.contents inode = data := by
  induction run with
  | refl => cases created
  | @snoc before after earlier last earlierRun admitted stepped ih =>
      have sound := ready.sound.run ready earlierRun
      rcases List.mem_append.mp created with sooner | now
      · obtain ⟨inode, settled, content⟩ := ih sooner
        obtain ⟨kept, same⟩ := settled_step ready sound admitted stepped settled
        exact ⟨inode, kept, (same inode rfl).trans content⟩
      · cases List.mem_singleton.mp now
        obtain ⟨calls, absent, disk, _⟩ := sound.create admitted stepped
        refine ⟨before.disk.fresh, ⟨?_, fun call member used => ?_⟩, ?_⟩
        · rw [disk, Disk.nodes_create, Dict.get_set, if_pos rfl]
        · rw [calls] at member
          obtain ⟨_, _, callSound⟩ := sound.sound call member
          exact callSound.present (List.mem_append_left _ used) absent
        · rw [disk, Disk.contents_create, if_pos rfl]

/-- The claims of a call that has committed include the committed name. -/
theorem committed_claimed {call : CommitCall} {name : PyStr} (named : call.committed = some name) :
    received name ∈ call.claims := by
  simp [CommitCall.claims, named]

/-- A file a call has committed is there to stay. -/
theorem committed_settled (sound : CommitsSound start state) {call : CommitCall}
    (member : call ∈ state.calls) {name : PyStr} (named : call.committed = some name) :
    ∃ inode data, Settled state (received name) (.file inode) ∧
      Stores start.disk call.partialPath data ∧ state.disk.contents inode = data := by
  obtain ⟨data, original, callSound⟩ := sound.sound call member
  obtain ⟨inode, node, content⟩ := callSound.stored named
  refine ⟨inode, data, ⟨node, fun other otherMember used => ?_⟩, original, content⟩
  obtain ⟨i, found⟩ := List.mem_iff_getElem?.mp member
  obtain ⟨j, otherFound⟩ := List.mem_iff_getElem?.mp otherMember
  by_cases same : i = j
  · cases same
    cases found.symm.trans otherFound
    exact callSound.committed_kept named used
  · exact sound.disjoint i j call other same found otherFound _ (committed_claimed named)
      (List.mem_append_left _ used)

end Runs

/-- However many calls commit however named partial files in whatever order of
their file-system calls, no file of anyone else's and no committed file is ever
changed, and every call that is over has a name of its own with its own octets. -/
theorem commits_never_collide {platform : Platform} {start state finish : Commits}
    {labels more : List CommitLabel} (ready : Ready platform start)
    (run : Run commitStep orderly start labels state)
    (later : Run commitStep orderly state more finish) :
    (∀ path node, start.disk.nodes.get path = some node →
      (∀ call ∈ start.calls, path ≠ call.partialPath) →
      finish.disk.nodes.get path = some node ∧ SameContents start.disk finish.disk node) ∧
    (∀ path data, CommitLabel.create path data ∈ labels ++ more → Stores finish.disk path data) ∧
    (∀ call ∈ state.calls, ∀ name, call.committed = some name →
      ∃ data, Stores start.disk call.partialPath data ∧ Stores state.disk (received name) data ∧
        Stores finish.disk (received name) data) ∧
    (∀ (i j : Nat) (left right : CommitCall) (leftName rightName : PyStr), i ≠ j →
      finish.calls[i]? = some left → finish.calls[j]? = some right →
      left.phase = .finished (.ok leftName) → right.phase = .finished (.ok rightName) →
      leftName ≠ rightName) ∧
    ∀ call ∈ finish.calls, ∀ outcome, call.phase = .finished outcome →
      ∃ name data, outcome = .ok name ∧ Stores start.disk call.partialPath data ∧
        Stores finish.disk (received name) data := by
  have whole := run.trans later
  have sound := ready.sound.run ready run
  have finalSound := ready.sound.run ready whole
  refine ⟨fun path node found apart => ?_, fun path data created => ?_,
    fun call member name named => ?_, ?_, fun call member outcome halted => ?_⟩
  · have settled : Settled start path node := ⟨found, fun call member used =>
      apart call member (by simpa [CommitCall.scratch, ready.begins member] using used)⟩
    obtain ⟨⟨kept, _⟩, same⟩ := settled_run ready ready.sound whole settled
    exact ⟨kept, same⟩
  · obtain ⟨inode, ⟨node, _⟩, content⟩ := created_settled ready whole created
    exact ⟨inode, node, content⟩
  · obtain ⟨inode, data, settled, original, content⟩ := committed_settled sound member named
    obtain ⟨⟨kept, _⟩, same⟩ := settled_run ready sound later settled
    exact ⟨data, original, ⟨inode, settled.1, content⟩, inode, kept, (same inode rfl).trans content⟩
  · intro i j left right leftName rightName different leftFound rightFound leftOver rightOver same
    cases same
    exact finalSound.disjoint i j left right different leftFound rightFound (received leftName)
      (committed_claimed (by simp [CommitCall.committed, leftOver]))
      (committed_claimed (by simp [CommitCall.committed, rightOver]))
  · obtain ⟨data, original, callSound⟩ := finalSound.sound call member
    obtain ⟨name, rfl⟩ := callSound.finished_ok halted
    exact ⟨name, data, rfl, original, callSound.stored (by simp [CommitCall.committed, halted])⟩

/-! ## Two commits of one name -/

/-- Two partial files of one name, with different octets. -/
def sameNames : Commits where
  disk := (Disk.empty.create ⟨.session [], py "left.part"⟩ [1]).create ⟨.session [], py "right.part"⟩ [2]
  calls := [.start asciiPlatform ⟨.session [], py "left.part"⟩ (py "same.txt") (py ".tmp-commit-0"),
    .start asciiPlatform ⟨.session [], py "right.part"⟩ (py "same.txt") (py ".tmp-commit-1")]

/-- Both choose the same name; the second cannot link, and another program takes
the name it would choose next. -/
def racingCommits : List CommitLabel :=
  let right := CommitLabel.call 1 none
  [.call 0 none, right, .call 1 (some (raised .osError "Operation not permitted")), .call 0 none,
    right, right, right, right, right, right, .create (received (py "same (1).txt")) [3],
    .call 0 none, right, right, right, right, right, right, right, right, right, right]

/-- The guard, decided. -/
def commitsOrderly (state : Commits) : CommitLabel → Bool
  | .call _ none => true
  | .call index (some error) => error.kind.isOSError && match state.calls[index]? with
    | some ⟨_, _, _, .link _⟩ => true
    | _ => false
  | .create path _ => state.calls.all fun call => path ≠ received call.temp

theorem orderly_of_commitsOrderly {state : Commits} {label : CommitLabel}
    (checked : commitsOrderly state label = true) : orderly state label := by
  cases label with
  | create path data => simpa [commitsOrderly, orderly] using checked
  | call index failure =>
      rintro ⟨partialPath, filename, temp, phase⟩ found error rfl
      simp only [commitsOrderly, found, Bool.and_eq_true] at checked
      obtain ⟨operating, standing⟩ := checked
      cases phase with
      | link name => exact ⟨operating, name, rfl⟩
      | _ => cases standing

theorem candidateName_head {filename : PyStr} {point : CodePoint} (index : Nat)
    (stem : (filename.take (filename.length - (joinedSuffixes filename).length)).head? = some point)
    (first : filename.head? = some point) : (candidateName filename index).head? = some point := by
  unfold candidateName
  split
  · exact first
  · simp only [List.append_assoc, List.head?_append, stem, Option.some_or]

theorem same_names_ready : Ready asciiPlatform sameNames := by
  have unnamed (index : Nat) (temp : PyStr) (hidden : temp.head? = some (chr '.')) :
      candidateName (py "same.txt") index ≠ temp := by
    rintro rfl
    rw [@candidateName_head _ (chr 's') index (by decide) (by decide)] at hidden
    exact absurd hidden (by decide)
  constructor
  · intro call member
    rcases List.mem_pair.mp member with rfl | rfl <;> rfl
  · intro call member
    exact ⟨py "same.txt", by rcases List.mem_pair.mp member with rfl | rfl <;> decide⟩
  · intro call member
    rcases List.mem_pair.mp member with rfl | rfl
    · exact ⟨0, by decide⟩
    · exact ⟨1, by decide⟩
  · decide
  · decide
  · decide
  · intro call member other otherMember index
    rcases List.mem_pair.mp otherMember with rfl | rfl <;>
      rcases List.mem_pair.mp member with rfl | rfl <;> exact unnamed index _ (by decide)

theorem racing_commits_apart :
    ∃ finish, Run commitStep orderly sameNames racingCommits finish ∧
      finish.calls.map CommitCall.committed = [some (py "same.txt"), some (py "same (2).txt")] ∧
      Stores finish.disk (received (py "same (1).txt")) [3] := by
  have shape : ((runLabels (fun state label =>
      if commitsOrderly state label then commitStep state label else none) sameNames
        racingCommits).map fun finish => finish.calls.map CommitCall.committed) =
      some [some (py "same.txt"), some (py "same (2).txt")] := by decide
  obtain ⟨finish, executed, names⟩ := Option.map_eq_some_iff.mp shape
  have run : Run commitStep orderly sameNames racingCommits finish :=
    run_of_checked (fun _ _ checked => orderly_of_commitsOrderly checked) executed
  obtain ⟨_, created, _⟩ := commits_never_collide same_names_ready .refl run
  exact ⟨finish, run, names, created _ [3] (by simp [racingCommits])⟩

end DirectTransfer
