import DirectTransfer.Library.Dictionary
import DirectTransfer.Library.Text

/-! A file system with hard links. Names refer to files by number, several may
refer to one, and symbolic links are followed where a file is opened or tested. -/

set_option autoImplicit false

namespace DirectTransfer.Library

/-- What a name refers to. -/
inductive Node (Path : Type) where
  | file (inode : Nat)
  | directory
  | symlink (target : Path)
  deriving DecidableEq

/-- Names, file contents by number, and the next unused number. -/
structure Disk (Path : Type) [DecidableEq Path] where
  nodes : Dict Path (Node Path)
  contents : Nat → Bytes
  fresh : Nat
  bounded : ∀ path inode, nodes.get path = some (.file inode) → inode < fresh

inductive FileError where
  | exists
  | missing
  deriving DecidableEq, Repr

namespace Disk

variable {Path : Type} [DecidableEq Path] (disk : Disk Path)

omit disk in
/-- Nothing at all. -/
def empty : Disk Path where
  nodes := Dict.empty
  contents _ := []
  fresh := 0
  bounded _ _ found := nomatch found

/-- How many symbolic links are followed before giving up. -/
def linkLimit : Nat := 40

/-- What a name refers to once symbolic links are followed. -/
def follow : Nat → Path → Option (Node Path)
  | 0, _ => none
  | fuel + 1, path => match disk.nodes.get path with
    | some (.symlink target) => follow fuel target
    | found => found

/-- `Path.exists` -/
def holds (path : Path) : Bool := (disk.follow linkLimit path).isSome

/-- The file a name leads to. -/
def inode? (path : Path) : Option Nat :=
  match disk.follow linkLimit path with
  | some (.file inode) => some inode
  | _ => none

def isFile (path : Path) : Bool := (disk.inode? path).isSome

def read (path : Path) : Option Bytes := (disk.inode? path).map disk.contents

/-- Give a name a node whose file, if it is one, already has a number. -/
def setNode (path : Path) (node : Node Path)
    (known : ∀ inode, node = .file inode → inode < disk.fresh) : Disk Path where
  nodes := disk.nodes.set path node
  contents := disk.contents
  fresh := disk.fresh
  bounded other inode found := by
    rw [Dict.get_set] at found
    split at found
    · exact known inode (Option.some.inj found)
    · exact disk.bounded other inode found

/-- Remove a name. -/
def unlink (path : Path) : Disk Path where
  nodes := disk.nodes.erase path
  contents := disk.contents
  fresh := disk.fresh
  bounded other inode found := by
    rw [Dict.get_erase] at found
    split at found
    · cases found
    · exact disk.bounded other inode found

/-- Write the octets of a file. -/
def write (inode : Nat) (data : Bytes) : Disk Path where
  nodes := disk.nodes
  contents other := if other = inode then data else disk.contents other
  fresh := disk.fresh
  bounded := disk.bounded

/-- Give a name a new file. -/
def create (path : Path) (data : Bytes) : Disk Path where
  nodes := disk.nodes.set path (.file disk.fresh)
  contents other := if other = disk.fresh then data else disk.contents other
  fresh := disk.fresh + 1
  bounded other inode found := by
    rw [Dict.get_set] at found
    split at found
    · cases found; exact Nat.lt_succ_self _
    · exact Nat.lt_succ_of_lt (disk.bounded other inode found)

/-- `os.link`: a second name for the file at `source`. -/
def link (source target : Path) : Except FileError (Disk Path) :=
  if (disk.nodes.get target).isSome then .error .exists
  else match found : disk.follow linkLimit source with
    | some (.file inode) => .ok (disk.setNode target (.file inode) fun other same => by
        cases same
        exact follow_bounded linkLimit source found)
    | _ => .error .missing
where
  follow_bounded (fuel : Nat) (path : Path) {inode : Nat}
      (found : disk.follow fuel path = some (.file inode)) : inode < disk.fresh := by
    induction fuel generalizing path with
    | zero => cases found
    | succ fuel ih =>
        unfold follow at found
        split at found
        · exact ih _ found
        · exact disk.bounded path inode found

/-- `os.open` with `O_CREAT | O_EXCL`: a new file where there is no name yet. -/
def createNew (path : Path) (data : Bytes) : Except FileError (Disk Path) :=
  if (disk.nodes.get path).isSome then .error .exists else .ok (disk.create path data)

/-- `os.replace`: the name `target` is given what `source` referred to. -/
def replace (source target : Path) : Except FileError (Disk Path) :=
  match found : disk.nodes.get source with
  | some node => .ok ((disk.setNode target node fun inode same =>
      disk.bounded source inode (same ▸ found)).unlink source)
  | none => .error .missing

/-- The name reached once symbolic links are followed. -/
def target? : Nat → Path → Option Path
  | 0, _ => none
  | fuel + 1, path => match disk.nodes.get path with
    | some (.symlink target) => target? fuel target
    | _ => some path

/-- `Path.write_text`: the file a name leads to is given these octets, or a new
file is; `none` where the call raises. -/
def overwrite (path : Path) (data : Bytes) : Option (Disk Path) :=
  match disk.target? linkLimit path with
  | none => none
  | some name => match disk.nodes.get name with
    | some (.file inode) => some (disk.write inode data)
    | some _ => none
    | none => some (disk.create name data)

/-- Remove every name of a kind. -/
def removeAll (gone : Path → Bool) : Disk Path where
  nodes := disk.nodes.filter fun path _ => !gone path
  contents := disk.contents
  fresh := disk.fresh
  bounded path inode found := by
    rw [Dict.get_filter] at found
    exact disk.bounded path inode (Option.filter_eq_some_iff.mp found).1

/-! ## Names and contents after each operation -/

@[simp] theorem nodes_setNode (path : Path) (node : Node Path)
    (known : ∀ inode, node = .file inode → inode < disk.fresh) :
    (disk.setNode path node known).nodes = disk.nodes.set path node := rfl

@[simp] theorem nodes_unlink (path : Path) : (disk.unlink path).nodes = disk.nodes.erase path := rfl

@[simp] theorem nodes_write (inode : Nat) (data : Bytes) :
    (disk.write inode data).nodes = disk.nodes := rfl

@[simp] theorem nodes_create (path : Path) (data : Bytes) :
    (disk.create path data).nodes = disk.nodes.set path (.file disk.fresh) := rfl

@[simp] theorem contents_setNode (path : Path) (node : Node Path)
    (known : ∀ inode, node = .file inode → inode < disk.fresh) :
    (disk.setNode path node known).contents = disk.contents := rfl

@[simp] theorem contents_unlink (path : Path) : (disk.unlink path).contents = disk.contents := rfl

theorem contents_write (inode other : Nat) (data : Bytes) :
    (disk.write inode data).contents other = if other = inode then data else disk.contents other :=
  rfl

theorem contents_create (path : Path) (data : Bytes) (other : Nat) :
    (disk.create path data).contents other =
      if other = disk.fresh then data else disk.contents other := rfl

@[simp] theorem fresh_setNode (path : Path) (node : Node Path)
    (known : ∀ inode, node = .file inode → inode < disk.fresh) :
    (disk.setNode path node known).fresh = disk.fresh := rfl

@[simp] theorem fresh_unlink (path : Path) : (disk.unlink path).fresh = disk.fresh := rfl

@[simp] theorem fresh_write (inode : Nat) (data : Bytes) :
    (disk.write inode data).fresh = disk.fresh := rfl

@[simp] theorem fresh_create (path : Path) (data : Bytes) :
    (disk.create path data).fresh = disk.fresh + 1 := rfl

variable {disk}

/-- A name of a file is not a symbolic link. -/
theorem inode?_of_node {path : Path} {inode : Nat}
    (node : disk.nodes.get path = some (.file inode)) : disk.inode? path = some inode := by
  simp [inode?, linkLimit, follow, node]

theorem holds_of_node {path : Path} {inode : Nat}
    (node : disk.nodes.get path = some (.file inode)) : disk.holds path = true := by
  simp [holds, linkLimit, follow, node]

theorem inode?_of_free {path : Path} (free : disk.nodes.get path = none) :
    disk.inode? path = none := by
  simp [inode?, linkLimit, follow, free]

theorem holds_of_free {path : Path} (free : disk.nodes.get path = none) :
    disk.holds path = false := by
  simp [holds, linkLimit, follow, free]

theorem read_of_free {path : Path} (free : disk.nodes.get path = none) : disk.read path = none := by
  simp [read, inode?_of_free free]

theorem read_of_node {path : Path} {inode : Nat}
    (node : disk.nodes.get path = some (.file inode)) :
    disk.read path = some (disk.contents inode) := by
  simp [read, inode?_of_node node]

theorem overwrite_of_node {path : Path} {inode : Nat} (data : Bytes)
    (node : disk.nodes.get path = some (.file inode)) :
    disk.overwrite path data = some (disk.write inode data) := by
  simp [overwrite, linkLimit, target?, node]

theorem overwrite_of_free {path : Path} (data : Bytes) (free : disk.nodes.get path = none) :
    disk.overwrite path data = some (disk.create path data) := by
  simp [overwrite, linkLimit, target?, free]

theorem overwrite_of_directory {path : Path} (data : Bytes)
    (node : disk.nodes.get path = some .directory) : disk.overwrite path data = none := by
  simp [overwrite, linkLimit, target?, node]

/-- What is read under a name that is no symbolic link. -/
theorem read_of_direct {path : Path}
    (direct : ∀ target, disk.nodes.get path ≠ some (.symlink target)) :
    disk.read path = match disk.nodes.get path with
      | some (.file inode) => some (disk.contents inode)
      | _ => none := by
  unfold read
  cases found : disk.nodes.get path with
  | none => simp [inode?_of_free found]
  | some node =>
      cases node with
      | file inode => simp [inode?_of_node found]
      | directory => simp [inode?, linkLimit, follow, found]
      | symlink target => exact absurd found (direct target)

theorem inode?_bounded {path : Path} {inode : Nat} (found : disk.inode? path = some inode) :
    inode < disk.fresh := by
  unfold inode? at found
  split at found
  · next followed =>
      cases found
      exact link.follow_bounded disk linkLimit path followed
  · cases found

/-- Linking gives the target, which had no node, the file of the source. -/
theorem link_ok {source target : Path} {next : Disk Path}
    (linked : disk.link source target = .ok next) :
    disk.nodes.get target = none ∧ ∃ inode, disk.inode? source = some inode ∧
      next.nodes = disk.nodes.set target (.file inode) ∧ next.contents = disk.contents ∧
      next.fresh = disk.fresh := by
  unfold link at linked
  split at linked
  · cases linked
  · next free =>
      refine ⟨by simpa using free, ?_⟩
      split at linked
      · next inode found =>
          cases linked
          exact ⟨inode, by simp [inode?, found], rfl, rfl, rfl⟩
      · cases linked

theorem createNew_ok {path : Path} {data : Bytes} {next : Disk Path}
    (created : disk.createNew path data = .ok next) :
    disk.nodes.get path = none ∧ next = disk.create path data := by
  unfold createNew at created
  split at created
  · cases created
  · next free => cases created; exact ⟨by simpa using free, rfl⟩

theorem replace_ok {source target : Path} {next : Disk Path}
    (replaced : disk.replace source target = .ok next) :
    ∃ node, disk.nodes.get source = some node ∧
      next.nodes = (disk.nodes.set target node).erase source ∧ next.contents = disk.contents ∧
      next.fresh = disk.fresh := by
  unfold replace at replaced
  split at replaced
  · next node found => cases replaced; exact ⟨node, found, rfl, rfl, rfl⟩
  · cases replaced

theorem replace_of_node {source target : Path} {node : Node Path} {error : FileError}
    (found : disk.nodes.get source = some node) : disk.replace source target ≠ .error error := by
  intro failed
  unfold replace at failed
  split at failed
  · cases failed
  · next absent => cases absent.symm.trans found

/-! ## What an operation leaves alone -/

/-- Nothing differs but the touched names and the files only they referred to. -/
structure Frame (touched : Path → Prop) (before after : Disk Path) : Prop where
  nodes : ∀ path, ¬touched path → after.nodes.get path = before.nodes.get path
  contents : ∀ path inode, ¬touched path → before.nodes.get path = some (.file inode) →
    after.contents inode = before.contents inode
  origins : ∀ path inode, after.nodes.get path = some (.file inode) → inode < before.fresh →
    before.nodes.get path = some (.file inode) ∨
      ∃ origin, touched origin ∧ before.nodes.get origin = some (.file inode)
  fresh : before.fresh ≤ after.fresh

variable {touched : Path → Prop}

theorem Frame.refl : Frame touched disk disk where
  nodes _ _ := rfl
  contents _ _ _ _ := rfl
  origins _ _ found _ := .inl found
  fresh := Nat.le_refl _

theorem Frame.widen {wider : Path → Prop} {after : Disk Path} (frame : Frame touched disk after)
    (implied : ∀ path, touched path → wider path) : Frame wider disk after where
  nodes path untouched := frame.nodes path fun was => untouched (implied path was)
  contents path inode untouched := frame.contents path inode fun was => untouched (implied path was)
  origins path inode found old := by
    rcases frame.origins path inode found old with same | ⟨origin, was, found⟩
    · exact .inl same
    · exact .inr ⟨origin, implied origin was, found⟩
  fresh := frame.fresh

theorem Frame.trans {middle after : Disk Path} (first : Frame touched disk middle)
    (second : Frame touched middle after) : Frame touched disk after where
  nodes path untouched := (second.nodes path untouched).trans (first.nodes path untouched)
  contents path inode untouched node := by
    have kept : middle.nodes.get path = some (.file inode) :=
      (first.nodes path untouched).trans node
    exact (second.contents path inode untouched kept).trans
      (first.contents path inode untouched node)
  origins path inode found old := by
    have before (name : Path) (held : middle.nodes.get name = some (.file inode)) :
        disk.nodes.get name = some (.file inode) ∨
          ∃ origin, touched origin ∧ disk.nodes.get origin = some (.file inode) :=
      first.origins name inode held old
    cases second.origins path inode found (Nat.lt_of_lt_of_le old first.fresh) with
    | inl held => exact before path held
    | inr moved =>
        obtain ⟨origin, was, held⟩ := moved
        cases before origin held with
        | inl earlier => exact .inr ⟨origin, was, earlier⟩
        | inr earlier => exact .inr earlier
  fresh := Nat.le_trans first.fresh second.fresh

/-- An untouched name that is no symbolic link reads as before. -/
theorem Frame.read {after : Disk Path} (frame : Frame touched disk after) {path : Path}
    (untouched : ¬touched path) (direct : ∀ target, disk.nodes.get path ≠ some (.symlink target)) :
    after.read path = disk.read path := by
  have same := frame.nodes path untouched
  rw [read_of_direct direct, read_of_direct (same ▸ direct), same]
  cases found : disk.nodes.get path with
  | none => rfl
  | some node =>
      cases node with
      | file inode => exact congrArg some (frame.contents path inode untouched found)
      | directory => rfl
      | symlink target => rfl

/-- A name that is not touched can be taken away before as well as after. -/
theorem Frame.unlink {after : Disk Path} (frame : Frame touched disk after) {path : Path}
    (untouched : ¬touched path) : Frame touched (disk.unlink path) (after.unlink path) where
  nodes other apart := by
    rw [nodes_unlink, nodes_unlink, Dict.get_erase, Dict.get_erase, frame.nodes other apart]
  contents other inode apart found := by
    rw [nodes_unlink, Dict.get_erase] at found
    split at found
    · cases found
    · exact frame.contents other inode apart found
  origins other inode found old := by
    rw [nodes_unlink, Dict.get_erase] at found
    split at found
    · cases found
    · next different =>
        cases frame.origins other inode found old with
        | inl held => exact .inl (by rw [nodes_unlink, Dict.get_erase, if_neg different, held])
        | inr moved =>
            obtain ⟨origin, was, held⟩ := moved
            refine .inr ⟨origin, was, ?_⟩
            rw [nodes_unlink, Dict.get_erase, if_neg fun same : origin = path => untouched (same ▸ was), held]
  fresh := frame.fresh

theorem frame_link {source target : Path} {inode : Nat} {next : Disk Path}
    (linked : disk.link source target = .ok next)
    (node : disk.nodes.get source = some (.file inode)) :
    Frame (fun path => path = source ∨ path = target) disk next := by
  obtain ⟨_, other, found, nodes, contents, fresh⟩ := link_ok linked
  cases (inode?_of_node node).symm.trans found
  constructor
  · intro path untouched
    rw [nodes, Dict.get_set, if_neg fun same => untouched (.inr same)]
  · intro path other _ _
    rw [contents]
  · intro path other found _
    rw [nodes, Dict.get_set] at found
    split at found
    · cases found
      exact .inr ⟨source, .inl rfl, node⟩
    · exact .inl found
  · exact Nat.le_of_eq fresh.symm

theorem frame_create (disk : Disk Path) (path : Path) (data : Bytes) :
    Frame (· = path) disk (disk.create path data) where
  nodes other untouched := by rw [nodes_create, Dict.get_set, if_neg untouched]
  contents other inode _ node := by
    rw [contents_create, if_neg (Nat.ne_of_lt (disk.bounded other inode node))]
  origins other inode found old := by
    rw [nodes_create, Dict.get_set] at found
    split at found
    · cases found
      exact absurd old (Nat.lt_irrefl _)
    · exact .inl found
  fresh := Nat.le_succ _

theorem frame_write {inode : Nat} (owned : ∀ path, disk.nodes.get path = some (.file inode) →
    touched path) (data : Bytes) : Frame touched disk (disk.write inode data) where
  nodes _ _ := rfl
  contents path other untouched node := by
    have different : other ≠ inode := by
      rintro rfl
      exact untouched (owned path node)
    rw [contents_write, if_neg different]
  origins _ _ found _ := .inl found
  fresh := Nat.le_refl _

theorem frame_unlink (disk : Disk Path) (path : Path) : Frame (· = path) disk (disk.unlink path) where
  nodes other untouched := by rw [nodes_unlink, Dict.get_erase, if_neg untouched]
  contents _ _ _ _ := rfl
  origins other inode found _ := by
    rw [nodes_unlink, Dict.get_erase] at found
    split at found
    · cases found
    · exact .inl found
  fresh := Nat.le_refl _

theorem frame_removeAll (disk : Disk Path) (gone : Path → Bool) :
    Frame (fun path => gone path = true) disk (disk.removeAll gone) where
  nodes path untouched := by
    show (disk.nodes.filter fun path _ => !gone path).get path = disk.nodes.get path
    rw [Dict.get_filter]
    cases disk.nodes.get path with
    | none => rfl
    | some node => simp [Option.filter, untouched]
  contents _ _ _ _ := rfl
  origins path inode found _ := by
    have kept : (disk.nodes.filter fun path _ => !gone path).get path = some (.file inode) := found
    rw [Dict.get_filter] at kept
    exact .inl (Option.filter_eq_some_iff.mp kept).1
  fresh := Nat.le_refl _

theorem frame_replace {source target : Path} {next : Disk Path}
    (replaced : disk.replace source target = .ok next) :
    Frame (fun path => path = source ∨ path = target) disk next := by
  obtain ⟨node, found, nodes, contents, fresh⟩ := replace_ok replaced
  constructor
  · intro path untouched
    rw [nodes, Dict.get_erase, Dict.get_set, if_neg fun same => untouched (.inl same),
      if_neg fun same => untouched (.inr same)]
  · intro path other _ _
    rw [contents]
  · intro path inode moved _
    rw [nodes, Dict.get_erase, Dict.get_set] at moved
    split at moved
    · cases moved
    · split at moved
      · cases moved
        exact .inr ⟨source, .inl rfl, found⟩
      · exact .inl moved
  · exact Nat.le_of_eq fresh.symm

end Disk

end DirectTransfer.Library
