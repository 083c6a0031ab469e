import DirectTransfer.Core.CommitProperties
import DirectTransfer.Core.Resume

/-! Names a peer supplies stay inside the directories of the receiver, under
the path syntax of either kind of host. -/

set_option autoImplicit false

namespace DirectTransfer

open Library

/-- Joined to any directory, the name gives a direct child of it. -/
def Library.Flavour.DirectChild (flavour : Flavour) (name : PyStr) : Prop :=
  flavour.Component name ∧
    ∀ directory, flavour.join directory name = some (directory ++ [name])

theorem directChild_of_component {flavour : Flavour} {name : PyStr}
    (component : flavour.Component name) : flavour.DirectChild name :=
  ⟨component, component.join⟩

/-! ## Names of the receiver's own making -/

/-- Visible ASCII other than the separators and the colon. -/
def isPortable (point : CodePoint) : Bool :=
  0x20 ≤ point.val && point.val ≤ 0x7E && point.val ≠ 0x2F && point.val ≠ 0x5C && point.val ≠ 0x3A

section Portable

variable {flavour : Flavour} {text : PyStr} {point : CodePoint}

theorem portable_iff : isPortable point = true ↔ 0x20 ≤ point.val ∧ point.val ≤ 0x7E ∧
    point ≠ chr '/' ∧ point ≠ chr '\\' ∧ point ≠ chr ':' := by
  have slash : (chr '/').val = 0x2F := rfl
  have backslash : (chr '\\').val = 0x5C := rfl
  have colon : (chr ':').val = 0x3A := rfl
  simp [isPortable, Fin.ext_iff, slash, backslash, colon, and_assoc]

theorem unseparated_iff : flavour.isSeparator point = false ↔
    point ≠ chr '/' ∧ (flavour = .windows → point ≠ chr '\\') := by
  cases flavour <;> simp [Flavour.isSeparator]

/-- A name has neither root nor drive unless one of its first two characters gives it one. -/
theorem unanchored_iff : flavour.isAnchored text = false ↔
    (∀ first, text.head? = some first → flavour.isSeparator first = false) ∧
      (flavour = .windows → text[1]? ≠ some (chr ':')) := by
  cases text with
  | nil => simp [Flavour.isAnchored]
  | cons first rest =>
      cases flavour <;>
        simp [Flavour.isAnchored, List.head?_eq_getElem?]

theorem component_of_portable (nonempty : text ≠ []) (notDot : text ≠ py ".")
    (notDotDot : text ≠ py "..") (portable : text.all isPortable = true) :
    flavour.Component text := by
  have parts (point : CodePoint) (member : point ∈ text) :=
    portable_iff.mp (List.all_eq_true.mp portable point member)
  have unseparated (point : CodePoint) (member : point ∈ text) :
      flavour.isSeparator point = false :=
    unseparated_iff.mpr ⟨(parts point member).2.2.1, fun _ => (parts point member).2.2.2.1⟩
  refine ⟨nonempty, unseparated, unanchored_iff.mpr ⟨?_, fun _ colon => ?_⟩, notDot, notDotDot, ?_⟩
  · exact fun first found => unseparated first (List.mem_of_head? found)
  · exact (parts _ (List.mem_of_getElem? colon)).2.2.2.2 rfl
  · intro point member
    obtain ⟨low, high, _⟩ := parts point member
    simp only [CodePoint.isControl, Bool.or_eq_false_iff, Bool.and_eq_false_iff,
      decide_eq_false_iff_not]
    omega

theorem portable_lowerHex (hex : isLowerHex point = true) : isPortable point = true := by
  simp only [isLowerHex, isPortable, Bool.or_eq_true, Bool.and_eq_true, decide_eq_true_eq] at hex ⊢
  omega

theorem portable_fileId (identified : isFileId text = true) : text.all isPortable = true := by
  refine List.all_eq_true.mpr fun point member => ?_
  simp only [isFileId, Bool.and_eq_true] at identified
  have letter := List.all_eq_true.mp identified.2 point member
  have underscore : (chr '_').val = 0x5F := rfl
  have hyphen : (chr '-').val = 0x2D := rfl
  simp only [Bool.or_eq_true, Bool.and_eq_true, decide_eq_true_eq, Fin.ext_iff, underscore,
    hyphen] at letter
  simp only [isPortable, Bool.and_eq_true, decide_eq_true_eq]
  omega

theorem component_transferId (identified : isTransferId text = true) : flavour.Component text := by
  simp only [isTransferId, Bool.and_eq_true, decide_eq_true_eq] at identified
  obtain ⟨length, hex⟩ := identified
  refine component_of_portable ?_ ?_ ?_ ?_
  · rintro rfl; cases length
  · rintro rfl; cases length
  · rintro rfl; cases length
  · exact List.all_eq_true.mpr fun point member =>
      portable_lowerHex (List.all_eq_true.mp hex point member)

theorem component_partialName (identified : isFileId text = true) :
    flavour.Component (partialName text) := by
  have long : 5 ≤ (partialName text).length := by simp [partialName, py]
  refine component_of_portable ?_ ?_ ?_ ?_
  · intro same; rw [same] at long; exact absurd long (by decide)
  · intro same; rw [same] at long; exact absurd long (by decide)
  · intro same; rw [same] at long; exact absurd long (by decide)
  · rw [partialName, List.all_append, portable_fileId identified]
    decide

theorem component_commitTemporary (identified : isTransferId text = true) :
    flavour.Component (commitTemporary text) := by
  have long : 12 ≤ (commitTemporary text).length := by simp [commitTemporary, py]
  simp only [isTransferId, Bool.and_eq_true, decide_eq_true_eq] at identified
  refine component_of_portable ?_ ?_ ?_ ?_
  · intro same; rw [same] at long; exact absurd long (by decide)
  · intro same; rw [same] at long; exact absurd long (by decide)
  · intro same; rw [same] at long; exact absurd long (by decide)
  · have hex : text.all isPortable = true := List.all_eq_true.mpr fun point member =>
      portable_lowerHex (List.all_eq_true.mp identified.2 point member)
    rw [commitTemporary, List.all_append, hex]
    decide

end Portable

/-! ## Names of the peer's making -/

section Accepted

variable {flavour : Flavour} {platform : Platform} {filename name : PyStr}

/-- What the Windows syntax takes for one component has neither separator nor drive. -/
theorem windows_name (nonempty : name ≠ []) (whole : pureWindowsPathName name = name) :
    (∀ point ∈ name, isWindowsSlash point = false) ∧ name[1]? ≠ some (chr ':') := by
  unfold pureWindowsPathName at whole
  split at whole
  · next letter second rest =>
      split at whole
      · -- the name of what follows a drive is shorter than the drive and it
        have short := length_le_of_mem_pathComponents (last_mem_pathComponents nonempty whole)
        simp only [List.length_cons] at short
        omega
      · next driveless => exact ⟨unseparated_of_last nonempty whole, by simpa using driveless⟩
  · next short =>
      refine ⟨unseparated_of_last nonempty whole, fun colon => ?_⟩
      match name, short, colon with
      | letter :: second :: rest, short, _ => exact short letter second rest rfl

/-- An accepted name is one component under both syntaxes. -/
theorem component_filename (accepted : sanitizeFilename platform filename = .ok name) :
    flavour.Component filename := by
  obtain ⟨_, nonempty, printable, _, whole, notDot, notDotDot⟩ := sanitizeFilename_ok accepted
  obtain ⟨unseparated, driveless⟩ := windows_name nonempty whole
  have apart (point : CodePoint) (member : point ∈ filename) :
      flavour.isSeparator point = false := by
    have slash := unseparated point member
    simp only [isWindowsSlash, Bool.or_eq_false_iff, decide_eq_false_iff_not] at slash
    exact unseparated_iff.mpr ⟨slash.1, fun _ => slash.2⟩
  exact ⟨nonempty, apart, unanchored_iff.mpr ⟨fun first found => apart first (List.mem_of_head? found),
    fun _ => driveless⟩, notDot, notDotDot, fun point member =>
      platform.printable_not_control point (printable point member)⟩

theorem joinedSuffixes_suffix (name : PyStr) : joinedSuffixes name <:+ name :=
  (List.dropWhile_suffix _).trans (List.dropWhile_suffix _)

/-- Renumbering keeps the characters and adds none but portable ones. -/
theorem candidateName_cases (name : PyStr) (index : Nat) :
    candidateName name index = name ∨
      ∃ stem suffix number, stem ++ suffix = name ∧ number.all isPortable = true ∧
        candidateName name index = stem ++ chr ' ' :: chr '(' :: number ++ suffix := by
  unfold candidateName
  split
  · exact .inl rfl
  · obtain ⟨stem, whole⟩ := joinedSuffixes_suffix name
    have stemIs : name.take (name.length - (joinedSuffixes name).length) = stem := by
      have lengths : name.length = stem.length + (joinedSuffixes name).length := by
        rw [← List.length_append, whole]
      rw [lengths, Nat.add_sub_cancel]
      conv_lhs => rw [← whole]
      exact List.take_left
    have digits : (natText index).all isPortable = true := by
      have portable : ∀ point ∈ py "0123456789", isPortable point = true := forall_of_all (by decide)
      exact List.all_eq_true.mpr fun point member => portable point (natText_mem member)
    refine .inr ⟨stem, joinedSuffixes name, natText index ++ py ")", whole, ?_, ?_⟩
    · rw [List.all_append, digits]
      decide
    · dsimp only
      rw [stemIs]
      simp [py]

/-- Renumbering a component gives a component. -/
theorem component_candidateName (component : flavour.Component name) (index : Nat) :
    flavour.Component (candidateName name index) := by
  rcases candidateName_cases name index with same | ⟨stem, suffix, number, rfl, portable, renamed⟩
  · rw [same]
    exact component
  · rw [renamed]
    have added : (chr ' ' :: chr '(' :: number).all isPortable = true := by
      simp only [List.all_cons, portable]
      decide
    have parts (point : CodePoint) (member : point ∈ stem ++ chr ' ' :: chr '(' :: number ++ suffix) :
        point ∈ stem ++ suffix ∨ isPortable point = true := by
      simp only [List.mem_append] at member ⊢
      rcases member with (inStem | new) | inSuffix
      · exact .inl (.inl inStem)
      · exact .inr (List.all_eq_true.mp added point new)
      · exact .inl (.inr inSuffix)
    have unseparated (point : CodePoint)
        (member : point ∈ stem ++ chr ' ' :: chr '(' :: number ++ suffix) :
        flavour.isSeparator point = false := by
      rcases parts point member with old | new
      · exact component.unseparated point old
      · obtain ⟨_, _, slash, backslash, _⟩ := portable_iff.mp new
        exact unseparated_iff.mpr ⟨slash, fun _ => backslash⟩
    have long : 2 ≤ (stem ++ chr ' ' :: chr '(' :: number ++ suffix).length := by
      simp only [List.length_append, List.length_cons]
      omega
    have paren : chr '(' ∈ stem ++ chr ' ' :: chr '(' :: number ++ suffix := by simp
    refine ⟨?_, unseparated, unanchored_iff.mpr
      ⟨fun first found => unseparated first (List.mem_of_head? found), fun windows => ?_⟩, ?_, ?_, ?_⟩
    · intro empty
      rw [empty] at long
      exact absurd long (by decide)
    · have driveless := (unanchored_iff.mp component.undriven).2 windows
      match stem, driveless with
      | [], _ =>
          intro colon
          exact absurd (show chr '(' = chr ':' from Option.some.inj colon) (by decide)
      | [_], _ =>
          intro colon
          exact absurd (show chr ' ' = chr ':' from Option.some.inj colon) (by decide)
      | first :: second :: rest, driveless => exact driveless
    · intro dot
      rw [dot] at paren
      exact absurd paren (by decide)
    · intro dots
      rw [dots] at paren
      exact absurd paren (by decide)
    · intro point member
      rcases parts point member with old | new
      · exact component.uncontrolled point old
      · obtain ⟨low, high, _⟩ := portable_iff.mp new
        simp only [CodePoint.isControl, Bool.or_eq_false_iff, Bool.and_eq_false_iff,
          decide_eq_false_iff_not]
        omega

end Accepted

/-! ## Which names are the same -/

section Sameness

variable {left right : PyStr}

theorem asciiLower_append (left right : PyStr) :
    asciiLower (left ++ right) = asciiLower left ++ asciiLower right := List.map_append

theorem asciiLower_lowerHex {text : PyStr} (hex : text.all isLowerHex = true) :
    asciiLower text = text := by
  refine (List.map_congr_left fun point member => if_neg ?_).trans (List.map_id _)
  have digit := List.all_eq_true.mp hex point member
  simp only [isLowerHex, Bool.or_eq_true, Bool.and_eq_true, decide_eq_true_eq] at digit
  omega

/-- Partial files share a path only as far as their identifiers are the same name. -/
theorem sameName_partialName {flavour : Flavour} :
    flavour.SameName (partialName left) (partialName right) ↔ flavour.SameName left right := by
  cases flavour with
  | posix => exact List.append_left_inj _
  | windows =>
      simp only [Flavour.SameName, partialName, asciiLower_append]
      exact List.append_left_inj _

theorem partialName_ne_metadata (flavour : Flavour) (fileId : PyStr) :
    ¬flavour.SameName (partialName fileId) metadataName ∧
      ¬flavour.SameName (partialName fileId) metadataTemporary := by
  have last (text : PyStr) : (text ++ py ".part").getLast? = some (chr 't') := by
    rw [List.getLast?_append]
    rfl
  have apart (other : PyStr) (different : other.getLast? ≠ some (chr 't'))
      (lowered : asciiLower other = other) : ¬flavour.SameName (partialName fileId) other := by
    intro same
    refine different ?_
    cases flavour with
    | posix => rw [← (show partialName fileId = other from same), partialName, last]
    | windows =>
        simp only [Flavour.SameName, partialName, asciiLower_append, lowered] at same
        rw [← same]
        exact last (asciiLower fileId)
  exact ⟨apart metadataName (by decide) (by decide), apart metadataTemporary (by decide) (by decide)⟩

theorem sameName_transferId {flavour : Flavour} (leftHex : isTransferId left = true)
    (rightHex : isTransferId right = true) : flavour.SameName left right ↔ left = right := by
  simp only [isTransferId, Bool.and_eq_true] at leftHex rightHex
  cases flavour with
  | posix => rfl
  | windows =>
      simp only [Flavour.SameName, asciiLower_lowerHex leftHex.2, asciiLower_lowerHex rightHex.2]

end Sameness

/-! ## Names of committed files -/

namespace CommitCall

/-- The name a phase stands for. -/
def destination? (call : CommitCall) : Option PyStr :=
  match call.phase with
  | .link name | .unlinkLinked name | .reserve name | .fstat name _ | .stat name _
  | .replace name _ | .restat name _ _ | .unlinkReservation name _ | .unlinkCopied name
  | .tempExists (.ok name) | .unlinkTemp (.ok name) | .finished (.ok name) => some name
  | _ => none

/-- Whatever a call links, reserves or returns is one of the names to try. -/
def Numbered (call : CommitCall) : Prop :=
  ∀ name, call.destination? = some name → ∃ index, name = candidateName call.filename index

theorem step_numbered {disk next : Disk FilePath} {call after : CommitCall}
    {failure : Option Raised} (numbered : call.Numbered)
    (stepped : call.step disk failure = some (next, after)) :
    after.filename = call.filename ∧ after.Numbered := by
  obtain ⟨partialPath, filename, temp, phase⟩ := call
  have kept (phase' : CommitPhase)
      (same : destination? ⟨partialPath, filename, temp, phase'⟩ = none ∨
        destination? ⟨partialPath, filename, temp, phase'⟩ =
          destination? ⟨partialPath, filename, temp, phase⟩) :
      Numbered ⟨partialPath, filename, temp, phase'⟩ := by
    intro name found
    rcases same with none | same
    · rw [none] at found; cases found
    · exact numbered name (same ▸ found)
  have moved {phase' : CommitPhase} {disk' : Disk FilePath}
      (stepped : some (disk', moveTo ⟨partialPath, filename, temp, phase⟩ phase') = some (next, after))
      (same : destination? ⟨partialPath, filename, temp, phase'⟩ = none ∨
        destination? ⟨partialPath, filename, temp, phase'⟩ =
          destination? ⟨partialPath, filename, temp, phase⟩) :
      after.filename = filename ∧ after.Numbered := by
    cases stepped
    exact ⟨rfl, kept phase' same⟩
  cases phase with
  | probe fallback index =>
      have fresh (phase' : CommitPhase)
          (named : destination? ⟨partialPath, filename, temp, phase'⟩ =
            some (candidateName filename index)) :
          Numbered ⟨partialPath, filename, temp, phase'⟩ := by
        intro name found
        exact ⟨index, Option.some.inj (found.symm.trans named)⟩
      cases failure with
      | some error => cases fallback <;> exact moved stepped (.inl rfl)
      | none =>
          simp only [step] at stepped
          split at stepped
          · exact moved stepped (.inl rfl)
          · cases fallback <;> cases stepped <;> exact ⟨rfl, fresh _ rfl⟩
  | finished outcome => cases stepped
  | tempExists outcome =>
      cases failure with
      | some error => exact moved stepped (.inl rfl)
      | none =>
          simp only [step] at stepped
          split at stepped <;> exact moved stepped (.inr (by cases outcome <;> rfl))
  | unlinkTemp outcome =>
      cases failure with
      | some error => exact moved stepped (.inl rfl)
      | none => exact moved stepped (.inr (by cases outcome <;> rfl))
  | _ =>
      cases failure with
      | some error =>
          simp only [step] at stepped
          repeat' split at stepped
          all_goals first | exact moved stepped (.inl rfl) | exact moved stepped (.inr rfl)
      | none =>
          simp only [step] at stepped
          repeat' split at stepped
          all_goals first | exact moved stepped (.inl rfl) | exact moved stepped (.inr rfl)

end CommitCall

/-- Every name the commits of a run use is one of the names to try. -/
theorem run_numbered {start finish : Commits} {labels : List CommitLabel}
    (run : Run commitStep anyStep start labels finish)
    (begun : ∀ call ∈ start.calls, call.destination? = none) :
    ∀ call ∈ finish.calls, call.Numbered := by
  let numberedAll (state : Commits) : Prop := ∀ call ∈ state.calls, call.Numbered
  have preserved (state : Commits) (label : CommitLabel) (next : Commits)
      (numbered : numberedAll state) (_ : anyStep state label)
      (stepped : commitStep state label = some next) : numberedAll next := by
    cases label with
    | create path data =>
        simp only [commitStep] at stepped
        split at stepped
        · cases stepped; exact numbered
        · cases stepped
    | call index failure =>
        simp only [commitStep, Option.bind_eq_bind, Option.bind_eq_some_iff] at stepped
        obtain ⟨call, found, ⟨disk, after⟩, callStepped, finished⟩ := stepped
        cases finished
        intro other member
        rcases List.mem_or_eq_of_mem_set member with before | rfl
        · exact numbered other before
        · exact (CommitCall.step_numbered (numbered call (List.mem_of_getElem? found)) callStepped).2
  refine run.invariant preserved fun call member name named => ?_
  rw [begun call member] at named
  cases named

/-! ## Every path of an offer -/

/-- The paths made for an offer, under one path syntax. -/
structure StaysInside (flavour : Flavour) (offer : TransferOffer) : Prop where
  session : flavour.DirectChild offer.transferId
  sessionsApart : ∀ other, isTransferId other = true → other ≠ offer.transferId →
    ¬flavour.SameName other offer.transferId
  metadata : flavour.DirectChild metadataName ∧ flavour.DirectChild metadataTemporary
  partials : ∀ file ∈ offer.files, flavour.DirectChild (partialName file.fileId)
  partialsApart : ∀ left ∈ offer.files, ∀ right ∈ offer.files, left.fileId ≠ right.fileId →
    ¬flavour.SameName (partialName left.fileId) (partialName right.fileId)
  metadataApart : ∀ file ∈ offer.files,
    ¬flavour.SameName (partialName file.fileId) metadataName ∧
      ¬flavour.SameName (partialName file.fileId) metadataTemporary
  temporaries : ∀ hex, isTransferId hex = true → flavour.DirectChild (commitTemporary hex)
  candidates : ∀ file ∈ offer.files, ∀ index, flavour.DirectChild (candidateName file.name index)
  destinations : ∀ file ∈ offer.files, ∀ (start finish : Commits) (labels : List CommitLabel),
    (∀ call ∈ start.calls, call.destination? = none) →
    Run commitStep anyStep start labels finish → ∀ call ∈ finish.calls, call.filename = file.name →
    ∀ name, call.destination? = some name → flavour.DirectChild name

/-- An accepted offer keeps to the receiver's directories under POSIX rules, and under
Windows rules exactly when no two of its file identifiers differ in case only. -/
theorem stays_inside_iff {platform : Platform} {payload : Json} {offer : TransferOffer}
    (accepted : validateOffer platform payload = .ok offer) (flavour : Flavour) :
    StaysInside flavour offer ↔
      flavour = .posix ∨ (offer.files.map fun file => asciiLower file.fileId).Nodup := by
  obtain ⟨offerable, identified⟩ := validateOffer_offerable accepted
  have candidates (file : IncomingFile) (member : file ∈ offer.files) (index : Nat) :
      flavour.DirectChild (candidateName file.name index) :=
    directChild_of_component
      (component_candidateName (component_filename (offerable.named file member)) index)
  constructor
  · intro inside
    cases flavour with
    | posix => exact .inl rfl
    | windows =>
        refine .inr (List.pairwise_map.mpr ?_)
        refine (List.pairwise_map.mp offerable.distinct).imp_of_mem ?_
        intro left right leftMember rightMember different same
        exact inside.partialsApart left leftMember right rightMember different
          (sameName_partialName.mpr same)
  · intro apart
    refine ⟨directChild_of_component (component_transferId identified), ?_,
      ⟨directChild_of_component ?_, directChild_of_component ?_⟩, ?_, ?_, ?_, ?_, candidates, ?_⟩
    · intro other hex different same
      exact different ((sameName_transferId hex identified).mp same)
    · exact component_of_portable (by decide) (by decide) (by decide) (by decide)
    · exact component_of_portable (by decide) (by decide) (by decide) (by decide)
    · exact fun file member => directChild_of_component
        (component_partialName (offerable.identified file member))
    · intro left leftMember right rightMember different same
      have names := sameName_partialName.mp same
      rcases apart with rfl | lowered
      · exact different names
      · cases flavour with
        | posix => exact different names
        | windows =>
            exact different (congrArg _ (List.inj_on_of_nodup_map lowered leftMember rightMember names))
    · exact fun file _ => partialName_ne_metadata flavour file.fileId
    · exact fun hex random => directChild_of_component (component_commitTemporary random)
    · intro file member start finish labels begun run call callMember named name destination
      obtain ⟨index, rfl⟩ := run_numbered run begun call callMember name destination
      rw [named]
      exact candidates file member index

/-! ## Identifiers that differ in case only -/

def caseFiles : List IncomingFile :=
  [⟨py "a", py "one.txt", 0, List.replicate 64 (chr '0')⟩,
    ⟨py "A", py "two.txt", 0, List.replicate 64 (chr '0')⟩]

def caseOffer : TransferOffer := ⟨List.replicate 32 (chr '0'), caseFiles, 0, none⟩

theorem caseOffer_accepted :
    validateOffer asciiPlatform (offerFrame caseOffer.transferId caseFiles none) = .ok caseOffer := by
  decide

theorem case_offer_inside_posix_only :
    StaysInside .posix caseOffer ∧ ¬StaysInside .windows caseOffer := by
  constructor
  · exact (stays_inside_iff caseOffer_accepted .posix).mpr (.inl rfl)
  · intro inside
    rcases (stays_inside_iff caseOffer_accepted .windows).mp inside with posix | distinct
    · cases posix
    · exact absurd distinct (by decide)

/-- On Windows two files of an accepted offer can share one partial file. -/
theorem case_offer_shares_partial :
    ¬ ∀ (platform : Platform) (payload : Json) (offer : TransferOffer),
      validateOffer platform payload = .ok offer → ∀ flavour, StaysInside flavour offer := by
  intro always
  have inside := always asciiPlatform _ caseOffer caseOffer_accepted .windows
  exact inside.partialsApart _ (List.mem_cons_self) _ (List.mem_cons_of_mem _ List.mem_cons_self)
    (by decide) (by simp only [Flavour.SameName]; decide)

end DirectTransfer
