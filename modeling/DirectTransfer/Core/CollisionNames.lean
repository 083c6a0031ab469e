import DirectTransfer.Core.CommitTermination
import DirectTransfer.Core.PayloadErrors

/-! The name a received file is stored under. The names tried for it are those
of the original with a number before the extension; the first that does not
exist is taken without another look at its length. -/

set_option autoImplicit false

namespace DirectTransfer

open Library

/-! ## Resolving a collision -/

def Platform.flavour (platform : Platform) : Flavour :=
  if platform.windows then .windows else .posix

/-- The loop over the names from `index` on; `none` where `fuel` probes do not end it. -/
def firstMissing (disk : Disk FilePath) (filename : PyStr) : Nat → Nat → Option PyStr
  | 0, _ => none
  | fuel + 1, index =>
      let candidate := candidateName filename index
      if disk.holds (received candidate) then firstMissing disk filename fuel (index + 1)
      else some candidate

/-- Return a name that does not currently exist, preserving the extension.
`directory` holds the components of the resolved receive directory. -/
def resolveDestinationCollision (platform : Platform) (disk : Disk FilePath)
    (directory : List PyStr) (filename : Json) (fuel : Nat) : Option (Except Raised PyStr) :=
  match validateFilename platform filename with
  | .error error =>
      if error.kind.isProtocolError then
        some (.error (raised .valueError "Invalid destination filename"))
      else some (.error error)
  | .ok safeName => (firstMissing disk safeName fuel 0).map fun candidate =>
      if (platform.flavour.join directory candidate).map List.dropLast = some directory then
        .ok candidate
      else .error (raised .valueError "Destination escapes receive directory")

section Search

variable {disk : Disk FilePath} {filename : PyStr}

theorem firstMissing_from {first index : Nat} (free : FirstFree disk filename first)
    (before : index ≤ first) {fuel : Nat} (enough : first - index < fuel) :
    firstMissing disk filename fuel index = some (candidateName filename first) := by
  induction fuel generalizing index with
  | zero => omega
  | succ fuel ih =>
      unfold firstMissing
      by_cases here : index = first
      · subst here
        simp [free.2]
      · have held := free.1 index (by omega)
        simp only [held, ↓reduceIte]
        exact ih (by omega) (by omega)

/-- The search ends, at the first name that does not exist. -/
theorem firstMissing_ends {first fuel : Nat} (free : FirstFree disk filename first)
    (enough : first < fuel) :
    firstMissing disk filename fuel 0 = some (candidateName filename first) :=
  firstMissing_from free (Nat.zero_le first) (by omega)

end Search

/-! ## Where the number goes -/

/-- What is put before the extension. -/
def numbering (index : Nat) : PyStr := py " (" ++ natText index ++ py ")"

def stemOf (filename : PyStr) : PyStr :=
  filename.take (filename.length - (joinedSuffixes filename).length)

theorem stemOf_append (filename : PyStr) :
    stemOf filename ++ joinedSuffixes filename = filename := by
  obtain ⟨stem, whole⟩ := joinedSuffixes_suffix filename
  have lengths : filename.length = stem.length + (joinedSuffixes filename).length := by
    rw [← List.length_append, whole]
  have taken : stemOf filename = stem := by
    rw [stemOf, lengths, Nat.add_sub_cancel]
    conv_lhs => rw [← whole]
    exact List.take_left
  rw [taken, whole]

theorem candidateName_succ (filename : PyStr) (index : Nat) :
    candidateName filename (index + 1) =
      stemOf filename ++ numbering (index + 1) ++ joinedSuffixes filename := by
  simp [candidateName, stemOf, numbering]

/-- A blank, a parenthesis or a digit. -/
def isNumbering (point : CodePoint) : Bool :=
  point.val = 0x20 || (0x28 ≤ point.val && point.val ≤ 0x29) || point.isAsciiDigit

theorem isNumbering_numbering {index : Nat} {point : CodePoint}
    (member : point ∈ numbering index) : isNumbering point = true := by
  have opening : ∀ point ∈ py " (", isNumbering point = true := forall_of_all (by decide)
  have closing : ∀ point ∈ py ")", isNumbering point = true := forall_of_all (by decide)
  have digit : ∀ point ∈ py "0123456789", isNumbering point = true := forall_of_all (by decide)
  simp only [numbering, List.mem_append] at member
  rcases member with (first | number) | last
  · exact opening point first
  · exact digit point (natText_mem number)
  · exact closing point last

theorem isNumbering_iff {point : CodePoint} : isNumbering point = true ↔
    point.val = 0x20 ∨ (0x28 ≤ point.val ∧ point.val ≤ 0x29) ∨
      (0x30 ≤ point.val ∧ point.val ≤ 0x39) := by
  simp [isNumbering, CodePoint.isAsciiDigit, or_assoc]

theorem numbering_ne {index : Nat} {other : CodePoint} (unlike : isNumbering other = false) :
    ∀ point ∈ numbering index, point ≠ other := by
  intro point member same
  rw [← same, isNumbering_numbering member] at unlike
  cases unlike

theorem numbering_ascii {index : Nat} {point : CodePoint} (member : point ∈ numbering index) :
    0x20 ≤ point.val ∧ point.val ≤ 0x7E := by
  have values := isNumbering_iff.mp (isNumbering_numbering member)
  omega

theorem mem_candidateName {filename : PyStr} {index : Nat} {point : CodePoint}
    (member : point ∈ candidateName filename index) :
    point ∈ filename ∨ isNumbering point = true := by
  cases index with
  | zero => exact .inl member
  | succ index =>
      rw [candidateName_succ] at member
      rw [← stemOf_append filename]
      simp only [List.mem_append] at member ⊢
      rcases member with (inStem | added) | inSuffix
      · exact .inl (.inl inStem)
      · exact .inr (isNumbering_numbering added)
      · exact .inl (.inr inSuffix)

/-- The number stands at the end or before a dot. -/
theorem joinedSuffixes_cases (filename : PyStr) :
    joinedSuffixes filename = [] ∨ ∃ rest, joinedSuffixes filename = chr '.' :: rest := by
  unfold joinedSuffixes
  generalize filename.dropWhile (fun point => decide (point = chr '.')) = bare
  induction bare with
  | nil => exact .inl rfl
  | cons first rest ih =>
      by_cases dot : first = chr '.'
      · subst dot
        exact .inr ⟨rest, by simp⟩
      · simpa [dot] using ih

/-- A name that does not begin with a dot has none before the number. -/
theorem stemOf_undotted {filename : PyStr} (plain : filename.head? ≠ some (chr '.')) :
    ∀ point ∈ stemOf filename, point ≠ chr '.' := by
  have bare : filename.dropWhile (fun point => decide (point = chr '.')) = filename := by
    cases filename with
    | nil => rfl
    | cons first rest =>
        have other : first ≠ chr '.' := fun same => plain (by rw [same]; rfl)
        simp [other]
  have split := List.takeWhile_append_dropWhile (l := filename)
    (p := fun point => decide (point ≠ chr '.'))
  have suffix : joinedSuffixes filename =
      filename.dropWhile fun point => decide (point ≠ chr '.') := by
    rw [joinedSuffixes, bare]
  have stem : stemOf filename = filename.takeWhile fun point => decide (point ≠ chr '.') := by
    have whole := stemOf_append filename
    rw [suffix] at whole
    exact List.append_cancel_right (whole.trans split.symm)
  intro point member
  rw [stem] at member
  simpa using List.all_eq_true.mp List.all_takeWhile point member

/-- A leading dot stays in front of the number. -/
theorem stemOf_dotted {rest : PyStr} :
    ∃ more, stemOf (chr '.' :: rest) = chr '.' :: more := by
  have whole := stemOf_append (chr '.' :: rest)
  have shorter : (joinedSuffixes (chr '.' :: rest)).length ≤ rest.length := by
    unfold joinedSuffixes
    rw [List.dropWhile_cons_of_pos (by simp)]
    exact (List.dropWhile_suffix _).length_le.trans (List.dropWhile_suffix _).length_le
  cases stem : stemOf (chr '.' :: rest) with
  | nil =>
      rw [stem, List.nil_append] at whole
      rw [whole] at shorter
      simp at shorter
  | cons first more =>
      rw [stem, List.cons_append] at whole
      exact ⟨more, by rw [(List.cons.inj whole).1]⟩

/-! ## Length -/

/-- Octets the number adds. -/
def numberingOctets (index : Nat) : Nat := if index = 0 then 0 else 3 + (natText index).length

theorem natText_length (value : Nat) : (natText (value + 1)).length =
    (Nat.digits 10 (value + 1)).length := by
  simp [natText]

theorem numberingOctets_mono {left right : Nat} (before : left ≤ right) :
    numberingOctets left ≤ numberingOctets right := by
  cases left with
  | zero => exact Nat.zero_le _
  | succ left =>
      cases right with
      | zero => cases before
      | succ right =>
          simp only [numberingOctets, Nat.succ_ne_zero, ↓reduceIte, natText_length]
          exact Nat.add_le_add_left (Nat.le_length_digits_le 10 _ _ before) 3

theorem utf8Length_append {left right : PyStr} {first second : Nat}
    (encodedLeft : utf8Length left = some first) (encodedRight : utf8Length right = some second) :
    utf8Length (left ++ right) = some (first + second) := by
  induction left generalizing first with
  | nil =>
      cases encodedLeft
      simpa using encodedRight
  | cons point rest ih =>
      unfold utf8Length at encodedLeft
      split at encodedLeft
      · cases encodedLeft
      · next plain =>
          obtain ⟨size, encodedRest, total⟩ := Option.map_eq_some_iff.mp encodedLeft
          rw [List.cons_append, utf8Length, if_neg plain, ih encodedRest, Option.map_some,
            ← total, Nat.add_right_comm]

theorem utf8Length_ascii {text : PyStr}
    (ascii : ∀ point ∈ text, 0x20 ≤ point.val ∧ point.val ≤ 0x7E) :
    utf8Length text = some text.length := by
  induction text with
  | nil => rfl
  | cons point rest ih =>
      obtain ⟨low, high⟩ := ascii point List.mem_cons_self
      have plain : point.isSurrogate = false := by
        simp only [CodePoint.isSurrogate, Bool.and_eq_false_iff, decide_eq_false_iff_not]
        omega
      rw [utf8Length, ih fun other member => ascii other (List.mem_cons_of_mem _ member)]
      simp [plain, show point.val < 0x80 by omega]

theorem length_le_utf8Length {text : PyStr} {octets : Nat} (encoded : utf8Length text = some octets) :
    text.length ≤ octets := by
  induction text generalizing octets with
  | nil => exact Nat.zero_le octets
  | cons point rest ih =>
      unfold utf8Length at encoded
      split at encoded
      · cases encoded
      · obtain ⟨size, encodedRest, total⟩ := Option.map_eq_some_iff.mp encoded
        have shorter := ih encodedRest
        simp only [List.length_cons]
        repeat' split at total
        all_goals omega

theorem utf8Length_split {left right : PyStr} {octets : Nat}
    (encoded : utf8Length (left ++ right) = some octets) :
    ∃ first second, utf8Length left = some first ∧ utf8Length right = some second ∧
      first + second = octets := by
  have known (text : PyStr) (plain : ∀ point ∈ text, point ∈ left ++ right) :
      ∃ size, utf8Length text = some size := by
    apply Option.ne_none_iff_exists'.mp
    intro surrogate
    obtain ⟨point, member, high⟩ := utf8Length_eq_none_iff.mp surrogate
    rw [utf8Length_eq_none_iff.mpr ⟨point, plain point member, high⟩] at encoded
    cases encoded
  obtain ⟨first, encodedLeft⟩ := known left fun point member => List.mem_append_left _ member
  obtain ⟨second, encodedRight⟩ := known right fun point member => List.mem_append_right _ member
  refine ⟨first, second, encodedLeft, encodedRight, ?_⟩
  rw [utf8Length_append encodedLeft encodedRight] at encoded
  exact Option.some.inj encoded

theorem utf8Length_candidateName {filename : PyStr} {octets : Nat}
    (encoded : utf8Length filename = some octets) (index : Nat) :
    utf8Length (candidateName filename index) = some (octets + numberingOctets index) := by
  cases index with
  | zero => exact encoded
  | succ index =>
      have whole := encoded
      rw [← stemOf_append filename] at whole
      obtain ⟨first, second, encodedStem, encodedSuffix, total⟩ := utf8Length_split whole
      have added := utf8Length_ascii fun point => @numbering_ascii (index + 1) point
      rw [candidateName_succ,
        utf8Length_append (utf8Length_append encodedStem added) encodedSuffix]
      have size : (numbering (index + 1)).length = numberingOctets (index + 1) := by
        simp [numbering, numberingOctets, py]
        omega
      rw [size, ← total]
      congr 1
      omega

/-! ## The checks a numbered name passes -/

theorem rstrip_eq_self_iff {drop : CodePoint → Bool} {text : PyStr} :
    text = rstrip drop text ↔ ∀ last, text.getLast? = some last → drop last = false := by
  unfold rstrip
  rw [← List.head?_reverse]
  constructor
  · intro same last final
    have reversed := congrArg List.reverse same
    rw [List.reverse_reverse] at reversed
    cases letters : text.reverse with
    | nil =>
        rw [letters] at final
        cases final
    | cons first rest =>
        rw [letters] at reversed final
        cases final
        by_contra dropped
        rw [List.dropWhile_cons_of_pos (by simpa using dropped)] at reversed
        have shorter := (List.dropWhile_suffix (l := rest) drop).length_le
        rw [← reversed] at shorter
        simp at shorter
  · intro kept
    cases letters : text.reverse with
    | nil => simpa using letters
    | cons first rest =>
        rw [List.dropWhile_cons_of_neg (by simp [kept first (by rw [letters]; rfl)]), ← letters,
          List.reverse_reverse]

theorem numbering_last (index : Nat) : (numbering index).getLast? = some (chr ')') := by
  rw [numbering, List.getLast?_append]
  rfl

theorem candidateName_untrimmed {filename : PyStr} {drop : CodePoint → Bool}
    (keeps : drop (chr ')') = false) (untrimmed : filename = rstrip drop filename) (index : Nat) :
    candidateName filename index = rstrip drop (candidateName filename index) := by
  rw [rstrip_eq_self_iff] at untrimmed ⊢
  cases index with
  | zero => exact untrimmed
  | succ index =>
      intro last final
      rw [candidateName_succ] at final
      rcases joinedSuffixes_cases filename with bare | ⟨rest, extension⟩
      · rw [bare, List.append_nil, List.getLast?_append, numbering_last] at final
        cases final
        exact keeps
      · apply untrimmed last
        rw [← stemOf_append filename, extension]
        rw [extension] at final
        simpa [List.getLast?_append] using final

/-- A component of a path is the last component of itself. -/
theorem pureWindowsPathName_component {name : PyStr} (component : Flavour.windows.Component name) :
    pureWindowsPathName name = name := by
  have alone : pathComponents isWindowsSlash name = [name] :=
    pathComponents_single component.nonempty component.notDot component.unseparated
  have driveless := (unanchored_iff.mp component.undriven).2 rfl
  unfold pureWindowsPathName
  split
  · next letter second rest =>
      have other : second ≠ chr ':' := fun colon => driveless (by rw [colon]; rfl)
      rw [if_neg other, lastComponent, alone]
      rfl
  · rw [lastComponent, alone]
    rfl

theorem purePosixPathName_component {name : PyStr} (component : Flavour.posix.Component name) :
    purePosixPathName name = name := by
  have alone : pathComponents isSlash name = [name] :=
    pathComponents_single component.nonempty component.notDot fun point member => by
      simpa [Flavour.isSeparator, isSlash] using component.unseparated point member
  rw [purePosixPathName, lastComponent, alone]
  rfl

/-! ## Device names -/

/-- `name.partition(".")[0]` -/
def beforeDot (name : PyStr) : PyStr := name.takeWhile fun point => point ≠ chr '.'

/-- `ntpath.isreserved` of a name without separators or drive. -/
def ntIsReserved (platform : Platform) (name : PyStr) : Bool :=
  if name.getLast? = some (chr '.') ∨ name.getLast? = some (chr ' ') then
    name ≠ py "." && name ≠ py ".."
  else if name.any fun point => point.val < 0x20 || (py "\"*:<>?|/\\").contains point then true
  else windowsReservedNames.contains
    (platform.upper (rstrip (fun point => point = chr ' ') (beforeDot name)))

theorem beforeDot_append {left right : PyStr} (bare : ∀ point ∈ left, point ≠ chr '.') :
    beforeDot (left ++ right) = left ++ beforeDot right :=
  List.takeWhile_append_of_pos (by simpa using bare)

/-- What the host knows of device names, and that upper case leaves a
parenthesis as it is. -/
structure Platform.KnowsDevices (platform : Platform) : Prop where
  reserved : ∀ isReserved, platform.isReserved = some isReserved → ∀ name,
    Flavour.windows.Component name → isReserved name = ntIsReserved platform name
  upper : ∀ text, ∃ raised, platform.upper (text ++ [chr ')']) = raised ++ [chr ')']

theorem numbered_not_reserved {platform : Platform} (host : platform.KnowsDevices) (stem : PyStr)
    (index : Nat) : windowsReservedNames.contains
      (platform.upper (rstrip (fun point => point = chr ' ') (stem ++ numbering index))) = false := by
  have kept : rstrip (fun point => point = chr ' ') (stem ++ numbering index) =
      stem ++ numbering index := by
    refine (rstrip_eq_self_iff.mpr fun last final => ?_).symm
    rw [List.getLast?_append, numbering_last] at final
    cases final
    rfl
  have ending : stem ++ numbering index = (stem ++ py " (" ++ natText index) ++ [chr ')'] := by
    simp [numbering, py]
  obtain ⟨raised, uppercase⟩ := host.upper (stem ++ py " (" ++ natText index)
  rw [kept, ending, uppercase]
  have none_ends : ∀ device ∈ windowsReservedNames, device.getLast? ≠ some (chr ')') := by decide
  rw [Bool.eq_false_iff]
  intro device
  exact none_ends _ (List.contains_iff_mem.mp device) (by simp)

/-- Before the first dot stands what stood there, followed by the number or not. -/
theorem beforeDot_candidateName (filename : PyStr) (index : Nat) :
    beforeDot (candidateName filename (index + 1)) = beforeDot filename ∨
      beforeDot (candidateName filename (index + 1)) =
        beforeDot filename ++ numbering (index + 1) := by
  by_cases hidden : filename.head? = some (chr '.')
  · left
    obtain ⟨rest, rfl⟩ := List.head?_eq_some_iff.mp hidden
    obtain ⟨more, stem⟩ := @stemOf_dotted rest
    rw [candidateName_succ, stem]
    simp [beforeDot]
  · right
    have bare := stemOf_undotted hidden
    have added := @numbering_ne (index + 1) (chr '.') (by decide)
    have after : beforeDot (joinedSuffixes filename) = [] := by
      rcases joinedSuffixes_cases filename with none | ⟨rest, extension⟩
      · rw [none]
        rfl
      · simp [beforeDot, extension]
    have stem : beforeDot filename = stemOf filename := by
      conv_lhs => rw [← stemOf_append filename]
      rw [beforeDot_append bare, after, List.append_nil]
    rw [stem, candidateName_succ, List.append_assoc, beforeDot_append bare,
      beforeDot_append added, after, List.append_nil]

theorem pureWindowsPathIsReserved_candidateName {platform : Platform}
    (host : platform.KnowsDevices) {filename : PyStr}
    (unreserved : pureWindowsPathIsReserved platform filename = false) (index : Nat) :
    pureWindowsPathIsReserved platform (candidateName filename index) = false := by
  have beforeColon (name : PyStr) : pureWindowsPathIsReserved platform name =
      windowsReservedNames.contains (platform.upper (rstrip (fun point => point = chr ' ')
        ((beforeDot name).takeWhile fun point => point ≠ chr ':'))) := rfl
  cases index with
  | zero => exact unreserved
  | succ index =>
      rw [beforeColon] at unreserved ⊢
      rcases beforeDot_candidateName filename index with same | numbered
      · rw [same]
        exact unreserved
      · have added := @numbering_ne (index + 1) (chr ':') (by decide)
        rw [numbered, List.takeWhile_append]
        split
        · have whole : (numbering (index + 1)).takeWhile (fun point => point ≠ chr ':') =
              numbering (index + 1) := by
            have kept := @List.takeWhile_append_of_pos _ (fun point => decide (point ≠ chr ':'))
              _ [] (by simpa using added)
            simpa using kept
          rw [whole]
          exact numbered_not_reserved host _ (index + 1)
        · exact unreserved

theorem ntIsReserved_candidateName {platform : Platform} (host : platform.KnowsDevices)
    {filename : PyStr}
    (untrimmed : filename = rstrip (fun point => point = chr ' ' || point = chr '.') filename)
    (unreserved : ntIsReserved platform filename = false) (index : Nat) :
    ntIsReserved platform (candidateName filename index) = false := by
  cases index with
  | zero => exact unreserved
  | succ index =>
      have finals (name : PyStr)
          (kept : name = rstrip (fun point => point = chr ' ' || point = chr '.') name) :
          ¬ (name.getLast? = some (chr '.') ∨ name.getLast? = some (chr ' ')) := by
        rw [rstrip_eq_self_iff] at kept
        rintro (dot | space)
        · exact absurd (kept _ dot) (by decide)
        · exact absurd (kept _ space) (by decide)
      have renamed := candidateName_untrimmed (by decide) untrimmed (index + 1)
      unfold ntIsReserved at unreserved ⊢
      rw [if_neg (finals _ untrimmed)] at unreserved
      rw [if_neg (finals _ renamed)]
      split at unreserved
      · cases unreserved
      · next allowed =>
          rw [if_neg]
          · rcases beforeDot_candidateName filename index with same | numbered
            · rw [same]
              exact unreserved
            · rw [numbered]
              exact numbered_not_reserved host _ (index + 1)
          · simp only [List.any_eq_true, not_exists, not_and] at allowed ⊢
            intro point member
            rcases mem_candidateName member with old | added
            · exact allowed point old
            · have special : ∀ point ∈ py "\"*:<>?|/\\", isNumbering point = false :=
                forall_of_all (by decide)
              have values := isNumbering_iff.mp added
              simp only [Bool.or_eq_true, decide_eq_true_eq, List.contains_iff_mem, not_or]
              constructor
              · omega
              · intro listed
                rw [special point listed] at added
                cases added

/-! ## The name that is returned -/

section Returned

variable {platform : Platform} {disk : Disk FilePath} {directory : List PyStr} {filename : PyStr}

theorem component_of_portableName (portable : Portable platform filename) (flavour : Flavour) :
    flavour.Component filename :=
  component_filename (sanitizeFilename_iff.mpr ⟨rfl, portable⟩)

/-- Nothing but its length keeps a numbered name from being valid. -/
theorem portable_candidateName (host : platform.KnowsDevices)
    (portable : Portable platform filename) {octets : Nat}
    (encoded : utf8Length filename = some octets) (index : Nat) :
    Portable platform (candidateName filename index) ↔ octets + numberingOctets index ≤ 255 := by
  have renamed := utf8Length_candidateName encoded index
  have component (flavour : Flavour) : flavour.Component (candidateName filename index) :=
    component_candidateName (component_of_portableName portable flavour) index
  constructor
  · intro valid
    obtain ⟨size, encodedName, fits⟩ := valid.encoded
    rw [renamed] at encodedName
    cases encodedName
    exact fits
  · intro fits
    exact {
      nonempty := (component .posix).nonempty
      bounded := (length_le_utf8Length renamed).trans fits
      encoded := ⟨_, renamed, fits⟩
      printable := by
        rw [List.all_eq_true]
        intro point member
        rcases mem_candidateName member with old | added
        · exact List.all_eq_true.mp portable.printable point old
        · have values := isNumbering_iff.mp added
          exact platform.printable_of_ascii point (by omega) (by omega)
      untrimmed := candidateName_untrimmed rfl portable.untrimmed index
      component := by
        unfold pathName
        split
        · exact pureWindowsPathName_component (component .windows)
        · exact purePosixPathName_component (component .posix)
      windowsComponent := pureWindowsPathName_component (component .windows)
      unreserved := by
        have unreserved := portable.unreserved
        unfold isReservedFilename at unreserved ⊢
        cases known : platform.isReserved with
        | none =>
            rw [known] at unreserved
            exact pureWindowsPathIsReserved_candidateName host unreserved index
        | some isReserved =>
            rw [known] at unreserved
            have before := host.reserved isReserved known filename
              (component_of_portableName portable .windows)
            dsimp only at unreserved ⊢
            rw [before] at unreserved
            rw [host.reserved isReserved known _ (component .windows)]
            exact ntIsReserved_candidateName host portable.untrimmed unreserved index
      plain := by
        simpa using ⟨(component .posix).notDot, (component .posix).notDotDot⟩ }

/-- With enough probes the call returns the first name that does not exist. -/
def ResolvesTo (platform : Platform) (disk : Disk FilePath) (directory : List PyStr)
    (filename : PyStr) (index : Nat) : Prop :=
  FirstFree disk filename index ∧ ∀ fuel, index < fuel →
    resolveDestinationCollision platform disk directory (.str filename) fuel =
      some (.ok (candidateName filename index))

theorem resolvesTo_firstFree (accepted : validateFilename platform (.str filename) = .ok filename)
    {index : Nat} (free : FirstFree disk filename index) :
    ResolvesTo platform disk directory filename index := by
  refine ⟨free, fun fuel enough => ?_⟩
  have portable := (sanitizeFilename_iff.mp accepted).2
  have inside := (component_candidateName
    (component_of_portableName portable platform.flavour) index).join directory
  unfold resolveDestinationCollision
  rw [accepted]
  simp only [firstMissing_ends free enough, Option.map_some, inside, List.dropLast_concat,
    ↓reduceIte]

/-- The name returned for a valid one is the first free of pairwise distinct
names, and it is valid exactly if some free name among them is short enough. -/
theorem collision_name_valid_iff (host : platform.KnowsDevices) {octets : Nat}
    (accepted : validateFilename platform (.str filename) = .ok filename)
    (encoded : utf8Length filename = some octets) :
    (∃ index, ResolvesTo platform disk directory filename index ∧
        (∀ left right, candidateName filename left = candidateName filename right → left = right) ∧
        validateFilename platform (.str (candidateName filename index)) =
          .ok (candidateName filename index)) ↔
      ∃ index, disk.holds (received (candidateName filename index)) = false ∧
        octets + numberingOctets index ≤ 255 := by
  have portable := (sanitizeFilename_iff.mp accepted).2
  have valid_iff (index : Nat) : validateFilename platform (.str (candidateName filename index)) =
      .ok (candidateName filename index) ↔ octets + numberingOctets index ≤ 255 := by
    rw [← portable_candidateName host portable encoded index]
    constructor
    · intro valid
      exact (sanitizeFilename_iff.mp valid).2
    · intro renamed
      exact sanitizeFilename_iff.mpr ⟨rfl, renamed⟩
  constructor
  · intro returned
    obtain ⟨index, resolved, _, valid⟩ := returned
    exact ⟨index, resolved.1.2, (valid_iff index).mp valid⟩
  · intro short
    obtain ⟨index, missing, fits⟩ := short
    obtain ⟨first, free⟩ := exists_firstFree disk filename
    have before : first ≤ index := by
      by_contra after
      rw [free.1 index (by omega)] at missing
      cases missing
    have longer := numberingOctets_mono before
    refine ⟨first, resolvesTo_firstFree accepted free, fun _ _ => candidateName_inj, ?_⟩
    exact (valid_iff first).mpr (by omega)

end Returned

theorem asciiPlatform_knowsDevices : asciiPlatform.KnowsDevices where
  reserved _ known := nomatch known
  upper text := ⟨asciiPlatform.upper text, by simp [asciiPlatform]; decide⟩

/-- A second `note.txt` becomes `note (1).txt`. -/
theorem second_note_valid : ∃ index,
    ResolvesTo asciiPlatform (Disk.empty.create (received (py "note.txt")) []) [] (py "note.txt")
        index ∧
      (∀ left right, candidateName (py "note.txt") left = candidateName (py "note.txt") right →
        left = right) ∧
      validateFilename asciiPlatform (.str (candidateName (py "note.txt") index)) =
        .ok (candidateName (py "note.txt") index) :=
  (collision_name_valid_iff asciiPlatform_knowsDevices (by decide)
    (show utf8Length (py "note.txt") = some 8 by decide)).mpr
    ⟨1, by decide, by decide⟩

/-- 252 letters. -/
def longName : PyStr := List.replicate 252 (chr 'a')

/-- A second file with a name of 252 octets is given one of 256. -/
theorem long_name_outgrows :
    validateFilename asciiPlatform (.str longName) = .ok longName ∧
      ResolvesTo asciiPlatform (Disk.empty.create (received longName) []) [] longName 1 ∧
      validateFilename asciiPlatform (.str (candidateName longName 1)) =
        .error (raised .protocolError "Invalid filename") := by
  have accepted : validateFilename asciiPlatform (.str longName) = .ok longName := by
    decide +kernel
  have free : FirstFree (Disk.empty.create (received longName) []) longName 1 := by
    constructor
    · intro earlier before
      rw [Nat.lt_one_iff.mp before]
      decide +kernel
    · decide +kernel
  refine ⟨accepted, resolvesTo_firstFree accepted free, ?_⟩
  decide +kernel

end DirectTransfer
