import DirectTransfer.Core.ReceiverProperties

/-! Which exceptions the validators of untrusted payloads raise. A name that
cannot be encoded and an unhashable file identifier escape them as something
other than a `ProtocolError`. -/

set_option autoImplicit false

namespace DirectTransfer

open Library

section Foreign

variable {α β : Type}

/-- The call raises something other than a plain `ProtocolError`. -/
def Foreign (result : Except Raised α) : Prop :=
  ∃ error, result = .error error ∧ error.kind ≠ .protocolError

/-- The call returns a value within its contract or raises `ProtocolError`. -/
def Contained (contract : α → Prop) (result : Except Raised α) : Prop :=
  ¬ Foreign result ∧ ∀ value, result = .ok value → contract value

@[simp] theorem foreign_ok (value : α) : ¬ Foreign (.ok value : Except Raised α) := by
  intro foreign
  obtain ⟨error, same, _⟩ := foreign
  cases same

@[simp] theorem foreign_error (error : Raised) :
    Foreign (.error error : Except Raised α) ↔ error.kind ≠ .protocolError := by
  constructor
  · intro foreign
    obtain ⟨other, same, kind⟩ := foreign
    cases same
    exact kind
  · intro kind
    exact ⟨error, rfl, kind⟩

theorem foreign_bind {first : Except Raised α} {next : α → Except Raised β} :
    Foreign (first >>= next) ↔
      Foreign first ∨ ∃ value, first = .ok value ∧ Foreign (next value) := by
  cases first with
  | error error => simp [bind, Except.bind]
  | ok value => simp [bind, Except.bind]

theorem not_foreign {result : Except Raised α}
    (only : ∀ error, result = .error error → error.kind = .protocolError) : ¬ Foreign result := by
  intro foreign
  obtain ⟨error, failed, kind⟩ := foreign
  exact kind (only error failed)

end Foreign

/-! ## Names -/

/-- A name that passes the length check and that UTF-8 cannot encode. -/
structure Unencodable (name : PyStr) : Prop where
  nonempty : name ≠ []
  bounded : name.length ≤ 255
  surrogate : ∃ point ∈ name, point.isSurrogate = true

theorem utf8Length_eq_none_iff {text : PyStr} :
    utf8Length text = none ↔ ∃ point ∈ text, point.isSurrogate = true := by
  induction text with
  | nil => simp [utf8Length]
  | cons point rest ih =>
      cases surrogate : point.isSurrogate with
      | true => simp [utf8Length, surrogate]
      | false => simp [utf8Length, surrogate, ih]

theorem sanitizeFilename_foreign {platform : Platform} {name : PyStr} :
    Foreign (sanitizeFilename platform name) ↔ Unencodable name := by
  unfold sanitizeFilename
  split
  · next short =>
      simp only [foreign_error, raised, ne_eq, not_true_eq_false, false_iff]
      intro unencodable
      cases short with
      | inl empty => exact unencodable.nonempty empty
      | inr long => exact absurd unencodable.bounded (Nat.not_le.mpr long)
  · next fits =>
      simp only [not_or, not_lt] at fits
      split
      · next refused =>
          simp only [foreign_error, raised, ne_eq, reduceCtorEq, not_false_eq_true, true_iff]
          exact ⟨fits.1, fits.2, utf8Length_eq_none_iff.mp refused⟩
      · next octets encoded =>
          have plain : ¬ Unencodable name := by
            intro unencodable
            rw [utf8Length_eq_none_iff.mpr unencodable.surrogate] at encoded
            cases encoded
          simp only [plain, iff_false]
          repeat' split
          all_goals simp [raised]

/-- The names that pass every check of `sanitizeFilename`. -/
structure Portable (platform : Platform) (name : PyStr) : Prop where
  nonempty : name ≠ []
  bounded : name.length ≤ 255
  encoded : ∃ octets, utf8Length name = some octets ∧ octets ≤ 255
  printable : name.all platform.isPrintable = true
  untrimmed : name = rstrip (fun point => point = chr ' ' || point = chr '.') name
  component : pathName platform name = name
  windowsComponent : pureWindowsPathName name = name
  unreserved : isReservedFilename platform name = false
  plain : name ∉ [py ".", py ".."]

theorem sanitizeFilename_iff {platform : Platform} {value name : PyStr} :
    sanitizeFilename platform value = .ok name ↔ value = name ∧ Portable platform name := by
  unfold sanitizeFilename
  constructor
  · intro valid
    repeat' split at valid
    all_goals try cases valid
    next fits _ octets encoded printable component =>
      simp only [not_or, not_lt, ne_eq, not_not, Bool.not_eq_false, Bool.not_eq_true]
        at fits printable component
      exact ⟨rfl, fits.1, fits.2, ⟨octets, encoded, printable.1⟩, printable.2.1, printable.2.2,
        component.1, component.2.1, component.2.2.1, component.2.2.2⟩
  · intro valid
    obtain ⟨same, portable⟩ := valid
    subst same
    obtain ⟨octets, encoded, small⟩ := portable.encoded
    have first : ¬ (value = [] ∨ 255 < value.length) := by
      simp [portable.nonempty, portable.bounded]
    have second : ¬ (255 < octets ∨ value.all platform.isPrintable = false ∨
        value ≠ rstrip (fun point => point = chr ' ' || point = chr '.') value) := by
      simp only [not_or, not_lt, ne_eq, not_not, Bool.not_eq_false]
      exact ⟨small, portable.printable, portable.untrimmed⟩
    have third : ¬ (pathName platform value ≠ value ∨ pureWindowsPathName value ≠ value ∨
        isReservedFilename platform value = true ∨ value ∈ [py ".", py ".."]) := by
      simp only [not_or, ne_eq, not_not, Bool.not_eq_true]
      exact ⟨portable.component, portable.windowsComponent, portable.unreserved, portable.plain⟩
    rw [if_neg first, encoded]
    simp only [if_neg second, if_neg third]

/-! ## Offers -/

/-- The entry passes every check of the loop over `files`, given the
identifiers before it. -/
structure Describes (platform : Platform) (seen : List PyStr) (raw : Json)
    (file : IncomingFile) : Prop where
  dict : raw.isDict = true
  fileId : raw.field "file_id" = .str file.fileId
  identified : isFileId file.fileId = true
  fresh : file.fileId ∉ seen
  name : raw.field "name" = .str file.name
  portable : Portable platform file.name
  size : raw.field "size" = .int file.size
  sized : file.size ≤ maxFileSize
  sha256 : raw.field "sha256" = .str file.sha256
  hashed : file.sha256.length = 64 ∧ file.sha256.all isLowerHex = true

theorem validateFile_iff {platform : Platform} {seen : List PyStr} {raw : Json}
    {file : IncomingFile} :
    validateFile platform seen raw = .ok file ↔ Describes platform seen raw file := by
  unfold validateFile
  simp only [bind, Except.bind, pure, Except.pure, throw, throwThe, MonadExceptOf.throw]
  constructor
  · intro valid
    repeat' split at valid
    all_goals try cases valid
    next dict _ fileId identifier identified _ name named _ size sizeField bounded _ digest
        digestField hashed =>
      simp only [not_or, Bool.not_eq_false, not_not, ne_eq] at identified bounded hashed dict
      cases nameField : raw.field "name" with
      | str text =>
          rw [nameField] at named
          obtain ⟨same, portable⟩ := sanitizeFilename_iff.mp named
          subst same
          exact ⟨dict, identifier, identified.1, identified.2, nameField, portable,
            by rw [sizeField, Int.toNat_of_nonneg bounded.1], by dsimp only; omega, digestField,
            hashed⟩
      | _ => rw [nameField] at named; cases named
  · intro describes
    have named : validateFilename platform (raw.field "name") = .ok file.name := by
      rw [describes.name]
      exact sanitizeFilename_iff.mpr ⟨rfl, describes.portable⟩
    have known : ¬ (isFileId file.fileId = false ∨ file.fileId ∈ seen) := by
      simp [describes.identified, describes.fresh]
    have sized : ¬ ¬ ((0 : Int) ≤ file.size ∧ (file.size : Int) ≤ maxFileSize) := by
      have := describes.sized
      omega
    have hashed : ¬ (file.sha256.length ≠ 64 ∨ file.sha256.all isLowerHex = false) := by
      simp [describes.hashed]
    simp only [describes.dict, describes.fileId, if_neg known, named, describes.size, if_neg sized,
      describes.sha256, if_neg hashed, Bool.true_eq_false, if_false, Int.toNat_natCast]

/-- The loop over `files` comes to a name that UTF-8 cannot encode. -/
inductive MeetsUnencodable (platform : Platform) : List Json → List PyStr → Nat → Prop
  | here {raw : Json} {rest : List Json} {seen : List PyStr} {total : Nat} {fileId name : PyStr} :
      raw.isDict = true → raw.field "file_id" = .str fileId → isFileId fileId = true →
      fileId ∉ seen → raw.field "name" = .str name → Unencodable name →
      MeetsUnencodable platform (raw :: rest) seen total
  | later {raw : Json} {rest : List Json} {seen : List PyStr} {total : Nat}
      {file : IncomingFile} :
      Describes platform seen raw file → total + file.size ≤ maxSessionSize →
      MeetsUnencodable platform rest (file.fileId :: seen) (total + file.size) →
      MeetsUnencodable platform (raw :: rest) seen total

theorem validateFile_foreign {platform : Platform} {seen : List PyStr} {raw : Json} :
    Foreign (validateFile platform seen raw) ↔
      raw.isDict = true ∧ ∃ fileId name, raw.field "file_id" = .str fileId ∧
        isFileId fileId = true ∧ fileId ∉ seen ∧ raw.field "name" = .str name ∧
        Unencodable name := by
  constructor
  · intro foreign
    obtain ⟨error, failed, kind⟩ := foreign
    unfold validateFile at failed
    simp only [bind, Except.bind, pure, Except.pure, throw, throwThe, MonadExceptOf.throw]
      at failed
    repeat' split at failed
    all_goals cases failed
    all_goals try exact absurd rfl kind
    next dict _ fileId identifier identified _ named =>
      simp only [not_or, Bool.not_eq_false] at identified dict
      cases nameField : raw.field "name" with
      | str text =>
          rw [nameField] at named
          exact ⟨dict, fileId, text, identifier, identified.1, identified.2, rfl,
            sanitizeFilename_foreign.mp ⟨_, named, kind⟩⟩
      | _ =>
          rw [nameField] at named
          cases named
          exact absurd rfl kind
  · intro reached
    obtain ⟨dict, fileId, name, identifier, identified, fresh, nameField, unencodable⟩ := reached
    obtain ⟨error, refused, kind⟩ := (@sanitizeFilename_foreign platform name).mpr unencodable
    have known : ¬ (isFileId fileId = false ∨ fileId ∈ seen) := by simp [identified, fresh]
    refine ⟨error, ?_, kind⟩
    unfold validateFile validateFilename
    simp only [dict, identifier, if_neg known, nameField, refused, bind, Except.bind,
      Bool.true_eq_false, if_false]

theorem validateFiles_foreign {platform : Platform} {raws : List Json} {seen : List PyStr}
    {total : Nat} :
    Foreign (validateFiles platform raws seen total) ↔
      MeetsUnencodable platform raws seen total := by
  induction raws generalizing seen total with
  | nil =>
      simp only [validateFiles, foreign_ok, false_iff]
      intro meets
      cases meets
  | cons raw rest ih =>
      have loop : Foreign (validateFiles platform (raw :: rest) seen total) ↔
          Foreign (validateFile platform seen raw) ∨ ∃ file,
            validateFile platform seen raw = .ok file ∧ total + file.size ≤ maxSessionSize ∧
              Foreign (validateFiles platform rest (file.fileId :: seen) (total + file.size)) := by
        rw [validateFiles, foreign_bind]
        refine or_congr_right (exists_congr fun file => and_congr_right fun _ => ?_)
        by_cases large : total + file.size > maxSessionSize
        · simp [large, throw, throwThe, MonadExceptOf.throw, bind, Except.bind, raised]
        · simp [large, foreign_bind, Nat.not_lt.mp large, pure, Except.pure]
      rw [loop, validateFile_foreign]
      constructor
      · intro met
        cases met with
        | inl met =>
            obtain ⟨dict, fileId, name, identifier, identified, fresh, named, bad⟩ := met
            exact .here dict identifier identified fresh named bad
        | inr met =>
            obtain ⟨file, valid, small, foreign⟩ := met
            exact .later (validateFile_iff.mp valid) small (ih.mp foreign)
      · intro meets
        cases meets with
        | here dict identifier identified fresh named bad =>
            exact .inl ⟨dict, _, _, identifier, identified, fresh, named, bad⟩
        | later describes small later =>
            exact .inr ⟨_, validateFile_iff.mpr describes, small, ih.mpr later⟩

/-- An offer comes to a name that UTF-8 cannot encode. -/
structure OffersUnencodable (platform : Platform) (payload : Json) : Prop where
  dict : payload.isDict = true
  type : payload.field "type" = .str (py "transfer_offer")
  version : (Json.int protocolVersion).pyEq (payload.field "version") = true
  identified : ∃ text, payload.field "transfer_id" = .str text ∧ isTransferId text = true
  files : ∃ rawFiles, payload.field "files" = .arr rawFiles ∧
    payload.field "count" = .int rawFiles.length ∧
    (1 ≤ rawFiles.length ∧ rawFiles.length ≤ maxFilesPerSession) ∧
    MeetsUnencodable platform rawFiles [] 0

theorem validateTransferId_foreign {value : Json} : ¬ Foreign (validateTransferId value) :=
  not_foreign fun _ failed => validateTransferId_error failed

theorem validateTransferId_iff {value : Json} {transferId : PyStr} :
    validateTransferId value = .ok transferId ↔
      value = .str transferId ∧ isTransferId transferId = true := by
  unfold validateTransferId
  constructor
  · intro valid
    repeat' split at valid
    all_goals cases valid
    next accepted => exact ⟨rfl, accepted⟩
  · intro valid
    obtain ⟨same, accepted⟩ := valid
    subst same
    simp [accepted]

theorem validateOffer_foreign {platform : Platform} {payload : Json} :
    Foreign (validateOffer platform payload) ↔ OffersUnencodable platform payload := by
  constructor
  · intro foreign
    obtain ⟨error, failed, kind⟩ := foreign
    unfold validateOffer at failed
    simp only [bind, Except.bind, pure, Except.pure, throw, throwThe, MonadExceptOf.throw]
      at failed
    repeat' split at failed
    all_goals cases failed
    all_goals try exact absurd rfl kind
    all_goals try exact absurd (validateTransferId_error ‹_›) kind
    all_goals try exact absurd (validateMessage_error ‹_›) kind
    next typed version _ transferId identified _ _ rawFiles count listed counted sized _ failed =>
      simp only [not_or, not_not, ne_eq, Bool.not_eq_false] at typed version sized
      have lengths : 1 ≤ rawFiles.length ∧ rawFiles.length ≤ maxFilesPerSession := by omega
      exact ⟨typed.1, typed.2, version, ⟨transferId, validateTransferId_iff.mp identified⟩,
        rawFiles, listed, by rw [counted, sized.1], lengths,
        validateFiles_foreign.mp ⟨_, failed, kind⟩⟩
  · intro offers
    obtain ⟨text, transferId, identified⟩ := offers.identified
    obtain ⟨rawFiles, listed, counted, lengths, meets⟩ := offers.files
    obtain ⟨error, failed, kind⟩ := validateFiles_foreign.mpr meets
    have sized : ¬ (False ∨
        ¬ (1 ≤ (rawFiles.length : Int) ∧ (rawFiles.length : Int) ≤ maxFilesPerSession)) := by
      rw [false_or]
      omega
    refine ⟨error, ?_, kind⟩
    unfold validateOffer
    simp only [offers.dict, offers.type, offers.version, transferId,
      validateTransferId_iff.mpr ⟨rfl, identified⟩, listed, counted, failed, bind, Except.bind,
      ne_eq, not_true_eq_false, Bool.true_eq_false, or_self, if_false]
    exact if_neg sized

/-- What `validate_offer` promises of the offers it returns. -/
structure ValidOffer (platform : Platform) (offer : TransferOffer) : Prop where
  identified : isTransferId offer.transferId = true
  files : Offerable platform offer.files
  counted : 1 ≤ offer.files.length ∧ offer.files.length ≤ maxFilesPerSession
  totalled : offer.totalSize = (offer.files.map IncomingFile.size).sum
  bounded : offer.totalSize ≤ maxSessionSize
  message : ∀ text, offer.message = some text → text.length ≤ maxTransferMessageLength

theorem validateFiles_total {platform : Platform} {raws : List Json} {seen : List PyStr}
    {total sum : Nat} {files : List IncomingFile}
    (valid : validateFiles platform raws seen total = .ok (files, sum))
    (bounded : total ≤ maxSessionSize) :
    sum = total + (files.map IncomingFile.size).sum ∧ sum ≤ maxSessionSize := by
  induction raws generalizing seen total sum files with
  | nil =>
      cases valid
      exact ⟨by simp, bounded⟩
  | cons raw rest ih =>
      simp only [validateFiles, bind, Except.bind, pure, Except.pure, throw, throwThe,
        MonadExceptOf.throw] at valid
      repeat' split at valid
      all_goals try cases valid
      next small _ _ tail =>
        obtain ⟨total, bounded⟩ := ih tail (Nat.not_lt.mp small)
        refine ⟨?_, bounded⟩
        rw [total, List.map_cons, List.sum_cons, Nat.add_assoc]

theorem validateOffer_valid {platform : Platform} {payload : Json} {offer : TransferOffer}
    (valid : validateOffer platform payload = .ok offer) : ValidOffer platform offer := by
  obtain ⟨offerable, identified⟩ := validateOffer_offerable valid
  obtain ⟨rawFiles, total, _, _, _, lengths, files, _, totalSize, message⟩ :=
    validateOffer_cases valid
  obtain ⟨sum, bounded⟩ := validateFiles_total files (Nat.zero_le _)
  constructor
  · exact identified
  · exact offerable
  · rw [validateFiles_length files]
    exact lengths
  · rw [totalSize, sum, Nat.zero_add]
  · rw [totalSize]
    exact bounded
  · intro text written
    rw [written] at message
    unfold validateMessage at message
    repeat' split at message
    all_goals cases message
    next short => exact Nat.not_lt.mp short

/-! ## Resume states -/

/-- The entry passes every check of the loop over a resume state, given the
identifiers before it. -/
structure Resumes (offer : TransferOffer) (seen : List PyStr) (item : Json) (fileId : PyStr)
    (offset : Nat) : Prop where
  dict : item.isDict = true
  identifier : item.field "file_id" = .str fileId
  fresh : fileId ∉ seen
  position : item.field "offset" = .int offset
  offered : ∃ file ∈ offer.files, file.fileId = fileId ∧ offset ≤ file.size

/-- The identifier of the entry is a list or a dict. -/
def HasUnhashableId (item : Json) : Prop :=
  item.isDict = true ∧ ((∃ items, item.field "file_id" = .arr items) ∨
    ∃ fields, item.field "file_id" = .obj fields)

/-- The loop over a resume state comes to an identifier that cannot be hashed. -/
inductive MeetsUnhashable (offer : TransferOffer) : List Json → List PyStr → Prop
  | here {item : Json} {rest : List Json} {seen : List PyStr} :
      HasUnhashableId item → MeetsUnhashable offer (item :: rest) seen
  | later {item : Json} {rest : List Json} {seen : List PyStr} {fileId : PyStr} {offset : Nat} :
      Resumes offer seen item fileId offset → MeetsUnhashable offer rest (fileId :: seen) →
      MeetsUnhashable offer (item :: rest) seen

theorem validateOffset_foreign {offer : TransferOffer} {offsets : Dict PyStr Nat} {item : Json} :
    Foreign (validateOffset offer offsets item) ↔ HasUnhashableId item := by
  constructor
  · intro foreign
    obtain ⟨error, failed, kind⟩ := foreign
    unfold validateOffset at failed
    simp only [bind, Except.bind, pure, Except.pure, throw, throwThe, MonadExceptOf.throw]
      at failed
    repeat' split at failed
    all_goals cases failed
    all_goals try exact absurd rfl kind
    · next dict _ items identifier => exact ⟨by simpa using dict, .inl ⟨items, identifier⟩⟩
    · next dict _ fields identifier => exact ⟨by simpa using dict, .inr ⟨fields, identifier⟩⟩
  · intro unhashable
    obtain ⟨dict, identifier⟩ := unhashable
    cases identifier with
    | inl identifier =>
        obtain ⟨items, identifier⟩ := identifier
        refine ⟨raised .typeError "unhashable type: 'list'", ?_, by decide⟩
        simp only [validateOffset, dict, identifier, Bool.true_eq_false, if_false]
        rfl
    | inr identifier =>
        obtain ⟨fields, identifier⟩ := identifier
        refine ⟨raised .typeError "unhashable type: 'dict'", ?_, by decide⟩
        simp only [validateOffset, dict, identifier, Bool.true_eq_false, if_false]
        rfl

/-- The offered file under an identifier, of which there is only one. -/
theorem find_offered {files : List IncomingFile} {fileId : PyStr}
    (distinct : (files.map IncomingFile.fileId).Nodup) {file : IncomingFile} :
    (files.reverse.find? fun file => file.fileId = fileId) = some file ↔
      file ∈ files ∧ file.fileId = fileId := by
  constructor
  · intro found
    refine ⟨by simpa using List.mem_of_find?_eq_some found, ?_⟩
    simpa using List.find?_some found
  · intro offered
    obtain ⟨member, same⟩ := offered
    cases found : files.reverse.find? fun file => file.fileId = fileId with
    | none =>
        have absent := List.find?_eq_none.mp found file (List.mem_reverse.mpr member)
        exact absurd same (by simpa using absent)
    | some other =>
        have included : other ∈ files := by simpa using List.mem_of_find?_eq_some found
        have equal : other.fileId = fileId := by simpa using List.find?_some found
        rw [List.inj_on_of_nodup_map distinct included member (equal.trans same.symm)]

theorem validateOffset_iff {offer : TransferOffer} {offsets next : Dict PyStr Nat} {item : Json}
    {seen : List PyStr} (distinct : (offer.files.map IncomingFile.fileId).Nodup)
    (known : ∀ fileId, (offsets.get fileId).isSome = true ↔ fileId ∈ seen) :
    validateOffset offer offsets item = .ok next ↔ ∃ fileId offset,
      Resumes offer seen item fileId offset ∧ next = offsets.set fileId offset := by
  unfold validateOffset
  simp only [bind, Except.bind, pure, Except.pure, throw, throwThe, MonadExceptOf.throw]
  constructor
  · intro valid
    repeat' split at valid
    all_goals try cases valid
    next dict _ fileId identifier _ file found _ offset position checked =>
      simp only [not_or, not_not, Bool.not_eq_false] at dict checked
      obtain ⟨member, same⟩ := (find_offered distinct).mp found
      refine ⟨fileId, offset.toNat, ⟨dict, identifier, ?_, ?_, file, member, same, by omega⟩, rfl⟩
      · intro earlier
        exact checked.1 ((known fileId).mpr earlier)
      · rw [position, Int.toNat_of_nonneg checked.2.1]
  · intro valid
    obtain ⟨fileId, offset, resumes, same⟩ := valid
    obtain ⟨file, member, equal, ranged⟩ := resumes.offered
    have found := (find_offered distinct).mpr ⟨member, equal⟩
    have checked : ¬ ((offsets.get fileId).isSome = true ∨
        ¬ ((0 : Int) ≤ offset ∧ (offset : Int) ≤ file.size)) := by
      intro refused
      cases refused with
      | inl earlier => exact resumes.fresh ((known fileId).mp earlier)
      | inr outside => omega
    subst same
    simp only [resumes.dict, resumes.identifier, found, resumes.position, if_neg checked,
      Bool.true_eq_false, if_false, Int.toNat_natCast]

theorem known_set {offsets : Dict PyStr Nat} {seen : List PyStr} {fileId : PyStr} {offset : Nat}
    (known : ∀ fileId, (offsets.get fileId).isSome = true ↔ fileId ∈ seen) (other : PyStr) :
    ((offsets.set fileId offset).get other).isSome = true ↔ other ∈ fileId :: seen := by
  rw [Dict.get_set, List.mem_cons]
  split
  · next same => simp [same]
  · next different => simp [known, different]

theorem validateOffsets_foreign {offer : TransferOffer} {items : List Json}
    {offsets : Dict PyStr Nat} {seen : List PyStr}
    (distinct : (offer.files.map IncomingFile.fileId).Nodup)
    (known : ∀ fileId, (offsets.get fileId).isSome = true ↔ fileId ∈ seen) :
    Foreign (validateOffsets offer items offsets) ↔ MeetsUnhashable offer items seen := by
  induction items generalizing offsets seen with
  | nil =>
      simp only [validateOffsets, foreign_ok, false_iff]
      intro meets
      cases meets
  | cons item rest ih =>
      rw [validateOffsets, foreign_bind, validateOffset_foreign]
      constructor
      · intro met
        cases met with
        | inl unhashable => exact .here unhashable
        | inr later =>
            obtain ⟨next, valid, foreign⟩ := later
            obtain ⟨fileId, offset, resumes, same⟩ := (validateOffset_iff distinct known).mp valid
            subst same
            exact .later resumes ((ih (known_set known)).mp foreign)
      · intro meets
        cases meets with
        | here unhashable => exact .inl unhashable
        | later resumes later =>
            exact .inr ⟨_, (validateOffset_iff distinct known).mpr ⟨_, _, resumes, rfl⟩,
              (ih (known_set known)).mpr later⟩

/-- A resume state comes to an identifier that cannot be hashed. -/
structure ResumesUnhashable (offer : TransferOffer) (payload : Json) : Prop where
  dict : payload.isDict = true
  type : payload.field "type" = .str (py "resume_state")
  transferId : payload.field "transfer_id" = .str offer.transferId
  files : ∃ rawFiles, payload.field "files" = .arr rawFiles ∧
    rawFiles.length = offer.files.length ∧ MeetsUnhashable offer rawFiles []

theorem validateResumeState_foreign {offer : TransferOffer} {payload : Json}
    (distinct : (offer.files.map IncomingFile.fileId).Nodup) :
    Foreign (validateResumeState payload offer) ↔ ResumesUnhashable offer payload := by
  have known (fileId : PyStr) :
      ((Dict.empty : Dict PyStr Nat).get fileId).isSome = true ↔ fileId ∈ [] := by simp
  constructor
  · intro foreign
    obtain ⟨error, failed, kind⟩ := foreign
    unfold validateResumeState at failed
    simp only [bind, Except.bind, pure, Except.pure, throw, throwThe, MonadExceptOf.throw]
      at failed
    repeat' split at failed
    all_goals cases failed
    all_goals try exact absurd rfl kind
    next typed transferId _ rawFiles listed length _ failed =>
      simp only [not_or, not_not, ne_eq, Bool.not_eq_false] at typed transferId length
      exact ⟨typed.1, typed.2, transferId, rawFiles, listed, length,
        (validateOffsets_foreign distinct known).mp ⟨_, failed, kind⟩⟩
  · intro resumes
    obtain ⟨rawFiles, listed, length, meets⟩ := resumes.files
    obtain ⟨error, failed, kind⟩ := (validateOffsets_foreign distinct known).mpr meets
    refine ⟨error, ?_, kind⟩
    unfold validateResumeState
    simp only [resumes.dict, resumes.type, resumes.transferId, listed, length, failed, bind,
      Except.bind, ne_eq, not_true_eq_false, Bool.true_eq_false, or_self, if_false]

/-- One offset for exactly each offered file, within its size. -/
structure SoundOffsets (offer : TransferOffer) (offsets : Dict PyStr Nat) : Prop where
  exactly : ∀ fileId, (offsets.get fileId).isSome = true ↔ ∃ file ∈ offer.files,
    file.fileId = fileId
  ranged : ∀ file ∈ offer.files, ∀ offset, offsets.get file.fileId = some offset →
    offset ≤ file.size

theorem validateOffsets_sound {offer : TransferOffer} {items : List Json}
    {offsets result : Dict PyStr Nat} {seen : List PyStr}
    (distinct : (offer.files.map IncomingFile.fileId).Nodup)
    (known : ∀ fileId, (offsets.get fileId).isSome = true ↔ fileId ∈ seen)
    (sound : ∀ fileId offset, offsets.get fileId = some offset →
      ∃ file ∈ offer.files, file.fileId = fileId ∧ offset ≤ file.size)
    (valid : validateOffsets offer items offsets = .ok result) :
    ∀ fileId offset, result.get fileId = some offset →
      ∃ file ∈ offer.files, file.fileId = fileId ∧ offset ≤ file.size := by
  induction items generalizing offsets seen with
  | nil =>
      cases valid
      exact sound
  | cons item rest ih =>
      cases first : validateOffset offer offsets item with
      | error error => simp [validateOffsets, first, bind, Except.bind] at valid
      | ok next =>
          simp only [validateOffsets, first, bind, Except.bind] at valid
          obtain ⟨fileId, offset, resumes, same⟩ := (validateOffset_iff distinct known).mp first
          subst same
          refine ih (known_set known) ?_ valid
          intro other position written
          rw [Dict.get_set] at written
          split at written
          · next same =>
              cases written
              rw [same]
              exact resumes.offered
          · exact sound other position written

theorem validateResumeState_sound {offer : TransferOffer} {payload : Json}
    {offsets : Dict PyStr Nat} (distinct : (offer.files.map IncomingFile.fileId).Nodup)
    (valid : validateResumeState payload offer = .ok offsets) : SoundOffsets offer offsets := by
  unfold validateResumeState at valid
  simp only [bind, Except.bind, pure, Except.pure, throw, throwThe, MonadExceptOf.throw] at valid
  repeat' split at valid
  all_goals try cases valid
  next read complete =>
    have sound := @validateOffsets_sound _ _ _ _ [] distinct (by simp) (by simp) read
    constructor
    · intro fileId
      constructor
      · intro held
        obtain ⟨offset, written⟩ := Option.isSome_iff_exists.mp held
        obtain ⟨file, member, same, _⟩ := sound fileId offset written
        exact ⟨file, member, same⟩
      · intro offered
        obtain ⟨file, member, same⟩ := offered
        have present := complete
        simp only [List.any_eq_true, not_exists, not_and, Option.isNone_iff_eq_none] at present
        rw [← same]
        exact Option.isSome_iff_ne_none.mpr (present file member)
    · intro file member offset written
      obtain ⟨other, included, same, ranged⟩ := sound file.fileId offset written
      rw [← List.inj_on_of_nodup_map distinct included member same]
      exact ranged

/-! ## The other controls -/

theorem validateResumeQuery_foreign {payload : Json} {offer : TransferOffer} :
    ¬ Foreign (validateResumeQuery payload offer) := by
  apply not_foreign
  intro error failed
  unfold validateResumeQuery at failed
  simp only [bind, Except.bind, pure, Except.pure, throw, throwThe, MonadExceptOf.throw] at failed
  repeat' split at failed
  all_goals cases failed
  all_goals rfl

theorem validateResponse_bounded {payload : Json} {transferId : PyStr}
    {answer : Bool × Option PyStr} (valid : validateResponse payload transferId = .ok answer) :
    ∀ reason, answer.2 = some reason → reason.length ≤ 512 := by
  intro reason written
  unfold validateResponse at valid
  simp only [bind, Except.bind, pure, Except.pure, throw, throwThe, MonadExceptOf.throw] at valid
  repeat' split at valid
  all_goals cases valid
  all_goals cases written
  next short => exact Nat.not_lt.mp short

theorem validateChunkControl_bounded {payload : Json} {transferId fileId : PyStr}
    {index offset remaining size : Nat}
    (valid : validateChunkControl payload transferId fileId index offset remaining = .ok size) :
    0 < size ∧ size ≤ min chunkSize remaining := by
  unfold validateChunkControl at valid
  simp only [bind, Except.bind, pure, Except.pure, throw, throwThe, MonadExceptOf.throw] at valid
  repeat' split at valid
  all_goals try cases valid
  next checked =>
    simp only [not_or, not_not] at checked
    have bounds := checked.2.2.2.2.2.2
    omega

/-! ## All validators -/

/-- Every validator of the payload keeps its contract or raises `ProtocolError`. -/
structure ContainedValidators (platform : Platform) (offer : TransferOffer) (payload : Json) :
    Prop where
  offered : Contained (ValidOffer platform) (validateOffer platform payload)
  chunk : ∀ transferId fileId index offset remaining,
    Contained (fun size => 0 < size ∧ size ≤ min chunkSize remaining)
      (validateChunkControl payload transferId fileId index offset remaining)
  response : ∀ transferId,
    Contained (fun answer : Bool × Option PyStr => ∀ reason, answer.2 = some reason →
      reason.length ≤ 512) (validateResponse payload transferId)
  query : Contained (fun _ => True) (validateResumeQuery payload offer)
  state : Contained (SoundOffsets offer) (validateResumeState payload offer)

/-- The validators reject a payload only with `ProtocolError` exactly when the
loop over the offered files meets no name with a surrogate, and the loop over a
resume state no identifier that is a list or a dict. -/
theorem validators_contained_iff {platform : Platform} {offer : TransferOffer}
    (valid : ValidOffer platform offer) (payload : Json) :
    ContainedValidators platform offer payload ↔
      ¬ OffersUnencodable platform payload ∧ ¬ ResumesUnhashable offer payload := by
  have distinct := valid.files.distinct
  constructor
  · intro contained
    constructor
    · intro offers
      exact contained.offered.1 (validateOffer_foreign.mpr offers)
    · intro resumes
      exact contained.state.1 ((validateResumeState_foreign distinct).mpr resumes)
  · intro plain
    obtain ⟨encodable, hashable⟩ := plain
    constructor
    · constructor
      · intro foreign
        exact encodable (validateOffer_foreign.mp foreign)
      · intro offer accepted
        exact validateOffer_valid accepted
    · intro transferId fileId index offset remaining
      constructor
      · exact not_foreign fun _ failed => ReceiveSession.validateChunkControl_error failed
      · intro size accepted
        exact validateChunkControl_bounded accepted
    · intro transferId
      constructor
      · exact not_foreign fun _ failed => validateResponse_error failed
      · intro answer accepted
        exact validateResponse_bounded accepted
    · constructor
      · exact validateResumeQuery_foreign
      · intro _ _
        trivial
    · constructor
      · intro foreign
        exact hashable ((validateResumeState_foreign distinct).mp foreign)
      · intro offsets accepted
        exact validateResumeState_sound distinct accepted

def emptyNote : TransferOffer := (noteBatch [] (by decide)).offer

theorem emptyNote_valid : ValidOffer asciiPlatform emptyNote where
  identified := (noteBatch [] (by decide)).identified
  files := (noteBatch [] (by decide)).offerable
  counted := by decide
  totalled := by decide
  bounded := by decide
  message text written := by cases written; decide

/-- The answer of an honest receiver is handled within the contracts. -/
theorem emptyNote_state_contained :
    ContainedValidators asciiPlatform emptyNote (resumeState emptyNote fun _ => 0) := by
  apply (validators_contained_iff emptyNote_valid _).mpr
  constructor
  · intro offers
    exact absurd offers.type (by decide)
  · intro resumes
    obtain ⟨rawFiles, listed, _, meets⟩ := resumes.files
    cases listed
    cases meets with
    | here unhashable =>
        cases unhashable.2 with
        | inl list => obtain ⟨items, identifier⟩ := list; cases identifier
        | inr dict => obtain ⟨fields, identifier⟩ := dict; cases identifier
    | later _ meets => cases meets

/-- An offer of one empty file under the given name. -/
def offerNamed (name : PyStr) : Json :=
  offerFrame (List.replicate 32 (chr '0'))
    [⟨py "file-0", name, 0, List.replicate 64 (chr '0')⟩] none

/-- A resume state whose only entry has the given identifier. -/
def identifiedState (fileId : Json) : Json :=
  .obj [(py "type", .str (py "resume_state")),
    (py "transfer_id", .str (List.replicate 32 (chr '0'))),
    (py "files", .arr [.obj [(py "file_id", fileId), (py "offset", .int 0)]])]

/-- A lone surrogate in a name raises `UnicodeEncodeError`, and a list as a file
identifier raises `TypeError`. -/
theorem surrogate_and_list_escape :
    ValidOffer asciiPlatform emptyNote ∧
      ¬ ContainedValidators asciiPlatform emptyNote (offerNamed [codePoint 0xD800]) ∧
      ¬ ContainedValidators asciiPlatform emptyNote (identifiedState (.arr [])) := by
  refine ⟨emptyNote_valid, ?_, ?_⟩
  · intro contained
    apply contained.offered.1
    apply validateOffer_foreign.mpr
    have unencodable : Unencodable [codePoint 0xD800] :=
      ⟨by simp, by simp, codePoint 0xD800, by simp, by decide⟩
    exact ⟨rfl, rfl, by decide, ⟨_, rfl, by decide⟩, _, rfl, rfl, by decide,
      .here rfl rfl (by decide) (by simp) rfl unencodable⟩
  · intro contained
    apply contained.state.1
    apply (validateResumeState_foreign emptyNote_valid.files.distinct).mpr
    exact ⟨rfl, rfl, rfl, _, rfl, rfl, .here ⟨rfl, .inl ⟨_, rfl⟩⟩⟩

end DirectTransfer
