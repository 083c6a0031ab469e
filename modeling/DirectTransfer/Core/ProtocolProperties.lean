import DirectTransfer.Core.Protocol
import DirectTransfer.Library.JsonText
import Mathlib.Algebra.Order.BigOperators.Group.List

/-! Which control frames come back unchanged from the other side of a
connection, and which batches the sender can therefore announce. -/

set_option autoImplicit false

namespace DirectTransfer

open Library

/-! ## Frames -/

/-- What the length prefix of a frame makes of the octets after it. -/
theorem unpackFrame_bigEndian {length : Nat} (maxSize : Nat) (rest : Bytes)
    (small : length < 2 ^ 32) :
    unpackFrame maxSize (bigEndian length ++ rest) =
      if length > maxSize then
        .error ⟨.valueError, py "Frame size " ++ natText length ++ py " exceeds maximum allowed " ++
          natText maxSize⟩
      else if rest.length < length then
        .error (raised .osError "Connection closed while reading frame data")
      else .ok (rest.take length, rest.drop length) := by
  have prefixValue : (UInt8.ofNat (length / 0x1000000)).toNat * 0x1000000 +
      (UInt8.ofNat (length / 0x10000)).toNat * 0x10000 +
      (UInt8.ofNat (length / 0x100)).toNat * 0x100 + (UInt8.ofNat length).toNat = length := by
    simp only [UInt8.toNat_ofNat']
    omega
  simp only [bigEndian, List.cons_append, List.nil_append, unpackFrame, prefixValue]

/-- A payload that the other side of a connection reads back, whatever follows it. -/
def Delivered (codec : Codec) (key : Bytes) (payload : Json) : Prop :=
  ∀ nonce : Bytes, nonce.length = nonceSize →
    ∃ wire, sendEncryptedFrame codec nonce key (encodeControl codec payload) = .ok wire ∧
      ∀ rest, receiveControlFrame codec key (wire ++ rest) = .ok (payload, rest)

/-- The longest JSON text a control frame can carry, after nonce and tag. -/
def controlTextLimit : Nat := headerMaxSize + 64 - (nonceSize + 16)

/-- The octets of an encrypted frame. -/
def sealed (codec : Codec) (nonce key raw : Bytes) : Bytes :=
  nonce ++ codec.aead.encrypt key nonce raw

theorem sealed_length (codec : Codec) {nonce : Bytes} (key raw : Bytes)
    (fresh : nonce.length = nonceSize) : (sealed codec nonce key raw).length = 28 + raw.length := by
  rw [sealed, List.length_append, fresh, codec.aead.encrypt_length, nonceSize]
  omega

theorem decrypt_sealed (codec : Codec) {nonce key : Bytes} (raw : Bytes)
    (keyed : key.length = 32) (fresh : nonce.length = nonceSize) :
    decryptChunk codec.aead key (sealed codec nonce key raw) = .ok raw := by
  have long : ¬ (sealed codec nonce key raw).length < nonceSize + 16 := by
    rw [sealed_length codec key raw fresh, nonceSize]
    omega
  have nonceTaken : (sealed codec nonce key raw).take nonceSize = nonce := by
    rw [sealed, ← fresh]; exact List.take_left
  have dataLeft : (sealed codec nonce key raw).drop nonceSize =
      codec.aead.encrypt key nonce raw := by
    rw [sealed, ← fresh]; exact List.drop_left
  simp only [decryptChunk, keyed, ne_eq, not_true_eq_false, ↓reduceIte, long, nonceTaken,
    dataLeft, codec.aead.decrypt_encrypt]

theorem send_eq (codec : Codec) {nonce key : Bytes} (raw : Bytes) (keyed : key.length = 32) :
    sendEncryptedFrame codec nonce key raw = packFrame (sealed codec nonce key raw) := by
  simp only [sendEncryptedFrame, encryptChunk, keyed, ne_eq, not_true_eq_false, ↓reduceIte,
    bind, Except.bind, sealed]

/-- What a receiver makes of a frame that was put on the wire. -/
theorem receive_sent {codec : Codec} {nonce key raw wire : Bytes} (rest : Bytes)
    (keyed : key.length = 32) (fresh : nonce.length = nonceSize)
    (sent : sendEncryptedFrame codec nonce key raw = .ok wire) :
    receiveControlFrame codec key (wire ++ rest) =
      if raw.length ≤ controlTextLimit then (decodeControl codec raw).map fun payload =>
        (payload, rest)
      else .error ⟨.valueError, py "Frame size " ++ natText (28 + raw.length) ++
        py " exceeds maximum allowed " ++ natText (headerMaxSize + 64)⟩ := by
  have limit : controlTextLimit = 4132 := by decide
  have bound : headerMaxSize + 64 = 4160 := by decide
  have size := sealed_length codec key raw fresh
  rw [send_eq codec raw keyed, packFrame] at sent
  split at sent
  · next small =>
      cases sent
      have unpacked := unpackFrame_bigEndian (headerMaxSize + 64)
        (sealed codec nonce key raw ++ rest) small
      rw [← List.append_assoc] at unpacked
      by_cases fits : raw.length ≤ controlTextLimit
      · rw [if_neg (by omega), if_neg (by simp), List.take_left, List.drop_left] at unpacked
        rw [if_pos fits, receiveControlFrame, unpacked]
        simp only [bind, Except.bind, decrypt_sealed codec raw keyed fresh]
        cases decodeControl codec raw <;> rfl
      · rw [if_pos (by omega)] at unpacked
        rw [if_neg fits, receiveControlFrame, unpacked, size]
        rfl
  · cases sent

/-- A payload is delivered exactly when it fits and the decoder returns it. -/
theorem delivered_iff {codec : Codec} {key : Bytes} (keyed : key.length = 32) (payload : Json) :
    Delivered codec key payload ↔
      (payload.dumps codec.floats).length ≤ controlTextLimit ∧
        decodeControl codec (encodeControl codec payload) = .ok payload := by
  have sizes : (encodeControl codec payload).length = (payload.dumps codec.floats).length := by
    rw [encodeControl, encodeAscii_length]
  rw [← sizes]
  constructor
  · intro delivered
    have fresh : (List.replicate nonceSize (0 : UInt8)).length = nonceSize := by simp
    obtain ⟨wire, sent, received⟩ := delivered _ fresh
    have actual := (receive_sent [] keyed fresh sent).symm.trans (received [])
    split at actual
    · next fits =>
        cases decoded : decodeControl codec (encodeControl codec payload) with
        | ok other =>
            rw [decoded] at actual
            cases actual
            exact ⟨fits, rfl⟩
        | error failure =>
            rw [decoded] at actual
            cases actual
    · cases actual
  · rintro ⟨fits, decoded⟩ nonce fresh
    have limit : controlTextLimit = 4132 := by decide
    have small : (sealed codec nonce key (encodeControl codec payload)).length < 2 ^ 32 := by
      rw [sealed_length codec key _ fresh]
      omega
    refine ⟨_, (send_eq codec _ keyed).trans (if_pos small), fun rest => ?_⟩
    rw [receive_sent rest keyed fresh ((send_eq codec _ keyed).trans (if_pos small)), if_pos fits,
      decoded]
    rfl

/-! ## Batches -/

/-- A batch within the limits of the configuration. -/
structure Batch (platform : Platform) where
  transferId : PyStr
  files : List FileMeta
  message : Option PyStr
  identified : isTransferId transferId = true
  counted : 1 ≤ files.length ∧ files.length ≤ maxFilesPerSession
  named : ∀ file ∈ files, validateFilename platform (.str file.name) = .ok file.name
  sized : ∀ file ∈ files, file.size ≤ maxFileSize
  totalled : (files.map FileMeta.size).sum ≤ maxSessionSize
  hashed : ∀ file ∈ files, file.sha256.length = 64 ∧ file.sha256.all isLowerHex = true
  bounded : ∀ text, message = some text → text.length ≤ maxTransferMessageLength

namespace Batch

variable {platform : Platform} (batch : Batch platform)

/-- What the receiver is meant to learn. -/
def offer : TransferOffer :=
  ⟨batch.transferId, announcedFiles batch.files, (batch.files.map FileMeta.size).sum,
    batch.message⟩

/-- What the sender puts on the wire. -/
def offerFrame : Json :=
  DirectTransfer.offerFrame batch.transferId (announcedFiles batch.files) batch.message

/-- Length of the JSON text of the offer. -/
def offerLength : Nat :=
  120 + decimalLength batch.files.length + decimalLength (batch.files.map FileMeta.size).sum +
    (batch.files.mapIdx fun index file =>
      111 + decimalLength index + quotedLength file.name + decimalLength file.size).sum +
    (batch.files.length - 1) +
    match batch.message with
    | some (first :: rest) => 11 + quotedLength (first :: rest)
    | _ => 0

/-- All three frames of the batch arrive unchanged, and the offer is validated
to what the sender meant. -/
def Transmits (codec : Codec) (key : Bytes) : Prop :=
  Delivered codec key batch.offerFrame ∧ Delivered codec key (resumeQuery batch.offer) ∧
    (∀ offset : PyStr → Nat, (∀ file ∈ batch.offer.files, offset file.fileId ≤ file.size) →
      Delivered codec key (resumeState batch.offer offset)) ∧
    validateOffer platform batch.offerFrame = .ok batch.offer

end Batch

/-! ## Validation of the offer -/

/-- Everything an accepted offer was checked for. -/
theorem validateOffer_cases {platform : Platform} {payload : Json} {offer : TransferOffer}
    (valid : validateOffer platform payload = .ok offer) :
    ∃ rawFiles total, payload.field "files" = .arr rawFiles ∧
      payload.field "count" = .int rawFiles.length ∧
      payload.field "total_size" = .int (total : Nat) ∧
      (1 ≤ rawFiles.length ∧ rawFiles.length ≤ maxFilesPerSession) ∧
      validateFiles platform rawFiles [] 0 = .ok (offer.files, total) ∧
      validateTransferId (payload.field "transfer_id") = .ok offer.transferId ∧
      offer.totalSize = total ∧ validateMessage (payload.field "message") = .ok offer.message := by
  unfold validateOffer at valid
  simp only [bind, Except.bind, pure, Except.pure, throw, throwThe, MonadExceptOf.throw] at valid
  repeat' split at valid
  all_goals try cases valid
  rename_i _ _ _ transferId identified _ _ rawFiles count listed counted sized _ validated files
    _ total totalled sameTotal _ message messaged
  simp only [ne_eq, not_or, not_not] at sized sameTotal
  refine ⟨rawFiles, validated.2, listed, ?_, ?_, by omega, files, identified, ?_, messaged⟩
  · rw [counted, sized.1]
  · rw [totalled, sameTotal]
  · simp [sameTotal]

/-- Validation fails with a protocol error, or where a name cannot be encoded. -/
def Raised.IsValidation (error : Raised) : Prop :=
  error.kind = .protocolError ∨ error.kind = .valueError

theorem validateTransferId_error {value : Json} {error : Raised}
    (failed : validateTransferId value = .error error) : error.kind = .protocolError := by
  unfold validateTransferId at failed
  repeat' split at failed
  all_goals cases failed
  all_goals rfl

theorem validateResponse_error {payload : Json} {transferId : PyStr} {error : Raised}
    (failed : validateResponse payload transferId = .error error) :
    error.kind = .protocolError := by
  unfold validateResponse at failed
  simp only [bind, Except.bind, pure, Except.pure, throw, throwThe, MonadExceptOf.throw] at failed
  repeat' split at failed
  all_goals cases failed
  all_goals first | rfl | exact validateTransferId_error ‹_›

theorem validateFilename_error {platform : Platform} {value : Json} {error : Raised}
    (failed : validateFilename platform value = .error error) : error.IsValidation := by
  unfold validateFilename sanitizeFilename at failed
  repeat' split at failed
  all_goals cases failed
  all_goals first | exact .inl rfl | exact .inr rfl

theorem validateFile_error {platform : Platform} {seen : List PyStr} {raw : Json} {error : Raised}
    (failed : validateFile platform seen raw = .error error) : error.IsValidation := by
  unfold validateFile at failed
  simp only [bind, Except.bind, pure, Except.pure, throw, throwThe, MonadExceptOf.throw] at failed
  repeat' split at failed
  all_goals cases failed
  all_goals first | exact .inl rfl | exact validateFilename_error ‹_›

theorem validateFiles_error {platform : Platform} {raws : List Json} {seen : List PyStr}
    {total : Nat} {error : Raised}
    (failed : validateFiles platform raws seen total = .error error) : error.IsValidation := by
  induction raws generalizing seen total with
  | nil => cases failed
  | cons raw rest ih =>
      simp only [validateFiles, bind, Except.bind, pure, Except.pure, throw, throwThe,
        MonadExceptOf.throw] at failed
      repeat' split at failed
      all_goals cases failed
      all_goals first | exact .inl rfl | exact validateFile_error ‹_› | exact ih ‹_›

theorem validateMessage_error {value : Json} {error : Raised}
    (failed : validateMessage value = .error error) : error.kind = .protocolError := by
  unfold validateMessage at failed
  repeat' split at failed
  all_goals cases failed
  all_goals rfl

theorem validateOffer_error {platform : Platform} {payload : Json} {error : Raised}
    (failed : validateOffer platform payload = .error error) : error.IsValidation := by
  unfold validateOffer at failed
  simp only [bind, Except.bind, pure, Except.pure, throw, throwThe, MonadExceptOf.throw] at failed
  repeat' split at failed
  all_goals cases failed
  all_goals first
    | exact .inl rfl
    | exact .inl (validateTransferId_error ‹_›)
    | exact .inl (validateMessage_error ‹_›)
    | exact validateFiles_error ‹_›

theorem validateOffset_error {offer : TransferOffer} {offsets : Dict PyStr Nat} {item : Json}
    {error : Raised} (failed : validateOffset offer offsets item = .error error) :
    error.kind = .protocolError ∨ error.kind = .typeError := by
  unfold validateOffset at failed
  simp only [bind, Except.bind, pure, Except.pure, throw, throwThe, MonadExceptOf.throw] at failed
  repeat' split at failed
  all_goals cases failed
  all_goals first | exact .inl rfl | exact .inr rfl

theorem validateOffsets_error {offer : TransferOffer} {items : List Json}
    {offsets : Dict PyStr Nat} {error : Raised}
    (failed : validateOffsets offer items offsets = .error error) :
    error.kind = .protocolError ∨ error.kind = .typeError := by
  induction items generalizing offsets with
  | nil => cases failed
  | cons item rest ih =>
      simp only [validateOffsets, bind, Except.bind] at failed
      split at failed
      · cases failed
        exact validateOffset_error ‹_›
      · exact ih failed

theorem validateResumeState_error {payload : Json} {offer : TransferOffer} {error : Raised}
    (failed : validateResumeState payload offer = .error error) :
    error.kind = .protocolError ∨ error.kind = .typeError := by
  unfold validateResumeState at failed
  simp only [bind, Except.bind, pure, Except.pure, throw, throwThe, MonadExceptOf.throw] at failed
  repeat' split at failed
  all_goals cases failed
  all_goals first | exact .inl rfl | exact validateOffsets_error ‹_›

theorem validateFiles_length {platform : Platform} {raws : List Json} {seen : List PyStr}
    {total sum : Nat} {files : List IncomingFile}
    (valid : validateFiles platform raws seen total = .ok (files, sum)) :
    files.length = raws.length := by
  induction raws generalizing seen total sum files with
  | nil => cases valid; rfl
  | cons raw rest ih =>
      simp only [validateFiles, bind, Except.bind, pure, Except.pure, throw, throwThe,
        MonadExceptOf.throw] at valid
      repeat' split at valid
      all_goals try cases valid
      next tail => simp [ih tail]

/-- The offer a sender validates has a file for each file it announced. -/
theorem validateOffer_length {platform : Platform} {transferId : PyStr}
    {files : List IncomingFile} {message : Option PyStr} {offer : TransferOffer}
    (valid : validateOffer platform (offerFrame transferId files message) = .ok offer) :
    offer.files.length = files.length := by
  obtain ⟨rawFiles, total, listed, _, _, _, validated, _⟩ := validateOffer_cases valid
  have announced : (offerFrame transferId files message).field "files" =
    .arr (files.map fileDescription) := rfl
  rw [announced] at listed
  cases listed
  rw [validateFiles_length validated, List.length_map]

theorem map_announcedFiles {α : Type} (read : IncomingFile → α) (fileMeta : List FileMeta) :
    (announcedFiles fileMeta).map read = fileMeta.mapIdx fun index file =>
      read ⟨py "file-" ++ natText index, file.name, file.size, file.sha256⟩ :=
  List.ext_getElem (by simp [announcedFiles]) (by simp [announcedFiles])

theorem announcedFiles_size (fileMeta : List FileMeta) :
    (announcedFiles fileMeta).map IncomingFile.size = fileMeta.map FileMeta.size :=
  List.ext_getElem (by simp [announcedFiles]) (by simp [announcedFiles])

@[simp] theorem announcedFiles_length (fileMeta : List FileMeta) :
    (announcedFiles fileMeta).length = fileMeta.length := by
  simp [announcedFiles]

theorem mem_announcedFiles {fileMeta : List FileMeta} {file : IncomingFile} :
    file ∈ announcedFiles fileMeta ↔ ∃ index, ∃ bounded : index < fileMeta.length,
      file = ⟨py "file-" ++ natText index, fileMeta[index].name, fileMeta[index].size,
        fileMeta[index].sha256⟩ := by
  simp [announcedFiles, List.mem_mapIdx, eq_comm]

theorem announcedFiles_distinct (fileMeta : List FileMeta) :
    ((announcedFiles fileMeta).map IncomingFile.fileId).Nodup := by
  rw [List.nodup_iff_pairwise_ne, List.pairwise_iff_getElem]
  intro left right leftBound rightBound below same
  simp only [List.getElem_map, announcedFiles, List.getElem_mapIdx, List.append_cancel_left_eq]
    at same
  exact absurd (natText_inj same) (by omega)

theorem isFileId_announced {index : Nat} (bounded : index < 10 ^ 10) :
    isFileId (py "file-" ++ natText index) = true := by
  have digits : (natText index).length ≤ 10 := decimalLength_le (by omega) bounded
  have word : ∀ point ∈ py "0123456789", (((0x30 ≤ point.val && point.val ≤ 0x39) ||
      (0x41 ≤ point.val && point.val ≤ 0x5A) || (0x61 ≤ point.val && point.val ≤ 0x7A) ||
      point = chr '_' || point = chr '-') : Bool) = true := forall_of_all (by decide)
  have start : (py "file-").length = 5 := rfl
  unfold isFileId
  rw [List.length_append, List.all_append, start]
  simp only [Bool.and_eq_true, decide_eq_true_eq]
  refine ⟨⟨by omega, by omega⟩, by decide, ?_⟩
  rw [List.all_eq_true]
  exact fun point member => word point (natText_mem member)

section Fields

variable (file : IncomingFile)

@[simp] theorem fileDescription_fileId : (fileDescription file).field "file_id" = .str file.fileId := by
  simp [fileDescription]

@[simp] theorem fileDescription_name : (fileDescription file).field "name" = .str file.name := by
  simp [fileDescription]

@[simp] theorem fileDescription_size : (fileDescription file).field "size" = .int file.size := by
  simp [fileDescription]

@[simp] theorem fileDescription_sha256 :
    (fileDescription file).field "sha256" = .str file.sha256 := by
  simp [fileDescription]

end Fields

/-- A file within the limits whose identifier is new passes the validation loop. -/
theorem validateFile_description {platform : Platform} {file : IncomingFile} {seen : List PyStr}
    (identified : isFileId file.fileId = true) (fresh : file.fileId ∉ seen)
    (named : validateFilename platform (.str file.name) = .ok file.name)
    (sized : file.size ≤ maxFileSize)
    (hashed : file.sha256.length = 64 ∧ file.sha256.all isLowerHex = true) :
    validateFile platform seen (fileDescription file) = .ok file := by
  have dict : (fileDescription file).isDict = true := rfl
  have bounded : (file.size : Int) ≤ (maxFileSize : Int) := by exact_mod_cast sized
  simp [validateFile, dict, identified, fresh, named, bounded, hashed.1, hashed.2, bind,
    Except.bind, pure, Except.pure]

/-- What the validation loop asks of the files of an offer. -/
structure Offerable (platform : Platform) (files : List IncomingFile) : Prop where
  identified : ∀ file ∈ files, isFileId file.fileId = true
  distinct : (files.map IncomingFile.fileId).Nodup
  named : ∀ file ∈ files, validateFilename platform (.str file.name) = .ok file.name
  sized : ∀ file ∈ files, file.size ≤ maxFileSize
  hashed : ∀ file ∈ files, file.sha256.length = 64 ∧ file.sha256.all isLowerHex = true

theorem Offerable.tail {platform : Platform} {file : IncomingFile} {files : List IncomingFile}
    (offerable : Offerable platform (file :: files)) : Offerable platform files where
  identified other member := offerable.identified other (by simp [member])
  distinct := (List.nodup_cons.mp offerable.distinct).2
  named other member := offerable.named other (by simp [member])
  sized other member := offerable.sized other (by simp [member])
  hashed other member := offerable.hashed other (by simp [member])

theorem validateFiles_descriptions {platform : Platform} {files : List IncomingFile}
    {seen : List PyStr} {total : Nat} (offerable : Offerable platform files)
    (fresh : ∀ file ∈ files, file.fileId ∉ seen)
    (totalled : total + (files.map IncomingFile.size).sum ≤ maxSessionSize) :
    validateFiles platform (files.map fileDescription) seen total =
      .ok (files, total + (files.map IncomingFile.size).sum) := by
  induction files generalizing seen total with
  | nil => rfl
  | cons file rest ih =>
      simp only [List.map_cons, List.sum_cons] at totalled ⊢
      have head := validateFile_description (offerable.identified file (by simp))
        (fresh file (by simp)) (offerable.named file (by simp)) (offerable.sized file (by simp))
        (offerable.hashed file (by simp))
      have apart : ∀ other ∈ rest, other.fileId ∉ file.fileId :: seen := by
        intro other member repeated
        rcases List.mem_cons.mp repeated with same | earlier
        · exact (List.nodup_cons.mp offerable.distinct).1
            (same ▸ List.mem_map_of_mem member)
        · exact fresh other (by simp [member]) earlier
      have tail := @ih _ (total + file.size) offerable.tail apart (by omega)
      have small : ¬ total + file.size > maxSessionSize := by omega
      simp only [validateFiles, head, bind, Except.bind, small, ↓reduceIte, tail, pure,
        Except.pure, Nat.add_assoc]

/-- Everything an accepted name was checked for. -/
theorem sanitizeFilename_ok {platform : Platform} {value name : PyStr}
    (valid : sanitizeFilename platform value = .ok name) :
    name = value ∧ value ≠ [] ∧ (∀ point ∈ value, platform.isPrintable point = true) ∧
      pathName platform value = value ∧ pureWindowsPathName value = value ∧
      value ≠ py "." ∧ value ≠ py ".." := by
  unfold sanitizeFilename at valid
  repeat' split at valid
  all_goals try cases valid
  next nonempty _ _ _ printable named =>
    simp only [not_or, ne_eq, not_not, List.mem_cons, List.not_mem_nil, or_false,
      Bool.not_eq_false] at nonempty printable named
    exact ⟨rfl, nonempty.1, List.all_eq_true.mp printable.2.1, named.1, named.2.1, named.2.2.2.1,
      named.2.2.2.2⟩

theorem validateFile_ok {platform : Platform} {seen : List PyStr} {raw : Json} {file : IncomingFile}
    (valid : validateFile platform seen raw = .ok file) :
    isFileId file.fileId = true ∧ file.fileId ∉ seen ∧
      validateFilename platform (.str file.name) = .ok file.name ∧ file.size ≤ maxFileSize ∧
      file.sha256.length = 64 ∧ file.sha256.all isLowerHex = true := by
  unfold validateFile at valid
  simp only [bind, Except.bind, pure, Except.pure, throw, throwThe, MonadExceptOf.throw] at valid
  repeat' split at valid
  all_goals try cases valid
  next identified _ name named _ size _ bounded _ digest _ hashed =>
    simp only [not_or, Bool.not_eq_false, not_not, ne_eq] at identified bounded hashed
    refine ⟨identified.1, identified.2, ?_, by dsimp only; omega, hashed.1, hashed.2⟩
    cases value : raw.field "name" with
    | str text =>
        rw [value] at named
        obtain ⟨rfl, _⟩ := sanitizeFilename_ok named
        exact named
    | _ => rw [value] at named; cases named

/-- Accepted files are within the limits, and their identifiers are new. -/
theorem validateFiles_offerable {platform : Platform} {raws : List Json} {seen : List PyStr}
    {total sum : Nat} {files : List IncomingFile}
    (valid : validateFiles platform raws seen total = .ok (files, sum)) :
    Offerable platform files ∧ ∀ file ∈ files, file.fileId ∉ seen := by
  induction raws generalizing seen total sum files with
  | nil =>
      cases valid
      exact ⟨⟨by simp, by simp, by simp, by simp, by simp⟩, by simp⟩
  | cons raw rest ih =>
      simp only [validateFiles, bind, Except.bind, pure, Except.pure, throw, throwThe,
        MonadExceptOf.throw] at valid
      repeat' split at valid
      all_goals try cases valid
      next _ file head _ _ _ tail =>
        obtain ⟨identified, fresh, named, sized, hashed⟩ := validateFile_ok head
        obtain ⟨offerable, apart⟩ := ih tail
        refine ⟨⟨?_, ?_, ?_, ?_, ?_⟩, ?_⟩
        · exact List.forall_mem_cons.mpr ⟨identified, offerable.identified⟩
        · refine List.nodup_cons.mpr ⟨fun repeated => ?_, offerable.distinct⟩
          obtain ⟨other, member, same⟩ := List.mem_map.mp repeated
          exact apart other member (same ▸ List.mem_cons_self)
        · exact List.forall_mem_cons.mpr ⟨named, offerable.named⟩
        · exact List.forall_mem_cons.mpr ⟨sized, offerable.sized⟩
        · exact List.forall_mem_cons.mpr ⟨hashed, offerable.hashed⟩
        · exact List.forall_mem_cons.mpr ⟨fresh, fun other member earlier =>
            apart other member (List.mem_cons_of_mem _ earlier)⟩

/-- The files of an accepted offer are within the limits, and its identifier is one. -/
theorem validateOffer_offerable {platform : Platform} {payload : Json} {offer : TransferOffer}
    (valid : validateOffer platform payload = .ok offer) :
    Offerable platform offer.files ∧ isTransferId offer.transferId = true := by
  obtain ⟨rawFiles, total, _, _, _, _, validated, identified, _⟩ := validateOffer_cases valid
  refine ⟨(validateFiles_offerable validated).1, ?_⟩
  unfold validateTransferId at identified
  repeat' split at identified
  all_goals cases identified
  next accepted => exact accepted

namespace Batch

variable {platform : Platform} (batch : Batch platform)

theorem offerable : Offerable platform (announcedFiles batch.files) where
  identified file member := by
    obtain ⟨index, bounded, rfl⟩ := mem_announcedFiles.mp member
    have counted := batch.counted.2
    simp only [maxFilesPerSession] at counted
    exact isFileId_announced (by omega)
  distinct := announcedFiles_distinct _
  named file member := by
    obtain ⟨index, bounded, rfl⟩ := mem_announcedFiles.mp member
    exact batch.named _ (List.getElem_mem bounded)
  sized file member := by
    obtain ⟨index, bounded, rfl⟩ := mem_announcedFiles.mp member
    exact batch.sized _ (List.getElem_mem bounded)
  hashed file member := by
    obtain ⟨index, bounded, rfl⟩ := mem_announcedFiles.mp member
    exact batch.hashed _ (List.getElem_mem bounded)

/-- The message as the receiver sees it. -/
def announcedMessage : Option PyStr :=
  match batch.message with
  | some (first :: rest) => some (first :: rest)
  | _ => none

/-- The receiver validates the offer to the batch, but for an empty message. -/
theorem validateOffer_offerFrame :
    validateOffer platform batch.offerFrame =
      .ok { batch.offer with message := batch.announcedMessage } := by
  have files := @validateFiles_descriptions _ _ [] 0 batch.offerable (by simp)
    (by rw [announcedFiles_size]; simpa using batch.totalled)
  rw [announcedFiles_size, Nat.zero_add] at files
  have version : (Json.int protocolVersion).pyEq (.int protocolVersion) = true := by decide
  have identified : validateTransferId (.str batch.transferId) = .ok batch.transferId := by
    simp [validateTransferId, batch.identified]
  have counted : ¬ ((batch.files.length : Int) ≠ ((announcedFiles batch.files).map
        fileDescription).length ∨
      ¬ (1 ≤ (batch.files.length : Int) ∧ (batch.files.length : Int) ≤ maxFilesPerSession)) := by
    have := batch.counted
    simp
    omega
  have message : validateMessage (batch.offerFrame.field "message") =
      .ok batch.announcedMessage := by
    unfold announcedMessage offerFrame DirectTransfer.offerFrame
    rcases written : batch.message with _ | _ | ⟨first, rest⟩
    · simp [validateMessage]
    · simp [validateMessage]
    · have short : ¬ maxTransferMessageLength < rest.length + 1 :=
        not_lt.mpr (batch.bounded _ written)
      simp [validateMessage, short]
  have dict : batch.offerFrame.isDict = true := rfl
  have type : batch.offerFrame.field "type" = .str (py "transfer_offer") := rfl
  have versionField : batch.offerFrame.field "version" = .int protocolVersion := rfl
  have transferId : batch.offerFrame.field "transfer_id" = .str batch.transferId := rfl
  have count : batch.offerFrame.field "count" = .int batch.files.length := by
    rw [← announcedFiles_length]; rfl
  have list : batch.offerFrame.field "files" =
    .arr ((announcedFiles batch.files).map fileDescription) := rfl
  have total : batch.offerFrame.field "total_size" =
      .int ((batch.files.map FileMeta.size).sum : Nat) := by
    rw [← announcedFiles_size]; rfl
  unfold validateOffer
  simp only [dict, type, versionField, version, transferId, identified, count, list, total, files,
    counted, message, bind, Except.bind, pure, Except.pure, ne_eq, not_true_eq_false, or_self,
    Bool.true_eq_false, ↓reduceIte, Int.toNat_natCast, offer]

end Batch

/-! ## Lengths of the frames -/

section Lengths

variable (floats : FloatRepr)

/-- Length of the description of one file. -/
def descriptionLength (file : IncomingFile) : Nat :=
  38 + quotedLength file.fileId + quotedLength file.name + decimalLength file.size +
    quotedLength file.sha256

theorem fileDescription_length (file : IncomingFile) :
    ((fileDescription file).dumps floats).length = descriptionLength file := by
  have keys : quotedLength (py "file_id") = 9 ∧ quotedLength (py "name") = 6 ∧
      quotedLength (py "size") = 6 ∧ quotedLength (py "sha256") = 8 := by decide
  simp only [fileDescription, Json.dumps_obj_length, Json.dumps_str_length, Json.dumps_nat_length,
    List.map_cons, List.map_nil, List.sum_cons, List.sum_nil, keys, descriptionLength]
  omega

/-- Length of the list of file descriptions. -/
def descriptionsLength (files : List IncomingFile) : Nat :=
  2 + (files.map descriptionLength).sum + (files.length - 1)

theorem descriptions_length (files : List IncomingFile) :
    ((Json.arr (files.map fileDescription)).dumps floats).length = descriptionsLength files := by
  rw [Json.dumps_arr_length, List.map_map, List.length_map, descriptionsLength]
  congr 3
  exact List.map_congr_left fun file _ => fileDescription_length floats file

/-- Length of the optional message field. -/
def messageLength : Option PyStr → Nat
  | some (first :: rest) => 11 + quotedLength (first :: rest)
  | _ => 0

theorem offerFrame_length (transferId : PyStr) (files : List IncomingFile)
    (message : Option PyStr) :
    ((offerFrame transferId files message).dumps floats).length =
      84 + quotedLength transferId + decimalLength files.length +
        decimalLength (files.map IncomingFile.size).sum + descriptionsLength files +
        messageLength message := by
  have keys : quotedLength (py "type") = 6 ∧ quotedLength (py "transfer_offer") = 16 ∧
      quotedLength (py "version") = 9 ∧ quotedLength (py "transfer_id") = 13 ∧
      quotedLength (py "count") = 7 ∧ quotedLength (py "total_size") = 12 ∧
      quotedLength (py "files") = 7 ∧ quotedLength (py "message") = 9 := by decide
  have version : decimalLength protocolVersion = 1 := by decide
  unfold offerFrame
  rw [List.cons_append, Json.dumps_obj_length]
  rcases message with _ | _ | ⟨first, rest⟩ <;>
    simp only [List.cons_append, List.nil_append, List.append_nil, List.map_cons, List.map_nil,
      List.sum_cons, List.sum_nil, Json.dumps_str_length, Json.dumps_nat_length,
      descriptions_length, keys, version, messageLength] <;>
    omega

theorem resumeQuery_length (offer : TransferOffer) :
    ((resumeQuery offer).dumps floats).length =
      47 + quotedLength offer.transferId + descriptionsLength offer.files := by
  have keys : quotedLength (py "type") = 6 ∧ quotedLength (py "resume_query") = 14 ∧
      quotedLength (py "transfer_id") = 13 ∧ quotedLength (py "files") = 7 := by decide
  simp only [resumeQuery, Json.dumps_obj_length, Json.dumps_str_length, descriptions_length,
    List.map_cons, List.map_nil, List.sum_cons, List.sum_nil, keys]
  omega

/-- An offset needs no more digits than the size, so each entry of the answer
is shorter than the description it answers. -/
theorem resumeState_length_le (offer : TransferOffer) (offset : PyStr → Nat)
    (sound : ∀ file ∈ offer.files, offset file.fileId ≤ file.size) :
    ((resumeState offer offset).dumps floats).length ≤
      47 + quotedLength offer.transferId + descriptionsLength offer.files := by
  have keys : quotedLength (py "type") = 6 ∧ quotedLength (py "resume_state") = 14 ∧
      quotedLength (py "transfer_id") = 13 ∧ quotedLength (py "files") = 7 ∧
      quotedLength (py "file_id") = 9 ∧ quotedLength (py "offset") = 8 := by decide
  let entry (file : IncomingFile) : Json :=
    .obj [(py "file_id", .str file.fileId), (py "offset", .int (offset file.fileId))]
  have entries : (offer.files.map fun file => ((entry file).dumps floats).length).sum ≤
      (offer.files.map descriptionLength).sum := by
    refine List.sum_le_sum fun file member => ?_
    have digits := decimalLength_mono (sound file member)
    simp only [entry, Json.dumps_obj_length, Json.dumps_str_length, Json.dumps_nat_length,
      List.map_cons, List.map_nil, List.sum_cons, List.sum_nil, keys, descriptionLength]
    omega
  have list : ((Json.arr (offer.files.map entry)).dumps floats).length ≤
      descriptionsLength offer.files := by
    rw [Json.dumps_arr_length, List.map_map, List.length_map, descriptionsLength]
    exact Nat.add_le_add_right (Nat.add_le_add_left entries 2) _
  have shape : resumeState offer offset = .obj [(py "type", .str (py "resume_state")),
    (py "transfer_id", .str offer.transferId), (py "files", .arr (offer.files.map entry))] := rfl
  simp only [shape, Json.dumps_obj_length, Json.dumps_str_length, List.map_cons,
    List.map_nil, List.sum_cons, List.sum_nil, keys]
  omega

end Lengths

theorem quotedLength_lowerHex {text : PyStr} (hex : text.all isLowerHex = true) :
    quotedLength text = text.length + 2 := by
  refine quotedLength_of_plain fun point member => ?_
  have digit := List.all_eq_true.mp hex point member
  simp only [isLowerHex, Bool.or_eq_true, Bool.and_eq_true, decide_eq_true_eq] at digit
  simp only [Set.mem_Icc]
  omega

namespace Batch

variable {platform : Platform} (batch : Batch platform)

theorem quotedLength_transferId : quotedLength batch.transferId = 34 := by
  have identified := batch.identified
  simp only [isTransferId, Bool.and_eq_true, decide_eq_true_eq] at identified
  rw [quotedLength_lowerHex identified.2, identified.1]

theorem quotedLength_fileId (index : Nat) :
    quotedLength (py "file-" ++ natText index) = 7 + decimalLength index := by
  have digits : ∀ point ∈ py "0123456789", point.val ∈ Set.Icc 0x20 0x7E ∧ point.val ≠ 0x22 ∧
      point.val ≠ 0x5C := forall_of_all (by decide)
  have start : ∀ point ∈ py "file-", point.val ∈ Set.Icc 0x20 0x7E ∧ point.val ≠ 0x22 ∧
      point.val ≠ 0x5C := forall_of_all (by decide)
  rw [quotedLength_of_plain, List.length_append, decimalLength]
  · have start : (py "file-").length = 5 := rfl
    omega
  · intro point member
    rcases List.mem_append.mp member with word | number
    · exact start point word
    · exact digits point (natText_mem number)

theorem offerFrame_textLength (floats : FloatRepr) :
    (batch.offerFrame.dumps floats).length = batch.offerLength := by
  have each : (announcedFiles batch.files).map descriptionLength =
      batch.files.mapIdx fun index file =>
        111 + decimalLength index + quotedLength file.name + decimalLength file.size := by
    rw [map_announcedFiles]
    refine List.ext_getElem (by simp) fun index left right => ?_
    simp only [List.length_mapIdx] at left
    have hashed := batch.hashed _ (List.getElem_mem left)
    simp only [List.getElem_mapIdx, descriptionLength, quotedLength_fileId,
      quotedLength_lowerHex hashed.2, hashed.1]
    omega
  have message : messageLength batch.message = match batch.message with
      | some (first :: rest) => 11 + quotedLength (first :: rest)
      | _ => 0 := by
    rcases batch.message with _ | _ | ⟨first, rest⟩ <;> rfl
  rw [offerFrame, offerFrame_length, batch.quotedLength_transferId, announcedFiles_size,
    announcedFiles_length, descriptionsLength, announcedFiles_length, each, message, offerLength]
  omega

/-- The query and every answer to it are shorter than the offer. -/
theorem resume_lengths (floats : FloatRepr) :
    ((resumeQuery batch.offer).dumps floats).length ≤ batch.offerLength ∧
      ∀ offset : PyStr → Nat, (∀ file ∈ batch.offer.files, offset file.fileId ≤ file.size) →
        ((resumeState batch.offer offset).dumps floats).length ≤ batch.offerLength := by
  have offer : batch.offerLength = 84 + quotedLength batch.transferId +
      decimalLength (announcedFiles batch.files).length +
      decimalLength ((announcedFiles batch.files).map IncomingFile.size).sum +
      descriptionsLength (announcedFiles batch.files) + messageLength batch.message := by
    rw [← batch.offerFrame_textLength floats, offerFrame, offerFrame_length]
  have shorter : 47 + quotedLength batch.transferId +
      descriptionsLength (announcedFiles batch.files) ≤ batch.offerLength := by omega
  refine ⟨(resumeQuery_length floats batch.offer).trans_le shorter, fun offset sound => ?_⟩
  exact (resumeState_length_le floats batch.offer offset sound).trans shorter

end Batch

/-! ## Which frames a decoder returns unchanged -/

theorem decodeControl_encodeControl {codec : Codec} (inverts : codec.Inverts) {payload : Json}
    (formed : payload.WellFormed) (dict : payload.isDict = true) :
    decodeControl codec (encodeControl codec payload) = .ok payload := by
  simp only [decodeControl, inverts payload formed, dict, ↓reduceIte]

theorem pairFree_lowerHex {text : PyStr} (hex : text.all isLowerHex = true) : PairFree text := by
  refine pairFree_of_no_surrogate fun point member => ?_
  have digit := List.all_eq_true.mp hex point member
  simp only [isLowerHex, Bool.or_eq_true, Bool.and_eq_true, decide_eq_true_eq] at digit
  simp only [CodePoint.isSurrogate, Bool.and_eq_false_iff, decide_eq_false_iff_not]
  omega

theorem pairFree_fileId {text : PyStr} (identified : isFileId text = true) : PairFree text := by
  refine pairFree_of_no_surrogate fun point member => ?_
  simp only [isFileId, Bool.and_eq_true] at identified
  have letter := List.all_eq_true.mp identified.2 point member
  have underscore : (chr '_').val = 0x5F := rfl
  have hyphen : (chr '-').val = 0x2D := rfl
  simp only [Bool.or_eq_true, Bool.and_eq_true, decide_eq_true_eq, Fin.ext_iff, underscore,
    hyphen] at letter
  simp only [CodePoint.isSurrogate, Bool.and_eq_false_iff, decide_eq_false_iff_not]
  omega

/-- A valid name can be encoded, so it holds no surrogates. -/
theorem pairFree_filename {platform : Platform} {name : PyStr}
    (valid : validateFilename platform (.str name) = .ok name) : PairFree name := by
  refine pairFree_of_utf8Length ?_
  unfold validateFilename sanitizeFilename at valid
  simp only at valid
  split at valid
  · cases valid
  · cases encoded : utf8Length name with
    | none => rw [encoded] at valid; cases valid
    | some octets => rfl

theorem wellFormed_fileDescription {file : IncomingFile} (fileId : PairFree file.fileId)
    (name : PairFree file.name) (sha256 : PairFree file.sha256) :
    (fileDescription file).WellFormed := by
  simp [fileDescription, Json.WellFormed, Json.WellFormedFields, fileId, name, sha256]

namespace Offerable

variable {platform : Platform} {files : List IncomingFile}

theorem wellFormed (offerable : Offerable platform files) :
    (Json.arr (files.map fileDescription)).WellFormed := by
  refine Json.wellFormedItems_iff.mpr fun item member => ?_
  obtain ⟨file, included, rfl⟩ := List.mem_map.mp member
  exact wellFormed_fileDescription (pairFree_fileId (offerable.identified file included))
    (pairFree_filename (offerable.named file included))
    (pairFree_lowerHex (offerable.hashed file included).2)

theorem wellFormed_offerFrame (offerable : Offerable platform files) {transferId : PyStr}
    (identified : isTransferId transferId = true) {message : Option PyStr}
    (free : ∀ text, message = some text → PairFree text) :
    (offerFrame transferId files message).WellFormed := by
  simp only [isTransferId, Bool.and_eq_true] at identified
  have transfer := pairFree_lowerHex identified.2
  have list := offerable.wellFormed
  unfold offerFrame
  rcases message with _ | _ | ⟨first, rest⟩
  · simp [Json.WellFormed, Json.WellFormedFields, transfer] at list ⊢
    exact list
  · simp [Json.WellFormed, Json.WellFormedFields, transfer] at list ⊢
    exact list
  · have text := free _ rfl
    simp [Json.WellFormed, Json.WellFormedFields, transfer, text] at list ⊢
    exact list

theorem wellFormed_resumeQuery {offer : TransferOffer} (offerable : Offerable platform offer.files)
    (identified : isTransferId offer.transferId = true) : (resumeQuery offer).WellFormed := by
  simp only [isTransferId, Bool.and_eq_true] at identified
  have transfer := pairFree_lowerHex identified.2
  have list := offerable.wellFormed
  simp [resumeQuery, Json.WellFormed, Json.WellFormedFields, transfer] at list ⊢
  exact list

theorem wellFormed_resumeState {offer : TransferOffer} (offerable : Offerable platform offer.files)
    (identified : isTransferId offer.transferId = true) (offset : PyStr → Nat) :
    (resumeState offer offset).WellFormed := by
  simp only [isTransferId, Bool.and_eq_true] at identified
  have transfer := pairFree_lowerHex identified.2
  have list : Json.WellFormedItems (offer.files.map fun file =>
      .obj [(py "file_id", .str file.fileId), (py "offset", .int (offset file.fileId))]) := by
    refine Json.wellFormedItems_iff.mpr fun item member => ?_
    obtain ⟨file, included, rfl⟩ := List.mem_map.mp member
    have fileId := pairFree_fileId (offerable.identified file included)
    simp [Json.WellFormed, Json.WellFormedFields, fileId]
  simp [resumeState, Json.WellFormed, Json.WellFormedFields, transfer]
  exact list

end Offerable

/-- A text with a surrogate pair is written like the text with the pair joined. -/
theorem dumps_offerFrame_joinPairs (floats : FloatRepr) (transferId : PyStr)
    (files : List IncomingFile) (message : Option PyStr) :
    (offerFrame transferId files (message.map joinPairs)).dumps floats =
      (offerFrame transferId files message).dumps floats := by
  rcases message with _ | _ | ⟨first, rest⟩
  · rfl
  · rfl
  · obtain ⟨head, tail, joined, _⟩ := joinPairs_head first rest
    have written : quote (head :: tail) = quote (first :: rest) := by
      rw [← joined, quote_joinPairs]
    simp [offerFrame, joined, Json.dumps, Json.dumpsFields, written]

theorem offerFrame_message_inj {transferId : PyStr} {files : List IncomingFile}
    {left right : PyStr} (leftSome : left ≠ [])
    (same : offerFrame transferId files (some left) = offerFrame transferId files (some right)) :
    left = right := by
  have messages := congrArg (fun payload => payload.field "message") same
  cases left with
  | nil => exact absurd rfl leftSome
  | cons first rest => cases right with
    | nil => simp [offerFrame] at messages
    | cons other others => simpa [offerFrame] using messages

/-! ## A runtime that meets the laws -/

def paddedAead : Aead where
  encrypt _ _ data := data ++ List.replicate 16 0
  decrypt _ _ payload := some (payload.take (payload.length - 16))
  decrypt_encrypt _ _ data := by simp
  encrypt_length _ _ data := by simp

/-- Messages written and read back by the decoder of `parseText`. -/
noncomputable def referenceCodec : Codec := ⟨quotientFloats, parseText quotientFloats, paddedAead⟩

theorem referenceCodec_inverts : referenceCodec.Inverts := fun _ formed =>
  parseText_dumps quotientFloats formed

theorem printableAscii_range {point : CodePoint}
    (printable : (0x20 ≤ point.val && point.val ≤ 0x7E) = true) :
    0x20 ≤ point.val ∧ point.val ≤ 0x7E := by
  simpa only [Bool.and_eq_true, decide_eq_true_eq] using printable

theorem printableAscii_not_surrogate {point : CodePoint}
    (printable : (0x20 ≤ point.val && point.val ≤ 0x7E) = true) : point.isSurrogate = false := by
  have range := printableAscii_range printable
  simp only [CodePoint.isSurrogate, Bool.and_eq_false_iff, decide_eq_false_iff_not]
  omega

theorem printableAscii_not_control {point : CodePoint}
    (printable : (0x20 ≤ point.val && point.val ≤ 0x7E) = true) : point.isControl = false := by
  have range := printableAscii_range printable
  simp only [CodePoint.isControl, Bool.or_eq_false_iff, Bool.and_eq_false_iff,
    decide_eq_false_iff_not]
  omega

/-- A POSIX host whose Unicode tables stop at ASCII. -/
def asciiPlatform : Platform where
  isPrintable point := 0x20 ≤ point.val && point.val ≤ 0x7E
  isDecimal := CodePoint.isAsciiDigit
  upper text := text.map fun point =>
    if 0x61 ≤ point.val ∧ point.val ≤ 0x7A then codePoint (point.val - 0x20) else point
  isReserved := none
  windows := false
  printable_of_ascii point low high := by simp [low, high]
  printable_not_surrogate _ := printableAscii_not_surrogate
  printable_not_control _ := printableAscii_not_control

/-- One empty file with the given message. -/
def noteBatch (message : PyStr) (bounded : message.length ≤ maxTransferMessageLength) :
    Batch asciiPlatform where
  transferId := List.replicate 32 (chr '0')
  files := [⟨py "note.txt", 0, List.replicate 64 (chr '0')⟩]
  message := some message
  identified := by decide
  counted := by decide
  named file member := by cases List.mem_singleton.mp member; decide
  sized file member := by cases List.mem_singleton.mp member; decide
  totalled := by decide
  hashed file member := by cases List.mem_singleton.mp member; decide
  bounded text written := by cases written; exact bounded

/-! ## Which batches can be announced -/

namespace Batch

variable {platform : Platform} (batch : Batch platform)

/-- A batch can be announced exactly when the JSON text of its offer fits into
a control frame and its message is neither empty nor holds a surrogate pair. -/
theorem transmits_iff {codec : Codec} (inverts : codec.Inverts) {key : Bytes}
    (keyed : key.length = 32) :
    batch.Transmits codec key ↔
      batch.offerLength ≤ controlTextLimit ∧
        ∀ text, batch.message = some text → text ≠ [] ∧ PairFree text := by
  unfold Transmits
  simp only [delivered_iff keyed, batch.offerFrame_textLength]
  constructor
  · rintro ⟨⟨fits, decoded⟩, _, _, validated⟩
    refine ⟨fits, fun text written => ?_⟩
    have announced : batch.announcedMessage = batch.message := by
      rw [batch.validateOffer_offerFrame] at validated
      exact congrArg TransferOffer.message (Except.ok.inj validated)
    have nonempty : text ≠ [] := by
      rintro rfl
      rw [announcedMessage, written] at announced
      cases announced
    refine ⟨nonempty, ?_⟩
    -- The decoder returns the frame with the pairs joined.
    let joined := DirectTransfer.offerFrame batch.transferId (announcedFiles batch.files)
      (batch.message.map joinPairs)
    have joinedFormed : joined.WellFormed :=
      batch.offerable.wellFormed_offerFrame batch.identified fun other equal => by
        rw [written] at equal
        cases equal
        exact pairFree_joinPairs text
    have joinedDecoded := decodeControl_encodeControl inverts joinedFormed rfl
    have sameText : encodeControl codec joined = encodeControl codec batch.offerFrame :=
      congrArg encodeAscii (dumps_offerFrame_joinPairs codec.floats _ _ _)
    rw [sameText, decoded] at joinedDecoded
    have frames : DirectTransfer.offerFrame batch.transferId (announcedFiles batch.files)
        (some text) = DirectTransfer.offerFrame batch.transferId (announcedFiles batch.files)
          (some (joinPairs text)) := by
      have equal := Except.ok.inj joinedDecoded
      simpa only [offerFrame, joined, written, Option.map_some] using equal
    rw [offerFrame_message_inj nonempty frames]
    exact pairFree_joinPairs text
  · rintro ⟨fits, messages⟩
    obtain ⟨queryFits, stateFits⟩ := batch.resume_lengths codec.floats
    have announced : batch.announcedMessage = batch.message := by
      unfold announcedMessage
      rcases written : batch.message with _ | _ | ⟨first, rest⟩
      · rfl
      · exact absurd rfl (messages [] written).1
      · rfl
    refine ⟨⟨fits, ?_⟩, ⟨queryFits.trans fits, ?_⟩, fun offset sound =>
      ⟨(stateFits offset sound).trans fits, ?_⟩, ?_⟩
    · exact decodeControl_encodeControl inverts (batch.offerable.wellFormed_offerFrame
        batch.identified fun text written => (messages text written).2) rfl
    · exact decodeControl_encodeControl inverts
        (@Offerable.wellFormed_resumeQuery _ batch.offer batch.offerable
          batch.identified) rfl
    · exact decodeControl_encodeControl inverts
        (@Offerable.wellFormed_resumeState _ batch.offer batch.offerable
          batch.identified offset) rfl
    · rw [batch.validateOffer_offerFrame, announced]
      rfl

end Batch

/-- A short message is transmitted. -/
theorem greeting_transmitted :
    (noteBatch (py "hello") (by decide)).Transmits referenceCodec (List.replicate 32 0) :=
  (Batch.transmits_iff _ referenceCodec_inverts (by simp)).mpr
    ⟨by decide, fun _ written => by
      cases written
      exact ⟨by decide, pairFree_py "hello"⟩⟩

/-- A message of the greatest permitted length leaves no room for the rest of
the offer, which the receiver therefore refuses. -/
theorem long_message_not_transmitted :
    ¬ ∀ (platform : Platform) (codec : Codec) (key : Bytes) (batch : Batch platform),
      codec.Inverts → key.length = 32 → batch.Transmits codec key := by
  intro always
  let text : PyStr := List.replicate maxTransferMessageLength (chr 'a')
  let batch := noteBatch text (by simp [text])
  have keyed : (List.replicate 32 (0 : UInt8)).length = 32 := by simp
  have sent := (always _ referenceCodec _ batch referenceCodec_inverts keyed).1
  have fits := ((delivered_iff keyed _).mp sent).1
  rw [batch.offerFrame_textLength] at fits
  have long : 4096 + 131 ≤ batch.offerLength := by
    have written : batch.message = some (chr 'a' :: List.replicate 4095 (chr 'a')) := rfl
    have quoted := length_le_quotedLength (chr 'a' :: List.replicate 4095 (chr 'a'))
    simp only [List.length_cons, List.length_replicate] at quoted
    simp only [Batch.offerLength, written]
    omega
  have limit : controlTextLimit = 4132 := by decide
  omega

end DirectTransfer
