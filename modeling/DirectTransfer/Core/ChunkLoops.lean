import DirectTransfer.Core.ProtocolProperties
import Mathlib.Algebra.BigOperators.Group.Finset.Basic

/-! The loops that carry one file: the sender's over successive reads of the
source, the receiver's over the frames that arrive. -/

set_option autoImplicit false

namespace DirectTransfer

open Library

/-! ## The sender's loop -/

/-- Where the chunk loop of `_send_v3_payload` leaves the file: the headers and
data it has handed over, its two counters, and what it raises. -/
structure SentChunks where
  frames : List (Json × Bytes)
  index : Nat
  transferred : Nat
  failure : Option Raised

def sourceChanged : Raised := raised .protocolError "Source file changed during transfer"

/-- The loop over what the reads of the source return one after another. -/
def sendChunks (transferId fileId : PyStr) (size : Nat) (reads : Nat → Bytes)
    (index transferred : Nat) : SentChunks :=
  if transferred < size then
    match reads 0 with
    | [] => ⟨[], index, transferred, some sourceChanged⟩
    | first :: rest =>
        let later := sendChunks transferId fileId size (fun call => reads (call + 1)) (index + 1)
          (transferred + (rest.length + 1))
        { later with frames :=
            (chunkHeader transferId fileId index transferred (rest.length + 1), first :: rest) ::
              later.frames }
  else ⟨[], index, transferred, none⟩
termination_by size - transferred
decreasing_by omega

/-- The reads of an unchanging source from an offset on. -/
def sourceReads (content : Bytes) (offset : Nat) (call : Nat) : Bytes :=
  (content.drop (offset + call * chunkSize)).take chunkSize

/-! ## The receiver's loop -/

/-- The partial file with the position of the next write, and the expected index. -/
structure Reception where
  content : Bytes
  index : Nat
  transferred : Nat
  deriving DecidableEq

/-- `file_handle.write(raw)` at a position; a gap before it is filled with zeros. -/
def writeAt (content : Bytes) (position : Nat) (raw : Bytes) : Bytes :=
  content.take position ++ List.replicate (position - content.length) 0 ++ raw ++
    content.drop (position + raw.length)

/-- One iteration of the loop of `_receive_v3_file_data`. -/
def receiveChunk (transferId fileId : PyStr) (size : Nat) (reception : Reception) (control : Json)
    (plaintext : Bytes) : Except Raised Reception :=
  if control.field "type" = .str (py "cancel") then
    if control.field "transfer_id" ≠ .str transferId then
      .error (raised .protocolError "Cancel transfer ID mismatch")
    else .error (raised .transferCancelled "Transfer cancelled by peer")
  else match validateChunkControl control transferId fileId reception.index reception.transferred
      (size - reception.transferred) with
    | .error error => .error error
    | .ok declared =>
        if plaintext.length ≠ declared then
          .error (raised .protocolError "Chunk length mismatch")
        else .ok ⟨writeAt reception.content reception.transferred plaintext, reception.index + 1,
          reception.transferred + plaintext.length⟩

/-- The loop over arriving frames, with those it leaves; it times out when none is left. -/
def receiveChunks (transferId fileId : PyStr) (size : Nat) :
    List (Json × Bytes) → Reception → Except Raised (Reception × List (Json × Bytes))
  | [], reception =>
      if reception.transferred < size then .error (raised .timeoutError "timed out")
      else .ok (reception, [])
  | (control, plaintext) :: later, reception =>
      if reception.transferred < size then
        match receiveChunk transferId fileId size reception control plaintext with
        | .error error => .error error
        | .ok next => receiveChunks transferId fileId size later next
      else .ok (reception, (control, plaintext) :: later)

/-- Every header passes the receiver's check for the offset and the bytes that remain. -/
def Accepted (transferId fileId : PyStr) (size : Nat) :
    List (Json × Bytes) → (index transferred : Nat) → Prop
  | [], _, _ => True
  | (control, raw) :: later, index, transferred =>
      validateChunkControl control transferId fileId index transferred (size - transferred) =
          .ok raw.length ∧
        Accepted transferId fileId size later (index + 1) (transferred + raw.length)

/-! ## Headers -/

section

variable {transferId fileId : PyStr}

/-- A receiver in step takes the sender's header exactly when the chunk fits. -/
theorem validateChunkControl_header (identified : isTransferId transferId = true)
    (named : isFileId fileId = true) (index offset size remaining : Nat) :
    validateChunkControl (chunkHeader transferId fileId index offset size) transferId fileId index
        offset remaining =
      if 0 < size ∧ size ≤ min chunkSize remaining then .ok size
      else .error (raised .protocolError "Invalid chunk metadata") := by
  have dict : (chunkHeader transferId fileId index offset size).isDict = true := rfl
  have transfer : validateTransferId (.str transferId) = .ok transferId := by
    simp [validateTransferId, identified]
  have type : (chunkHeader transferId fileId index offset size).field "type" =
      .str (py "chunk") := by simp [chunkHeader]
  have transferField : (chunkHeader transferId fileId index offset size).field "transfer_id" =
      .str transferId := by simp [chunkHeader]
  have fileField : (chunkHeader transferId fileId index offset size).field "file_id" =
      .str fileId := by simp [chunkHeader]
  have indexField : (chunkHeader transferId fileId index offset size).field "index" =
      .int index := by simp [chunkHeader]
  have offsetField : (chunkHeader transferId fileId index offset size).field "offset" =
      .int offset := by simp [chunkHeader]
  have sizeField : (chunkHeader transferId fileId index offset size).field "size" =
      .int size := by simp [chunkHeader]
  have natural (value : Nat) : ¬ (value : Int) < 0 := Int.not_lt.mpr (Int.natCast_nonneg value)
  have cast : ((0 : Int) < size ∧ (size : Int) ≤ ((min chunkSize remaining : Nat) : Int)) ↔
      0 < size ∧ size ≤ min chunkSize remaining := by norm_cast
  simp only [validateChunkControl, dict, transfer, type, transferField, fileField, indexField,
    offsetField, sizeField, named, natural, bind, Except.bind, pure, Except.pure, throw, throwThe,
    MonadExceptOf.throw, Bool.true_eq_false, ne_eq, not_true_eq_false, or_self, ↓reduceIte,
    false_or, Int.toNat_natCast]
  by_cases fits : 0 < size ∧ size ≤ min chunkSize remaining
  · rw [if_pos fits, if_neg (not_not.mpr (cast.mpr fits))]
  · rw [if_neg fits, if_pos fun small => fits (cast.mp small)]

/-- One iteration of the receiver on the next frames of a sender in step. -/
theorem receiveChunk_header (identified : isTransferId transferId = true)
    (named : isFileId fileId = true) {size : Nat} {reception : Reception} {raw : Bytes}
    (fits : 0 < raw.length ∧ raw.length ≤ min chunkSize (size - reception.transferred)) :
    receiveChunk transferId fileId size reception
        (chunkHeader transferId fileId reception.index reception.transferred raw.length) raw =
      .ok ⟨writeAt reception.content reception.transferred raw, reception.index + 1,
        reception.transferred + raw.length⟩ := by
  have type : (chunkHeader transferId fileId reception.index reception.transferred
      raw.length).field "type" ≠ .str (py "cancel") := by simp [chunkHeader]
  rw [receiveChunk, if_neg type, validateChunkControl_header identified named, if_pos fits]
  simp only [ne_eq, not_true_eq_false, ↓reduceIte]

end

/-! ## An unchanging source -/

section

variable {transferId fileId : PyStr}

/-- A write at the end of the partial appends. -/
theorem writeAt_end {content : Bytes} {position : Nat} (ends : content.length = position)
    (raw : Bytes) : writeAt content position raw = content ++ raw := by
  subst ends
  simp [writeAt]

theorem sourceReads_succ (content : Bytes) (offset : Nat) :
    (fun call => sourceReads content offset (call + 1)) =
      sourceReads content (offset + chunkSize) := by
  funext call
  simp only [sourceReads]
  congr 2
  rw [Nat.succ_mul]
  omega

theorem sourceReads_zero (content : Bytes) (offset : Nat) :
    sourceReads content offset 0 = (content.drop offset).take chunkSize := by
  simp [sourceReads]

/-- Both loops go on from the same position of an unchanging source to its end. -/
theorem loops_agree (identified : isTransferId transferId = true) (named : isFileId fileId = true)
    (content : Bytes) {reads : Nat → Bytes} {transferred : Nat} (index : Nat)
    (within : transferred ≤ content.length)
    (unread : transferred < content.length → reads = sourceReads content transferred) :
    let sent := sendChunks transferId fileId content.length reads index transferred
    sent.failure = none ∧ sent.transferred = content.length ∧
      Accepted transferId fileId content.length sent.frames index transferred ∧
      receiveChunks transferId fileId content.length sent.frames
          ⟨content.take transferred, index, transferred⟩ =
        .ok (⟨content, sent.index, content.length⟩, []) := by
  induction left : content.length - transferred using Nat.strong_induction_on
    generalizing reads index transferred with
  | _ left ih =>
      subst left
      by_cases more : transferred < content.length
      · -- the next read returns the next block, a whole one or the last
        have block : reads 0 = (content.drop transferred).take chunkSize := by
          rw [unread more, sourceReads_zero]
        have size : (reads 0).length = min chunkSize (content.length - transferred) := by
          rw [block, List.length_take, List.length_drop]
        have positive : 0 < chunkSize := by decide
        obtain ⟨first, rest, raw⟩ : ∃ first rest, reads 0 = first :: rest := by
          cases raw : reads 0 with
          | nil => rw [raw] at size; simp only [List.length_nil] at size; omega
          | cons first rest => exact ⟨first, rest, rfl⟩
        rw [raw] at size block
        have read : (first :: rest).length = rest.length + 1 := List.length_cons
        have step := @ih _ (by omega) (fun call => reads (call + 1))
          (transferred + (rest.length + 1)) (index + 1) (by omega) (fun further => by
            have full : rest.length + 1 = chunkSize := by omega
            rw [full, unread more, sourceReads_succ]) rfl
        obtain ⟨done, all, checked, received⟩ := step
        have fits : 0 < (first :: rest).length ∧
            (first :: rest).length ≤ min chunkSize (content.length - transferred) := by omega
        have written : writeAt (content.take transferred) transferred (first :: rest) =
            content.take (transferred + (rest.length + 1)) := by
          rw [writeAt_end (List.length_take_of_le within), List.take_add, ← read, size, block,
            ← List.length_drop, ← List.take_eq_take_min]
        have accepted := @receiveChunk_header transferId fileId identified named content.length
          ⟨content.take transferred, index, transferred⟩ _ fits
        have header := validateChunkControl_header identified named index transferred
          (rest.length + 1) (content.length - transferred)
        simp only [read, written] at accepted
        rw [sendChunks, if_pos more, raw]
        refine ⟨done, all, ⟨header.trans (if_pos (read ▸ fits)), checked⟩, ?_⟩
        simp only
        rw [receiveChunks, if_pos more, accepted]
        exact received
      · have ended : transferred = content.length := by omega
        subst ended
        rw [sendChunks, if_neg more]
        refine ⟨rfl, rfl, trivial, ?_⟩
        rw [receiveChunks, if_neg more, List.take_length]

/-- From any offset the receiver takes every frame of the sender, and both loops
end at the size of the content, with equal indices and the whole content received. -/
theorem chunk_loops_agree (identified : isTransferId transferId = true)
    (named : isFileId fileId = true) (content : Bytes) {offset : Nat}
    (within : offset ≤ content.length) :
    let sent := sendChunks transferId fileId content.length (sourceReads content offset)
      (offset / chunkSize) offset
    sent.failure = none ∧ sent.transferred = content.length ∧
      Accepted transferId fileId content.length sent.frames (offset / chunkSize) offset ∧
      receiveChunks transferId fileId content.length sent.frames
          ⟨content.take offset, offset / chunkSize, offset⟩ =
        .ok (⟨content, sent.index, content.length⟩, []) :=
  loops_agree identified named content (offset / chunkSize) within fun _ => rfl

end

/-- Three octets resumed after the first. -/
theorem resumed_octets_agree :
    let sent := sendChunks (List.replicate 32 (chr '0')) (py "file-0") 3
      (sourceReads [1, 2, 3] 1) 0 1
    sent.failure = none ∧ sent.transferred = 3 ∧
      Accepted (List.replicate 32 (chr '0')) (py "file-0") 3 sent.frames 0 1 ∧
      receiveChunks (List.replicate 32 (chr '0')) (py "file-0") 3 sent.frames ⟨[1], 0, 1⟩ =
        .ok (⟨[1, 2, 3], sent.index, 3⟩, []) :=
  chunk_loops_agree (by decide) (by decide) [1, 2, 3] (by decide)

/-! ## The frames on the wire -/

section

variable {transferId fileId : PyStr}

theorem isFileId_bounded (named : isFileId fileId = true) : quotedLength fileId ≤ 66 := by
  simp only [isFileId, Bool.and_eq_true, decide_eq_true_eq] at named
  obtain ⟨⟨_, short⟩, letters⟩ := named
  rw [quotedLength_of_plain]
  · omega
  · intro point member
    have letter := List.all_eq_true.mp letters point member
    have underscore : (chr '_').val = 0x5F := rfl
    have hyphen : (chr '-').val = 0x2D := rfl
    simp only [Bool.or_eq_true, Bool.and_eq_true, decide_eq_true_eq, Fin.ext_iff, underscore,
      hyphen] at letter
    simp only [Set.mem_Icc]
    omega

/-- Within the size limit a header fits into a control frame and is decoded as it was. -/
theorem chunkHeader_delivered {codec : Codec} (inverts : codec.Inverts) {key : Bytes}
    (keyed : key.length = 32) (identified : isTransferId transferId = true)
    (named : isFileId fileId = true) {index offset size : Nat} (indexBound : index ≤ maxFileSize)
    (offsetBound : offset ≤ maxFileSize) (sizeBound : size ≤ maxFileSize) :
    Delivered codec key (chunkHeader transferId fileId index offset size) := by
  have digits {number : Nat} (bounded : number ≤ maxFileSize) : decimalLength number ≤ 12 :=
    decimalLength_le (by decide) (Nat.lt_of_le_of_lt bounded (by decide))
  have keys : quotedLength (py "type") = 6 ∧ quotedLength (py "chunk") = 7 ∧
      quotedLength (py "transfer_id") = 13 ∧ quotedLength (py "file_id") = 9 ∧
      quotedLength (py "index") = 7 ∧ quotedLength (py "offset") = 8 ∧
      quotedLength (py "size") = 6 := by decide
  have limit : controlTextLimit = 4132 := by decide
  have identifier := isFileId_bounded named
  have hex := identified
  simp only [isTransferId, Bool.and_eq_true, decide_eq_true_eq] at hex
  have transfer := quotedLength_lowerHex hex.2
  apply (delivered_iff keyed _).mpr
  constructor
  · have first := digits indexBound
    have second := digits offsetBound
    have third := digits sizeBound
    simp only [chunkHeader, Json.dumps_obj_length, Json.dumps_str_length, Json.dumps_nat_length,
      List.map_cons, List.map_nil, List.sum_cons, List.sum_nil, keys, transfer, hex.1]
    omega
  · apply decodeControl_encodeControl inverts _ rfl
    simp [chunkHeader, Json.WellFormed, Json.WellFormedFields, pairFree_lowerHex hex.2,
      pairFree_fileId named]

/-- The data of a chunk comes out of its frame as it went in. -/
theorem data_read_back {codec : Codec} {nonce key raw : Bytes} (keyed : key.length = 32)
    (fresh : nonce.length = nonceSize) (limited : raw.length ≤ chunkSize) (rest : Bytes) :
    ∃ wire, sendEncryptedFrame codec nonce key raw = .ok wire ∧
      receiveDataFrame codec key (wire ++ rest) = .ok (raw, rest) := by
  have size := sealed_length codec key raw fresh
  have bound : chunkSize = 65536 := by decide
  have small : (sealed codec nonce key raw).length < 2 ^ 32 := by omega
  refine ⟨_, (send_eq codec raw keyed).trans (if_pos small), ?_⟩
  have unpacked := unpackFrame_bigEndian (chunkSize + 64) (sealed codec nonce key raw ++ rest) small
  rw [if_neg (by omega), if_neg (by simp), List.take_left, List.drop_left, ← List.append_assoc]
    at unpacked
  rw [receiveDataFrame, unpacked]
  simp only [bind, Except.bind, decrypt_sealed codec raw keyed fresh]
  rfl

/-- A header of the loop counts no more chunks than octets. -/
theorem sendChunks_frames {size : Nat} {reads : Nat → Bytes} {index transferred : Nat}
    (limited : ∀ call, (reads call).length ≤ chunkSize) (counted : index ≤ transferred) :
    ∀ frame ∈ (sendChunks transferId fileId size reads index transferred).frames,
      ∃ number position, frame.1 = chunkHeader transferId fileId number position frame.2.length ∧
        number ≤ position ∧ position < size ∧ frame.2.length ≤ chunkSize := by
  induction left : size - transferred using Nat.strong_induction_on
    generalizing reads index transferred with
  | _ left ih =>
      subst left
      rw [sendChunks]
      by_cases more : transferred < size
      · rw [if_pos more]
        cases raw : reads 0 with
        | nil => exact fun frame member => nomatch member
        | cons first rest =>
            have small := limited 0
            rw [raw] at small
            intro frame member
            rcases List.mem_cons.mp member with rfl | later
            · exact ⟨index, transferred, rfl, counted, more, small⟩
            · exact ih _ (by omega) (fun call => limited (call + 1)) (by omega) rfl frame later
      · rw [if_neg more]
        exact fun frame member => nomatch member

/-- Of a file within the size limit every frame of the loop is read back from the wire. -/
theorem chunk_frames_read_back {codec : Codec} (inverts : codec.Inverts) {key : Bytes}
    (keyed : key.length = 32) (identified : isTransferId transferId = true)
    (named : isFileId fileId = true) {size : Nat} (sized : size ≤ maxFileSize)
    {reads : Nat → Bytes} (limited : ∀ call, (reads call).length ≤ chunkSize) (offset : Nat) :
    ∀ frame ∈ (sendChunks transferId fileId size reads (offset / chunkSize) offset).frames,
      Delivered codec key frame.1 ∧
        ∀ nonce rest : Bytes, nonce.length = nonceSize →
          ∃ wire, sendEncryptedFrame codec nonce key frame.2 = .ok wire ∧
            receiveDataFrame codec key (wire ++ rest) = .ok (frame.2, rest) := by
  intro frame member
  obtain ⟨number, position, header, counted, inside, small⟩ :=
    sendChunks_frames limited (Nat.div_le_self _ _) frame member
  have bound : chunkSize ≤ maxFileSize := by decide
  constructor
  · rw [header]
    exact chunkHeader_delivered inverts keyed identified named (by omega) (by omega) (by omega)
  · intro nonce rest fresh
    exact data_read_back keyed fresh small rest

end

/-! ## A source that changes -/

/-- What the calls before one have read. -/
def readBefore (reads : Nat → Bytes) (call : Nat) : Nat :=
  ∑ earlier ∈ Finset.range call, (reads earlier).length

/-- No read that begins before the offered size ends beyond it. -/
def StaysWithin (reads : Nat → Bytes) (size offset : Nat) : Prop :=
  ∀ call, (∀ earlier, earlier < call → reads earlier ≠ []) →
    offset + readBefore reads call < size → offset + readBefore reads (call + 1) ≤ size

/-- Every header is one the receiver accepts, and the loop ends with the offered
size or because the source has changed. -/
structure KeepsToOffer (transferId fileId : PyStr) (size index offset : Nat) (sent : SentChunks) :
    Prop where
  accepted : Accepted transferId fileId size sent.frames index offset
  ended : sent.failure = none ∧ offset + (sent.frames.map fun frame => frame.2.length).sum = size ∨
    sent.failure = some sourceChanged

section

variable {transferId fileId : PyStr} {reads : Nat → Bytes} {size offset : Nat}

theorem readBefore_succ (reads : Nat → Bytes) (call : Nat) :
    readBefore reads (call + 1) =
      readBefore (fun later => reads (later + 1)) call + (reads 0).length :=
  Finset.sum_range_succ' _ _

/-- Past its first read a source stays within the size from where that read ends. -/
theorem staysWithin_cons (some : reads 0 ≠ []) (more : offset < size) :
    StaysWithin reads size offset ↔ offset + (reads 0).length ≤ size ∧
      StaysWithin (fun call => reads (call + 1)) size (offset + (reads 0).length) := by
  constructor
  · intro stays
    constructor
    · have first := stays 0 (fun earlier below => nomatch below) (by simpa [readBefore] using more)
      simpa [readBefore] using first
    · intro call nonempty begins
      have later := stays (call + 1)
      rw [readBefore_succ reads call, readBefore_succ reads (call + 1)] at later
      have ends := later (fun earlier below => by
        cases earlier with
        | zero => exact some
        | succ earlier => exact nonempty earlier (Nat.lt_of_succ_lt_succ below)) (by omega)
      omega
  · intro both call nonempty begins
    obtain ⟨first, stays⟩ := both
    cases call with
    | zero => simpa [readBefore] using first
    | succ call =>
        rw [readBefore_succ] at begins ⊢
        have ends := stays call (fun earlier below => nonempty (earlier + 1) (by omega)) (by omega)
        omega

theorem keepsToOffer_iff (identified : isTransferId transferId = true)
    (named : isFileId fileId = true) (limited : ∀ call, (reads call).length ≤ chunkSize)
    (index : Nat) (within : offset ≤ size) :
    KeepsToOffer transferId fileId size index offset
        (sendChunks transferId fileId size reads index offset) ↔ StaysWithin reads size offset := by
  induction left : size - offset using Nat.strong_induction_on
    generalizing reads index offset with
  | _ left ih =>
      subst left
      rw [sendChunks]
      by_cases more : offset < size
      · rw [if_pos more]
        cases raw : reads 0 with
        | nil =>
            refine iff_of_true ⟨trivial, .inr rfl⟩ ?_
            intro call nonempty begins
            cases call with
            | zero => simpa [readBefore, raw] using within
            | succ call => exact (nonempty 0 (Nat.succ_pos _) raw).elim
        | cons first rest =>
            have read : (reads 0).length = rest.length + 1 := by rw [raw, List.length_cons]
            have header := validateChunkControl_header identified named index offset
              (rest.length + 1) (size - offset)
            rw [staysWithin_cons (by rw [raw]; exact List.cons_ne_nil _ _) more, read]
            by_cases fits : offset + (rest.length + 1) ≤ size
            · have small := limited 0
              have step := @ih _ (by omega) (fun call => reads (call + 1))
                (offset + (rest.length + 1)) (fun call => limited (call + 1)) (index + 1) fits rfl
              rw [if_pos (by omega)] at header
              rw [← step, and_iff_right fits]
              constructor
              · intro keeps
                refine ⟨keeps.accepted.2, keeps.ended.imp_left ?_⟩
                intro ended
                refine ⟨ended.1, ?_⟩
                have total := ended.2
                simp only [List.map_cons, List.length_cons, List.sum_cons] at total
                omega
              · intro keeps
                refine ⟨⟨header, keeps.accepted⟩, keeps.ended.imp_left ?_⟩
                intro ended
                refine ⟨ended.1, ?_⟩
                have total := ended.2
                simp only [List.map_cons, List.length_cons, List.sum_cons]
                omega
            · rw [if_neg (by omega)] at header
              refine iff_of_false ?_ (fun stays => fits stays.1)
              intro keeps
              cases header.symm.trans keeps.accepted.1
      · rw [if_neg more]
        refine iff_of_true ⟨trivial, .inl ⟨rfl, ?_⟩⟩ ?_
        · simp only [List.map_nil, List.sum_nil]
          omega
        · intro call nonempty begins
          omega

/-- The sender keeps to its offer exactly when no read of the source goes beyond
the offered size. -/
theorem sender_keeps_to_offer_iff (identified : isTransferId transferId = true)
    (named : isFileId fileId = true) (limited : ∀ call, (reads call).length ≤ chunkSize)
    (within : offset ≤ size) :
    KeepsToOffer transferId fileId size (offset / chunkSize) offset
        (sendChunks transferId fileId size reads (offset / chunkSize) offset) ↔
      StaysWithin reads size offset :=
  keepsToOffer_iff identified named limited _ within

end

/-- A source that is truncated before its second read ends the loop as the offer allows. -/
theorem truncated_source_kept :
    KeepsToOffer (List.replicate 32 (chr '0')) (py "file-0") 2 0 0
      (sendChunks (List.replicate 32 (chr '0')) (py "file-0") 2
        (fun call => if call = 0 then [7] else []) 0 0) := by
  have limited (call : Nat) : (if call = 0 then [7] else [] : Bytes).length ≤ chunkSize := by
    split <;> decide
  apply (@sender_keeps_to_offer_iff _ _ _ 2 0 (by decide) (by decide) limited (by decide)).mpr
  intro call nonempty begins
  cases call with
  | zero => decide
  | succ call => cases call with
    | zero => decide
    | succ call => exact (nonempty 1 (by omega) rfl).elim

/-- A source of one octet that has grown to two by the time it is read. -/
theorem grown_source_exceeds :
    ¬ KeepsToOffer (List.replicate 32 (chr '0')) (py "file-0") 1 0 0
      (sendChunks (List.replicate 32 (chr '0')) (py "file-0") 1 (fun _ => [7, 8]) 0 0) := by
  have header := @validateChunkControl_header (List.replicate 32 (chr '0')) (py "file-0")
    (by decide) (by decide) 0 0 2 1
  intro keeps
  have accepted := keeps.accepted
  rw [sendChunks, if_pos (by decide)] at accepted
  cases header.symm.trans accepted.1

end DirectTransfer
