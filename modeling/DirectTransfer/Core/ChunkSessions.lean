import DirectTransfer.Core.ChunkLoops
import DirectTransfer.Core.Receiver
import DirectTransfer.Core.Sender

/-! The chunk loops as the sessions run them, call by call. -/

set_option autoImplicit false

namespace DirectTransfer

open Library

/-! ## Sending -/

/-- The header and the data of the chunk that a call begins to hand over. -/
def SendPhase.chunk? (sending : Sending) (infos : List TransferInfo) (phase : SendPhase) :
    Option (Json × Bytes) :=
  match phase with
  | .chunkHeader _ _ _ raw => (phase.frame sending infos).map fun header => (header, raw)
  | _ => none

/-- Calls of a sending session, with the chunks they hand over. -/
inductive HandsOver (sending : Sending) :
    List TransferInfo → Progress → List (Json × Bytes) → List TransferInfo → Progress → Prop where
  | refl {infos progress} : HandsOver sending infos progress [] infos progress
  | call {infos phase next progress chunks last final} (event : Event) :
      sessionStep sending infos phase event = some (next, progress) →
      HandsOver sending next progress chunks last final →
      HandsOver sending infos (.stands phase) ((phase.chunk? sending infos).toList ++ chunks) last final

namespace HandsOver

variable {sending : Sending} {infos next last : List TransferInfo} {phase : SendPhase}
  {progress final : Progress} {chunks : List (Json × Bytes)}

theorem silent (event : Event) (quiet : phase.chunk? sending infos = none)
    (stepped : sessionStep sending infos phase event = some (next, progress))
    (later : HandsOver sending next progress chunks last final) :
    HandsOver sending infos (.stands phase) chunks last final := by
  have whole := HandsOver.call event stepped later
  rwa [quiet] at whole

theorem chunk {chunk : Json × Bytes} (event : Event) (begins : phase.chunk? sending infos = some chunk)
    (stepped : sessionStep sending infos phase event = some (next, progress))
    (later : HandsOver sending next progress chunks last final) :
    HandsOver sending infos (.stands phase) (chunk :: chunks) last final := by
  have whole := HandsOver.call event stepped later
  rwa [begins] at whole

end HandsOver

section

variable {sending : Sending} {payload : Payload} {file : Nat} {source : FileMeta}
  {offered : IncomingFile}

/-- An uncancelled session whose sends succeed hands over what the loop hands
over, and ends its loop as the loop ends. -/
theorem session_sendChunks (announced : sending.fileMeta[file]? = some source)
    (offers : payload.offer.files[file]? = some offered) {reads : Nat → Bytes}
    (limited : ∀ call, (reads call).length ≤ chunkSize) (now : Time) {infos : List TransferInfo}
    {info : TransferInfo} (found : infos[file]? = some info) (index : Nat) :
    let sent := sendChunks payload.offer.transferId offered.fileId source.size reads index
      info.bytesTransferred
    ∃ last final, HandsOver sending infos (chunkLoop sending infos payload file index) sent.frames
        last final ∧
      (sent.failure = none → final = .stands (.fileEnd payload file) ∧
        ∃ counted, last[file]? = some counted ∧ counted.bytesTransferred = sent.transferred) ∧
      ∀ error, sent.failure = some error → final = .ended (.error error) := by
  induction left : source.size - info.bytesTransferred using Nat.strong_induction_on
    generalizing reads infos info index with
  | _ left ih =>
      subst left
      rw [chunkLoop, found, announced, sendChunks]
      by_cases more : info.bytesTransferred < source.size
      · simp only [if_pos more]
        cases raw : reads 0 with
        | nil =>
            refine ⟨infos, .ended (.error sourceChanged), ?_, ?_, ?_⟩
            · apply HandsOver.silent ⟨now, .flag false⟩ rfl rfl
              exact .silent ⟨now, .octets []⟩ rfl rfl .refl
            · intro none
              cases none
            · intro error failed
              cases failed
              rfl
        | cons first rest =>
            have small := limited 0
            rw [raw] at small
            let sent := countChunk infos file (first :: rest)
            have counted : sent[file]? = some { info with
                bytesTransferred := info.bytesTransferred + (rest.length + 1)
                bytesTransferredThisAttempt :=
                  info.bytesTransferredThisAttempt + (rest.length + 1) } := by
              simp [sent, countChunk, found]
            obtain ⟨last, final, handed, ends, fails⟩ :=
              @ih _ (by dsimp only; omega) (fun call => reads (call + 1))
                (fun call => limited (call + 1)) sent _ counted (index + 1) rfl
            refine ⟨last, final, ?_, ends, fails⟩
            have header : (SendPhase.chunkHeader payload file index (first :: rest)).chunk? sending
                infos = some (chunkHeader payload.offer.transferId offered.fileId index
                  info.bytesTransferred (rest.length + 1), first :: rest) := by
              simp [SendPhase.chunk?, SendPhase.frame, found, offers]
            have read : sessionStep sending infos (.read payload file index)
                ⟨now, .octets (first :: rest)⟩ =
                  some (infos, .stands (.chunkHeader payload file index (first :: rest))) := by
              exact if_neg (Nat.not_lt.mpr small)
            apply HandsOver.silent ⟨now, .flag false⟩ rfl rfl
            apply HandsOver.silent ⟨now, .octets (first :: rest)⟩ rfl read
            apply HandsOver.chunk ⟨now, .done⟩ header rfl
            exact .silent ⟨now, .done⟩ rfl rfl handed
      · simp only [if_neg more]
        refine ⟨infos, _, .refl, ?_, ?_⟩
        · intro _
          exact ⟨rfl, info, found, rfl⟩
        · intro error failed
          cases failed

end

/-! ## Receiving -/

namespace ReceiveSession

/-- A session over several events. -/
def runEvents : Registry → ReceiveSession → List ReceiveEvent → Option (Registry × ReceiveSession)
  | registry, session, [] => some (registry, session)
  | registry, session, event :: later => match session.step registry event with
    | none => none
    | some (next, moved) => runEvents next moved later

/-- What brings chunks to a session: their headers, their data, and the returns
of the writes and of the notifications. -/
def chunkEvents (now : Time) (chunks : List (Json × Bytes)) : List ReceiveEvent :=
  chunks.flatMap fun chunk =>
    [⟨now, .control chunk.1⟩, ⟨now, .octets chunk.2⟩, ⟨now, .done⟩, ⟨now, .done⟩]

theorem chunkLoop_eq {registry : Registry} {session : ReceiveSession} {block : FileBlock}
    {info : TransferInfo} {transferred : Nat} (found : registry.transfers[block.record]? = some info)
    (position : info.bytesTransferred = transferred) (index : Nat) :
    chunkLoop registry session block index =
      session.moveTo (.inside block (if transferred < block.offered.size then .chunk index
        else .fileEnd)) := by
  subst position
  rw [chunkLoop, found]

/-- What one iteration of the loop accepts, the four calls of the session accept. -/
theorem runEvents_chunk {registry : Registry} {session : ReceiveSession} {block : FileBlock}
    {info : TransferInfo} {reception next : Reception} {control : Json} {plaintext : Bytes}
    (found : registry.transfers[block.record]? = some info)
    (position : info.bytesTransferred = reception.transferred)
    (accepted : receiveChunk session.transferId block.offered.fileId block.offered.size reception
      control plaintext = .ok next) (now : Time) (later : List ReceiveEvent) :
    ∃ counted moved, moved.origin = session.origin ∧
      runEvents registry (session.moveTo (.inside block (.chunk reception.index)))
          (⟨now, .control control⟩ :: ⟨now, .octets plaintext⟩ :: ⟨now, .done⟩ :: ⟨now, .done⟩ ::
            later) =
        runEvents counted (chunkLoop counted moved block next.index) later ∧
      ∃ info, counted.transfers[block.record]? = some info ∧
        info.bytesTransferred = next.transferred := by
  let standing (call : BlockCall) : ReceiveSession := session.moveTo (.inside block call)
  obtain ⟨declared, checked, sized, rfl⟩ : ∃ declared,
      checkChunk registry session block reception.index control = .ok declared ∧
        plaintext.length = declared ∧
        next = ⟨writeAt reception.content reception.transferred plaintext, reception.index + 1,
          reception.transferred + plaintext.length⟩ := by
    unfold receiveChunk at accepted
    by_cases cancelled : control.field "type" = .str (py "cancel")
    · rw [if_pos cancelled] at accepted
      split at accepted <;> cases accepted
    · rw [if_neg cancelled, ← position] at accepted
      cases valid : validateChunkControl control session.transferId block.offered.fileId
          reception.index info.bytesTransferred
          (block.offered.size - info.bytesTransferred) with
      | error error =>
          rw [valid] at accepted
          cases accepted
      | ok declared =>
          rw [valid] at accepted
          by_cases sized : plaintext.length = declared
          · simp only [sized, ne_eq, not_true_eq_false, ↓reduceIte, Except.ok.injEq] at accepted
            refine ⟨declared, ?_, sized, ?_⟩
            · rw [checkChunk, if_neg cancelled, found]
              exact valid
            · rw [← accepted, position, sized]
          · simp only [sized, ne_eq, not_false_eq_true, ↓reduceIte] at accepted
            cases accepted
  have header : (standing (.chunk reception.index)).step registry ⟨now, .control control⟩ =
      some (registry, standing (.chunkData reception.index declared)) := by
    have same : checkChunk registry (standing (.chunk reception.index)) block reception.index control =
        .ok declared := checked
    simp only [step, advance, standing, moveTo, advanceInside] at same ⊢
    rw [same]
  have data : (standing (.chunkData reception.index declared)).step registry ⟨now, .octets plaintext⟩ =
      some (registry, standing (.write reception.index plaintext)) := by
    simp only [step, advance, standing, moveTo, advanceInside, sized, ne_eq, not_true_eq_false,
      ↓reduceIte]
  let counted := registry.update block.record fun info => { info with
    bytesTransferred := info.bytesTransferred + plaintext.length
    bytesTransferredThisAttempt := info.bytesTransferredThisAttempt + plaintext.length }
  let notified : ReceiveSession := { standing (.progress reception.index) with unnotified := [] }
  have place : counted.transfers[block.record]? = some { info with
      bytesTransferred := info.bytesTransferred + plaintext.length
      bytesTransferredThisAttempt := info.bytesTransferredThisAttempt + plaintext.length } := by
    obtain ⟨bound, _⟩ := List.getElem?_eq_some_iff.mp found
    simp only [counted, Registry.update, found, Registry.set]
    exact List.getElem?_set_self bound
  refine ⟨counted, notified, rfl, ?_, _, place, by rw [← position]⟩
  rw [runEvents, header]
  simp only
  rw [runEvents, data]
  rfl

/-- The session takes the chunks its loop takes, and comes to the end of the file. -/
theorem session_receiveChunks (now : Time) {chunks : List (Json × Bytes)}
    {reception last : Reception} {registry : Registry} {session : ReceiveSession}
    {block : FileBlock} {info : TransferInfo}
    (found : registry.transfers[block.record]? = some info)
    (position : info.bytesTransferred = reception.transferred)
    (received : receiveChunks session.transferId block.offered.fileId block.offered.size chunks
      reception = .ok (last, [])) :
    ∃ next ended counted,
      runEvents registry (chunkLoop registry session block reception.index)
          (chunkEvents now chunks) = some (next, ended) ∧
        ended.phase = .inside block .fileEnd ∧ next.transfers[block.record]? = some counted ∧
          counted.bytesTransferred = last.transferred := by
  induction chunks generalizing registry session info reception with
  | nil =>
      rw [receiveChunks] at received
      by_cases more : reception.transferred < block.offered.size
      · rw [if_pos more] at received
        cases received
      · rw [if_neg more] at received
        cases received
        refine ⟨registry, _, info, rfl, ?_, found, position⟩
        rw [chunkLoop_eq found position, if_neg more]
        rfl
  | cons chunk chunks ih =>
      obtain ⟨control, plaintext⟩ := chunk
      rw [receiveChunks] at received
      by_cases more : reception.transferred < block.offered.size
      · rw [if_pos more] at received
        cases accepted : receiveChunk session.transferId block.offered.fileId block.offered.size
            reception control plaintext with
        | error error =>
            rw [accepted] at received
            cases received
        | ok next =>
            rw [accepted] at received
            obtain ⟨counted, moved, same, ran, after, place, counts⟩ :=
              runEvents_chunk found position accepted now (chunkEvents now chunks)
            have rest : receiveChunks moved.transferId block.offered.fileId block.offered.size
                chunks next = .ok (last, []) := by
              rw [transferId, same]
              exact received
            have started : chunkLoop registry session block reception.index =
                session.moveTo (.inside block (.chunk reception.index)) := by
              rw [chunkLoop_eq found position, if_pos more]
            rw [started]
            obtain ⟨final, ended, total, finished⟩ := ih place counts rest
            exact ⟨final, ended, total, ran.trans finished.1, finished.2⟩
      · rw [if_neg more] at received
        cases received

end ReceiveSession

end DirectTransfer
