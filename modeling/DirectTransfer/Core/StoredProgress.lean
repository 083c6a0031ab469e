import DirectTransfer.Core.CollisionNames
import DirectTransfer.Core.SenderFrames
import DirectTransfer.Core.StoredRuns

/-! A session nobody disturbs, with a sender that keeps to the protocol: wherever the
sessions before it were cut, it brings its transfer to the end. -/

set_option autoImplicit false

namespace DirectTransfer

open Library

/-! ## One session on its own -/

/-- Every chunk a session of the transfer takes is what the sender's file has behind the
end of its partial. -/
def FromSource (offer : TransferOffer) (source : IncomingFile → Bytes) (state : StoredReceiver) :
    StoredLabel → Prop
  | .network index event => ∀ stored, state.sessions[index]? = some stored →
      stored.session.origin.offer = offer → ∀ block chunk raw,
      stored.session.phase = .inside block (.chunkData chunk raw.length) →
      event.answer = .octets raw →
      raw = ((source block.offered).drop
        (StoreHost.partialOctets state.disk offer.transferId block.offered).length).take raw.length
  | _ => True

/-- A prefix goes on by what follows it. -/
theorem prefix_append_next {before whole raw : Bytes} (continues : before <+: whole)
    (next : raw = (whole.drop before.length).take raw.length) : before ++ raw <+: whole := by
  obtain ⟨rest, rfl⟩ := continues
  rw [List.drop_left] at next
  rw [next]
  exact (List.prefix_append_right_inj before).mpr (List.take_prefix _ _)

/-- What a sender that keeps to its program has for a session that waits for a frame, and
what a frame or a notification of the session itself comes to. -/
inductive Answers (offer : TransferOffer) (source : IncomingFile → Bytes) (registry : Registry) :
    ReceivePhase → ReceiveAnswer → Prop where
  | done {phase : ReceivePhase} : Answers offer source registry phase .done
  | query : Answers offer source registry .resumeQuery (.control (resumeQuery offer))
  | start {states : Dict PyStr ResumeFileState} {index : Nat} {file : IncomingFile} :
      offer.files[index]? = some file →
      Answers offer source registry (.fileStart states index)
        (.control (fileControl "file_start" offer.transferId file.fileId))
  | header {block : FileBlock} {index : Nat} :
      Answers offer source registry (.inside block (.chunk index))
        (.control (chunkHeader offer.transferId block.offered.fileId index
          (senderCursor registry block)
          (min chunkSize (block.offered.size - senderCursor registry block))))
  | data {block : FileBlock} {index declared : Nat} :
      Answers offer source registry (.inside block (.chunkData index declared))
        (.octets (((source block.offered).drop (senderCursor registry block)).take declared))
  | fileEnd {block : FileBlock} : Answers offer source registry (.inside block .fileEnd)
      (.control (fileControl "file_end" offer.transferId block.offered.fileId))
  | knownEnd {block : FileBlock} {finalPath : FinalPath} :
      Answers offer source registry (.inside block (.knownEnd finalPath))
        (.control (fileControl "file_end" offer.transferId block.offered.fileId))
  | fin : Answers offer source registry .fin (.control (control "fin" offer.transferId))

/-- No frame is lost on the way of a session and no call to the disk fails, and the sender
keeps to its program. -/
def KeepsTo (offer : TransferOffer) (source : IncomingFile → Bytes) (state : StoredReceiver) :
    StoredLabel → Prop
  | .network index event => ∀ stored, state.sessions[index]? = some stored →
      stored.session.origin.offer = offer →
      Answers offer source state.registry stored.session.phase event.answer
  | .storage _ _ _ failure => failure = none
  | _ => True

/-- The files of an offer as they are at the sender. -/
def sourced (offer : TransferOffer) (source : IncomingFile → Bytes) : Consignment :=
  ⟨offer, fun file octets => octets <+: source file⟩

/-- No symbolic link lies in the receive directory. -/
def Direct (disk : Disk FilePath) : Prop :=
  ∀ path : FilePath, path.directory = .received → ∀ target,
    disk.nodes.get path ≠ some (.symlink target)

theorem Direct.newFiles {named : FilePath → Prop} {disk after : Disk FilePath} (direct : Direct disk)
    (newFiles : NewFiles named disk after) : Direct after := by
  intro path received target linked
  cases newFiles path received with
  | inl same => exact direct path received target (same.symm.trans linked)
  | inr new =>
      obtain ⟨_, inode, placed⟩ := new
      cases placed.symm.trans linked

theorem Direct.frame {touched : FilePath → Prop} {disk after : Disk FilePath} (direct : Direct disk)
    (frame : Disk.Frame touched disk after)
    (outside : ∀ path, touched path → path.directory ≠ .received) : Direct after :=
  direct.newFiles (@newFiles_of_frame disk after touched (fun _ => False) frame outside)

section

variable {host : StoreHost} {platform : Platform}
  {admits : StoredReceiver → StoredLabel → Prop} {goods : Consignment}
  {source : IncomingFile → Bytes} {others : List StoredSession} {registry next : Registry}
  {disk after : Disk FilePath} {stored moved : StoredSession} {session : ReceiveSession}
  {finals changed : IncomingFile → Option FilePath} {block : FileBlock}

/-- A receiver with one further session. -/
def beside (others : List StoredSession) (registry : Registry) (disk : Disk FilePath)
    (stored : StoredSession) : StoredReceiver :=
  ⟨registry, disk, others ++ [stored]⟩

theorem beside_sessions : (beside others registry disk stored).sessions[others.length]? =
    some stored := List.getElem?_concat_length

/-- A condition under which the last session may always go on with its sender, up to its
last call. -/
structure Allows (others : List StoredSession) (offer : TransferOffer)
    (source : IncomingFile → Bytes) (admits : StoredReceiver → StoredLabel → Prop) : Prop where
  network : ∀ registry disk stored event,
    Answers offer source registry stored.session.phase event.answer →
    FromSource offer source (beside others registry disk stored) (.network others.length event) →
    admits (beside others registry disk stored) (.network others.length event)
  storage : ∀ registry disk stored now temp, stored.session.phase ≠ .completeSession →
    admits (beside others registry disk stored) (.storage others.length now temp none)

/-- A host, and a sender whose files continue whatever is expected of them. -/
structure Provides (host : StoreHost) (platform : Platform) (goods : Consignment)
    (source : IncomingFile → Bytes) : Prop where
  lawful : host.Lawful
  places : host.Places platform
  offerable : Offerable platform goods.offer.files
  identified : isTransferId goods.offer.transferId = true
  sized : ∀ file ∈ goods.offer.files, (source file).length = file.size
  continues : ∀ file ∈ goods.offer.files, ∀ octets raw, goods.genuine file octets →
    raw = ((source file).drop octets.length).take raw.length → goods.genuine file (octets ++ raw)

/-- Whole files that are as expected have the offered digests. -/
structure Verified (host : StoreHost) (goods : Consignment) : Prop where
  digest : ∀ file ∈ goods.offer.files, ∀ octets, goods.genuine file octets →
    octets.length = file.size → host.digests.hexdigest octets = file.sha256
  restarts : goods.Restarts host

/-- A run under the condition. -/
def Onward (host : StoreHost) (platform : Platform) (admits : StoredReceiver → StoredLabel → Prop)
    (start finish : StoredReceiver) : Prop :=
  ∃ labels, Run (storedStep host platform) admits start labels finish

theorem Onward.refl {state : StoredReceiver} : Onward host platform admits state state :=
  ⟨[], .refl⟩

theorem Onward.trans {first second third : StoredReceiver}
    (one : Onward host platform admits first second)
    (other : Onward host platform admits second third) :
    Onward host platform admits first third := by
  obtain ⟨left, one⟩ := one
  obtain ⟨right, other⟩ := other
  exact ⟨left ++ right, one.trans other⟩

/-- What the last session of a receiver keeps to. -/
structure Steady (host : StoreHost) (goods : Consignment) (registry : Registry)
    (disk : Disk FilePath) (finals : IncomingFile → Option FilePath) (stored : StoredSession) :
    Prop where
  stands : Stands host registry disk goods finals stored
  keyed : registry.Keyed
  anchored : stored.session.Anchored registry
  recorded : Recorded registry goods.offer finals stored.session
  alike : CountsAlike registry stored.session
  idle : (∀ block, stored.session.phase ≠ .inside block .commit) → stored.commit = none
  same : stored.session.origin.offer = goods.offer
  direct : Direct disk

/-- A call to the disk that has returned, as a run of one step. -/
theorem onward_returned {answer : ReceiveAnswer} {now : Time} {temp : PyStr}
    (admitted : admits (beside others registry disk stored) (.storage others.length now temp none))
    (called : stored.call host platform registry disk temp none = some (after, moved, some answer))
    (stepped : moved.session.step registry ⟨now, answer⟩ = some (next, session)) :
    Onward host platform admits (beside others registry disk stored)
      (beside others next after { moved with session }) := by
  refine ⟨[.storage others.length now temp none], .single admitted ?_⟩
  simp [storedStep, beside, called, stepped]

/-- A call of a commit that is not the last. -/
theorem onward_waiting {now : Time} {temp : PyStr}
    (admitted : admits (beside others registry disk stored) (.storage others.length now temp none))
    (called : stored.call host platform registry disk temp none = some (after, moved, none)) :
    Onward host platform admits (beside others registry disk stored)
      (beside others registry after moved) := by
  refine ⟨[.storage others.length now temp none], .single admitted ?_⟩
  simp [storedStep, beside, called]

/-- Whether an exception has reached a session. -/
def ReceivePhase.disturbed : ReceivePhase → Bool
  | .ended (.error _) | .settling _ _ => true
  | _ => false

theorem advance_of_undisturbed {event : ReceiveEvent} {later : ReceiveSession}
    (undisturbed : later.phase.disturbed = false)
    (stepped : session.step registry event = some (next, later)) :
    session.advance registry event = some (next, .ok later) := by
  unfold ReceiveSession.step at stepped
  split at stepped
  · cases stepped
  · next middle moved advanced =>
      cases stepped
      exact advanced
  · unfold ReceiveSession.leave at stepped
    simp only [Option.some.injEq] at stepped
    split at stepped
    · split at stepped <;> (cases stepped; cases undisturbed)
    · cases stepped
      cases undisturbed

/-- A file whose result is sent is finished. -/
theorem Stands.told {finalPath : FinalPath} (stands : Stands host registry disk goods finals stored)
    (standing : stored.session.phase = .inside block (.sendResult finalPath)) :
    finals block.offered ≠ none := by
  simp only [Stands, standing] at stands
  exact stands.finished

/-- What such a sender sends follows the partial. -/
theorem Answers.sends {answer : ReceiveAnswer} {chunk : Nat} {raw : Bytes}
    (answers : Answers goods.offer source registry stored.session.phase answer)
    (stands : Stands host registry disk goods finals stored)
    (alike : CountsAlike registry stored.session)
    (standing : stored.session.phase = .inside block (.chunkData chunk raw.length))
    (sent : answer = .octets raw) :
    raw = ((source block.offered).drop
      (StoreHost.partialOctets disk goods.offer.transferId block.offered).length).take raw.length := by
  simp only [Stands, standing] at stands
  obtain ⟨cursor, _, _, filling⟩ := stands
  obtain ⟨info, found, counted⟩ := filling.working.counted
  have same := alike block (by rw [standing]; rfl) info found
  rw [filling.length, ← counted, same]
  rw [standing, sent] at answers
  generalize length : raw.length = declared at answers
  cases answers
  rfl

theorem Steady.sends {event : ReceiveEvent} (steady : Steady host goods registry disk finals stored)
    (answers : Answers goods.offer source registry stored.session.phase event.answer) :
    FromSource goods.offer source (beside others registry disk stored)
      (.network others.length event) := by
  intro other found _ block chunk raw standing sent
  cases beside_sessions.symm.trans found
  exact answers.sends steady.stands steady.alike standing sent

/-- A frame of the sender or a notification. -/
theorem Steady.network {event : ReceiveEvent} (provides : Provides host platform goods source)
    (allows : Allows others goods.offer source admits)
    (steady : Steady host goods registry disk finals stored)
    (quiet : stored.session.phase.stores = false)
    (answers : Answers goods.offer source registry stored.session.phase event.answer)
    (advanced : stored.session.advance registry event = some (next, .ok session)) :
    Steady host goods next disk finals { stored with session } ∧
      Onward host platform admits (beside others registry disk stored)
        (beside others next disk { stored with session }) := by
  have stepped := ReceiveSession.step_of_advance advanced
  have transition := ReceiveSession.step_transition stepped
  obtain ⟨evolves, anchored, origin⟩ := transition.anchored steady.keyed steady.anchored
  have calm : stored.commit = none := by
    apply steady.idle
    intro block standing
    rw [standing] at quiet
    cases quiet
  have handed : Handed disk goods stored.session event := by
    intro block index raw standing answer before
    have listed := steady.anchored.offered block (by rw [ReceiveSession.fileBlock?, standing])
    rw [steady.same] at listed
    exact provides.continues _ (List.mem_of_getElem? listed) _ _ before
      (answers.sends steady.stands steady.alike standing answer)
  have stands := steady.stands.network steady.same steady.keyed steady.anchored quiet handed transition
  have recorded := steady.recorded.transition steady.keyed steady.anchored steady.same
    provides.offerable.distinct (ReceiveSession.onlyLost_of_advance advanced) transition
    (fun _ finished => finished) fun block finalPath standing => stands.told standing
  refine ⟨⟨stands, evolves.keyed steady.keyed, anchored, recorded,
    steady.alike.transition transition, fun _ => calm, origin ▸ steady.same, steady.direct⟩,
    [.network others.length event],
    .single (allows.network _ _ _ _ answers (steady.sends answers)) ?_⟩
  simp [storedStep, beside, quiet, stepped]

/-- A call to the disk that has returned. -/
theorem Steady.returned {answer : ReceiveAnswer} {now : Time} {temp : PyStr}
    {handle : Option OpenPartial} (provides : Provides host platform goods source)
    (steady : Steady host goods registry disk finals stored)
    (admitted : admits (beside others registry disk stored) (.storage others.length now temp none))
    (called : stored.call host platform registry disk temp none =
      some (after, ⟨stored.session, handle, none⟩, some answer))
    (stepped : stored.session.step registry ⟨now, answer⟩ = some (next, session))
    (undisturbed : session.phase.disturbed = false)
    (grown : ∀ file, finals file ≠ none → changed file ≠ none)
    (stands : Stands host next after goods changed ⟨session, handle, none⟩)
    (direct : Direct after) :
    Steady host goods next after changed ⟨session, handle, none⟩ ∧
      Onward host platform admits (beside others registry disk stored)
        (beside others next after ⟨session, handle, none⟩) := by
  have transition := ReceiveSession.step_transition stepped
  obtain ⟨evolves, anchored, origin⟩ := transition.anchored steady.keyed steady.anchored
  have recorded := steady.recorded.transition steady.keyed steady.anchored steady.same
    provides.offerable.distinct
    (ReceiveSession.onlyLost_of_advance (advance_of_undisturbed undisturbed stepped)) transition grown
    fun block finalPath standing => stands.told standing
  exact ⟨⟨stands, evolves.keyed steady.keyed, anchored, recorded,
    steady.alike.transition transition, fun _ => rfl, origin ▸ steady.same, direct⟩,
    onward_returned admitted called stepped⟩

/-! ## Chunks -/

/-- The next chunk of a file. -/
theorem Steady.chunk {index cursor : Nat} (now : Time) (provides : Provides host platform goods source)
    (allows : Allows others goods.offer source admits)
    (steady : Steady host goods registry disk finals stored)
    (standing : stored.session.phase = .inside block (.chunk index)) (more : cursor < block.offered.size)
    (filling : Filling host registry disk goods finals block stored.handle cursor) :
    ∃ count after handle,
      0 < count ∧ cursor + count ≤ block.offered.size ∧
      Filling host (registry.receive block count) after goods finals block handle
        (cursor + count) ∧
      Steady host goods (registry.receive block count) after finals
        ⟨ReceiveSession.chunkLoop (registry.receive block count)
          { stored.session with unnotified := [] } block (index + 1), handle, none⟩ ∧
      Onward host platform admits (beside others registry disk stored)
        (beside others (registry.receive block count) after
          ⟨ReceiveSession.chunkLoop (registry.receive block count)
            { stored.session with unnotified := [] } block (index + 1), handle, none⟩) := by
  have member := List.mem_of_getElem? filling.working.listed
  have sized := provides.sized _ member
  obtain ⟨info, found, counted⟩ := filling.working.counted
  have positive : 0 < chunkSize := by decide
  let count := min chunkSize (block.offered.size - cursor)
  have fits : 0 < count ∧ count ≤ min chunkSize (block.offered.size - cursor) :=
    ⟨by omega, Nat.le_refl _⟩
  let raw := ((source block.offered).drop cursor).take count
  have length : raw.length = count := by
    simp only [raw, List.length_take, List.length_drop, sized]
    omega
  have calm : stored.commit = none := steady.idle (by simp [standing])
  obtain ⟨session, handle, commit⟩ := stored
  dsimp only at standing filling calm ⊢
  subst calm
  have at_sender : cursor = senderCursor registry block :=
    counted.symm.trans (steady.alike block (by rw [standing]; rfl) info found)
  have heads := @Answers.header goods.offer source registry block index
  have fills := @Answers.data goods.offer source registry block index count
  rw [← at_sender] at heads fills
  have header := ReceiveSession.advance_header now provides.identified
    (provides.offerable.identified _ member) steady.same standing found counted fits
  obtain ⟨steady, first⟩ := steady.network provides allows (by rw [standing]; rfl)
    (by rw [standing]; exact heads) header
  have declared : (session.moveTo (.inside block (.chunkData index count))).phase =
      .inside block (.chunkData index raw.length) := by
    rw [length]
    rfl
  obtain ⟨steady, second⟩ := steady.network provides allows rfl (by exact fills)
    (ReceiveSession.advance_data now declared)
  obtain ⟨after, other, called, follows, stands, octets, frame⟩ :=
    @Stands.write host platform _ _ _ _ _ _ provides.offerable.distinct _ _ steady.stands rfl
  obtain ⟨steady, third⟩ := steady.returned provides
    (allows.storage _ _ _ now [] (by intro closing; cases closing)) (called []) (follows now) rfl
    (fun _ finished => finished) stands
    (steady.direct.frame frame fun path => partialPath_elsewhere)
  have progressed : (session.moveTo (.inside block (.progress index))).advance
      (registry.receive block raw.length) ⟨now, .done⟩ = some (registry.receive block raw.length,
        .ok (ReceiveSession.chunkLoop (registry.receive block raw.length)
          { session.moveTo (.inside block (.progress index)) with unnotified := [] } block
          (index + 1))) := rfl
  obtain ⟨settled, fourth⟩ := steady.network provides allows rfl .done progressed
  have filled : Filling host (registry.receive block raw.length) after goods finals
      block other (cursor + raw.length) := by
    obtain ⟨place, written⟩ := steady.stands
    have ends := written.length
    rw [octets, List.length_append, filling.length] at ends
    rw [ends]
    exact written
  rw [length] at filled settled third fourth
  exact ⟨count, after, other, fits.1, by omega, filled, settled,
    ((first.trans second).trans third).trans fourth⟩

/-- A file whose partial is open is received to its end. -/
theorem Steady.chunks (now : Time) (provides : Provides host platform goods source)
    (allows : Allows others goods.offer source admits) :
    ∀ remaining registry disk session handle index cursor,
      block.offered.size - cursor = remaining → cursor ≤ block.offered.size →
      Filling host registry disk goods finals block handle cursor →
      Steady host goods registry disk finals
        ⟨ReceiveSession.chunkLoop registry session block index, handle, none⟩ →
      ∃ next after ended last, ended.phase = .inside block .fileEnd ∧
        Steady host goods next after finals ⟨ended, last, none⟩ ∧
        Onward host platform admits (beside others registry disk
          ⟨ReceiveSession.chunkLoop registry session block index, handle, none⟩)
          (beside others next after ⟨ended, last, none⟩) := by
  intro remaining
  induction remaining using Nat.strong_induction_on with
  | h remaining ih =>
      intro registry disk session handle index cursor counts within filling steady
      obtain ⟨info, found, counted⟩ := filling.working.counted
      have loop := @ReceiveSession.chunkLoop_eq registry session block info cursor found counted index
      by_cases more : cursor < block.offered.size
      · rw [if_pos more] at loop
        rw [loop] at steady ⊢
        obtain ⟨count, after, other, positive, fits, next, settled, begins⟩ :=
          steady.chunk now provides allows rfl more filling
        obtain ⟨last, finish, ended, final, standing, rest, ends⟩ :=
          ih (block.offered.size - (cursor + count)) (by omega) _ _ _ _ _ _ rfl fits next settled
        exact ⟨last, finish, ended, final, standing, rest, begins.trans ends⟩
      · rw [if_neg more] at loop
        rw [loop] at steady ⊢
        exact ⟨registry, disk, _, handle, rfl, steady, .refl⟩

/-! ## Commits -/

/-- The names in the way of a commit are tried one after another. -/
theorem Steady.probes (now : Time) (allows : Allows others goods.offer source admits) {first : Nat}
    (standing : session.phase = .inside block .commit) (same : session.origin.offer = goods.offer)
    {handle : Option OpenPartial} (taken : ∀ earlier < first,
      disk.holds (received (candidateName block.offered.name earlier)) = true)
    (free : disk.holds (received (candidateName block.offered.name first)) = false) :
    ∀ left index commit, index + left = first →
      commit.getD (.start platform (partialPath goods.offer.transferId block.offered.fileId)
        block.offered.name []) =
          ⟨partialPath goods.offer.transferId block.offered.fileId, block.offered.name, [],
            .probe false index⟩ →
      Onward host platform admits (beside others registry disk ⟨session, handle, commit⟩)
        (beside others registry disk ⟨session, handle, some ⟨partialPath goods.offer.transferId
          block.offered.fileId, block.offered.name, [],
          .link (candidateName block.offered.name first)⟩⟩) := by
  intro left
  have going : session.phase ≠ .completeSession := by
    rw [standing]
    intro closing
    cases closing
  have path (commit : Option CommitCall) :=
    @partialOf_eq goods ⟨session, handle, commit⟩ block same
  induction left with
  | zero =>
      intro index commit reach began
      rw [Nat.add_zero] at reach
      subst reach
      have links : StoredSession.call host platform registry disk ⟨session, handle, commit⟩ [] none =
          some (disk, ⟨session, handle, some ⟨partialPath goods.offer.transferId block.offered.fileId,
            block.offered.name, [], .link (candidateName block.offered.name index)⟩⟩, none) := by
        simp only [StoredSession.call, standing, StoredSession.commitCall, path, began,
          CommitCall.step, free, Bool.false_eq_true, if_false, Option.map_some, CommitCall.moveTo]
      exact onward_waiting (allows.storage _ _ _ now [] going) links
  | succ left ih =>
      intro index commit reach began
      have held := taken index (by omega)
      have probes : StoredSession.call host platform registry disk ⟨session, handle, commit⟩ [] none =
          some (disk, ⟨session, handle, some ⟨partialPath goods.offer.transferId block.offered.fileId,
            block.offered.name, [], .probe false (index + 1)⟩⟩, none) := by
        simp only [StoredSession.call, standing, StoredSession.commitCall, path, began,
          CommitCall.step, held, if_true, Option.map_some, CommitCall.moveTo]
      exact (onward_waiting (allows.storage _ _ _ now [] going) probes).trans
        (ih (index + 1) _ (by omega) rfl)

theorem Direct.free {path : FilePath} (direct : Direct disk) (received : path.directory = .received)
    (free : disk.holds path = false) : disk.nodes.get path = none := by
  cases placed : disk.nodes.get path with
  | none => rfl
  | some node =>
      cases node with
      | symlink target => exact absurd placed (direct path received target)
      | _ => simp [Disk.holds, Disk.linkLimit, Disk.follow, placed] at free

/-- A verified file is committed under the first name that is free. -/
theorem Steady.commits (now : Time) (provides : Provides host platform goods source)
    (allows : Allows others goods.offer source admits) (restarts : goods.Restarts host)
    {handle : Option OpenPartial}
    (steady : Steady host goods registry disk finals ⟨session, handle, none⟩)
    (standing : session.phase = .inside block .commit) :
    ∃ after name,
      Steady host goods registry after finals ⟨session.moveTo
        (.inside block (.markCompleted (host.shown (received name)))), handle, none⟩ ∧
      Onward host platform admits (beside others registry disk ⟨session, handle, none⟩)
        (beside others registry after ⟨session.moveTo
          (.inside block (.markCompleted (host.shown (received name)))), handle, none⟩) := by
  obtain ⟨first, taken, free⟩ := exists_firstFree disk block.offered.name
  have going : session.phase ≠ .completeSession := by
    rw [standing]
    intro closing
    cases closing
  have stands := steady.stands
  simp only [Stands, standing] at stands
  cases stands with
  | unbegun filled verified =>
      obtain ⟨cursor, working⟩ := filled.working
      obtain ⟨inode, placed⟩ := filled.placed
      have member := List.mem_of_getElem? working.listed
      have accepted : sanitizeFilename platform block.offered.name = .ok block.offered.name :=
        provides.offerable.named _ member
      have path (commit : Option CommitCall) :=
        @partialOf_eq goods ⟨session, handle, commit⟩ block steady.same
      have begins := @Steady.probes host platform admits goods source others registry disk session
        block now allows first standing steady.same handle taken free first 0 none
        (Nat.zero_add first) (by simp only [Option.getD_none, CommitCall.start, accepted])
      have vacant := steady.direct.free rfl free
      obtain ⟨linked, link⟩ : ∃ linked, disk.link
          (partialPath goods.offer.transferId block.offered.fileId)
          (received (candidateName block.offered.name first)) = .ok linked := by
        cases outcome : disk.link (partialPath goods.offer.transferId block.offered.fileId)
            (received (candidateName block.offered.name first)) with
        | ok linked => exact ⟨linked, rfl⟩
        | error failure =>
            cases failure with
            | missing => exact absurd outcome (link_found placed)
            | «exists» =>
                unfold Disk.link at outcome
                rw [vacant] at outcome
                simp only [Option.isSome_none, Bool.false_eq_true, if_false] at outcome
                split at outcome <;> cases outcome
      obtain ⟨resolves, carried⟩ := provides.places block.offered.name first accepted
      have unrecorded :=
        filled.committed restarts verified provides.offerable.distinct resolves carried link
      have links : StoredSession.call host platform registry disk ⟨session, handle, some
          ⟨partialPath goods.offer.transferId block.offered.fileId, block.offered.name, [],
            .link (candidateName block.offered.name first)⟩⟩ [] none =
          some (linked, ⟨session, handle, some ⟨partialPath goods.offer.transferId
            block.offered.fileId, block.offered.name, [],
            .unlinkLinked (candidateName block.offered.name first)⟩⟩, none) := by
        simp only [StoredSession.call, standing, StoredSession.commitCall, path,
          Option.getD_some, CommitCall.step, link, Option.map_some, CommitCall.moveTo]
      have unlinks : StoredSession.call host platform registry linked ⟨session, handle, some
          ⟨partialPath goods.offer.transferId block.offered.fileId, block.offered.name, [],
            .unlinkLinked (candidateName block.offered.name first)⟩⟩ [] none =
          some (linked.unlink (partialPath goods.offer.transferId block.offered.fileId),
            ⟨session, handle, some ⟨partialPath goods.offer.transferId block.offered.fileId,
              block.offered.name, [], .finished (.ok (candidateName block.offered.name first))⟩⟩,
            none) := by
        simp only [StoredSession.call, standing, StoredSession.commitCall, path,
          Option.getD_some, CommitCall.step, Option.map_some, CommitCall.moveTo]
      have returns : StoredSession.call host platform registry
          (linked.unlink (partialPath goods.offer.transferId block.offered.fileId)) ⟨session, handle,
            some ⟨partialPath goods.offer.transferId block.offered.fileId, block.offered.name, [],
              .finished (.ok (candidateName block.offered.name first))⟩⟩ [] none =
          some (linked.unlink (partialPath goods.offer.transferId block.offered.fileId),
            ⟨session, handle, none⟩,
            some (.committed (host.shown (received (candidateName block.offered.name first))))) := by
        simp only [StoredSession.call, standing, StoredSession.commitCall, path, Option.getD_some]
      have follows := @step_inside registry registry session
        ⟨now, .committed (host.shown (received (candidateName block.offered.name first)))⟩ block
        .commit _ standing rfl
      have transition := ReceiveSession.step_transition follows
      obtain ⟨_, anchored, _⟩ := transition.anchored steady.keyed steady.anchored
      have recorded := steady.recorded.transition steady.keyed steady.anchored steady.same
        provides.offerable.distinct
        (ReceiveSession.onlyLost_of_advance (advance_of_undisturbed rfl follows)) transition
        (fun _ finished => finished) fun block finalPath standing => by cases standing
      refine ⟨_, candidateName block.offered.name first, ⟨unrecorded, steady.keyed, anchored, recorded,
        steady.alike.transition transition, fun _ => rfl, steady.same, ?_⟩,
        ((begins.trans (onward_waiting (allows.storage _ _ _ now [] going) links)).trans
          (onward_waiting (allows.storage _ _ _ now [] going) unlinks)).trans
            (onward_returned (allows.storage _ _ _ now [] going) returns follows)⟩
      exact (steady.direct.newFiles (newFiles_link link)).frame (Disk.frame_unlink linked _)
        fun path => partialPath_elsewhere

/-! ## Files -/

/-- The notification that follows a file's result, and the way to the next file. -/
theorem Steady.tells {finalPath : FinalPath} {handle : Option OpenPartial} (now : Time)
    (provides : Provides host platform goods source)
    (allows : Allows others goods.offer source admits)
    (steady : Steady host goods registry disk finals ⟨session, handle, none⟩)
    (standing : session.phase = .inside block (.sendResult finalPath)) :
    ∃ moved : ReceiveSession, moved.phase = (if block.file + 1 < goods.offer.files.length then
        .fileStart block.states (block.file + 1) else .fin) ∧
      Steady host goods registry disk finals ⟨moved, handle, none⟩ ∧
      Onward host platform admits (beside others registry disk ⟨session, handle, none⟩)
        (beside others registry disk ⟨moved, handle, none⟩) := by
  have sent : session.advance registry ⟨now, .done⟩ =
      some (registry, .ok (session.moveTo (.inside block .completed))) := by
    simp only [ReceiveSession.advance, standing, ReceiveSession.advanceInside]
  obtain ⟨steady, first⟩ := steady.network provides allows (by rw [standing]; rfl) .done sent
  have told : (session.moveTo (.inside block .completed)).advance registry ⟨now, .done⟩ =
      some (registry, .ok (ReceiveSession.nextFile { session.moveTo (.inside block .completed) with
        unnotified := [] } block.states (block.file + 1))) := rfl
  obtain ⟨steady, second⟩ := steady.network provides allows rfl .done told
  refine ⟨_, ?_, steady, first.trans second⟩
  have same : session.origin.offer = goods.offer := steady.same
  simp only [ReceiveSession.nextFile, ReceiveSession.moveTo, same]

/-- The next file of a session begins. -/
theorem Steady.begins {states : Dict PyStr ResumeFileState} {index : Nat} {file : IncomingFile}
    {handle : Option OpenPartial} (now : Time) (provides : Provides host platform goods source)
    (allows : Allows others goods.offer source admits)
    (steady : Steady host goods registry disk finals ⟨session, handle, none⟩)
    (standing : session.phase = .fileStart states index)
    (listed : goods.offer.files[index]? = some file) :
    ∃ next moved block, block.file = index ∧ block.offered = file ∧ block.states = states ∧
      moved.phase = .inside block (match finals file with
        | some path => .knownEnd (host.shown path)
        | none => .openPartial) ∧
      Steady host goods next disk finals ⟨moved, handle, none⟩ ∧
      Onward host platform admits (beside others registry disk ⟨session, handle, none⟩)
        (beside others next disk ⟨moved, handle, none⟩) := by
  have same : session.origin.offer = goods.offer := steady.same
  have stands := steady.stands
  simp only [Stands, standing] at stands
  obtain ⟨_, awaits, _⟩ := stands
  have told := awaits index file (Nat.le_refl _) listed
  have member : file ∈ session.origin.offer.files := by
    rw [same]
    exact List.mem_of_getElem? listed
  obtain ⟨created, record, made⟩ := getOrCreate_succeeds
    (StoreHost.resumesAt disk goods.offer.transferId finals file) now
    (by rw [same]; exact steady.recorded.resumable) member
  obtain ⟨steady, first⟩ := steady.network provides allows (by rw [standing]; rfl)
    (by rw [standing]; exact .start listed)
    (ReceiveSession.advance_start now same standing listed told made)
  let block : FileBlock := ⟨states, index, file, record⟩
  cases final : finals file with
  | some path =>
      have known : (block.states.get block.offered.fileId).bind ResumeFileState.finalPath =
          some (host.shown path) := by simp [block, told, final]
      obtain ⟨steady, second⟩ := steady.network provides allows rfl .done
        (ReceiveSession.advance_known now rfl known)
      exact ⟨created, _, block, rfl, rfl, rfl, rfl, steady, first.trans second⟩
  | none =>
      have unknown : (block.states.get block.offered.fileId).bind ResumeFileState.finalPath =
          none := by simp [block, told, final]
      obtain ⟨next, entered⟩ :=
        steady.recorded.enters now steady.keyed steady.anchored steady.same rfl final
      obtain ⟨steady, second⟩ := steady.network provides allows rfl .done
        (ReceiveSession.advance_entered now rfl unknown entered)
      exact ⟨next, _, block, rfl, rfl, rfl, rfl, steady, first.trans second⟩

/-- A file that has arrived before is not sent again. -/
theorem Steady.knows {finalPath : FinalPath} {handle : Option OpenPartial} (now : Time)
    (provides : Provides host platform goods source)
    (allows : Allows others goods.offer source admits)
    (steady : Steady host goods registry disk finals ⟨session, handle, none⟩)
    (standing : session.phase = .inside block (.knownEnd finalPath)) :
    ∃ next moved, moved.phase = .inside block (.sendResult finalPath) ∧
      Steady host goods next disk finals ⟨moved, handle, none⟩ ∧
      Onward host platform admits (beside others registry disk ⟨session, handle, none⟩)
        (beside others next disk ⟨moved, handle, none⟩) := by
  have inside : session.block? = some block := by simp only [ReceiveSession.block?, standing]
  obtain ⟨next, moved, verified, phase⟩ :=
    steady.recorded.completes now finalPath steady.keyed steady.anchored steady.same inside
  have ended := @ReceiveSession.advance_knownEnd registry session goods.offer block finalPath now
    steady.same standing
  rw [verified] at ended
  obtain ⟨steady, onward⟩ := steady.network provides allows (by rw [standing]; rfl)
    (by rw [standing]; exact .knownEnd) ended
  exact ⟨next, moved, phase, steady, onward⟩

/-- A file whose octets are all there is committed and recorded. -/
theorem Steady.completes {handle : Option OpenPartial} (now : Time)
    (provides : Provides host platform goods source) (verified : Verified host goods)
    (allows : Allows others goods.offer source admits)
    (steady : Steady host goods registry disk finals ⟨session, handle, none⟩)
    (standing : session.phase = .inside block .fileEnd) :
    ∃ next after changed finalPath moved, moved.phase = .inside block (.sendResult finalPath) ∧
      Steady host goods next after changed ⟨moved, handle, none⟩ ∧
      Onward host platform admits (beside others registry disk ⟨session, handle, none⟩)
        (beside others next after ⟨moved, handle, none⟩) := by
  obtain ⟨steady, first⟩ := steady.network provides allows (by rw [standing]; rfl)
    (by rw [standing]; exact .fileEnd)
    (ReceiveSession.advance_fileEnd now steady.same standing)
  have filled := steady.stands
  simp only [Stands, ReceiveSession.moveTo] at filled
  obtain ⟨cursor, working⟩ := filled.working
  have member := List.mem_of_getElem? working.listed
  obtain ⟨called, moved, follows, stands, verdict⟩ :=
    @Stands.hash host platform _ _ _ _ _ _ steady.same steady.stands rfl rfl
  have passes : moved = session.moveTo (.inside block .commit) := by
    rw [verdict, if_neg (not_not.mpr (verified.digest _ member _
      (filled.resting.begun block.offered member) filled.whole))]
    rfl
  subst passes
  obtain ⟨steady, second⟩ := steady.returned provides
    (allows.storage _ _ _ now [] (by intro closing; cases closing)) (called []) (follows now) rfl
    (fun _ finished => finished) stands steady.direct
  obtain ⟨linked, name, steady, third⟩ := steady.commits now provides allows verified.restarts rfl
  obtain ⟨after, path, marked, _, _, recorded, frame⟩ :=
    @Stands.mark host platform _ _ _ _ _ _ _ provides.lawful provides.offerable steady.same
      steady.keyed steady.anchored steady.stands rfl
  obtain ⟨next, moved, outcome, phase⟩ := steady.recorded.completes now
    (host.shown (received name)) steady.keyed steady.anchored steady.same rfl
  have answered : ReceiveSession.step registry (session.moveTo
      (.inside block (.markCompleted (host.shown (received name))))) ⟨now, .done⟩ =
        some (next, moved) := step_inside rfl (congrArg some outcome)
  obtain ⟨steady, fourth⟩ := steady.returned provides
    (allows.storage _ _ _ now [] (by intro closing; cases closing)) (marked []) answered
    (by rw [phase]; rfl) (fun file finished => by
      unfold withFinal
      split
      · exact Option.some_ne_none path
      · exact finished) (recorded now next moved answered)
    (steady.direct.frame frame fun path touched place => by
      cases (within_metadata touched).symm.trans place)
  exact ⟨next, after, _, _, moved, phase, steady, ((first.trans second).trans third).trans fourth⟩

/-- The partial of an unfinished file is opened. -/
theorem Steady.opens {handle : Option OpenPartial} (now : Time)
    (provides : Provides host platform goods source)
    (allows : Allows others goods.offer source admits)
    (steady : Steady host goods registry disk finals ⟨session, handle, none⟩)
    (standing : session.phase = .inside block .openPartial) :
    ∃ after last index, session.chunkLoop registry block index = session.moveTo (.inside block
        (if (StoreHost.partialOctets disk goods.offer.transferId block.offered).length <
          block.offered.size then .chunk index else .fileEnd)) ∧
      Steady host goods registry after finals
        ⟨session.chunkLoop registry block index, last, none⟩ ∧
      Onward host platform admits (beside others registry disk ⟨session, handle, none⟩)
        (beside others registry after ⟨session.chunkLoop registry block index, last, none⟩) := by
  obtain ⟨opened, inode, moved, called, follows, stands, frame⟩ :=
    @Stands.openPartial host platform _ _ _ _ _ _ provides.offerable.distinct steady.same
      steady.stands standing
  have working := steady.stands
  simp only [Stands, standing] at working
  obtain ⟨_, _, working⟩ := working
  obtain ⟨info, found, counted⟩ := working.counted
  have opens : session.step registry ⟨now, .done⟩ = some (registry,
      session.chunkLoop registry block (info.bytesTransferred / chunkSize)) := by
    apply step_inside standing
    simp only [ReceiveSession.advanceInside, found]
  cases (follows now).symm.trans opens
  have loop := @ReceiveSession.chunkLoop_eq registry session block _ _ found counted
    (info.bytesTransferred / chunkSize)
  obtain ⟨steady, onward⟩ := steady.returned provides
    (allows.storage _ _ _ now [] (by rw [standing]; intro closing; cases closing))
    (called []) (follows now) (by rw [loop]; rfl) (fun _ finished => finished) stands
    (steady.direct.frame frame fun path => partialPath_elsewhere)
  exact ⟨opened, _, _, loop, steady, onward⟩

/-- A file that is unfinished goes on where its partial ends. -/
theorem Steady.fills {handle : Option OpenPartial} (now : Time)
    (provides : Provides host platform goods source)
    (allows : Allows others goods.offer source admits)
    (steady : Steady host goods registry disk finals ⟨session, handle, none⟩)
    (standing : session.phase = .inside block .openPartial) :
    ∃ next after ended last, ended.phase = .inside block .fileEnd ∧
      Steady host goods next after finals ⟨ended, last, none⟩ ∧
      Onward host platform admits (beside others registry disk ⟨session, handle, none⟩)
        (beside others next after ⟨ended, last, none⟩) := by
  obtain ⟨opened, last, index, loop, steady, onward⟩ :=
    steady.opens now provides allows standing
  by_cases more : (StoreHost.partialOctets disk goods.offer.transferId block.offered).length <
      block.offered.size
  · rw [if_pos more] at loop
    have filling := steady.stands
    rw [loop] at filling
    simp only [Stands, ReceiveSession.moveTo] at filling
    obtain ⟨cursor, short, filling⟩ := filling
    obtain ⟨next, after, ended, handle, phase, settled, chunks⟩ :=
      Steady.chunks now provides allows _ _ _ _ _ _ cursor rfl (Nat.le_of_lt short) filling steady
    exact ⟨next, after, ended, handle, phase, settled, onward.trans chunks⟩
  · rw [if_neg more] at loop
    rw [loop] at steady onward
    exact ⟨registry, opened, _, _, rfl, steady, onward⟩

/-! ## Sessions -/

/-- The files of an offer, one after another. -/
theorem Steady.files (now : Time) (provides : Provides host platform goods source)
    (verified : Verified host goods) (allows : Allows others goods.offer source admits)
    {states : Dict PyStr ResumeFileState} :
    ∀ remaining index registry disk finals session handle,
      index + remaining = goods.offer.files.length →
      session.phase = (if index < goods.offer.files.length then .fileStart states index else .fin) →
      Steady host goods registry disk finals ⟨session, handle, none⟩ →
      ∃ next after changed ended last, ended.phase = .fin ∧
        Steady host goods next after changed ⟨ended, last, none⟩ ∧
        Onward host platform admits (beside others registry disk ⟨session, handle, none⟩)
          (beside others next after ⟨ended, last, none⟩) := by
  intro remaining
  induction remaining with
  | zero =>
      intro index registry disk finals session handle reach standing steady
      rw [if_neg (by omega)] at standing
      exact ⟨registry, disk, finals, session, handle, standing, steady, .refl⟩
  | succ remaining ih =>
      intro index registry disk finals session handle reach standing steady
      have bound : index < goods.offer.files.length := by omega
      rw [if_pos bound] at standing
      obtain ⟨file, listed⟩ : ∃ file, goods.offer.files[index]? = some file :=
        ⟨_, List.getElem?_eq_getElem bound⟩
      obtain ⟨begun, session, block, place, offered, same, standing, steady, starts⟩ :=
        steady.begins now provides allows standing listed
      have told : ∃ next after changed finalPath moved last,
          moved.phase = .inside block (.sendResult finalPath) ∧
          Steady host goods next after changed ⟨moved, last, none⟩ ∧
          Onward host platform admits (beside others begun disk ⟨session, handle, none⟩)
            (beside others next after ⟨moved, last, none⟩) := by
        cases final : finals file with
        | some path =>
            rw [final] at standing
            obtain ⟨next, moved, phase, steady, knows⟩ := steady.knows now provides allows standing
            exact ⟨next, disk, finals, _, moved, handle, phase, steady, knows⟩
        | none =>
            rw [final] at standing
            obtain ⟨filled, disk, moved, last, phase, steady, fills⟩ :=
              steady.fills now provides allows standing
            obtain ⟨next, after, changed, finalPath, moved, phase, steady, completes⟩ :=
              steady.completes now provides verified allows phase
            exact ⟨next, after, changed, finalPath, moved, last, phase, steady,
              fills.trans completes⟩
      obtain ⟨next, after, changed, finalPath, moved, last, phase, steady, brings⟩ := told
      obtain ⟨onward, phase, steady, tells⟩ := steady.tells now provides allows phase
      rw [place, same] at phase
      obtain ⟨final, rest, finished, ended, handle, closed, steady, files⟩ :=
        ih (index + 1) next after changed onward last (by omega) phase steady
      exact ⟨final, rest, finished, ended, handle, closed, steady,
        ((starts.trans brings).trans tells).trans files⟩

/-- A session that has just been accepted is told what earlier ones have left. -/
theorem Steady.resumes (now : Time) (provides : Provides host platform goods source)
    (allows : Allows others goods.offer source admits)
    (steady : Steady host goods registry disk finals ⟨session, none, none⟩)
    (standing : session.phase = .resumeQuery) :
    ∃ after states, Steady host goods registry after finals
        ⟨session.moveTo (.resumeState states), none, none⟩ ∧
      (∀ file ∈ goods.offer.files, StoreHost.partialOctets after goods.offer.transferId file =
        StoreHost.partialOctets disk goods.offer.transferId file) ∧
      Onward host platform admits (beside others registry disk ⟨session, none, none⟩)
        (beside others registry after ⟨session.moveTo (.resumeState states), none, none⟩) := by
  obtain ⟨steady, first⟩ := steady.network provides allows (by rw [standing]; rfl)
    (by rw [standing]; exact .query)
    (ReceiveSession.advance_query now steady.same standing)
  obtain ⟨prepared, states, called, follows, stands, octets, frame⟩ :=
    steady.stands.prepare provides.lawful provides.offerable provides.identified steady.same rfl
  obtain ⟨steady, second⟩ := steady.returned provides
    (allows.storage _ _ _ now [] (by intro closing; cases closing)) (called []) (follows now) rfl
    (fun _ finished => finished) stands
    (steady.direct.frame frame fun path within place => by
      cases within.symm.trans place)
  exact ⟨prepared, states, steady, octets, first.trans second⟩

/-- It goes on to the first file. -/
theorem Steady.states {states : Dict PyStr ResumeFileState} (now : Time)
    (provides : Provides host platform goods source)
    (allows : Allows others goods.offer source admits)
    (steady : Steady host goods registry disk finals
      ⟨session.moveTo (.resumeState states), none, none⟩) :
    ∃ moved : ReceiveSession, moved.phase = (if 0 < goods.offer.files.length then .fileStart states 0
        else .fin) ∧ Steady host goods registry disk finals ⟨moved, none, none⟩ ∧
      Onward host platform admits
        (beside others registry disk ⟨session.moveTo (.resumeState states), none, none⟩)
        (beside others registry disk ⟨moved, none, none⟩) := by
  have stated : (session.moveTo (.resumeState states)).advance registry ⟨now, .done⟩ =
      some (registry, .ok ((session.moveTo (.resumeState states)).nextFile states 0)) := rfl
  have same : session.origin.offer = goods.offer := steady.same
  obtain ⟨steady, onward⟩ := steady.network provides allows rfl .done stated
  refine ⟨_, ?_, steady, onward⟩
  rw [← same]
  rfl

/-- A session that has just been accepted comes to the confirmation of its transfer. -/
theorem Steady.confirms (now : Time) (provides : Provides host platform goods source)
    (verified : Verified host goods) (allows : Allows others goods.offer source admits)
    (steady : Steady host goods registry disk finals ⟨session, none, none⟩)
    (standing : session.phase = .resumeQuery) :
    ∃ next after changed moved last, moved.phase = .sessionComplete ∧
      Steady host goods next after changed ⟨moved, last, none⟩ ∧
      Onward host platform admits (beside others registry disk ⟨session, none, none⟩)
        (beside others next after ⟨moved, last, none⟩) := by
  obtain ⟨prepared, states, steady, _, first⟩ := steady.resumes now provides allows standing
  obtain ⟨moved, phase, steady, second⟩ := steady.states now provides allows
  obtain ⟨next, after, changed, ended, last, phase, steady, files⟩ :=
    Steady.files now provides verified allows goods.offer.files.length 0 registry prepared finals
      moved none (Nat.zero_add _) phase steady
  obtain ⟨steady, third⟩ := steady.network provides allows (by rw [phase]; rfl)
    (by rw [phase]; exact .fin) (ReceiveSession.advance_fin now steady.same phase)
  exact ⟨next, after, changed, _, last, rfl, steady, ((first.trans second).trans files).trans third⟩

/-- A confirmed transfer comes to its end, with all its files in the receive directory. -/
theorem Steady.closes {handle : Option OpenPartial} (now : Time)
    (provides : Provides host platform goods source) (restarts : goods.Restarts host)
    (allows : Allows others goods.offer source admits)
    (steady : Steady host goods registry disk finals ⟨session, handle, none⟩)
    (standing : session.phase = .sessionComplete)
    (admitted : ∀ stored, admits (beside others registry disk stored)
      (.storage others.length now [] none)) :
    ∃ after stored, stored.session.phase = .ended (.ok ()) ∧
      stored.session.origin.offer = goods.offer ∧
      (∀ file ∈ goods.offer.files, ∃ path octets, path.directory = .received ∧
        after.read path = some octets ∧ octets.length = file.size ∧
        host.digests.hexdigest octets = file.sha256 ∧ goods.genuine file octets) ∧
      Onward host platform admits (beside others registry disk ⟨session, handle, none⟩)
        (beside others registry after stored) := by
  have confirmed : session.advance registry ⟨now, .done⟩ =
      some (registry, .ok (session.moveTo .completeSession)) := by
    simp only [ReceiveSession.advance, standing]
  obtain ⟨steady, first⟩ := steady.network provides allows (by rw [standing]; rfl) .done confirmed
  have stands := steady.stands
  obtain ⟨called, follows, ends, frame⟩ :=
    @Stands.complete host platform _ _ _ _ _ restarts steady.stands rfl steady.same
  simp only [Stands, ReceiveSession.moveTo] at stands
  obtain ⟨resting, passed⟩ := stands
  have second := @onward_returned host platform admits others registry registry disk _
    ⟨session.moveTo .completeSession, handle, none⟩ _ _ .done now [] (admitted _) (called [])
    (follows now)
  refine ⟨_, ⟨session.moveTo (.ended (.ok ())), handle, none⟩, rfl, steady.same,
    fun file member => ?_, first.trans second⟩
  obtain ⟨path, final⟩ := passed.all member
  obtain ⟨received, genuine⟩ := resting.ended file member path final
  have kept := resting.shelved.kept file member path final
  obtain ⟨octets, read, length, digest⟩ := StoreHost.verifies_iff.mp kept.verified
  refine ⟨path, octets, received, ?_, length, digest, genuine octets read⟩
  rw [frame.read (fun within => kept.outside within) kept.direct, read]

end

section

variable {host : StoreHost} {platform : Platform} {offers : TransferOffer → Prop}
  {admits : StoredReceiver → StoredLabel → Prop} {offer : TransferOffer}
  {source : IncomingFile → Bytes} {registry : Registry} {disk : Disk FilePath}
  {finals : IncomingFile → Option FilePath} {goods : Consignment} {others : List StoredSession}
  {peerIp peerDeviceId : PyStr}

/-! ## Files that are their source -/

/-- A sender's files: of the offered sizes and digests. -/
structure Honest (host : StoreHost) (offer : TransferOffer) (source : IncomingFile → Bytes) :
    Prop where
  sized : ∀ file ∈ offer.files, (source file).length = file.size
  digest : ∀ file ∈ offer.files, host.digests.hexdigest (source file) = file.sha256

theorem provides_sourced {payload : Json} (lawful : host.Lawful) (places : host.Places platform)
    (valid : validateOffer platform payload = .ok offer)
    (sized : ∀ file ∈ offer.files, (source file).length = file.size) :
    Provides host platform (sourced offer source) source where
  lawful := lawful
  places := places
  offerable := (validateOffer_offerable valid).1
  identified := (validateOffer_offerable valid).2
  sized := sized
  continues _ _ _ _ before next := prefix_append_next before next

theorem Honest.verified (honest : Honest host offer source) :
    Verified host (sourced offer source) where
  digest file member octets genuine length := by
    rw [genuine.eq_of_length (length.trans (honest.sized file member).symm)]
    exact honest.digest file member
  restarts _ _ _ _ _ _ := List.nil_prefix

/-- What is expected of a file whose octets come from its source. -/
def fromSource (offer : TransferOffer) (source : IncomingFile → Bytes) (other : TransferOffer)
    (file : IncomingFile) (octets : Bytes) : Prop :=
  other = offer → octets <+: source file

theorem brings_fromSource {state : StoredReceiver} {label : StoredLabel}
    (honest : FromSource offer source state label) :
    Brings (expecting offers (fromSource offer source)) state label := by
  cases label with
  | network index event =>
      intro stored there goods known same block chunk raw standing answer before
      rw [known.2] at before ⊢
      intro equal
      apply prefix_append_next (before equal)
      rw [equal]
      exact honest stored there (same.trans equal) block chunk raw standing answer
  | _ => trivial

theorem sourced_eq : (⟨offer, fromSource offer source offer⟩ : Consignment) =
    sourced offer source := by
  unfold fromSource sourced
  simp

/-- A new process, for a sender of whose files of one offer something is expected. -/
theorem Begins.attended_of {genuine : TransferOffer → IncomingFile → Bytes → Prop}
    {start : StoredReceiver} {first : IncomingFile → Option FilePath} (begins : Begins host offers start)
    (undertaken : Undertaken host platform offers (expecting offers genuine))
    (rests : host.Rests start.disk ⟨offer, genuine offer⟩ first)
    (elsewhere : ∀ other, other ≠ offer → ∀ file octets, genuine other file octets) :
    ∃ finals, Attended host (expecting offers genuine) start finals := by
  refine attended_of_rests undertaken begins.registry begins.sessions fun goods known => ?_
  obtain ⟨other, _⟩ := goods
  obtain ⟨offered, equal⟩ := known
  dsimp only at offered equal
  cases equal
  by_cases same : other = offer
  · subst same
    exact ⟨first, rests⟩
  · have unexpected := elsewhere other same
    obtain ⟨finals, rests⟩ := begins.rests other offered
    refine ⟨finals, ?_⟩
    cases rests with
    | bare bare unfinished _ => exact .bare bare unfinished fun file _ => unexpected file []
    | left resting =>
        exact .left ⟨resting.shelved, resting.fits, fun file _ => unexpected file _,
          fun file member path finished => ⟨(resting.ended file member path finished).1,
            fun octets _ => unexpected file octets⟩⟩

/-- A receive directory without symbolic links stays one. -/
theorem Attended.run_direct {expected : Consignment → Prop} {start finish : StoredReceiver}
    {labels : List StoredLabel} {first : Finals} (lawful : host.Lawful)
    (places : host.Places platform) (undertaken : Undertaken host platform offers expected)
    (attended : Attended host expected start first) (direct : Direct start.disk)
    (run : Run (storedStep host platform)
      (fun state label => Attends platform offers state label ∧ Brings expected state label)
      start labels finish) :
    (∃ finals, Attended host expected finish finals) ∧ Direct finish.disk := by
  induction run with
  | refl => exact ⟨⟨first, attended⟩, direct⟩
  | snoc _ admitted stepped ih =>
      obtain ⟨⟨finals, attended⟩, direct⟩ := ih
      obtain ⟨changed, moved⟩ :=
        attended.step lawful places undertaken admitted.1 admitted.2 stepped
      exact ⟨⟨changed, moved.attended⟩, direct.newFiles moved.newFiles⟩

/-- Over a run whose chunks come from the source every partial is a beginning of its file. -/
theorem Begins.run_sourced {start finish : StoredReceiver} {labels : List StoredLabel}
    (lawful : host.Lawful) (places : host.Places platform) (once : OfferedOnce platform offers)
    (begins : Begins host offers start) (bare : StoreHost.Bare start.disk offer.transferId)
    (direct : Direct start.disk)
    (run : Run (storedStep host platform)
      (fun state label => Attends platform offers state label ∧ FromSource offer source state label)
      start labels finish) :
    (∃ finals, Attended host (expecting offers (fromSource offer source)) finish finals) ∧
      Direct finish.disk := by
  have undertaken : Undertaken host platform offers (expecting offers (fromSource offer source)) :=
    once.undertaken fun other _ file member octets genuine length digest same => List.nil_prefix
  obtain ⟨first, attended⟩ := begins.attended_of undertaken
    (.bare bare (fun _ => rfl) fun file member _ => List.nil_prefix)
    fun other apart file octets equal => absurd equal apart
  exact attended.run_direct lawful places undertaken direct
    (run.weaken fun state label admitted => ⟨admitted.1, brings_fromSource admitted.2⟩)

/-- A sender that sends its files, to a receiver that attends to its transfer. -/
theorem attends_allows : Allows others offer source fun state label =>
    Attends platform offers state label ∧ FromSource offer source state label where
  network _ _ _ _ _ sends := ⟨trivial, sends⟩
  storage _ _ _ _ _ _ := ⟨fun _ _ _ _ => rfl, trivial⟩

/-- The session of an offer that has just been accepted. -/
def accepted (peerIp peerDeviceId : PyStr) (offer : TransferOffer) : ReceiveSession :=
  ⟨⟨peerIp, peerDeviceId, offer⟩, .resumeQuery, [], [], none⟩

theorem Steady.accepted (keyed : registry.Keyed) (resumable : AllResumable registry goods.offer finals)
    (rests : host.Rests disk goods finals) (direct : Direct disk) :
    Steady host goods registry disk finals ⟨accepted peerIp peerDeviceId goods.offer, none, none⟩ where
  stands := rests
  keyed := keyed
  anchored := fresh_anchored _
  recorded := ⟨resumable, fun _ inside => by cases inside⟩
  alike := countsAlike_of_none rfl
  idle _ := rfl
  same := rfl
  direct := direct

/-- The first session of a new process. -/
theorem Steady.fresh (rests : host.Rests disk goods finals) (direct : Direct disk) :
    Steady host goods .empty disk finals
      ⟨DirectTransfer.accepted peerIp peerDeviceId goods.offer, none, none⟩ :=
  .accepted SoundReceiving.start.keyed .empty rests direct

theorem step_accepts {payload : Json} (valid : validateOffer platform payload = .ok offer) :
    storedStep host platform ⟨registry, disk, others⟩ (.accept peerIp peerDeviceId payload) =
      some (beside others registry disk ⟨accepted peerIp peerDeviceId offer, none, none⟩) := by
  simp [storedStep, valid, beside, DirectTransfer.accepted]

theorem attends_accept {payload : Json} (valid : validateOffer platform payload = .ok offer)
    (offered : offers offer) (past : ∀ stored ∈ others, ¬ stored.Live) :
    Attends platform offers ⟨registry, disk, others⟩ (.accept peerIp peerDeviceId payload) := by
  intro other accepted
  cases valid.symm.trans accepted
  exact ⟨offered, fun stored member live => absurd live (past stored member)⟩

end

/-! ## A host and a sender -/

def receiveRoot : PyStr := py "/received/"

/-- A host whose receive directory is `/received`, as far as the names in it show. -/
noncomputable def shelfHost : StoreHost where
  reader := referenceReader
  floats := quotientFloats
  digests := plainCrypto.toDigests
  resolve text := .ok (if receiveRoot.isPrefixOf text && text.all (fun point => !point.isSurrogate)
    then some (received (text.drop receiveRoot.length)) else none)
  render path := receiveRoot ++ path.name

theorem shelfHost_resolves {name : PyStr} (plain : ∀ point ∈ name, point.isSurrogate = false) :
    shelfHost.resolve (shelfHost.render (received name)) = .ok (some (received name)) ∧
      PairFree (shelfHost.render (received name)) := by
  have free (point : CodePoint) (member : point ∈ receiveRoot ++ name) :
      point.isSurrogate = false := by
    cases List.mem_append.mp member with
    | inl root =>
        have roots : receiveRoot.all (fun point => !point.isSurrogate) = true := by decide
        simpa using List.all_eq_true.mp roots point root
    | inr named => exact plain point named
  have all : (receiveRoot ++ name).all (fun point => !point.isSurrogate) = true :=
    List.all_eq_true.mpr fun point member => by simp [free point member]
  have starts : receiveRoot.isPrefixOf (receiveRoot ++ name) = true := by simp
  refine ⟨?_, pairFree_of_no_surrogate free⟩
  simp only [shelfHost, received, starts, all, Bool.and_self, if_true, List.drop_left]

theorem shelfHost_lawful : shelfHost.Lawful where
  reads _ formed := referenceReader_reads formed
  renders text path resolved := by
    simp only [shelfHost] at resolved
    split at resolved
    · next found =>
        cases resolved
        obtain ⟨_, plain⟩ := Bool.and_eq_true_iff.mp found
        apply shelfHost_resolves
        intro point member
        simpa using List.all_eq_true.mp plain point (List.mem_of_mem_drop member)
    · cases resolved

theorem shelfHost_places (platform : Platform) : shelfHost.Places platform := by
  intro filename index accepted
  apply shelfHost_resolves
  intro point member
  cases mem_candidateName member with
  | inl named =>
      obtain ⟨_, _, printable, _⟩ := sanitizeFilename_ok accepted
      exact platform.printable_not_surrogate point (printable point named)
  | inr number =>
      have small := isNumbering_iff.mp number
      simp only [CodePoint.isSurrogate, Bool.and_eq_false_iff, decide_eq_false_iff_not]
      omega

namespace StoreHost

/-- The two files as they are at the sender. -/
def pairSource : IncomingFile → Bytes := fun _ => List.replicate 32 0

theorem pair_sized {source : IncomingFile → Bytes}
    (lengths : ∀ file, (source file).length = 32) :
    ∀ file ∈ pairOffer.files, (source file).length = file.size := by
  have sizes : ∀ file ∈ pairOffer.files, file.size = 32 := by decide
  intro file member
  rw [lengths, sizes file member]

theorem pair_honest : Honest shelfHost pairOffer pairSource where
  sized := pair_sized fun _ => List.length_replicate
  digest file member := by
    have digests : ∀ file ∈ pairOffer.files, file.sha256 = List.replicate 64 (chr '0') := by decide
    rw [digests file member]
    show plainCrypto.toDigests.hexdigest (List.replicate 32 0) = _
    decide

theorem pair_once : OfferedOnce asciiPlatform (· = pairOffer) where
  valid offer offered := ⟨_, offered ▸ pairOffer_valid⟩
  apart one other offered offered' _ := by rw [offered, offered']

theorem first_included : firstFile ∈ pairOffer.files := by
  rw [pairOffer_files]
  exact List.mem_cons_self

def emptyReceiver : StoredReceiver := ⟨.empty, Disk.empty, []⟩

theorem empty_bare (transferId : PyStr) : Bare (Disk.empty : Disk FilePath) transferId := fun _ _ => rfl

theorem empty_direct : Direct Disk.empty := by
  intro path received target linked
  cases linked

theorem pair_begins : Begins shelfHost (· = pairOffer) emptyReceiver where
  registry := rfl
  sessions := rfl
  rests _ _ := ⟨fun _ => none, .bare (empty_bare _) (fun _ => rfl) fun _ _ => trivial⟩

section

variable {admits : StoredReceiver → StoredLabel → Prop} {source : IncomingFile → Bytes}
  {disk : Disk FilePath} {finals : IncomingFile → Option FilePath}
  {genuine : IncomingFile → Bytes → Prop}

theorem pair_provides (lengths : ∀ file, (source file).length = 32) :
    Provides shelfHost asciiPlatform (sourced pairOffer source) source :=
  provides_sourced shelfHost_lawful (shelfHost_places _) pairOffer_valid (pair_sized lengths)

theorem zeros_provided : Provides shelfHost asciiPlatform (sourced pairOffer pairSource) pairSource :=
  pair_provides fun _ => List.length_replicate

/-- Nothing is expected of the files. -/
theorem plain_provides : Provides shelfHost asciiPlatform pairOffer.plain pairSource :=
  { zeros_provided with continues := fun _ _ _ _ _ _ => trivial }

theorem pair_starts : Steady shelfHost (sourced pairOffer source) .empty Disk.empty (fun _ => none)
    ⟨accepted [] [] pairOffer, none, none⟩ :=
  .fresh (.bare (empty_bare _) (fun _ => rfl) fun _ _ => List.nil_prefix) empty_direct

theorem pair_confirms (allows : Allows [] pairOffer pairSource admits) :
    ∃ next after changed moved last, moved.phase = .sessionComplete ∧
      Steady shelfHost (sourced pairOffer pairSource) next after changed ⟨moved, last, none⟩ ∧
      Onward shelfHost asciiPlatform admits
        (beside [] .empty Disk.empty ⟨accepted [] [] pairOffer, none, none⟩)
        (beside [] next after ⟨moved, last, none⟩) :=
  pair_starts.confirms 0 zeros_provided pair_honest.verified allows rfl

/-- A new session comes to its first file. -/
theorem pair_opens (provides : Provides shelfHost asciiPlatform ⟨pairOffer, genuine⟩ source)
    (allows : Allows [] pairOffer source admits) (unfinished : finals firstFile = none)
    (steady : Steady shelfHost ⟨pairOffer, genuine⟩ .empty disk finals
      ⟨accepted [] [] pairOffer, none, none⟩) :
    ∃ next after session block, session.phase = .inside block .openPartial ∧
      block.offered = firstFile ∧
      partialOctets after pairOffer.transferId firstFile =
        partialOctets disk pairOffer.transferId firstFile ∧
      Steady shelfHost ⟨pairOffer, genuine⟩ next after finals ⟨session, none, none⟩ ∧
      Onward shelfHost asciiPlatform admits
        (beside [] .empty disk ⟨accepted [] [] pairOffer, none, none⟩)
        (beside [] next after ⟨session, none, none⟩) := by
  obtain ⟨prepared, states, steady, octets, resumes⟩ := steady.resumes 0 provides allows rfl
  obtain ⟨moved, phase, steady, first⟩ := steady.states 0 provides allows
  have listed : pairOffer.files[0]? = some firstFile := by rw [pairOffer_files]; rfl
  have some_files : 0 < pairOffer.files.length := by rw [pairOffer_files]; decide
  obtain ⟨begun, session, block, _, offered, _, standing, steady, begins⟩ :=
    steady.begins 0 provides allows (phase.trans (if_pos some_files)) listed
  rw [unfinished] at standing
  exact ⟨begun, prepared, session, block, standing, offered, octets _ (List.mem_of_getElem? listed),
    steady, (resumes.trans first).trans begins⟩

/-- It goes on to the end of the file. -/
theorem pair_fills (provides : Provides shelfHost asciiPlatform ⟨pairOffer, genuine⟩ source)
    (allows : Allows [] pairOffer source admits) (unfinished : finals firstFile = none)
    (steady : Steady shelfHost ⟨pairOffer, genuine⟩ .empty disk finals
      ⟨accepted [] [] pairOffer, none, none⟩) :
    ∃ next after session last block, session.phase = .inside block .fileEnd ∧
      block.offered = firstFile ∧
      Steady shelfHost ⟨pairOffer, genuine⟩ next after finals ⟨session, last, none⟩ ∧
      Onward shelfHost asciiPlatform admits
        (beside [] .empty disk ⟨accepted [] [] pairOffer, none, none⟩)
        (beside [] next after ⟨session, last, none⟩) := by
  obtain ⟨begun, prepared, moved, block, standing, offered, _, steady, first⟩ :=
    pair_opens provides allows unfinished steady
  obtain ⟨next, after, ended, last, phase, steady, fills⟩ :=
    steady.fills 0 provides allows standing
  exact ⟨next, after, ended, last, block, phase, offered, steady, first.trans fills⟩

/-- A file whose octets are all there is hashed without a further chunk. -/
theorem pair_hashes (provides : Provides shelfHost asciiPlatform ⟨pairOffer, genuine⟩ source)
    (allows : Allows [] pairOffer source admits) (unfinished : finals firstFile = none)
    (whole : (partialOctets disk pairOffer.transferId firstFile).length = firstFile.size)
    (steady : Steady shelfHost ⟨pairOffer, genuine⟩ .empty disk finals
      ⟨accepted [] [] pairOffer, none, none⟩) :
    ∃ next after session last block, session.phase = .inside block .hash ∧
      block.offered = firstFile ∧ session.origin.offer = pairOffer ∧
      Onward shelfHost asciiPlatform admits
        (beside [] .empty disk ⟨accepted [] [] pairOffer, none, none⟩)
        (beside [] next after ⟨session, last, none⟩) := by
  obtain ⟨begun, prepared, moved, block, standing, offered, octets, steady, first⟩ :=
    pair_opens provides allows unfinished steady
  obtain ⟨opened, last, index, loop, steady, opens⟩ := steady.opens 0 provides allows standing
  have ended : ¬ (partialOctets prepared pairOffer.transferId block.offered).length <
      block.offered.size := by
    rw [offered, octets, whole]
    exact Nat.lt_irrefl _
  have ends := loop.trans (congrArg (fun call => moved.moveTo (.inside block call)) (if_neg ended))
  rw [ends] at steady opens
  obtain ⟨steady, ends⟩ := steady.network provides allows rfl .fileEnd
    (ReceiveSession.advance_fileEnd 0 steady.same rfl)
  exact ⟨begun, opened, _, last, block, rfl, offered, steady.same, (first.trans opens).trans ends⟩

theorem pair_accepts (start : Disk FilePath) : Attends asciiPlatform (· = pairOffer)
    ⟨.empty, start, []⟩ (.accept [] [] pairBatch.offerFrame) :=
  attends_accept pairOffer_valid rfl fun _ member => absurd member List.not_mem_nil

/-- A first session, accepted by a new process. -/
theorem pair_run {finish : StoredReceiver} (start : Disk FilePath)
    (admitted : admits ⟨.empty, start, []⟩ (.accept [] [] pairBatch.offerFrame))
    (onward : Onward shelfHost asciiPlatform admits
      (beside [] .empty start ⟨accepted [] [] pairOffer, none, none⟩) finish) :
    ∃ labels, Run (storedStep shelfHost asciiPlatform) admits ⟨.empty, start, []⟩ labels finish := by
  obtain ⟨labels, run⟩ := onward
  exact ⟨_, .trans (.single admitted (step_accepts pairOffer_valid)) run⟩

end

end StoreHost

section

variable {host : StoreHost} {platform : Platform} {offers : TransferOffer → Prop}
  {offer : TransferOffer} {source : IncomingFile → Bytes}

/-- Wherever the sessions of a transfer have been cut, a new process and a sender that keeps
to the protocol bring it to its end, with every file of the sender in the receive directory. -/
theorem honest_sender_finishes {start middle : StoredReceiver} {labels : List StoredLabel}
    (lawful : host.Lawful) (places : host.Places platform) (once : OfferedOnce platform offers)
    (begins : Begins host offers start) (offered : offers offer) (honest : Honest host offer source)
    (bare : StoreHost.Bare start.disk offer.transferId) (direct : Direct start.disk)
    (run : Run (storedStep host platform)
      (fun state label => Attends platform offers state label ∧ FromSource offer source state label)
      start labels middle)
    (attends : Attends platform offers middle .restart) :
    ∃ rest finish stored,
      Run (storedStep host platform)
        (fun state label => Attends platform offers state label ∧ FromSource offer source state label)
        middle (.restart :: rest) finish ∧
      finish.sessions = [stored] ∧ stored.session.origin.offer = offer ∧
      stored.session.phase = .ended (.ok ()) ∧
      ∀ file ∈ offer.files, ∃ path, path.directory = .received ∧
        finish.disk.read path = some (source file) := by
  obtain ⟨⟨finals, attended⟩, settled⟩ :=
    @Begins.run_sourced host platform offers offer source _ _ _ lawful places once begins bare direct run
  have again := (attended.restart attends).attended
  have known : expecting offers (fromSource offer source) (sourced offer source) :=
    ⟨offered, congrArg Consignment.genuine sourced_eq.symm⟩
  have rests := (again.tended _ known).rests fun stored member => absurd member List.not_mem_nil
  obtain ⟨payload, valid⟩ := once.valid offer offered
  have provides := provides_sourced lawful places valid honest.sized
  have allows := @attends_allows platform offers offer source []
  have fresh : Steady host (sourced offer source) .empty middle.disk (finals offer.transferId)
      ⟨accepted [] [] offer, none, none⟩ := .fresh rests settled
  obtain ⟨next, after, changed, moved, last, phase, steady, confirms⟩ :=
    fresh.confirms 0 provides honest.verified allows rfl
  obtain ⟨final, stored, ended, ours, arrived, rest, closes⟩ :=
    steady.closes 0 provides honest.verified.restarts allows phase
      fun stored => ⟨fun _ _ _ _ => rfl, trivial⟩
  obtain ⟨earlier, confirms⟩ := confirms
  have restarts : storedStep host platform middle .restart = some ⟨.empty, middle.disk, []⟩ := rfl
  refine ⟨.accept [] [] payload :: (earlier ++ rest), beside [] next final stored, stored, ?run, rfl,
    ours, ended, fun file member => ?arrived⟩
  case arrived =>
    obtain ⟨path, octets, place, read, length, _, genuine⟩ := arrived file member
    have whole := genuine.eq_of_length (length.trans (honest.sized file member).symm)
    exact ⟨path, place, read.trans (congrArg some whole)⟩
  case run =>
    show Run _ _ middle ([.restart] ++ ([.accept [] [] payload] ++ (earlier ++ rest))) _
    refine .trans (.single ⟨attends, trivial⟩ restarts)
      (.trans (.single ⟨?_, trivial⟩ (step_accepts valid)) (confirms.trans closes))
    exact attends_accept valid offered fun _ member => absurd member List.not_mem_nil

end

open StoreHost in
/-- Two files, the first of which was cut behind its last octet. -/
theorem interrupted_pair_finishes : ∃ labels middle rest finish stored,
    Run (storedStep shelfHost asciiPlatform) (fun state label =>
        Attends asciiPlatform (· = pairOffer) state label ∧ FromSource pairOffer pairSource state label)
      emptyReceiver labels middle ∧
    (∃ cut ∈ middle.sessions, ∃ block, cut.session.phase = .inside block .fileEnd) ∧
    Run (storedStep shelfHost asciiPlatform) (fun state label =>
        Attends asciiPlatform (· = pairOffer) state label ∧ FromSource pairOffer pairSource state label)
      middle (.restart :: rest) finish ∧
    finish.sessions = [stored] ∧ stored.session.origin.offer = pairOffer ∧
    stored.session.phase = .ended (.ok ()) ∧
    ∀ file ∈ pairOffer.files, ∃ path, path.directory = .received ∧
      finish.disk.read path = some (pairSource file) := by
  obtain ⟨next, after, session, last, block, standing, _, _, fills⟩ :=
    pair_fills zeros_provided
      (@attends_allows asciiPlatform (· = pairOffer) pairOffer pairSource []) rfl pair_starts
  obtain ⟨labels, run⟩ := pair_run Disk.empty ⟨pair_accepts _, trivial⟩ fills
  have attends : Attends asciiPlatform (· = pairOffer) (beside [] next after ⟨session, last, none⟩)
      .restart := by
    intro stored member call name began
    cases List.mem_singleton.mp member
    cases began
  obtain ⟨rest, finish, stored, again, finished⟩ :=
    honest_sender_finishes shelfHost_lawful (shelfHost_places _) pair_once pair_begins rfl pair_honest
      (empty_bare _) empty_direct run attends
  exact ⟨labels, _, rest, finish, stored, run, ⟨_, List.mem_singleton_self _, block, standing⟩, again,
    finished⟩

end DirectTransfer
