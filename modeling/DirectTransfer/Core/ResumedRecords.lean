import DirectTransfer.Core.ReceivedRecords

/-! The records of a transfer between its sessions: while nothing fails but connections,
the next session can take up every one of them. -/

set_option autoImplicit false

namespace DirectTransfer

open Library

/-- A status the next session of a file may find: a record is only complete once its file
has a final path. -/
def Resumable (status : TransferStatus) (final : Option FilePath) : Prop :=
  status = .active ∨ status = .resuming ∨ status = .interrupted ∨
    (status = .complete ∧ final ≠ none)

/-- Every record of a file of an offer can be taken up. -/
def AllResumable (registry : Registry) (offer : TransferOffer)
    (finals : IncomingFile → Option FilePath) : Prop :=
  ∀ file ∈ offer.files, ∀ record info,
    registry.index.get (offer.transferId, file.fileId) = some record →
    registry.transfers[record]? = some info → Resumable info.status (finals file)

/-- How the records of an offer stand at a call of its session. -/
structure Recorded (registry : Registry) (offer : TransferOffer)
    (finals : IncomingFile → Option FilePath) (session : ReceiveSession) : Prop where
  resumable : AllResumable registry offer finals
  running : ∀ block, session.block? = some block → ∀ info,
    registry.transfers[block.record]? = some info → info.status ≠ .interrupted

/-- A session raises nothing but the loss of its connection. -/
def OnlyLost (registry : Registry) (session : ReceiveSession) (event : ReceiveEvent) : Prop :=
  ∀ middle error, session.advance registry event = some (middle, .error error) →
    middle = registry ∧ (error.kind = .osError ∨ error.kind = .timeoutError)

section

variable {registry next : Registry} {offer : TransferOffer}
  {finals changed : IncomingFile → Option FilePath} {session after : ReceiveSession}
  {event : ReceiveEvent} {block : FileBlock} {file : IncomingFile} {record : Nat}
  {info new : TransferInfo} {now : Time}

theorem Resumable.grow {status : TransferStatus} (resumable : Resumable status (finals file))
    (grown : finals file ≠ none → changed file ≠ none) : Resumable status (changed file) := by
  rcases resumable with active | resuming | interrupted | ⟨complete, finished⟩
  · exact .inl active
  · exact .inr (.inl resuming)
  · exact .inr (.inr (.inl interrupted))
  · exact .inr (.inr (.inr ⟨complete, grown finished⟩))

theorem AllResumable.empty : AllResumable .empty offer finals :=
  fun _ _ _ _ found => nomatch found

theorem AllResumable.grow (all : AllResumable registry offer finals)
    (grown : ∀ file, finals file ≠ none → changed file ≠ none) :
    AllResumable registry offer changed :=
  fun file member record info listed found =>
    (all file member record info listed found).grow (grown file)

/-- One record is changed, as its file allows. -/
theorem AllResumable.set (all : AllResumable registry offer finals) (keyed : registry.Keyed)
    (distinct : (offer.files.map IncomingFile.fileId).Nodup) (member : file ∈ offer.files)
    (found : registry.transfers[record]? = some info) (own : info.fileId = some file.fileId)
    (resumable : Resumable new.status (finals file)) :
    AllResumable (registry.set record new) offer finals := by
  intro other included place held listed there
  by_cases same : place = record
  · have here : (registry.set record new).transfers[record]? = some new :=
      List.getElem?_set_self (List.getElem?_eq_some_iff.mp found).1
    obtain ⟨old, before, _, named⟩ := keyed.indexed _ _ _ listed
    rw [same] at there before
    cases here.symm.trans there
    cases found.symm.trans before
    have equal : other = file :=
      List.inj_on_of_nodup_map distinct included member (Option.some.inj (named.symm.trans own))
    rw [equal]
    exact resumable
  · have elsewhere : (registry.set record new).transfers[place]? = registry.transfers[place]? :=
      List.getElem?_set_ne (Ne.symm same)
    exact all other included place held listed (elsewhere ▸ there)

/-- A further record is made, as its file allows. -/
theorem AllResumable.append (all : AllResumable registry offer finals)
    (distinct : (offer.files.map IncomingFile.fileId).Nodup) (member : file ∈ offer.files)
    (resumable : Resumable new.status (finals file)) :
    AllResumable (registry.append (offer.transferId, file.fileId) new) offer finals := by
  intro other included place held listed there
  simp only [Registry.append] at listed there
  by_cases same : other = file
  · rw [same, Dict.get_set_self] at listed
    cases listed
    rw [List.getElem?_concat_length] at there
    cases there
    rw [same]
    exact resumable
  · have apart : (offer.transferId, other.fileId) ≠ (offer.transferId, file.fileId) := by
      intro equal
      exact same (List.inj_on_of_nodup_map distinct included member (Prod.mk.inj equal).2)
    rw [Dict.get_set_ne apart] at listed
    rw [List.getElem?_append_left (registry.indexed _ _ listed)] at there
    exact all other included place held listed there

/-- The record of the file a session is at: on its way, or complete and finished. -/
theorem Recorded.inHand (recorded : Recorded registry offer finals session)
    (keyed : registry.Keyed) (anchored : session.Anchored registry)
    (same : session.origin.offer = offer) (inside : session.block? = some block) :
    ∃ info, registry.transfers[block.record]? = some info ∧
      info.fileId = some block.offered.fileId ∧ block.offered ∈ offer.files ∧
      (info.status = .active ∨ info.status = .resuming ∨
        (info.status = .complete ∧ finals block.offered ≠ none)) := by
  have here := ReceiveSession.block?_fileBlock? inside
  obtain ⟨info, found, transfer, named⟩ := anchored.anchored block here
  have member := List.mem_of_getElem? (anchored.offered block here)
  rw [same] at member
  obtain ⟨fileId, named', listed⟩ := keyed.keyed block.record info found
  cases named.symm.trans named'
  have owner : info.transferId = offer.transferId := by
    rw [transfer, ← same]
    rfl
  rw [owner] at listed
  refine ⟨info, found, named, member, ?_⟩
  rcases recorded.resumable _ member _ _ listed found with active | resuming | interrupted | complete
  · exact .inl active
  · exact .inr (.inl resuming)
  · exact absurd interrupted (recorded.running block inside info found)
  · exact .inr (.inr complete)

/-- What a record that can be taken up becomes at the start of another attempt. -/
theorem resumeRecord_resumable {final : Option FilePath} (sha256 : PyStr) (offset : Nat)
    (now : Time) (resumable : Resumable info.status final) :
    ∃ resumed, resumeRecord info sha256 offset now = .ok resumed ∧
      (resumed.status = .resuming ∨ (resumed.status = .complete ∧ final ≠ none)) := by
  have taken (reaches : Reaches info.status .resuming) (running : isTerminal info.status = false) :
      ∃ resumed, resumeRecord info sha256 offset now = .ok resumed ∧
        (resumed.status = .resuming ∨ (resumed.status = .complete ∧ final ≠ none)) := by
    refine ⟨_, by simp only [resumeRecord, running, transition_ok reaches]; rfl, .inl ?_⟩
    simp
  rcases resumable with active | resuming | interrupted | ⟨complete, finished⟩
  · exact taken (by rw [active]; decide) (by rw [active]; rfl)
  · exact taken (by rw [resuming]; decide) (by rw [resuming]; rfl)
  · exact taken (by rw [interrupted]; decide) (by rw [interrupted]; rfl)
  · have terminal : isTerminal info.status = true := by
      rw [complete]
      rfl
    refine ⟨?resumed, ?made, .inr ⟨?kept, finished⟩⟩
    case made =>
      rw [resumeRecord, if_pos terminal]
      rfl
    case kept => exact complete

theorem status_of_setStatus {status : TransferStatus} {error : Option PyStr}
    (moved : registry.setStatus record status error now = .ok next) :
    ∀ info, next.transfers[record]? = some info → info.status = status := by
  rcases Registry.setStatus_cases moved with ⟨absent, rfl⟩ | ⟨info, found, reaches, rfl⟩
  · intro info found
    cases absent.symm.trans found
  · intro new there
    have here := List.getElem?_set_self (a := info.moved status error now)
      (List.getElem?_eq_some_iff.mp found).1
    cases here.symm.trans there
    simp

/-- A record is set to a status that its file allows. -/
theorem AllResumable.setStatus {status : TransferStatus} {error : Option PyStr}
    (all : AllResumable registry offer finals) (keyed : registry.Keyed)
    (distinct : (offer.files.map IncomingFile.fileId).Nodup) (member : file ∈ offer.files)
    (own : ∀ info, registry.transfers[record]? = some info → info.fileId = some file.fileId)
    (resumable : Resumable status (finals file))
    (moved : registry.setStatus record status error now = .ok next) :
    AllResumable next offer finals ∧
      ∀ info, next.transfers[record]? = some info → info.status = status := by
  refine ⟨?_, status_of_setStatus moved⟩
  rcases Registry.setStatus_cases moved with ⟨absent, rfl⟩ | ⟨info, found, reaches, rfl⟩
  · exact all
  · exact all.set keyed distinct member found (own info found) (by simpa using resumable)

/-- A change that keeps the status of its record. -/
theorem AllResumable.update {change : TransferInfo → TransferInfo}
    (all : AllResumable registry offer finals) (kept : ∀ info, (change info).status = info.status) :
    AllResumable (registry.update record change) offer finals := by
  unfold Registry.update
  split
  · next info found =>
      intro file member place held listed there
      by_cases same : place = record
      · have here := List.getElem?_set_self (a := change info) (List.getElem?_eq_some_iff.mp found).1
        rw [same] at there listed
        cases here.symm.trans there
        rw [kept info]
        exact all file member record info listed found
      · have elsewhere : (registry.set record (change info)).transfers[place]? =
            registry.transfers[place]? := List.getElem?_set_ne (Ne.symm same)
        exact all file member place held listed (elsewhere ▸ there)
  · exact all

/-- The record of a file is found or made. -/
theorem getOrCreate_succeeds {origin : Origin} (offset : Nat) (now : Time)
    (all : AllResumable registry origin.offer finals) (member : file ∈ origin.offer.files) :
    ∃ next record, getOrCreate registry origin file offset now = .ok (next, record) := by
  unfold getOrCreate
  dsimp only
  split
  · exact ⟨_, _, rfl⟩
  · next known listed =>
      have found : registry.transfers[known]? = some (registry.transfers.get
          ⟨known, registry.indexed _ _ listed⟩) := List.getElem?_eq_getElem _
      obtain ⟨resumed, made, _⟩ :=
        resumeRecord_resumable file.sha256 offset now (all file member known _ listed found)
      rw [made]
      exact ⟨_, _, rfl⟩

theorem getOrCreate_resumable {origin : Origin} {offset : Nat}
    (all : AllResumable registry origin.offer finals) (keyed : registry.Keyed)
    (distinct : (origin.offer.files.map IncomingFile.fileId).Nodup)
    (member : file ∈ origin.offer.files)
    (made : getOrCreate registry origin file offset now = .ok (next, record)) :
    AllResumable next origin.offer finals ∧
      ∀ info, next.transfers[record]? = some info → info.status ≠ .interrupted := by
  unfold getOrCreate at made
  dsimp only at made
  split at made
  · cases made
    have fresh : (newRecord origin file offset now).status = .active ∨
        (newRecord origin file offset now).status = .resuming := by
      unfold newRecord
      dsimp only
      split
      · exact .inr rfl
      · exact .inl rfl
    refine ⟨all.append distinct member (fresh.imp_right .inl), fun info found => ?_⟩
    rw [Registry.append, List.getElem?_concat_length] at found
    cases found
    cases fresh with
    | inl active => rw [active]; decide
    | inr resuming => rw [resuming]; decide
  · next known listed =>
      have found : registry.transfers[known]? = some (registry.transfers.get
          ⟨known, registry.indexed _ _ listed⟩) := List.getElem?_eq_getElem _
      obtain ⟨resumed, again, status⟩ :=
        resumeRecord_resumable file.sha256 offset now (all file member known _ listed found)
      rw [again] at made
      cases made
      obtain ⟨old, before, _, named⟩ := keyed.indexed _ _ _ listed
      cases found.symm.trans before
      refine ⟨all.set keyed distinct member found named ?_, fun info there => ?_⟩
      · cases status with
        | inl resuming => exact .inr (.inl resuming)
        | inr complete => exact .inr (.inr (.inr complete))
      · have here := List.getElem?_set_self (a := resumed) (List.getElem?_eq_some_iff.mp found).1
        cases here.symm.trans there
        cases status with
        | inl resuming => rw [resuming]; decide
        | inr complete => rw [complete.1]; decide

/-! ## Steps -/

theorem handlerStatus_lost {error : Raised}
    (kind : error.kind = .osError ∨ error.kind = .timeoutError) :
    ReceiveSession.handlerStatus error = some (.interrupted, py "Connection interrupted") := by
  unfold ReceiveSession.handlerStatus
  cases kind with
  | inl lost => rw [lost]; rfl
  | inr late => rw [late]; rfl

open ReceiveSession in
/-- A step that loses nothing but a connection leaves every record to be taken up. -/
theorem Recorded.transition (recorded : Recorded registry offer finals session)
    (keyed : registry.Keyed) (anchored : session.Anchored registry)
    (same : session.origin.offer = offer)
    (distinct : (offer.files.map IncomingFile.fileId).Nodup)
    (lost : OnlyLost registry session event)
    (transition : Transition registry session event next after)
    (grown : ∀ file, finals file ≠ none → changed file ≠ none)
    (finished : ∀ block finalPath, after.phase = .inside block (.sendResult finalPath) →
      changed block.offered ≠ none) :
    Recorded next offer changed after := by
  have all := recorded.resumable.grow grown
  have quiet {moved : ReceiveSession} (stays : ∀ block, moved.block? = some block →
      session.block? = some block) : Recorded registry offer changed moved :=
    ⟨all, fun block inside => recorded.running block (stays block inside)⟩
  have outside {registry : Registry} {moved : ReceiveSession}
      (all : AllResumable registry offer changed) (free : moved.block? = none) :
      Recorded registry offer changed moved :=
    ⟨all, fun block inside => by cases free.symm.trans inside⟩
  have within {block : FileBlock} {call : BlockCall} (standing : session.phase = .inside block call) :
      session.block? = some block := by
    simp only [ReceiveSession.block?, standing]
  have sets {block : FileBlock} {status : TransferStatus} {error : Option PyStr} {next : Registry}
      (inside : session.block? = some block) (resumable : Resumable status (changed block.offered))
      (moved : registry.setStatus block.record status error event.now = .ok next) :
      AllResumable next offer changed ∧
        ∀ info, next.transfers[block.record]? = some info → info.status = status := by
    obtain ⟨info, found, named, member, _⟩ := recorded.inHand keyed anchored same inside
    refine all.setStatus keyed distinct member (fun other there => ?_) resumable moved
    cases found.symm.trans there
    exact named
  have completes {block : FileBlock} {finalPath : FinalPath} {next : Registry}
      (inside : session.block? = some block) (delivered : changed block.offered ≠ none)
      (moved : (registry.verify block finalPath).setStatus block.record .complete none event.now =
        .ok next) :
      AllResumable next offer changed ∧
        ∀ info, next.transfers[block.record]? = some info → info.status = .complete := by
    obtain ⟨info, found, named, member, _⟩ := recorded.inHand keyed anchored same inside
    have owner : ∀ held, registry.transfers[block.record]? = some held →
        held.transferId = session.origin.offer.transferId := by
      intro held there
      obtain ⟨own, again, transfer, _⟩ := anchored.anchored block (block?_fileBlock? inside)
      cases again.symm.trans there
      exact transfer
    have evolves : registry.Evolves session.origin (registry.verify block finalPath) := .verify owner
    have verified : AllResumable (registry.verify block finalPath) offer changed :=
      all.update fun _ => rfl
    refine verified.setStatus (evolves.keyed keyed) distinct member (fun other there => ?_)
      (.inr (.inr (.inr ⟨rfl, delivered⟩))) moved
    obtain ⟨new, again, kept, _⟩ := evolves.kept _ _ found
    cases again.symm.trans there
    exact kept.fileId.trans named
  cases transition with
  | queried | prepared | confirmed | closed | fin => exact outside all rfl
  | stateSent standing answer =>
      refine outside all ?_
      unfold ReceiveSession.nextFile ReceiveSession.moveTo
      split <;> rfl
  | @began states file payload next offered state record standing answer there type transfer named
      known made =>
      have member := List.mem_of_getElem? there
      rw [← same] at all distinct ⊢
      obtain ⟨kept, running⟩ := getOrCreate_resumable all keyed distinct member made
      refine ⟨kept, fun block inside info found => ?_⟩
      cases inside
      exact running info found
  | absent standing beyond => exact quiet fun block inside => inside
  | known standing answer found =>
      refine quiet fun block inside => ?_
      cases inside
      simp only [ReceiveSession.block?, standing]
  | @entered block next standing answer unknown moved =>
      have inside : session.block? = some block := by simp only [ReceiveSession.block?, standing]
      obtain ⟨kept, active⟩ := sets inside (.inl rfl) moved
      refine ⟨kept, fun other again info found => ?_⟩
      cases again
      rw [active info found]
      decide
  | opened standing answer found =>
      refine quiet fun block inside => ?_
      unfold ReceiveSession.chunkLoop ReceiveSession.moveTo at inside
      split at inside <;> (cases inside; exact within standing)
  | progressed standing answer =>
      refine quiet fun block inside => ?_
      unfold ReceiveSession.chunkLoop ReceiveSession.moveTo at inside
      split at inside <;> (cases inside; exact within standing)
  | header standing | data standing | finished standing | hashed standing | committed standing
  | resultSent standing =>
      refine quiet fun block inside => ?_
      cases inside
      exact within standing
  | @written block index raw standing answer =>
      refine ⟨all.update fun _ => rfl, fun other inside info found => ?_⟩
      cases inside
      obtain ⟨old, before, _⟩ := recorded.inHand keyed anchored same (within standing)
      have running := recorded.running block (within standing) old before
      simp only [Registry.receive, Registry.update, before, Registry.set] at found
      rw [List.getElem?_set_self (List.getElem?_eq_some_iff.mp before).1] at found
      cases found
      exact running
  | marked standing answer moved =>
      obtain ⟨kept, complete⟩ := completes (within standing) (finished _ _ rfl) moved
      refine ⟨kept, fun other again info found => ?_⟩
      cases again
      rw [complete info found]
      decide
  | recognised standing answer expected moved =>
      obtain ⟨kept, complete⟩ := completes (within standing) (finished _ _ rfl) moved
      refine ⟨kept, fun other again info found => ?_⟩
      cases again
      rw [complete info found]
      decide
  | notified standing answer =>
      refine outside all ?_
      unfold ReceiveSession.nextFile ReceiveSession.moveTo
      split <;> rfl
  | settled standing answer => exact outside all rfl
  | escaped free raises => exact outside all rfl
  | handled inside raises verified handler moved =>
      obtain ⟨unchanged, kind⟩ := lost _ _ raises
      rw [unchanged] at moved
      cases handler.symm.trans (handlerStatus_lost kind)
      exact outside (sets inside (.inr (.inr (.inl rfl))) moved).1 rfl
  | refused inside raises verified handler moved =>
      obtain ⟨unchanged, _⟩ := lost _ _ raises
      rw [unchanged]
      exact outside all rfl

end

end DirectTransfer
