import DirectTransfer.Core.StoredProgress

/-! What the sessions of a receiver come to over all its runs: what a sender is told of
is on the disk, what is on the disk stays, and it is what the sender has sent. -/

set_option autoImplicit false

namespace DirectTransfer

open Library

section

variable {host : StoreHost} {platform : Platform} {offers : TransferOffer → Prop}
  {genuine : TransferOffer → IncomingFile → Bytes → Prop} {expected : Consignment → Prop}
  {start middle finish : StoredReceiver} {finals : Finals} {goods : Consignment}
  {labels earlier : List StoredLabel} {stored : StoredSession} {disk : Disk FilePath}
  {offer : TransferOffer} {file : IncomingFile}

/-! ## What is told -/

/-- A file in the receive directory with the offered size and digest. -/
def Arrived (host : StoreHost) (disk : Disk FilePath) (file : IncomingFile) (path : FilePath) :
    Prop :=
  path.directory = .received ∧ host.verifies disk path file = true

theorem StoreHost.Resting.arrived {finals : IncomingFile → Option FilePath} {path : FilePath}
    (resting : host.Resting disk goods finals) (member : file ∈ goods.offer.files)
    (finished : finals file = some path) : Arrived host disk file path :=
  ⟨(resting.ended file member path finished).1,
    (resting.shelved.kept file member path finished).verified⟩

/-- Whatever frames arrive, and however sessions of different transfers interleave, are
cut and taken up again: a `file_result` stands for a received file of the offered size
and digest, and a `session_complete` for one for every file of the offer. -/
theorem told_files_arrived (lawful : host.Lawful) (places : host.Places platform)
    (once : OfferedOnce platform offers) (begins : Begins host offers start)
    (run : Run (storedStep host platform) (Attends platform offers) start labels finish) :
    ∀ stored ∈ finish.sessions,
      (∀ block finalPath, stored.session.phase = .inside block (.sendResult finalPath) →
        ∃ path, finalPath = host.shown path ∧ Arrived host finish.disk block.offered path) ∧
      (stored.session.phase = .sessionComplete → ∀ file ∈ stored.session.origin.offer.files,
        ∃ path, Arrived host finish.disk file path) := by
  intro stored member
  obtain ⟨finals, attended⟩ := begins.run lawful places once run
  obtain ⟨index, found⟩ := List.mem_iff_getElem?.mp member
  refine ⟨fun block finalPath standing => ?_, fun standing file included => ?_⟩
  · obtain ⟨goods, _, _, stands⟩ :=
      attended.transfer found fun outcome closed => (by cases standing.symm.trans closed)
    simp only [Stands, standing] at stands
    obtain ⟨cursor, working⟩ := stands.working
    obtain ⟨path, final, shown⟩ := stands.final
    exact ⟨path, shown, stands.resting.arrived (List.mem_of_getElem? working.listed) final⟩
  · obtain ⟨goods, _, same, stands⟩ :=
      attended.transfer found fun outcome closed => (by cases standing.symm.trans closed)
    simp only [Stands, standing] at stands
    rw [same] at included
    obtain ⟨path, final⟩ := stands.2.all included
    exact ⟨path, stands.1.arrived included final⟩

theorem plain_allows {others : List StoredSession} {source : IncomingFile → Bytes} :
    Allows others offer source fun state label => Attends platform offers state label where
  network _ _ _ _ _ _ := trivial
  storage _ _ _ _ _ _ := fun _ _ _ _ => rfl

open StoreHost in
theorem confirmed_pair_arrived : ∃ labels finish stored,
    Run (storedStep shelfHost asciiPlatform) (Attends asciiPlatform (· = pairOffer)) emptyReceiver
      labels finish ∧
    stored ∈ finish.sessions ∧ stored.session.phase = .sessionComplete ∧
    ∀ file ∈ stored.session.origin.offer.files, ∃ path, Arrived shelfHost finish.disk file path := by
  obtain ⟨next, after, _, moved, last, phase, _, confirms⟩ :=
    pair_confirms (@plain_allows asciiPlatform (· = pairOffer) pairOffer [] pairSource)
  obtain ⟨labels, run⟩ := pair_run Disk.empty (pair_accepts _) confirms
  have arrived := told_files_arrived shelfHost_lawful (shelfHost_places _) pair_once pair_begins run
    ⟨moved, last, none⟩ (List.mem_singleton_self _)
  exact ⟨labels, _, _, run, List.mem_singleton_self _, phase, arrived.2 phase⟩

/-- What a session tells the sender of a file, of the disk it has found. -/
def ToldOf (host : StoreHost) (disk : Disk FilePath) (transferId : PyStr) (file : IncomingFile)
    (state : ResumeFileState) : Prop :=
  match state.finalPath with
  | some finalPath => state.offset = file.size ∧
      ∃ path, finalPath = host.shown path ∧ Arrived host disk file path
  | none => state.offset = (StoreHost.partialOctets disk transferId file).length ∧
      state.offset ≤ file.size

/-- A session begins every file where the sessions before it, cut wherever they were,
have left its partial, and no file again that has arrived. -/
theorem resume_states_exact (lawful : host.Lawful) (places : host.Places platform)
    (once : OfferedOnce platform offers) (begins : Begins host offers start)
    (run : Run (storedStep host platform) (Attends platform offers) start labels finish) :
    ∀ stored ∈ finish.sessions, ∀ states, stored.session.phase = .resumeState states →
      ∀ file ∈ stored.session.origin.offer.files, ∃ state,
        states.get file.fileId = some state ∧
          ToldOf host finish.disk stored.transferId file state := by
  intro stored member states standing file included
  obtain ⟨finals, attended⟩ := begins.run lawful places once run
  obtain ⟨index, found⟩ := List.mem_iff_getElem?.mp member
  obtain ⟨goods, known, same, stands⟩ :=
    attended.transfer found fun outcome closed => (by cases standing.symm.trans closed)
  simp only [Stands, standing] at stands
  obtain ⟨resting, awaits⟩ := stands
  have transferId : stored.transferId = goods.offer.transferId := by
    rw [← same]
    rfl
  rw [same] at included
  obtain ⟨place, listed⟩ := List.mem_iff_getElem?.mp included
  refine ⟨_, awaits place file (Nat.zero_le _) listed, ?_⟩
  unfold ToldOf StoreHost.resumesAt
  rw [transferId]
  cases final : finals goods.offer.transferId file with
  | some path => exact ⟨rfl, path, rfl, resting.arrived included final⟩
  | none => exact ⟨rfl, resting.fits file included⟩

open StoreHost in
/-- The second session of two files, the first of which was cut behind its last octet. -/
theorem interrupted_pair_told : ∃ labels finish stored states,
    Run (storedStep shelfHost asciiPlatform) (Attends asciiPlatform (· = pairOffer)) emptyReceiver
      labels finish ∧
    stored ∈ finish.sessions ∧ stored.session.phase = .resumeState states ∧
    (partialOctets finish.disk pairOffer.transferId firstFile).length = 32 ∧
    ∀ file ∈ stored.session.origin.offer.files, ∃ state, states.get file.fileId = some state ∧
      ToldOf shelfHost finish.disk stored.transferId file state := by
  have allows := @plain_allows asciiPlatform (· = pairOffer) pairOffer [] pairSource
  obtain ⟨next, after, session, last, block, standing, offered, steady, fills⟩ :=
    pair_fills zeros_provided allows rfl pair_starts
  obtain ⟨earlier, first⟩ := pair_run Disk.empty (pair_accepts _) fills
  have filled := steady.stands
  simp only [Stands, standing] at filled
  have whole := filled.whole
  rw [offered] at whole
  have fresh : Steady shelfHost (sourced pairOffer pairSource) .empty after (fun _ => none)
      ⟨accepted [] [] pairOffer, none, none⟩ := .fresh (.left filled.resting) steady.direct
  obtain ⟨prepared, states, again, octets, resumes⟩ := fresh.resumes 0 zeros_provided allows rfl
  obtain ⟨later, second⟩ := pair_run after (pair_accepts _) resumes
  have attends : Attends asciiPlatform (· = pairOffer) (beside [] next after ⟨session, last, none⟩)
      .restart := by
    intro stored member call name began
    cases List.mem_singleton.mp member
    cases began
  have run := first.trans (.trans (.single attends rfl) second)
  refine ⟨_, _, _, states, run, List.mem_singleton_self _, rfl, ?_,
    resume_states_exact shelfHost_lawful (shelfHost_places _) pair_once pair_begins run _
      (List.mem_singleton_self _) states rfl⟩
  exact (congrArg List.length (octets _ first_included)).trans whole

/-! ## What stays -/

/-- A file in the receive directory at one time of a run. -/
theorem received_frame (lawful : host.Lawful) (places : host.Places platform)
    (once : OfferedOnce platform offers)
    (attended : Attended host (expecting offers fun _ _ _ => True) middle finals)
    (run : Run (storedStep host platform) (Attends platform offers) middle labels finish)
    {path : FilePath} (received : path.directory = .received)
    (held : middle.disk.nodes.get path ≠ none)
    (direct : ∀ target, middle.disk.nodes.get path ≠ some (.symlink target)) :
    finish.disk.nodes.get path = middle.disk.nodes.get path ∧
      finish.disk.read path = middle.disk.read path := by
  suffices kept : (∃ finals, Attended host (expecting offers fun _ _ _ => True) finish finals) ∧
      finish.disk.nodes.get path = middle.disk.nodes.get path ∧
      finish.disk.read path = middle.disk.read path from kept.2
  induction run with
  | refl => exact ⟨⟨finals, attended⟩, rfl, rfl⟩
  | snoc _ admitted stepped ih =>
      obtain ⟨⟨before, still⟩, nodes, read⟩ := ih
      obtain ⟨changed, moved⟩ :=
        still.step lawful places once.plain admitted brings_plain stepped
      have stays : ReceivedName _ path := ⟨received, nodes ▸ held⟩
      refine ⟨⟨changed, moved.attended⟩, ?_, ?_⟩
      · exact (moved.frame.nodes path (not_not.mpr stays)).trans nodes
      · refine (moved.frame.read (not_not.mpr stays) ?_).trans read
        rw [nodes]
        exact direct

/-- Whatever is in the receive directory at some time of a run is there ever after, with
the same octets: no session overwrites, appends to or removes a received file. -/
theorem received_files_stay (lawful : host.Lawful) (places : host.Places platform)
    (once : OfferedOnce platform offers) (begins : Begins host offers start)
    (before : Run (storedStep host platform) (Attends platform offers) start earlier middle)
    (run : Run (storedStep host platform) (Attends platform offers) middle labels finish) :
    ∀ name inode, middle.disk.nodes.get (received name) = some (.file inode) →
      finish.disk.nodes.get (received name) = some (.file inode) ∧
        finish.disk.read (received name) = middle.disk.read (received name) := by
  intro name inode placed
  obtain ⟨finals, attended⟩ := begins.run lawful places once before
  obtain ⟨nodes, read⟩ := @received_frame _ _ _ _ _ _ _ lawful places once attended run
    (received name) rfl (by rw [placed]; exact Option.some_ne_none _)
    (by rw [placed]; intro target linked; cases linked)
  exact ⟨nodes.trans placed, read⟩

open StoreHost in
/-- The first of two files, when its transfer is confirmed and after its end. -/
theorem confirmed_pair_stays : ∃ earlier middle labels finish name inode,
    Run (storedStep shelfHost asciiPlatform) (Attends asciiPlatform (· = pairOffer)) emptyReceiver
      earlier middle ∧
    Run (storedStep shelfHost asciiPlatform) (Attends asciiPlatform (· = pairOffer)) middle labels
      finish ∧
    (∀ stored ∈ finish.sessions, stored.session.phase = .ended (.ok ())) ∧
    middle.disk.nodes.get (received name) = some (.file inode) ∧
    finish.disk.nodes.get (received name) = some (.file inode) ∧
    finish.disk.read (received name) = middle.disk.read (received name) := by
  have allows := @plain_allows asciiPlatform (· = pairOffer) pairOffer [] pairSource
  obtain ⟨next, after, _, moved, last, phase, steady, confirms⟩ := pair_confirms allows
  obtain ⟨earlier, before⟩ := pair_run Disk.empty (pair_accepts _) confirms
  obtain ⟨final, stored, ended, _, _, labels, run⟩ :=
    steady.closes 0 zeros_provided pair_honest.verified.restarts allows phase fun _ _ _ _ _ => rfl
  have stands := steady.stands
  simp only [Stands, phase] at stands
  obtain ⟨path, final⟩ := stands.2.all first_included
  obtain ⟨place, verified⟩ := stands.1.arrived first_included final
  obtain ⟨octets, read, _⟩ := verifies_iff.mp verified
  rw [Disk.read_of_direct (steady.direct path place)] at read
  obtain ⟨directory, name⟩ := path
  dsimp only at place
  subst place
  split at read
  · next inode placed =>
      refine ⟨earlier, _, labels, _, name, inode, before, run, fun other member => ?_, placed,
        received_files_stay shelfHost_lawful (shelfHost_places _) pair_once pair_begins before run name
          inode placed⟩
      rw [List.mem_singleton.mp member]
      exact ended
  · cases read

/-! ## What arrives -/

/-- What a file becomes that is resumed behind what has been found of it. -/
def completion (found source : Bytes) : Bytes := found ++ source.drop found.length

/-- What the partial of a resumed file may hold; a file that verifies in spite of what has
been found of it may also have been begun anew. -/
def Resumed (host : StoreHost) (file : IncomingFile) (found source octets : Bytes) : Prop :=
  (found.length ≤ octets.length ∧ octets <+: completion found source) ∨
    (host.digests.hexdigest (completion found source) = file.sha256 ∧ octets <+: source)

theorem Resumed.append {found source octets raw : Bytes}
    (continues : Resumed host file found source octets)
    (next : raw = (source.drop octets.length).take raw.length) :
    Resumed host file found source (octets ++ raw) := by
  cases continues with
  | inl onward =>
      obtain ⟨reach, within⟩ := onward
      refine .inl ⟨?_, prefix_append_next within ?_⟩
      · rw [List.length_append]
        omega
      · rw [completion, List.drop_append, List.drop_drop, List.drop_eq_nil_of_le reach,
          Nat.add_sub_cancel' reach]
        exact next
  | inr anew => exact .inr ⟨anew.1, prefix_append_next anew.2 next⟩

theorem completion_length {found source : Bytes} (shorter : found.length ≤ source.length) :
    (completion found source).length = source.length := by
  rw [completion, List.length_append, List.length_drop]
  omega

/-- A whole file is the completion of what has been found of it, or the source. -/
theorem Resumed.whole {found source octets : Bytes}
    (continues : Resumed host file found source octets) (shorter : found.length ≤ source.length)
    (length : octets.length = source.length) : octets = completion found source ∨
      (host.digests.hexdigest (completion found source) = file.sha256 ∧ octets = source) := by
  cases continues with
  | inl onward =>
      exact .inl (onward.2.eq_of_length (length.trans (completion_length shorter).symm))
  | inr anew => exact .inr ⟨anew.1, anew.2.eq_of_length length⟩

/-- What is expected of the files of one offer, by what is found of them and the source. -/
def resuming (host : StoreHost) (offer : TransferOffer) (found source : IncomingFile → Bytes)
    (watched : IncomingFile → Prop) : TransferOffer → IncomingFile → Bytes → Prop :=
  fun other file octets => other = offer → watched file →
    Resumed host file (found file) (source file) octets

section

variable {found source : IncomingFile → Bytes} {watched : IncomingFile → Prop}

theorem resuming_restarts (sized : ∀ file ∈ offer.files, watched file →
      (source file).length = file.size ∧ (found file).length ≤ file.size)
    (other : TransferOffer) : (Consignment.mk other (resuming host offer found source watched
      other)).Restarts host := by
  intro file member octets continues length digest same watches
  subst same
  obtain ⟨size, shorter⟩ := sized file member watches
  cases (continues rfl watches).whole (by omega) (by omega) with
  | inl equal => exact .inr ⟨by rw [← equal, digest], List.nil_prefix⟩
  | inr equal => exact .inr ⟨equal.1, List.nil_prefix⟩

theorem brings_resuming {state : StoredReceiver} {label : StoredLabel}
    (honest : FromSource offer source state label) :
    Brings (expecting offers (resuming host offer found source watched)) state label := by
  cases label with
  | network index event =>
      intro stored there goods known same block chunk raw standing answer before
      rw [known.2] at before ⊢
      intro equal watches
      refine (before equal watches).append ?_
      rw [equal]
      exact honest stored there (same.trans equal) block chunk raw standing answer
  | _ => trivial

/-- A run whose chunks come from the source of one offer. -/
theorem Begins.run_resuming (lawful : host.Lawful) (places : host.Places platform)
    (once : OfferedOnce platform offers) (begins : Begins host offers start)
    (sized : ∀ file ∈ offer.files, watched file →
      (source file).length = file.size ∧ (found file).length ≤ file.size)
    {first : IncomingFile → Option FilePath}
    (rests : host.Rests start.disk ⟨offer, resuming host offer found source watched offer⟩ first)
    (run : Run (storedStep host platform)
      (fun state label => Attends platform offers state label ∧ FromSource offer source state label)
      start labels finish) :
    ∃ finals, Attended host (expecting offers (resuming host offer found source watched)) finish
      finals := by
  have undertaken : Undertaken host platform offers
      (expecting offers (resuming host offer found source watched)) :=
    once.undertaken fun other _ => resuming_restarts sized other
  obtain ⟨finals, attended⟩ := begins.attended_of undertaken rests
    fun other apart file octets equal => absurd equal apart
  exact attended.run lawful places undertaken
    (run.weaken fun state label admitted => ⟨admitted.1, brings_resuming admitted.2⟩)

/-- A file that a session tells of has been completed to the offered digest. -/
theorem Attended.told_completed {finals : Finals} {index : Nat}
    (attended : Attended host (expecting offers (resuming host offer found source watched)) finish
      finals)
    (included : file ∈ offer.files) (watches : watched file)
    (sized : (source file).length = file.size) (fits : (found file).length ≤ file.size)
    (listed : finish.sessions[index]? = some stored) (ours : stored.session.origin.offer = offer)
    (told : stored.session.phase = .sessionComplete ∨ ∃ block finalPath, block.offered = file ∧
      stored.session.phase = .inside block (.sendResult finalPath)) :
    host.digests.hexdigest (completion (found file) (source file)) = file.sha256 := by
  obtain ⟨goods, known, same, stands⟩ := attended.transfer listed fun outcome closed => by
    rcases told with standing | ⟨block, finalPath, _, standing⟩ <;>
      cases standing.symm.trans closed
  have equal := same.symm.trans ours
  have there : file ∈ goods.offer.files := by
    rw [equal]
    exact included
  have final : ∃ path, host.Resting finish.disk goods (finals goods.offer.transferId) ∧
      finals goods.offer.transferId file = some path := by
    rcases told with standing | ⟨block, finalPath, offered, standing⟩
    · simp only [Stands, standing] at stands
      obtain ⟨path, final⟩ := stands.2.all there
      exact ⟨path, stands.1, final⟩
    · simp only [Stands, standing] at stands
      obtain ⟨path, final, _⟩ := stands.final
      exact ⟨path, stands.resting, offered ▸ final⟩
  obtain ⟨path, resting, final⟩ := final
  obtain ⟨octets, read, length, verified⟩ :=
    StoreHost.verifies_iff.mp (resting.shelved.kept file there path final).verified
  have continues := (resting.ended file there path final).2 octets read
  rw [known.2] at continues
  cases (continues equal watches).whole (sized ▸ fits) (length.trans sized.symm) with
  | inl whole => rw [← whole]; exact verified
  | inr anew => exact anew.1

/-- However often a transfer is cut and taken up again, what arrives of an honest sender
is exactly its file. -/
theorem honest_transfer_exact (lawful : host.Lawful) (places : host.Places platform)
    (once : OfferedOnce platform offers) (begins : Begins host offers start)
    (sized : ∀ file ∈ offer.files, (source file).length = file.size)
    (bare : StoreHost.Bare start.disk offer.transferId)
    (run : Run (storedStep host platform)
      (fun state label => Attends platform offers state label ∧ FromSource offer source state label)
      start labels finish) :
    ∀ stored ∈ finish.sessions, stored.session.origin.offer = offer →
      (∀ block finalPath, stored.session.phase = .inside block (.sendResult finalPath) →
        ∃ path, finalPath = host.shown path ∧ path.directory = .received ∧
          finish.disk.read path = some (source block.offered)) ∧
      (stored.session.phase = .sessionComplete → ∀ file ∈ offer.files,
        ∃ path, path.directory = .received ∧ finish.disk.read path = some (source file)) := by
  intro stored member ours
  obtain ⟨finals, attended⟩ := @Begins.run_resuming host platform offers start finish labels offer
    (fun _ => []) source (fun _ => True) lawful places once begins
    (fun file included _ => ⟨sized file included, Nat.zero_le _⟩) (fun _ => none)
    (.bare bare (fun _ => rfl) fun file _ _ _ => .inl ⟨Nat.zero_le _, List.nil_prefix⟩) run
  obtain ⟨index, found⟩ := List.mem_iff_getElem?.mp member
  have arrives {goods : Consignment} {file : IncomingFile} {path : FilePath}
      {finals : IncomingFile → Option FilePath} (known : expecting offers (resuming host offer
        (fun _ => []) source fun _ => True) goods) (same : goods.offer = offer)
      (resting : host.Resting finish.disk goods finals) (included : file ∈ goods.offer.files)
      (final : finals file = some path) :
      path.directory = .received ∧ finish.disk.read path = some (source file) := by
    obtain ⟨place, genuine⟩ := resting.ended file included path final
    obtain ⟨octets, read, length, _⟩ :=
      StoreHost.verifies_iff.mp (resting.shelved.kept file included path final).verified
    have continues := genuine octets read
    rw [known.2] at continues
    rw [same] at included
    refine ⟨place, ?_⟩
    cases (continues same trivial).whole (Nat.zero_le _)
        (length.trans (sized file included).symm) with
    | inl equal => rw [read, equal]; rfl
    | inr equal => rw [read, equal.2]
  refine ⟨fun block finalPath standing => ?_, fun standing file included => ?_⟩
  · obtain ⟨goods, known, same, stands⟩ :=
      attended.transfer found fun outcome closed => (by cases standing.symm.trans closed)
    simp only [Stands, standing] at stands
    obtain ⟨cursor, working⟩ := stands.working
    obtain ⟨path, final, shown⟩ := stands.final
    exact ⟨path, shown, arrives known (same.symm.trans ours) stands.resting
      (List.mem_of_getElem? working.listed) final⟩
  · obtain ⟨goods, known, same, stands⟩ :=
      attended.transfer found fun outcome closed => (by cases standing.symm.trans closed)
    simp only [Stands, standing] at stands
    have equal := same.symm.trans ours
    rw [← equal] at included
    obtain ⟨path, final⟩ := stands.2.all included
    exact ⟨path, arrives known equal stands.1 included final⟩

open StoreHost in
theorem honest_pair_exact : ∃ labels finish stored,
    Run (storedStep shelfHost asciiPlatform) (fun state label =>
        Attends asciiPlatform (· = pairOffer) state label ∧ FromSource pairOffer pairSource state label)
      emptyReceiver labels finish ∧
    stored ∈ finish.sessions ∧ stored.session.phase = .sessionComplete ∧
    ∀ file ∈ pairOffer.files, ∃ path, path.directory = .received ∧
      finish.disk.read path = some (pairSource file) := by
  obtain ⟨next, after, _, moved, last, phase, steady, confirms⟩ :=
    pair_confirms (@attends_allows asciiPlatform (· = pairOffer) pairOffer pairSource [])
  obtain ⟨labels, run⟩ := pair_run Disk.empty ⟨pair_accepts _, trivial⟩ confirms
  have sent := honest_transfer_exact shelfHost_lawful (shelfHost_places _) pair_once pair_begins
    pair_honest.sized (empty_bare _) run ⟨moved, last, none⟩ (List.mem_singleton_self _) steady.same
  exact ⟨labels, _, _, run, List.mem_singleton_self _, phase, sent.2 phase⟩

/-- A partial with octets that are not the sender's is never mended: an honest sender only
sends what follows it, so its file passes the hash check if and only if the partial with
that appended has the offered digest, in whichever of its sessions; otherwise no session
ever tells of the file or completes the transfer. -/
theorem poisoned_partial_stays (lawful : host.Lawful) (places : host.Places platform)
    (once : OfferedOnce platform offers) (begins : Begins host offers start)
    (included : file ∈ offer.files) (sized : (source file).length = file.size)
    (digest : host.digests.hexdigest (source file) = file.sha256)
    {first : IncomingFile → Option FilePath}
    (resting : host.Resting start.disk offer.plain first) (unfinished : first file = none)
    (run : Run (storedStep host platform)
      (fun state label => Attends platform offers state label ∧ FromSource offer source state label)
      start labels finish) :
    ∀ index stored, finish.sessions[index]? = some stored → stored.session.origin.offer = offer →
      (∀ block, block.offered = file → stored.session.phase = .inside block .hash →
        ∀ now temp next, storedStep host platform finish (.storage index now temp none) = some next →
          ∃ after, next.sessions[index]? = some after ∧
            after.session.phase = .inside block (if host.digests.hexdigest (completion
              (StoreHost.partialOctets start.disk offer.transferId file) (source file)) = file.sha256
                then .commit else .hashMismatch)) ∧
      (host.digests.hexdigest (completion (StoreHost.partialOctets start.disk offer.transferId file)
          (source file)) ≠ file.sha256 →
        stored.session.phase ≠ .sessionComplete ∧ ∀ block finalPath, block.offered = file →
          stored.session.phase ≠ .inside block (.sendResult finalPath)) := by
  intro index stored found ours
  have fits := resting.fits file included
  obtain ⟨finals, attended⟩ := @Begins.run_resuming host platform offers start finish labels offer
    (fun _ => StoreHost.partialOctets start.disk offer.transferId file) source (· = file) lawful
    places once begins (fun other _ same => by cases same; exact ⟨sized, fits⟩) first
    (.left ⟨resting.shelved, resting.fits,
      fun other _ _ same => by cases same; exact .inl ⟨Nat.le_refl _, List.prefix_append _ _⟩,
      fun other member path finished => ⟨(resting.ended other member path finished).1,
        fun _ _ _ same => by cases same; cases unfinished.symm.trans finished⟩⟩) run
  have member := List.mem_of_getElem? found
  have completed := attended.told_completed included rfl sized fits found ours
  refine ⟨fun block offered standing now temp next stepped => ?_, fun poisoned => ⟨fun standing => ?_,
    fun block finalPath offered standing => ?_⟩⟩
  · obtain ⟨goods, known, same, stands⟩ :=
      attended.transfer found fun outcome closed => (by cases standing.symm.trans closed)
    have equal := same.symm.trans ours
    have idle := attended.idle stored member fun other committing => by
      cases standing.symm.trans committing
    obtain ⟨called, moved, follows, _, advanced⟩ := stands.hash same idle standing
    obtain ⟨registry, session, again, rfl⟩ := returned_of_called found (called temp) stepped
    cases (follows now).symm.trans again
    simp only [Stands, standing] at stands
    have continues := stands.resting.begun block.offered (by rw [offered, equal]; exact included)
    rw [known.2] at continues
    have verdict : host.digests.hexdigest (StoreHost.partialOctets finish.disk
        goods.offer.transferId block.offered) = block.offered.sha256 ↔
        host.digests.hexdigest (completion (StoreHost.partialOctets start.disk offer.transferId file)
          (source file)) = file.sha256 := by
      have whole := stands.whole
      have goesOn := continues equal offered
      rw [offered] at whole goesOn ⊢
      cases goesOn.whole (sized ▸ fits) (whole.trans sized.symm) with
      | inl equal => rw [equal]
      | inr equal => rw [equal.2, digest]; exact ⟨fun _ => equal.1, fun _ => rfl⟩
    have bound := (List.getElem?_eq_some_iff.mp found).1
    refine ⟨_, List.getElem?_set_self bound, ?_⟩
    rw [advanced]
    by_cases passes : host.digests.hexdigest (completion
        (StoreHost.partialOctets start.disk offer.transferId file) (source file)) = file.sha256
    · rw [if_neg (not_not.mpr (verdict.mpr passes)), if_pos passes]
      rfl
    · rw [if_pos fun same => passes (verdict.mp same), if_neg passes]
      rfl
  · exact poisoned (completed (.inl standing))
  · exact poisoned (completed (.inr ⟨block, finalPath, offered, standing⟩))

end

theorem StoreHost.Resting.plain {finals : IncomingFile → Option FilePath}
    (resting : host.Resting disk goods finals) : host.Resting disk goods.offer.plain finals :=
  ⟨resting.shelved, resting.fits, fun _ _ => trivial, fun file member path finished =>
    ⟨(resting.ended file member path finished).1, fun _ _ => trivial⟩⟩

open StoreHost in
/-- A disk on which a session of two files was cut behind the octets of the first. -/
theorem stored_pair {source : IncomingFile → Bytes} (lengths : ∀ file, (source file).length = 32) :
    ∃ disk, shelfHost.Resting disk (sourced pairOffer source) (fun _ => none) ∧ Direct disk ∧
      partialOctets disk pairOffer.transferId firstFile = source firstFile := by
  obtain ⟨_, disk, session, last, block, standing, offered, steady, _⟩ :=
    pair_fills (pair_provides lengths) (@plain_allows asciiPlatform (· = pairOffer) pairOffer [] source)
      rfl pair_starts
  have filled := steady.stands
  simp only [Stands, standing] at filled
  have whole := filled.whole
  rw [offered] at whole
  have begun := filled.resting.begun firstFile first_included
  exact ⟨disk, filled.resting, steady.direct,
    begun.eq_of_length (whole.trans (pair_sized lengths _ first_included).symm)⟩

open StoreHost in
/-- A first file of thirty-two octets that are not the sender's: the next session of its
transfer comes to its hash, and fails. -/
theorem poisoned_pair_mismatches : ∃ disk labels finish stored block,
    Run (storedStep shelfHost asciiPlatform) (fun state label =>
        Attends asciiPlatform (· = pairOffer) state label ∧ FromSource pairOffer pairSource state label)
      ⟨.empty, disk, []⟩ labels finish ∧
    finish.sessions[0]? = some stored ∧ stored.session.phase = .inside block .hash ∧
    ∀ now temp next,
      storedStep shelfHost asciiPlatform finish (.storage 0 now temp none) = some next →
      ∃ after, next.sessions[0]? = some after ∧
        after.session.phase = .inside block .hashMismatch := by
  have lengths (_ : IncomingFile) : (List.replicate 32 (1 : UInt8)).length = 32 := List.length_replicate
  obtain ⟨disk, resting, direct, octets⟩ := stored_pair lengths
  have begins : Begins shelfHost (· = pairOffer) ⟨.empty, disk, []⟩ := by
    refine ⟨rfl, rfl, fun offer same => ?_⟩
    subst same
    exact ⟨_, .left resting.plain⟩
  have whole : (partialOctets disk pairOffer.transferId firstFile).length = firstFile.size := by
    rw [octets]
    exact pair_sized lengths _ first_included
  obtain ⟨next, after, moved, handle, again, stands, same, ours, hashes⟩ :=
    pair_hashes plain_provides
      (@attends_allows asciiPlatform (· = pairOffer) pairOffer pairSource []) rfl whole
      (.fresh (.left resting.plain) direct)
  obtain ⟨labels, run⟩ := pair_run disk ⟨pair_accepts _, trivial⟩ hashes
  have stays := poisoned_partial_stays shelfHost_lawful (shelfHost_places _) pair_once begins
    first_included (pair_honest.sized _ first_included) (pair_honest.digest _ first_included)
    resting.plain rfl run 0 ⟨moved, handle, none⟩ rfl ours
  refine ⟨disk, labels, _, _, again, run, rfl, stands, fun now temp other stepped => ?_⟩
  obtain ⟨final, there, phase⟩ := stays.1 again same stands now temp other stepped
  refine ⟨final, there, phase.trans ?_⟩
  rw [if_neg]
  dsimp only
  rw [octets]
  decide

end

end DirectTransfer
