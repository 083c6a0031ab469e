import DirectTransfer.Core.StoredDelivery

/-! How often a file is put into the receive directory, over all the sessions that take
up its transfer. -/

set_option autoImplicit false

namespace DirectTransfer

open Library

/-- The file a step gives its name in the receive directory: its link succeeds. -/
def landing (state : StoredReceiver) : StoredLabel → Option (PyStr × PyStr)
  | .storage index _ _ none => match state.sessions[index]? with
    | none => none
    | some stored => match stored.session.phase, stored.commit with
      | .inside block .commit, some call => match call.phase with
        | .link name => match state.disk.link call.partialPath (received name) with
          | .ok _ => some (stored.transferId, block.offered.fileId)
          | .error _ => none
        | _ => none
      | _, _ => none
  | _ => none

/-- The files a run gives their names, in order. -/
def landings (host : StoreHost) (platform : Platform) : StoredReceiver → List StoredLabel →
    List (PyStr × PyStr)
  | _, [] => []
  | state, label :: rest => (landing state label).toList ++
      match storedStep host platform state label with
      | none => []
      | some next => landings host platform next rest

/-- The file a session has given its name and not recorded yet. -/
def StoredSession.landed (stored : StoredSession) : Option IncomingFile :=
  match stored.session.phase, stored.commit with
  | .inside block (.markCompleted _), _ => some block.offered
  | .inside block .commit, some call => match call.phase with
    | .unlinkLinked _ | .finished _ => some block.offered
    | _ => none
  | _, _ => none

/-- The further condition on the steps of one transfer: it is not cut between the naming
of a file and its record, and not brought to its end. -/
def Unsevered (offer : TransferOffer) (state : StoredReceiver) : StoredLabel → Prop
  | .storage index _ _ failure => ∀ stored, state.sessions[index]? = some stored →
      stored.session.origin.offer = offer → stored.session.phase ≠ .completeSession ∧
        ∀ block finalPath, stored.session.phase = .inside block (.markCompleted finalPath) →
          failure = none
  | .restart => ∀ stored ∈ state.sessions, stored.session.origin.offer = offer →
      stored.landed = none
  | _ => True

section

variable {host : StoreHost} {platform : Platform} {offers : TransferOffer → Prop}
  {expected : Consignment → Prop} {state next start finish middle : StoredReceiver} {finals : Finals}
  {goods : Consignment} {labels : List StoredLabel} {label : StoredLabel}
  {stored after : StoredSession} {offer : TransferOffer} {file : IncomingFile} {index : Nat}
  {registry other : Registry} {session moved : ReceiveSession} {event : ReceiveEvent}

theorem landings_append {guard : StoredReceiver → StoredLabel → Prop}
    (run : Run (storedStep host platform) guard start labels middle) (label : StoredLabel) :
    landings host platform start (labels ++ [label]) =
      landings host platform start labels ++ (landing middle label).toList := by
  induction labels generalizing start with
  | nil =>
      cases run.nil_inv
      simp only [List.nil_append, landings]
      split <;> simp
  | cons head labels ih =>
      obtain ⟨between, _, stepped, rest⟩ := run.cons_inv
      simp only [List.cons_append, landings, stepped, ih rest, List.append_assoc]

theorem landed_none (uncommitted : ∀ block, stored.session.phase ≠ .inside block .commit)
    (unmarked : ∀ block finalPath, stored.session.phase ≠ .inside block (.markCompleted finalPath)) :
    stored.landed = none := by
  unfold StoredSession.landed
  split
  · next block finalPath standing => exact absurd standing (unmarked block finalPath)
  · next block call standing _ => exact absurd standing (uncommitted block)
  · rfl

theorem landed_of_none (fresh : stored.commit = none)
    (unmarked : ∀ block finalPath, stored.session.phase ≠ .inside block (.markCompleted finalPath)) :
    stored.landed = none := by
  unfold StoredSession.landed
  split
  · next block finalPath standing => exact absurd standing (unmarked block finalPath)
  · next block call standing began => cases fresh.symm.trans began
  · rfl

/-- A commit follows the hash of its file, and its record the commit. -/
theorem Transition.follows {block : FileBlock} {call : BlockCall}
    (transition : ReceiveSession.Transition registry session event other moved)
    (standing : moved.phase = .inside block call) :
    (call = .commit → session.phase = .inside block .hash) ∧
      ∀ finalPath, call = .markCompleted finalPath → session.phase = .inside block .commit := by
  have elsewhere {phase : BlockCall} (same : call = phase) (early : phase ≠ .commit)
      (unmarked : ∀ finalPath, phase ≠ .markCompleted finalPath) :
      (call = .commit → session.phase = .inside block .hash) ∧
        ∀ finalPath, call = .markCompleted finalPath → session.phase = .inside block .commit :=
    ⟨fun commits => absurd (same.symm.trans commits) early,
      fun finalPath marks => absurd (same.symm.trans marks) (unmarked finalPath)⟩
  cases transition with
  | hashed stands answer =>
      have inside := ReceivePhase.inside.inj standing
      refine ⟨fun _ => inside.1 ▸ stands, fun finalPath marks => ?_⟩
      have shown := inside.2.trans marks
      split at shown <;> cases shown
  | committed stands answer =>
      cases standing
      exact ⟨fun commits => (by cases commits), fun _ _ => stands⟩
  | stateSent stands answer =>
      unfold ReceiveSession.nextFile ReceiveSession.moveTo at standing
      split at standing <;> cases standing
  | notified stands answer =>
      unfold ReceiveSession.nextFile ReceiveSession.moveTo at standing
      split at standing <;> cases standing
  | opened stands answer found =>
      unfold ReceiveSession.chunkLoop ReceiveSession.moveTo at standing
      split at standing
      · have shown := (ReceivePhase.inside.inj standing).2
        split at shown <;> exact elsewhere shown.symm (by simp) (by simp)
      · exact elsewhere (ReceivePhase.inside.inj standing).2.symm (by simp) (by simp)
  | progressed stands answer =>
      unfold ReceiveSession.chunkLoop ReceiveSession.moveTo at standing
      split at standing
      · have shown := (ReceivePhase.inside.inj standing).2
        split at shown <;> exact elsewhere shown.symm (by simp) (by simp)
      · exact elsewhere (ReceivePhase.inside.inj standing).2.symm (by simp) (by simp)
  | absent stands beyond => cases stands.symm.trans standing
  | entered | header | data | written | finished | marked | recognised | resultSent | known =>
      exact elsewhere (ReceivePhase.inside.inj standing).2.symm (by simp) (by simp)
  | _ => cases standing

/-- Only a hash leads to a commit, which nothing has begun yet. -/
theorem landed_after (transition : ReceiveSession.Transition registry stored.session event other moved)
    (uncommitted : ∀ block, stored.session.phase ≠ .inside block .commit)
    (idle : stored.commit = none) : StoredSession.landed { stored with session := moved } = none :=
  landed_of_none idle fun block finalPath standing =>
    uncommitted block ((Transition.follows transition standing).2 finalPath rfl)

/-! ## One step -/

/-- A file of the transfer that is recorded, or named by a session that has not recorded it. -/
def Landed (offer : TransferOffer) (state : StoredReceiver) (finals : Finals) (file : IncomingFile) :
    Prop :=
  finals offer.transferId file ≠ none ∨
    ∃ stored ∈ state.sessions, stored.session.origin.offer = offer ∧ stored.landed = some file

/-- What one step names is what is named after it and was not before. -/
def LandsOnce (offer : TransferOffer) (state : StoredReceiver) (label : StoredLabel)
    (next : StoredReceiver) (finals changed : Finals) : Prop :=
  ∀ file ∈ offer.files,
    (landing state label = some (offer.transferId, file.fileId) ∧ ¬ Landed offer state finals file ∧
        Landed offer next changed file) ∨
      (landing state label ≠ some (offer.transferId, file.fileId) ∧
        (Landed offer state finals file ↔ Landed offer next changed file))

/-- Of the sessions of a transfer only the live one can have named a file. -/
theorem landed_alone {sessions : List StoredSession} (found : sessions[index]? = some stored)
    (ours : stored.session.origin.offer = offer)
    (alone : ∀ (place : Nat) (other : StoredSession), sessions[place]? = some other → other.Live →
      other.session.origin.offer = offer → place = index) :
    (∃ other ∈ sessions, other.session.origin.offer = offer ∧ other.landed = some file) ↔
      stored.landed = some file := by
  constructor
  · rintro ⟨other, member, same, lands⟩
    obtain ⟨place, there⟩ := List.mem_iff_getElem?.mp member
    have live : other.Live := by
      intro outcome closed
      rw [landed_none (by simp [closed]) (by simp [closed])] at lands
      cases lands
    rw [alone place other there live same, found] at there
    cases there
    exact lands
  · intro lands
    exact ⟨stored, List.mem_of_getElem? found, ours, lands⟩

/-- A step of one session, told by what it does to its own transfer. -/
theorem lands_session {changed : Finals} {disk : Disk FilePath}
    (undertaken : Undertaken host platform offers expected)
    (attended : Attended host expected state finals) (known : expected goods)
    (found : state.sessions[index]? = some stored) (live : stored.Live)
    (origin : after.session.origin = stored.session.origin)
    (others : ∀ transferId, transferId ≠ stored.transferId → changed transferId = finals transferId)
    (names : ∀ name, landing state label = some name → name.1 = stored.transferId)
    (own : stored.session.origin.offer = goods.offer → ∀ file ∈ goods.offer.files,
      (landing state label = some (goods.offer.transferId, file.fileId) ∧
        finals goods.offer.transferId file = none ∧ stored.landed ≠ some file ∧
        after.landed = some file) ∨
      (landing state label ≠ some (goods.offer.transferId, file.fileId) ∧
        ((finals goods.offer.transferId file ≠ none ∨ stored.landed = some file) ↔
          (changed goods.offer.transferId file ≠ none ∨ after.landed = some file)))) :
    LandsOnce goods.offer state label ⟨registry, disk, state.sessions.set index after⟩ finals
      changed := by
  have bound := (List.getElem?_eq_some_iff.mp found).1
  have placed : (state.sessions.set index after)[index]? = some after := List.getElem?_set_self bound
  by_cases ours : stored.session.origin.offer = goods.offer
  · have alone (place : Nat) (other : StoredSession) (there : state.sessions[place]? = some other)
        (lives : other.Live) (same : other.session.origin.offer = goods.offer) : place = index := by
      refine attended.single place index other stored there found lives live ?_
      rw [StoredSession.transferId, StoredSession.transferId, ReceiveSession.transferId,
        ReceiveSession.transferId, same, ours]
    have before (file : IncomingFile) := @landed_alone stored goods.offer file index _ found ours alone
    have afterwards (file : IncomingFile) :=
      @landed_alone after goods.offer file index _ placed (origin ▸ ours) fun place other there lives
        same => by
          by_cases here : place = index
          · exact here
          · rw [List.getElem?_set_ne (Ne.symm here)] at there
            exact alone place other there lives same
    intro file member
    simp only [Landed, before, afterwards]
    cases own ours file member with
    | inl lands =>
        obtain ⟨names, unfinished, unnamed, lands⟩ := lands
        exact .inl ⟨names, fun was => was.elim (fun finished => finished unfinished) unnamed, .inr lands⟩
    | inr still => exact .inr still
  · have apart : goods.offer.transferId ≠ stored.transferId := by
      intro equal
      obtain ⟨others, expects, same⟩ := attended.known stored (List.mem_of_getElem? found)
      apply ours
      rw [same]
      refine congrArg Consignment.offer (undertaken.apart others goods expects known ?_)
      rw [← same]
      exact equal.symm
    intro file member
    refine .inr ⟨fun lands => apart (names _ lands), ?_⟩
    simp only [Landed, others _ apart]
    refine or_congr Iff.rfl ⟨?_, ?_⟩
    · rintro ⟨other, among, same, lands⟩
      obtain ⟨place, there⟩ := List.mem_iff_getElem?.mp among
      have here : place ≠ index := by
        intro here
        rw [here, found] at there
        cases there
        exact ours same
      refine ⟨other, List.mem_of_getElem? (i := place) ?_, same, lands⟩
      rw [List.getElem?_set_ne (Ne.symm here)]
      exact there
    · rintro ⟨other, among, same, lands⟩
      cases List.mem_or_eq_of_mem_set among with
      | inl old => exact ⟨other, old, same, lands⟩
      | inr new =>
          rw [new, origin] at same
          exact absurd same ours

/-- A step that names no file and after which no file is named but not recorded. -/
theorem lands_still {changed : Finals} {disk : Disk FilePath}
    (undertaken : Undertaken host platform offers expected)
    (attended : Attended host expected state finals) (known : expected goods)
    (found : state.sessions[index]? = some stored) (live : stored.Live)
    (origin : after.session.origin = stored.session.origin)
    (others : ∀ transferId, transferId ≠ stored.transferId → changed transferId = finals transferId)
    (nothing : landing state label = none)
    (own : stored.session.origin.offer = goods.offer → ∀ file ∈ goods.offer.files,
      (finals goods.offer.transferId file ≠ none ∨ stored.landed = some file) ↔
        (changed goods.offer.transferId file ≠ none ∨ after.landed = some file)) :
    LandsOnce goods.offer state label ⟨registry, disk, state.sessions.set index after⟩ finals
      changed := by
  refine lands_session undertaken attended known found live origin others
    (fun name names => by cases nothing.symm.trans names)
    fun ours file member => .inr ⟨?_, own ours file member⟩
  rw [nothing]
  intro impossible
  cases impossible

/-- A commit names its file once, by the link that succeeds. -/
theorem commit_lands {block : FileBlock} {now : Time} {temp : PyStr}
    (undertaken : Undertaken host platform offers expected)
    (attended : Attended host expected state finals) (known : expected goods)
    (found : state.sessions[index]? = some stored)
    (standing : stored.session.phase = .inside block .commit)
    (stepped : storedStep host platform state (.storage index now temp none) = some next) :
    LandsOnce goods.offer state (.storage index now temp none) next finals finals := by
  have live : stored.Live := by
    intro outcome closed
    cases standing.symm.trans closed
  obtain ⟨own, expects, same, stands⟩ := attended.transfer found live
  have listed := (attended.anchored stored (List.mem_of_getElem? found)).offered block
    (by rw [ReceiveSession.fileBlock?, standing])
  rw [same] at listed
  have accepted : sanitizeFilename platform block.offered.name = .ok block.offered.name :=
    (undertaken.offerable own expects).named _ (List.mem_of_getElem? listed)
  have path := @partialOf_eq own stored block same
  simp only [Stands, standing] at stands
  simp only [storedStep, found, StoredSession.call, StoredSession.commitCall, standing, path,
    Option.bind_eq_bind, Option.bind_some, Option.pure_def] at stepped
  generalize began : stored.commit = commit at stands stepped
  cases stands with
  | unbegun filled verified =>
      simp only [Option.getD_none, CommitCall.start, accepted, CommitCall.step, CommitCall.moveTo,
        Bool.false_eq_true, if_false] at stepped
      split at stepped <;> cases stepped <;>
        exact lands_still undertaken attended known found live rfl (fun _ _ => rfl)
          (by simp only [landing, found, standing, began])
          (fun _ file _ => by simp only [StoredSession.landed, standing, began])
  | unlinked filled verified early =>
      obtain ⟨attempt, rfl | rfl⟩ := early
      · simp only [Option.getD_some, CommitCall.step, CommitCall.moveTo, Bool.false_eq_true,
          if_false] at stepped
        split at stepped <;> cases stepped <;>
          exact lands_still undertaken attended known found live rfl (fun _ _ => rfl)
            (by simp only [landing, found, standing, began])
            (fun _ file _ => by simp only [StoredSession.landed, standing, began])
      · simp only [Option.getD_some, CommitCall.step, CommitCall.moveTo] at stepped
        obtain ⟨inode, placed⟩ := filled.placed
        split at stepped
        · next linked link =>
            cases stepped
            have names : landing state (.storage index now temp none) =
                some (stored.transferId, block.offered.fileId) := by
              simp only [landing, found, standing, began, link]
            have before : stored.landed = none := by
              simp only [StoredSession.landed, standing, began]
            refine lands_session undertaken attended known found live rfl (fun _ _ => rfl)
              (fun name named => by cases names.symm.trans named; rfl) fun ours file member => ?_
            cases undertaken.apart own goods expects known
              (congrArg TransferOffer.transferId (same.symm.trans ours))
            by_cases equal : file = block.offered
            · refine .inl ⟨?_, equal ▸ filled.unfinished, ?_⟩
              · rw [names, equal, ← same]
                rfl
              · rw [before]
                refine ⟨(by intro impossible; cases impossible), ?_⟩
                rw [equal]
                simp only [StoredSession.landed, standing]
            · refine .inr ⟨fun named => equal ?_, ?_⟩
              · have ids := congrArg Prod.snd (Option.some.inj (names.symm.trans named))
                exact (List.inj_on_of_nodup_map (undertaken.offerable goods known).distinct
                  (List.mem_of_getElem? listed) member ids).symm
              · have other : block.offered ≠ file := Ne.symm equal
                simp only [StoredSession.landed, standing, began, Option.some.injEq, other,
                  reduceCtorEq]
        · next taken =>
            cases stepped
            exact lands_still undertaken attended known found live rfl (fun _ _ => rfl)
              (by simp only [landing, found, standing, began, taken])
              (fun _ file _ => by simp only [StoredSession.landed, standing, began])
        · next missing => exact absurd missing (link_found placed)
  | linked unrecorded =>
      cases stepped
      exact lands_still undertaken attended known found live rfl (fun _ _ => rfl)
        (by simp only [landing, found, standing, began])
        (fun _ file _ => by
          simp only [StoredSession.landed, standing, began, Option.getD_some, CommitCall.moveTo])
  | @ended _ name unrecorded =>
      have follows := @step_inside state.registry state.registry stored.session
        ⟨now, .committed (host.shown (received name))⟩ block .commit _ standing rfl
      simp only [Option.getD_some, Option.bind_some, follows] at stepped
      cases stepped
      exact lands_still undertaken attended known found live rfl (fun _ _ => rfl)
        (by simp only [landing, found, standing, began])
        (fun _ file _ => by
          simp only [StoredSession.landed, standing, began, ReceiveSession.moveTo])

theorem storeCall_returns {disk after' : Disk FilePath} {answer : Option ReceiveAnswer}
    (called : stored.storeCall host registry disk = some (after', after, answer)) :
    after.session = stored.session ∧ after.commit = stored.commit ∧
      ∃ returned, answer = some returned := by
  unfold StoredSession.storeCall at called
  split at called
  · split at called <;> cases called <;> exact ⟨rfl, rfl, _, rfl⟩
  · split at called
    · cases called
    · split at called <;> cases called <;> exact ⟨rfl, rfl, _, rfl⟩
  · obtain ⟨handle, _, same⟩ := Option.map_eq_some_iff.mp called
    cases same
    exact ⟨rfl, rfl, _, rfl⟩
  · split at called <;> cases called <;> exact ⟨rfl, rfl, _, rfl⟩
  · split at called <;> cases called <;> exact ⟨rfl, rfl, _, rfl⟩
  · cases called
    exact ⟨rfl, rfl, _, rfl⟩
  · cases called

/-- Outside a commit every call to the disk returns at once. -/
theorem storage_returns {now : Time} {temp : PyStr} {failure : Option Raised}
    (found : state.sessions[index]? = some stored)
    (uncommitted : ∀ block, stored.session.phase ≠ .inside block .commit)
    (stepped : storedStep host platform state (.storage index now temp failure) = some next) :
    ∃ disk handle answer registry session,
      stored.session.step state.registry ⟨now, answer⟩ = some (registry, session) ∧
        next = ⟨registry, disk, state.sessions.set index ⟨session, handle, stored.commit⟩⟩ := by
  simp only [storedStep, found, Option.bind_eq_bind, Option.bind_some,
    Option.bind_eq_some_iff] at stepped
  obtain ⟨⟨disk, after, answer⟩, called, rest⟩ := stepped
  have returns : after.session = stored.session ∧ after.commit = stored.commit ∧
      ∃ returned, answer = some returned := by
    unfold StoredSession.call at called
    split at called
    · next block standing => exact absurd standing (uncommitted block)
    · exact storeCall_returns called
    · split at called
      · cases called
        exact ⟨rfl, rfl, _, rfl⟩
      · cases called
  obtain ⟨sameSession, sameCommit, returned, rfl⟩ := returns
  simp only [Option.bind_eq_some_iff] at rest
  obtain ⟨⟨registry, session⟩, sessionStepped, finished⟩ := rest
  cases finished
  rw [sameSession] at sessionStepped
  exact ⟨disk, after.handle, returned, registry, session, sessionStepped, by rw [← sameCommit]⟩

/-- One step of a receiver, told by the files it names. -/
theorem Attended.lands {changed : Finals}
    (undertaken : Undertaken host platform offers expected)
    (attended : Attended host expected state finals) (known : expected goods)
    (attends : Attends platform offers state label)
    (unsevered : Unsevered goods.offer state label)
    (stepped : storedStep host platform state label = some next)
    (moved : Moved host expected state label next finals changed) :
    LandsOnce goods.offer state label next finals changed := by
  have others {stored : StoredSession} {paths : IncomingFile → Option FilePath} (transferId : PyStr)
      (apart : transferId ≠ stored.transferId) :
      finals.with stored.transferId paths transferId = finals transferId := if_neg apart
  cases label with
  | accept peerIp peerDeviceId payload =>
      cases moved.records
      simp only [storedStep] at stepped
      split at stepped
      · cases stepped
      · cases stepped
        intro file member
        refine .inr ⟨(by intro impossible; cases impossible), or_congr Iff.rfl ⟨?_, ?_⟩⟩
        · rintro ⟨stored, among, same, lands⟩
          exact ⟨stored, List.mem_append_left _ among, same, lands⟩
        · rintro ⟨stored, among, same, lands⟩
          cases List.mem_append.mp among with
          | inl old => exact ⟨stored, old, same, lands⟩
          | inr new =>
              cases List.mem_singleton.mp new
              cases lands
  | restart =>
      cases moved.records
      cases stepped
      intro file member
      refine .inr ⟨(by intro impossible; cases impossible), or_congr Iff.rfl ⟨?_, ?_⟩⟩
      · rintro ⟨stored, among, same, lands⟩
        cases (unsevered stored among same).symm.trans lands
      · rintro ⟨stored, among, _⟩
        cases among
  | network index event =>
      cases moved.records
      cases storedStep_cases stepped with
      | @told _ _ stored registry session found quiet sessionStepped =>
          have live := live_of_step sessionStepped
          have uncommitted (block : FileBlock) : stored.session.phase ≠ .inside block .commit := by
            intro standing
            rw [standing] at quiet
            cases quiet
          have unmarked (block : FileBlock) (finalPath : FinalPath) :
              stored.session.phase ≠ .inside block (.markCompleted finalPath) := by
            intro standing
            rw [standing] at quiet
            cases quiet
          have member := List.mem_of_getElem? found
          have transition := ReceiveSession.step_transition sessionStepped
          obtain ⟨_, _, origin⟩ := transition.anchored attended.keyed (attended.anchored stored member)
          refine lands_still undertaken attended known found live origin (fun _ _ => rfl) rfl
            fun ours file member => ?_
          rw [landed_none uncommitted unmarked,
            landed_after transition uncommitted
              (attended.idle stored (List.mem_of_getElem? found) uncommitted)]
  | storage index now temp failure =>
      obtain ⟨stored, found, _⟩ := storage_cases stepped
      have member := List.mem_of_getElem? found
      have calm := attended.idle stored member
      by_cases committing : ∃ block, stored.session.phase = .inside block .commit
      · obtain ⟨block, standing⟩ := committing
        cases attends stored block found standing
        have same : changed = finals := by
          cases moved.records with
          | silent quiet => rfl
          | marked there marks =>
              cases found.symm.trans there
              cases standing.symm.trans marks
          | completed there completes =>
              cases found.symm.trans there
              cases standing.symm.trans completes
        rw [same]
        exact commit_lands undertaken attended known found standing stepped
      · have uncommitted (block : FileBlock) : stored.session.phase ≠ .inside block .commit :=
          fun standing => committing ⟨block, standing⟩
        obtain ⟨disk, handle, answer, registry, session, sessionStepped, rfl⟩ :=
          storage_returns found uncommitted stepped
        have live := live_of_step sessionStepped
        have transition := ReceiveSession.step_transition sessionStepped
        obtain ⟨_, _, origin⟩ := transition.anchored attended.keyed (attended.anchored stored member)
        have cleared : StoredSession.landed ⟨session, handle, stored.commit⟩ = none :=
          landed_of_none (calm uncommitted) fun block finalPath standing =>
            uncommitted block ((Transition.follows transition standing).2 finalPath rfl)
        have nothing : landing state (.storage index now temp failure) = none := by
          cases failure with
          | some error => rfl
          | none =>
              simp only [landing, found]
              split
              · next block call standing _ => exact absurd standing (uncommitted block)
              · rfl
        cases moved.records with
        | silent quiet =>
            refine lands_still undertaken attended known found live origin (fun _ _ => rfl) nothing
              fun ours file included => ?_
            rw [cleared, landed_none uncommitted]
            intro block finalPath standing
            cases (unsevered stored found ours).2 block finalPath standing
            exact (quiet index now temp stored rfl found).1 block finalPath standing
        | @marked _ _ _ marking block finalPath path _ there standing unfinished shown =>
            cases found.symm.trans there
            refine lands_still undertaken attended known found live origin others nothing
              fun ours file included => ?_
            have transferId : stored.transferId = goods.offer.transferId := by
              rw [← ours]
              rfl
            have named : stored.landed = some block.offered := by
              simp only [StoredSession.landed, standing]
            rw [cleared, named, transferId, Finals.with_same, withFinal]
            by_cases same : file = block.offered
            · simp [same]
            · simp [same, Ne.symm same]
        | completed there standing =>
            cases found.symm.trans there
            refine lands_still undertaken attended known found live origin others nothing
              fun ours => ?_
            exact absurd standing (unsevered stored found ours).1

/-! ## Runs -/

theorem StoreHost.Rests.unfinished {disk : Disk FilePath} {paths : IncomingFile → Option FilePath}
    (rests : host.Rests disk goods paths) (bare : StoreHost.Bare disk goods.offer.transferId)
    (file : IncomingFile) : paths file = none := by
  cases rests with
  | bare _ unfinished => exact unfinished file
  | left resting =>
      obtain ⟨octets, _, stored, _⟩ := resting.shelved.metadata
      obtain ⟨inode, placed, _⟩ := stored
      cases (bare _ rfl).symm.trans placed

/-- A file has been named as often as it is finished or about to be: once, or never. -/
def NamedOnce (offer : TransferOffer) (names : List (PyStr × PyStr)) (state : StoredReceiver)
    (finals : Finals) : Prop :=
  ∀ file ∈ offer.files,
    (names.count (offer.transferId, file.fileId) = 0 ∧ ¬ Landed offer state finals file) ∨
      (names.count (offer.transferId, file.fileId) = 1 ∧ Landed offer state finals file)

theorem NamedOnce.step {changed : Finals} {names : List (PyStr × PyStr)}
    (namedOnce : NamedOnce offer names state finals)
    (lands : LandsOnce offer state label next finals changed) :
    NamedOnce offer (names ++ (landing state label).toList) next changed := by
  intro file member
  rw [List.count_append]
  cases lands file member with
  | inl lands =>
      obtain ⟨names, unnamed, named⟩ := lands
      rw [names]
      cases namedOnce file member with
      | inl never => exact .inr ⟨by simp [never.1], named⟩
      | inr before => exact absurd before.2 unnamed
  | inr still =>
      obtain ⟨other, same⟩ := still
      have nothing : (landing state label).toList.count (offer.transferId, file.fileId) = 0 := by
        cases step : landing state label with
        | none => rfl
        | some name =>
            rw [step] at other
            rw [Option.toList_some, List.count_singleton, if_neg]
            simpa using fun equal => other (congrArg some equal)
      rw [nothing, Nat.add_zero, ← same]
      exact namedOnce file member

theorem NamedOnce.run (lawful : host.Lawful) (places : host.Places platform)
    (once : OfferedOnce platform offers) (offered : offers offer)
    (attended : Attended host (expecting offers fun _ _ _ => True) start finals)
    (begins : NamedOnce offer [] start finals)
    (run : Run (storedStep host platform)
      (fun state label => Attends platform offers state label ∧ Unsevered offer state label)
      start labels finish) :
    ∃ changed, Attended host (expecting offers fun _ _ _ => True) finish changed ∧
      NamedOnce offer (landings host platform start labels) finish changed := by
  induction run with
  | refl => exact ⟨finals, attended, begins⟩
  | @snoc middle finish labels label earlier admitted stepped ih =>
      obtain ⟨before, attended, namedOnce⟩ := ih
      obtain ⟨changed, moved⟩ :=
        attended.step lawful places once.plain admitted.1 brings_plain stepped
      have known : expecting offers (fun _ _ _ => True) offer.plain := ⟨offered, rfl⟩
      have lands := attended.lands once.plain known admitted.1 admitted.2 stepped moved
      refine ⟨changed, moved.attended, ?_⟩
      rw [landings_append earlier label]
      exact namedOnce.step lands

/-- Up to the end of its transfer a file is put into the receive directory at most once,
whatever frames arrive and however often its transfer is cut and taken up again, and
exactly once when the transfer is confirmed. -/
theorem files_land_once (lawful : host.Lawful) (places : host.Places platform)
    (once : OfferedOnce platform offers) (begins : Begins host offers start)
    (offered : offers offer) (bare : StoreHost.Bare start.disk offer.transferId)
    (run : Run (storedStep host platform)
      (fun state label => Attends platform offers state label ∧ Unsevered offer state label)
      start labels finish) :
    (∀ file ∈ offer.files,
      (landings host platform start labels).count (offer.transferId, file.fileId) ≤ 1) ∧
    ∀ stored ∈ finish.sessions, stored.session.origin.offer = offer →
      stored.session.phase = .sessionComplete → ∀ file ∈ offer.files,
        (landings host platform start labels).count (offer.transferId, file.fileId) = 1 := by
  obtain ⟨initial, attended⟩ := begins.run lawful places once .refl
  have rests : host.Rests start.disk offer.plain (initial offer.transferId) := by
    refine (attended.tended offer.plain ⟨offered, rfl⟩).rests fun stored member => ?_
    rw [begins.sessions] at member
    cases member
  have fresh : NamedOnce offer [] start initial := by
    intro file member
    refine .inl ⟨rfl, fun landed => ?_⟩
    cases landed with
    | inl finished => exact finished (rests.unfinished bare file)
    | inr named =>
        obtain ⟨stored, among, _⟩ := named
        rw [begins.sessions] at among
        cases among
  obtain ⟨finals, attended, namedOnce⟩ := fresh.run lawful places once offered attended run
  refine ⟨fun file member => ?_, fun stored member ours standing file included => ?_⟩
  · cases namedOnce file member with
    | inl never => exact never.1.symm ▸ Nat.zero_le 1
    | inr named => exact Nat.le_of_eq named.1
  · obtain ⟨index, found⟩ := List.mem_iff_getElem?.mp member
    obtain ⟨goods, known, same, stands⟩ :=
      attended.transfer found fun outcome closed => (by cases standing.symm.trans closed)
    simp only [Stands, standing] at stands
    have equal := same.symm.trans ours
    obtain ⟨path, final⟩ := stands.2.all (equal ▸ included : file ∈ goods.offer.files)
    rw [equal] at final
    cases namedOnce file included with
    | inl never => exact absurd (.inl (by rw [final]; exact Option.some_ne_none path)) never.2
    | inr named => exact named.1

end

open StoreHost in
/-- Each of two files is given its name once when their transfer is confirmed. -/
theorem confirmed_pair_lands : ∃ labels finish stored,
    Run (storedStep shelfHost asciiPlatform) (fun state label =>
        Attends asciiPlatform (· = pairOffer) state label ∧ Unsevered pairOffer state label)
      emptyReceiver labels finish ∧
    stored ∈ finish.sessions ∧ stored.session.phase = .sessionComplete ∧
    ∀ file ∈ pairOffer.files, (landings shelfHost asciiPlatform emptyReceiver labels).count
      (pairOffer.transferId, file.fileId) = 1 := by
  have allows : Allows [] pairOffer pairSource fun state label =>
      Attends asciiPlatform (· = pairOffer) state label ∧ Unsevered pairOffer state label := by
    constructor
    · intro registry disk stored event answers sends
      exact ⟨trivial, trivial⟩
    · intro registry disk stored now temp going
      refine ⟨fun _ _ _ _ => rfl, fun other found _ => ⟨?_, fun _ _ _ => rfl⟩⟩
      cases beside_sessions.symm.trans found
      exact going
  obtain ⟨next, after, _, moved, last, phase, steady, confirms⟩ := pair_confirms allows
  obtain ⟨labels, run⟩ := pair_run Disk.empty ⟨pair_accepts _, trivial⟩ confirms
  have lands := files_land_once shelfHost_lawful (shelfHost_places _) pair_once pair_begins rfl
    (empty_bare _) run
  exact ⟨labels, _, _, run, List.mem_singleton_self _, phase,
    lands.2 _ (List.mem_singleton_self _) steady.same phase⟩

end DirectTransfer
