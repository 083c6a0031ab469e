import DirectTransfer.Core.RetriedSessions

/-! Runs of sessions of one offer against one receiver process: the session that comes to its
end has all files in the receive directory, and no session after it comes to a file. -/

set_option autoImplicit false

namespace DirectTransfer

open Library

/-! ## The end -/

/-- The receive directory has gained the files of an offer, each with the sender's octets,
and nothing else. -/
structure ExactGain (offer : TransferOffer) (source : IncomingFile → Bytes)
    (start finish : Disk FilePath) : Prop where
  kept : ∀ path, path.directory = .received → start.nodes.get path ≠ none →
    finish.nodes.get path = start.nodes.get path
  gained : ∃ placed : IncomingFile → FilePath,
    (∀ file ∈ offer.files, Gain start finish (placed file) ∧
      finish.read (placed file) = some (source file)) ∧
    (∀ one ∈ offer.files, ∀ other ∈ offer.files, placed one = placed other → one = other) ∧
    ∀ path, Gain start finish path → ∃ file ∈ offer.files, placed file = path

/-- A session that has come to no call of a file's block, or has failed before it did. -/
def ReceivePhase.opening : ReceivePhase → Bool
  | .resumeQuery | .prepare | .resumeState _ | .fileStart _ _ | .created _ | .ended (.error _) => true
  | _ => false

/-- A receiver that has closed the transfer: its records are complete and nothing of it is left
beside the receive directory. -/
structure Concluded (host : StoreHost) (offer : TransferOffer) (source : IncomingFile → Bytes)
    (count : Nat) (state : StoredReceiver) (finals : Finals) : Prop where
  attended : Attended host (expecting (· = offer) (fromSource offer source)) state finals
  unfinished : ∀ file, finals offer.transferId file = none
  complete : CompleteTo state.registry offer offer.files.length
  closed : ∃ (index : Nat) (stored : StoredSession), state.sessions[index]? = some stored ∧
    stored.session.phase = .ended (.ok ())
  bound : count ≤ state.sessions.length
  past : ∀ index stored, index < count → state.sessions[index]? = some stored → ¬ stored.Live
  opening : ∀ index stored, count ≤ index → state.sessions[index]? = some stored →
    stored.session.phase.opening = true

section

variable {host : StoreHost} {platform : Platform} {offer : TransferOffer}
  {source : IncomingFile → Bytes} {start : Disk FilePath} {state next : StoredReceiver}
  {finals changed : Finals} {stored after : StoredSession} {index : Nat} {registry : Registry}
  {session moved : ReceiveSession} {event : ReceiveEvent} {disk : Disk FilePath}

theorem Gained.exact {disk after : Disk FilePath} {finals : IncomingFile → Option FilePath}
    (gained : Gained start offer disk finals none)
    (resting : host.Resting disk (sourced offer source) finals)
    (passed : Passed offer finals offer.files.length)
    (sized : ∀ file ∈ offer.files, (source file).length = file.size)
    (frame : Disk.Frame (·.directory = .session offer.transferId) disk after) :
    ExactGain offer source start after := by
  have later := gained.still fun path place => frame.nodes path fun within => by
    cases within.symm.trans place
  refine ⟨later.kept, fun file => (finals file).getD (received []), fun file member => ?_,
    fun one member other included equal => ?_, fun path gain => ?_⟩
  · obtain ⟨path, final⟩ := passed.all member
    dsimp only
    rw [final, Option.getD_some]
    obtain ⟨_, genuine⟩ := resting.ended file member path final
    have kept := resting.shelved.kept file member path final
    obtain ⟨octets, read, length, _⟩ := StoreHost.verifies_iff.mp kept.verified
    have whole := (genuine octets read).eq_of_length (length.trans (sized file member).symm)
    refine ⟨later.recorded file member path final, ?_⟩
    rw [frame.read (fun within => kept.outside within) kept.direct, read, whole]
  · obtain ⟨path, final⟩ := passed.all member
    obtain ⟨path', final'⟩ := passed.all included
    dsimp only at equal
    rw [final, final', Option.getD_some, Option.getD_some] at equal
    exact later.apart one member other included path final (final'.trans (congrArg some equal.symm))
  · cases later.only path gain with
    | inl known =>
        obtain ⟨file, member, final⟩ := known
        exact ⟨file, member, by dsimp only; rw [final, Option.getD_some]⟩
    | inr impossible => cases impossible

/-- The last call of a session. -/
theorem Retrying.completes {now : Time} {temp : PyStr}
    (retrying : Retrying host offer source start state finals)
    (lawful : host.Lawful) (places : host.Places platform)
    (once : OfferedOnce platform (· = offer))
    (sized : ∀ file ∈ offer.files, (source file).length = file.size)
    (found : state.sessions[index]? = some stored)
    (standing : stored.session.phase = .completeSession)
    (stepped : storedStep host platform state (.storage index now temp none) = some next) :
    ExactGain offer source start next.disk ∧
      (∃ after, next.sessions[index]? = some after ∧ after.session.phase = .ended (.ok ())) ∧
      ∃ finals, Concluded host offer source next.sessions.length next finals := by
  have undertaken := @undertaken_fromSource host platform offer source once
  obtain ⟨changed, left⟩ := retrying.attended.storage lawful places undertaken stepped
  have member := List.mem_of_getElem? found
  have live : stored.Live := by
    intro outcome closed
    cases standing.symm.trans closed
  have steady := retrying.steady member live
  have running := retrying.running stored member live
  have gained := retrying.placing member live
  obtain ⟨called, follows, _, frame⟩ := @Stands.complete host platform _ _ _ _ _
    (fun _ _ _ _ _ _ => List.nil_prefix) steady.stands standing steady.same
  obtain ⟨registry, session, again, rfl⟩ := returned_of_called found (called temp) stepped
  cases (follows now).symm.trans again
  have bound := (List.getElem?_eq_some_iff.mp found).1
  have idle : stored.placing = none := by
    simp only [StoredSession.placing, standing]
  rw [idle] at gained
  have stands := steady.stands
  simp only [Stands, standing] at stands
  obtain ⟨resting, passed⟩ := stands
  refine ⟨gained.exact resting passed sized frame,
    ⟨_, List.getElem?_set_self bound, rfl⟩, changed, left.attended, ?unfinished, ?complete,
    ⟨index, _, List.getElem?_set_self bound, rfl⟩, Nat.le_refl _, ?past, ?opening⟩
  case unfinished =>
    have records := left.records
    cases records with
    | completed there _ =>
        cases found.symm.trans there
        have ours : stored.transferId = offer.transferId :=
          congrArg TransferOffer.transferId (retrying.attended.ours member)
        rw [ours, Finals.with_same]
        exact fun _ => rfl
    | silent quiet => exact absurd standing (quiet index now temp stored rfl found).2
    | marked there marks =>
        cases found.symm.trans there
        cases standing.symm.trans marks
  case complete =>
    have complete := running.complete
    rw [standing] at complete
    exact complete
  case past =>
    intro place other _ there
    by_cases here : place = index
    · rw [here, List.getElem?_set_self bound] at there
      cases there
      exact not_live_of_ended rfl
    · rw [List.getElem?_set_ne (Ne.symm here)] at there
      exact retrying.attended.alone found live there here
  case opening =>
    intro place other beyond there
    have within := (List.getElem?_eq_some_iff.mp there).1
    exact absurd within (Nat.not_lt.mpr beyond)

end

/-! ## After the end -/

section

variable {registry middle next : Registry} {session after : ReceiveSession} {event : ReceiveEvent}
  {offer : TransferOffer} {block : FileBlock} {status : TransferStatus} {message : Option PyStr}
  {now : Time}

/-- A complete record takes no other status. -/
theorem Recorded.Complete.stays (complete : Recorded.Complete registry offer block.offered)
    (keyed : registry.Keyed) (anchored : session.Anchored registry)
    (inside : session.fileBlock? = some block) (same : session.origin.offer = offer)
    (statuses : ReceiveSession.SameStatuses registry middle)
    (moved : middle.setStatus block.record status message now = .ok next) : status = .complete := by
  obtain ⟨record, info, listed, found, finished⟩ := complete
  obtain ⟨own, here, transfer, named⟩ := anchored.anchored block inside
  obtain ⟨fileId, shown, indexed⟩ := keyed.keyed _ own here
  rw [named] at shown
  cases shown
  rw [transfer, ReceiveSession.transferId, same, listed] at indexed
  cases indexed
  rcases Registry.setStatus_cases moved with ⟨none, _⟩ | ⟨new, there, reaches, _⟩
  · have lengths := congrArg List.length statuses
    rw [List.length_map, List.length_map] at lengths
    have bound := (List.getElem?_eq_some_iff.mp found).1
    have beyond := List.getElem?_eq_none_iff.mp none
    omega
  · obtain ⟨old, before, equal⟩ := statuses.find there
    cases before.symm.trans found
    rw [← equal, finished] at reaches
    rcases reaches with kept | allowed
    · exact kept.symm
    · cases allowed

open ReceiveSession in
/-- A session of a transfer whose records are complete comes to no file. -/
theorem opening_transition (opening : session.phase.opening = true) (keyed : registry.Keyed)
    (anchored : session.Anchored registry) (same : session.origin.offer = offer)
    (nonempty : 0 < offer.files.length) (complete : CompleteTo registry offer offer.files.length)
    (untold : ∀ block, session.phase = .created block →
      (block.states.get block.offered.fileId).bind ResumeFileState.finalPath = none)
    (transition : Transition registry session event next after) : after.phase.opening = true := by
  have recorded {block : FileBlock} (inside : session.fileBlock? = some block) :
      Recorded.Complete registry offer block.offered := by
    have listed := anchored.offered block inside
    rw [same] at listed
    exact complete _ _ (List.getElem?_eq_some_iff.mp listed).1 listed
  cases transition with
  | queried | prepared | began | refused | escaped => rfl
  | absent => exact opening
  | stateSent =>
      unfold nextFile moveTo
      rw [same, if_pos nonempty]
      rfl
  | known standing answer found => cases (untold _ standing).symm.trans found
  | @entered block _ standing answer unknown moved =>
      have inside : session.fileBlock? = some block := by rw [fileBlock?, standing]
      cases (recorded inside).stays keyed anchored inside same rfl moved
  | @handled _ _ middle _ _ _ inside raises verified handler moved =>
      have within := block?_fileBlock? inside
      have statuses : SameStatuses registry middle := by
        rcases verified with rfl | ⟨finalPath, rfl⟩
        · rfl
        · exact sameStatuses_verify
      exact absurd ((recorded within).stays keyed anchored within same statuses moved)
        (handlerStatus_incomplete handler)
  | opened standing | header standing | data standing | written standing | progressed standing
  | finished standing | hashed standing | committed standing | marked standing | recognised standing
  | resultSent standing | notified standing | fin standing | confirmed standing | closed standing
  | settled standing =>
      rw [standing] at opening
      cases opening

end

section

variable {host : StoreHost} {platform : Platform} {offer : TransferOffer}
  {source : IncomingFile → Bytes} {count index : Nat} {state next : StoredReceiver}
  {finals changed : Finals} {stored : StoredSession} {registry : Registry}
  {session moved : ReceiveSession} {event : ReceiveEvent} {disk : Disk FilePath}

/-- One session goes on, or fails. -/
theorem Concluded.goes {label : StoredLabel} {handle : Option OpenPartial} {commit : Option CommitCall}
    (concluded : Concluded host offer source count state finals) (nonempty : 0 < offer.files.length)
    (found : state.sessions[index]? = some stored) (live : stored.Live)
    (left : Moved host (expecting (· = offer) (fromSource offer source)) state label
      ⟨registry, disk, state.sessions.set index ⟨moved, handle, commit⟩⟩ finals finals)
    (transition : ReceiveSession.Transition state.registry stored.session event registry moved) :
    Concluded host offer source count
      ⟨registry, disk, state.sessions.set index ⟨moved, handle, commit⟩⟩ finals := by
  have attended := concluded.attended
  have member := List.mem_of_getElem? found
  have same := attended.ours member
  have bound := (List.getElem?_eq_some_iff.mp found).1
  have beyond : count ≤ index := by
    by_contra before
    exact concluded.past index stored (Nat.lt_of_not_le before) found live
  obtain ⟨evolves, _, _⟩ := transition.anchored attended.keyed (attended.anchored stored member)
  have untold : ∀ block, stored.session.phase = .created block →
      (block.states.get block.offered.fileId).bind ResumeFileState.finalPath = none := by
    intro block standing
    have stands := (attended.tended _ expecting_sourced).stands stored member live
      (congrArg TransferOffer.transferId same)
    simp only [Stands, standing] at stands
    obtain ⟨_, working, awaits⟩ := stands
    rw [awaits _ _ (Nat.le_refl _) working.listed]
    exact Option.map_eq_none_iff.mpr (concluded.unfinished _)
  refine ⟨left.attended, concluded.unfinished,
    concluded.complete.evolves attended.keyed evolves, ?_, ?_, fun place other before there => ?_,
    fun place other after there => ?_⟩
  · obtain ⟨place, other, there, ended⟩ := concluded.closed
    refine ⟨place, other, ?_, ended⟩
    rw [List.getElem?_set_ne, there]
    intro here
    rw [here, there] at found
    cases found
    exact live _ ended
  · rw [List.length_set]
    exact concluded.bound
  · rw [List.getElem?_set_ne (by omega)] at there
    exact concluded.past place other before there
  · by_cases here : place = index
    · rw [here, List.getElem?_set_self bound] at there
      cases there
      exact opening_transition (concluded.opening index stored beyond found) attended.keyed
        (attended.anchored stored member) same nonempty concluded.complete untold transition
    · rw [List.getElem?_set_ne (Ne.symm here)] at there
      exact concluded.opening place other after there

theorem Concluded.accept {peerIp peerDeviceId : PyStr} {payload : Json}
    (concluded : Concluded host offer source count state finals)
    (once : OfferedOnce platform (· = offer))
    (retried : Retried platform offer source state (.accept peerIp peerDeviceId payload))
    (stepped : storedStep host platform state (.accept peerIp peerDeviceId payload) = some next) :
    Concluded host offer source count next finals := by
  obtain ⟨valid, past⟩ := retried
  have left := concluded.attended.accept (undertaken_fromSource once)
    (attends_accept valid rfl past) stepped
  obtain ⟨registry, disk, sessions⟩ := state
  rw [step_accepts valid] at stepped
  cases stepped
  have bound : count ≤ sessions.length := concluded.bound
  refine ⟨left.attended, concluded.unfinished, concluded.complete, ?_, ?_,
    fun place other before there => ?_, fun place other after there => ?_⟩
  · obtain ⟨place, other, there, ended⟩ := concluded.closed
    exact ⟨place, other, List.getElem?_append_left (List.getElem?_eq_some_iff.mp there).1 ▸ there,
      ended⟩
  · show count ≤ (sessions ++ [_]).length
    rw [List.length_append]
    exact bound.trans (Nat.le_add_right _ _)
  · change (sessions ++ [_])[place]? = some other at there
    rw [List.getElem?_append_left (before.trans_le bound)] at there
    exact concluded.past place other before there
  · change (sessions ++ [_])[place]? = some other at there
    by_cases old : place < sessions.length
    · rw [List.getElem?_append_left old] at there
      exact concluded.opening place other after there
    · rw [List.getElem?_append_right (Nat.le_of_not_lt old)] at there
      cases List.mem_singleton.mp (List.mem_of_getElem? there)
      rfl

theorem Concluded.at (concluded : Concluded host offer source count state finals)
    (found : state.sessions[index]? = some stored) (live : stored.Live) :
    stored.session.phase.opening = true := by
  refine concluded.opening index stored ?_ found
  by_contra before
  exact concluded.past index stored (Nat.lt_of_not_le before) found live

/-- A transfer that is closed stays closed. -/
theorem Concluded.step {label : StoredLabel} (lawful : host.Lawful) (places : host.Places platform)
    (once : OfferedOnce platform (· = offer)) (nonempty : 0 < offer.files.length)
    (concluded : Concluded host offer source count state finals)
    (retried : Retried platform offer source state label)
    (stepped : storedStep host platform state label = some next) :
    Concluded host offer source count next finals := by
  have undertaken := @undertaken_fromSource host platform offer source once
  cases label with
  | accept peerIp peerDeviceId payload => exact concluded.accept once retried stepped
  | network index event =>
      have unsent : FromSource offer source state (.network index event) := by
        intro stored found _ block chunk raw standing _
        have live : stored.Live := by
          intro outcome closed
          cases standing.symm.trans closed
        have opening := concluded.at found live
        rw [standing] at opening
        cases opening
      obtain ⟨changed, left⟩ := concluded.attended.network undertaken (brings_fromSource unsent) stepped
      have unchanged : changed = finals := by
        cases left.records
        rfl
      rw [unchanged] at left
      cases storedStep_cases stepped with
      | told found quiet sessionStepped =>
          exact concluded.goes nonempty found (live_of_step sessionStepped) left
            (ReceiveSession.step_transition sessionStepped)
  | storage index now temp failure =>
      cases retried
      obtain ⟨stored, found, stores⟩ := storage_cases stepped
      have live := live_of_stores stores
      have opening := concluded.at found live
      have standing : stored.session.phase = .prepare := by
        cases standing : stored.session.phase with
        | prepare => rfl
        | inside block call =>
            rw [standing] at opening
            cases opening
        | completeSession =>
            rw [standing] at opening
            cases opening
        | _ =>
            rw [standing] at stores
            cases stores
      obtain ⟨changed, left⟩ := concluded.attended.storage lawful places undertaken stepped
      have unchanged : changed = finals := by
        cases left.records with
        | silent quiet => rfl
        | marked there marks =>
            cases found.symm.trans there
            cases standing.symm.trans marks
        | completed there completes =>
            cases found.symm.trans there
            cases standing.symm.trans completes
      rw [unchanged] at left
      have member := List.mem_of_getElem? found
      have same := concluded.attended.ours member
      have stands := (concluded.attended.tended _ expecting_sourced).stands stored member live
        (congrArg TransferOffer.transferId same)
      obtain ⟨payload, valid⟩ := once.valid offer rfl
      obtain ⟨offerable, identified⟩ := validateOffer_offerable valid
      obtain ⟨disk, states, called, _⟩ := stands.prepare lawful offerable identified same standing
      obtain ⟨registry, session, again, rfl⟩ := returned_of_called found (called temp) stepped
      exact concluded.goes nonempty found live left (ReceiveSession.step_transition again)
  | restart => exact retried.elim

end

/-! ## Runs -/

section

variable {host : StoreHost} {platform : Platform} {offer : TransferOffer}
  {source : IncomingFile → Bytes} {start : Disk FilePath} {state next : StoredReceiver}
  {finals : Finals}

/-- A new process, with nothing of the transfer on its disk. -/
theorem Retrying.begin (bare : StoreHost.Bare start offer.transferId) (direct : Direct start) :
    Retrying host offer source start ⟨.empty, start, []⟩ fun _ _ => none where
  attended := .begin rfl rfl fun goods known => by
    obtain ⟨same, genuine⟩ := known
    refine .bare (by rw [same]; exact bare) (fun _ => rfl) fun file member => ?_
    rw [genuine]
    exact fun _ => List.nil_prefix
  direct := direct
  resumable := .empty
  running stored member := absurd member List.not_mem_nil
  unended stored member := absurd member List.not_mem_nil
  gained := ⟨none, ⟨fun stored member => absurd member List.not_mem_nil, fun _ => rfl⟩,
    .begin fun _ _ => rfl⟩

/-- A step of such sessions, but the last of one that comes to its end. -/
theorem Retrying.step {label : StoredLabel} (lawful : host.Lawful) (places : host.Places platform)
    (once : OfferedOnce platform (· = offer)) (honest : Honest host offer source)
    (retrying : Retrying host offer source start state finals)
    (retried : Retried platform offer source state label)
    (ongoing : ∀ index now temp failure stored, label = .storage index now temp failure →
      state.sessions[index]? = some stored → stored.session.phase ≠ .completeSession)
    (stepped : storedStep host platform state label = some next) :
    ∃ changed, Retrying host offer source start next changed := by
  cases label with
  | accept peerIp peerDeviceId payload => exact ⟨finals, retrying.accept once retried stepped⟩
  | network index event =>
      exact ⟨finals, retrying.network lawful places once honest.sized retried stepped⟩
  | storage index now temp failure =>
      cases retried
      exact retrying.storage lawful places once honest
        (fun stored found => ongoing index now temp none stored rfl found) stepped
  | restart => exact retried.elim

/-- Over a run of such sessions, either none has come to its end or the transfer is closed. -/
theorem Retrying.run {labels : List StoredLabel} {finish : StoredReceiver} (lawful : host.Lawful)
    (places : host.Places platform) (once : OfferedOnce platform (· = offer))
    (nonempty : 0 < offer.files.length) (honest : Honest host offer source)
    (retrying : Retrying host offer source start state finals)
    (run : Run (storedStep host platform) (Retried platform offer source) state labels finish) :
    (∃ finals, Retrying host offer source start finish finals) ∨
      ∃ count finals, Concluded host offer source count finish finals := by
  induction run with
  | refl => exact .inl ⟨finals, retrying⟩
  | @snoc middle _ _ label _ retried stepped ih =>
      rcases ih with ⟨finals, retrying⟩ | ⟨count, finals, concluded⟩
      · by_cases closing : ∃ index now temp failure stored,
            label = .storage index now temp failure ∧
              middle.sessions[index]? = some stored ∧ stored.session.phase = .completeSession
        · obtain ⟨index, now, temp, failure, stored, rfl, found, standing⟩ := closing
          cases retried
          obtain ⟨_, _, finals, concluded⟩ :=
            retrying.completes lawful places once honest.sized found standing stepped
          exact .inr ⟨_, finals, concluded⟩
        · refine .inl (retrying.step lawful places once honest retried ?_ stepped)
          intro index now temp failure stored equal found standing
          exact closing ⟨index, now, temp, failure, stored, equal, found, standing⟩
      · exact .inr ⟨count, finals, concluded.step lawful places once nonempty retried stepped⟩

end

end DirectTransfer
