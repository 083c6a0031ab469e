import DirectTransfer.Core.LinkedSender
import DirectTransfer.Core.StoredDelivery

/-! The receiver's side of its connections: a session takes the octets that follow the
header it has checked, and what it confirms has arrived. -/

set_option autoImplicit false

namespace DirectTransfer

open Library

/-! ## Headers -/

/-- The header a session has checked is the frame it has read last. -/
def Headed (last : Option WireFrame) (registry : Registry) (block : FileBlock) : Prop :=
  ∃ payload info, last = some (.control payload) ∧
    registry.transfers[block.record]? = some info ∧
    payload.field "file_id" = .str block.offered.fileId ∧
    payload.field "offset" = .int info.bytesTransferred

section

variable {host : StoreHost} {platform : Platform} {expected : Consignment → Prop}
  {state next : StoredReceiver} {finals : Finals} {registry : Registry} {label : StoredLabel}
  {session moved : ReceiveSession} {stored after : StoredSession} {block : FileBlock}
  {event : ReceiveEvent} {index chunk declared : Nat} {last : Option WireFrame}

theorem Headed.keeps (headed : Headed last registry block) {later : Registry}
    (keeps : KeepsCursor block.record registry later) : Headed last later block := by
  obtain ⟨payload, info, same, found, named, place⟩ := headed
  obtain ⟨new, again, counted⟩ := keeps info found
  exact ⟨payload, new, same, again, named, counted ▸ place⟩

theorem checkChunk_headed {payload : Json}
    (checked : session.checkChunk registry block index payload = .ok declared) :
    Headed (some (.control payload)) registry block := by
  unfold ReceiveSession.checkChunk at checked
  split at checked
  · split at checked <;> cases checked
  · split at checked
    · cases checked
    · next info found =>
        refine ⟨payload, info, rfl, found, ?_⟩
        unfold validateChunkControl at checked
        simp only [bind, Except.bind, pure, Except.pure, throw, throwThe,
          MonadExceptOf.throw] at checked
        repeat' split at checked
        all_goals try cases checked
        next offset _ _ place _ agrees =>
          simp only [not_or, not_not] at agrees
          refine ⟨agrees.2.1, ?_⟩
          rw [place, agrees.2.2.2.2.2.1]

/-- A session comes to the octets of a chunk by its header. -/
theorem Transition.headed {next : Registry}
    (transition : ReceiveSession.Transition registry session event next moved)
    (standing : moved.phase = .inside block (.chunkData chunk declared)) :
    next = registry ∧ session.phase.stores = false ∧
      ∃ payload, event.answer = .control payload ∧ Headed (some (.control payload)) registry block := by
  cases transition with
  | header stands answer checked =>
      cases standing
      exact ⟨rfl, by rw [stands]; rfl, _, answer, checkChunk_headed checked⟩
  | stateSent stands answer =>
      unfold ReceiveSession.nextFile ReceiveSession.moveTo at standing
      split at standing <;> cases standing
  | notified stands answer =>
      unfold ReceiveSession.nextFile ReceiveSession.moveTo at standing
      split at standing <;> cases standing
  | opened stands answer found =>
      unfold ReceiveSession.chunkLoop ReceiveSession.moveTo at standing
      split at standing
      · have shown := (ReceivePhase.inside.inj standing).2
        split at shown <;> cases shown
      · cases standing
  | progressed stands answer =>
      unfold ReceiveSession.chunkLoop ReceiveSession.moveTo at standing
      split at standing
      · have shown := (ReceivePhase.inside.inj standing).2
        split at shown <;> cases shown
      · cases standing
  | hashed stands answer =>
      have shown := (ReceivePhase.inside.inj standing).2
      split at shown <;> cases shown
  | absent stands beyond => cases stands.symm.trans standing
  | _ => cases standing

/-- A session at the octets of a chunk was there before the step, with its record as it is
now, or has just read their header. -/
theorem StoredMove.headed (attended : Attended host expected state finals)
    (move : StoredMove host platform state label next)
    (found : next.sessions[index]? = some after)
    (standing : after.session.phase = .inside block (.chunkData chunk declared)) :
    (state.sessions[index]? = some after ∧ (∀ event, label ≠ .network index event) ∧
        KeepsCursor block.record state.registry next.registry) ∨
      ∃ now payload, label = .network index ⟨now, .control payload⟩ ∧
        Headed (some (.control payload)) next.registry block := by
  have live : after.Live := by
    intro outcome ends
    cases standing.symm.trans ends
  have elsewhere {place : Nat} {moved : StoredSession} (apart : index ≠ place)
      (there : (state.sessions.set place moved)[index]? = some after) :
      state.sessions[index]? = some after := by
    rw [List.getElem?_set_ne (Ne.symm apart)] at there
    exact there
  have foreign {place : Nat} {other : StoredSession} {event : ReceiveEvent} {registry : Registry}
      {session : ReceiveSession} (apart : index ≠ place) (before : state.sessions[index]? = some after)
      (there : state.sessions[place]? = some other)
      (stepped : other.session.step state.registry event = some (registry, session)) :
      KeepsCursor block.record state.registry registry := by
    have lives : other.Live := by
      intro outcome ends
      simp [ReceiveSession.step, ReceiveSession.advance, ends] at stepped
    obtain ⟨evolves, _⟩ := (ReceiveSession.step_transition stepped).anchored attended.keyed
      (attended.anchored other (List.mem_of_getElem? there))
    refine keepsCursor_of_foreign evolves
      (fun equal => apart (attended.single index place after other before there live lives equal))
      fun info record => ?_
    obtain ⟨held, here, owner, _⟩ :=
      (attended.anchored after (List.mem_of_getElem? before)).anchored block
        (by rw [ReceiveSession.fileBlock?, standing])
    cases here.symm.trans record
    exact owner
  have same : KeepsCursor block.record state.registry state.registry :=
    fun info record => ⟨info, record, rfl⟩
  cases move with
  | accepted valid =>
      dsimp only at found
      rw [List.getElem?_append] at found
      split at found
      · exact .inl ⟨found, fun event equal => (by cases equal), same⟩
      · cases List.mem_singleton.mp (List.mem_of_getElem? found)
        cases standing
  | @told place event stored registry session there quiet stepped =>
      by_cases here : index = place
      · subst here
        dsimp only at found
        rw [List.getElem?_set_self (List.getElem?_eq_some_iff.mp there).1] at found
        cases found
        obtain ⟨rfl, _, payload, answer, headed⟩ :=
          Transition.headed (ReceiveSession.step_transition stepped) standing
        obtain ⟨now, reply⟩ := event
        dsimp only at answer
        subst answer
        exact .inr ⟨now, payload, rfl, headed⟩
      · have before := elsewhere here found
        exact .inl ⟨before, fun other equal => here (by cases equal; rfl),
          foreign here before there stepped⟩
  | @waits place now temp failure stored moved disk there called =>
      by_cases here : index = place
      · subst here
        dsimp only at found
        rw [List.getElem?_set_self (List.getElem?_eq_some_iff.mp there).1] at found
        cases found
        obtain ⟨stores, unchanged⟩ := call_stores called
        rw [← unchanged, standing] at stores
        cases stores
      · exact .inl ⟨elsewhere here found, fun other equal => (by cases equal), same⟩
  | @returned place now temp failure stored moved disk answer registry session there called stepped =>
      obtain ⟨stores, unchanged⟩ := call_stores called
      by_cases here : index = place
      · subst here
        dsimp only at found
        rw [List.getElem?_set_self (List.getElem?_eq_some_iff.mp there).1] at found
        cases found
        obtain ⟨_, quiet, _⟩ := Transition.headed (ReceiveSession.step_transition stepped) standing
        rw [unchanged, stores] at quiet
        cases quiet
      · have before := elsewhere here found
        rw [unchanged] at stepped
        exact .inl ⟨before, fun other equal => (by cases equal), foreign here before there stepped⟩
  | restarted => cases found

end

end DirectTransfer
