import DirectTransfer.Core.SessionSlots

/-! No slot of either semaphore is lost or returned twice in any run in which the
server can start its handlers. Where a handler cannot be started, the accept loop
ends with its slot taken. -/

set_option autoImplicit false

namespace DirectTransfer

open Library SlotAccount

/-! ## The server -/

/-- The session the accepting thread is at is in the phase its place says. -/
inductive LoopAt (phases : Dict Nat SessionPhase) : AcceptLoop → Prop where
  | top : LoopAt phases .top
  | waiting : LoopAt phases .waiting
  | accepted {session : Nat} :
      phases.get session = some .accepted → LoopAt phases (.accepted session)
  | acquired {session : Nat} :
      phases.get session = some .acquired → LoopAt phases (.acquired session)
  | registered {session : Nat} :
      phases.get session = some .registered → LoopAt phases (.registered session)
  | stopped : LoopAt phases .stopped

/-- A session that the accepting thread has left behind may change its phase. -/
theorem LoopAt.keep {phases : Dict Nat SessionPhase} {loop : AcceptLoop} {session : Nat}
    {old : SessionPhase} (at_ : LoopAt phases loop) (found : phases.get session = some old)
    (left : old ≠ .accepted ∧ old ≠ .acquired ∧ old ≠ .registered) (new : SessionPhase) :
    LoopAt (phases.set session new) loop := by
  have other : ∀ current phase, phases.get current = some phase → phase ≠ old →
      (phases.set session new).get current = some phase := by
    intro current phase held different
    refine (Dict.get_set_ne ?_).trans held
    intro same
    rw [same, found] at held
    exact different (Option.some.inj held).symm
  cases at_ with
  | top => exact .top
  | waiting => exact .waiting
  | accepted held => exact .accepted (other _ _ held (Ne.symm left.1))
  | acquired held => exact .acquired (other _ _ held (Ne.symm left.2.1))
  | registered held => exact .registered (other _ _ held (Ne.symm left.2.2))
  | stopped => exact .stopped

/-- Every session has a number below `fresh` and has not failed to start. -/
structure KnownSessions (phases : Dict Nat SessionPhase) (fresh : Nat) : Prop where
  numbered : ∀ session, fresh ≤ session → phases.get session = none
  started : ∀ session, phases.get session ≠ some .unstarted

theorem KnownSessions.set {phases : Dict Nat SessionPhase} {fresh session : Nat} {old new : SessionPhase}
    (known : KnownSessions phases fresh) (found : phases.get session = some old) (starts : new ≠ .unstarted) :
    KnownSessions (phases.set session new) fresh := by
  constructor
  · intro other beyond
    have absent := known.numbered other beyond
    refine (Dict.get_set_ne ?_).trans absent
    intro same
    rw [same, found] at absent
    cases absent
  · intro other
    rw [Dict.get_set]
    split
    · intro failed
      exact starts (Option.some.inj failed)
    · exact known.started other

structure ServerBalanced (server : SlotServer) : Prop where
  balanced : Balanced maxConcurrentTransferSessions SessionPhase.holdsSlot SessionPhase.isReleased
    server.sessions
  connections : Enrols SessionPhase.isRegistered server.connections server.sessions.phases
  handlers : Enrols SessionPhase.isRegistered server.handlers server.sessions.phases
  known : KnownSessions server.sessions.phases server.fresh
  loop : LoopAt server.sessions.phases server.loop

namespace ServerBalanced

theorem init : ServerBalanced .init := by
  constructor
  · exact .start
  · exact .start
  · exact .start
  · exact ⟨fun _ _ => rfl, fun _ found => nomatch found⟩
  · exact .top

variable {server next : SlotServer} {session : Nat}

/-- The accepting thread goes on without touching a session. -/
theorem wanders (kept : ServerBalanced server) {loop : AcceptLoop} {running : Bool}
    (at_ : LoopAt server.sessions.phases loop) :
    ServerBalanced { server with loop, running } :=
  ⟨kept.balanced, kept.connections, kept.handlers, kept.known, at_⟩

theorem accepts (kept : ServerBalanced server) :
    ServerBalanced { server with
      loop := .accepted server.fresh
      sessions := server.sessions.move server.fresh .accepted
      fresh := server.fresh + 1 } := by
  have absent := kept.known.numbered server.fresh (Nat.le_refl _)
  constructor
  · exact kept.balanced.enter absent rfl
  · exact kept.connections.enter absent rfl
  · exact kept.handlers.enter absent rfl
  · constructor
    · intro other beyond
      have above : server.fresh < other := beyond
      have apart : other ≠ server.fresh := by omega
      exact (Dict.get_set_ne apart).trans (kept.known.numbered other (by omega))
    · intro other
      change (server.sessions.phases.set server.fresh .accepted).get other ≠ some .unstarted
      rw [Dict.get_set]
      split
      · intro failed
        cases failed
      · exact kept.known.started other
  · exact .accepted (Dict.get_set_self _ _ _)

/-- The slots are all taken, and the connection is closed. -/
theorem refuses (kept : ServerBalanced server) {loop : AcceptLoop}
    (found : server.sessions.phases.get session = some .accepted)
    (at_ : ∀ phases, LoopAt phases loop) :
    ServerBalanced { server with loop, sessions := server.sessions.move session .refused } := by
  constructor
  · exact kept.balanced.move found rfl rfl
  · exact kept.connections.move found rfl
  · exact kept.handlers.move found rfl
  · exact kept.known.set found (fun same => nomatch same)
  · exact at_ _

theorem acquires (kept : ServerBalanced server)
    (found : server.sessions.phases.get session = some .accepted)
    (left : server.sessions.free ≠ 0) :
    ServerBalanced { server with
      loop := .acquired session, sessions := server.sessions.take session .acquired } := by
  constructor
  · exact kept.balanced.take found rfl rfl rfl left
  · exact kept.connections.move found rfl
  · exact kept.handlers.move found rfl
  · exact kept.known.set found (fun same => nomatch same)
  · exact .acquired (Dict.get_set_self _ _ _)

theorem registers (kept : ServerBalanced server)
    (found : server.sessions.phases.get session = some .acquired) :
    ServerBalanced { server with
      loop := .registered session
      sessions := server.sessions.move session .registered
      connections := insert session server.connections
      handlers := insert session server.handlers } := by
  constructor
  · exact kept.balanced.move found rfl rfl
  · exact kept.connections.add rfl
  · exact kept.handlers.add rfl
  · exact kept.known.set found (fun same => nomatch same)
  · exact .registered (Dict.get_set_self _ _ _)

theorem starts (kept : ServerBalanced server)
    (found : server.sessions.phases.get session = some .registered) :
    ServerBalanced { server with
      loop := .top, sessions := server.sessions.move session .running } := by
  constructor
  · exact kept.balanced.move found rfl rfl
  · exact kept.connections.move found rfl
  · exact kept.handlers.move found rfl
  · exact kept.known.set found (fun same => nomatch same)
  · exact .top

theorem finishes (kept : ServerBalanced server)
    (found : server.sessions.phases.get session = some .running) :
    ServerBalanced { server with sessions := server.sessions.move session .ended } := by
  constructor
  · exact kept.balanced.move found rfl rfl
  · exact kept.connections.move found rfl
  · exact kept.handlers.move found rfl
  · exact kept.known.set found (fun same => nomatch same)
  · exact kept.loop.keep found (by decide) _

theorem unregisters (kept : ServerBalanced server)
    (found : server.sessions.phases.get session = some .ended) :
    ServerBalanced { server with
      sessions := server.sessions.move session .unregistered
      connections := server.connections.erase session
      handlers := server.handlers.erase session } := by
  constructor
  · exact kept.balanced.move found rfl rfl
  · exact kept.connections.remove rfl
  · exact kept.handlers.remove rfl
  · exact kept.known.set found (fun same => nomatch same)
  · exact kept.loop.keep found (by decide) _

theorem releases (kept : ServerBalanced server)
    (found : server.sessions.phases.get session = some .unregistered) :
    ServerBalanced { server with
      sessions := server.sessions.give maxConcurrentTransferSessions session .released } := by
  constructor
  · exact kept.balanced.give found rfl rfl rfl rfl
  · exact kept.connections.move found rfl
  · exact kept.handlers.move found rfl
  · exact kept.known.set found (fun same => nomatch same)
  · exact kept.loop.keep found (by decide) _

/-- One step of the server, other than a failed start. -/
theorem step (kept : ServerBalanced server) {label : ServerStep} (started : label ≠ .start false)
    (stepped : server.step label = some next) : ServerBalanced next := by
  cases label with
  | check =>
      simp only [SlotServer.step] at stepped
      split at stepped
      · cases stepped
        refine kept.wanders ?_
        split
        · exact .waiting
        · exact .stopped
      · cases stepped
  | accept outcome =>
      simp only [SlotServer.step] at stepped
      split at stepped
      · cases stepped
        exact kept.accepts
      · cases stepped
        exact kept.wanders .top
      · cases stepped
        exact kept.wanders .stopped
      · cases stepped
  | acquire closes =>
      simp only [SlotServer.step] at stepped
      split at stepped
      · next session place =>
          have at_ := kept.loop
          rw [place] at at_
          cases at_ with
          | accepted found =>
              split at stepped
              · cases stepped
                refine kept.refuses found ?_
                intro phases
                split
                · exact .top
                · exact .stopped
              · next left =>
                  cases stepped
                  exact kept.acquires found left
      · cases stepped
  | register =>
      simp only [SlotServer.step] at stepped
      split at stepped
      · next session place =>
          have at_ := kept.loop
          rw [place] at at_
          cases stepped
          cases at_ with
          | acquired found => exact kept.registers found
      · cases stepped
  | start succeeds =>
      simp only [SlotServer.step] at stepped
      split at stepped
      · next session place =>
          have at_ := kept.loop
          rw [place] at at_
          cases succeeds with
          | false => exact absurd rfl started
          | true =>
              cases stepped
              cases at_ with
              | registered found => exact kept.starts found
      · cases stepped
  | finish session =>
      simp only [SlotServer.step, Option.ite_none_right_eq_some] at stepped
      cases stepped.2
      exact kept.finishes stepped.1
  | unregister session =>
      simp only [SlotServer.step, Option.ite_none_right_eq_some] at stepped
      cases stepped.2
      exact kept.unregisters stepped.1
  | release session =>
      simp only [SlotServer.step, Option.ite_none_right_eq_some] at stepped
      cases stepped.2
      exact kept.releases stepped.1
  | shutdown =>
      cases stepped
      exact kept.wanders kept.loop

end ServerBalanced

/-! ## The client -/

structure ClientBalanced (client : SlotClient) : Prop where
  balanced : Balanced maxConcurrentTransferSessions SendingPhase.holdsSlot SendingPhase.isReleased
    client.sends
  cancelEvents : Enrols SendingPhase.isWatched client.cancelEvents client.sends.phases
  workers : Enrols SendingPhase.isRegistered client.workers client.sends.phases
  numbered : ∀ send, client.fresh ≤ send → client.sends.phases.get send = none

namespace ClientBalanced

theorem init : ClientBalanced .init := by
  constructor
  · exact .start
  · exact .start
  · exact .start
  · intro send _
    rfl

variable {client next : SlotClient} {send : Nat} {old new : SendingPhase}

theorem numbered_set (kept : ClientBalanced client) (found : client.sends.phases.get send = some old) :
    ∀ other, client.fresh ≤ other → (client.sends.phases.set send new).get other = none := by
  intro other beyond
  have absent := kept.numbered other beyond
  refine (Dict.get_set_ne ?_).trans absent
  intro same
  rw [same, found] at absent
  cases absent

theorem calls (kept : ClientBalanced client) :
    ClientBalanced { client with
      sends := client.sends.move client.fresh .called, fresh := client.fresh + 1 } := by
  have absent := kept.numbered client.fresh (Nat.le_refl _)
  constructor
  · exact kept.balanced.enter absent rfl
  · exact kept.cancelEvents.enter absent rfl
  · exact kept.workers.enter absent rfl
  · intro other beyond
    have above : client.fresh < other := beyond
    have apart : other ≠ client.fresh := by omega
    exact (Dict.get_set_ne apart).trans (kept.numbered other (by omega))

/-- A phase that neither takes nor returns a slot and changes no list. -/
theorem moves (kept : ClientBalanced client) (found : client.sends.phases.get send = some old)
    (going : old.isReleased = false) (slot : new.holdsSlot = old.holdsSlot)
    (event : new.isWatched = old.isWatched) (worker : new.isRegistered = old.isRegistered) :
    ClientBalanced { client with sends := client.sends.move send new } := by
  constructor
  · exact kept.balanced.move found going slot
  · exact kept.cancelEvents.move found event
  · exact kept.workers.move found worker
  · exact kept.numbered_set found

theorem acquires (kept : ClientBalanced client)
    (found : client.sends.phases.get send = some .called) (left : client.sends.free ≠ 0) :
    ClientBalanced { client with sends := client.sends.take send .acquired } := by
  constructor
  · exact kept.balanced.take found rfl rfl rfl left
  · exact kept.cancelEvents.move found rfl
  · exact kept.workers.move found rfl
  · exact kept.numbered_set found

theorem watches (kept : ClientBalanced client)
    (found : client.sends.phases.get send = some .acquired) :
    ClientBalanced { client with
      sends := client.sends.move send .watched
      cancelEvents := insert send client.cancelEvents } := by
  constructor
  · exact kept.balanced.move found rfl rfl
  · exact kept.cancelEvents.add rfl
  · exact kept.workers.move found rfl
  · exact kept.numbered_set found

theorem registers (kept : ClientBalanced client)
    (found : client.sends.phases.get send = some .watched) :
    ClientBalanced { client with
      sends := client.sends.move send .registered
      workers := insert send client.workers } := by
  constructor
  · exact kept.balanced.move found rfl rfl
  · exact kept.cancelEvents.move found rfl
  · exact kept.workers.add rfl
  · exact kept.numbered_set found

/-- Both lists forget a send, after its work or after a start that failed. -/
theorem forgets (kept : ClientBalanced client) (found : client.sends.phases.get send = some old)
    (going : old.isReleased = false) (slot : new.holdsSlot = old.holdsSlot)
    (event : new.isWatched = false) (worker : new.isRegistered = false) :
    ClientBalanced { client with
      sends := client.sends.move send new
      cancelEvents := client.cancelEvents.erase send
      workers := client.workers.erase send } := by
  constructor
  · exact kept.balanced.move found going slot
  · exact kept.cancelEvents.remove event
  · exact kept.workers.remove worker
  · exact kept.numbered_set found

theorem releases (kept : ClientBalanced client) (found : client.sends.phases.get send = some old)
    (going : old.isReleased = false) (slot : old.holdsSlot = true) (event : old.isWatched = false)
    (worker : old.isRegistered = false) :
    ClientBalanced { client with
      sends := client.sends.give maxConcurrentTransferSessions send .released } := by
  constructor
  · exact kept.balanced.give found going slot rfl rfl
  · exact kept.cancelEvents.move found event.symm
  · exact kept.workers.move found worker.symm
  · exact kept.numbered_set found

/-- One step of the client, a failed start included. -/
theorem step (kept : ClientBalanced client) {label : ClientStep}
    (stepped : client.step label = some next) : ClientBalanced next := by
  cases label with
  | call =>
      simp only [SlotClient.step] at stepped
      split at stepped
      · cases stepped
        exact kept
      · cases stepped
        exact kept.calls
  | acquire send =>
      simp only [SlotClient.step] at stepped
      split at stepped
      · next found =>
          split at stepped
          · cases stepped
            exact kept.moves found rfl rfl rfl rfl
          · next left =>
              cases stepped
              exact kept.acquires found left
      · cases stepped
  | watch send =>
      simp only [SlotClient.step, Option.ite_none_right_eq_some] at stepped
      cases stepped.2
      exact kept.watches stepped.1
  | register send =>
      simp only [SlotClient.step, Option.ite_none_right_eq_some] at stepped
      cases stepped.2
      exact kept.registers stepped.1
  | start send succeeds =>
      simp only [SlotClient.step, Option.ite_none_right_eq_some] at stepped
      cases stepped.2
      cases succeeds with
      | true => exact kept.moves stepped.1 rfl rfl rfl rfl
      | false => exact kept.moves stepped.1 rfl rfl rfl rfl
  | withdraw send =>
      simp only [SlotClient.step, Option.ite_none_right_eq_some] at stepped
      cases stepped.2
      exact kept.forgets stepped.1 rfl rfl rfl rfl
  | finish send =>
      simp only [SlotClient.step, Option.ite_none_right_eq_some] at stepped
      cases stepped.2
      exact kept.moves stepped.1 rfl rfl rfl rfl
  | unregister send =>
      simp only [SlotClient.step, Option.ite_none_right_eq_some] at stepped
      cases stepped.2
      exact kept.forgets stepped.1 rfl rfl rfl rfl
  | release send =>
      simp only [SlotClient.step, Option.ite_none_right_eq_some] at stepped
      cases stepped.2
      cases stepped.1 with
      | inl withdrawn => exact kept.releases withdrawn rfl rfl rfl rfl
      | inr unregistered => exact kept.releases unregistered rfl rfl rfl rfl
  | shutdown =>
      cases stepped
      exact ⟨kept.balanced, kept.cancelEvents, kept.workers, kept.numbered⟩

end ClientBalanced

/-! ## Both -/

/-- What is to hold at every step. -/
structure ConservesSlots (slots : SessionSlots) : Prop where
  serverSlots : slots.server.sessions.free +
    slots.server.sessions.holders SessionPhase.holdsSlot = maxConcurrentTransferSessions
  clientSlots : slots.client.sends.free +
    slots.client.sends.holders SendingPhase.holdsSlot = maxConcurrentTransferSessions
  serverHolds : ∀ session, session ∈ slots.server.connections ∨ session ∈ slots.server.handlers →
    ∃ phase, slots.server.sessions.phases.get session = some phase ∧ phase.holdsSlot = true
  clientHolds : ∀ send, send ∈ slots.client.workers ∨ send ∈ slots.client.cancelEvents →
    ∃ phase, slots.client.sends.phases.get send = some phase ∧ phase.holdsSlot = true
  serverEnded : ∀ session, slots.server.sessions.phases.get session = some .released →
    session ∉ slots.server.connections ∧ session ∉ slots.server.handlers
  clientEnded : ∀ send, slots.client.sends.phases.get send = some .released →
    send ∉ slots.client.workers ∧ send ∉ slots.client.cancelEvents
  serverReleases : (slots.server.sessions.releases.map Prod.fst).Nodup ∧
    ∀ release ∈ slots.server.sessions.releases, release.2 = true
  clientReleases : (slots.client.sends.releases.map Prod.fst).Nodup ∧
    ∀ release ∈ slots.client.sends.releases, release.2 = true
  accepting : slots.server.loop ≠ .crashed

theorem ServerBalanced.holds {server : SlotServer} (kept : ServerBalanced server) {session : Nat}
    {phase : SessionPhase} (found : server.sessions.phases.get session = some phase)
    (registered : phase.isRegistered = true) : phase.holdsSlot = true := by
  cases phase with
  | unstarted => exact absurd found (kept.known.started session)
  | registered | running | ended => rfl
  | accepted | refused | acquired | unregistered | released => cases registered

theorem SendingPhase.holdsSlot_of_listed {phase : SendingPhase}
    (listed : phase.isRegistered = true ∨ phase.isWatched = true) : phase.holdsSlot = true := by
  cases phase with
  | called | refused | released => simp [isRegistered, isWatched] at listed
  | _ => rfl

theorem conservesSlots_of_balanced {slots : SessionSlots} (server : ServerBalanced slots.server)
    (client : ClientBalanced slots.client) : ConservesSlots slots := by
  constructor
  · exact server.balanced.conserved
  · exact client.balanced.conserved
  · intro session member
    have listed : ∃ phase, slots.server.sessions.phases.get session = some phase ∧
        phase.isRegistered = true := by
      cases member with
      | inl connected => exact (server.connections session).mp connected
      | inr handled => exact (server.handlers session).mp handled
    obtain ⟨phase, found, registered⟩ := listed
    exact ⟨phase, found, server.holds found registered⟩
  · intro send member
    cases member with
    | inl worker =>
        obtain ⟨phase, found, registered⟩ := (client.workers send).mp worker
        exact ⟨phase, found, SendingPhase.holdsSlot_of_listed (.inl registered)⟩
    | inr event =>
        obtain ⟨phase, found, watched⟩ := (client.cancelEvents send).mp event
        exact ⟨phase, found, SendingPhase.holdsSlot_of_listed (.inr watched)⟩
  · intro session found
    exact ⟨server.connections.not_mem found rfl, server.handlers.not_mem found rfl⟩
  · intro send found
    exact ⟨client.workers.not_mem found rfl, client.cancelEvents.not_mem found rfl⟩
  · exact ⟨server.balanced.once, fun release member => (server.balanced.taken release member).1⟩
  · exact ⟨client.balanced.once, fun release member => (client.balanced.taken release member).1⟩
  · intro crashed
    have at_ := server.loop
    rw [crashed] at at_
    cases at_

/-- The server's thread for a session cannot be started. -/
def failedStart : SlotStep := .server (.start false)

theorem balanced_of_started {labels : List SlotStep} {slots : SessionSlots}
    (run : Run SessionSlots.step (fun _ label => label ≠ failedStart) .init labels slots) :
    ServerBalanced slots.server ∧ ClientBalanced slots.client := by
  refine @Run.invariant _ _ _ _ (fun slots : SessionSlots =>
    ServerBalanced slots.server ∧ ClientBalanced slots.client) ?_ _ _ _ run ⟨.init, .init⟩
  intro slots label next kept started stepped
  cases label with
  | server label =>
      obtain ⟨server, moved, same⟩ := Option.map_eq_some_iff.mp stepped
      rw [← same]
      refine ⟨kept.1.step ?_ moved, kept.2⟩
      intro failed
      exact started (failed ▸ rfl)
  | client label =>
      obtain ⟨client, moved, same⟩ := Option.map_eq_some_iff.mp stepped
      rw [← same]
      exact ⟨kept.1, kept.2.step moved⟩

theorem start_false_crashes {slots next : SessionSlots}
    (stepped : slots.step failedStart = some next) : next.server.loop = .crashed := by
  obtain ⟨server, moved, same⟩ := Option.map_eq_some_iff.mp stepped
  rw [← same]
  simp only [SlotServer.step] at moved
  split at moved
  · cases moved
    rfl
  · cases moved

theorem crashed_stays {slots next : SessionSlots} {label : SlotStep}
    (crashed : slots.server.loop = .crashed) (stepped : slots.step label = some next) :
    next.server.loop = .crashed := by
  cases label with
  | client label =>
      obtain ⟨client, moved, same⟩ := Option.map_eq_some_iff.mp stepped
      rw [← same]
      exact crashed
  | server label =>
      obtain ⟨server, moved, same⟩ := Option.map_eq_some_iff.mp stepped
      rw [← same]
      cases label with
      | check | accept | acquire | register | start =>
          simp [SlotServer.step, crashed] at moved
      | finish | unregister | release =>
          simp only [SlotServer.step, Option.ite_none_right_eq_some] at moved
          cases moved.2
          exact crashed
      | shutdown =>
          cases moved
          exact crashed

/-- In every run the slots are conserved and the server accepts exactly as long as every
handler it tried to start has started. -/
theorem conservesSlots_iff {labels : List SlotStep} {slots : SessionSlots}
    (run : Run SessionSlots.step anyStep .init labels slots) :
    ConservesSlots slots ↔ failedStart ∉ labels := by
  constructor
  · intro conserves failed
    obtain ⟨before, after, split⟩ := List.append_of_mem failed
    rw [split] at run
    obtain ⟨middle, _, rest⟩ := run.append_inv
    obtain ⟨next, _, stepped, later⟩ := rest.cons_inv
    have crashed : slots.server.loop = .crashed :=
      @Run.invariant _ _ _ _ (fun slots : SessionSlots => slots.server.loop = .crashed)
        (fun _ _ _ crashed _ stepped => crashed_stays crashed stepped) _ _ _ later
        (start_false_crashes stepped)
    exact conserves.accepting crashed
  · intro started
    have guarded : Run SessionSlots.step (fun _ label => label ≠ failedStart) .init labels slots :=
      run.of_labels fun label member same => started (same ▸ member)
    obtain ⟨server, client⟩ := balanced_of_started guarded
    exact conservesSlots_of_balanced server client

/-- A connection is accepted, and its handler is started or not. -/
def handled (starts : Bool) : List SlotStep :=
  [.check, .accept .connection, .acquire true, .register, .start starts].map .server

/-- A send that ends, one whose worker cannot be started, eight handlers and a ninth
connection that is refused; one handler ends, another takes its slot, and both sides
shut down. -/
def severalExits : List SlotStep :=
  [.call, .acquire 0, .watch 0, .register 0, .start 0 true, .call, .acquire 1, .watch 1,
    .register 1, .start 1 false].map .client ++
  (List.replicate 8 (handled true)).flatten ++
  [.check, .accept .connection, .acquire true, .finish 3, .unregister 3, .release 3].map .server ++
  [.withdraw 1, .finish 0, .unregister 0, .release 1, .release 0].map .client ++
  handled true ++ [.check, .accept .timeoutError, .shutdown, .check].map .server ++
  [.client .shutdown]

/-- The exits conserve the slots; a third handler that cannot be started does not. -/
theorem several_exits_conserve : ∃ slots failed,
    Run SessionSlots.step anyStep .init severalExits slots ∧
    (slots.server.sessions.free = 0 ∧ slots.client.sends.free = 8 ∧ slots.server.loop = .stopped) ∧
    ConservesSlots slots ∧
    Run SessionSlots.step anyStep .init (handled true ++ handled true ++ handled false) failed ∧
    ¬ConservesSlots failed := by
  have executed : ∃ slots, runLabels SessionSlots.step .init severalExits = some slots ∧
      slots.server.sessions.free = 0 ∧ slots.client.sends.free = 8 ∧
        slots.server.loop = .stopped := ⟨_, rfl, rfl, rfl, rfl⟩
  have crashed : ∃ failed, runLabels SessionSlots.step .init
      (handled true ++ handled true ++ handled false) = some failed := ⟨_, rfl⟩
  obtain ⟨slots, executed, ended⟩ := executed
  obtain ⟨failed, crashed⟩ := crashed
  have run := run_of_runLabels executed
  have fails := run_of_runLabels crashed
  refine ⟨slots, failed, run, ended, (conservesSlots_iff run).mpr (by decide), fails, ?_⟩
  intro conserves
  exact (conservesSlots_iff fails).mp conserves (by decide)

/-- The first handler cannot be started: its slot and its registration stay, and the
server accepts no more. -/
theorem failed_start_keeps_slot : ∃ slots,
    Run SessionSlots.step anyStep .init
      [.server .check, .server (.accept .connection), .server (.acquire true), .server .register,
        .server (.start false)] slots ∧
    slots.server.sessions.free + slots.server.sessions.holders SessionPhase.holdsSlot = 7 ∧
    0 ∈ slots.server.connections ∧ slots.server.loop = .crashed ∧ ¬ ConservesSlots slots := by
  have executed : ∃ slots, runLabels SessionSlots.step .init
      [.server .check, .server (.accept .connection), .server (.acquire true), .server .register,
        .server (.start false)] = some slots ∧
      slots.server.sessions.free + slots.server.sessions.holders SessionPhase.holdsSlot = 7 ∧
      0 ∈ slots.server.connections ∧ slots.server.loop = .crashed :=
    ⟨_, rfl, rfl, by decide, rfl⟩
  obtain ⟨slots, executed, counted, registered, crashed⟩ := executed
  exact ⟨slots, run_of_runLabels executed, counted, registered, crashed,
    fun conserves => conserves.accepting crashed⟩

end DirectTransfer
