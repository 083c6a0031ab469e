import DirectTransfer.Core.Models
import DirectTransfer.Library.SlotAccount
import DirectTransfer.Library.Transition

/-! Session slots of the server's accept loop and of the client's sends. The
accepting thread, the callers of `send_batch` and the workers take their steps in
any order. -/

set_option autoImplicit false

namespace DirectTransfer

open Library SlotAccount

def maxConcurrentTransferSessions : Nat := 8

/-! ## The server -/

/-- How far a connection has come. -/
inductive SessionPhase where
  | accepted
  | refused
  | acquired
  | registered
  | unstarted
  | running
  | ended
  | unregistered
  | released
  deriving DecidableEq, Repr

/-- A handler that runs or is about to start, up to its release. -/
def SessionPhase.holdsSlot : SessionPhase → Bool
  | .acquired | .registered | .running | .ended | .unregistered => true
  | .accepted | .refused | .unstarted | .released => false

def SessionPhase.isRegistered : SessionPhase → Bool
  | .registered | .unstarted | .running | .ended => true
  | .accepted | .refused | .acquired | .unregistered | .released => false

def SessionPhase.isReleased : SessionPhase → Bool
  | .released => true
  | _ => false

/-- Where the accepting thread stands; `crashed` is an exception that left `run`. -/
inductive AcceptLoop where
  | top
  | waiting
  | accepted (session : Nat)
  | acquired (session : Nat)
  | registered (session : Nat)
  | stopped
  | crashed
  deriving DecidableEq, Repr

structure SlotServer where
  running : Bool
  loop : AcceptLoop
  sessions : SlotAccount Nat SessionPhase
  connections : Finset Nat
  handlers : Finset Nat
  fresh : Nat

inductive AcceptOutcome where
  | connection
  | timeoutError
  | osError
  deriving DecidableEq, Repr

/-- The steps of the accepting thread, of the handlers, and of `shutdown`. -/
inductive ServerStep where
  | check
  | accept (outcome : AcceptOutcome)
  | acquire (closes : Bool)
  | register
  | start (succeeds : Bool)
  | finish (session : Nat)
  | unregister (session : Nat)
  | release (session : Nat)
  | shutdown
  deriving DecidableEq, Repr

namespace SlotServer

def init : SlotServer :=
  ⟨true, .top, SlotAccount.start maxConcurrentTransferSessions, ∅, ∅, 0⟩

def step (server : SlotServer) : ServerStep → Option SlotServer
  | .check => match server.loop with
    | .top => some { server with loop := if server.running then .waiting else .stopped }
    | _ => none
  | .accept outcome => match server.loop, outcome with
    | .waiting, .connection => some { server with
        loop := .accepted server.fresh
        sessions := server.sessions.move server.fresh .accepted
        fresh := server.fresh + 1 }
    | .waiting, .timeoutError => some { server with loop := .top }
    | .waiting, .osError => some { server with loop := .stopped }
    | _, _ => none
  | .acquire closes => match server.loop with
    | .accepted session =>
        if server.sessions.free = 0 then some { server with
          -- an error of `conn.close` is handled as one of `accept`
          loop := if closes then .top else .stopped
          sessions := server.sessions.move session .refused }
        else some { server with
          loop := .acquired session
          sessions := server.sessions.take session .acquired }
    | _ => none
  | .register => match server.loop with
    | .acquired session => some { server with
        loop := .registered session
        sessions := server.sessions.move session .registered
        connections := insert session server.connections
        handlers := insert session server.handlers }
    | _ => none
  | .start succeeds => match server.loop with
    | .registered session =>
        if succeeds then some { server with
          loop := .top
          sessions := server.sessions.move session .running }
        -- neither handler of the loop catches `RuntimeError`
        else some { server with
          loop := .crashed
          sessions := server.sessions.move session .unstarted }
    | _ => none
  | .finish session =>
      if server.sessions.phases.get session = some .running then
        some { server with sessions := server.sessions.move session .ended }
      else none
  | .unregister session =>
      if server.sessions.phases.get session = some .ended then some { server with
        sessions := server.sessions.move session .unregistered
        connections := server.connections.erase session
        handlers := server.handlers.erase session }
      else none
  | .release session =>
      if server.sessions.phases.get session = some .unregistered then some { server with
        sessions := server.sessions.give maxConcurrentTransferSessions session .released }
      else none
  | .shutdown => some { server with running := false }

end SlotServer

/-! ## The client -/

/-- How far a call of `send_batch` and its worker have come. -/
inductive SendingPhase where
  | called
  | refused
  | acquired
  | watched
  | registered
  | unstarted
  | withdrawn
  | running
  | ended
  | unregistered
  | released
  deriving DecidableEq, Repr

def SendingPhase.holdsSlot : SendingPhase → Bool
  | .acquired | .watched | .registered | .unstarted | .withdrawn | .running | .ended
  | .unregistered => true
  | .called | .refused | .released => false

def SendingPhase.isRegistered : SendingPhase → Bool
  | .registered | .unstarted | .running | .ended => true
  | .called | .refused | .acquired | .watched | .withdrawn | .unregistered | .released => false

/-- The phases in which the transfer has an event to cancel it. -/
def SendingPhase.isWatched : SendingPhase → Bool
  | .watched | .registered | .unstarted | .running | .ended => true
  | .called | .refused | .acquired | .withdrawn | .unregistered | .released => false

def SendingPhase.isReleased : SendingPhase → Bool
  | .released => true
  | _ => false

structure SlotClient where
  stopping : Bool
  sends : SlotAccount Nat SendingPhase
  cancelEvents : Finset Nat
  workers : Finset Nat
  fresh : Nat

inductive ClientStep where
  | call
  | acquire (send : Nat)
  | watch (send : Nat)
  | register (send : Nat)
  | start (send : Nat) (succeeds : Bool)
  | withdraw (send : Nat)
  | finish (send : Nat)
  | unregister (send : Nat)
  | release (send : Nat)
  | shutdown
  deriving DecidableEq, Repr

namespace SlotClient

def init : SlotClient := ⟨false, SlotAccount.start maxConcurrentTransferSessions, ∅, ∅, 0⟩

def step (client : SlotClient) : ClientStep → Option SlotClient
  | .call =>
      -- a client that is shutting down raises and keeps no trace of the call
      if client.stopping then some client
      else some { client with
        sends := client.sends.move client.fresh .called
        fresh := client.fresh + 1 }
  | .acquire send =>
      if client.sends.phases.get send = some .called then
        if client.sends.free = 0 then
          some { client with sends := client.sends.move send .refused }
        else some { client with sends := client.sends.take send .acquired }
      else none
  | .watch send =>
      if client.sends.phases.get send = some .acquired then some { client with
        sends := client.sends.move send .watched
        cancelEvents := insert send client.cancelEvents }
      else none
  | .register send =>
      if client.sends.phases.get send = some .watched then some { client with
        sends := client.sends.move send .registered
        workers := insert send client.workers }
      else none
  | .start send succeeds =>
      if client.sends.phases.get send = some .registered then
        some { client with
          sends := client.sends.move send (if succeeds then .running else .unstarted) }
      else none
  | .withdraw send =>
      if client.sends.phases.get send = some .unstarted then some { client with
        sends := client.sends.move send .withdrawn
        workers := client.workers.erase send
        cancelEvents := client.cancelEvents.erase send }
      else none
  | .finish send =>
      if client.sends.phases.get send = some .running then
        some { client with sends := client.sends.move send .ended }
      else none
  | .unregister send =>
      if client.sends.phases.get send = some .ended then some { client with
        sends := client.sends.move send .unregistered
        cancelEvents := client.cancelEvents.erase send
        workers := client.workers.erase send }
      else none
  | .release send =>
      if client.sends.phases.get send = some .withdrawn ∨
          client.sends.phases.get send = some .unregistered then
        some { client with
          sends := client.sends.give maxConcurrentTransferSessions send .released }
      else none
  | .shutdown => some { client with stopping := true }

end SlotClient

/-! ## Both, side by side -/

structure SessionSlots where
  server : SlotServer
  client : SlotClient

inductive SlotStep where
  | server (step : ServerStep)
  | client (step : ClientStep)
  deriving DecidableEq, Repr

namespace SessionSlots

def init : SessionSlots := ⟨.init, .init⟩

def step (slots : SessionSlots) : SlotStep → Option SessionSlots
  | .server step => (slots.server.step step).map fun server => { slots with server }
  | .client step => (slots.client.step step).map fun client => { slots with client }

end SessionSlots

end DirectTransfer
