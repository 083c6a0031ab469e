import DirectTransfer.Library.Text

/-! The reading end of a stream connection. Octets arrive in pieces that are
never empty; between two pieces a waiting reader may time out. -/

set_option autoImplicit false

namespace DirectTransfer.Library

inductive Arrival where
  | piece (first : UInt8) (rest : Bytes)
  | timeout
  deriving DecidableEq

namespace Arrival

def octets : Arrival → Bytes
  | .piece first rest => first :: rest
  | .timeout => []

/-- Put octets a reader has left of a piece back before the later ones. -/
def putBack (raw : Bytes) (later : List Arrival) : List Arrival :=
  match raw with
  | [] => later
  | first :: rest => .piece first rest :: later

/-- All octets still to arrive. -/
def stream (arrivals : List Arrival) : Bytes := arrivals.flatMap octets

/-- The octets that arrive before the first time-out. -/
def ready : List Arrival → Bytes
  | [] => []
  | .piece first rest :: later => first :: rest ++ ready later
  | .timeout :: _ => []

/-- What follows the first time-out, if there is one. -/
def afterTimeout : List Arrival → Option (List Arrival)
  | [] => none
  | .piece _ _ :: later => afterTimeout later
  | .timeout :: later => some later

@[simp] theorem stream_nil : stream [] = [] := rfl

@[simp] theorem stream_cons (arrival : Arrival) (later : List Arrival) :
    stream (arrival :: later) = arrival.octets ++ stream later := rfl

@[simp] theorem stream_append (early late : List Arrival) :
    stream (early ++ late) = stream early ++ stream late := List.flatMap_append

@[simp] theorem stream_putBack (raw : Bytes) (later : List Arrival) :
    stream (putBack raw later) = raw ++ stream later := by
  cases raw with
  | nil => rfl
  | cons => rfl

@[simp] theorem ready_putBack (raw : Bytes) (later : List Arrival) :
    ready (putBack raw later) = raw ++ ready later := by
  cases raw with
  | nil => rfl
  | cons => rfl

@[simp] theorem afterTimeout_putBack (raw : Bytes) (later : List Arrival) :
    afterTimeout (putBack raw later) = afterTimeout later := by
  cases raw with
  | nil => rfl
  | cons => rfl

/-- The stream is what is ready and what arrives after the next time-out. -/
theorem stream_eq (arrivals : List Arrival) :
    stream arrivals = ready arrivals ++ ((afterTimeout arrivals).map stream).getD [] := by
  induction arrivals with
  | nil => rfl
  | cons arrival later ih => cases arrival with
    | piece first rest => simp [octets, ready, afterTimeout, ih]
    | timeout => simp [octets, ready, afterTimeout]

/-- Nothing is ready before a time-out that comes first. -/
theorem eq_cons_timeout {arrivals later : List Arrival} (empty : ready arrivals = [])
    (next : afterTimeout arrivals = some later) : arrivals = .timeout :: later := by
  cases arrivals with
  | nil => cases next
  | cons arrival rest => cases arrival with
    | piece => cases empty
    | timeout => rw [Option.some.inj next]

theorem afterTimeout_eq_none {arrivals : List Arrival} :
    afterTimeout arrivals = none ↔ Arrival.timeout ∉ arrivals := by
  induction arrivals with
  | nil => simp [afterTimeout]
  | cons arrival later ih => cases arrival with
    | piece => simpa [afterTimeout] using ih
    | timeout => simp [afterTimeout]

end Arrival

/-- A connection with what will arrive on it; after the last arrival the peer
has closed it, or keeps silent. -/
structure Socket where
  arrivals : List Arrival
  closed : Bool
  deriving DecidableEq

namespace Socket

abbrev stream (socket : Socket) : Bytes := Arrival.stream socket.arrivals

abbrev ready (socket : Socket) : Bytes := Arrival.ready socket.arrivals

abbrev afterTimeout (socket : Socket) : Option (List Arrival) :=
  Arrival.afterTimeout socket.arrivals

theorem stream_eq (socket : Socket) :
    socket.stream = socket.ready ++ (socket.afterTimeout.map Arrival.stream).getD [] :=
  Arrival.stream_eq socket.arrivals

/-- No read times out. -/
abbrev Steady (socket : Socket) : Prop := Arrival.timeout ∉ socket.arrivals

/-- `recv(size)`: at most that many octets of the next piece, none at the end
of the stream, or a time-out. -/
def recv (size : Nat) (socket : Socket) : Option Bytes × Socket :=
  match socket.arrivals with
  | [] => (if socket.closed then some [] else none, socket)
  | .timeout :: later => (none, { socket with arrivals := later })
  | .piece first rest :: later =>
      (some ((first :: rest).take size),
        { socket with arrivals := Arrival.putBack ((first :: rest).drop size) later })

/-- Calls `recv` until the size or the end of the stream is reached; what was
read before a time-out is lost. -/
def recvExact (size : Nat) (socket : Socket) : Option Bytes × Socket :=
  if size = 0 then (some [], socket)
  else match socket.recv size with
    | (none, left) => (none, left)
    | (some [], left) => (some [], left)
    | (some (first :: rest), left) =>
        let (more, last) := recvExact (size - (rest.length + 1)) left
        (more.map fun raw => first :: rest ++ raw, last)
termination_by size
decreasing_by omega

/-- The socket a reader leaves that has taken all but the given octets of what was ready. -/
structure Continues (socket : Socket) (unread : Bytes) (left : Socket) : Prop where
  ready : left.ready = unread
  afterTimeout : left.afterTimeout = socket.afterTimeout
  closed : left.closed = socket.closed

namespace Continues

variable {socket left last : Socket} {unread remaining : Bytes}

theorem trans (first : Continues socket unread left) (second : Continues left remaining last) :
    Continues socket remaining last where
  ready := second.ready
  afterTimeout := second.afterTimeout.trans first.afterTimeout
  closed := second.closed.trans first.closed

theorem stream (continues : Continues socket unread left) :
    left.stream = unread ++ (socket.afterTimeout.map Arrival.stream).getD [] := by
  rw [left.stream_eq, continues.ready, continues.afterTimeout]

end Continues

theorem Steady.afterTimeout {socket : Socket} (steady : socket.Steady) :
    socket.afterTimeout = none := Arrival.afterTimeout_eq_none.mpr steady

theorem Steady.ready_eq {socket : Socket} (steady : socket.Steady) :
    socket.ready = socket.stream := by
  have whole := socket.stream_eq
  rw [steady.afterTimeout] at whole
  simpa using whole.symm

theorem Steady.continues {socket left : Socket} {unread : Bytes} (steady : socket.Steady)
    (continues : Continues socket unread left) : left.Steady ∧ left.stream = unread := by
  have still : left.Steady :=
    Arrival.afterTimeout_eq_none.mp (continues.afterTimeout.trans steady.afterTimeout)
  exact ⟨still, by rw [← still.ready_eq, continues.ready]⟩

/-- A call that does not time out takes the front of what is ready. -/
theorem recv_ready {size : Nat} {socket : Socket} (positive : 0 < size)
    (waiting : socket.ready ≠ []) :
    ∃ first rest left, recv size socket = (some (first :: rest), left) ∧
      rest.length + 1 ≤ size ∧ socket.ready = first :: rest ++ left.ready ∧
      Continues socket left.ready left := by
  obtain ⟨arrivals, closed⟩ := socket
  cases arrivals with
  | nil => exact (waiting rfl).elim
  | cons arrival later => cases arrival with
    | timeout => exact (waiting rfl).elim
    | piece first rest =>
        obtain ⟨below, sized⟩ : ∃ below, size = below + 1 := ⟨size - 1, by omega⟩
        subst sized
        let left : Socket := ⟨Arrival.putBack (rest.drop below) later, closed⟩
        have unread : left.ready = rest.drop below ++ Arrival.ready later :=
          Arrival.ready_putBack _ _
        refine ⟨first, rest.take below, left, rfl, ?_, ?_, ?_⟩
        · simp only [List.length_take]
          omega
        · rw [unread, List.cons_append, ← List.append_assoc, List.take_append_drop]
          rfl
        · exact ⟨rfl, Arrival.afterTimeout_putBack _ _, rfl⟩

/-- A call with nothing ready times out or finds the end of the stream. -/
theorem recv_empty {size : Nat} {socket : Socket} (empty : socket.ready = []) :
    recv size socket = match socket.afterTimeout with
      | some later => (none, { socket with arrivals := later })
      | none => (if socket.closed then some [] else none, ⟨[], socket.closed⟩) := by
  obtain ⟨arrivals, closed⟩ := socket
  cases arrivals with
  | nil => rfl
  | cons arrival later => cases arrival with
    | timeout => rfl
    | piece first rest => simp [ready, Arrival.ready] at empty

/-- A read of no more than is ready gets it. -/
theorem recvExact_ready {size : Nat} {socket : Socket} (enough : size ≤ socket.ready.length) :
    ∃ left, recvExact size socket = (some (socket.ready.take size), left) ∧
      Continues socket (socket.ready.drop size) left := by
  induction size using Nat.strong_induction_on generalizing socket with
  | _ size ih =>
      by_cases zero : size = 0
      · subst zero
        refine ⟨socket, by rw [recvExact, if_pos rfl, List.take_zero], ?_⟩
        exact ⟨rfl, rfl, rfl⟩
      · obtain ⟨first, rest, left, received, short, split, continues⟩ :=
          recv_ready (Nat.pos_of_ne_zero zero) fun empty => by
            rw [empty] at enough
            exact zero (Nat.le_zero.mp enough)
        have fits : size - (rest.length + 1) ≤ left.ready.length := by
          rw [split, List.length_append, List.length_cons] at enough
          omega
        obtain ⟨last, read, more⟩ := ih _ (by omega) fits
        have front : (first :: rest).length ≤ size := short
        refine ⟨last, ?_, ?_⟩
        · rw [recvExact, if_neg zero, received, split, List.take_append,
            List.take_of_length_le front]
          simp only [read, Option.map_some, List.length_cons]
        · rw [split, List.drop_append, List.drop_of_length_le front, List.nil_append]
          exact continues.trans more

/-- A read of more than is ready times out, or ends with the stream. -/
theorem recvExact_short {size : Nat} {socket : Socket} (short : socket.ready.length < size) :
    recvExact size socket = match socket.afterTimeout with
      | some later => (none, { socket with arrivals := later })
      | none => (if socket.closed then some socket.ready else none, ⟨[], socket.closed⟩) := by
  induction size using Nat.strong_induction_on generalizing socket with
  | _ size ih =>
      have positive : 0 < size := by omega
      by_cases empty : socket.ready = []
      · rw [recvExact, if_neg (by omega), recv_empty empty, empty]
        cases socket.afterTimeout with
        | some later => rfl
        | none => cases socket.closed <;> rfl
      · obtain ⟨first, rest, left, received, _, split, continues⟩ :=
          recv_ready positive empty
        have lacks : left.ready.length < size - (rest.length + 1) := by
          rw [split, List.length_append, List.length_cons] at short
          omega
        rw [recvExact, if_neg (by omega), received]
        simp only
        rw [ih _ (by omega) lacks, continues.afterTimeout, continues.closed, split]
        cases socket.afterTimeout with
        | some later => rfl
        | none => cases socket.closed <;> rfl

end Socket

end DirectTransfer.Library
