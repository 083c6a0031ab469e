import DirectTransfer.Core.ProtocolProperties
import DirectTransfer.Library.Socket

/-! Length-prefixed frames read from a connection whose octets arrive in pieces.
What is read does not depend on where the pieces are cut. -/

set_option autoImplicit false

namespace DirectTransfer.Framing

open Library

def timedOut : Raised := raised .timeoutError "timed out"

def closedInLength : Raised := raised .osError "Connection closed while reading frame length"

def closedInData : Raised := raised .osError "Connection closed while reading frame data"

/-- `struct.unpack(">I", raw)` of four octets. -/
def bigEndianValue (first second third fourth : UInt8) : Nat :=
  first.toNat * 0x1000000 + second.toNat * 0x10000 + third.toNat * 0x100 + fourth.toNat

def oversized (length maxSize : Nat) : Raised :=
  ⟨.valueError, py "Frame size " ++ natText length ++ py " exceeds maximum allowed " ++
    natText maxSize⟩

/-- The second half of `unpack_frame`, once the length is known. -/
def unpackData (maxSize length : Nat) (socket : Socket) : Except Raised Bytes × Socket :=
  if length > maxSize then (.error (oversized length maxSize), socket)
  else match socket.recvExact length with
    | (none, left) => (.error timedOut, left)
    | (some data, left) =>
        (if data.length ≠ length then .error closedInData else .ok data, left)

def unpackFrame (maxSize : Nat) (socket : Socket) : Except Raised Bytes × Socket :=
  match socket.recvExact 4 with
  | (none, left) => (.error timedOut, left)
  | (some [first, second, third, fourth], left) =>
      unpackData maxSize (bigEndianValue first second third fourth) left
  | (some _, left) => (.error closedInLength, left)

/-- Repeated calls, up to the first that raises. -/
def unpackFrames (maxSize : Nat) : Nat → Socket → List Bytes × Option Raised × Socket
  | 0, socket => ([], none, socket)
  | count + 1, socket => match unpackFrame maxSize socket with
    | (.error error, left) => ([], some error, left)
    | (.ok data, left) =>
        let (more, outcome, last) := unpackFrames maxSize count left
        (data :: more, outcome, last)

/-- The encodings of several frames, one after another. -/
def packFrames : List Bytes → Except Raised Bytes
  | [] => .ok []
  | data :: more => do
      let first ← packFrame data
      let rest ← packFrames more
      return first ++ rest

/-! ## One call -/

/-- What a read that lacks octets raises, and what it leaves. -/
def brokenOff (socket : Socket) (atEnd : Raised) : Except Raised Bytes × Socket :=
  match socket.afterTimeout with
  | some later => (.error timedOut, { socket with arrivals := later })
  | none => (.error (if socket.closed then atEnd else timedOut), ⟨[], socket.closed⟩)

theorem brokenOff_continues {socket left : Socket} {unread : Bytes} {atEnd : Raised}
    (continues : socket.Continues unread left) : brokenOff left atEnd = brokenOff socket atEnd := by
  unfold brokenOff
  rw [continues.afterTimeout, continues.closed]

section

variable {maxSize length : Nat} {socket : Socket}

theorem unpackData_ready (allowed : length ≤ maxSize) (enough : length ≤ socket.ready.length) :
    ∃ left, unpackData maxSize length socket = (.ok (socket.ready.take length), left) ∧
      socket.Continues (socket.ready.drop length) left := by
  obtain ⟨left, read, continues⟩ := Socket.recvExact_ready enough
  refine ⟨left, ?_, continues⟩
  have size : (socket.ready.take length).length = length := by
    rw [List.length_take]
    exact Nat.min_eq_left enough
  rw [unpackData, if_neg (Nat.not_lt.mpr allowed), read]
  simp only [size, ne_eq, not_true_eq_false, ↓reduceIte]

theorem unpackData_short (allowed : length ≤ maxSize) (short : socket.ready.length < length) :
    unpackData maxSize length socket = brokenOff socket closedInData := by
  rw [unpackData, if_neg (Nat.not_lt.mpr allowed), Socket.recvExact_short short, brokenOff]
  cases socket.afterTimeout with
  | some later => rfl
  | none => cases socket.closed with
    | false => rfl
    | true => simp only [↓reduceIte, Nat.ne_of_lt short, ne_eq, not_false_eq_true]

theorem unpackFrame_prefix (maxSize : Nat) {first second third fourth : UInt8} {body : Bytes}
    (front : socket.ready = first :: second :: third :: fourth :: body) :
    ∃ left, socket.Continues body left ∧ unpackFrame maxSize socket =
      unpackData maxSize (bigEndianValue first second third fourth) left := by
  have enough : 4 ≤ socket.ready.length := by
    rw [front]
    simp
  obtain ⟨left, read, continues⟩ := Socket.recvExact_ready enough
  rw [front] at read continues
  refine ⟨left, continues, ?_⟩
  rw [unpackFrame, read]
  simp only [List.take_succ_cons, List.take_zero]

/-- A length prefix that is ready is read, and the data is left. -/
theorem unpackFrame_prefixed (maxSize : Nat) {body : Bytes} (small : length < 2 ^ 32)
    (front : socket.ready = bigEndian length ++ body) :
    ∃ left, socket.Continues body left ∧
      unpackFrame maxSize socket = unpackData maxSize length left := by
  have value : bigEndianValue (UInt8.ofNat (length / 0x1000000)) (UInt8.ofNat (length / 0x10000))
      (UInt8.ofNat (length / 0x100)) (UInt8.ofNat length) = length := by
    simp only [bigEndianValue, UInt8.toNat_ofNat']
    omega
  obtain ⟨left, continues, prefixed⟩ := unpackFrame_prefix maxSize front
  exact ⟨left, continues, by rw [prefixed, value]⟩

theorem unpackFrame_unprefixed (short : socket.ready.length < 4) :
    unpackFrame maxSize socket = brokenOff socket closedInLength := by
  rw [unpackFrame, Socket.recvExact_short short, brokenOff]
  cases socket.afterTimeout with
  | some later => rfl
  | none => cases socket.closed with
    | false => rfl
    | true =>
        match socket.ready, short with
        | [], _ => rfl
        | [_], _ => rfl
        | [_, _], _ => rfl
        | [_, _, _], _ => rfl

/-- The octets of a frame. -/
def frameOctets (data : Bytes) : Bytes := bigEndian data.length ++ data

@[simp] theorem frameOctets_length (data : Bytes) : (frameOctets data).length = 4 + data.length := by
  simp [frameOctets, bigEndian]
  omega

variable {data rest : Bytes}

/-- A frame that is ready is returned, and exactly its octets are taken. -/
theorem unpackFrame_whole (allowed : data.length ≤ maxSize) (small : data.length < 2 ^ 32)
    (front : socket.ready = frameOctets data ++ rest) :
    ∃ left, unpackFrame maxSize socket = (.ok data, left) ∧ socket.Continues rest left := by
  rw [frameOctets, List.append_assoc] at front
  obtain ⟨left, continues, prefixed⟩ := unpackFrame_prefixed maxSize small front
  have enough : data.length ≤ left.ready.length := by
    rw [continues.ready]
    simp
  obtain ⟨last, unpacked, more⟩ := unpackData_ready allowed enough
  rw [continues.ready, List.take_left] at unpacked
  rw [continues.ready, List.drop_left] at more
  exact ⟨last, prefixed.trans unpacked, continues.trans more⟩

/-- Of a frame that is only partly ready nothing is returned. -/
theorem unpackFrame_cut (allowed : data.length ≤ maxSize) (small : data.length < 2 ^ 32)
    (cut : socket.ready ++ rest = frameOctets data) (more : rest ≠ []) :
    unpackFrame maxSize socket =
      brokenOff socket (if socket.ready.length < 4 then closedInLength else closedInData) := by
  by_cases short : socket.ready.length < 4
  · rw [if_pos short, unpackFrame_unprefixed short]
  · rw [if_neg short]
    obtain ⟨body, front⟩ : ∃ body, socket.ready = bigEndian data.length ++ body := by
      have fits : (bigEndian data.length).length ≤ socket.ready.length := Nat.not_lt.mp short
      obtain ⟨body, equal⟩ := List.prefix_of_prefix_length_le
        ⟨data, rfl⟩ ⟨rest, cut⟩ fits
      exact ⟨body, equal.symm⟩
    obtain ⟨left, continues, prefixed⟩ := unpackFrame_prefixed maxSize small front
    have lacks : left.ready.length < data.length := by
      rw [front, frameOctets, List.append_assoc, List.append_cancel_left_eq] at cut
      rw [continues.ready, ← cut, List.length_append]
      have := List.length_pos_iff.mpr more
      omega
    rw [prefixed, unpackData_short allowed lacks, brokenOff_continues continues]

/-- A length above the maximum raises when the prefix has been read. -/
theorem unpackFrame_oversized (excess : maxSize < length) (small : length < 2 ^ 32)
    (front : socket.ready = bigEndian length ++ rest) :
    ∃ left, unpackFrame maxSize socket = (.error (oversized length maxSize), left) ∧
      socket.Continues rest left := by
  obtain ⟨left, continues, prefixed⟩ := unpackFrame_prefixed maxSize small front
  exact ⟨left, by rw [prefixed, unpackData, if_pos excess], continues⟩

end

/-- On a connection that never times out and is closed after its last octet the
calls read the frame that the octets alone determine. -/
theorem unpackFrame_refines (maxSize : Nat) {socket : Socket} (steady : socket.Steady)
    (closed : socket.closed = true) :
    ∃ left, unpackFrame maxSize socket =
        ((DirectTransfer.unpackFrame maxSize socket.stream).map Prod.fst, left) ∧
      ∀ data rest, DirectTransfer.unpackFrame maxSize socket.stream = .ok (data, rest) →
        left.Steady ∧ left.stream = rest := by
  have ended (atEnd : Raised) : brokenOff socket atEnd = (.error atEnd, ⟨[], true⟩) := by
    rw [brokenOff, steady.afterTimeout, closed]
    rfl
  rw [← steady.ready_eq]
  unfold DirectTransfer.unpackFrame
  split
  · next first second third fourth body front =>
      obtain ⟨left, continues, prefixed⟩ := unpackFrame_prefix maxSize front
      rw [prefixed]
      dsimp only
      split
      · next excess =>
          refine ⟨left, by rw [unpackData, bigEndianValue, if_pos excess]; rfl, ?_⟩
          intro data rest whole
          cases whole
      · next allowed =>
          split
          · next short =>
              refine ⟨⟨[], true⟩, ?_, fun data rest whole => nomatch whole⟩
              rw [← continues.ready] at short
              have broken := unpackData_short (Nat.not_lt.mp allowed) short
              rw [brokenOff_continues continues, ended] at broken
              exact broken
          · next enough =>
              obtain ⟨last, unpacked, more⟩ := unpackData_ready (Nat.not_lt.mp allowed)
                (by rw [continues.ready]; exact Nat.not_lt.mp enough)
              rw [continues.ready] at unpacked more
              refine ⟨last, unpacked, ?_⟩
              intro data rest whole
              cases whole
              exact steady.continues (continues.trans more)
  · next unprefixed =>
      refine ⟨⟨[], true⟩, ?_, fun data rest whole => nomatch whole⟩
      have short : socket.ready.length < 4 := by
        match split : socket.ready with
        | first :: second :: third :: fourth :: body =>
            exact (unprefixed first second third fourth body split).elim
        | [] | [_] | [_, _] | [_, _, _] => simp
      rw [unpackFrame_unprefixed short, ended]
      rfl

/-! ## Repeated calls -/

/-- Frames that a reader admits and a length prefix can announce. -/
def Bounded (maxSize : Nat) (frames : List Bytes) : Prop :=
  ∀ data ∈ frames, data.length ≤ maxSize ∧ data.length < 2 ^ 32

section

variable {maxSize : Nat} {frames : List Bytes}

theorem packFrames_eq (bounded : Bounded maxSize frames) :
    packFrames frames = .ok (frames.flatMap frameOctets) := by
  induction frames with
  | nil => rfl
  | cons data frames ih =>
      have small := (bounded data List.mem_cons_self).2
      rw [packFrames, packFrame, if_pos small, ih fun other member =>
        bounded other (List.mem_cons_of_mem _ member)]
      rfl

/-- The calls that read complete frames return them and leave what follows. -/
theorem unpackFrames_append (bounded : Bounded maxSize frames) {socket : Socket} {rest : Bytes}
    (front : socket.ready = frames.flatMap frameOctets ++ rest) (count : Nat) :
    ∃ left, socket.Continues rest left ∧
      unpackFrames maxSize (frames.length + count) socket =
        (frames ++ (unpackFrames maxSize count left).1, (unpackFrames maxSize count left).2) := by
  induction frames generalizing socket with
  | nil =>
      refine ⟨socket, ⟨front, rfl, rfl⟩, ?_⟩
      rw [List.length_nil, Nat.zero_add, List.nil_append]
  | cons data frames ih =>
      obtain ⟨allowed, small⟩ := bounded data List.mem_cons_self
      rw [List.flatMap_cons, List.append_assoc] at front
      obtain ⟨left, unpacked, continues⟩ := unpackFrame_whole allowed small front
      obtain ⟨last, more, rest⟩ := ih (fun other member =>
        bounded other (List.mem_cons_of_mem _ member)) continues.ready
      refine ⟨last, continues.trans more, ?_⟩
      rw [List.length_cons, Nat.add_right_comm, unpackFrames, unpacked]
      simp only [rest, List.cons_append]

/-- A cut through the encodings falls into one of the frames. -/
theorem exists_cut {cut : Nat} (inside : cut < (frames.flatMap frameOctets).length) :
    ∃ complete data later, frames = complete ++ data :: later ∧
      (complete.flatMap frameOctets).length ≤ cut ∧
      cut < (complete.flatMap frameOctets).length + (frameOctets data).length := by
  induction frames generalizing cut with
  | nil => simp at inside
  | cons data frames ih =>
      by_cases first : cut < (frameOctets data).length
      · exact ⟨[], data, frames, rfl, Nat.zero_le _, by simpa using first⟩
      · rw [List.flatMap_cons, List.length_append] at inside
        have further : cut - (frameOctets data).length < (frames.flatMap frameOctets).length := by
          omega
        obtain ⟨complete, broken, later, split, begins, ends⟩ := ih further
        refine ⟨data :: complete, broken, later, by rw [split]; rfl, ?_, ?_⟩
        · rw [List.flatMap_cons, List.length_append]
          omega
        · rw [List.flatMap_cons, List.length_append]
          omega

/-- A stream that ends inside a frame breaks off the call that reads it. -/
theorem unpackFrames_truncated {complete later : List Bytes} {data cut : Bytes}
    (bounded : Bounded maxSize (complete ++ data :: later)) {socket : Socket}
    (steady : socket.Steady) (closed : socket.closed = true)
    (arrives : socket.stream = complete.flatMap frameOctets ++ cut)
    (begun : ∃ rest, cut ++ rest = frameOctets data ∧ rest ≠ []) :
    unpackFrames maxSize (complete ++ data :: later).length socket =
      (complete, some (if cut.length < 4 then closedInLength else closedInData), ⟨[], true⟩) := by
  have earlier : Bounded maxSize complete := fun other member =>
    bounded other (List.mem_append_left _ member)
  obtain ⟨allowed, small⟩ := bounded data (by simp)
  obtain ⟨rest, whole, more⟩ := begun
  rw [← steady.ready_eq] at arrives
  obtain ⟨left, continues, unpacked⟩ := unpackFrames_append earlier arrives (later.length + 1)
  have front : left.ready ++ rest = frameOctets data := by rw [continues.ready, whole]
  have broken := unpackFrame_cut allowed small front more
  rw [brokenOff_continues continues, brokenOff, steady.afterTimeout] at broken
  simp only [closed, ↓reduceIte, continues.ready] at broken
  rw [List.length_append, List.length_cons, unpacked, unpackFrames, broken]
  simp only [List.append_nil]

end

/-- However the encodings of frames are cut into pieces, repeated calls return
exactly the frames and take exactly their octets. A stream that ends early
raises in the frame it ends in, after the frames before it, and a length above
the maximum raises before any of the data is read. -/
theorem framing_lossless {maxSize : Nat} {frames : List Bytes} (bounded : Bounded maxSize frames) :
    ∃ wire, packFrames frames = .ok wire ∧
      (∀ socket : Socket, socket.Steady → ∀ rest, socket.stream = wire ++ rest →
        ∃ left, unpackFrames maxSize frames.length socket = (frames, none, left) ∧
          left.Steady ∧ left.stream = rest) ∧
      (∀ socket : Socket, socket.Steady → socket.closed = true →
        ∀ cut, cut < wire.length → socket.stream = wire.take cut →
          ∃ complete data later error, frames = complete ++ data :: later ∧
            (complete.flatMap frameOctets).length ≤ cut ∧
            cut < (complete.flatMap frameOctets).length + (frameOctets data).length ∧
            unpackFrames maxSize frames.length socket = (complete, some error, ⟨[], true⟩) ∧
            error ∈ [closedInLength, closedInData]) ∧
      ∀ socket : Socket, socket.Steady → ∀ length, maxSize < length → length < 2 ^ 32 →
        ∀ rest, socket.stream = wire ++ (bigEndian length ++ rest) →
          ∃ left, unpackFrames maxSize (frames.length + 1) socket =
              (frames, some (oversized length maxSize), left) ∧ left.stream = rest := by
  refine ⟨_, packFrames_eq bounded, ?_, ?_, ?_⟩
  · intro socket steady rest arrives
    rw [← steady.ready_eq] at arrives
    obtain ⟨left, continues, unpacked⟩ := unpackFrames_append bounded arrives 0
    refine ⟨left, ?_, steady.continues continues⟩
    simpa [unpackFrames] using unpacked
  · intro socket steady closed cut inside arrives
    obtain ⟨complete, data, later, split, begins, ends⟩ := exists_cut inside
    let begun := (frameOctets data).take (cut - (complete.flatMap frameOctets).length)
    have front : socket.stream = complete.flatMap frameOctets ++ begun := by
      rw [arrives, split, List.flatMap_append, List.flatMap_cons, List.take_append,
        List.take_of_length_le begins, List.take_append_of_le_length (by omega)]
    subst split
    have truncated := unpackFrames_truncated bounded steady closed front
      ⟨_, List.take_append_drop _ _, by
        intro empty
        rw [List.drop_eq_nil_iff] at empty
        omega⟩
    refine ⟨complete, data, later, _, rfl, begins, ends, truncated, ?_⟩
    split <;> simp
  · intro socket steady length excess small rest arrives
    rw [← steady.ready_eq] at arrives
    obtain ⟨left, continues, unpacked⟩ := unpackFrames_append bounded arrives 1
    obtain ⟨last, raised, more⟩ := unpackFrame_oversized excess small continues.ready
    refine ⟨last, ?_, (steady.continues (continues.trans more)).2⟩
    rw [unpacked, unpackFrames, raised]
    simp

/-- Two frames, the second empty, in four pieces cut across their prefixes. -/
theorem pieces_read_back :
    ∃ left, unpackFrames 5 2
        ⟨[.piece 0 [], .piece 0 [0, 1], .piece 7 [0, 0], .piece 0 [0]], true⟩ =
      ([[7], []], none, left) ∧ left.Steady ∧ left.stream = [] := by
  have bounded : Bounded 5 [[7], []] := by
    intro data member
    simp only [List.mem_cons, List.not_mem_nil, or_false] at member
    rcases member with rfl | rfl <;> decide
  obtain ⟨wire, packed, whole, _⟩ := framing_lossless bounded
  cases packed
  exact whole _ (by decide) [] rfl

end DirectTransfer.Framing
