import DirectTransfer.Core.Framing

/-! The sender's wait for the answer to its offer. Reading the answer starts
again after every time-out, whatever has been read of it by then. -/

set_option autoImplicit false

namespace DirectTransfer

open Library

namespace Framing

def receiveControlFrame (codec : Codec) (key : Bytes) (socket : Socket) :
    Except Raised Json × Socket :=
  match unpackFrame (headerMaxSize + 64) socket with
  | (.error error, left) => (.error error, left)
  | (.ok encrypted, left) => (do decodeControl codec (← decryptChunk codec.aead key encrypted), left)

end Framing

/-- How a wait ends, the control frames it sends, and how many octets each of
its calls has taken off the connection. -/
structure ApprovalWait where
  outcome : Except Raised Json
  sent : List Json
  taken : List Nat

/-- `_wait_for_approval`; for each iteration that begins before the deadline,
whether the batch has been cancelled by then. -/
def waitForApproval (codec : Codec) (key : Bytes) (transferId : PyStr) :
    List Bool → Socket → ApprovalWait
  | [], _ =>
      ⟨.error (raised .approvalTimeout "Peer did not respond to transfer request"), [], []⟩
  | true :: _, _ =>
      ⟨.error (raised .transferCancelled "Transfer cancelled"), [control "cancel" transferId], []⟩
  | false :: later, socket =>
      let (received, left) := Framing.receiveControlFrame codec key socket
      let octets := socket.stream.length - left.stream.length
      match received with
      | .ok payload => ⟨.ok payload, [], [octets]⟩
      | .error error =>
          if error.kind = .timeoutError then
            let rest := waitForApproval codec key transferId later left
            { rest with taken := octets :: rest.taken }
          else ⟨.error error, [], [octets]⟩

/-- The calls a wait makes unless it ends earlier. -/
def receptions (attempts : List Bool) : Nat := (attempts.takeWhile (· = false)).length

/-- What arrives up to the given number of time-outs. -/
def during : Nat → List Arrival → List Arrival
  | 0, _ => []
  | _ + 1, [] => []
  | count + 1, .timeout :: later => .timeout :: during count later
  | count + 1, .piece first rest :: later => .piece first rest :: during (count + 1) later

/-- Octets arrive before and after some time-out while the wait receives. -/
def Interrupted (attempts : List Bool) (arrivals : List Arrival) : Prop :=
  ∃ early late, during (receptions attempts) arrivals = early ++ .timeout :: late ∧
    Arrival.stream early ≠ [] ∧ Arrival.stream late ≠ []

/-- The wait gives the frame that was sent, or one of its own two exceptions,
and no two of its calls take octets. -/
structure PreservesFrames (payload : Json) (wait : ApprovalWait) : Prop where
  outcome : wait.outcome = .ok payload ∨
    ∃ error, wait.outcome = .error error ∧
      (error.kind = .approvalTimeout ∨ error.kind = .transferCancelled)
  whole : (wait.taken.filter (0 < ·)).length ≤ 1

/-! ## What a call takes -/

namespace Framing

variable {socket : Socket}

theorem brokenOff_stream (socket : Socket) (atEnd : Raised) :
    (brokenOff socket atEnd).2.stream.length + socket.ready.length = socket.stream.length := by
  rw [socket.stream_eq, List.length_append, brokenOff]
  cases socket.afterTimeout with
  | some later => exact Nat.add_comm _ _
  | none => exact Nat.add_comm _ _

theorem unpackData_stream (maxSize length : Nat) (socket : Socket) :
    (unpackData maxSize length socket).2.stream.length ≤ socket.stream.length := by
  by_cases excess : length > maxSize
  · rw [unpackData, if_pos excess]
  · have allowed := Nat.not_lt.mp excess
    by_cases enough : length ≤ socket.ready.length
    · obtain ⟨left, unpacked, continues⟩ := unpackData_ready allowed enough
      rw [unpacked, continues.stream, socket.stream_eq, List.length_append, List.length_append,
        List.length_drop]
      exact Nat.add_le_add_right (Nat.sub_le _ _) _
    · rw [unpackData_short allowed (Nat.not_le.mp enough)]
      have := brokenOff_stream socket closedInData
      omega

/-- A call that something is ready for takes at least one octet. -/
theorem unpackFrame_takes (maxSize : Nat) (waiting : socket.ready ≠ []) :
    (unpackFrame maxSize socket).2.stream.length < socket.stream.length := by
  match front : socket.ready with
  | first :: second :: third :: fourth :: body =>
      obtain ⟨left, continues, prefixed⟩ := unpackFrame_prefix maxSize front
      have later := unpackData_stream maxSize (bigEndianValue first second third fourth) left
      rw [continues.stream, List.length_append] at later
      rw [prefixed, socket.stream_eq, front, List.length_append]
      simp only [List.length_cons]
      omega
  | [] => exact (waiting front).elim
  | [_] | [_, _] | [_, _, _] =>
      have short : socket.ready.length < 4 := by rw [front]; simp
      have left := brokenOff_stream socket closedInLength
      rw [front] at left
      rw [unpackFrame_unprefixed short]
      simp only [List.length_cons, List.length_nil] at left
      omega

theorem receiveControlFrame_takes (codec : Codec) (key : Bytes) (waiting : socket.ready ≠ []) :
    (receiveControlFrame codec key socket).2.stream.length < socket.stream.length := by
  have takes := unpackFrame_takes (headerMaxSize + 64) waiting
  unfold receiveControlFrame
  split
  · next unpacked => rwa [unpacked] at takes
  · next unpacked => rwa [unpacked] at takes

end Framing

/-! ## What arrives during a wait -/

@[simp] theorem receptions_nil : receptions [] = 0 := rfl

@[simp] theorem receptions_cancelled (later : List Bool) : receptions (true :: later) = 0 := rfl

@[simp] theorem receptions_cons (later : List Bool) :
    receptions (false :: later) = receptions later + 1 := rfl

@[simp] theorem during_zero (arrivals : List Arrival) : during 0 arrivals = [] := by
  cases arrivals with
  | nil => rfl
  | cons => rfl

theorem during_beginning (count : Nat) (arrivals : List Arrival) :
    during count arrivals <+: arrivals := by
  induction arrivals generalizing count with
  | nil => cases count with
    | zero => exact List.prefix_refl _
    | succ => exact List.prefix_refl _
  | cons arrival later ih => cases count with
    | zero => exact List.nil_prefix
    | succ count => cases arrival with
      | piece first rest => exact List.prefix_cons_inj _ |>.mpr (ih (count + 1))
      | timeout => exact List.prefix_cons_inj _ |>.mpr (ih count)

theorem stream_during_beginning (count : Nat) (arrivals : List Arrival) :
    Arrival.stream (during count arrivals) <+: Arrival.stream arrivals := by
  obtain ⟨rest, split⟩ := during_beginning count arrivals
  exact ⟨Arrival.stream rest, by rw [← Arrival.stream_append, split]⟩

/-- One more call hears what is ready and, after a time-out, what the others hear. -/
theorem stream_during_succ (count : Nat) (arrivals : List Arrival) :
    Arrival.stream (during (count + 1) arrivals) = Arrival.ready arrivals ++
      ((Arrival.afterTimeout arrivals).map fun later =>
        Arrival.stream (during count later)).getD [] := by
  induction arrivals with
  | nil => rfl
  | cons arrival later ih => cases arrival with
    | piece first rest => simp [during, Arrival.octets, Arrival.ready, Arrival.afterTimeout, ih]
    | timeout => simp [during, Arrival.octets, Arrival.ready, Arrival.afterTimeout]

/-- The time-outs among the arrivals of a wait stand where they stand among all arrivals. -/
theorem during_after {arrivals later : List Arrival}
    (next : Arrival.afterTimeout arrivals = some later) (count : Nat) :
    ∃ pieces, Arrival.timeout ∉ pieces ∧ Arrival.stream pieces = Arrival.ready arrivals ∧
      during (count + 1) arrivals = pieces ++ .timeout :: during count later := by
  induction arrivals with
  | nil => cases next
  | cons arrival rest ih => cases arrival with
    | piece first octets =>
        obtain ⟨pieces, steady, front, split⟩ := ih next
        refine ⟨.piece first octets :: pieces, by simpa using steady, ?_, ?_⟩
        · simp [Arrival.octets, Arrival.ready, front]
        · rw [during, split, List.cons_append]
    | timeout =>
        cases next
        exact ⟨[], by simp, rfl, rfl⟩

theorem interrupted_cons_timeout (attempts : List Bool) (later : List Arrival) :
    Interrupted (false :: attempts) (.timeout :: later) ↔ Interrupted attempts later := by
  constructor
  · intro interrupted
    obtain ⟨early, late, split, before, after⟩ := interrupted
    cases early with
    | nil => exact (before rfl).elim
    | cons arrival early =>
        rw [receptions_cons, during, List.cons_append] at split
        obtain ⟨first, tail⟩ := List.cons.inj split
        subst first
        exact ⟨early, late, tail, before, after⟩
  · intro interrupted
    obtain ⟨early, late, split, before, after⟩ := interrupted
    refine ⟨.timeout :: early, late, ?_, before, after⟩
    rw [receptions_cons, during, split, List.cons_append]

/-- After a time-out inside the frame the wait is interrupted when it hears more. -/
theorem interrupted_iff {attempts : List Bool} {arrivals later : List Arrival}
    (waiting : Arrival.ready arrivals ≠ []) (next : Arrival.afterTimeout arrivals = some later) :
    Interrupted (false :: attempts) arrivals ↔
      Arrival.stream (during (receptions attempts) later) ≠ [] := by
  obtain ⟨pieces, steady, front, split⟩ := during_after next (receptions attempts)
  constructor
  · intro interrupted
    obtain ⟨early, late, parted, _, after⟩ := interrupted
    rw [receptions_cons, split] at parted
    intro silent
    apply after
    -- the time-out of `parted` is the first one or a later one
    rcases List.append_eq_append_iff.mp parted with ⟨middle, rfl, tail⟩ | ⟨middle, rfl, tail⟩
    · cases middle with
      | nil =>
          rw [← (List.cons.inj tail).2, silent]
      | cons arrival middle =>
          rw [List.cons_append] at tail
          have rest := congrArg Arrival.stream (List.cons.inj tail).2
          rw [silent, Arrival.stream_append] at rest
          exact (List.append_eq_nil_iff.mp (List.append_eq_nil_iff.mp rest.symm).2).2
    · cases middle with
      | nil =>
          rw [(List.cons.inj tail).2, silent]
      | cons arrival middle =>
          obtain ⟨rfl, _⟩ := List.cons.inj tail
          exact (steady (by simp)).elim
  · intro heard
    exact ⟨pieces, _, by rw [receptions_cons, split], by rwa [front], heard⟩

/-- What arrives before the first time-out is not interrupted. -/
theorem not_interrupted {attempts : List Bool} {arrivals : List Arrival}
    (all : Arrival.ready arrivals = Arrival.stream arrivals) (some : Arrival.ready arrivals ≠ []) :
    ¬ Interrupted (false :: attempts) arrivals := by
  cases next : Arrival.afterTimeout arrivals with
  | none =>
      intro interrupted
      obtain ⟨early, late, split, _⟩ := interrupted
      apply Arrival.afterTimeout_eq_none.mp next
      apply (during_beginning _ _).subset
      rw [split]
      simp
  | some later =>
      rw [interrupted_iff some next, not_not]
      have whole := Arrival.stream_eq arrivals
      rw [next, ← all] at whole
      have silent : Arrival.stream later = [] := by simpa using whole
      exact List.prefix_nil.mp (silent ▸ stream_during_beginning _ later)

/-! ## Waits -/

section

variable {codec : Codec} {key : Bytes} {transferId : PyStr} {socket : Socket}
  {attempts : List Bool}

namespace Framing

theorem receiveControlFrame_error (codec : Codec) (key : Bytes) {error : Raised} {left : Socket}
    (unpacked : unpackFrame (headerMaxSize + 64) socket = (.error error, left)) :
    receiveControlFrame codec key socket = (.error error, left) := by
  rw [receiveControlFrame, unpacked]

/-- With nothing ready a call times out and takes nothing. -/
theorem receiveControlFrame_silent {later : List Arrival} (empty : socket.ready = [])
    (next : socket.afterTimeout = some later) :
    receiveControlFrame codec key socket =
      (.error timedOut, { socket with arrivals := later }) := by
  apply receiveControlFrame_error codec key
  rw [unpackFrame_unprefixed (by rw [empty]; simp), brokenOff, next]

end Framing

/-- A call that times out hands over to the rest of the wait. -/
theorem wait_timedOut {left : Socket}
    (timed : Framing.receiveControlFrame codec key socket = (.error Framing.timedOut, left)) :
    waitForApproval codec key transferId (false :: attempts) socket =
      { waitForApproval codec key transferId attempts left with
        taken := (socket.stream.length - left.stream.length) ::
          (waitForApproval codec key transferId attempts left).taken } := by
  rw [waitForApproval, timed]
  rfl

theorem wait_taken (socket : Socket) :
    ∃ more, (waitForApproval codec key transferId (false :: attempts) socket).taken =
      (socket.stream.length - (Framing.receiveControlFrame codec key socket).2.stream.length) ::
        more := by
  rcases received : Framing.receiveControlFrame codec key socket with ⟨result, left⟩
  rw [waitForApproval, received]
  cases result with
  | ok payload => exact ⟨[], rfl⟩
  | error error =>
      by_cases timed : error.kind = .timeoutError
      · exact ⟨(waitForApproval codec key transferId attempts left).taken,
          by simp only [timed, ↓reduceIte]⟩
      · exact ⟨[], by simp only [timed, ↓reduceIte]⟩

/-- The next time-out of a connection on which octets are still to come but none is ready. -/
theorem exists_afterTimeout (more : socket.stream ≠ []) (empty : socket.ready = []) :
    ∃ later, socket.afterTimeout = some later ∧ Arrival.stream later = socket.stream := by
  have whole := socket.stream_eq
  rw [empty, List.nil_append] at whole
  cases next : socket.afterTimeout with
  | none =>
      rw [next] at whole
      exact (more whole).elim
  | some later =>
      rw [next] at whole
      exact ⟨later, rfl, whole.symm⟩

/-- A wait that hears nothing takes nothing and ends with an exception of its own. -/
theorem wait_silent (more : socket.stream ≠ [])
    (silent : Arrival.stream (during (receptions attempts) socket.arrivals) = []) :
    (∃ error, (waitForApproval codec key transferId attempts socket).outcome = .error error ∧
      (error.kind = .approvalTimeout ∨ error.kind = .transferCancelled)) ∧
    ∀ octets ∈ (waitForApproval codec key transferId attempts socket).taken, octets = 0 := by
  induction attempts generalizing socket with
  | nil => exact ⟨⟨_, rfl, .inl rfl⟩, by simp [waitForApproval]⟩
  | cons cancelled attempts ih => cases cancelled with
    | true => exact ⟨⟨_, rfl, .inr rfl⟩, by simp [waitForApproval]⟩
    | false =>
        rw [receptions_cons, stream_during_succ] at silent
        obtain ⟨empty, later⟩ := List.append_eq_nil_iff.mp silent
        obtain ⟨rest, next, same⟩ := exists_afterTimeout more empty
        rw [show Arrival.afterTimeout socket.arrivals = some rest from next] at later
        let left : Socket := { socket with arrivals := rest }
        have still : left.stream ≠ [] := by rw [Socket.stream, same]; exact more
        obtain ⟨ends, nothing⟩ := ih still later
        rw [wait_timedOut (Framing.receiveControlFrame_silent empty next)]
        refine ⟨ends, ?_⟩
        intro octets member
        rcases List.mem_cons.mp member with rfl | member
        · rw [show Socket.stream { socket with arrivals := rest } = socket.stream from same]
          exact Nat.sub_self _
        · exact nothing octets member

/-- A wait that hears something takes it. -/
theorem wait_heard
    (heard : Arrival.stream (during (receptions attempts) socket.arrivals) ≠ []) :
    ∃ octets ∈ (waitForApproval codec key transferId attempts socket).taken, 0 < octets := by
  induction attempts generalizing socket with
  | nil => exact (heard (by simp)).elim
  | cons cancelled attempts ih => cases cancelled with
    | true => exact (heard (by simp)).elim
    | false =>
        by_cases empty : socket.ready = []
        · rw [receptions_cons, stream_during_succ,
            show Arrival.ready socket.arrivals = [] from empty, List.nil_append] at heard
          cases next : socket.afterTimeout with
          | none =>
              rw [show Arrival.afterTimeout socket.arrivals = none from next] at heard
              exact (heard rfl).elim
          | some later =>
              rw [show Arrival.afterTimeout socket.arrivals = some later from next] at heard
              obtain ⟨octets, member, positive⟩ :=
                @ih { socket with arrivals := later } heard
              rw [wait_timedOut (Framing.receiveControlFrame_silent empty next)]
              exact ⟨octets, List.mem_cons_of_mem _ member, positive⟩
        · obtain ⟨more, taken⟩ := @wait_taken codec key transferId attempts socket
          have takes := Framing.receiveControlFrame_takes codec key empty
          refine ⟨_, by rw [taken]; exact List.mem_cons_self, ?_⟩
          omega

/-- Of two calls that take octets one begins inside the frame. -/
theorem not_preserves {payload : Json} {wait : ApprovalWait} {octets : Nat} {others : List Nat}
    (taken : wait.taken = octets :: others) (first : 0 < octets)
    (second : ∃ more ∈ others, 0 < more) : ¬ PreservesFrames payload wait := by
  intro preserves
  obtain ⟨more, member, positive⟩ := second
  have counted := preserves.whole
  have kept : more ∈ others.filter (0 < ·) := List.mem_filter.mpr ⟨member, by simpa using positive⟩
  have some := List.length_pos_of_mem kept
  rw [taken, List.filter_cons_of_pos (by simpa using first), List.length_cons] at counted
  omega

/-- When a call has been cut off inside the frame, the rest of the wait must hear nothing. -/
theorem preserves_cut_iff {payload : Json} {later : List Arrival}
    (timed : Framing.receiveControlFrame codec key socket =
      (.error Framing.timedOut, { socket with arrivals := later }))
    (waiting : socket.ready ≠ []) (next : socket.afterTimeout = some later)
    (more : Arrival.stream later ≠ []) :
    PreservesFrames payload (waitForApproval codec key transferId (false :: attempts) socket) ↔
      Arrival.stream (during (receptions attempts) later) = [] := by
  have taken : 0 < socket.stream.length - (Arrival.stream later).length := by
    have whole := congrArg List.length socket.stream_eq
    rw [next, List.length_append] at whole
    have some := List.length_pos_iff.mpr waiting
    simp only [Option.map_some, Option.getD_some] at whole
    omega
  constructor
  · intro preserves
    apply Classical.not_not.mp
    intro heard
    rw [wait_timedOut timed] at preserves
    exact not_preserves rfl taken (wait_heard heard) preserves
  · intro silent
    have nothing := @wait_silent codec key transferId { socket with arrivals := later } attempts
      more silent
    rw [wait_timedOut timed]
    refine ⟨.inr nothing.1, ?_⟩
    rw [List.filter_cons_of_pos (by simpa using taken), List.filter_eq_nil_iff.mpr]
    · simp
    · intro octets member
      simp [nothing.2 octets member]

end

/-- How much of a frame must be there before a call ends other than by a
time-out: the length of one that is too large, all of any other. -/
def decisive (codec : Codec) (payload : Json) (wire : Bytes) : Nat :=
  if (payload.dumps codec.floats).length ≤ controlTextLimit then wire.length else 4

section

variable {codec : Codec} {key nonce wire : Bytes} {payload : Json}

theorem decodeControl_error {raw : Bytes} {error : Raised}
    (failed : decodeControl codec raw = .error error) : error.kind = .protocolError := by
  unfold decodeControl at failed
  split at failed
  · cases failed
    rfl
  · split at failed <;> cases failed
    rfl

theorem sent_frame (keyed : key.length = 32)
    (sent : sendEncryptedFrame codec nonce key (encodeControl codec payload) = .ok wire) :
    wire = Framing.frameOctets (sealed codec nonce key (encodeControl codec payload)) ∧
      (sealed codec nonce key (encodeControl codec payload)).length < 2 ^ 32 := by
  rw [send_eq codec _ keyed, packFrame] at sent
  split at sent
  · next small =>
      cases sent
      exact ⟨rfl, small⟩
  · cases sent

/-- A frame cut off before it is decisive leaves the wait to the octets that follow. -/
theorem preserves_broken_iff {transferId : PyStr} {attempts : List Bool} {socket : Socket}
    {atEnd : Raised} (arrives : socket.stream = wire) (within : decisive codec payload wire ≤ wire.length)
    (waiting : socket.ready ≠ []) (short : socket.ready.length < decisive codec payload wire)
    (broken : Framing.unpackFrame (headerMaxSize + 64) socket = Framing.brokenOff socket atEnd) :
    PreservesFrames payload (waitForApproval codec key transferId (false :: attempts) socket) ↔
      ¬ Interrupted (false :: attempts) socket.arrivals ∧
        (decisive codec payload wire ≤
          (Arrival.stream (during (receptions (false :: attempts)) socket.arrivals)).length →
            Delivered codec key payload) := by
  have whole := socket.stream_eq
  cases next : socket.afterTimeout with
  | none =>
      rw [next, arrives] at whole
      have all := congrArg List.length whole
      simp only [Option.map_none, Option.getD_none, List.append_nil] at all
      omega
  | some later =>
      rw [next, arrives] at whole
      have more : Arrival.stream later ≠ [] := by
        intro empty
        have all := congrArg List.length whole
        simp only [Option.map_some, Option.getD_some, empty, List.append_nil] at all
        omega
      have timed := Framing.receiveControlFrame_error codec key
        (broken.trans (by rw [Framing.brokenOff, next]))
      rw [preserves_cut_iff timed waiting next more, interrupted_iff waiting next, not_not]
      constructor
      · intro silent
        refine ⟨silent, ?_⟩
        intro enough
        rw [receptions_cons, stream_during_succ,
          show Arrival.afterTimeout socket.arrivals = some later from next] at enough
        simp only [Option.map_some, Option.getD_some, silent, List.append_nil] at enough
        exact absurd enough (Nat.not_le.mpr short)
      · intro holds
        exact holds.1

/-- A frame that is there in one piece is returned as the decoder reads it. -/
theorem preserves_whole_iff {transferId : PyStr} {attempts : List Bool} {socket : Socket}
    (keyed : key.length = 32) (fresh : nonce.length = nonceSize)
    (fits : (payload.dumps codec.floats).length ≤ controlTextLimit)
    (small : (sealed codec nonce key (encodeControl codec payload)).length < 2 ^ 32)
    (front : socket.ready = Framing.frameOctets
      (sealed codec nonce key (encodeControl codec payload))) :
    PreservesFrames payload (waitForApproval codec key transferId (false :: attempts) socket) ↔
      Delivered codec key payload := by
  have allowed : (sealed codec nonce key (encodeControl codec payload)).length ≤
      headerMaxSize + 64 := by
    rw [sealed_length codec key _ fresh, encodeControl, encodeAscii_length]
    have limit : controlTextLimit + 28 = headerMaxSize + 64 := by decide
    omega
  rw [← List.append_nil (Framing.frameOctets _)] at front
  obtain ⟨left, unpacked, _⟩ := Framing.unpackFrame_whole allowed small front
  have received : Framing.receiveControlFrame codec key socket =
      (decodeControl codec (encodeControl codec payload), left) := by
    rw [Framing.receiveControlFrame, unpacked]
    simp only [bind, Except.bind, decrypt_sealed codec _ keyed fresh]
  rw [delivered_iff keyed, waitForApproval, received]
  cases decoded : decodeControl codec (encodeControl codec payload) with
  | ok other =>
      constructor
      · intro preserves
        rcases preserves.outcome with same | ⟨error, failed, _⟩
        · exact ⟨fits, same⟩
        · cases failed
      · intro same
        refine ⟨.inl same.2, ?_⟩
        exact List.length_filter_le _ _
  | error failure =>
      have kind : failure.kind = .protocolError := decodeControl_error decoded
      have notTimed : failure.kind ≠ .timeoutError := by rw [kind]; decide
      simp only [notTimed, ↓reduceIte]
      refine iff_of_false ?_ (fun same => by cases same.2)
      intro preserves
      rcases preserves.outcome with same | ⟨error, failed, own⟩
      · cases same
      · cases failed
        rw [kind] at own
        rcases own with own | own <;> cases own

/-- A frame that is too large ends the wait as soon as its length is there. -/
theorem not_preserves_oversized {transferId : PyStr} {attempts : List Bool} {socket : Socket}
    {body : Bytes} {length : Nat} (excess : headerMaxSize + 64 < length) (small : length < 2 ^ 32)
    (front : socket.ready = bigEndian length ++ body) :
    ¬ PreservesFrames payload
      (waitForApproval codec key transferId (false :: attempts) socket) := by
  obtain ⟨left, unpacked, _⟩ := Framing.unpackFrame_oversized excess small front
  intro preserves
  have outcome := preserves.outcome
  rw [waitForApproval, Framing.receiveControlFrame_error codec key unpacked] at outcome
  have notTimed : (Framing.oversized length (headerMaxSize + 64)).kind ≠ .timeoutError := by
    intro same
    cases same
  simp only [notTimed, ↓reduceIte] at outcome
  rcases outcome with same | ⟨error, failed, own⟩
  · cases same
  · cases failed
    rcases own with own | own <;> cases own

theorem preserves_cons_zero {wait : ApprovalWait} :
    PreservesFrames payload { wait with taken := 0 :: wait.taken } ↔
      PreservesFrames payload wait := by
  constructor
  · intro preserves
    exact ⟨preserves.outcome, preserves.whole⟩
  · intro preserves
    exact ⟨preserves.outcome, preserves.whole⟩

/-- The wait preserves the frames exactly when no octet of the answer follows a
time-out inside it while the wait still receives, and the answer is one that can
be delivered, unless the wait ends before its call can tell. -/
theorem wait_preserves_frames_iff (keyed : key.length = 32) (fresh : nonce.length = nonceSize)
    (sent : sendEncryptedFrame codec nonce key (encodeControl codec payload) = .ok wire)
    (transferId : PyStr) (attempts : List Bool) {socket : Socket} (arrives : socket.stream = wire) :
    PreservesFrames payload (waitForApproval codec key transferId attempts socket) ↔
      ¬ Interrupted attempts socket.arrivals ∧
        (decisive codec payload wire ≤
          (Arrival.stream (during (receptions attempts) socket.arrivals)).length →
            Delivered codec key payload) := by
  obtain ⟨octets, small⟩ := sent_frame keyed sent
  have sizes : (encodeControl codec payload).length = (payload.dumps codec.floats).length := by
    rw [encodeControl, encodeAscii_length]
  have size := sealed_length codec key (encodeControl codec payload) fresh
  have limit : controlTextLimit = 4132 := by decide
  have bound : headerMaxSize + 64 = 4160 := by decide
  have wireLength : wire.length = 32 + (payload.dumps codec.floats).length := by
    rw [octets, Framing.frameOctets_length, size, sizes]
    omega
  have within : 4 ≤ decisive codec payload wire ∧ decisive codec payload wire ≤ wire.length := by
    unfold decisive
    split <;> omega
  have ended (wait : ApprovalWait) (idle : wait.taken = [])
      (own : ∃ error, wait.outcome = .error error ∧
        (error.kind = .approvalTimeout ∨ error.kind = .transferCancelled)) :
      PreservesFrames payload wait := ⟨.inr own, by rw [idle]; simp⟩
  have noneHeard (arrivals : List Arrival) : ¬ Interrupted [] arrivals := by
    intro interrupted
    obtain ⟨early, late, split, _⟩ := interrupted
    simp at split
  induction attempts generalizing socket with
  | nil =>
      refine iff_of_true (ended _ rfl ⟨_, rfl, .inl rfl⟩) ⟨noneHeard _, ?_⟩
      intro enough
      simp only [receptions_nil, during_zero, Arrival.stream_nil, List.length_nil] at enough
      omega
  | cons cancelled attempts ih => cases cancelled with
    | true =>
        refine iff_of_true (ended _ rfl ⟨_, rfl, .inr rfl⟩) ⟨noneHeard _, ?_⟩
        intro enough
        simp only [receptions_cancelled, during_zero, Arrival.stream_nil, List.length_nil] at enough
        omega
    | false =>
        have some : socket.stream ≠ [] := by
          intro empty
          rw [empty] at arrives
          rw [← arrives] at wireLength
          simp only [List.length_nil] at wireLength
          omega
        by_cases empty : socket.ready = []
        · obtain ⟨later, next, same⟩ := exists_afterTimeout some empty
          have step := @ih { socket with arrivals := later } (same.trans arrives)
          have first : socket.arrivals = .timeout :: later := Arrival.eq_cons_timeout empty next
          rw [wait_timedOut (Framing.receiveControlFrame_silent empty next),
            show Socket.stream { socket with arrivals := later } = socket.stream from same,
            Nat.sub_self, first, interrupted_cons_timeout]
          exact preserves_cons_zero.trans step
        · have whole := socket.stream_eq
          rw [arrives] at whole
          by_cases fits : (payload.dumps codec.floats).length ≤ controlTextLimit
          · have all : decisive codec payload wire = wire.length := if_pos fits
            by_cases short : socket.ready.length < wire.length
            · have more : (socket.afterTimeout.map Arrival.stream).getD [] ≠ [] := by
                intro none
                rw [none, List.append_nil] at whole
                rw [whole] at short
                exact Nat.lt_irrefl _ short
              have allowed : (sealed codec nonce key (encodeControl codec payload)).length ≤
                  headerMaxSize + 64 := by omega
              have cut := Framing.unpackFrame_cut allowed small (whole.symm.trans octets) more
              exact preserves_broken_iff arrives within.2 empty (all ▸ short) cut
            · have front : socket.ready = wire := by
                apply List.IsPrefix.eq_of_length_le ⟨_, whole.symm⟩
                exact Nat.not_lt.mp short
              rw [preserves_whole_iff keyed fresh fits small (front.trans octets)]
              have quiet : ¬ Interrupted (false :: attempts) socket.arrivals :=
                not_interrupted (front.trans arrives.symm) empty
              have heard : decisive codec payload wire ≤
                  (Arrival.stream (during (receptions (false :: attempts)) socket.arrivals)).length := by
                rw [receptions_cons, stream_during_succ, List.length_append, all,
                  show Arrival.ready socket.arrivals = wire from front]
                exact Nat.le_add_right _ _
              simp only [quiet, not_false_eq_true, true_and, heard, forall_const]
          · have four : decisive codec payload wire = 4 := if_neg fits
            by_cases short : socket.ready.length < 4
            · exact preserves_broken_iff arrives within.2 empty (four ▸ short)
                (Framing.unpackFrame_unprefixed short)
            · obtain ⟨body, front⟩ : ∃ body, socket.ready = bigEndian
                  (sealed codec nonce key (encodeControl codec payload)).length ++ body := by
                obtain ⟨body, equal⟩ := List.prefix_of_prefix_length_le
                  ⟨_, rfl⟩ ⟨_, whole.symm.trans octets⟩
                  (show (bigEndian _).length ≤ socket.ready.length from Nat.not_lt.mp short)
                exact ⟨body, equal.symm⟩
              refine iff_of_false (not_preserves_oversized (by omega) small front) ?_
              intro holds
              have heard : decisive codec payload wire ≤
                  (Arrival.stream (during (receptions (false :: attempts)) socket.arrivals)).length := by
                rw [receptions_cons, stream_during_succ, List.length_append, four]
                exact Nat.le_add_right_of_le (Nat.not_lt.mp short)
              exact fits ((delivered_iff keyed payload).mp (holds.2 heard)).1

end

/-! ## An answer cut in its length prefix -/

def acceptance : Json :=
  .obj [(py "type", .str (py "transfer_response")),
    (py "transfer_id", .str (List.replicate 32 (chr '0'))), (py "accepted", .bool true)]

/-- The acceptance, encrypted under the zero key. -/
noncomputable def acceptanceFrame : Bytes :=
  sealed referenceCodec (List.replicate nonceSize 0) (List.replicate 32 0)
    (encodeControl referenceCodec acceptance)

theorem acceptance_short : (acceptance.dumps referenceCodec.floats).length ≤ controlTextLimit := by
  decide +kernel

theorem acceptance_sent :
    sendEncryptedFrame referenceCodec (List.replicate nonceSize 0) (List.replicate 32 0)
      (encodeControl referenceCodec acceptance) = .ok (Framing.frameOctets acceptanceFrame) := by
  have limit : controlTextLimit = 4132 := by decide
  have short := acceptance_short
  have size : acceptanceFrame.length = 28 + (encodeControl referenceCodec acceptance).length :=
    sealed_length referenceCodec _ _ (by simp)
  rw [encodeControl, encodeAscii_length] at size
  rw [send_eq _ _ (by simp), packFrame, if_pos]
  · rfl
  · change acceptanceFrame.length < 2 ^ 32
    omega

theorem acceptance_delivered : Delivered referenceCodec (List.replicate 32 0) acceptance := by
  apply (delivered_iff (by simp) _).mpr
  refine ⟨acceptance_short, decodeControl_encodeControl referenceCodec_inverts ?_ rfl⟩
  simp only [acceptance, Json.WellFormed, Json.WellFormedFields]
  refine ⟨by decide, by simp, by simp, by simp, pairFree_lowerHex (by decide), by simp, trivial,
    trivial⟩

/-- An answer that comes in one piece after a time-out is returned. -/
theorem late_acceptance_returned :
    PreservesFrames acceptance (waitForApproval referenceCodec (List.replicate 32 0)
      (List.replicate 32 (chr '0')) [false, false]
      ⟨.timeout :: Arrival.putBack (Framing.frameOctets acceptanceFrame) [], false⟩) := by
  have arrives : Socket.stream
      ⟨.timeout :: Arrival.putBack (Framing.frameOctets acceptanceFrame) [], false⟩ =
        Framing.frameOctets acceptanceFrame :=
    (Arrival.stream_putBack _ _).trans (List.append_nil _)
  apply (wait_preserves_frames_iff (by simp) (by simp) acceptance_sent _ _ arrives).mpr
  refine ⟨?_, fun _ => acceptance_delivered⟩
  rw [interrupted_cons_timeout]
  apply not_interrupted
  · simp [Arrival.ready]
  · simp [Arrival.ready, Framing.frameOctets, bigEndian]

/-- The first octet of an acceptance, a time-out, and the other octets. -/
noncomputable def cutAcceptance : List Arrival :=
  Arrival.putBack ((Framing.frameOctets acceptanceFrame).take 1)
    (.timeout :: Arrival.putBack ((Framing.frameOctets acceptanceFrame).drop 1) [])

theorem cut_acceptance_misread :
    buildResponse (List.replicate 32 (chr '0')) true none = .ok acceptance ∧
      sendEncryptedFrame referenceCodec (List.replicate nonceSize 0) (List.replicate 32 0)
        (encodeControl referenceCodec acceptance) = .ok (Arrival.stream cutAcceptance) ∧
      ¬ PreservesFrames acceptance (waitForApproval referenceCodec (List.replicate 32 0)
        (List.replicate 32 (chr '0')) [false, false] ⟨cutAcceptance, false⟩) := by
  have whole : Arrival.stream cutAcceptance = Framing.frameOctets acceptanceFrame := by
    rw [cutAcceptance, Arrival.stream_putBack, Arrival.stream_cons, Arrival.stream_putBack,
      Arrival.octets, List.nil_append, Arrival.stream_nil, List.append_nil, List.take_append_drop]
  refine ⟨by rfl, by rw [whole, acceptance_sent], ?_⟩
  let socket : Socket := ⟨cutAcceptance, false⟩
  have front : socket.ready = (Framing.frameOctets acceptanceFrame).take 1 := by
    rw [Socket.ready, show socket.arrivals = cutAcceptance from rfl, cutAcceptance,
      Arrival.ready_putBack, Arrival.ready, List.append_nil]
  have next : socket.afterTimeout =
      some (Arrival.putBack ((Framing.frameOctets acceptanceFrame).drop 1) []) := by
    rw [Socket.afterTimeout, show socket.arrivals = cutAcceptance from rfl, cutAcceptance,
      Arrival.afterTimeout_putBack, Arrival.afterTimeout]
  have short : socket.ready.length < 4 := by
    rw [front, List.length_take]
    omega
  have broken := Framing.receiveControlFrame_error referenceCodec (List.replicate 32 0)
    ((Framing.unpackFrame_unprefixed short).trans (by rw [Framing.brokenOff, next]))
  rw [preserves_cut_iff broken _ next]
  · exact List.cons_ne_nil _ _
  · simp [Framing.frameOctets, bigEndian]
  · rw [front]
    exact List.cons_ne_nil _ _

end DirectTransfer
