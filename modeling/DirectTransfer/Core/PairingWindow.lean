import DirectTransfer.Core.Pairing
import DirectTransfer.Library.Transition

/-! The pairing inbox as a bounded map whose entries expire: what a caller can
see of it is told by the publications and removals so far, however late the
expired entries are taken out. An entry expires at the float nearest to the end of
its time, which may lie on either side of it. -/

set_option autoImplicit false

namespace DirectTransfer

open Library

inductive PairingCall where
  | publish (identity : PairingIdentity)
  | get (deviceId : PyStr)
  | all
  | pruneExpired
  | remove (deviceId : PyStr)
  | reject (deviceId : PyStr)

inductive PairingAnswer where
  | published (outcome : Except Raised Unit)
  | identity (found : Option PairingIdentity)
  | identities (listed : List PairingIdentity)
  | pruned (count : Nat)
  | removed (present : Bool)

namespace PairingInbox

def perform (inbox : PairingInbox) (clock later : Time) :
    PairingCall → PairingInbox × PairingAnswer
  | .publish identity =>
      let (next, outcome) := inbox.publish identity clock later
      (next, .published outcome)
  | .get deviceId =>
      let (next, found) := inbox.get deviceId clock
      (next, .identity found)
  | .all =>
      let (next, listed) := inbox.all clock
      (next, .identities listed)
  | .pruneExpired => (inbox.pruneExpired clock, .pruned (inbox.expired clock).length)
  | .remove deviceId => (inbox.remove deviceId, .removed (inbox.items.get deviceId).isSome)
  | .reject deviceId => (inbox.reject deviceId, .removed (inbox.items.get deviceId).isSome)

end PairingInbox

/-! ## What has been published and not removed -/

inductive PairingEvent where
  | published (identity : PairingIdentity) (time : Time)
  | removed (deviceId : PyStr)

/-- What a call that was answered so adds to the record. -/
def pairingEvents (later : Time) : PairingCall → PairingAnswer → List PairingEvent
  | .publish identity, .published (.ok ()) => [.published identity later]
  | .remove deviceId, _ | .reject deviceId, _ => [.removed deviceId]
  | _, _ => []

/-- The last identity published for a device and when, unless it was removed since;
the latest event comes first. -/
def standing : List PairingEvent → PyStr → Option (PairingIdentity × Time)
  | [], _ => none
  | .published identity time :: earlier, deviceId =>
      if identity.deviceId = deviceId then some (identity, time) else standing earlier deviceId
  | .removed removed :: earlier, deviceId =>
      if removed = deviceId then none else standing earlier deviceId

/-- An inbox with the clock at the end of the last call and the events so far. -/
structure PairingHistory where
  inbox : PairingInbox
  clock : Time
  events : List PairingEvent

/-- A call, with the clock at its first reading and at its second. -/
structure TimedCall where
  call : PairingCall
  clock : Time
  later : Time

namespace PairingHistory

def step (history : PairingHistory) (timed : TimedCall) : Option PairingHistory :=
  let (inbox, answer) := history.inbox.perform timed.clock timed.later timed.call
  some ⟨inbox, timed.later, pairingEvents timed.later timed.call answer ++ history.events⟩

/-- The clock does not run backwards. -/
def Advances (history : PairingHistory) (timed : TimedCall) : Prop :=
  history.clock ≤ timed.clock ∧ timed.clock ≤ timed.later

/-- The identity was the last one published for the device, was not removed since, and
its publication and `ttl` add up to more than `now`. -/
def Visible (history : PairingHistory) (ttl now : Time) (deviceId : PyStr)
    (identity : PairingIdentity) : Prop :=
  ∃ time, standing history.events deviceId = some (identity, time) ∧ now < floatAdd time ttl

/-- As many other devices as the inbox may hold are visible, and this one is not. -/
def Crowded (history : PairingHistory) (maxPending : Nat) (ttl now : Time) (deviceId : PyStr) :
    Prop :=
  (¬ ∃ identity, history.Visible ttl now deviceId identity) ∧
    ∃ others : List PyStr, others.Nodup ∧ others.length = maxPending ∧ deviceId ∉ others ∧
      ∀ other ∈ others, ∃ identity, history.Visible ttl now other identity

/-- What the inbox answers from here on, told by the record. -/
structure ShowsWindow (maxPending : Nat) (ttl : Time) (history : PairingHistory) : Prop where
  bounded : history.inbox.items.entries.length ≤ maxPending
  looksUp : ∀ now, history.clock ≤ now → ∀ deviceId identity,
    (history.inbox.get deviceId now).2 = some identity ↔ history.Visible ttl now deviceId identity
  recent : ∀ now, history.clock ≤ now → ∀ deviceId identity time,
    standing history.events deviceId = some (identity, time) →
      (now - time < ttl - floatSpacing (time + ttl) / 2 →
        (history.inbox.get deviceId now).2 = some identity) ∧
      ((history.inbox.get deviceId now).2 = some identity →
        now - time < ttl + floatSpacing (time + ttl) / 2)
  lists : ∀ now, history.clock ≤ now →
    ((history.inbox.all now).2.map PairingIdentity.deviceId).Nodup ∧
    (∀ identity, identity ∈ (history.inbox.all now).2 ↔
      history.Visible ttl now identity.deviceId identity) ∧
    (history.inbox.all now).2.Pairwise fun first second => second.receivedAt ≤ first.receivedAt
  publishes : ∀ now, history.clock ≤ now → ∀ later identity,
    ((history.inbox.publish identity now later).2 =
        .error (raised .protocolError "Pairing inbox is full") ↔
      history.Crowded maxPending ttl now identity.deviceId) ∧
    ((history.inbox.publish identity now later).2 = .ok () ↔
      ¬ history.Crowded maxPending ttl now identity.deviceId)
  refuses : ∀ now later identity error, history.clock ≤ now →
    (history.inbox.publish identity now later).2 = .error error → ∀ time, now ≤ time →
      (∀ deviceId, ((history.inbox.publish identity now later).1.get deviceId time).2 =
        (history.inbox.get deviceId time).2) ∧
      ((history.inbox.publish identity now later).1.all time).2 = (history.inbox.all time).2

/-! ## The invariant -/

/-- What is stored stands with its deadline, and what stands and has not expired is stored. -/
structure Windowed (maxPending : Nat) (ttl : Time) (history : PairingHistory) : Prop where
  lasting : history.inbox.ttl = ttl
  capacity : history.inbox.maxPending = maxPending
  bounded : history.inbox.items.entries.length ≤ maxPending
  stored : ∀ deviceId identity deadline,
    history.inbox.items.get deviceId = some (identity, deadline) →
      ∃ time, standing history.events deviceId = some (identity, time) ∧
        deadline = floatAdd time ttl
  complete : ∀ deviceId identity time, standing history.events deviceId = some (identity, time) →
    history.clock < floatAdd time ttl →
      history.inbox.items.get deviceId = some (identity, floatAdd time ttl)

theorem standing_named {events : List PairingEvent} {deviceId : PyStr}
    {identity : PairingIdentity} {time : Time}
    (stands : standing events deviceId = some (identity, time)) :
    identity.deviceId = deviceId := by
  induction events with
  | nil => cases stands
  | cons event earlier ih =>
      cases event with
      | published other published =>
          by_cases same : other.deviceId = deviceId
          · simp only [standing, same, if_true, Option.some.injEq, Prod.mk.injEq] at stands
            exact stands.1 ▸ same
          · exact ih (by simpa only [standing, same, if_false] using stands)
      | removed removed =>
          by_cases same : removed = deviceId
          · simp [standing, same] at stands
          · exact ih (by simpa only [standing, same, if_false] using stands)

theorem get_pruneExpired {inbox : PairingInbox} {now deadline : Time} {deviceId : PyStr}
    {identity : PairingIdentity} :
    (inbox.pruneExpired now).items.get deviceId = some (identity, deadline) ↔
      inbox.items.get deviceId = some (identity, deadline) ∧ now < deadline := by
  simp only [PairingInbox.pruneExpired, Dict.get_filter, Option.filter_eq_some_iff, decide_eq_true_eq]

section Windows

variable {maxPending : Nat} {ttl : Time} {history : PairingHistory}

/-- What is still there after a pruning is what stands and has not expired. -/
theorem Windowed.live (windowed : Windowed maxPending ttl history) {now deadline : Time}
    (reached : history.clock ≤ now) {deviceId : PyStr} {identity : PairingIdentity} :
    (history.inbox.pruneExpired now).items.get deviceId = some (identity, deadline) ↔
      ∃ time, standing history.events deviceId = some (identity, time) ∧
        deadline = floatAdd time ttl ∧ now < floatAdd time ttl := by
  rw [get_pruneExpired]
  constructor
  · intro held
    obtain ⟨time, stands, ends⟩ := windowed.stored deviceId identity deadline held.1
    exact ⟨time, stands, ends, ends ▸ held.2⟩
  · intro visible
    obtain ⟨time, stands, ends, left⟩ := visible
    rw [ends]
    exact ⟨windowed.complete deviceId identity time stands (lt_of_le_of_lt reached left), left⟩

theorem Windowed.visible_iff (windowed : Windowed maxPending ttl history) {now : Time}
    (reached : history.clock ≤ now) {deviceId : PyStr} {identity : PairingIdentity} :
    history.Visible ttl now deviceId identity ↔
      ∃ deadline, (history.inbox.pruneExpired now).items.get deviceId = some (identity, deadline) := by
  constructor
  · intro visible
    obtain ⟨time, stands, recent⟩ := visible
    exact ⟨floatAdd time ttl, (windowed.live reached).mpr ⟨time, stands, rfl, recent⟩⟩
  · intro held
    obtain ⟨deadline, found⟩ := held
    obtain ⟨time, stands, ends, left⟩ := (windowed.live reached).mp found
    exact ⟨time, stands, left⟩

/-- A pruning at a later time keeps the invariant. -/
theorem Windowed.pruned (windowed : Windowed maxPending ttl history) {now : Time}
    (reached : history.clock ≤ now) :
    Windowed maxPending ttl ⟨history.inbox.pruneExpired now, now, history.events⟩ := by
  constructor
  · exact windowed.lasting
  · exact windowed.capacity
  · exact Nat.le_trans List.filter_sublist.length_le windowed.bounded
  · intro deviceId identity deadline found
    obtain ⟨time, stands, ends, left⟩ := (windowed.live reached).mp found
    exact ⟨time, stands, ends⟩
  · intro deviceId identity time stands left
    exact (windowed.live reached).mpr ⟨time, stands, rfl, left⟩

theorem Windowed.waited (windowed : Windowed maxPending ttl history) {later : Time}
    (after : history.clock ≤ later) :
    Windowed maxPending ttl { history with clock := later } := by
  constructor
  · exact windowed.lasting
  · exact windowed.capacity
  · exact windowed.bounded
  · exact windowed.stored
  · intro deviceId identity time stands left
    exact windowed.complete deviceId identity time stands (lt_of_le_of_lt after left)

theorem Windowed.removed (windowed : Windowed maxPending ttl history) (deviceId : PyStr) :
    Windowed maxPending ttl
      ⟨history.inbox.remove deviceId, history.clock, .removed deviceId :: history.events⟩ := by
  constructor
  · exact windowed.lasting
  · exact windowed.capacity
  · exact Nat.le_trans List.filter_sublist.length_le windowed.bounded
  · intro other identity deadline found
    simp only [PairingInbox.remove, Dict.get_erase] at found
    split at found
    · cases found
    · next different =>
        simpa only [standing, Ne.symm different, if_false] using
          windowed.stored other identity deadline found
  · intro other identity time stands left
    by_cases same : deviceId = other
    · simp [standing, same] at stands
    · simp only [standing, same, if_false] at stands
      rw [PairingInbox.remove, Dict.get_erase_ne (Ne.symm same)]
      exact windowed.complete other identity time stands left

/-- Room for an identity: it replaces one, or the inbox is not full. -/
theorem Windowed.stores (windowed : Windowed maxPending ttl history) {identity : PairingIdentity}
    {later : Time} (after : history.clock ≤ later)
    (room : history.inbox.items.get identity.deviceId = none →
      history.inbox.items.entries.length < maxPending) :
    Windowed maxPending ttl
      ⟨{ history.inbox with
          items := history.inbox.items.set identity.deviceId (identity, floatAdd later ttl) },
        later, .published identity later :: history.events⟩ := by
  constructor
  · exact windowed.lasting
  · exact windowed.capacity
  · cases held : history.inbox.items.get identity.deviceId with
    | none =>
        rw [Dict.length_set_of_absent held]
        exact room held
    | some old =>
        rw [Dict.length_set_of_present held]
        exact windowed.bounded
  · intro other found deadline stored
    rw [Dict.get_set] at stored
    by_cases same : other = identity.deviceId
    · simp only [same, if_true, Option.some.injEq, Prod.mk.injEq] at stored
      exact ⟨later, by simp [standing, same, stored.1], stored.2.symm⟩
    · simp only [same, if_false] at stored
      simpa only [standing, Ne.symm same, if_false] using
        windowed.stored other found deadline stored
  · intro other found time stands left
    rw [Dict.get_set]
    by_cases same : identity.deviceId = other
    · simp only [standing, same, if_true, Option.some.injEq, Prod.mk.injEq] at stands
      rw [if_pos same.symm, stands.1, stands.2]
    · simp only [standing, same, if_false] at stands
      rw [if_neg (Ne.symm same)]
      exact windowed.complete other found time stands (lt_of_le_of_lt after left)

/-- When `publish` refuses, and what it leaves. -/
theorem publish_cases (inbox : PairingInbox) (identity : PairingIdentity) (clock later : Time) :
    ((inbox.pruneExpired clock).items.get identity.deviceId = none ∧
      inbox.maxPending ≤ (inbox.pruneExpired clock).items.entries.length ∧
      inbox.publish identity clock later = (inbox.pruneExpired clock,
        .error (raised .protocolError "Pairing inbox is full"))) ∨
    (((inbox.pruneExpired clock).items.get identity.deviceId = none →
        (inbox.pruneExpired clock).items.entries.length < inbox.maxPending) ∧
      inbox.publish identity clock later = ({ inbox.pruneExpired clock with
        items := (inbox.pruneExpired clock).items.set identity.deviceId
          (identity, floatAdd later inbox.ttl) }, .ok ())) := by
  by_cases full : ((inbox.pruneExpired clock).items.get identity.deviceId).isNone ∧
      inbox.maxPending ≤ (inbox.pruneExpired clock).items.entries.length
  · refine .inl ⟨Option.isNone_iff_eq_none.mp full.1, full.2, ?_⟩
    exact if_pos full
  · refine .inr ⟨?_, if_neg full⟩
    intro absent
    by_contra crowded
    exact full ⟨Option.isNone_iff_eq_none.mpr absent, Nat.le_of_not_lt crowded⟩

theorem pruneExpired_pruneExpired (inbox : PairingInbox) {now later : Time} (after : now ≤ later) :
    (inbox.pruneExpired now).pruneExpired later = inbox.pruneExpired later := by
  have same : (inbox.items.entries.filter fun entry => decide (now < entry.2.2)).filter
      (fun entry => decide (later < entry.2.2)) =
      inbox.items.entries.filter fun entry => decide (later < entry.2.2) := by
    rw [List.filter_filter]
    apply List.filter_congr
    intro entry _
    have kept : later < entry.2.2 → now < entry.2.2 := lt_of_le_of_lt after
    simpa using kept
  simp only [PairingInbox.pruneExpired, Dict.filter, PairingInbox.mk.injEq, Dict.mk.injEq, and_true]
  exact same

/-- One call keeps the invariant. -/
theorem Windowed.step (windowed : Windowed maxPending ttl history) {timed : TimedCall}
    {next : PairingHistory} (advances : history.Advances timed)
    (stepped : history.step timed = some next) : Windowed maxPending ttl next := by
  obtain ⟨call, clock, later⟩ := timed
  obtain ⟨reached, after⟩ := advances
  have pruned := windowed.pruned reached
  cases stepped
  cases call with
  | publish identity =>
      dsimp only
      cases publish_cases history.inbox identity clock later with
      | inl refused =>
          rw [refused.2.2]
          exact pruned.waited after
      | inr stored =>
          rw [stored.2, windowed.lasting]
          have room := stored.1
          rw [windowed.capacity] at room
          exact pruned.stores after room
  | get deviceId => exact pruned.waited after
  | all => exact pruned.waited after
  | pruneExpired => exact pruned.waited after
  | remove deviceId => exact (windowed.removed deviceId).waited (le_trans reached after)
  | reject deviceId => exact (windowed.removed deviceId).waited (le_trans reached after)

/-! ## What the invariant shows -/

theorem Windowed.looksUp (windowed : Windowed maxPending ttl history) {now : Time}
    (reached : history.clock ≤ now) (deviceId : PyStr) (identity : PairingIdentity) :
    (history.inbox.get deviceId now).2 = some identity ↔
      history.Visible ttl now deviceId identity := by
  rw [windowed.visible_iff reached, PairingInbox.get, Option.map_eq_some_iff]
  constructor
  · intro found
    obtain ⟨entry, held, same⟩ := found
    exact ⟨entry.2, same ▸ held⟩
  · intro found
    obtain ⟨deadline, held⟩ := found
    exact ⟨(identity, deadline), held, rfl⟩

/-- Half the spacing of the floats about the deadline is as far as the window is off. -/
theorem Windowed.recent (windowed : Windowed maxPending ttl history) {now time : Time}
    (reached : history.clock ≤ now) {deviceId : PyStr} {identity : PairingIdentity}
    (stands : standing history.events deviceId = some (identity, time)) :
    (now - time < ttl - floatSpacing (time + ttl) / 2 →
      (history.inbox.get deviceId now).2 = some identity) ∧
    ((history.inbox.get deviceId now).2 = some identity →
      now - time < ttl + floatSpacing (time + ttl) / 2) := by
  obtain ⟨above, below⟩ := abs_le.mp (abs_sub_roundFloat (time + ttl))
  rw [windowed.looksUp reached]
  constructor
  · intro early
    refine ⟨time, stands, ?_⟩
    rw [floatAdd]
    linarith
  · intro visible
    obtain ⟨published, same, left⟩ := visible
    rw [stands] at same
    cases same
    rw [floatAdd] at left
    linarith

theorem Windowed.lists (windowed : Windowed maxPending ttl history) {now : Time}
    (reached : history.clock ≤ now) :
    ((history.inbox.all now).2.map PairingIdentity.deviceId).Nodup ∧
    (∀ identity, identity ∈ (history.inbox.all now).2 ↔
      history.Visible ttl now identity.deviceId identity) ∧
    (history.inbox.all now).2.Pairwise fun first second =>
      second.receivedAt ≤ first.receivedAt := by
  let live := (history.inbox.pruneExpired now).items
  have permuted : (history.inbox.all now).2.Perm (live.entries.map fun entry => entry.2.1) :=
    List.mergeSort_perm _ _
  have named : ∀ entry ∈ live.entries, entry.2.1.deviceId = entry.1 := by
    intro entry member
    obtain ⟨time, stands, _⟩ := (windowed.live reached).mp (Dict.get_eq_some_iff.mpr member)
    exact standing_named stands
  refine ⟨?_, ?_, ?_⟩
  · have keys : (live.entries.map fun entry => entry.2.1).map PairingIdentity.deviceId =
        live.entries.map Prod.fst := by
      rw [List.map_map]
      exact List.map_congr_left named
    rw [(permuted.map PairingIdentity.deviceId).nodup_iff, keys]
    exact live.distinct
  · intro identity
    rw [permuted.mem_iff, windowed.visible_iff reached, List.mem_map]
    constructor
    · intro listed
      obtain ⟨entry, member, same⟩ := listed
      have key := named entry member
      refine ⟨entry.2.2, Dict.get_eq_some_iff.mpr ?_⟩
      rw [← same, key]
      exact member
    · intro found
      obtain ⟨deadline, held⟩ := found
      exact ⟨(identity.deviceId, identity, deadline), Dict.get_eq_some_iff.mp held, rfl⟩
  · have sorted : (history.inbox.all now).2.Pairwise fun first second =>
        decide (second.receivedAt ≤ first.receivedAt) = true := by
      apply List.pairwise_mergeSort
      · intro first second third latest later
        simp only [decide_eq_true_eq] at latest later ⊢
        exact le_trans later latest
      · intro first second
        simpa using le_total second.receivedAt first.receivedAt
    exact sorted.imp of_decide_eq_true

/-- The inbox is crowded when what is left after pruning fills it. -/
theorem Windowed.crowded_iff (windowed : Windowed maxPending ttl history) {now : Time}
    (reached : history.clock ≤ now) (deviceId : PyStr) :
    history.Crowded maxPending ttl now deviceId ↔
      (history.inbox.pruneExpired now).items.get deviceId = none ∧
        maxPending ≤ (history.inbox.pruneExpired now).items.entries.length := by
  let live := (history.inbox.pruneExpired now).items
  have visible : ∀ other, (∃ identity, history.Visible ttl now other identity) ↔
      other ∈ live.keys := by
    intro other
    rw [← not_iff_not, ← Dict.get_eq_none_iff]
    constructor
    · intro unseen
      cases held : live.get other with
      | none => rfl
      | some entry => exact absurd ⟨entry.1, (windowed.visible_iff reached).mpr ⟨entry.2, held⟩⟩ unseen
    · intro absent seen
      obtain ⟨identity, shown⟩ := seen
      obtain ⟨deadline, held⟩ := (windowed.visible_iff reached).mp shown
      cases absent.symm.trans held
  simp only [Crowded, visible]
  rw [Dict.get_eq_none_iff]
  constructor
  · intro crowded
    obtain ⟨absent, others, distinct, counted, _, shown⟩ := crowded
    have fits : others.length ≤ live.keys.length := (distinct.subperm shown).length_le
    exact ⟨absent, by simpa [Dict.keys, counted] using fits⟩
  · intro full
    have counted : live.keys.length = maxPending := by
      have bounded := (windowed.pruned reached).bounded
      have keys : live.keys.length = live.entries.length := List.length_map _
      exact keys.trans (Nat.le_antisymm bounded full.2)
    exact ⟨full.1, live.keys, live.distinct, counted, full.1, fun _ member => member⟩

theorem Windowed.publishes (windowed : Windowed maxPending ttl history) {now : Time}
    (reached : history.clock ≤ now) (later : Time) (identity : PairingIdentity) :
    ((history.inbox.publish identity now later).2 =
        .error (raised .protocolError "Pairing inbox is full") ↔
      history.Crowded maxPending ttl now identity.deviceId) ∧
    ((history.inbox.publish identity now later).2 = .ok () ↔
      ¬ history.Crowded maxPending ttl now identity.deviceId) := by
  rw [windowed.crowded_iff reached]
  have capacity := windowed.capacity
  cases publish_cases history.inbox identity now later with
  | inl refused =>
      obtain ⟨absent, full, outcome⟩ := refused
      rw [capacity] at full
      rw [outcome]
      exact ⟨iff_of_true rfl ⟨absent, full⟩, iff_of_false (fun ok => nomatch ok)
        (not_not_intro ⟨absent, full⟩)⟩
  | inr stored =>
      obtain ⟨room, outcome⟩ := stored
      rw [capacity] at room
      have open_ : ¬ ((history.inbox.pruneExpired now).items.get identity.deviceId = none ∧
          maxPending ≤ (history.inbox.pruneExpired now).items.entries.length) := by
        intro full
        exact absurd (room full.1) (Nat.not_lt.mpr full.2)
      rw [outcome]
      exact ⟨iff_of_false (fun failed => nomatch failed) open_, iff_of_true rfl open_⟩

theorem publish_refused {inbox : PairingInbox} {identity : PairingIdentity} {now later : Time}
    {error : Raised} (failed : (inbox.publish identity now later).2 = .error error) :
    (inbox.publish identity now later).1 = inbox.pruneExpired now := by
  cases publish_cases inbox identity now later with
  | inl refused => rw [refused.2.2]
  | inr stored => rw [stored.2] at failed; cases failed

theorem Windowed.shows (windowed : Windowed maxPending ttl history) :
    ShowsWindow maxPending ttl history := by
  constructor
  · exact windowed.bounded
  · intro now reached
    exact windowed.looksUp reached
  · intro now reached deviceId identity time stands
    exact windowed.recent reached stands
  · intro now reached
    exact windowed.lists reached
  · intro now reached later identity
    exact windowed.publishes reached later identity
  · intro now later identity error _ failed time after
    rw [publish_refused failed]
    simp only [PairingInbox.get, PairingInbox.all, pruneExpired_pruneExpired _ after, implies_true,
      and_self]

end Windows

/-- From any inbox that can be made, after any calls at times that do not run
backwards, the inbox shows exactly what the record of publications and removals says. -/
theorem shows_window {limit : Int} {ttl start : Time} {inbox : PairingInbox}
    (made : PairingInbox.create limit ttl = .ok inbox) {calls : List TimedCall}
    {history : PairingHistory}
    (run : Run step Advances ⟨inbox, start, []⟩ calls history) :
    ShowsWindow limit.toNat ttl history := by
  have initial : Windowed limit.toNat ttl ⟨inbox, start, []⟩ := by
    simp only [PairingInbox.create] at made
    split at made
    · cases made
    · split at made
      · cases made
      · cases made
        constructor
        · rfl
        · rfl
        · exact Nat.zero_le _
        · intro deviceId identity deadline found
          cases found
        · intro deviceId identity time stands
          cases stands
  have windowed := run.invariant
    (fun _ _ _ windowed advances stepped => windowed.step advances stepped) initial
  exact windowed.shows

def offeredIdentity (deviceId : String) : PairingIdentity :=
  ⟨py deviceId, py "key", py "fingerprint", py "10.0.0.2", 0, 8000⟩

/-- One place and two devices, the second of which comes back once the first has expired. -/
theorem one_place_window : ∃ inbox history, PairingInbox.create 1 5 = .ok inbox ∧
    Run step Advances ⟨inbox, 0, []⟩
      [⟨.publish (offeredIdentity "first"), 0, 0⟩, ⟨.publish (offeredIdentity "second"), 4, 4⟩,
        ⟨.publish (offeredIdentity "second"), 5, 5⟩, ⟨.all, 6, 6⟩] history ∧
    ShowsWindow 1 5 history := by
  have made : PairingInbox.create 1 5 = .ok ⟨Dict.empty, 1, 5⟩ := by
    rw [PairingInbox.create, if_neg (by norm_num), if_neg (by norm_num)]
    rfl
  have run : ∃ history, Run step Advances ⟨⟨Dict.empty, 1, 5⟩, 0, []⟩
      [⟨.publish (offeredIdentity "first"), 0, 0⟩, ⟨.publish (offeredIdentity "second"), 4, 4⟩,
        ⟨.publish (offeredIdentity "second"), 5, 5⟩, ⟨.all, 6, 6⟩] history :=
    ⟨_, .cons ⟨le_refl _, le_refl _⟩ rfl (.cons ⟨by norm_num, le_refl _⟩ rfl
      (.cons ⟨by norm_num, le_refl _⟩ rfl (.single ⟨by norm_num, le_refl _⟩ rfl)))⟩
  obtain ⟨history, run⟩ := run
  exact ⟨_, history, made, run, shows_window made run⟩

/-- The float nearest to 1000.1. -/
def publishedAt : Time := 8796972631510221 / 8796093022208

/-- The float nearest to 1090.1, less than 90 after the other. -/
def lookedUpAt : Time := 2397155250877235 / 2199023255552

/-- At the default `ttl` an identity published less than that ago is gone: 1000.1 and
90 add up to 1090.1, which is less than 90 after 1000.1. -/
theorem gone_before_ttl :
    PairingInbox.create 32 pairingRequestTtl = .ok PairingInbox.empty ∧
    lookedUpAt - publishedAt < pairingRequestTtl ∧
    ∃ history, Run step Advances ⟨PairingInbox.empty, publishedAt, []⟩
      [⟨.publish (offeredIdentity "peer"), publishedAt, publishedAt⟩] history ∧
      history.clock ≤ lookedUpAt ∧
      standing history.events (py "peer") = some (offeredIdentity "peer", publishedAt) ∧
      (history.inbox.get (py "peer") lookedUpAt).2 = none := by
  have made : PairingInbox.create 32 pairingRequestTtl = .ok PairingInbox.empty := by
    rw [PairingInbox.create, if_neg (by norm_num), if_neg (by norm_num [pairingRequestTtl])]
    rfl
  have published : Run step Advances ⟨PairingInbox.empty, publishedAt, []⟩
      [⟨.publish (offeredIdentity "peer"), publishedAt, publishedAt⟩] _ :=
    .single ⟨le_refl _, le_refl _⟩ rfl
  refine ⟨made, by norm_num [publishedAt, lookedUpAt, pairingRequestTtl], _, published, ?_⟩
  refine ⟨by norm_num [publishedAt, lookedUpAt], by decide +kernel, by decide +kernel⟩

end PairingHistory

end DirectTransfer
