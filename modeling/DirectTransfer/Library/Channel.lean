import Mathlib.Data.List.Chain

/-! One direction of a connection: what is sent arrives in order and unchanged, as far
as it arrives. -/

set_option autoImplicit false

namespace DirectTransfer.Library

/-- What has arrived and what is on its way, both in the order they were sent. -/
structure Channel (Item : Type) where
  arrived : List Item
  waiting : List Item

namespace Channel

variable {Item : Type}

def empty : Channel Item := ⟨[], []⟩

/-- Everything that was sent. -/
def history (channel : Channel Item) : List Item := channel.arrived ++ channel.waiting

def send (channel : Channel Item) (item : Item) : Channel Item :=
  { channel with waiting := channel.waiting ++ [item] }

/-- The next item and the channel behind it. -/
def receive? (channel : Channel Item) : Option (Item × Channel Item) :=
  match channel.waiting with
  | [] => none
  | item :: rest => some (item, ⟨channel.arrived ++ [item], rest⟩)

variable {channel next : Channel Item} {item : Item}

@[simp] theorem history_empty : (empty : Channel Item).history = [] := rfl

@[simp] theorem arrived_send : (channel.send item).arrived = channel.arrived := rfl

@[simp] theorem history_send : (channel.send item).history = channel.history ++ [item] :=
  (List.append_assoc _ _ _).symm

theorem receive?_cases (taken : channel.receive? = some (item, next)) :
    channel.waiting = item :: next.waiting ∧ next.arrived = channel.arrived ++ [item] := by
  unfold receive? at taken
  cases waits : channel.waiting with
  | nil => simp [waits] at taken
  | cons first rest =>
      simp only [waits, Option.some.injEq, Prod.mk.injEq] at taken
      obtain ⟨same, rfl⟩ := taken
      exact ⟨same ▸ rfl, same ▸ rfl⟩

/-- Taking an item loses nothing. -/
theorem history_receive (taken : channel.receive? = some (item, next)) :
    next.history = channel.history := by
  obtain ⟨waits, arrived⟩ := receive?_cases taken
  simp [history, waits, arrived]

theorem receive?_mem (taken : channel.receive? = some (item, next)) : item ∈ channel.history := by
  obtain ⟨waits, _⟩ := receive?_cases taken
  simp [history, waits]

theorem arrived_receive (taken : channel.receive? = some (item, next)) :
    next.arrived.getLast? = some item := by
  rw [(receive?_cases taken).2, List.getLast?_concat]

/-! ## Neighbours -/

variable {Follows : Item → Item → Prop} {before : Item}

/-- What is true of neighbours when they are sent is true of the item that arrives next. -/
theorem follows_receive (chain : channel.history.IsChain Follows)
    (last : channel.arrived.getLast? = some before)
    (taken : channel.receive? = some (item, next)) : Follows before item := by
  obtain ⟨waits, _⟩ := receive?_cases taken
  unfold history at chain
  rw [List.isChain_append] at chain
  exact chain.2.2 before last item (by rw [waits]; rfl)

theorem chain_send (chain : channel.history.IsChain Follows)
    (follows : ∀ last, channel.history.getLast? = some last → Follows last item) :
    (channel.send item).history.IsChain Follows := by
  rw [history_send, List.isChain_append]
  refine ⟨chain, List.isChain_singleton item, fun last found next equal => ?_⟩
  cases equal
  exact follows last found

end Channel

end DirectTransfer.Library
