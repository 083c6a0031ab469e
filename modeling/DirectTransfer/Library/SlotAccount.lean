import DirectTransfer.Library.Dictionary
import Mathlib.Data.Finset.Insert
import Mathlib.Data.Finset.Erase

/-! The slots of a bounded semaphore, kept beside the phase of everyone who takes
and returns one. -/

set_option autoImplicit false

namespace DirectTransfer.Library

variable {κ φ : Type} [DecidableEq κ]

/-- Free slots, the phases, and who released a slot and whether the semaphore took it. -/
structure SlotAccount (κ φ : Type) where
  free : Nat
  phases : Dict κ φ
  releases : List (κ × Bool)

namespace SlotAccount

def start (capacity : Nat) : SlotAccount κ φ := ⟨capacity, Dict.empty, []⟩

def move (account : SlotAccount κ φ) (key : κ) (phase : φ) : SlotAccount κ φ :=
  { account with phases := account.phases.set key phase }

def take (account : SlotAccount κ φ) (key : κ) (phase : φ) : SlotAccount κ φ :=
  { account with free := account.free - 1, phases := account.phases.set key phase }

/-- A bounded semaphore does not take a slot back beyond its capacity. -/
def give (capacity : Nat) (account : SlotAccount κ φ) (key : κ) (phase : φ) : SlotAccount κ φ where
  free := if account.free < capacity then account.free + 1 else account.free
  phases := account.phases.set key phase
  releases := (key, decide (account.free < capacity)) :: account.releases

def holders (holds : φ → Bool) (account : SlotAccount κ φ) : Nat :=
  account.phases.values.countP holds

/-- No slot is lost, and each was released by someone who has finished, once. -/
structure Balanced (capacity : Nat) (holds finished : φ → Bool) (account : SlotAccount κ φ) : Prop where
  conserved : account.free + account.holders holds = capacity
  taken : ∀ release ∈ account.releases, release.2 = true ∧
    ∃ phase, account.phases.get release.1 = some phase ∧ finished phase = true
  once : (account.releases.map Prod.fst).Nodup

/-- The members are those in a phase of the list. -/
def Enrols (listed : φ → Bool) (members : Finset κ) (phases : Dict κ φ) : Prop :=
  ∀ key, key ∈ members ↔ ∃ phase, phases.get key = some phase ∧ listed phase = true

section Balance

variable {capacity : Nat} {holds finished : φ → Bool} {account : SlotAccount κ φ} {key : κ}
  {old new : φ}

theorem Balanced.start : Balanced capacity holds finished (start capacity : SlotAccount κ φ) := by
  constructor
  · rfl
  · intro release member
    cases member
  · exact List.nodup_nil

/-- Releases stay accounted for while someone who has released nothing changes phase. -/
theorem Balanced.taken_set (balanced : Balanced capacity holds finished account)
    (going : ∀ phase, account.phases.get key = some phase → finished phase = false) :
    ∀ release ∈ account.releases, release.1 ≠ key ∧ release.2 = true ∧
      ∃ phase, (account.phases.set key new).get release.1 = some phase ∧ finished phase = true := by
  intro release member
  obtain ⟨accepted, phase, found, ended⟩ := balanced.taken release member
  have other : release.1 ≠ key := by
    intro same
    have still := going phase (same ▸ found)
    rw [ended] at still
    cases still
  exact ⟨other, accepted, phase, (Dict.get_set_ne other).trans found, ended⟩

theorem Balanced.enter (balanced : Balanced capacity holds finished account)
    (absent : account.phases.get key = none) (outside : holds new = false) :
    Balanced capacity holds finished (account.move key new) := by
  have going : ∀ phase, account.phases.get key = some phase → finished phase = false := by
    intro phase found
    cases absent.symm.trans found
  constructor
  · have counted := Dict.countP_values_set_of_absent absent new holds
    rw [outside] at counted
    rw [← balanced.conserved]
    exact congrArg (account.free + ·) counted
  · intro release member
    exact (balanced.taken_set going release member).2
  · exact balanced.once

theorem Balanced.move (balanced : Balanced capacity holds finished account)
    (found : account.phases.get key = some old) (going : finished old = false)
    (same : holds new = holds old) : Balanced capacity holds finished (account.move key new) := by
  constructor
  · have counted := Dict.countP_values_set found new holds
    rw [same] at counted
    have equal : (account.phases.set key new).values.countP holds =
        account.phases.values.countP holds := by omega
    rw [← balanced.conserved]
    exact congrArg (account.free + ·) equal
  · intro release member
    refine (balanced.taken_set ?_ release member).2
    intro phase again
    cases found.symm.trans again
    exact going
  · exact balanced.once

theorem Balanced.take (balanced : Balanced capacity holds finished account)
    (found : account.phases.get key = some old) (going : finished old = false)
    (without : holds old = false) (with_ : holds new = true) (left : account.free ≠ 0) :
    Balanced capacity holds finished (account.take key new) := by
  constructor
  · have counted := Dict.countP_values_set found new holds
    simp only [without, with_, if_true, Bool.false_eq_true, if_false, Nat.add_zero] at counted
    have before : account.free + account.phases.values.countP holds = capacity :=
      balanced.conserved
    change account.free - 1 + (account.phases.set key new).values.countP holds = capacity
    omega
  · intro release member
    refine (balanced.taken_set ?_ release member).2
    intro phase again
    cases found.symm.trans again
    exact going
  · exact balanced.once

theorem Balanced.give (balanced : Balanced capacity holds finished account)
    (found : account.phases.get key = some old) (going : finished old = false)
    (with_ : holds old = true) (without : holds new = false) (ended : finished new = true) :
    Balanced capacity holds finished (account.give capacity key new) := by
  have counted := Dict.countP_values_set found new holds
  simp only [without, with_, if_true, Bool.false_eq_true, if_false, Nat.add_zero] at counted
  have before : account.free + account.phases.values.countP holds = capacity := balanced.conserved
  have below : account.free < capacity := by omega
  have still : ∀ phase, account.phases.get key = some phase → finished phase = false := by
    intro phase again
    cases found.symm.trans again
    exact going
  have earlier := @Balanced.taken_set κ φ _ capacity holds finished account key new balanced still
  constructor
  · change (if account.free < capacity then account.free + 1 else account.free) +
      (account.phases.set key new).values.countP holds = capacity
    rw [if_pos below]
    omega
  · intro release member
    cases member with
    | head => exact ⟨decide_eq_true below, new, Dict.get_set_self _ _ _, ended⟩
    | tail _ member => exact (earlier release member).2
  · refine List.nodup_cons.mpr ⟨?_, balanced.once⟩
    intro again
    obtain ⟨release, member, same⟩ := List.mem_map.mp again
    exact (earlier release member).1 same

end Balance

section Enrolment

variable {listed : φ → Bool} {members : Finset κ} {phases : Dict κ φ} {key : κ} {old new : φ}

theorem Enrols.start : Enrols listed ∅ (Dict.empty : Dict κ φ) := by
  intro key
  simp

/-- Someone whose place in the list does not change. -/
theorem Enrols.keep (enrols : Enrols listed members phases)
    (same : key ∈ members ↔ listed new = true) : Enrols listed members (phases.set key new) := by
  intro other
  rw [Dict.get_set]
  by_cases equal : other = key
  · simp [equal, same]
  · simp only [equal, if_false]
    exact enrols other

theorem Enrols.enter (enrols : Enrols listed members phases) (absent : phases.get key = none)
    (outside : listed new = false) : Enrols listed members (phases.set key new) := by
  apply enrols.keep
  rw [enrols key, absent, outside]
  simp

theorem Enrols.move (enrols : Enrols listed members phases) (found : phases.get key = some old)
    (same : listed new = listed old) : Enrols listed members (phases.set key new) := by
  apply enrols.keep
  rw [enrols key, found, same]
  simp

theorem Enrols.add (enrols : Enrols listed members phases) (inside : listed new = true) :
    Enrols listed (insert key members) (phases.set key new) := by
  intro other
  rw [Dict.get_set, Finset.mem_insert]
  by_cases equal : other = key
  · simp [equal, inside]
  · simp only [equal, if_false, false_or]
    exact enrols other

theorem Enrols.remove (enrols : Enrols listed members phases) (outside : listed new = false) :
    Enrols listed (members.erase key) (phases.set key new) := by
  intro other
  rw [Dict.get_set, Finset.mem_erase]
  by_cases equal : other = key
  · simp [equal, outside]
  · simp only [equal, if_false, not_false_eq_true, true_and, ne_eq]
    exact enrols other

theorem Enrols.not_mem (enrols : Enrols listed members phases) (found : phases.get key = some old)
    (outside : listed old = false) : key ∉ members := by
  intro member
  obtain ⟨other, again, inside⟩ := (enrols key).mp member
  cases found.symm.trans again
  rw [outside] at inside
  cases inside

end Enrolment

end SlotAccount

end DirectTransfer.Library
