import DirectTransfer.Library.Transition

/-! A value kept in memory and written to a file after every change. Operations
compute the next value from the one in memory; the write that follows may fail. -/

set_option autoImplicit false

namespace DirectTransfer.Library

/-- A value in memory, and as the last successful write left it. -/
structure Persisted (α : Type) where
  memory : α
  file : α
  deriving DecidableEq

namespace Persisted

variable {α Operation Error : Type} (change : α → Operation → Except Error (Option α))
  (failure : Error)

def Agrees (store : Persisted α) : Prop := store.memory = store.file

/-- Performs an operation: it raises, leaves the value alone, or assigns the next
value in memory and writes it. -/
def perform (store : Persisted α) (operation : Operation) (written : Bool) :
    Persisted α × Except Error Unit :=
  match change store.memory operation with
  | .error error => (store, .error error)
  | .ok none => (store, .ok ())
  | .ok (some next) =>
      if written then (⟨next, next⟩, .ok ()) else (⟨next, store.file⟩, .error failure)

/-- Whether the write of an operation, where it makes one, is successful. -/
def Writes (store : Persisted α) (operation : Operation) (written : Bool) : Prop :=
  ∀ next, change store.memory operation = .ok (some next) → written = true

/-- Whether a failed write leaves nothing behind in memory. -/
def Settles (store : Persisted α) (operation : Operation) (written : Bool) : Prop :=
  ∀ next, change store.memory operation = .ok (some next) → written = true ∨ next = store.memory

/-- A test for it. -/
def settles [DecidableEq α] (store : Persisted α) (operation : Operation) (written : Bool) : Bool :=
  written || match change store.memory operation with
    | .ok (some next) => next = store.memory
    | _ => true

variable {change failure} {store : Persisted α} {operation : Operation} {written : Bool}

theorem settles_sound [DecidableEq α] (settles : settles change store operation written = true) :
    Settles change store operation written := by
  intro next changed
  simpa [Persisted.settles, changed] using settles

theorem Writes.settles (writes : Writes change store operation written) :
    Settles change store operation written :=
  fun next changed => .inl (writes next changed)

/-- From agreement, an operation ends in agreement exactly when it settles. -/
theorem perform_agrees_iff (agrees : store.Agrees) :
    (store.perform change failure operation written).1.Agrees ↔
      Settles change store operation written := by
  unfold perform Settles
  cases changed : change store.memory operation with
  | error error => simpa using agrees
  | ok outcome =>
      cases outcome with
      | none => simpa using agrees
      | some next =>
          cases written with
          | true => simp [Agrees]
          | false =>
              simp only [Bool.false_eq_true, ↓reduceIte, false_or, Except.ok.injEq,
                Option.some.injEq, forall_eq']
              rw [Agrees, ← show store.memory = store.file from agrees]

/-- An operation that writes raises only before it has changed anything. -/
theorem perform_raises {error : Error} (writes : Writes change store operation written)
    (raised : (store.perform change failure operation written).2 = .error error) :
    (store.perform change failure operation written).1 = store := by
  unfold perform at raised ⊢
  cases changed : change store.memory operation with
  | error error => rfl
  | ok outcome =>
      cases outcome with
      | none => rfl
      | some next =>
          simp only [changed, writes next changed, ↓reduceIte] at raised
          cases raised

/-- What an operation leaves when its write is successful. -/
theorem perform_written (writes : Writes change store operation written) :
    (store.perform change failure operation written).1 = store ∨
      ∃ next, change store.memory operation = .ok (some next) ∧
        (store.perform change failure operation written).1 = ⟨next, next⟩ := by
  unfold perform
  cases changed : change store.memory operation with
  | error error => exact .inl rfl
  | ok outcome =>
      cases outcome with
      | none => exact .inl rfl
      | some next => exact .inr ⟨next, rfl, by simp [writes next changed]⟩

/-! ## Runs -/

/-- One operation with the outcome of its write. -/
def step (change : α → Operation → Except Error (Option α)) (failure : Error)
    (store : Persisted α) (label : Operation × Bool) : Option (Persisted α) :=
  some (store.perform change failure label.1 label.2).1

/-- The operation ends in agreement, and where it raises the store is as it was. -/
def Sound (change : α → Operation → Except Error (Option α)) (failure : Error)
    (store : Persisted α) (label : Operation × Bool) : Prop :=
  (store.perform change failure label.1 label.2).1.Agrees ∧
    ∀ error, (store.perform change failure label.1 label.2).2 = .error error →
      (store.perform change failure label.1 label.2).1 = store

theorem sound_iff {label : Operation × Bool} (failure : Error) (agrees : store.Agrees) :
    Sound change failure store label ↔ Settles change store label.1 label.2 := by
  constructor
  · intro sound
    exact (perform_agrees_iff agrees).mp sound.1
  · intro settles
    refine ⟨(perform_agrees_iff agrees).mpr settles, fun error raised => ?_⟩
    unfold perform at raised ⊢
    cases changed : change store.memory label.1 with
    | error error => rfl
    | ok outcome =>
        cases outcome with
        | none => rfl
        | some next =>
            rcases settles next changed with successful | same
            · simp only [changed, successful, ↓reduceIte] at raised
              cases raised
            · simp only [changed] at raised ⊢
              split at raised
              · cases raised
              · next failed =>
                  rw [if_neg failed, same]

/-- A run is sound at every operation exactly when every operation settles. -/
theorem run_sound_iff {start finish : Persisted α} {labels : List (Operation × Bool)}
    (agrees : start.Agrees) :
    Run (step change failure) (Sound change failure) start labels finish ↔
      Run (step change failure) (fun store label => Settles change store label.1 label.2)
        start labels finish := by
  constructor
  · intro run
    suffices kept : finish.Agrees ∧ Run (step change failure)
        (fun store label => Settles change store label.1 label.2) start labels finish from kept.2
    induction run with
    | refl => exact ⟨agrees, .refl⟩
    | snoc _ sound stepped ih =>
        obtain ⟨before, settled⟩ := ih
        refine ⟨?_, .snoc settled ((sound_iff failure before).mp sound) stepped⟩
        cases stepped
        exact sound.1
  · intro run
    suffices kept : finish.Agrees ∧
        Run (step change failure) (Sound change failure) start labels finish from kept.2
    induction run with
    | refl => exact ⟨agrees, .refl⟩
    | snoc _ settles stepped ih =>
        obtain ⟨before, sounded⟩ := ih
        have sound := (sound_iff failure before).mpr settles
        refine ⟨?_, .snoc sounded sound stepped⟩
        cases stepped
        exact sound.1

end Persisted

end DirectTransfer.Library
