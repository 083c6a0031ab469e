import Mathlib.Data.List.Basic
import Mathlib.Order.RelClasses

/-! Labelled transition systems whose step is a partial function of the state
and a label. A run is guarded: every step taken satisfies a condition on the
state it leaves and on its label. -/

set_option autoImplicit false

namespace DirectTransfer.Library

variable {State Label : Type}

/-- Runs all of whose steps satisfy `guard` at the state they leave. -/
inductive Run (step : State → Label → Option State) (guard : State → Label → Prop) :
    State → List Label → State → Prop where
  | refl {state : State} : Run step guard state [] state
  | snoc {start middle finish : State} {labels : List Label} {label : Label} :
      Run step guard start labels middle → guard middle label →
      step middle label = some finish → Run step guard start (labels ++ [label]) finish

/-- The guard that admits every step. -/
abbrev anyStep (_ : State) (_ : Label) : Prop := True

namespace Run

variable {step : State → Label → Option State} {guard : State → Label → Prop}

/-- What every guarded step preserves holds of every state a guarded run reaches. -/
theorem invariant {invariant : State → Prop}
    (preserved : ∀ state label next, invariant state → guard state label →
      step state label = some next → invariant next)
    {start finish : State} {labels : List Label}
    (run : Run step guard start labels finish) (initial : invariant start) :
    invariant finish := by
  induction run with
  | refl => exact initial
  | snoc _ admitted stepped ih => exact preserved _ _ _ ih admitted stepped

theorem single {start finish : State} {label : Label} (admitted : guard start label)
    (stepped : step start label = some finish) : Run step guard start [label] finish :=
  Run.snoc .refl admitted stepped

theorem trans {start middle finish : State} {left right : List Label}
    (first : Run step guard start left middle) (second : Run step guard middle right finish) :
    Run step guard start (left ++ right) finish := by
  induction second with
  | refl => simpa using first
  | snoc _ admitted stepped ih =>
      rw [← List.append_assoc]
      exact .snoc ih admitted stepped

theorem cons {start middle finish : State} {label : Label} {labels : List Label}
    (admitted : guard start label) (stepped : step start label = some middle)
    (rest : Run step guard middle labels finish) :
    Run step guard start (label :: labels) finish :=
  (single admitted stepped).trans rest

theorem nil_inv {start finish : State} (run : Run step guard start [] finish) :
    start = finish := by
  generalize split : ([] : List Label) = all at run
  cases run with
  | refl => rfl
  | snoc => simp at split

/-- A run splits at its first step. -/
theorem cons_inv {start finish : State} {label : Label} {labels : List Label}
    (run : Run step guard start (label :: labels) finish) :
    ∃ middle, guard start label ∧ step start label = some middle ∧
      Run step guard middle labels finish := by
  generalize split : label :: labels = all at run
  induction run generalizing labels with
  | refl => cases split
  | @snoc before after earlier last earlierRun admitted stepped ih =>
      cases earlier with
      | nil =>
          cases split
          cases nil_inv earlierRun
          exact ⟨after, admitted, stepped, .refl⟩
      | cons head tail =>
          obtain ⟨rfl, rfl⟩ := List.cons.inj split
          obtain ⟨middle, headAdmitted, headStepped, rest⟩ := ih rfl
          exact ⟨middle, headAdmitted, headStepped, .snoc rest admitted stepped⟩

/-- A run through an append passes a state between the two halves. -/
theorem append_inv {start finish : State} {left right : List Label}
    (run : Run step guard start (left ++ right) finish) :
    ∃ middle, Run step guard start left middle ∧ Run step guard middle right finish := by
  induction left generalizing start with
  | nil => exact ⟨start, .refl, run⟩
  | cons label left ih =>
      obtain ⟨next, admitted, stepped, rest⟩ := cons_inv run
      obtain ⟨middle, first, second⟩ := ih rest
      exact ⟨middle, .cons admitted stepped first, second⟩

/-- The labels of a run determine where it ends. -/
theorem deterministic {other : State → Label → Prop} {start left right : State}
    {labels : List Label} (first : Run step guard start labels left)
    (second : Run step other start labels right) : left = right := by
  induction labels generalizing start with
  | nil => exact first.nil_inv.symm.trans second.nil_inv
  | cons label labels ih =>
      obtain ⟨middle, _, stepped, rest⟩ := first.cons_inv
      obtain ⟨same, _, again, others⟩ := second.cons_inv
      cases stepped.symm.trans again
      exact ih rest others

/-- A weaker condition admits every run a stronger one admits. -/
theorem weaken {wider : State → Label → Prop}
    (weaker : ∀ state label, guard state label → wider state label)
    {start finish : State} {labels : List Label} (run : Run step guard start labels finish) :
    Run step wider start labels finish := by
  induction run with
  | refl => exact .refl
  | snoc _ admitted stepped ih => exact .snoc ih (weaker _ _ admitted) stepped

/-- A run all of whose labels are admitted is guarded. -/
theorem of_labels {admitted : Label → Prop} {start finish : State} {labels : List Label}
    (run : Run step guard start labels finish) (all : ∀ label ∈ labels, admitted label) :
    Run step (fun _ label => admitted label) start labels finish := by
  induction run with
  | refl => exact .refl
  | snoc _ _ stepped ih =>
      refine .snoc (ih fun label member => all label (List.mem_append_left _ member)) ?_ stepped
      exact all _ (List.mem_append_right _ List.mem_cons_self)

/-- From a state that always has a step to another such state there are runs of any length. -/
theorem of_length (endless : State → Prop)
    (continues : ∀ state, endless state → ∃ label next, guard state label ∧
      step state label = some next ∧ endless next)
    {start : State} (initial : endless start) (length : Nat) :
    ∃ labels finish, Run step guard start labels finish ∧ labels.length = length ∧ endless finish := by
  induction length with
  | zero => exact ⟨[], start, .refl, rfl, initial⟩
  | succ length ih =>
      obtain ⟨labels, middle, run, counted, still⟩ := ih
      obtain ⟨label, finish, admitted, stepped, last⟩ := continues middle still
      exact ⟨labels ++ [label], finish, .snoc run admitted stepped, by simp [counted], last⟩

end Run

/-- No run from the state is longer than the bound. -/
def Within (step : State → Label → Option State) (guard : State → Label → Prop) (state : State)
    (bound : Nat) : Prop :=
  ∀ labels finish, Run step guard state labels finish → labels.length ≤ bound

namespace Within

variable {step : State → Label → Option State} {guard : State → Label → Prop} {state : State}

theorem of_steps {bound : Nat} (each : ∀ label next, guard state label →
    step state label = some next → Within step guard next bound) :
    Within step guard state (bound + 1) := by
  intro labels finish run
  cases labels with
  | nil => exact Nat.zero_le _
  | cons label labels =>
      obtain ⟨next, admitted, stepped, rest⟩ := run.cons_inv
      exact Nat.succ_le_succ (each label next admitted stepped labels finish rest)

theorem after_run {start : State} {labels : List Label} {bound : Nat}
    (within : Within step guard start bound) (run : Run step guard start labels state) :
    Within step guard state bound := by
  intro more finish later
  have whole := within _ _ (run.trans later)
  rw [List.length_append] at whole
  omega

theorem mono {bound wider : Nat} (within : Within step guard state bound) (le : bound ≤ wider) :
    Within step guard state wider := by
  intro labels finish run
  exact Nat.le_trans (within labels finish run) le

/-- A measure that every step makes smaller bounds the runs. -/
theorem of_measure (measure : State → Nat) (kept : State → Prop)
    (smaller : ∀ state label next, kept state → guard state label → step state label = some next →
      kept next ∧ measure next < measure state)
    (initial : kept state) : Within step guard state (measure state) := by
  intro labels finish run
  suffices counted : kept finish ∧ labels.length + measure finish ≤ measure state by omega
  induction run with
  | refl => exact ⟨initial, by simp⟩
  | snoc _ admitted stepped ih =>
      obtain ⟨still, counted⟩ := ih
      obtain ⟨keeps, less⟩ := smaller _ _ _ still admitted stepped
      exact ⟨keeps, by simp only [List.length_append, List.length_singleton]; omega⟩

end Within

/-- Executes a list of labels. -/
def runLabels (step : State → Label → Option State) : State → List Label → Option State
  | state, [] => some state
  | state, label :: labels => (step state label).bind fun next => runLabels step next labels

/-- An executed label list is a run under every guard that admits its labels. -/
theorem run_of_admitted {step : State → Label → Option State} {guard : State → Label → Prop}
    {start finish : State} {labels : List Label}
    (admitted : ∀ label ∈ labels, ∀ state, guard state label)
    (executed : runLabels step start labels = some finish) : Run step guard start labels finish := by
  induction labels generalizing start with
  | nil => cases executed; exact .refl
  | cons label labels ih =>
      cases stepped : step start label with
      | none => simp [runLabels, stepped] at executed
      | some next =>
          rw [runLabels, stepped] at executed
          exact .cons (admitted label (by simp) start) stepped
            (ih (fun later member => admitted later (by simp [member])) executed)

/-- A label list executed under a check is a run under every guard the check implies. -/
theorem run_of_checked {step : State → Label → Option State} {guard : State → Label → Prop}
    {check : State → Label → Bool}
    (sound : ∀ state label, check state label = true → guard state label)
    {start finish : State} {labels : List Label}
    (executed : runLabels (fun state label => if check state label then step state label else none)
      start labels = some finish) : Run step guard start labels finish := by
  induction labels generalizing start with
  | nil => cases executed; exact .refl
  | cons label labels ih =>
      by_cases checked : check start label = true
      · cases stepped : step start label with
        | none => simp [runLabels, checked, stepped] at executed
        | some next =>
            simp only [runLabels, checked, ↓reduceIte, stepped, Option.bind_some] at executed
            exact .cons (sound start label checked) stepped (ih executed)
      · simp [runLabels, checked] at executed

theorem run_of_runLabels {step : State → Label → Option State} {start finish : State}
    {labels : List Label} (executed : runLabels step start labels = some finish) :
    Run step anyStep start labels finish :=
  run_of_admitted (fun _ _ _ => trivial) executed

/-- Every run that goes on as long as it can comes to a good state. -/
inductive Inevitable (step : State → Label → Option State) (guard : State → Label → Prop)
    (good : State → Prop) : State → Prop where
  | here {state : State} : good state → Inevitable step guard good state
  | next {state : State} : (∃ label next, guard state label ∧ step state label = some next) →
      (∀ label next, guard state label → step state label = some next →
        Inevitable step guard good next) → Inevitable step guard good state

namespace Inevitable

variable {step : State → Label → Option State} {guard : State → Label → Prop}
  {good : State → Prop}

/-- One such run. -/
theorem run {start : State} (inevitable : Inevitable step guard good start) :
    ∃ labels finish, Run step guard start labels finish ∧ good finish := by
  induction inevitable with
  | @here state reached => exact ⟨[], state, .refl, reached⟩
  | next goes _ ih =>
      obtain ⟨label, next, admitted, stepped⟩ := goes
      obtain ⟨labels, finish, run, reached⟩ := ih label next admitted stepped
      exact ⟨label :: labels, finish, .cons admitted stepped run, reached⟩

/-- A state that can always go on, each time with less left, comes to a good one. -/
theorem of_measure {Rank : Type} [LT Rank] [WellFoundedLT Rank] (invariant : State → Prop)
    (left : State → Rank)
    (goes : ∀ state, invariant state → ∃ label next, guard state label ∧ step state label = some next)
    (descends : ∀ state label next, invariant state → guard state label →
      step state label = some next → good next ∨ (invariant next ∧ left next < left state))
    {start : State} (initial : invariant start) : Inevitable step guard good start := by
  generalize equal : left start = rank
  induction rank using WellFoundedLT.induction generalizing start with
  | ind rank ih =>
      refine .next (goes start initial) fun label next admitted stepped => ?_
      rcases descends start label next initial admitted stepped with reached | ⟨kept, less⟩
      · exact .here reached
      · exact ih (left next) (equal ▸ less) kept rfl

end Inevitable

end DirectTransfer.Library
