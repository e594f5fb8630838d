import Mathlib.Order.Basic

/-!
# Guarded runs of a labelled step function

A system is a partial step function: the label resolves every choice of the
scheduler and of the environment, so a list of labels is one interleaving. A
guard is a condition on the state before a step and on its label; a guarded run
takes only steps that meet it. Unconditional runs use the guard `anyStep`.
-/

namespace Pathweave.GuardedRuns

set_option autoImplicit false

variable {State Label : Type*}

def anyStep : State → Label → Prop := fun _ _ => True

/-- Runs grow at their end, so an induction over a run is an induction over
the last step taken. -/
inductive Run (step : State → Label → Option State) (guard : State → Label → Prop)
    (first : State) : List Label → State → Prop where
  | start : Run step guard first [] first
  | extend {labels : List Label} {label : Label} {state next : State}
      (prior : Run step guard first labels state)
      (allowed : guard state label)
      (taken : step state label = some next) :
      Run step guard first (labels ++ [label]) next

/-- The executable face of a run: the state after a list of labels, if every
step is enabled where it is taken. -/
def execute (step : State → Label → Option State) : State → List Label → Option State
  | state, [] => some state
  | state, label :: rest => (step state label).bind fun next => execute step next rest

variable {step : State → Label → Option State} {guard : State → Label → Prop}

theorem run_invariant (invariant : State → Prop)
    (preserved : ∀ state label next, invariant state → guard state label →
      step state label = some next → invariant next)
    {first last : State} {labels : List Label}
    (run : Run step guard first labels last) (initial : invariant first) :
    invariant last := by
  induction run with
  | start => exact initial
  | extend prior allowed taken ih => exact preserved _ _ _ ih allowed taken

/-- A rank that every step decreases bounds the length of every run, and so
rules out infinite ones. The invariant is available when the decrease is shown. -/
theorem run_length_le_rank (invariant : State → Prop) (rank : State → Nat)
    (preserved : ∀ state label next, invariant state → guard state label →
      step state label = some next → invariant next)
    (decreases : ∀ state label next, invariant state → guard state label →
      step state label = some next → rank next < rank state)
    {first last : State} {labels : List Label}
    (run : Run step guard first labels last) (initial : invariant first) :
    labels.length + rank last ≤ rank first := by
  induction run with
  | start => simp
  | extend prior allowed taken ih =>
      have held := run_invariant invariant preserved prior initial
      have smaller := decreases _ _ _ held allowed taken
      simp only [List.length_append, List.length_cons, List.length_nil]
      omega

theorem run_weaken {weaker : State → Label → Prop}
    (implied : ∀ state label, guard state label → weaker state label)
    {first last : State} {labels : List Label}
    (run : Run step guard first labels last) :
    Run step weaker first labels last := by
  induction run with
  | start => exact .start
  | extend prior allowed taken ih => exact .extend ih (implied _ _ allowed) taken

theorem run_append {first middle last : State} {before after : List Label}
    (front : Run step guard first before middle)
    (back : Run step guard middle after last) :
    Run step guard first (before ++ after) last := by
  induction back with
  | start => simpa using front
  | extend prior allowed taken ih =>
      rw [← List.append_assoc]
      exact .extend ih allowed taken

theorem run_one {first last : State} {label : Label} (taken : step first label = some last)
    (allowed : guard first label) : Run step guard first [label] last :=
  .extend .start allowed taken

theorem run_nil {first last : State} (run : Run step guard first [] last) : last = first := by
  generalize none : ([] : List Label) = all at run
  cases run with
  | start => rfl
  | extend prior allowed taken => simp at none

theorem run_snoc {first last : State} {labels : List Label} {label : Label}
    (run : Run step guard first (labels ++ [label]) last) :
    ∃ state, Run step guard first labels state ∧ guard state label ∧
      step state label = some last := by
  generalize whole : labels ++ [label] = all at run
  cases run with
  | start => simp at whole
  | extend prior allowed taken =>
      obtain ⟨sameLabels, sameLabel⟩ := List.append_inj' whole rfl
      cases sameLabels
      cases sameLabel
      exact ⟨_, prior, allowed, taken⟩

/-- The labels determine the run, so two guards that both hold along it hold together. -/
theorem run_and {other : State → Label → Prop} {first last final : State} {labels : List Label}
    (run : Run step guard first labels last) (again : Run step other first labels final) :
    final = last ∧
      Run step (fun state label => guard state label ∧ other state label) first labels last := by
  induction run generalizing final with
  | start => exact ⟨run_nil again, .start⟩
  | extend prior allowed taken ih =>
      obtain ⟨state, earlier, otherAllowed, otherTaken⟩ := run_snoc again
      obtain ⟨same, both⟩ := ih earlier
      subst same
      rw [taken] at otherTaken
      cases otherTaken
      exact ⟨rfl, .extend both ⟨allowed, otherAllowed⟩ taken⟩

/-- A system that matches every step of another one by a run of its own, from related states
to related states, matches its runs. -/
theorem run_simulated {Picture Act : Type*} {move : Picture → Act → Option Picture}
    {permitted : Picture → Act → Prop} (related : State → Picture → Prop)
    (matched : ∀ state label next picture, related state picture → guard state label →
      step state label = some next →
      ∃ acts after, Run move permitted picture acts after ∧ related next after)
    {first last : State} {labels : List Label} {picture : Picture}
    (run : Run step guard first labels last) (initial : related first picture) :
    ∃ acts after, Run move permitted picture acts after ∧ related last after := by
  induction run with
  | start => exact ⟨[], picture, .start, initial⟩
  | extend prior allowed taken ih =>
      obtain ⟨acts, middle, walked, held⟩ := ih
      obtain ⟨more, after, continued, again⟩ := matched _ _ _ _ held allowed taken
      exact ⟨acts ++ more, after, run_append walked continued, again⟩

/-- An executed list of labels is a guarded run if an invariant of the states
and a property of the labels imply the guard. -/
theorem guarded_run_of_execute (invariant : State → Prop) (permitted : Label → Prop)
    (guarded : ∀ state label, invariant state → permitted label → guard state label)
    (preserved : ∀ state label next, invariant state → permitted label →
      step state label = some next → invariant next)
    {first last : State} {labels : List Label} (initial : invariant first)
    (all : ∀ label ∈ labels, permitted label)
    (reached : execute step first labels = some last) :
    Run step guard first labels last := by
  induction labels generalizing first with
  | nil =>
      cases reached
      exact .start
  | cons label rest ih =>
      simp only [execute, Option.bind_eq_some_iff] at reached
      rcases reached with ⟨next, taken, continued⟩
      have permit := all label (List.mem_cons_self ..)
      have head : Run step guard first [label] next :=
        run_one taken (guarded first label initial permit)
      refine run_append head (ih (preserved first label next initial permit taken) ?_ continued)
      exact fun later listed => all later (List.mem_cons_of_mem _ listed)

theorem run_of_execute {first last : State} {labels : List Label}
    (reached : execute step first labels = some last) :
    Run step anyStep first labels last :=
  guarded_run_of_execute (fun _ => True) (fun _ => True) (fun _ _ _ _ => trivial)
    (fun _ _ _ _ _ _ => trivial) trivial (fun _ _ => trivial) reached

theorem execute_snoc {first state : State} {labels : List Label} (label : Label)
    (reached : execute step first labels = some state) :
    execute step first (labels ++ [label]) = step state label := by
  induction labels generalizing first with
  | nil =>
      cases reached
      simp [execute]
  | cons head rest ih =>
      simp only [execute, Option.bind_eq_some_iff, List.cons_append] at reached ⊢
      obtain ⟨next, taken, continued⟩ := reached
      rw [taken]
      exact ih continued

theorem execute_of_run {first last : State} {labels : List Label}
    (run : Run step guard first labels last) : execute step first labels = some last := by
  induction run with
  | start => rfl
  | extend prior allowed taken ih => rw [execute_snoc _ ih, taken]

/-- Executing with a decidable guard checked at every step gives a guarded run. -/
theorem run_of_execute_guarded [∀ state label, Decidable (guard state label)]
    {first last : State} {labels : List Label}
    (reached : execute (fun state label => if guard state label then step state label else none)
      first labels = some last) :
    Run step guard first labels last := by
  induction labels generalizing first with
  | nil =>
      cases reached
      exact .start
  | cons label rest ih =>
      simp only [execute, Option.bind_eq_some_iff] at reached
      rcases reached with ⟨next, taken, continued⟩
      split_ifs at taken with allowed
      exact run_append (run_one taken allowed) (ih continued)

end Pathweave.GuardedRuns
