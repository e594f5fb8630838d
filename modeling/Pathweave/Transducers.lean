import Mathlib.Data.List.Infix

/-!
# Machines that answer their inputs in turn

Every input changes the state and may be answered. What a machine has answered to the
first inputs is never taken back, and two machines of which one reads the answers of the
other are one machine again.
-/

namespace Pathweave.Transducers

set_option autoImplicit false

variable {State Later Input Between Output : Type*}

abbrev Machine (State Input Output : Type*) := State → Input → State × Option Output

def after (machine : Machine State Input Output) (state : State) (inputs : List Input) : State :=
  inputs.foldl (fun state input => (machine state input).1) state

def answers (machine : Machine State Input Output) : State → List Input → List Output
  | _, [] => []
  | state, input :: rest =>
      (machine state input).2.toList ++ answers machine (machine state input).1 rest

/-- The second machine reads what the first one answers. -/
def cascade (first : Machine State Input Between) (second : Machine Later Between Output) :
    Machine (State × Later) Input Output := fun states input =>
  match first states.1 input with
  | (state, none) => ((state, states.2), none)
  | (state, some answer) => ((state, (second states.2 answer).1), (second states.2 answer).2)

variable (machine : Machine State Input Output) (state : State)

theorem answers_append (front back : List Input) :
    answers machine state (front ++ back) =
      answers machine state front ++ answers machine (after machine state front) back := by
  induction front generalizing state with
  | nil => rfl
  | cons input rest ih =>
      simp only [List.cons_append, answers, after, List.foldl_cons, List.append_assoc]
      rw [ih]
      rfl

theorem answers_of_initial {front whole : List Input} (shorter : front <+: whole) :
    answers machine state front <+: answers machine state whole := by
  obtain ⟨back, rfl⟩ := shorter
  rw [answers_append]
  exact List.prefix_append _ _

theorem answers_cascade (first : Machine State Input Between)
    (second : Machine Later Between Output) (state : State) (later : Later)
    (inputs : List Input) :
    answers (cascade first second) (state, later) inputs =
      answers second later (answers first state inputs) := by
  induction inputs generalizing state later with
  | nil => rfl
  | cons input rest ih =>
      cases answered : first state input with
      | mk next answer =>
          cases answer with
          | none =>
              simp only [answers, cascade, answered, Option.toList_none, List.nil_append]
              exact ih next later
          | some answer =>
              simp only [answers, cascade, answered, Option.toList_some, List.singleton_append]
              rw [ih]

end Pathweave.Transducers
