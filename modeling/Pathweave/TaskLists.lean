import Mathlib.Data.List.Basic

/-!
# Lists of tasks advanced by index

A scheduler picks a task by its position, replaces it by its continuation or removes
it. Every other task stays, and a property that some task has survives if the
replaced task hands it on.
-/

namespace Pathweave.TaskLists

set_option autoImplicit false

variable {Task : Type*} {tasks : List Task} {index : Nat} {task old new : Task}

theorem place_of_other (present : tasks[index]? = some old) (member : task ∈ tasks)
    (different : task ≠ old) : ∃ place, index ≠ place ∧ tasks[place]? = some task := by
  obtain ⟨place, found⟩ := List.mem_iff_getElem?.mp member
  apply Exists.intro place
  apply And.intro _ found
  intro same
  subst same
  exact different (Option.some.inj (found.symm.trans present))

theorem mem_set_of_ne (present : tasks[index]? = some old) (member : task ∈ tasks)
    (different : task ≠ old) : task ∈ tasks.set index new := by
  obtain ⟨place, apart, found⟩ := place_of_other present member different
  apply List.mem_iff_getElem?.mpr
  exact ⟨place, by rw [List.getElem?_set_ne apart, found]⟩

theorem mem_erase_idx_of_ne (present : tasks[index]? = some old) (member : task ∈ tasks)
    (different : task ≠ old) : task ∈ tasks.eraseIdx index := by
  obtain ⟨place, apart, found⟩ := place_of_other present member different
  exact List.mem_eraseIdx_iff_getElem?.mpr ⟨place, apart.symm, found⟩

theorem mem_set_new (present : tasks[index]? = some old) : new ∈ tasks.set index new :=
  List.mem_set (List.getElem?_eq_some_iff.mp present).1 new

theorem exists_mem_set {property : Task → Prop} (present : tasks[index]? = some old)
    (held : ∃ task ∈ tasks, property task) (kept : property old → property new) :
    ∃ task ∈ tasks.set index new, property task := by
  obtain ⟨task, member, holds⟩ := held
  by_cases same : task = old
  · subst same
    exact ⟨new, mem_set_new present, kept holds⟩
  · exact ⟨task, mem_set_of_ne present member same, holds⟩

end Pathweave.TaskLists
