import Pathweave.RouterHealth

/-!
# Falling back to another transport

A monitor that takes its transport down asks `next_best_transport` for another one. It has
lowered its own flag before, so that monitors which lose their transports together hand
over in one direction only.
-/

namespace Pathweave

open GuardedRuns

set_option autoImplicit false

def HealthPhase.rises : HealthPhase → Bool
  | .startedUp _ => true
  | _ => false

def noRise (state : RouterHealth) : HealthLabel → Prop
  | .advance index _ _ => (state.tasks[index]?).map (fun task => task.phase.rises) ≠ some true
  | _ => True

instance (state : RouterHealth) (label : HealthLabel) : Decidable (noRise state label) :=
  match label with
  | .advance _ _ _ => inferInstanceAs (Decidable (_ ≠ _))
  | .register _ _ | .push _ => .isTrue trivial

def HealthPhase.fallsBack : HealthPhase → Bool
  | .lowered _ wasAvailable => wasAvailable
  | .choosing _ => true
  | _ => false

/-- The transport is down and its monitor looks for no fallback before it is up again. -/
def Spent (task : HealthTask) : Prop :=
  task.monitor.available = false ∧ task.phase.fallsBack = false

theorem spent_advance {task : HealthTask} (spent : Spent task)
    (stays : task.phase.rises = false) (best : Option (Nat × TransportKind)) (addrs : Ipv4Set)
    (outcome : Bool) : Spent (task.advance best addrs outcome).task := by
  obtain ⟨kind, cost, phase, monitor⟩ := task
  obtain ⟨down, quiet⟩ := spent
  cases phase with
  | startedUp current => cases stays
  | choosing current => cases quiet
  | sleeping =>
      refine ⟨down, ?_⟩
      simp only [HealthTask.advance, HealthTask.quiet, HealthTask.move]
      split_ifs <;> rfl
  | changed current => exact ⟨rfl, down⟩
  | starting current =>
      cases outcome with
      | true => exact ⟨down, rfl⟩
      | false => exact ⟨down, rfl⟩
  | lowered current wasAvailable =>
      cases quiet
      exact ⟨down, rfl⟩
  | initial | raised current | signalled current | chosen current next | stopping current =>
      exact ⟨down, rfl⟩

theorem choosing_spends {task : HealthTask} {current : Ipv4Set}
    (choosing : task.phase = .choosing current) (down : task.monitor.available = false)
    (best : Option (Nat × TransportKind)) (addrs : Ipv4Set) (outcome : Bool) :
    Spent (task.advance best addrs outcome).task := by
  unfold HealthTask.advance
  rw [choosing]
  cases best with
  | none => exact ⟨down, rfl⟩
  | some next => exact ⟨down, rfl⟩

theorem up_before_advance {task : HealthTask} (stays : task.phase.rises = false)
    {best : Option (Nat × TransportKind)} {addrs : Ipv4Set} {outcome : Bool}
    (up : (task.advance best addrs outcome).task.monitor.available = true) :
    task.monitor.available = true := by
  obtain ⟨kind, cost, phase, monitor⟩ := task
  cases phase with
  | startedUp current => cases stays
  | changed current => cases up
  | starting current =>
      cases outcome with
      | true => exact up
      | false => exact up
  | choosing current =>
      cases best with
      | none => exact up
      | some next => exact up
  | initial | sleeping | raised current | signalled current | lowered current wasAvailable
  | chosen current next | stopping current => exact up

theorem advance_choices {task : HealthTask} {best : Option (Nat × TransportKind)}
    {addrs : Ipv4Set} {outcome : Bool} :
    (task.advance best addrs outcome).choices = [] ∨
      (∃ current, task.phase = .choosing current) ∧
        (task.advance best addrs outcome).choices = [best.map Prod.fst] := by
  obtain ⟨kind, cost, phase, monitor⟩ := task
  cases phase with
  | choosing current =>
      cases best with
      | none => exact .inr ⟨⟨current, rfl⟩, rfl⟩
      | some next => exact .inr ⟨⟨current, rfl⟩, rfl⟩
  | _ => exact .inl rfl

def UpIn (state : RouterHealth) (index : Nat) : Prop :=
  ∃ task, state.tasks[index]? = some task ∧ task.monitor.available = true

/-- What holds while no transport comes up: the monitors that have looked for a fallback
are spent, so that none of them looks again or is chosen. -/
structure FallingBack (first : RouterHealth) (later : List (Nat × Option Nat))
    (state : RouterHealth) : Prop where
  choices : state.choices = first.choices ++ later
  flagged : ∀ task ∈ state.tasks, Flagged task
  spent : ∀ choice ∈ later, ∃ task, state.tasks[choice.1]? = some task ∧ Spent task
  up : ∀ index, UpIn state index → UpIn first index
  chosen : ∀ choice ∈ later, ∀ next, choice.2 = some next → UpIn first next
  forward : later.Pairwise fun earlier choice =>
    choice.1 ≠ earlier.1 ∧ choice.2 ≠ some earlier.1

section FallingBack

variable {first state : RouterHealth} {later : List (Nat × Option Nat)} {index : Nat}
  {task : HealthTask}

theorem falling_back_registers (falling : FallingBack first later state) (kind : TransportKind)
    (cost : TransportCost) :
    FallingBack first later { state with tasks := state.tasks ++ [.spawned kind cost] } := by
  refine ⟨falling.choices, ?_, ?_, ?_, falling.chosen, falling.forward⟩
  · intro task member
    rcases List.mem_append.mp member with old | added
    · exact falling.flagged task old
    · rw [List.mem_singleton.mp added]
      exact flagged_spawned kind cost
  · intro choice among
    obtain ⟨task, present, spent⟩ := falling.spent choice among
    refine ⟨task, ?_, spent⟩
    rw [List.getElem?_append_left (List.getElem?_eq_some_iff.mp present).1]
    exact present
  · rintro index ⟨task, found, available⟩
    rcases registered_task found with present | ⟨-, rfl⟩
    · exact falling.up index ⟨task, present, available⟩
    · cases available

theorem falling_back_silent {step : HealthStep} (falling : FallingBack first later state)
    (present : state.tasks[index]? = some task) (silent : step.choices = [])
    (flagged : Flagged step.task) (spent : Spent task → Spent step.task)
    (up : step.task.monitor.available = true → task.monitor.available = true) :
    FallingBack first later (state.applied index step) := by
  refine ⟨?_, ?_, ?_, ?_, falling.chosen, falling.forward⟩
  · rw [RouterHealth.applied, silent]
    simpa using falling.choices
  · intro other member
    rcases List.mem_or_eq_of_mem_set member with old | rfl
    · exact falling.flagged other old
    · exact flagged
  · intro choice among
    obtain ⟨owner, found, done⟩ := falling.spent choice among
    by_cases same : choice.1 = index
    · rw [same] at found ⊢
      cases present.symm.trans found
      refine ⟨step.task, ?_, spent done⟩
      exact List.getElem?_set_self (List.getElem?_eq_some_iff.mp present).1
    · refine ⟨owner, ?_, done⟩
      rw [RouterHealth.applied, List.getElem?_set_ne (Ne.symm same)]
      exact found
  · rintro place ⟨other, found, available⟩
    rcases applied_task present found with ⟨rfl, rfl⟩ | ⟨-, old⟩
    · exact falling.up place ⟨task, present, up available⟩
    · exact falling.up place ⟨other, old, available⟩

theorem falling_back_chooses {choice : Nat × Option Nat}
    (falling : FallingBack first later state)
    (spent : ∃ task, state.tasks[choice.1]? = some task ∧ Spent task)
    (up : ∀ next, choice.2 = some next → UpIn first next)
    (fresh : ∀ earlier ∈ later, choice.1 ≠ earlier.1 ∧ choice.2 ≠ some earlier.1) :
    FallingBack first (later ++ [choice]) { state with choices := state.choices ++ [choice] } := by
  refine ⟨?_, falling.flagged, ?_, falling.up, ?_, ?_⟩
  · rw [falling.choices, List.append_assoc]
  · intro other among
    rcases List.mem_append.mp among with old | new
    · exact falling.spent other old
    · rw [List.mem_singleton.mp new]
      exact spent
  · intro other among
    rcases List.mem_append.mp among with old | new
    · exact falling.chosen other old
    · rw [List.mem_singleton.mp new]
      exact up
  · refine List.pairwise_append.mpr ⟨falling.forward, List.pairwise_singleton .., ?_⟩
    intro earlier among other new
    rw [List.mem_singleton.mp new]
    exact fresh earlier among

/-- A monitor that is choosing has not chosen since, and what it chooses is up. -/
theorem falling_back_advances {addrs : Ipv4Set} {outcome : Bool}
    (falling : FallingBack first later state) (present : state.tasks[index]? = some task)
    (stays : task.phase.rises = false) :
    ∃ more, FallingBack first more
      (state.applied index (state.taskAdvance index task addrs outcome)) := by
  let best := (state.nextBest index).map fun entry => (entry.1, entry.2.kind)
  let step := task.advance best addrs outcome
  have flagged : Flagged task := falling.flagged task (List.mem_of_getElem? present)
  have moved : FallingBack first later (state.applied index { step with choices := [] }) :=
    falling_back_silent falling present rfl (flagged_advance task best addrs outcome flagged)
      (fun spent => spent_advance spent stays best addrs outcome) (up_before_advance stays)
  have chosen : step.choices = [] ∨ (∃ current, task.phase = .choosing current) ∧
      step.choices = [best.map Prod.fst] := advance_choices
  rcases chosen with silent | ⟨⟨current, choosing⟩, choice⟩
  · refine ⟨later, ?_⟩
    have same : ({ step with choices := [] } : HealthStep) = step := by rw [← silent]
    rw [same] at moved
    exact moved
  · have reached : state.applied index step =
        { state.applied index { step with choices := [] } with
          choices := (state.applied index { step with choices := [] }).choices ++
            [(index, best.map Prod.fst)] } := by
      simp [RouterHealth.applied, choice]
    have down : task.monitor.available = false := flagged false (by rw [choosing]; rfl)
    have upNow : ∀ next, best.map Prod.fst = some next → UpIn state next := by
      intro next found
      obtain ⟨⟨place, other⟩, chosen, rfl⟩ := Option.map_eq_some_iff.mp ((Option.map_map ..) ▸ found)
      obtain ⟨-, there, up⟩ := next_best_up chosen
      exact ⟨other, there, up⟩
    refine ⟨later ++ [(index, best.map Prod.fst)], ?_⟩
    show FallingBack first _ (state.applied index step)
    rw [reached]
    refine falling_back_chooses moved ?_ (fun next found => falling.up next (upNow next found)) ?_
    · exact ⟨step.task, List.getElem?_set_self (List.getElem?_eq_some_iff.mp present).1,
        choosing_spends choosing down best addrs outcome⟩
    · intro earlier among
      obtain ⟨owner, found, spent⟩ := falling.spent earlier among
      refine ⟨?_, ?_⟩
      · rintro rfl
        cases present.symm.trans found
        have quiet := spent.2
        rw [choosing] at quiet
        cases quiet
      · intro same
        obtain ⟨other, there, up⟩ := upNow _ same
        cases there.symm.trans found
        cases up.symm.trans spent.1

theorem falling_back_step {next : RouterHealth} {label : HealthLabel}
    (falling : ∃ later, FallingBack first later state) (allowed : noRise state label)
    (taken : healthStep state label = some next) : ∃ later, FallingBack first later next := by
  obtain ⟨later, falling⟩ := falling
  cases health_step_moves taken with
  | @registered kind cost => exact ⟨later, falling_back_registers falling kind cost⟩
  | pushed =>
      exact ⟨later, falling.choices, falling.flagged, falling.spent, falling.up, falling.chosen,
        falling.forward⟩
  | @advanced index addrs outcome task present =>
      have stays : task.phase.rises = false := by
        simpa [noRise, present] using allowed
      exact falling_back_advances falling present stays

end FallingBack

/-- Between two moments at which a transport comes up, the monitors that find their
transports down look for a fallback at most once each, in any interleaving. None is handed
over to that has looked before, so the hand-overs make no cycle, and whoever is handed over
to was up at the beginning. -/
theorem hand_overs_forward {labels more : List HealthLabel} {first last : RouterHealth}
    (run : Run healthStep anyStep .new labels first)
    (falling : Run healthStep noRise first more last) :
    ∃ later, last.choices = first.choices ++ later ∧
      (later.Pairwise fun earlier choice =>
        choice.1 ≠ earlier.1 ∧ choice.2 ≠ some earlier.1) ∧
      ∀ choice ∈ later, ∀ next, choice.2 = some next →
        ∃ task, first.tasks[next]? = some task ∧ task.monitor.available = true := by
  have flagged := tasks_run flagged_spawned flagged_advance run
  have initial : FallingBack first [] first :=
    ⟨(List.append_nil _).symm, flagged, fun _ among => absurd among List.not_mem_nil,
      fun _ up => up, fun _ among => absurd among List.not_mem_nil, .nil⟩
  obtain ⟨later, held⟩ := run_invariant (fun state => ∃ later, FallingBack first later state)
    (fun _ _ _ => falling_back_step) falling ⟨[], initial⟩
  exact ⟨later, held.choices, held.forward, held.chosen⟩

def bothUp : List HealthLabel :=
  [.register .ble .free, .push 0, .register .quic .unknown, .push 1] ++
    List.replicate 5 (.advance 0 wifiAddrs true) ++ List.replicate 5 (.advance 1 wifiAddrs true)

/-- Both monitors find the addresses gone. The first looks for a fallback while the other
transport is still up. -/
def bothLost : List HealthLabel :=
  [.advance 0 ∅ false, .advance 1 ∅ false, .advance 0 ∅ false, .advance 0 ∅ false,
    .advance 0 ∅ false, .advance 1 ∅ false, .advance 1 ∅ false, .advance 1 ∅ false]

theorem hand_overs_forward_both_lost :
    ∃ first last later, Run healthStep anyStep .new bothUp first ∧
      Run healthStep noRise first bothLost last ∧ last.choices = first.choices ++ later ∧
      later = [(0, some 1), (1, none)] ∧
      later.Pairwise fun earlier choice =>
        choice.1 ≠ earlier.1 ∧ choice.2 ≠ some earlier.1 := by
  have finished : ((execute healthStep .new bothUp).bind fun first =>
      (execute (fun state label => if noRise state label then healthStep state label else none)
        first bothLost).map fun last => (first.choices, last.choices)) =
      some ([], [(0, some 1), (1, none)]) := by
    decide +kernel
  obtain ⟨first, up, rest⟩ := Option.bind_eq_some_iff.mp finished
  obtain ⟨last, lost, choices⟩ := Option.map_eq_some_iff.mp rest
  obtain ⟨before, after⟩ := Prod.mk.inj choices
  have run := run_of_execute up
  have falling := run_of_execute_guarded lost
  obtain ⟨later, added, forward, -⟩ := hand_overs_forward run falling
  have whole := added
  rw [before, after, List.nil_append] at whole
  exact ⟨first, last, later, run, falling, added, whole.symm, forward⟩

end Pathweave
