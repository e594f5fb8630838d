import Pathweave.RouterHealth

/-!
# What a subscriber knows of the transports

`TransportChanged` events are all that an application hears of the transports. The view that
they give is compared with the flags, along every interleaving of the monitors.
-/

namespace Pathweave

open GuardedRuns

set_option autoImplicit false

/-- An event is about the transport that comes up, or about the one that goes down. -/
def ChangeEvent.subject (event : ChangeEvent) : TransportKind := event.1.getD event.2

def viewAfter (kind : TransportKind) (up : Bool) (events : List ChangeEvent) : Bool :=
  events.foldl (fun up event => if event.subject = kind then event.1.isNone else up) up

/-- Whether the last search of a monitor for a fallback has found none. -/
def searchedInVain (found : Bool) (index : Nat) (choices : List (Nat × Option Nat)) : Bool :=
  choices.foldl (fun last choice => if choice.1 = index then choice.2.isNone else last) found

theorem view_unchanged {kind : TransportKind} {events : List ChangeEvent}
    (apart : ∀ event ∈ events, event.subject ≠ kind) (up : Bool) :
    viewAfter kind up events = up := by
  unfold viewAfter
  induction events with
  | nil => rfl
  | cons event rest ih =>
      rw [List.foldl_cons, if_neg (apart event List.mem_cons_self)]
      exact ih fun later among => apart later (List.mem_cons_of_mem _ among)

theorem search_unchanged {index : Nat} {choices : List (Nat × Option Nat)}
    (apart : ∀ choice ∈ choices, choice.1 ≠ index) (found : Bool) :
    searchedInVain found index choices = found := by
  unfold searchedInVain
  induction choices with
  | nil => rfl
  | cons choice rest ih =>
      rw [List.foldl_cons, if_neg (apart choice List.mem_cons_self)]
      exact ih fun later among => apart later (List.mem_cons_of_mem _ among)

theorem view_append (kind : TransportKind) (up : Bool) (before after : List ChangeEvent) :
    viewAfter kind up (before ++ after) = viewAfter kind (viewAfter kind up before) after :=
  List.foldl_append

theorem search_append (found : Bool) (index : Nat) (before after : List (Nat × Option Nat)) :
    searchedInVain found index (before ++ after) =
      searchedInVain (searchedInVain found index before) index after :=
  List.foldl_append

/-- What a subscriber has to see of a transport whose monitor is in a phase, if the last
search for a fallback was in vain or not. -/
def HealthTask.shown (task : HealthTask) (vain : Bool) : Bool :=
  match task.phase with
  | .initial => false
  | .sleeping | .changed _ => task.monitor.available || vain
  | .lowered _ wasAvailable => wasAvailable || vain
  | .choosing _ | .chosen _ _ => true
  | _ => vain

theorem advance_subject {task : HealthTask} {best : Option (Nat × TransportKind)}
    {addrs : Ipv4Set} {outcome : Bool} {event : ChangeEvent}
    (sent : event ∈ (task.advance best addrs outcome).events) : event.subject = task.kind := by
  obtain ⟨kind, cost, phase, monitor⟩ := task
  cases phase with
  | signalled current =>
      cases List.mem_singleton.mp sent
      rfl
  | chosen current next =>
      cases List.mem_singleton.mp sent
      rfl
  | choosing current =>
      cases best with
      | none => cases sent
      | some next => cases sent
  | _ => cases sent

/-- The phases in which the last search has named a fallback or there was none yet. -/
def HealthPhase.unfailing : HealthPhase → Bool
  | .initial | .chosen _ _ => true
  | _ => false

theorem shown_advance {task : HealthTask} (flagged : Flagged task) {vain : Bool}
    (unfailing : task.phase.unfailing = true → vain = false) (index : Nat)
    (best : Option (Nat × TransportKind)) (addrs : Ipv4Set) (outcome : Bool) :
    viewAfter task.kind (task.shown vain) (task.advance best addrs outcome).events =
      (task.advance best addrs outcome).task.shown (searchedInVain vain index
        ((task.advance best addrs outcome).choices.map (index, ·))) := by
  obtain ⟨kind, cost, phase, monitor⟩ := task
  cases phase with
  | initial => exact (unfailing rfl).symm
  | starting current =>
      have down : monitor.available = false := flagged false rfl
      cases outcome with
      | true => rfl
      | false =>
          show vain = (monitor.available || vain)
          rw [down, Bool.false_or]
  | startedUp current => rfl
  | raised current => rfl
  | signalled current =>
      have up : monitor.available = true := flagged true rfl
      show viewAfter kind vain [(none, kind)] = (monitor.available || vain)
      rw [up]
      simp [viewAfter, ChangeEvent.subject]
  | sleeping =>
      simp only [HealthTask.advance, HealthTask.quiet, HealthTask.move]
      split_ifs <;> rfl
  | changed current => rfl
  | lowered current wasAvailable =>
      cases wasAvailable with
      | true => rfl
      | false => exact Bool.false_or vain
  | choosing current =>
      cases best with
      | none => simp [HealthTask.advance, HealthTask.shown, viewAfter, searchedInVain]
      | some next => rfl
  | chosen current next =>
      have named : vain = false := unfailing rfl
      show viewAfter kind true [(some kind, next)] = vain
      rw [named]
      simp [viewAfter, ChangeEvent.subject]
  | stopping current => rfl

theorem unfailing_advance {task : HealthTask} (vain : Bool) (index : Nat)
    {best : Option (Nat × TransportKind)} {addrs : Ipv4Set} {outcome : Bool}
    (later : (task.advance best addrs outcome).task.phase.unfailing = true) :
    searchedInVain vain index
      ((task.advance best addrs outcome).choices.map (index, ·)) = false := by
  obtain ⟨kind, cost, phase, monitor⟩ := task
  cases phase with
  | choosing current =>
      cases best with
      | none => cases later
      | some next => simp [HealthTask.advance, searchedInVain]
  | starting current => cases outcome <;> cases later
  | sleeping =>
      simp only [HealthTask.advance, HealthTask.quiet, HealthTask.move] at later
      split_ifs at later <;> cases later
  | lowered current wasAvailable => cases wasAvailable <;> cases later
  | _ => cases later

/-- What subscribers see of every transport, if the kinds are distinct. -/
structure Viewed (state : RouterHealth) : Prop where
  flagged : ∀ task ∈ state.tasks, Flagged task
  known : ∀ choice ∈ state.choices, choice.1 < state.tasks.length
  subjects : ∀ event ∈ state.events, event.subject ∈ state.tasks.map HealthTask.kind
  unfailing : ∀ (index : Nat) (task : HealthTask), state.tasks[index]? = some task →
    task.phase.unfailing = true → searchedInVain false index state.choices = false
  view : (state.tasks.map HealthTask.kind).Nodup →
    ∀ (index : Nat) (task : HealthTask), state.tasks[index]? = some task →
      viewAfter task.kind false state.events =
        task.shown (searchedInVain false index state.choices)

section Viewed

variable {state : RouterHealth} {index : Nat} {task : HealthTask}

theorem viewed_registers (viewed : Viewed state) (kind : TransportKind) (cost : TransportCost) :
    Viewed { state with tasks := state.tasks ++ [.spawned kind cost] } := by
  refine ⟨?_, ?_, ?_, ?_, ?_⟩
  · intro task member
    rcases List.mem_append.mp member with old | added
    · exact viewed.flagged task old
    · rw [List.mem_singleton.mp added]
      exact flagged_spawned kind cost
  · intro choice among
    rw [List.length_append]
    exact Nat.lt_add_right _ (viewed.known choice among)
  · intro event sent
    rw [List.map_append]
    exact List.mem_append_left _ (viewed.subjects event sent)
  · intro place task found named
    rcases registered_task found with present | ⟨rfl, -⟩
    · exact viewed.unfailing place task present named
    · exact search_unchanged (fun choice among => Nat.ne_of_lt (viewed.known choice among)) false
  · intro distinct place task found
    rw [List.map_append, List.nodup_append] at distinct
    rcases registered_task found with present | ⟨-, rfl⟩
    · exact viewed.view distinct.1 place task present
    · apply view_unchanged
      intro event sent
      exact distinct.2.2 _ (viewed.subjects event sent) _ (List.mem_singleton_self _)

theorem applied_kinds {step : HealthStep} (present : state.tasks[index]? = some task)
    (same : step.task.kind = task.kind) :
    (state.applied index step).tasks.map HealthTask.kind = state.tasks.map HealthTask.kind := by
  obtain ⟨inside, rfl⟩ := List.getElem?_eq_some_iff.mp present
  have kinds : index < (state.tasks.map HealthTask.kind).length := by simpa using inside
  have unchanged := List.set_getElem_self kinds
  rw [List.getElem_map] at unchanged
  rw [RouterHealth.applied, List.map_set, same]
  exact unchanged

theorem kinds_apart (distinct : (state.tasks.map HealthTask.kind).Nodup)
    (present : state.tasks[index]? = some task) {place : Nat} {other : HealthTask}
    (there : state.tasks[place]? = some other) (apart : place ≠ index) :
    task.kind ≠ other.kind := by
  intro same
  apply apart
  have inside : place < (state.tasks.map HealthTask.kind).length := by
    rw [List.length_map]
    exact (List.getElem?_eq_some_iff.mp there).1
  apply (List.getElem?_inj inside distinct).mp
  rw [List.getElem?_map, List.getElem?_map, there, present, Option.map_some, Option.map_some, same]

theorem viewed_advances {best : Option (Nat × TransportKind)} {addrs : Ipv4Set} {outcome : Bool}
    (viewed : Viewed state) (present : state.tasks[index]? = some task) :
    Viewed (state.applied index (task.advance best addrs outcome)) := by
  have inside := (List.getElem?_eq_some_iff.mp present).1
  have flagged := viewed.flagged task (List.mem_of_getElem? present)
  have unfailing := viewed.unfailing index task present
  have kinds := applied_kinds present (task.advance_kind best addrs outcome)
  -- The choices of this monitor are nothing to the others.
  have others : ∀ place, place ≠ index → ∀ found,
      searchedInVain found place
        ((task.advance best addrs outcome).choices.map (index, ·)) = found := by
    intro place apart found
    apply search_unchanged
    intro choice among
    obtain ⟨-, -, rfl⟩ := List.mem_map.mp among
    exact apart.symm
  refine ⟨?_, ?_, ?_, ?_, ?_⟩
  · intro other member
    rcases List.mem_or_eq_of_mem_set member with old | rfl
    · exact viewed.flagged other old
    · exact flagged_advance task best addrs outcome flagged
  · intro choice among
    rw [RouterHealth.applied, List.length_set]
    rcases List.mem_append.mp among with old | new
    · exact viewed.known choice old
    · obtain ⟨-, -, rfl⟩ := List.mem_map.mp new
      exact inside
  · intro event sent
    rw [kinds]
    rcases List.mem_append.mp sent with old | new
    · exact viewed.subjects event old
    · rw [advance_subject new]
      exact List.mem_map_of_mem (List.mem_of_getElem? present)
  · intro place other found named
    rw [RouterHealth.applied, search_append]
    rcases applied_task present found with ⟨rfl, rfl⟩ | ⟨apart, old⟩
    · exact unfailing_advance _ place named
    · rw [others place apart]
      exact viewed.unfailing place other old named
  · intro distinct place other found
    rw [kinds] at distinct
    rw [RouterHealth.applied, view_append, search_append]
    rcases applied_task present found with ⟨rfl, rfl⟩ | ⟨apart, old⟩
    · rw [task.advance_kind, viewed.view distinct place task present]
      exact shown_advance flagged unfailing place best addrs outcome
    · rw [others place apart, viewed.view distinct place other old]
      apply view_unchanged
      intro event sent
      rw [advance_subject sent]
      exact kinds_apart distinct present old apart

theorem viewed_step {next : RouterHealth} {label : HealthLabel} (viewed : Viewed state)
    (taken : healthStep state label = some next) : Viewed next := by
  cases health_step_moves taken with
  | @registered kind cost => exact viewed_registers viewed kind cost
  | pushed =>
      exact ⟨viewed.flagged, viewed.known, viewed.subjects, viewed.unfailing, viewed.view⟩
  | advanced present => exact viewed_advances viewed present

theorem viewed_run {labels : List HealthLabel} (run : Run healthStep anyStep .new labels state) :
    Viewed state := by
  refine run_invariant Viewed (fun _ _ _ viewed _ taken => viewed_step viewed taken) run ?_
  refine ⟨?_, ?_, ?_, ?_, ?_⟩
  all_goals simp [RouterHealth.new]

end Viewed

/-- Who reads a `TransportChanged` event without a source as the arrival of its target, and
one with a source as the loss of that, knows of every transport that is up, except between
the raising of its flag and the event. A transport that is down while its monitor sleeps is
taken to be up exactly if its monitor found no other transport when it was last lost: that
loss is not announced. -/
theorem subscriber_sees_transports {labels : List HealthLabel} {state : RouterHealth}
    (run : Run healthStep anyStep .new labels state)
    (distinct : (state.tasks.map HealthTask.kind).Nodup) {index : Nat} {task : HealthTask}
    (present : state.tasks[index]? = some task) :
    (task.monitor.available = true → viewAfter task.kind false state.events = true ∨
      ∃ addrs, task.phase = .raised addrs ∨ task.phase = .signalled addrs) ∧
    (task.phase = .sleeping → task.monitor.available = false →
      viewAfter task.kind false state.events =
        searchedInVain false index state.choices) := by
  have viewed := viewed_run run
  have flagged := viewed.flagged task (List.mem_of_getElem? present)
  rw [viewed.view distinct index task present]
  constructor
  · intro up
    have raised : ∀ value, task.phase.flag = some value → value = true :=
      fun value flag => (flagged value flag).symm.trans up
    unfold HealthTask.shown
    cases phase : task.phase with
    | raised addrs => exact .inr ⟨addrs, .inl rfl⟩
    | signalled addrs => exact .inr ⟨addrs, .inr rfl⟩
    | sleeping | changed addrs =>
        left
        simp [up]
    | initial | starting addrs | startedUp addrs | lowered addrs wasAvailable | choosing addrs
    | chosen addrs next | stopping addrs =>
        rw [phase] at raised
        cases raised false rfl
  · intro sleeping down
    simp [HealthTask.shown, sleeping, down]

def onlyLost : List HealthLabel :=
  [.register .ble .free, .push 0] ++ List.replicate 5 (.advance 0 wifiAddrs true) ++
    List.replicate 6 (.advance 0 ∅ false)

theorem subscriber_sees_lost_transport :
    ∃ state task, Run healthStep anyStep .new onlyLost state ∧ state.tasks[0]? = some task ∧
      task.kind = .ble ∧ task.monitor.available = false ∧
      viewAfter .ble false state.events = true := by
  have finished : ((execute healthStep .new onlyLost).bind fun state =>
      (state.tasks[0]?).map fun task =>
        ((state.tasks.map HealthTask.kind, state.choices), task.kind, task.phase,
          task.monitor.available)) =
      some (([.ble], [(0, none)]), .ble, .sleeping, false) := by
    decide +kernel
  obtain ⟨state, reached, rest⟩ := Option.bind_eq_some_iff.mp finished
  obtain ⟨task, present, found⟩ := Option.map_eq_some_iff.mp rest
  simp only [Prod.mk.injEq] at found
  obtain ⟨⟨kinds, choices⟩, kind, sleeping, down⟩ := found
  have run := run_of_execute reached
  have distinct : (state.tasks.map HealthTask.kind).Nodup := by
    rw [kinds]
    exact List.nodup_singleton _
  have seen := (subscriber_sees_transports run distinct present).2 sleeping down
  rw [kind, choices] at seen
  exact ⟨state, task, run, present, kind, down, seen⟩

end Pathweave
