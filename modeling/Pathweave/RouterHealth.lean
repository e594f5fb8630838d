import Pathweave.HealthMonitor

/-!
# The health monitors of a router

Every registered transport has a health monitor of its own. The monitors run side by side
and share the availability flags, which `next_best_transport` reads, and the channel of
events. Each access to something shared is one step, in any interleaving, but for
`next_best_transport`: it holds the lock of the list, and all the flags it reads are read
at once. A monitor that sleeps has done what `healthMonitor` does alone.
-/

namespace Pathweave

open GuardedRuns

set_option autoImplicit false

/-! ## One monitor, step by step -/

/-- Where `health_monitor` is, with the addresses of the last poll and what else its
variables hold. -/
inductive HealthPhase where
  | initial
  | starting (addrs : Ipv4Set)
  | startedUp (addrs : Ipv4Set)
  | raised (addrs : Ipv4Set)
  | signalled (addrs : Ipv4Set)
  | sleeping
  | changed (addrs : Ipv4Set)
  | lowered (addrs : Ipv4Set) (wasAvailable : Bool)
  | choosing (addrs : Ipv4Set)
  | chosen (addrs : Ipv4Set) (next : TransportKind)
  | stopping (addrs : Ipv4Set)
  deriving DecidableEq

structure HealthTask where
  kind : TransportKind
  cost : TransportCost
  phase : HealthPhase
  monitor : HealthMonitor Bool

abbrev ChangeEvent := Option TransportKind × TransportKind

/-- What a step of a monitor shows to others: its events, and the transport that
`next_best_transport` has chosen. -/
structure HealthStep where
  task : HealthTask
  events : List ChangeEvent
  choices : List (Option Nat)

namespace HealthTask

def spawned (kind : TransportKind) (cost : TransportCost) : HealthTask where
  kind := kind
  cost := cost
  phase := .initial
  monitor := { prevAddrs := ∅, inRecovery := true, available := false, log := [] }

variable (task : HealthTask)

def move (phase : HealthPhase) (action : MonitorAction Bool) : HealthTask :=
  { task with
    phase := phase
    monitor := { task.monitor with log := action :: task.monitor.log } }

def setAvailable (phase : HealthPhase) (value : Bool) : HealthTask :=
  { task with
    phase := phase
    monitor :=
      { task.monitor with
        available := value
        log := .setAvailable value :: task.monitor.log } }

def recovered (addrs : Ipv4Set) : HealthTask :=
  { task with
    phase := .sleeping
    monitor :=
      { task.monitor with
        prevAddrs := addrs
        inRecovery := false
        log := .transportChanged none task.kind :: task.monitor.log } }

def failed : HealthTask :=
  { task with
    phase := .sleeping
    monitor := { task.monitor with inRecovery := true, log := .start false :: task.monitor.log } }

def quiet (next : HealthTask) : HealthStep := { task := next, events := [], choices := [] }

/-- The next step. The arguments are what the environment answers: the transport that
`next_best_transport` would find, the addresses that a poll would read and the outcome
of `start`. -/
def advance (best : Option (Nat × TransportKind)) (addrs : Ipv4Set) (outcome : Bool) :
    HealthStep :=
  match task.phase with
  | .initial =>
      let polled := task.move (.starting addrs) (.poll addrs)
      quiet { polled with monitor := { polled.monitor with prevAddrs := addrs } }
  | .starting current =>
      quiet (if outcome then task.move (.startedUp current) (.start true) else task.failed)
  | .startedUp current => quiet (task.setAvailable (.raised current) true)
  | .raised current => quiet (task.move (.signalled current) (.sendStarted true))
  | .signalled current =>
      { task := task.recovered current, events := [(none, task.kind)], choices := [] }
  | .sleeping =>
      quiet (task.move
        (if !task.monitor.inRecovery && decide (addrs = task.monitor.prevAddrs) then .sleeping
          else .changed addrs) (.poll addrs))
  | .changed current =>
      quiet (task.setAvailable (.lowered current task.monitor.available) false)
  | .lowered current wasAvailable =>
      quiet (task.move (if wasAvailable then .choosing current else .stopping current)
        (.sendStarted false))
  | .choosing current =>
      match best with
      | some (next, kind) =>
          { task := { task with phase := .chosen current kind }
            events := []
            choices := [some next] }
      | none =>
          { task := { task with phase := .stopping current }, events := [], choices := [none] }
  | .chosen current next =>
      { task := task.move (.stopping current) (.transportChanged (some task.kind) next)
        events := [(some task.kind, next)]
        choices := [] }
  | .stopping current => quiet (task.move (.starting current) .stop)

theorem advance_kind (best : Option (Nat × TransportKind)) (addrs : Ipv4Set) (outcome : Bool) :
    (task.advance best addrs outcome).task.kind = task.kind := by
  unfold advance
  cases task.phase with
  | starting current => cases outcome <;> rfl
  | choosing current => cases best <;> rfl
  | _ => rfl

theorem advance_started (best : Option (Nat × TransportKind)) (addrs : Ipv4Set)
    (outcome : Bool) : (task.advance best addrs outcome).task.phase ≠ .initial := by
  unfold advance
  cases task.phase with
  | starting current => cases outcome <;> nofun
  | choosing current => cases best <;> nofun
  | sleeping =>
      simp only [quiet, move]
      split_ifs <;> nofun
  | lowered current wasAvailable => cases wasAvailable <;> nofun
  | _ => nofun

end HealthTask

/-! ## All monitors -/

/-- The monitors by the order in which they were spawned, the entries of the router's
list, which are pushed a moment later, the events that were sent and, as history, the
choices of a fallback. -/
structure RouterHealth where
  tasks : List HealthTask
  listed : List Nat
  events : List ChangeEvent
  choices : List (Nat × Option Nat)

inductive HealthLabel where
  | register (kind : TransportKind) (cost : TransportCost)
  | push (index : Nat)
  | advance (index : Nat) (addrs : Ipv4Set) (outcome : Bool)

namespace RouterHealth

def new : RouterHealth := { tasks := [], listed := [], events := [], choices := [] }

variable (state : RouterHealth)

def others (own : Nat) : List (Nat × HealthTask) :=
  state.listed.filterMap fun index =>
    if index = own then none
    else (state.tasks[index]?).bind fun task =>
      if task.monitor.available then some (index, task) else none

def nextBest (own : Nat) : Option (Nat × HealthTask) :=
  (state.others own).argmin fun entry => entry.2.cost.rank

def applied (index : Nat) (step : HealthStep) : RouterHealth :=
  { state with
    tasks := state.tasks.set index step.task
    events := state.events ++ step.events
    choices := state.choices ++ step.choices.map (index, ·) }

def taskAdvance (index : Nat) (task : HealthTask) (addrs : Ipv4Set) (outcome : Bool) :
    HealthStep :=
  task.advance ((state.nextBest index).map fun entry => (entry.1, entry.2.kind)) addrs outcome

end RouterHealth

def healthStep (state : RouterHealth) : HealthLabel → Option RouterHealth
  | .register kind cost => some { state with tasks := state.tasks ++ [.spawned kind cost] }
  | .push index =>
      if index < state.tasks.length ∧ index ∉ state.listed then
        some { state with listed := state.listed ++ [index] }
      else none
  | .advance index addrs outcome =>
      (state.tasks[index]?).map fun task =>
        state.applied index (state.taskAdvance index task addrs outcome)

inductive HealthMove (state : RouterHealth) : HealthLabel → RouterHealth → Prop where
  | registered {kind : TransportKind} {cost : TransportCost} :
      HealthMove state (.register kind cost)
        { state with tasks := state.tasks ++ [.spawned kind cost] }
  | pushed {index : Nat} :
      HealthMove state (.push index) { state with listed := state.listed ++ [index] }
  | advanced {index : Nat} {addrs : Ipv4Set} {outcome : Bool} {task : HealthTask}
      (present : state.tasks[index]? = some task) :
      HealthMove state (.advance index addrs outcome)
        (state.applied index (state.taskAdvance index task addrs outcome))

theorem health_step_moves {state next : RouterHealth} {label : HealthLabel}
    (taken : healthStep state label = some next) : HealthMove state label next := by
  cases label with
  | register kind cost =>
      cases taken
      exact .registered
  | push index =>
      obtain ⟨-, same⟩ := Option.ite_none_right_eq_some.mp taken
      cases same
      exact .pushed
  | advance index addrs outcome =>
      obtain ⟨task, present, rfl⟩ := Option.map_eq_some_iff.mp taken
      exact .advanced present

theorem next_best_up {state : RouterHealth} {own next : Nat} {task : HealthTask}
    (best : state.nextBest own = some (next, task)) :
    next ≠ own ∧ state.tasks[next]? = some task ∧ task.monitor.available = true := by
  have among := List.argmin_mem best
  obtain ⟨index, -, kept⟩ := List.mem_filterMap.mp among
  obtain ⟨apart, found⟩ := Option.ite_none_left_eq_some.mp kept
  obtain ⟨other, present, up⟩ := Option.bind_eq_some_iff.mp found
  obtain ⟨available, same⟩ := Option.ite_none_right_eq_some.mp up
  cases same
  exact ⟨apart, present, available⟩

section Tasks

variable {state : RouterHealth} {index place : Nat} {task other : HealthTask}

theorem registered_task {added : HealthTask}
    (found : (state.tasks ++ [added])[place]? = some other) :
    state.tasks[place]? = some other ∨ place = state.tasks.length ∧ other = added := by
  rw [List.getElem?_append] at found
  split_ifs at found with inside
  · exact .inl found
  · obtain ⟨bound, same⟩ := List.getElem?_eq_some_iff.mp found
    rw [List.length_singleton] at bound
    rw [List.getElem_singleton] at same
    exact .inr ⟨by omega, same.symm⟩

theorem applied_task {step : HealthStep} (present : state.tasks[index]? = some task)
    (found : (state.applied index step).tasks[place]? = some other) :
    place = index ∧ other = step.task ∨ place ≠ index ∧ state.tasks[place]? = some other := by
  by_cases same : place = index
  · subst same
    rw [RouterHealth.applied, List.getElem?_set_self
      (List.getElem?_eq_some_iff.mp present).1] at found
    exact .inl ⟨rfl, (Option.some.inj found).symm⟩
  · rw [RouterHealth.applied, List.getElem?_set_ne (Ne.symm same)] at found
    exact .inr ⟨same, found⟩

end Tasks

/-- A property of every monitor by itself, kept by each of its steps, holds of all. -/
theorem tasks_step {property : HealthTask → Prop}
    (initial : ∀ kind cost, property (.spawned kind cost))
    (kept : ∀ task best addrs outcome, property task →
      property (HealthTask.advance task best addrs outcome).task)
    {state next : RouterHealth} {label : HealthLabel}
    (held : ∀ task ∈ state.tasks, property task) (taken : healthStep state label = some next) :
    ∀ task ∈ next.tasks, property task := by
  cases health_step_moves taken with
  | registered =>
      intro task member
      rcases List.mem_append.mp member with old | added
      · exact held task old
      · rw [List.mem_singleton.mp added]
        exact initial _ _
  | pushed => exact held
  | advanced present =>
      intro task member
      rcases List.mem_or_eq_of_mem_set member with old | rfl
      · exact held task old
      · exact kept _ _ _ _ (held _ (List.mem_of_getElem? present))

theorem tasks_run {property : HealthTask → Prop}
    (initial : ∀ kind cost, property (.spawned kind cost))
    (kept : ∀ task best addrs outcome, property task →
      property (HealthTask.advance task best addrs outcome).task)
    {labels : List HealthLabel} {state : RouterHealth}
    (run : Run healthStep anyStep .new labels state) : ∀ task ∈ state.tasks, property task :=
  run_invariant (fun state => ∀ task ∈ state.tasks, property task)
    (fun _ _ _ held _ taken => tasks_step initial kept held taken) run
    (fun _ member => absurd member List.not_mem_nil)

/-! ## Each monitor by itself -/

/-- What the monitor will be at the end of the present tick. -/
def HealthTask.completed (task : HealthTask) (transports : List TransportEntry)
    (outcome : Bool) : HealthMonitor Bool :=
  let down (actions : MonitorLog Bool) : HealthMonitor Bool :=
    { task.monitor with log := .stop :: actions ++ task.monitor.log }
  let up (addrs : Ipv4Set) (actions : MonitorLog Bool) : HealthMonitor Bool :=
    { task.monitor with
      prevAddrs := addrs
      inRecovery := false
      log := .transportChanged none task.kind :: actions ++ task.monitor.log }
  match task.phase with
  | .initial | .sleeping => task.monitor
  | .starting addrs => startTransport id task.kind addrs outcome task.monitor
  | .startedUp addrs =>
      { up addrs [.sendStarted true, .setAvailable true] with available := true }
  | .raised addrs => up addrs [.sendStarted true]
  | .signalled addrs => up addrs []
  | .changed addrs =>
      startTransport id task.kind addrs outcome
        { down (handOver task.kind 0 transports task.monitor.available ++
            [.sendStarted false, .setAvailable false]) with available := false }
  | .lowered addrs wasAvailable =>
      startTransport id task.kind addrs outcome
        (down (handOver task.kind 0 transports wasAvailable ++ [.sendStarted false]))
  | .choosing addrs =>
      startTransport id task.kind addrs outcome (down (handOver task.kind 0 transports true))
  | .chosen addrs next =>
      startTransport id task.kind addrs outcome (down [.transportChanged (some task.kind) next])
  | .stopping addrs => startTransport id task.kind addrs outcome (down [])

def MonitorReached (kind : TransportKind) (monitor : HealthMonitor Bool) : Prop :=
  ∃ addrs outcome ticks, monitor = healthMonitor id kind 0 addrs outcome ticks

theorem reached_tick {kind : TransportKind} {monitor : HealthMonitor Bool}
    (reached : MonitorReached kind monitor) (tick : PollTick Bool) :
    MonitorReached kind (healthTick id kind 0 monitor tick) := by
  obtain ⟨addrs, outcome, ticks, rfl⟩ := reached
  refine ⟨addrs, outcome, ticks ++ [tick], ?_⟩
  simp only [healthMonitor, List.foldl_append, List.foldl_cons, List.foldl_nil]

/-- However the tick ends, its end is one that the monitor alone can reach. -/
structure FollowsMonitor (task : HealthTask) : Prop where
  fresh : task.phase = .initial → task = .spawned task.kind task.cost
  reached : task.phase ≠ .initial →
    ∀ transports outcome, MonitorReached task.kind (task.completed transports outcome)

theorem follows_spawned (kind : TransportKind) (cost : TransportCost) :
    FollowsMonitor (.spawned kind cost) :=
  ⟨fun _ => rfl, fun started => absurd rfl started⟩

theorem completed_advance {task : HealthTask} (started : task.phase ≠ .initial)
    (awake : task.phase ≠ .sleeping) (best : Option (Nat × TransportKind)) (addrs : Ipv4Set)
    (result : Bool) (transports : List TransportEntry) (outcome : Bool) :
    ∃ read ends, (task.advance best addrs result).task.completed transports outcome =
      task.completed read ends := by
  obtain ⟨kind, cost, phase, monitor⟩ := task
  cases phase with
  | initial => exact absurd rfl started
  | sleeping => exact absurd rfl awake
  | starting current =>
      cases result with
      | true => exact ⟨[], true, rfl⟩
      | false => exact ⟨[], false, rfl⟩
  | startedUp current => exact ⟨[], true, rfl⟩
  | raised current => exact ⟨[], true, rfl⟩
  | signalled current => exact ⟨[], true, rfl⟩
  | changed current =>
      refine ⟨transports, outcome, ?_⟩
      simp [HealthTask.advance, HealthTask.completed, HealthTask.quiet, HealthTask.setAvailable]
  | lowered current wasAvailable =>
      refine ⟨transports, outcome, ?_⟩
      cases wasAvailable with
      | true =>
          simp [HealthTask.advance, HealthTask.completed, HealthTask.quiet, HealthTask.move]
      | false =>
          simp [HealthTask.advance, HealthTask.completed, HealthTask.quiet, HealthTask.move,
            handOver]
  | choosing current =>
      cases best with
      | none => exact ⟨[], outcome, rfl⟩
      | some next =>
          -- The chosen kind is read off a list with one other transport.
          refine ⟨[⟨kind, cost, true⟩, ⟨next.2, cost, true⟩], outcome, rfl⟩
  | chosen current next => exact ⟨[], outcome, rfl⟩
  | stopping current => exact ⟨[], outcome, rfl⟩

theorem completed_poll {task : HealthTask} (sleeping : task.phase = .sleeping)
    (best : Option (Nat × TransportKind)) (addrs : Ipv4Set) (result : Bool)
    (transports : List TransportEntry) (outcome : Bool) :
    (task.advance best addrs result).task.completed transports outcome =
      healthTick id task.kind 0 task.monitor
        { currAddrs := addrs, transports := transports, outcome := outcome } := by
  obtain ⟨kind, cost, phase, monitor⟩ := task
  cases sleeping
  unfold healthTick
  split_ifs with unchanged
  · simp [HealthTask.advance, HealthTask.completed, HealthTask.quiet, HealthTask.move, unchanged]
  · simp [HealthTask.advance, HealthTask.completed, HealthTask.quiet, HealthTask.move, unchanged,
      takeDown]

theorem follows_advance (task : HealthTask) (best : Option (Nat × TransportKind))
    (addrs : Ipv4Set) (result : Bool) (follows : FollowsMonitor task) :
    FollowsMonitor (task.advance best addrs result).task := by
  refine ⟨fun initial => absurd initial (task.advance_started best addrs result), fun _ => ?_⟩
  intro transports outcome
  rw [task.advance_kind]
  by_cases initial : task.phase = .initial
  · rw [follows.fresh initial]
    exact ⟨addrs, outcome, [], rfl⟩
  have reached := follows.reached initial
  by_cases sleeping : task.phase = .sleeping
  · rw [completed_poll sleeping]
    have now := reached [] true
    rw [HealthTask.completed, sleeping] at now
    exact reached_tick now _
  · obtain ⟨read, ends, same⟩ :=
      completed_advance initial sleeping best addrs result transports outcome
    rw [same]
    exact reached read ends

/-- Whatever the other monitors do, one that sleeps is as `healthMonitor` alone would be. -/
theorem sleeping_monitor_reached {labels : List HealthLabel} {state : RouterHealth}
    (run : Run healthStep anyStep .new labels state) {task : HealthTask}
    (member : task ∈ state.tasks) (sleeping : task.phase = .sleeping) :
    MonitorReached task.kind task.monitor := by
  have follows := tasks_run follows_spawned follows_advance run task member
  have reached := follows.reached (by rw [sleeping]; nofun) [] true
  rwa [HealthTask.completed, sleeping] at reached

/-! ## Flags -/

def HealthPhase.flag : HealthPhase → Option Bool
  | .raised _ | .signalled _ => some true
  | .sleeping | .changed _ => none
  | _ => some false

def Flagged (task : HealthTask) : Prop :=
  ∀ value, task.phase.flag = some value → task.monitor.available = value

theorem flagged_spawned (kind : TransportKind) (cost : TransportCost) :
    Flagged (.spawned kind cost) := by
  intro value flag
  cases flag
  rfl

theorem flagged_advance (task : HealthTask) (best : Option (Nat × TransportKind))
    (addrs : Ipv4Set) (outcome : Bool) (flagged : Flagged task) :
    Flagged (task.advance best addrs outcome).task := by
  obtain ⟨kind, cost, phase, monitor⟩ := task
  intro value flag
  cases phase with
  | sleeping =>
      simp only [HealthTask.advance, HealthTask.quiet, HealthTask.move] at flag
      split_ifs at flag <;> cases flag
  | changed current =>
      cases flag
      rfl
  | startedUp current =>
      cases flag
      rfl
  | signalled current => cases flag
  | starting current =>
      cases outcome with
      | true => exact flagged value flag
      | false => cases flag
  | lowered current wasAvailable =>
      cases wasAvailable with
      | true => exact flagged value flag
      | false => exact flagged value flag
  | choosing current =>
      cases best with
      | none => exact flagged value flag
      | some next => exact flagged value flag
  | initial | raised current | chosen current next | stopping current =>
      exact flagged value flag

def wifiAddrs : Ipv4Set := {⟨[192, 168, 0, 7], rfl⟩}

end Pathweave
