import Mathlib.Data.List.MinMax
import Pathweave.RouterCalls
import Pathweave.TransportRestarts

/-!
# The health monitor of a transport

`health_monitor` starts its transport, then polls the IPv4 address set of the host
and restarts the transport when the set has changed, or on every poll while the last
start has failed. The address sets, the other transports and the outcomes of
`start` come from outside. Everything the task does is kept in a log, the latest
action first, and what an action requires is a condition on the log before it.
-/

namespace Pathweave

open ByteStrings GuardedRuns

set_option autoImplicit false

abbrev Ipv4Set := Finset (Octets 4)

inductive MonitorAction (Outcome : Type) where
  | poll (addrs : Ipv4Set)
  | start (outcome : Outcome)
  | stop
  | setAvailable (value : Bool)
  | sendStarted (value : Bool)
  | transportChanged (old : Option TransportKind) (new : TransportKind)

abbrev MonitorLog (Outcome : Type) := List (MonitorAction Outcome)

structure HealthMonitor (Outcome : Type) where
  prevAddrs : Ipv4Set
  inRecovery : Bool
  available : Bool
  log : MonitorLog Outcome

/-- What a poll finds: the address set, the registered transports as
`next_best_transport` would read them, and how `start` would end. -/
structure PollTick (Outcome : Type) where
  currAddrs : Ipv4Set
  transports : List TransportEntry
  outcome : Outcome

/-- The entry of the transport itself is left out by its position, as the code
compares pointers. Of equally cheap transports the first is taken. -/
def nextBestTransport (transports : List TransportEntry) (own : Nat) : Option TransportKind :=
  (((transports.eraseIdx own).filter fun entry => entry.available).argmin
    fun entry => entry.cost.rank).map fun entry => entry.kind

section Monitor

variable {Outcome : Type} (succeeded : Outcome → Bool) (kind : TransportKind) (own : Nat)

/-- `start` and what follows it, at entry and at the end of a restart alike. -/
def startTransport (addrs : Ipv4Set) (outcome : Outcome) (monitor : HealthMonitor Outcome) :
    HealthMonitor Outcome :=
  if succeeded outcome then
    { prevAddrs := addrs
      inRecovery := false
      available := true
      log := .transportChanged none kind :: .sendStarted true :: .setAvailable true ::
        .start outcome :: monitor.log }
  else { monitor with inRecovery := true, log := .start outcome :: monitor.log }

def healthEntry (addrs : Ipv4Set) (outcome : Outcome) : HealthMonitor Outcome :=
  startTransport succeeded kind addrs outcome
    { prevAddrs := addrs, inRecovery := true, available := false, log := [.poll addrs] }

/-- The event of a transport that was up and has another one to fall back to. -/
def handOver (transports : List TransportEntry) (wasAvailable : Bool) : MonitorLog Outcome :=
  if wasAvailable then
    match nextBestTransport transports own with
    | some next => [.transportChanged (some kind) next]
    | none => []
  else []

/-- The part of a restart that ends with the return of `stop`. -/
def takeDown (tick : PollTick Outcome) (monitor : HealthMonitor Outcome) :
    HealthMonitor Outcome :=
  { monitor with
    available := false
    log := .stop :: handOver kind own tick.transports monitor.available ++
      .sendStarted false :: .setAvailable false :: .poll tick.currAddrs :: monitor.log }

def healthTick (monitor : HealthMonitor Outcome) (tick : PollTick Outcome) :
    HealthMonitor Outcome :=
  if !monitor.inRecovery && decide (tick.currAddrs = monitor.prevAddrs) then
    { monitor with log := .poll tick.currAddrs :: monitor.log }
  else
    startTransport succeeded kind tick.currAddrs tick.outcome (takeDown kind own tick monitor)

def healthMonitor (addrs : Ipv4Set) (outcome : Outcome) (ticks : List (PollTick Outcome)) :
    HealthMonitor Outcome :=
  ticks.foldl (healthTick succeeded kind own) (healthEntry succeeded kind addrs outcome)

/-! ## Reading a log -/

def lastStart : MonitorLog Outcome → Option Outcome
  | [] => none
  | .start outcome :: _ => some outcome
  | _ :: before => lastStart before

/-- The value of the watch channel, which is created with false. -/
def lastSent : MonitorLog Outcome → Bool
  | [] => false
  | .sendStarted value :: _ => value
  | _ :: before => lastSent before

def lastStored : MonitorLog Outcome → Bool
  | [] => false
  | .setAvailable value :: _ => value
  | _ :: before => lastStored before

def lastPolled : MonitorLog Outcome → Option Ipv4Set
  | [] => none
  | .poll addrs :: _ => some addrs
  | _ :: before => lastPolled before

/-- The address set of the poll at which the last successful start was made. -/
def recordedAddrs : MonitorLog Outcome → Option Ipv4Set
  | [] => none
  | .start outcome :: before =>
      if succeeded outcome then lastPolled before else recordedAddrs before
  | _ :: before => recordedAddrs before

def idle : MonitorLog Outcome → Bool
  | [] => true
  | .start _ :: _ => false
  | .stop :: _ => true
  | _ :: before => idle before

/-- A successful start was made after the last event that hands over to another
transport. -/
def periodOpen : MonitorLog Outcome → Bool
  | [] => false
  | .start outcome :: _ => succeeded outcome
  | .transportChanged (some _) _ :: _ => false
  | _ :: before => periodOpen before

def Allowed (before : MonitorLog Outcome) : MonitorAction Outcome → Prop
  | .start _ => idle before = true
  | .transportChanged (some old) _ => old = kind ∧ periodOpen succeeded before = true ∧
      ∃ prior, before = .sendStarted false :: .setAvailable false :: prior ∧
        lastStored prior = true
  | _ => True

def EachAllowed : MonitorLog Outcome → Prop
  | [] => True
  | action :: before => Allowed succeeded kind before action ∧ EachAllowed before

/-! ## Polls and restarts -/

/-- At a poll everything agrees with the outcome of the last start. -/
structure Settled (monitor : HealthMonitor Outcome) : Prop where
  allowed : EachAllowed succeeded kind monitor.log
  latest : ∃ outcome, lastStart monitor.log = some outcome ∧
    succeeded outcome = !monitor.inRecovery
  available : monitor.available = !monitor.inRecovery
  sent : lastSent monitor.log = !monitor.inRecovery
  stored : lastStored monitor.log = !monitor.inRecovery
  opened : monitor.inRecovery = false → periodOpen succeeded monitor.log = true
  recorded : monitor.inRecovery = false →
    recordedAddrs succeeded monitor.log = some monitor.prevAddrs

/-- Before a start nothing runs, and every consumer has been told so. -/
structure TakenDown (addrs : Ipv4Set) (monitor : HealthMonitor Outcome) : Prop where
  allowed : EachAllowed succeeded kind monitor.log
  idle : idle monitor.log = true
  available : monitor.available = false
  sent : lastSent monitor.log = false
  stored : lastStored monitor.log = false
  polled : lastPolled monitor.log = some addrs

variable {succeeded kind own} {addrs : Ipv4Set} {monitor : HealthMonitor Outcome}

theorem start_settles (down : TakenDown succeeded kind addrs monitor) (outcome : Outcome) :
    Settled succeeded kind (startTransport succeeded kind addrs outcome monitor) := by
  unfold startTransport
  split_ifs with started
  · constructor
    · exact ⟨trivial, trivial, trivial, down.idle, down.allowed⟩
    · exact ⟨outcome, rfl, started⟩
    · rfl
    · rfl
    · rfl
    · exact fun _ => started
    · intro _
      simp [recordedAddrs, started, down.polled]
  · have failed : succeeded outcome = false := by simpa using started
    constructor
    · exact ⟨down.idle, down.allowed⟩
    · exact ⟨outcome, rfl, failed⟩
    · exact down.available
    · exact down.sent
    · exact down.stored
    · nofun
    · nofun

theorem settled_entry (addrs : Ipv4Set) (outcome : Outcome) :
    Settled succeeded kind (healthEntry succeeded kind addrs outcome) := by
  apply start_settles
  constructor
  · exact ⟨trivial, trivial⟩
  all_goals rfl

theorem hand_over_cases (transports : List TransportEntry) (wasAvailable : Bool) :
    (handOver kind own transports wasAvailable : MonitorLog Outcome) = [] ∨
      wasAvailable = true ∧ ∃ next,
        (handOver kind own transports wasAvailable : MonitorLog Outcome) =
          [.transportChanged (some kind) next] := by
  cases wasAvailable with
  | false => exact .inl rfl
  | true =>
      cases chosen : nextBestTransport transports own with
      | none => simp [handOver, chosen]
      | some next => simp [handOver, chosen]

/-- The hand-over is announced only by a transport that was up, and the poll finds
the period of its last start still open. -/
theorem taken_down (settled : Settled succeeded kind monitor) (tick : PollTick Outcome) :
    TakenDown succeeded kind tick.currAddrs (takeDown kind own tick monitor) := by
  have handed : (handOver kind own tick.transports monitor.available : MonitorLog Outcome) = [] ∨
      _ := hand_over_cases tick.transports monitor.available
  rcases handed with silent | ⟨up, next, announced⟩
  · simp only [takeDown, silent]
    exact ⟨⟨trivial, trivial, trivial, trivial, settled.allowed⟩, rfl, rfl, rfl, rfl, rfl⟩
  · have running : monitor.inRecovery = false := by
      simpa [settled.available] using up
    have stored : lastStored monitor.log = true := by
      rw [settled.stored, running]
      rfl
    simp only [takeDown, announced]
    refine ⟨⟨trivial, ⟨rfl, settled.opened running, _, rfl, stored⟩, trivial, trivial, trivial,
      settled.allowed⟩, rfl, rfl, rfl, rfl, rfl⟩

theorem settled_tick (settled : Settled succeeded kind monitor) (tick : PollTick Outcome) :
    Settled succeeded kind (healthTick succeeded kind own monitor tick) := by
  unfold healthTick
  split_ifs with unchanged
  · exact ⟨⟨trivial, settled.allowed⟩, settled.latest, settled.available, settled.sent,
      settled.stored, settled.opened, settled.recorded⟩
  · exact start_settles (taken_down settled tick) tick.outcome

theorem settled_run (addrs : Ipv4Set) (outcome : Outcome) (ticks : List (PollTick Outcome)) :
    Settled succeeded kind (healthMonitor succeeded kind own addrs outcome ticks) :=
  List.foldlRecOn ticks (healthTick succeeded kind own) (settled_entry addrs outcome)
    fun _ settled tick _ => settled_tick settled tick

/-! ## What the log says -/

theorem each_allowed_suffix {after before : MonitorLog Outcome}
    (each : EachAllowed succeeded kind (after ++ before)) : EachAllowed succeeded kind before := by
  induction after with
  | nil => exact each
  | cons later rest induction => exact induction each.2

theorem each_allowed_split {after before : MonitorLog Outcome} {action : MonitorAction Outcome}
    (each : EachAllowed succeeded kind (after ++ action :: before)) :
    Allowed succeeded kind before action :=
  (each_allowed_suffix each).1

theorem idle_stopped {log : MonitorLog Outcome} (quiet : idle log = true)
    (started : ∃ outcome, .start outcome ∈ log) :
    ∃ between earlier, log = between ++ .stop :: earlier ∧
      ∀ outcome, .start outcome ∉ between := by
  induction log with
  | nil => simp at started
  | cons action before induction =>
      cases action with
      | start outcome => simp [idle] at quiet
      | stop => exact ⟨[], before, rfl, by simp⟩
      | poll _ | setAvailable _ | sendStarted _ | transportChanged _ _ =>
          obtain ⟨between, earlier, rfl, none⟩ := induction quiet (by simpa using started)
          exact ⟨_ :: between, earlier, rfl, by simpa using none⟩

theorem period_opened {between earlier : MonitorLog Outcome} {old new : TransportKind}
    (opened :
      periodOpen succeeded (between ++ .transportChanged (some old) new :: earlier) = true) :
    ∃ outcome, .start outcome ∈ between ∧ succeeded outcome = true := by
  induction between with
  | nil => simp [periodOpen] at opened
  | cons action rest induction =>
      cases action with
      | start outcome => exact ⟨outcome, by simp, opened⟩
      | poll _ | stop | setAvailable _ | sendStarted _ =>
          obtain ⟨outcome, listed, good⟩ := induction opened
          exact ⟨outcome, by simp [listed], good⟩
      | transportChanged source target =>
          cases source with
          | none =>
              obtain ⟨outcome, listed, good⟩ := induction opened
              exact ⟨outcome, by simp [listed], good⟩
          | some _ => simp [periodOpen] at opened

theorem start_appends (addrs : Ipv4Set) (outcome : Outcome) (monitor : HealthMonitor Outcome) :
    ∃ actions, (startTransport succeeded kind addrs outcome monitor).log =
      actions ++ monitor.log ∧ .start outcome ∈ actions := by
  unfold startTransport
  split_ifs with started
  · exact ⟨[.transportChanged none kind, .sendStarted true, .setAvailable true, .start outcome],
      rfl, by simp⟩
  · exact ⟨[.start outcome], rfl, by simp⟩

theorem take_down_appends (tick : PollTick Outcome) (monitor : HealthMonitor Outcome) :
    ∃ actions, (takeDown kind own tick monitor).log = actions ++ monitor.log :=
  ⟨.stop :: handOver kind own tick.transports monitor.available ++
    [.sendStarted false, .setAvailable false, .poll tick.currAddrs], by simp [takeDown]⟩

/-- A tick adds its own actions to the log, with a start among them exactly when the
poll calls for a restart. -/
theorem tick_restarts (settled : Settled succeeded kind monitor) (tick : PollTick Outcome) :
    ∃ actions, (healthTick succeeded kind own monitor tick).log = actions ++ monitor.log ∧
      ((∃ outcome, .start outcome ∈ actions) ↔
        (∃ latest, lastStart monitor.log = some latest ∧ succeeded latest = false) ∨
          recordedAddrs succeeded monitor.log ≠ some tick.currAddrs) := by
  obtain ⟨latest, last, outcome⟩ := settled.latest
  unfold healthTick
  split_ifs with unchanged
  · simp only [Bool.and_eq_true, Bool.not_eq_eq_eq_not, Bool.not_true, decide_eq_true_eq]
      at unchanged
    refine ⟨[.poll tick.currAddrs], rfl, ?_⟩
    simp [last, outcome, unchanged.1, settled.recorded unchanged.1, unchanged.2]
  · have called : (∃ latest, lastStart monitor.log = some latest ∧ succeeded latest = false) ∨
        recordedAddrs succeeded monitor.log ≠ some tick.currAddrs := by
      cases recovering : monitor.inRecovery with
      | true => exact .inl ⟨latest, last, by rw [outcome, recovering]; rfl⟩
      | false =>
          refine .inr ?_
          rw [settled.recorded recovering]
          simpa [recovering, eq_comm] using unchanged
    obtain ⟨down, taken⟩ := take_down_appends tick monitor
    obtain ⟨up, started, listed⟩ :=
      start_appends tick.currAddrs tick.outcome (takeDown kind own tick monitor)
    refine ⟨up ++ down, ?_, iff_of_true ⟨tick.outcome, by simp [listed]⟩ called⟩
    rw [started, taken, List.append_assoc]

end Monitor

/-- At every poll the flag, the channel and the mode agree with the last start, starts
alternate with stops, a poll restarts exactly when it has to, and a hand-over is
announced once for a period in which the transport was up. -/
theorem health_monitor_follows_starts {Outcome : Type} (succeeded : Outcome → Bool)
    (kind : TransportKind) (own : Nat) (addrs : Ipv4Set) (outcome : Outcome)
    (ticks : List (PollTick Outcome)) :
    let monitor := healthMonitor succeeded kind own addrs outcome ticks
    (∃ latest, lastStart monitor.log = some latest ∧
      monitor.available = succeeded latest ∧ lastSent monitor.log = succeeded latest ∧
      (!monitor.inRecovery) = succeeded latest) ∧
    (∀ after made before, monitor.log = after ++ .start made :: before →
      (∃ previous, .start previous ∈ before) →
      ∃ between earlier, before = between ++ .stop :: earlier ∧
        ∀ previous, .start previous ∉ between) ∧
    (∀ tick, ∃ actions,
      (healthTick succeeded kind own monitor tick).log = actions ++ monitor.log ∧
      ((∃ made, .start made ∈ actions) ↔
        (∃ latest, lastStart monitor.log = some latest ∧ succeeded latest = false) ∨
          recordedAddrs succeeded monitor.log ≠ some tick.currAddrs)) ∧
    (∀ after old new before,
      monitor.log = after ++ .transportChanged (some old) new :: before →
      old = kind ∧
      (∃ prior, before = .sendStarted false :: .setAvailable false :: prior ∧
        lastStored prior = true) ∧
      ∀ between other next earlier,
        before = between ++ .transportChanged (some other) next :: earlier →
        ∃ made, .start made ∈ between ∧ succeeded made = true) := by
  intro monitor
  have settled : Settled succeeded kind monitor := settled_run addrs outcome ticks
  refine ⟨?_, ?_, fun tick => tick_restarts settled tick, ?_⟩
  · obtain ⟨latest, last, good⟩ := settled.latest
    exact ⟨latest, last, settled.available.trans good.symm, settled.sent.trans good.symm,
      good.symm⟩
  · intro after made before split started
    have each := settled.allowed
    rw [split] at each
    exact idle_stopped (each_allowed_split each) started
  · intro after old new before split
    have each := settled.allowed
    rw [split] at each
    obtain ⟨own, opened, up⟩ := each_allowed_split each
    refine ⟨own, up, ?_⟩
    rintro between other next earlier rfl
    exact period_opened opened

/-! ## The coarser model of restarts -/

section Restarts

variable {Outcome : Type} {succeeded : Outcome → Bool} {kind : TransportKind} {own : Nat}

def startLabels (started : Bool) : List RestartLabel :=
  if started then [.startSucceeds, .announce] else [.startFails]

structure MatchesRestart (monitor : HealthMonitor Outcome) (state : RestartState) : Prop where
  polling : state.monitor = .polling monitor.inRecovery
  started : state.started = lastSent monitor.log
  running : state.running.isSome = monitor.available

def RestartState.afterStart (state : RestartState) (started : Bool) : RestartState :=
  if started then
    { state with
      monitor := .polling false
      started := true
      generation := state.generation + 1
      running := some (state.generation + 1) }
  else { state with monitor := .polling true }

theorem start_executes {state : RestartState}
    (ready : state.monitor = .starting ∨ state.monitor = .restarting) (started : Bool) :
    execute restartStep state (startLabels started) = some (state.afterStart started) := by
  rcases ready with first | again
  · cases started <;> simp [startLabels, execute, restartStep, RestartLabel.ofMonitor, monitorStep,
      RestartState.afterStart, first]
  · cases started <;> simp [startLabels, execute, restartStep, RestartLabel.ofMonitor, monitorStep,
      RestartState.afterStart, again]

theorem start_matches {monitor : HealthMonitor Outcome} {state : RestartState}
    (sent : state.started = lastSent monitor.log)
    (running : state.running.isSome = monitor.available) (addrs : Ipv4Set) (outcome : Outcome) :
    MatchesRestart (startTransport succeeded kind addrs outcome monitor)
      (state.afterStart (succeeded outcome)) := by
  unfold startTransport
  cases good : succeeded outcome with
  | true => exact ⟨rfl, rfl, rfl⟩
  | false => exact ⟨rfl, sent, running⟩

theorem take_down_sent (tick : PollTick Outcome) (monitor : HealthMonitor Outcome) :
    lastSent (takeDown kind own tick monitor).log = false := by
  have handed : (handOver kind own tick.transports monitor.available : MonitorLog Outcome) = [] ∨
      _ := hand_over_cases tick.transports monitor.available
  rcases handed with silent | ⟨_, next, announced⟩
  · simp [takeDown, silent, lastSent]
  · simp [takeDown, announced, lastSent]

theorem tick_matches {monitor : HealthMonitor Outcome} {state : RestartState}
    (related : MatchesRestart monitor state) (tick : PollTick Outcome) :
    ∃ labels next, execute restartStep state labels = some next ∧
      MatchesRestart (healthTick succeeded kind own monitor tick) next := by
  unfold healthTick
  split_ifs with unchanged
  · exact ⟨[], state, rfl, related.polling, related.started, related.running⟩
  · let down : RestartState :=
      { state with monitor := .restarting, started := false, running := none }
    refine ⟨.restart :: .stop :: startLabels (succeeded tick.outcome),
      down.afterStart (succeeded tick.outcome), ?_, ?_⟩
    · have reached : execute restartStep down (startLabels (succeeded tick.outcome)) = some _ :=
        start_executes (.inr rfl) (succeeded tick.outcome)
      simpa [execute, restartStep, RestartLabel.ofMonitor, monitorStep, related.polling, down]
        using reached
    · exact start_matches (take_down_sent tick monitor).symm rfl tick.currAddrs tick.outcome

/-- Every run of the monitor is a run of its task in the model of restarts. -/
theorem health_monitor_restarts (addrs : Ipv4Set) (outcome : Outcome)
    (ticks : List (PollTick Outcome)) :
    ∃ labels state, Run restartStep anyStep RestartState.initial labels state ∧
      MatchesRestart (healthMonitor succeeded kind own addrs outcome ticks) state := by
  induction ticks using List.reverseRecOn with
  | nil =>
      exact ⟨_, _, run_of_execute (start_executes (.inl rfl) (succeeded outcome)),
        start_matches rfl rfl addrs outcome⟩
  | append_singleton ticks tick induction =>
      obtain ⟨labels, state, run, related⟩ := induction
      obtain ⟨more, next, reached, matched⟩ := tick_matches related tick
      refine ⟨labels ++ more, next, run_append run (run_of_execute reached), ?_⟩
      simpa [healthMonitor] using matched

end Restarts

end Pathweave
