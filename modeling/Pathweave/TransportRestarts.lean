import Mathlib.Data.Option.Basic
import Pathweave.GuardedRuns

/-!
# Discovery across transport restarts

`health_monitor` restarts a transport and tells the other tasks through a watch
channel, which keeps only the latest value. `peer_stream` waits for the value to be
true, drains the streams of the generation it finds running, and after their end
waits for the value to be false. Both tasks are one labelled step function; the
label says which task moves and how the environment answers it.
-/

namespace Pathweave

open GuardedRuns

set_option autoImplicit false

/-- Where `health_monitor` is. `announcing` has started the transport and is about to
send true. -/
inductive MonitorPhase where
  | starting
  | polling (inRecovery : Bool)
  | stopping
  | restarting
  | announcing
  deriving DecidableEq

/-- Where `peer_stream` is, with the generation its streams belong to. Streams that
were opened while nothing was running belong to none. -/
inductive StreamPhase where
  | waitTrue
  | ready
  | draining (stream : Option Nat)
  | connecting (stream : Option Nat)
  | waitFalse (stream : Option Nat)
  deriving DecidableEq

structure RestartState where
  monitor : MonitorPhase
  peerStream : StreamPhase
  started : Bool
  /-- How many generations have been started, and the one that is running. -/
  generation : Nat
  running : Option Nat

def RestartState.initial : RestartState where
  monitor := .starting
  peerStream := .waitTrue
  started := false
  generation := 0
  running := none

inductive RestartLabel where
  | startSucceeds
  | startFails
  | announce
  | restart
  | stop
  | observeTrue
  | discover
  | arrival
  | departure
  | connectDone
  | streamEnd
  | observeFalse
  deriving DecidableEq

/-- The steps of `health_monitor`. A poll that finds nothing changed is no step. -/
def monitorStep (state : RestartState) : RestartLabel → MonitorPhase → Option RestartState
  | .startSucceeds, .starting | .startSucceeds, .restarting =>
      some { state with
        monitor := .announcing
        generation := state.generation + 1
        running := some (state.generation + 1) }
  | .startFails, .starting | .startFails, .restarting =>
      some { state with monitor := .polling true }
  | .announce, .announcing => some { state with monitor := .polling false, started := true }
  | .restart, .polling _ => some { state with monitor := .stopping, started := false }
  | .stop, .stopping => some { state with monitor := .restarting, running := none }
  | _, _ => none

/-- The streams of a generation end when it is stopped. -/
def streamOver (running stream : Option Nat) : Prop := stream = none ∨ stream ≠ running

instance (running stream : Option Nat) : Decidable (streamOver running stream) :=
  inferInstanceAs (Decidable (_ ∨ _))

/-- The steps of `peer_stream`. Between an arrival and `connectDone` it is inside
`try_connect` and sees neither its streams nor the channel. -/
def peerStreamStep (state : RestartState) : RestartLabel → StreamPhase → Option RestartState
  | .observeTrue, .waitTrue =>
      if state.started then some { state with peerStream := .ready } else none
  | .discover, .ready => some { state with peerStream := .draining state.running }
  | .arrival, .draining stream => some { state with peerStream := .connecting stream }
  | .departure, .draining stream => some { state with peerStream := .draining stream }
  | .connectDone, .connecting stream => some { state with peerStream := .draining stream }
  | .streamEnd, .draining stream =>
      if streamOver state.running stream then some { state with peerStream := .waitFalse stream }
      else none
  | .observeFalse, .waitFalse _ =>
      if state.started then none else some { state with peerStream := .waitTrue }
  | _, _ => none

def RestartLabel.ofMonitor : RestartLabel → Bool
  | .startSucceeds | .startFails | .announce | .restart | .stop => true
  | _ => false

def restartStep (state : RestartState) (label : RestartLabel) : Option RestartState :=
  if label.ofMonitor then monitorStep state label state.monitor
  else peerStreamStep state label state.peerStream

/-! ## Staying on the running generation -/

/-- `peer_stream` is about to look for the running generation, or has its streams. -/
def onGeneration (running : Option Nat) : StreamPhase → Prop
  | .waitTrue | .ready => True
  | .draining stream | .connecting stream => stream = running
  | .waitFalse _ => False

instance (running : Option Nat) (phase : StreamPhase) : Decidable (onGeneration running phase) :=
  match phase with
  | .waitTrue | .ready => .isTrue trivial
  | .draining stream | .connecting stream => inferInstanceAs (Decidable (stream = running))
  | .waitFalse _ => .isFalse id

/-- The value true is sent only after `peer_stream` is done with earlier generations. -/
def announcesToFollower (state : RestartState) (label : RestartLabel) : Prop :=
  label = .announce → onGeneration state.running state.peerStream

instance (state : RestartState) (label : RestartLabel) :
    Decidable (announcesToFollower state label) :=
  inferInstanceAs (Decidable (_ → _))

/-- While the channel says true a generation runs, and `peer_stream` follows it. -/
structure Following (state : RestartState) : Prop where
  announced : state.monitor = .announcing → state.running ≠ none
  settled : state.started = true → state.monitor = .polling false ∧ state.running ≠ none
  follows : state.started = true → onGeneration state.running state.peerStream

/-- `peer_stream` waits for false, its streams belong to an earlier generation, and the
channel says true. -/
def Stranded (state : RestartState) : Prop :=
  state.started = true ∧ ∃ stream, state.peerStream = .waitFalse stream ∧ stream ≠ state.running

inductive MonitorMove (state : RestartState) : RestartLabel → RestartState → Prop where
  | began (stopped : state.monitor = .starting ∨ state.monitor = .restarting) :
      MonitorMove state .startSucceeds
        { state with
          monitor := .announcing
          generation := state.generation + 1
          running := some (state.generation + 1) }
  | failed (stopped : state.monitor = .starting ∨ state.monitor = .restarting) :
      MonitorMove state .startFails { state with monitor := .polling true }
  | announced (started : state.monitor = .announcing) :
      MonitorMove state .announce { state with monitor := .polling false, started := true }
  | restarted : MonitorMove state .restart { state with monitor := .stopping, started := false }
  | stopped (stopping : state.monitor = .stopping) :
      MonitorMove state .stop { state with monitor := .restarting, running := none }

inductive StreamMove (state : RestartState) : RestartState → Prop where
  | woken : StreamMove state { state with peerStream := .ready }
  | discovered : StreamMove state { state with peerStream := .draining state.running }
  | busy {stream : Option Nat} (draining : state.peerStream = .draining stream) :
      StreamMove state { state with peerStream := .connecting stream }
  | drained {stream : Option Nat}
      (here : state.peerStream = .draining stream ∨ state.peerStream = .connecting stream) :
      StreamMove state { state with peerStream := .draining stream }
  | ended {stream : Option Nat} (draining : state.peerStream = .draining stream)
      (finished : streamOver state.running stream) :
      StreamMove state { state with peerStream := .waitFalse stream }
  | released : StreamMove state { state with peerStream := .waitTrue }

section Steps

variable {state next : RestartState} {label : RestartLabel}

theorem monitor_step_moves (taken : monitorStep state label state.monitor = some next) :
    MonitorMove state label next := by
  unfold monitorStep at taken
  split at taken
  · next here =>
      cases taken
      exact .began (.inl here)
  · next here =>
      cases taken
      exact .began (.inr here)
  · next here =>
      cases taken
      exact .failed (.inl here)
  · next here =>
      cases taken
      exact .failed (.inr here)
  · next here =>
      cases taken
      exact .announced here
  · cases taken
    exact .restarted
  · next here =>
      cases taken
      exact .stopped here
  · cases taken

theorem peer_stream_step_moves (taken : peerStreamStep state label state.peerStream = some next) :
    StreamMove state next := by
  unfold peerStreamStep at taken
  split at taken
  · split_ifs at taken
    cases taken
    exact .woken
  · cases taken
    exact .discovered
  · next here =>
      cases taken
      exact .busy here
  · next here =>
      cases taken
      exact .drained (.inl here)
  · next here =>
      cases taken
      exact .drained (.inr here)
  · next here =>
      split_ifs at taken with finished
      cases taken
      exact .ended here finished
  · split_ifs at taken
    cases taken
    exact .released
  · cases taken

theorem Following.silent (held : Following state) {phase : MonitorPhase}
    (here : state.monitor = phase) (busy : phase ≠ .polling false) : state.started = false := by
  by_contra started
  rw [Bool.not_eq_false] at started
  exact busy (here.symm.trans (held.settled started).1)

theorem Following.silent_stopped (held : Following state)
    (stopped : state.monitor = .starting ∨ state.monitor = .restarting) :
    state.started = false := by
  rcases stopped with initial | again
  · exact held.silent initial (by decide)
  · exact held.silent again (by decide)

theorem following_of_silent (silent : state.started = false)
    (announced : state.monitor = .announcing → state.running ≠ none) : Following state := by
  constructor
  · exact announced
  · intro started
    rw [silent] at started
    cases started
  · intro started
    rw [silent] at started
    cases started

theorem following_monitor (held : Following state) (allowed : announcesToFollower state label)
    (moved : MonitorMove state label next) : Following next := by
  cases moved with
  | began stopped =>
      apply following_of_silent
      · exact held.silent_stopped stopped
      · intro _
        exact Option.some_ne_none _
  | failed stopped =>
      apply following_of_silent
      · exact held.silent_stopped stopped
      · intro announcing
        cases announcing
  | announced started =>
      constructor
      · intro announcing
        cases announcing
      · intro _
        exact ⟨rfl, held.announced started⟩
      · intro _
        exact allowed rfl
  | restarted =>
      apply following_of_silent rfl
      intro announcing
      cases announcing
  | stopped stopping =>
      apply following_of_silent
      · exact held.silent stopping (by decide)
      · intro announcing
        cases announcing

theorem following_stream (held : Following state) (moved : StreamMove state next) :
    Following next := by
  cases moved with
  | woken => exact ⟨held.announced, held.settled, fun _ => trivial⟩
  | discovered => exact ⟨held.announced, held.settled, fun _ => rfl⟩
  | busy draining =>
      refine ⟨held.announced, held.settled, ?_⟩
      intro started
      have follows := held.follows started
      rw [draining] at follows
      exact follows
  | drained here =>
      refine ⟨held.announced, held.settled, ?_⟩
      intro started
      have follows := held.follows started
      rcases here with draining | connecting
      · rw [draining] at follows
        exact follows
      · rw [connecting] at follows
        exact follows
  | ended draining finished =>
      refine ⟨held.announced, held.settled, ?_⟩
      intro started
      -- The streams of the running generation have not ended.
      have follows := held.follows started
      rw [draining] at follows
      rcases finished with missing | other
      · exact (held.settled started).2 (follows.symm.trans missing)
      · exact other follows
  | released => exact ⟨held.announced, held.settled, fun _ => trivial⟩

theorem following_step (held : Following state) (allowed : announcesToFollower state label)
    (taken : restartStep state label = some next) : Following next := by
  unfold restartStep at taken
  split_ifs at taken
  · exact following_monitor held allowed (monitor_step_moves taken)
  · exact following_stream held (peer_stream_step_moves taken)

end Steps

/-- If true is only ever sent to a `peer_stream` that is done with earlier generations,
it never waits for false while the channel says true: it has the streams of the running
generation or is about to open them. -/
theorem discovery_survives_restarts {labels : List RestartLabel} {state : RestartState}
    (run : Run restartStep announcesToFollower .initial labels state) :
    ¬ Stranded state ∧ (state.started = true → onGeneration state.running state.peerStream) := by
  have held : Following state := by
    apply run_invariant Following _ run
    · apply following_of_silent rfl
      intro announcing
      cases announcing
    · intro before label after held allowed taken
      exact following_step held allowed taken
  constructor
  · intro stranded
    rcases stranded with ⟨started, stream, waiting, -⟩
    have follows := held.follows started
    rw [waiting] at follows
    exact follows
  · exact held.follows

def firstDiscovery : List RestartLabel :=
  [.startSucceeds, .announce, .observeTrue, .discover, .arrival]

def patientRestart : List RestartLabel :=
  firstDiscovery ++
    [.restart, .stop, .connectDone, .streamEnd, .observeFalse, .startSucceeds, .announce,
      .observeTrue, .discover]

theorem discovery_survives_patient_restart :
    ∃ state, Run restartStep announcesToFollower .initial patientRestart state ∧
      state.peerStream = .draining (some 2) ∧ ¬ Stranded state := by
  have finished : ((execute (fun state label =>
      if announcesToFollower state label then restartStep state label else none) .initial
        patientRestart).map RestartState.peerStream) = some (.draining (some 2)) := by
    decide
  obtain ⟨state, reached, found⟩ := Option.map_eq_some_iff.mp finished
  have run := run_of_execute_guarded reached
  exact ⟨state, run, found, (discovery_survives_restarts run).1⟩

/-- The whole restart happens during one `try_connect`. -/
def hiddenRestart : List RestartLabel :=
  firstDiscovery ++
    [.restart, .stop, .startSucceeds, .announce, .connectDone, .streamEnd]

theorem hidden_restart_strands :
    ¬ ∀ (labels : List RestartLabel) (state : RestartState),
      Run restartStep anyStep .initial labels state → ¬ Stranded state := by
  intro never
  have finished : ((execute restartStep .initial hiddenRestart).map fun state =>
      (state.started, state.peerStream, state.running)) =
      some (true, .waitFalse (some 1), some 2) := by
    decide
  obtain ⟨state, reached, found⟩ := Option.map_eq_some_iff.mp finished
  simp only [Prod.mk.injEq] at found
  rcases found with ⟨started, waiting, running⟩
  apply never hiddenRestart state (run_of_execute reached)
  refine ⟨started, some 1, waiting, ?_⟩
  rw [running]
  decide

end Pathweave
