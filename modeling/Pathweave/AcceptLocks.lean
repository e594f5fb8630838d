import Pathweave.GuardedRuns
import Pathweave.Identities

/-!
# Accepting connections and stopping a transport

`accept` takes connections from a channel whose receiver lies behind the lock `conn_rx`,
and keeps the lock while it waits. `stop` needs the lock to clear the receiver. It
therefore first drops what keeps the sending task alive, so that the wait ends. On Linux
the task of WiFi Direct does not depend on what `stop` drops, and the wait goes on until
a client connects.
-/

namespace Pathweave

open GuardedRuns

set_option autoImplicit false

/-! ## The lock, the channels and the callers -/

/-- Requests for `conn_rx`, which is granted in the order of the requests. -/
inductive LockRequest where
  | poll
  | recv
  | clear
  | install (generation : Nat)
  deriving DecidableEq

def LockRequest.ofAccept : LockRequest → Bool
  | .poll | .recv => true
  | _ => false

@[simp] theorem of_accept_poll : LockRequest.poll.ofAccept = true := rfl

@[simp] theorem of_accept_recv : LockRequest.recv.ofAccept = true := rfl

@[simp] theorem of_accept_clear : LockRequest.clear.ofAccept = false := rfl

@[simp] theorem of_accept_install (generation : Nat) :
    (LockRequest.install generation).ofAccept = false := rfl

/-- The peripherals of the three systems are alike here. -/
inductive AcceptBackend where
  | ble
  | wifiLinux
  | wifiWindows
  deriving DecidableEq

namespace AcceptBackend

/-- Whether the sending task ends with the state that `stop` drops. On Linux the task of
WiFi Direct has its own clone of the D-Bus connection. -/
def signals : AcceptBackend → Bool
  | .wifiLinux => false
  | _ => true

/-- WiFi Direct on Linux looks into the channel before it waits, under a lock of its own. -/
def firstRequest : AcceptBackend → LockRequest
  | .wifiLinux => .poll
  | _ => .recv

def ended : AcceptBackend → Error
  | .ble => .transport "peripheral loop ended"
  | _ => .transport "WiFi Direct: accept channel closed"

def notStarted : AcceptBackend → Error
  | .ble => .transport "transport not started"
  | _ => .transport "WiFi Direct transport not started"

end AcceptBackend

/-- The senders of one channel and what lies in it. The task is busy while it is inside a
branch of its loop, where it does not see its stop signal. Each worker waits for the
client of one group and has a sender of its own. -/
structure AcceptChannel where
  signalled : Bool
  running : Bool
  busy : Bool
  workers : Nat
  buffer : List Nat
  deriving DecidableEq

namespace AcceptChannel

def fresh : AcceptChannel where
  signalled := false
  running := true
  busy := false
  workers := 0
  buffer := []

def hasSender (channel : AcceptChannel) : Bool :=
  channel.running || decide (0 < channel.workers)

end AcceptChannel

inductive StarterPhase where
  | down
  | installing (generation : Nat)
  | up (generation : Nat)
  | clearing
  deriving DecidableEq

def StarterPhase.requests : StarterPhase → List LockRequest
  | .installing generation => [.install generation]
  | .clearing => [.clear]
  | _ => []

theorem requests_single {phase : StarterPhase} {request : LockRequest}
    {rest : List LockRequest} (more : phase.requests = request :: rest) : rest = [] := by
  cases phase with
  | down => cases more
  | installing generation =>
      cases more
      rfl
  | up generation => cases more
  | clearing =>
      cases more
      rfl

/-- Channels are numbered by the `start` that created them, connections in the order in
which they are sent. `slot` is the receiver in `conn_rx`. The head of `queue` has the
lock. `answers` and `lost` are history. -/
structure AcceptState where
  channels : List AcceptChannel
  slot : Option Nat
  queue : List LockRequest
  starter : StarterPhase
  delivered : Nat
  answers : List (Except Error Nat)
  lost : List Nat

namespace AcceptState

def new : AcceptState where
  channels := []
  slot := none
  queue := []
  starter := .down
  delivered := 0
  answers := []
  lost := []

variable (state : AcceptState)

def returned : List Nat := state.answers.filterMap Except.toOption

def hasReceiver (generation : Nat) : Bool :=
  decide (state.slot = some generation) || state.queue.contains (.install generation)

def put (generation : Nat) (channel : AcceptChannel) : AcceptState :=
  { state with channels := state.channels.set generation channel }

/-- Without a receiver a connection is dropped by its sender. -/
def send (generation : Nat) (channel : AcceptChannel) : AcceptState :=
  if state.hasReceiver generation then
    { state with
      channels := state.channels.set generation
        { channel with buffer := channel.buffer ++ [state.delivered] }
      delivered := state.delivered + 1 }
  else
    { state with
      channels := state.channels.set generation channel
      delivered := state.delivered + 1
      lost := state.lost ++ [state.delivered] }

def current : Option (Nat × AcceptChannel) :=
  state.slot.bind fun generation => (state.channels[generation]?).map (generation, ·)

/-- A new value of the slot drops the receiver that was there, with its buffer. -/
def replace (slot : Option Nat) : AcceptState :=
  match state.current with
  | some (generation, channel) =>
      { state with
        slot := slot
        channels := state.channels.set generation { channel with buffer := [] }
        lost := state.lost ++ channel.buffer }
  | none => { state with slot := slot }

def answer (result : Except Error Nat) (rest : List LockRequest) : AcceptState :=
  { state with queue := rest, answers := state.answers ++ [result] }

def tryRecv (rest : List LockRequest) : Option AcceptState :=
  match state.current with
  | none => none
  | some (generation, channel) =>
      match channel.buffer with
      | [] => none
      | number :: later =>
          some ((state.put generation { channel with buffer := later }).answer (.ok number) rest)

/-- The other ends of `accept`. With an empty channel it waits while there is a sender. -/
def recvFails (backend : AcceptBackend) (rest : List LockRequest) : Option AcceptState :=
  match state.current with
  | none => some (state.answer (.error backend.notStarted) rest)
  | some (_, channel) =>
      if channel.hasSender then none else some (state.answer (.error backend.ended) rest)

@[simp] theorem put_queue (generation : Nat) (channel : AcceptChannel) :
    (state.put generation channel).queue = state.queue := rfl

@[simp] theorem put_starter (generation : Nat) (channel : AcceptChannel) :
    (state.put generation channel).starter = state.starter := rfl

@[simp] theorem answer_queue (result : Except Error Nat) (rest : List LockRequest) :
    (state.answer result rest).queue = rest := rfl

@[simp] theorem answer_starter (result : Except Error Nat) (rest : List LockRequest) :
    (state.answer result rest).starter = state.starter := rfl

@[simp] theorem send_queue (generation : Nat) (channel : AcceptChannel) :
    (state.send generation channel).queue = state.queue := by
  unfold send
  split_ifs <;> rfl

@[simp] theorem send_slot (generation : Nat) (channel : AcceptChannel) :
    (state.send generation channel).slot = state.slot := by
  unfold send
  split_ifs <;> rfl

@[simp] theorem send_starter (generation : Nat) (channel : AcceptChannel) :
    (state.send generation channel).starter = state.starter := by
  unfold send
  split_ifs <;> rfl

@[simp] theorem send_answers (generation : Nat) (channel : AcceptChannel) :
    (state.send generation channel).answers = state.answers := by
  unfold send
  split_ifs <;> rfl

@[simp] theorem replace_slot (slot : Option Nat) : (state.replace slot).slot = slot := by
  unfold replace
  split <;> rfl

@[simp] theorem replace_channels_length (slot : Option Nat) :
    (state.replace slot).channels.length = state.channels.length := by
  unfold replace
  split
  · exact List.length_set
  · rfl

@[simp] theorem replace_answers (slot : Option Nat) :
    (state.replace slot).answers = state.answers := by
  unfold replace
  split <;> rfl

end AcceptState

/-- What the sending side does. `subscriber` is a connection of the peripheral task,
`group` spawns a worker, and `client` is the connection a worker has waited for. -/
inductive SenderEvent where
  | ends
  | quits
  | enterIo
  | leaveIo
  | subscriber
  | group
  | client
  | clientFails
  deriving DecidableEq

inductive AcceptLabel where
  | startFails
  | startSucceeds
  | stop
  | accept
  | grant
  | sender (generation : Nat) (event : SenderEvent)
  deriving DecidableEq

/-- `start` and `stop` are called in turn by `health_monitor`; a `stop` also precedes a
`start` after one that failed. `accept` is called again when it has returned. -/
def callerStep (backend : AcceptBackend) (state : AcceptState) :
    AcceptLabel → StarterPhase → Option AcceptState
  | .startFails, .down => some state
  | .startSucceeds, .down =>
      some { state with
        channels := state.channels ++ [.fresh]
        queue := state.queue ++ [.install state.channels.length]
        starter := .installing state.channels.length }
  | .stop, .down => some { state with queue := state.queue ++ [.clear], starter := .clearing }
  | .stop, .up generation =>
      some { state with
        channels := state.channels.modify generation fun channel =>
          { channel with signalled := backend.signals }
        queue := state.queue ++ [.clear]
        starter := .clearing }
  | .accept, _ =>
      if state.queue.any LockRequest.ofAccept then none
      else some { state with queue := state.queue ++ [backend.firstRequest] }
  | _, _ => none

def grantStep (backend : AcceptBackend) (state : AcceptState) : Option AcceptState :=
  match state.queue with
  | [] => none
  | .poll :: rest => (state.tryRecv rest).or (some { state with queue := rest ++ [.recv] })
  | .recv :: rest => (state.tryRecv rest).or (state.recvFails backend rest)
  | .clear :: rest => some { state.replace none with queue := rest, starter := .down }
  | .install generation :: rest =>
      some { state.replace (some generation) with queue := rest, starter := .up generation }

def senderStep (backend : AcceptBackend) (state : AcceptState) (generation : Nat)
    (channel : AcceptChannel) : SenderEvent → Option AcceptState
  | .ends =>
      if channel.running ∧ channel.signalled ∧ channel.busy = false then
        some (state.put generation { channel with running := false })
      else none
  | .quits =>
      if channel.running ∧ channel.busy = false then
        some (state.put generation { channel with running := false })
      else none
  | .enterIo =>
      if backend = .ble ∧ channel.running ∧ channel.busy = false then
        some (state.put generation { channel with busy := true })
      else none
  | .leaveIo =>
      if channel.busy then some (state.put generation { channel with busy := false }) else none
  | .subscriber =>
      if backend = .ble ∧ channel.running ∧ channel.busy = false then
        some (state.send generation channel)
      else none
  | .group =>
      if backend ≠ .ble ∧ channel.running then
        some (state.put generation { channel with workers := channel.workers + 1 })
      else none
  | .client =>
      if 0 < channel.workers then
        some (state.send generation { channel with workers := channel.workers - 1 })
      else none
  | .clientFails =>
      if 0 < channel.workers then
        some (state.put generation { channel with workers := channel.workers - 1 })
      else none

def acceptStep (backend : AcceptBackend) (state : AcceptState) :
    AcceptLabel → Option AcceptState
  | .grant => grantStep backend state
  | .sender generation event =>
      (state.channels[generation]?).bind fun channel =>
        senderStep backend state generation channel event
  | label => callerStep backend state label state.starter

/-! ## What a step does -/

inductive SenderMove (backend : AcceptBackend) (channel : AcceptChannel) :
    SenderEvent → Bool → AcceptChannel → Prop where
  | ended (told : channel.signalled = true) (free : channel.busy = false) :
      SenderMove backend channel .ends false { channel with running := false }
  | quit (free : channel.busy = false) :
      SenderMove backend channel .quits false { channel with running := false }
  | entered (peripheral : backend = .ble) :
      SenderMove backend channel .enterIo false { channel with busy := true }
  | left : SenderMove backend channel .leaveIo false { channel with busy := false }
  | subscribed (peripheral : backend = .ble) : SenderMove backend channel .subscriber true channel
  | grouped (direct : backend ≠ .ble) :
      SenderMove backend channel .group false { channel with workers := channel.workers + 1 }
  | connected (waiting : 0 < channel.workers) :
      SenderMove backend channel .client true { channel with workers := channel.workers - 1 }
  | failed (waiting : 0 < channel.workers) :
      SenderMove backend channel .clientFails false { channel with workers := channel.workers - 1 }

inductive AcceptMove (backend : AcceptBackend) (state : AcceptState) :
    AcceptLabel → AcceptState → Prop where
  | startFailed : AcceptMove backend state .startFails state
  | started (down : state.starter = .down) :
      AcceptMove backend state .startSucceeds
        { state with
          channels := state.channels ++ [.fresh]
          queue := state.queue ++ [.install state.channels.length]
          starter := .installing state.channels.length }
  | stoppedDown (down : state.starter = .down) :
      AcceptMove backend state .stop
        { state with queue := state.queue ++ [.clear], starter := .clearing }
  | stoppedUp {generation : Nat} (up : state.starter = .up generation) :
      AcceptMove backend state .stop
        { state with
          channels := state.channels.modify generation fun channel =>
            { channel with signalled := backend.signals }
          queue := state.queue ++ [.clear]
          starter := .clearing }
  | called (quiet : state.queue.any LockRequest.ofAccept = false) :
      AcceptMove backend state .accept
        { state with queue := state.queue ++ [backend.firstRequest] }
  | took {request : LockRequest} {rest : List LockRequest} {generation number : Nat}
      {channel : AcceptChannel} {later : List Nat} (queued : state.queue = request :: rest)
      (accepts : request.ofAccept = true) (slot : state.slot = some generation)
      (present : state.channels[generation]? = some channel)
      (buffered : channel.buffer = number :: later) :
      AcceptMove backend state .grant
        ((state.put generation { channel with buffer := later }).answer (.ok number) rest)
  | polled {rest : List LockRequest} (queued : state.queue = .poll :: rest) :
      AcceptMove backend state .grant { state with queue := rest ++ [.recv] }
  | refused {rest : List LockRequest} {error : Error} (queued : state.queue = .recv :: rest)
      (closed : ∀ generation channel, state.current = some (generation, channel) →
        channel.hasSender = false) :
      AcceptMove backend state .grant (state.answer (.error error) rest)
  | cleared {rest : List LockRequest} (queued : state.queue = .clear :: rest) :
      AcceptMove backend state .grant
        { state.replace none with queue := rest, starter := .down }
  | installed {generation : Nat} {rest : List LockRequest}
      (queued : state.queue = .install generation :: rest) :
      AcceptMove backend state .grant
        { state.replace (some generation) with queue := rest, starter := .up generation }
  | changed {generation : Nat} {channel next : AcceptChannel} {event : SenderEvent}
      (present : state.channels[generation]? = some channel)
      (moved : SenderMove backend channel event false next) :
      AcceptMove backend state (.sender generation event) (state.put generation next)
  | sent {generation : Nat} {channel next : AcceptChannel} {event : SenderEvent}
      (present : state.channels[generation]? = some channel)
      (moved : SenderMove backend channel event true next) :
      AcceptMove backend state (.sender generation event) (state.send generation next)

section Moves

variable {backend : AcceptBackend} {state next : AcceptState}

theorem current_some {generation : Nat} {channel : AcceptChannel} :
    state.current = some (generation, channel) ↔
      state.slot = some generation ∧ state.channels[generation]? = some channel := by
  unfold AcceptState.current
  rw [Option.bind_eq_some_iff]
  constructor
  · rintro ⟨place, slot, found⟩
    obtain ⟨present, named, same⟩ := Option.map_eq_some_iff.mp found
    cases same
    exact ⟨slot, named⟩
  · rintro ⟨slot, present⟩
    exact ⟨generation, slot, by rw [present]; rfl⟩

theorem try_recv_some {rest : List LockRequest} (taken : state.tryRecv rest = some next) :
    ∃ generation channel number later, state.slot = some generation ∧
      state.channels[generation]? = some channel ∧ channel.buffer = number :: later ∧
      next = (state.put generation { channel with buffer := later }).answer (.ok number) rest := by
  unfold AcceptState.tryRecv at taken
  split at taken
  · cases taken
  · rename_i generation channel found
    obtain ⟨slot, present⟩ := current_some.mp found
    split at taken
    · cases taken
    · rename_i number later buffered
      cases taken
      exact ⟨generation, channel, number, later, slot, present, buffered, rfl⟩

theorem recv_fails_some {rest : List LockRequest}
    (taken : state.recvFails backend rest = some next) :
    (∃ error, next = state.answer (.error error) rest) ∧
      ∀ generation channel, state.current = some (generation, channel) →
        channel.hasSender = false := by
  unfold AcceptState.recvFails at taken
  cases found : state.current with
  | none =>
      rw [found] at taken
      cases taken
      exact ⟨⟨_, rfl⟩, fun _ _ impossible => by cases impossible⟩
  | some entry =>
      rw [found] at taken
      obtain ⟨sending, taken⟩ := Option.ite_none_left_eq_some.mp taken
      cases taken
      refine ⟨⟨_, rfl⟩, ?_⟩
      rintro generation channel same
      cases same
      exact Bool.eq_false_iff.mpr sending

theorem grant_moves (taken : grantStep backend state = some next) :
    AcceptMove backend state .grant next := by
  unfold grantStep at taken
  split at taken
  case h_1 => cases taken
  case h_2 rest queued =>
    rcases Option.or_eq_some_iff.mp taken with found | ⟨-, polled⟩
    · obtain ⟨generation, channel, number, later, slot, present, buffered, rfl⟩ :=
        try_recv_some found
      exact .took queued rfl slot present buffered
    · cases polled
      exact .polled queued
  case h_3 rest queued =>
    rcases Option.or_eq_some_iff.mp taken with found | ⟨-, failed⟩
    · obtain ⟨generation, channel, number, later, slot, present, buffered, rfl⟩ :=
        try_recv_some found
      exact .took queued rfl slot present buffered
    · obtain ⟨⟨error, rfl⟩, closed⟩ := recv_fails_some failed
      exact .refused queued closed
  case h_4 rest queued =>
    cases taken
    exact .cleared queued
  case h_5 generation rest queued =>
    cases taken
    exact .installed queued

theorem sender_moves {generation : Nat} {channel : AcceptChannel} {event : SenderEvent}
    (present : state.channels[generation]? = some channel)
    (taken : senderStep backend state generation channel event = some next) :
    AcceptMove backend state (.sender generation event) next := by
  cases event with
  | ends =>
      obtain ⟨free, taken⟩ := Option.ite_none_right_eq_some.mp taken
      cases taken
      exact .changed present (.ended free.2.1 free.2.2)
  | quits =>
      obtain ⟨free, taken⟩ := Option.ite_none_right_eq_some.mp taken
      cases taken
      exact .changed present (.quit free.2)
  | enterIo =>
      obtain ⟨free, taken⟩ := Option.ite_none_right_eq_some.mp taken
      cases taken
      exact .changed present (.entered free.1)
  | leaveIo =>
      obtain ⟨-, taken⟩ := Option.ite_none_right_eq_some.mp taken
      cases taken
      exact .changed present .left
  | subscriber =>
      obtain ⟨free, taken⟩ := Option.ite_none_right_eq_some.mp taken
      cases taken
      exact .sent present (.subscribed free.1)
  | group =>
      obtain ⟨direct, taken⟩ := Option.ite_none_right_eq_some.mp taken
      cases taken
      exact .changed present (.grouped direct.1)
  | client =>
      obtain ⟨waiting, taken⟩ := Option.ite_none_right_eq_some.mp taken
      cases taken
      exact .sent present (.connected waiting)
  | clientFails =>
      obtain ⟨waiting, taken⟩ := Option.ite_none_right_eq_some.mp taken
      cases taken
      exact .changed present (.failed waiting)

theorem caller_moves {label : AcceptLabel}
    (taken : callerStep backend state label state.starter = some next) :
    AcceptMove backend state label next := by
  unfold callerStep at taken
  split at taken
  case h_1 =>
    cases taken
    exact .startFailed
  case h_2 down =>
    cases taken
    exact .started down
  case h_3 down =>
    cases taken
    exact .stoppedDown down
  case h_4 generation up =>
    cases taken
    exact .stoppedUp up
  case h_5 =>
    split_ifs at taken with busy
    cases taken
    exact .called (Bool.eq_false_iff.mpr busy)
  case h_6 => cases taken

theorem accept_step_moves {label : AcceptLabel}
    (taken : acceptStep backend state label = some next) :
    AcceptMove backend state label next := by
  cases label with
  | grant => exact grant_moves taken
  | sender generation event =>
      obtain ⟨channel, present, moved⟩ := Option.bind_eq_some_iff.mp taken
      exact sender_moves present moved
  | startFails => exact caller_moves taken
  | startSucceeds => exact caller_moves taken
  | stop => exact caller_moves taken
  | accept => exact caller_moves taken

end Moves

/-! ## Requests, phases and the slot -/

/-- Each caller has at most one request, and that of `health_monitor` is the one of its
phase. -/
structure Queued (state : AcceptState) : Prop where
  others : state.queue.filter (fun request => !request.ofAccept) = state.starter.requests
  single : state.queue.countP LockRequest.ofAccept ≤ 1

/-- The slot by phase. A receiver that is to be cleared has had its senders told. -/
def Placed (backend : AcceptBackend) (state : AcceptState) : Prop :=
  match state.starter with
  | .down => state.slot = none
  | .installing generation => state.slot = none ∧ generation < state.channels.length
  | .up generation => state.slot = some generation ∧ generation < state.channels.length
  | .clearing => ∀ generation, state.slot = some generation →
      ∃ channel, state.channels[generation]? = some channel ∧
        channel.signalled = backend.signals

/-- A peripheral has no workers, and only a peripheral is ever busy. -/
def Furnished (backend : AcceptBackend) (channel : AcceptChannel) : Prop :=
  if backend = .ble then channel.workers = 0 else channel.busy = false

section Invariants

variable {backend : AcceptBackend} {state next : AcceptState} {label : AcceptLabel}

theorem accept_first (backend : AcceptBackend) : backend.firstRequest.ofAccept = true := by
  cases backend <;> rfl

theorem queued_step (held : Queued state) (moved : AcceptMove backend state label next) :
    Queued next := by
  obtain ⟨others, single⟩ := held
  cases moved with
  | startFailed => exact ⟨others, single⟩
  | started down =>
      rw [down] at others
      exact ⟨by simp [others, StarterPhase.requests], by simpa using single⟩
  | stoppedDown down =>
      rw [down] at others
      exact ⟨by simp [others, StarterPhase.requests], by simpa using single⟩
  | stoppedUp up =>
      rw [up] at others
      exact ⟨by simp [others, StarterPhase.requests], by simpa using single⟩
  | called quiet =>
      have none : state.queue.countP LockRequest.ofAccept = 0 :=
        List.countP_eq_zero.mpr (List.any_eq_false.mp quiet)
      exact ⟨by simp [others, accept_first], by simp [none, accept_first]⟩
  | took queued accepts slot present buffered =>
      rw [queued] at others single
      rw [List.filter_cons_of_neg (by simp [accepts])] at others
      rw [List.countP_cons_of_pos accepts] at single
      exact ⟨by simpa using others, Nat.le_of_succ_le single⟩
  | polled queued =>
      rw [queued] at others single
      rw [List.countP_cons_of_pos rfl] at single
      exact ⟨by simpa using others, by simpa using single⟩
  | refused queued closed =>
      rw [queued] at others single
      rw [List.countP_cons_of_pos rfl] at single
      exact ⟨by simpa using others, Nat.le_of_succ_le single⟩
  | cleared queued =>
      rw [queued] at others single
      rw [List.filter_cons_of_pos rfl] at others
      exact ⟨requests_single others.symm, by simpa using single⟩
  | installed queued =>
      rw [queued] at others single
      rw [List.filter_cons_of_pos rfl] at others
      exact ⟨requests_single others.symm, by simpa using single⟩
  | changed present moved => exact ⟨others, single⟩
  | sent present moved => exact ⟨by simpa using others, by simpa using single⟩

theorem phase_of_clear (held : Queued state) {rest : List LockRequest}
    (queued : state.queue = .clear :: rest) : state.starter = .clearing := by
  have others := held.others
  rw [queued, List.filter_cons_of_pos rfl] at others
  cases phase : state.starter with
  | clearing => rfl
  | _ => simp [phase, StarterPhase.requests] at others

theorem phase_of_install (held : Queued state) {generation : Nat} {rest : List LockRequest}
    (queued : state.queue = .install generation :: rest) :
    state.starter = .installing generation := by
  have others := held.others
  rw [queued, List.filter_cons_of_pos rfl] at others
  cases phase : state.starter with
  | installing place =>
      rw [phase] at others
      rw [LockRequest.install.inj (List.cons.inj others).1]
  | _ => simp [phase, StarterPhase.requests] at others

theorem sender_signal {channel after : AcceptChannel} {event : SenderEvent} {sends : Bool}
    (moved : SenderMove backend channel event sends after) :
    after.signalled = channel.signalled := by
  cases moved <;> rfl

theorem sender_buffer {channel after : AcceptChannel} {event : SenderEvent} {sends : Bool}
    (moved : SenderMove backend channel event sends after) :
    after.buffer = channel.buffer := by
  cases moved <;> rfl

theorem kept_signal {generation place : Nat} {channel after : AcceptChannel}
    (present : state.channels[generation]? = some channel)
    (same : after.signalled = channel.signalled)
    (told : ∃ told, state.channels[place]? = some told ∧ told.signalled = backend.signals) :
    ∃ told, (state.channels.set generation after)[place]? = some told ∧
      told.signalled = backend.signals := by
  obtain ⟨told, found, signalled⟩ := told
  by_cases here : generation = place
  · subst here
    rw [found] at present
    cases present
    exact ⟨after, List.getElem?_set_self (List.getElem?_eq_some_iff.mp found).1,
      same.trans signalled⟩
  · exact ⟨told, by rw [List.getElem?_set_ne here, found], signalled⟩

theorem slot_placed_of_set (held : Placed backend state) {generation : Nat}
    {channel after : AcceptChannel} (present : state.channels[generation]? = some channel)
    (starter : next.starter = state.starter) (slot : next.slot = state.slot)
    (channels : next.channels = state.channels.set generation after)
    (same : after.signalled = channel.signalled) : Placed backend next := by
  unfold Placed at *
  rw [starter, slot, channels]
  cases phase : state.starter with
  | down => simpa [phase] using held
  | installing place => simpa [phase] using held
  | up place => simpa [phase] using held
  | clearing =>
      rw [phase] at held
      intro place slot
      exact kept_signal present same (held place slot)

theorem slot_placed_step (queues : Queued state) (held : Placed backend state)
    (moved : AcceptMove backend state label next) : Placed backend next := by
  cases moved with
  | startFailed => exact held
  | started down =>
      have empty : state.slot = none := by simpa [Placed, down] using held
      exact ⟨empty, by simp⟩
  | stoppedDown down =>
      have empty : state.slot = none := by simpa [Placed, down] using held
      intro generation slot
      cases empty.symm.trans slot
  | @stoppedUp generation up =>
      have placed : state.slot = some generation ∧ generation < state.channels.length := by
        simpa [Placed, up] using held
      intro place slot
      cases placed.1.symm.trans slot
      obtain ⟨channel, present⟩ : ∃ channel, state.channels[generation]? = some channel :=
        ⟨_, List.getElem?_eq_getElem placed.2⟩
      exact ⟨{ channel with signalled := backend.signals },
        by simp [present], rfl⟩
  | called quiet => exact held
  | took queued accepts slot present buffered =>
      exact slot_placed_of_set held present rfl rfl rfl rfl
  | polled queued => exact held
  | refused queued closed => exact held
  | cleared queued => exact AcceptState.replace_slot state none
  | @installed generation rest queued =>
      have phase := phase_of_install queues queued
      have placed : state.slot = none ∧ generation < state.channels.length := by
        simpa [Placed, phase] using held
      exact ⟨AcceptState.replace_slot state _, by simpa using placed.2⟩
  | changed present moved => exact slot_placed_of_set held present rfl rfl rfl (sender_signal moved)
  | sent present moved =>
      have same := sender_signal moved
      unfold AcceptState.send
      split_ifs
      · exact slot_placed_of_set held present rfl rfl rfl same
      · exact slot_placed_of_set held present rfl rfl rfl same

theorem sender_furnished {channel after : AcceptChannel} {event : SenderEvent} {sends : Bool}
    (held : Furnished backend channel) (moved : SenderMove backend channel event sends after) :
    Furnished backend after := by
  unfold Furnished at *
  cases moved with
  | ended told free => exact held
  | quit free => exact held
  | entered peripheral => rwa [if_pos peripheral] at held ⊢
  | left =>
      split_ifs at held ⊢
      · exact held
      · rfl
  | subscribed peripheral => exact held
  | grouped direct => rwa [if_neg direct] at held ⊢
  | connected waiting =>
      split_ifs at held ⊢
      · omega
      · exact held
  | failed waiting =>
      split_ifs at held ⊢
      · omega
      · exact held

theorem each_set {property : AcceptChannel → Prop} {channels : List AcceptChannel}
    {generation : Nat} {after : AcceptChannel}
    (held : ∀ channel ∈ channels, property channel) (new : property after) :
    ∀ channel ∈ channels.set generation after, property channel := by
  intro channel listed
  rcases List.mem_or_eq_of_mem_set listed with before | same
  · exact held channel before
  · exact same ▸ new

theorem each_replace {property : AcceptChannel → Prop} (slot : Option Nat)
    (held : ∀ channel ∈ state.channels, property channel)
    (emptied : ∀ channel, property channel → property { channel with buffer := [] }) :
    ∀ channel ∈ (state.replace slot).channels, property channel := by
  unfold AcceptState.replace
  split
  · rename_i generation channel found
    exact each_set held
      (emptied channel (held channel (List.mem_of_getElem? (current_some.mp found).2)))
  · exact held

theorem furnished_step (held : ∀ channel ∈ state.channels, Furnished backend channel)
    (moved : AcceptMove backend state label next) :
    ∀ channel ∈ next.channels, Furnished backend channel := by
  cases moved with
  | startFailed => exact held
  | started down =>
      intro channel listed
      rcases List.mem_append.mp listed with before | new
      · exact held channel before
      · rw [List.mem_singleton.mp new]
        unfold Furnished
        split_ifs <;> rfl
  | stoppedDown down => exact held
  | stoppedUp up =>
      intro channel listed
      obtain ⟨place, found⟩ := List.mem_iff_getElem?.mp listed
      rw [List.getElem?_modify] at found
      obtain ⟨before, present, changed⟩ := Option.map_eq_some_iff.mp found
      have furnished := held before (List.mem_of_getElem? present)
      split_ifs at changed
      · cases changed
        exact furnished
      · cases changed
        exact furnished
  | called quiet => exact held
  | took queued accepts slot present buffered =>
      have furnished := held _ (List.mem_of_getElem? present)
      exact each_set held furnished
  | polled queued => exact held
  | refused queued closed => exact held
  | cleared queued => exact each_replace none held fun _ furnished => furnished
  | installed queued => exact each_replace _ held fun _ furnished => furnished
  | changed present moved =>
      exact each_set held (sender_furnished (held _ (List.mem_of_getElem? present)) moved)
  | sent present moved =>
      have furnished := sender_furnished (held _ (List.mem_of_getElem? present)) moved
      unfold AcceptState.send
      split_ifs
      · exact each_set held furnished
      · exact each_set held furnished

structure Consistent (backend : AcceptBackend) (state : AcceptState) : Prop where
  queued : Queued state
  placed : Placed backend state
  furnished : ∀ channel ∈ state.channels, Furnished backend channel

theorem consistent_run {labels : List AcceptLabel}
    (run : Run (acceptStep backend) anyStep .new labels state) : Consistent backend state := by
  refine run_invariant (Consistent backend) (fun before label after held allowed taken => ?_) run ?_
  · have moved := accept_step_moves taken
    exact ⟨queued_step held.queued moved, slot_placed_step held.queued held.placed moved,
      furnished_step held.furnished moved⟩
  · exact ⟨⟨rfl, Nat.zero_le _⟩, rfl, fun channel listed => by cases listed⟩

theorem told_of_pending (held : Consistent backend state) (pending : state.starter = .clearing)
    {generation : Nat} {channel : AcceptChannel} (slot : state.slot = some generation)
    (present : state.channels[generation]? = some channel) :
    channel.signalled = backend.signals := by
  have placed := held.placed
  unfold Placed at placed
  rw [pending] at placed
  obtain ⟨other, again, told⟩ := placed generation slot
  rw [present] at again
  cases again
  exact told

theorem replace_installing (held : Consistent backend state) {generation : Nat}
    (phase : state.starter = .installing generation) :
    state.slot = none ∧
      state.replace (some generation) = { state with slot := some generation } := by
  have placed := held.placed
  unfold Placed at placed
  rw [phase] at placed
  have missing : state.current = none := by
    rw [AcceptState.current, placed.1]
    rfl
  exact ⟨placed.1, by rw [AcceptState.replace, missing]⟩

end Invariants

end Pathweave
