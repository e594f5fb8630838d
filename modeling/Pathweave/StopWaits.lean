import Pathweave.AcceptLocks

/-!
# Stopping a transport that accepts

A `stop` that waits for the lock of `accept` has at most one request in front of it. It
returns once that `accept` has returned, which the end of the sending task brings about.
On Linux nothing ends the task of WiFi Direct, so that its `stop` waits for a client.
-/

namespace Pathweave

open GuardedRuns

set_option autoImplicit false

/-! ## A pending stop -/

section Pending

variable {backend : AcceptBackend} {state next : AcceptState} {label : AcceptLabel}

theorem pending_queue (held : Queued state) (pending : state.starter = .clearing) :
    (∃ rest, state.queue = .clear :: rest) ∨
      ∃ request, request.ofAccept = true ∧ state.queue = [request, .clear] := by
  obtain ⟨others, single⟩ := held
  rw [pending] at others
  cases queue : state.queue with
  | nil =>
      rw [queue] at others
      cases others
  | cons request rest =>
      rw [queue] at others single
      by_cases accepts : request.ofAccept = true
      · rw [List.countP_cons_of_pos accepts] at single
        have none : rest.countP LockRequest.ofAccept = 0 := by omega
        have all : rest.filter (fun request => !request.ofAccept) = rest := by
          rw [List.filter_eq_self]
          intro other listed
          simpa using List.countP_eq_zero.mp none other listed
        rw [List.filter_cons_of_neg (by simp [accepts]), all] at others
        exact .inr ⟨request, accepts, by rw [others]; rfl⟩
      · rw [List.filter_cons_of_pos (by simpa using accepts)] at others
        have first : request = .clear := (List.cons.inj others).1
        exact .inl ⟨rest, by rw [first]⟩

theorem behind_accept (held : Queued state) (pending : state.starter = .clearing)
    {request : LockRequest} {rest : List LockRequest} (queued : state.queue = request :: rest)
    (accepts : request.ofAccept = true) : rest = [.clear] := by
  rcases pending_queue held pending with ⟨others, queue⟩ | ⟨first, -, queue⟩
  · cases queued.symm.trans queue
    cases accepts
  · cases queued.symm.trans queue
    rfl

/-- How many grants a pending `stop` waits for, its own included. -/
def grantsLeft (state : AcceptState) : Nat :=
  if state.starter = .clearing then
    (state.queue.takeWhile LockRequest.ofAccept).length + 1
  else 0

theorem grants_left_bound (held : Queued state) : grantsLeft state ≤ 2 := by
  unfold grantsLeft
  split_ifs with pending
  · rcases pending_queue held pending with ⟨rest, queue⟩ | ⟨request, accepts, queue⟩
    · simp [queue]
    · simp [queue, accepts]
  · omega

theorem grants_left_same (starter : next.starter = state.starter)
    (queue : next.queue = state.queue) : grantsLeft next = grantsLeft state := by
  unfold grantsLeft
  rw [starter, queue]

theorem grants_left_step (held : Queued state) (pending : state.starter = .clearing)
    (moved : AcceptMove backend state label next) :
    [label].count .grant + grantsLeft next ≤ grantsLeft state := by
  cases moved with
  | startFailed => simp
  | started down => cases pending.symm.trans down
  | stoppedDown down => cases pending.symm.trans down
  | stoppedUp up => cases pending.symm.trans up
  | called quiet =>
      rcases pending_queue held pending with ⟨rest, queue⟩ | ⟨request, accepts, queue⟩
      · simp [grantsLeft, pending, queue]
      · rw [queue] at quiet
        simp [accepts] at quiet
  | took queued accepts slot present buffered =>
      obtain rfl := behind_accept held pending queued accepts
      simp [grantsLeft, pending, queued, accepts]
  | polled queued =>
      obtain rfl := behind_accept held pending queued rfl
      simp [grantsLeft, pending, queued, List.takeWhile]
  | refused queued closed =>
      obtain rfl := behind_accept held pending queued rfl
      simp [grantsLeft, pending, queued, List.takeWhile]
  | cleared queued => simp [grantsLeft, pending, queued]
  | installed queued => cases pending.symm.trans (phase_of_install held queued)
  | @changed generation channel after event present moved =>
      have same : grantsLeft (state.put generation after) = grantsLeft state :=
        grants_left_same rfl rfl
      simp [same]
  | @sent generation channel after event present moved =>
      have same : grantsLeft (state.send generation after) = grantsLeft state :=
        grants_left_same (by simp) (by simp)
      simp [same]

theorem grants_left_run {labels : List AcceptLabel} (held : Queued state)
    (run : Run (acceptStep backend) (fun before _ => before.starter = .clearing) state labels
      next) :
    Queued next ∧ labels.count .grant + grantsLeft next ≤ grantsLeft state := by
  induction run with
  | start => exact ⟨held, by simp⟩
  | extend prior pending taken ih =>
      have moved := accept_step_moves taken
      have step := grants_left_step ih.1 pending moved
      refine ⟨queued_step ih.1 moved, ?_⟩
      rw [List.count_append]
      omega

/-- What keeps an `accept` waiting, and with it a `stop`. -/
def HeldOpen (channel : AcceptChannel) : AcceptBackend → Prop
  | .ble => channel.running = true ∧ channel.busy = true
  | .wifiLinux => channel.hasSender = true
  | .wifiWindows => 0 < channel.workers

theorem grant_closed {generation : Nat} {channel : AcceptChannel} {rest : List LockRequest}
    (queued : state.queue = .recv :: rest) (found : state.current = some (generation, channel))
    (empty : channel.buffer = []) (closed : channel.hasSender = false) :
    acceptStep backend state .grant = some (state.answer (.error backend.ended) rest) := by
  simp only [acceptStep, grantStep, queued, AcceptState.tryRecv, found, empty,
    AcceptState.recvFails, closed]
  rfl

theorem grant_buffered {generation number : Nat} {channel : AcceptChannel} {later : List Nat}
    {rest : List LockRequest} (queued : state.queue = .recv :: rest)
    (found : state.current = some (generation, channel))
    (buffered : channel.buffer = number :: later) :
    acceptStep backend state .grant =
      some ((state.put generation { channel with buffer := later }).answer (.ok number) rest) := by
  simp only [acceptStep, grantStep, queued, AcceptState.tryRecv, found, buffered]
  rfl

theorem recv_goes_on {rest : List LockRequest} (queued : state.queue = .recv :: rest) :
    (∃ next, acceptStep backend state .grant = some next) ∨
      ∃ generation channel, state.current = some (generation, channel) ∧
        channel.buffer = [] ∧ channel.hasSender = true := by
  cases found : state.current with
  | none =>
      refine .inl ⟨state.answer (.error backend.notStarted) rest, ?_⟩
      simp only [acceptStep, grantStep, queued, AcceptState.tryRecv, found, AcceptState.recvFails]
      rfl
  | some entry =>
      obtain ⟨generation, channel⟩ := entry
      cases buffer : channel.buffer with
      | cons number later => exact .inl ⟨_, grant_buffered queued found buffer⟩
      | nil =>
          cases sender : channel.hasSender with
          | false => exact .inl ⟨_, grant_closed queued found buffer sender⟩
          | true => exact .inr ⟨generation, channel, rfl, buffer, sender⟩

theorem ends_then_returns {generation : Nat} {channel : AcceptChannel}
    {rest : List LockRequest} (queued : state.queue = .recv :: rest)
    (found : state.current = some (generation, channel)) (empty : channel.buffer = [])
    (running : channel.running = true) (told : channel.signalled = true)
    (free : channel.busy = false) (alone : channel.workers = 0) :
    ∃ ended next, acceptStep backend state (.sender generation .ends) = some ended ∧
      acceptStep backend ended .grant = some next := by
  obtain ⟨slot, present⟩ := current_some.mp found
  have step : acceptStep backend state (.sender generation .ends) =
      some (state.put generation { channel with running := false }) := by
    simp only [acceptStep, present, Option.bind_some, senderStep]
    rw [if_pos ⟨running, told, free⟩]
  have closed : (state.put generation { channel with running := false }).current =
      some (generation, { channel with running := false }) :=
    current_some.mpr ⟨slot, List.getElem?_set_self (List.getElem?_eq_some_iff.mp present).1⟩
  exact ⟨_, _, step, grant_closed queued closed empty
    (by simp [AcceptChannel.hasSender, alone])⟩

theorem sender_ends_or_holds (held : Consistent backend state)
    (pending : state.starter = .clearing) {generation : Nat} {channel : AcceptChannel}
    (found : state.current = some (generation, channel)) (sender : channel.hasSender = true) :
    (channel.running = true ∧ channel.signalled = true ∧ channel.busy = false ∧
      channel.workers = 0) ∨ HeldOpen channel backend := by
  obtain ⟨slot, present⟩ := current_some.mp found
  have furnished := held.furnished channel (List.mem_of_getElem? present)
  have told := told_of_pending held pending slot present
  have either : channel.running = true ∨ 0 < channel.workers := by
    simpa [AcceptChannel.hasSender] using sender
  cases backend with
  | ble =>
      have alone : channel.workers = 0 := furnished
      have running : channel.running = true := by
        rcases either with running | waiting
        · exact running
        · omega
      cases busy : channel.busy with
      | true => exact .inr ⟨running, busy⟩
      | false => exact .inl ⟨running, told, rfl, alone⟩
  | wifiLinux => exact .inr sender
  | wifiWindows =>
      have free : channel.busy = false := furnished
      by_cases waiting : 0 < channel.workers
      · exact .inr waiting
      · rcases either with running | waits
        · exact .inl ⟨running, told, free, by omega⟩
        · exact absurd waits waiting

end Pending

/-- A pending `stop` waits for two grants of the lock at most, whatever the other tasks do
meanwhile, and the next grant can be made at once, or as soon as the sending task has seen
its signal, except while `accept` waits on an empty channel that is held open: by a
peripheral inside a branch of its loop, on Windows by a worker that waits for its client,
and on Linux by a worker or by the loop itself. -/
theorem stop_returns (backend : AcceptBackend) (labels : List AcceptLabel) (state : AcceptState)
    (run : Run (acceptStep backend) anyStep .new labels state)
    (pending : state.starter = .clearing) :
    ((∃ next, acceptStep backend state .grant = some next) ∨
      (∃ generation ended next, state.slot = some generation ∧
        acceptStep backend state (.sender generation .ends) = some ended ∧
        acceptStep backend ended .grant = some next) ∨
      ∃ generation channel, state.queue = [.recv, .clear] ∧ state.slot = some generation ∧
        state.channels[generation]? = some channel ∧ channel.buffer = [] ∧
        HeldOpen channel backend) ∧
    ∀ more final, Run (acceptStep backend) (fun before _ => before.starter = .clearing) state
      more final → more.count .grant ≤ 2 := by
  have held := consistent_run run
  constructor
  · rcases pending_queue held.queued pending with ⟨rest, queue⟩ | ⟨request, accepts, queue⟩
    · refine .inl ⟨{ state.replace none with queue := rest, starter := .down }, ?_⟩
      simp only [acceptStep, grantStep, queue]
    · cases request with
      | poll =>
          left
          simp only [acceptStep, grantStep, queue]
          cases state.tryRecv [.clear] with
          | none => exact ⟨_, rfl⟩
          | some next => exact ⟨_, rfl⟩
      | recv =>
          rcases recv_goes_on queue with grant | ⟨generation, channel, found, empty, sender⟩
          · exact .inl grant
          · obtain ⟨slot, present⟩ := current_some.mp found
            rcases sender_ends_or_holds held pending found sender with
              ⟨running, told, free, alone⟩ | holds
            · obtain ⟨ended, next, ends, returns⟩ :=
                ends_then_returns queue found empty running told free alone
              exact .inr (.inl ⟨generation, ended, next, slot, ends, returns⟩)
            · exact .inr (.inr ⟨generation, channel, queue, slot, present, empty, holds⟩)
      | clear => cases accepts
      | install generation => cases accepts
  · intro more final pendingRun
    have counted := (grants_left_run held.queued pendingRun).2
    have bound := grants_left_bound held.queued
    omega

def stopBehindAccept (backend : AcceptBackend) (workers : Nat) : AcceptState where
  channels := [{ AcceptChannel.fresh with signalled := backend.signals, workers := workers }]
  slot := some 0
  queue := [.recv, .clear]
  starter := .clearing
  delivered := 0
  answers := []
  lost := []

theorem stop_returns_peripheral :
    Run (acceptStep .ble) anyStep .new [.startSucceeds, .grant, .accept, .stop]
        (stopBehindAccept .ble 0) ∧
      acceptStep .ble (stopBehindAccept .ble 0) .grant = none ∧
      ∀ more final, Run (acceptStep .ble) (fun before _ => before.starter = .clearing)
        (stopBehindAccept .ble 0) more final → more.count .grant ≤ 2 := by
  have reached : Run (acceptStep .ble) anyStep .new [.startSucceeds, .grant, .accept, .stop]
      (stopBehindAccept .ble 0) := run_of_execute rfl
  exact ⟨reached, rfl, (stop_returns .ble _ _ reached rfl).2⟩

/-! ## WiFi Direct on Linux -/

/-- A `stop` behind an `accept` that waits on a channel whose loop runs. -/
structure LinuxWait (generation : Nat) (answers : List (Except Error Nat))
    (state : AcceptState) : Prop where
  queue : state.queue = [.recv, .clear]
  starter : state.starter = .clearing
  slot : state.slot = some generation
  answers : state.answers = answers
  listening : ∃ channel, state.channels[generation]? = some channel ∧ channel.buffer = [] ∧
    channel.running = true ∧ channel.signalled = false

section Linux

variable {state next : AcceptState} {label : AcceptLabel} {generation : Nat}
  {answers : List (Except Error Nat)}

theorem listening_of_set {place : Nat} {channel after : AcceptChannel} {event : SenderEvent}
    {sends : Bool} {channels : List AcceptChannel}
    (listening : ∃ channel, channels[generation]? = some channel ∧ channel.buffer = [] ∧
      channel.running = true ∧ channel.signalled = false)
    (present : channels[place]? = some channel)
    (moved : SenderMove .wifiLinux channel event sends after)
    (apart : .sender place event ≠ AcceptLabel.sender generation .client ∧
      .sender place event ≠ AcceptLabel.sender generation .quits) :
    ∃ channel, (channels.set place after)[generation]? = some channel ∧ channel.buffer = [] ∧
      channel.running = true ∧ channel.signalled = false := by
  obtain ⟨own, found, empty, running, untold⟩ := listening
  by_cases here : place = generation
  · subst here
    rw [found] at present
    cases present
    have set := List.getElem?_set_self (a := after) (List.getElem?_eq_some_iff.mp found).1
    refine ⟨after, set, (sender_buffer moved).trans empty, ?_, (sender_signal moved).trans untold⟩
    cases moved with
    | ended told free => cases untold.symm.trans told
    | quit free => exact absurd rfl apart.2
    | entered peripheral => cases peripheral
    | left => exact running
    | subscribed peripheral => cases peripheral
    | grouped direct => exact running
    | connected waiting => exact absurd rfl apart.1
    | failed waiting => exact running
  · exact ⟨own, by rw [List.getElem?_set_ne here, found], empty, running, untold⟩

theorem linux_wait_step (held : LinuxWait generation answers state)
    (apart : label ≠ .sender generation .client ∧ label ≠ .sender generation .quits)
    (moved : AcceptMove .wifiLinux state label next) :
    label ≠ .grant ∧ LinuxWait generation answers next := by
  obtain ⟨queue, starter, slot, same, listening⟩ := held
  cases moved with
  | startFailed => exact ⟨by simp, queue, starter, slot, same, listening⟩
  | started down => cases starter.symm.trans down
  | stoppedDown down => cases starter.symm.trans down
  | stoppedUp up => cases starter.symm.trans up
  | called quiet =>
      rw [queue] at quiet
      cases quiet
  | took queued accepts taken present buffered =>
      obtain ⟨channel, found, empty, -⟩ := listening
      cases slot.symm.trans taken
      cases found.symm.trans present
      cases empty.symm.trans buffered
  | polled queued => cases queue.symm.trans queued
  | refused queued closed =>
      -- the loop is a sender, so the wait has not ended
      obtain ⟨channel, found, -, running, -⟩ := listening
      have none := closed generation channel (current_some.mpr ⟨slot, found⟩)
      simp [AcceptChannel.hasSender, running] at none
  | cleared queued => cases queue.symm.trans queued
  | installed queued => cases queue.symm.trans queued
  | changed present moved =>
      exact ⟨by simp, queue, starter, slot, same, listening_of_set listening present moved apart⟩
  | @sent place channel after event present moved =>
      have other : place ≠ generation := by
        rintro rfl
        cases moved with
        | subscribed peripheral => cases peripheral
        | connected waiting => exact apart.1 rfl
      obtain ⟨own, found, listens⟩ := listening
      refine ⟨by simp, by simpa using queue, by simpa using starter, by simpa using slot,
        by simpa using same, own, ?_, listens⟩
      unfold AcceptState.send
      split_ifs
      · exact (List.getElem?_set_ne other).trans found
      · exact (List.getElem?_set_ne other).trans found

theorem linux_wait_run {labels : List AcceptLabel} (held : LinuxWait generation answers state)
    (run : Run (acceptStep .wifiLinux)
      (fun _ label => label ≠ .sender generation .client ∧ label ≠ .sender generation .quits)
      state labels next) :
    .grant ∉ labels ∧ LinuxWait generation answers next := by
  induction run with
  | start => exact ⟨by simp, held⟩
  | extend prior apart taken ih =>
      obtain ⟨other, kept⟩ := linux_wait_step ih.2 apart (accept_step_moves taken)
      refine ⟨?_, kept⟩
      rw [List.mem_append, List.mem_singleton]
      rintro (earlier | last)
      · exact ih.1 earlier
      · exact other last.symm

/-- One client ends the wait: `accept` returns its connection, then `stop` returns. -/
theorem client_ends_wait {channel : AcceptChannel} (held : LinuxWait generation answers state)
    (present : state.channels[generation]? = some channel) (waiting : 0 < channel.workers) :
    ∃ final, execute (acceptStep .wifiLinux) state
        [.sender generation .client, .grant, .grant] = some final ∧
      final.starter = .down ∧ final.slot = none ∧
      final.answers = answers ++ [.ok state.delivered] := by
  obtain ⟨queue, starter, slot, same, own, found, empty, listens⟩ := held
  rw [present] at found
  cases found
  let taken : AcceptChannel := { channel with workers := channel.workers - 1 }
  let served : AcceptChannel := { taken with buffer := [state.delivered] }
  have place := (List.getElem?_eq_some_iff.mp present).1
  have step : acceptStep .wifiLinux state (.sender generation .client) =
      some (state.send generation taken) := by
    simp only [acceptStep, present, Option.bind_some, senderStep]
    rw [if_pos waiting]
  have sent : state.send generation taken =
      { state with
        channels := state.channels.set generation served
        delivered := state.delivered + 1 } := by
    unfold AcceptState.send
    rw [if_pos (by simp [AcceptState.hasReceiver, slot])]
    simp only [taken, served, empty, List.nil_append]
  have current : (state.send generation taken).current = some (generation, served) := by
    rw [sent]
    exact current_some.mpr ⟨slot, List.getElem?_set_self place⟩
  let answered : AcceptState :=
    ((state.send generation taken).put generation { served with buffer := [] }).answer
      (.ok state.delivered) [.clear]
  have returns : acceptStep .wifiLinux (state.send generation taken) .grant = some answered :=
    grant_buffered ((AcceptState.send_queue state generation taken).trans queue) current rfl
  refine ⟨{ answered.replace none with queue := [], starter := .down }, ?_, rfl,
    AcceptState.replace_slot answered none, ?_⟩
  · simp only [execute, step, Option.bind_some, returns]
    rfl
  · simp [answered, AcceptState.answer, AcceptState.put, same]

end Linux

/-- On Linux a `stop` of WiFi Direct that is called while `accept` waits does not return
before a client has connected: as long as no worker of the channel gets its client and the
loop of the channel is not ended from outside, no step of any task brings the wait to an
end. One client is enough, and its connection is still returned by `accept`. -/
theorem linux_stop_waits (labels : List AcceptLabel) (state : AcceptState)
    (run : Run (acceptStep .wifiLinux) anyStep .new labels state)
    (pending : state.starter = .clearing) (generation : Nat) (channel : AcceptChannel)
    (waits : state.queue.head? = some .recv) (slot : state.slot = some generation)
    (present : state.channels[generation]? = some channel) (empty : channel.buffer = [])
    (running : channel.running = true) :
    (∀ more final, Run (acceptStep .wifiLinux)
      (fun _ label => label ≠ .sender generation .client ∧ label ≠ .sender generation .quits)
      state more final →
      final.starter = .clearing ∧ final.answers = state.answers ∧ .grant ∉ more) ∧
    (0 < channel.workers → ∃ final, execute (acceptStep .wifiLinux) state
        [.sender generation .client, .grant, .grant] = some final ∧
      final.starter = .down ∧ final.slot = none ∧
      final.answers = state.answers ++ [.ok state.delivered]) := by
  have held := consistent_run run
  have queue : state.queue = [.recv, .clear] := by
    rcases pending_queue held.queued pending with ⟨rest, queue⟩ | ⟨request, accepts, queue⟩
    · rw [queue] at waits
      cases waits
    · rw [queue] at waits
      cases waits
      exact queue
  have untold : channel.signalled = false := told_of_pending held pending slot present
  have wait : LinuxWait generation state.answers state :=
    ⟨queue, pending, slot, rfl, channel, present, empty, running, untold⟩
  constructor
  · intro more final continued
    obtain ⟨ungranted, kept⟩ := linux_wait_run wait continued
    exact ⟨kept.starter, kept.answers, ungranted⟩
  · exact client_ends_wait wait present

theorem linux_stop_waits_for_client :
    Run (acceptStep .wifiLinux) anyStep .new
        [.startSucceeds, .grant, .accept, .grant, .sender 0 .group, .stop]
        (stopBehindAccept .wifiLinux 1) ∧
      (∀ more final, Run (acceptStep .wifiLinux)
        (fun _ label => label ≠ .sender 0 .client ∧ label ≠ .sender 0 .quits)
        (stopBehindAccept .wifiLinux 1) more final →
        final.starter = .clearing ∧ final.answers = [] ∧ .grant ∉ more) ∧
      ∃ final, execute (acceptStep .wifiLinux) (stopBehindAccept .wifiLinux 1)
          [.sender 0 .client, .grant, .grant] = some final ∧
        final.starter = .down ∧ final.slot = none ∧ final.answers = [.ok 0] := by
  have reached : Run (acceptStep .wifiLinux) anyStep .new
      [.startSucceeds, .grant, .accept, .grant, .sender 0 .group, .stop]
      (stopBehindAccept .wifiLinux 1) := run_of_execute rfl
  have waits := linux_stop_waits _ _ reached rfl 0 _ rfl rfl rfl rfl rfl
  exact ⟨reached, waits.1, waits.2 Nat.one_pos⟩

end Pathweave
