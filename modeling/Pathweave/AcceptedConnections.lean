import Mathlib.Data.List.Perm.Basic
import Pathweave.AcceptLocks

/-!
# Accepted connections across restarts

Every start of a transport makes a new channel, and a stop drops the receiver of the old
one with what lies in it. Tasks of an earlier channel may go on sending. Each connection
is followed from its sender to `accept` or to the place where it is dropped.
-/

namespace Pathweave

open GuardedRuns

set_option autoImplicit false

/-! ## Where the connections go -/

namespace AcceptState

variable (state : AcceptState)

def buffers : List (List Nat) := state.channels.map AcceptChannel.buffer

theorem answer_ok_returned (number : Nat) (rest : List LockRequest) :
    (state.answer (.ok number) rest).returned = state.returned ++ [number] := by
  simp [returned, answer, Except.toOption]

theorem answer_error_returned (error : Error) (rest : List LockRequest) :
    (state.answer (.error error) rest).returned = state.returned := by
  simp [returned, answer, Except.toOption]

theorem buffers_at {generation : Nat} {channel : AcceptChannel}
    (present : state.channels[generation]? = some channel) :
    state.buffers[generation]? = some channel.buffer := by
  simp [buffers, present]

theorem put_buffers_same {generation : Nat} {channel after : AcceptChannel}
    (present : state.channels[generation]? = some channel)
    (same : after.buffer = channel.buffer) :
    (state.put generation after).buffers = state.buffers := by
  obtain ⟨place, found⟩ := List.getElem?_eq_some_iff.mp (state.buffers_at present)
  rw [buffers, put, List.map_set, same, ← found]
  exact List.set_getElem_self place

theorem modify_buffers (generation : Nat) (signals : Bool) :
    (state.channels.modify generation fun channel =>
      { channel with signalled := signals }).map AcceptChannel.buffer = state.buffers := by
  apply List.ext_getElem?
  intro place
  rw [buffers, List.getElem?_map, List.getElem?_map, List.getElem?_modify]
  cases state.channels[place]? with
  | none => rfl
  | some channel =>
      simp only [Option.map_eq_map, Option.map_some]
      split_ifs <;> rfl

end AcceptState

/-- Every connection is in one place, and only a receiver that is in the slot, or on its
way there, has any. -/
structure Flow (state : AcceptState) : Prop where
  once : ∀ number, state.returned.count number + state.lost.count number +
    state.buffers.flatten.count number = if number < state.delivered then 1 else 0
  ordered : state.returned.Pairwise (· < ·)
  sorted : ∀ (generation : Nat) (buffer : List Nat), state.buffers[generation]? = some buffer →
    (state.returned ++ buffer).Pairwise (· < ·)
  received : ∀ (generation : Nat) (buffer : List Nat),
    state.buffers[generation]? = some buffer → buffer ≠ [] →
    state.slot = some generation ∨ state.starter = .installing generation

section Flow

variable {backend : AcceptBackend} {state next : AcceptState} {label : AcceptLabel}

theorem count_flatten_set {buffers : List (List Nat)} {generation : Nat} {buffer : List Nat}
    (present : buffers[generation]? = some buffer) (after : List Nat) (number : Nat) :
    (buffers.set generation after).flatten.count number + buffer.count number =
      buffers.flatten.count number + after.count number := by
  obtain ⟨place, found⟩ := List.getElem?_eq_some_iff.mp present
  have replaced := (List.set_perm_cons_eraseIdx place after).flatten.count_eq number
  have before := (List.getElem_cons_eraseIdx_perm place).flatten.count_eq number
  rw [found] at before
  simp only [List.flatten_cons, List.count_append] at replaced before
  omega

theorem install_listed (held : Queued state) (generation : Nat) :
    .install generation ∈ state.queue ↔ state.starter = .installing generation := by
  have filtered : .install generation ∈ state.queue ↔
      .install generation ∈ state.starter.requests := by
    rw [← held.others, List.mem_filter]
    simp
  rw [filtered]
  cases state.starter <;> simp [StarterPhase.requests, eq_comm]

theorem has_receiver_iff (held : Queued state) (generation : Nat) :
    state.hasReceiver generation = true ↔
      state.slot = some generation ∨ state.starter = .installing generation := by
  simp [AcceptState.hasReceiver, install_listed held]

theorem sole_receiver (held : Placed backend state) {generation place : Nat}
    (slot : state.slot = some generation)
    (received : state.slot = some place ∨ state.starter = .installing place) :
    place = generation := by
  rcases received with again | installing
  · cases again.symm.trans slot
    rfl
  · unfold Placed at held
    rw [installing] at held
    cases held.1.symm.trans slot

theorem below_delivered (held : Flow state) {number generation : Nat} {buffer : List Nat}
    (present : state.buffers[generation]? = some buffer)
    (listed : number ∈ state.returned ++ buffer) : number < state.delivered := by
  by_contra beyond
  have once := held.once number
  rw [if_neg beyond] at once
  rcases List.mem_append.mp listed with returned | waiting
  · have positive := List.count_pos_iff.mpr returned
    omega
  · have positive : 0 < state.buffers.flatten.count number :=
      List.count_pos_iff.mpr (List.mem_flatten.mpr
        ⟨buffer, List.mem_of_getElem? present, waiting⟩)
    omega

theorem flow_congr (held : Flow state) (returned : next.returned = state.returned)
    (lost : next.lost = state.lost) (delivered : next.delivered = state.delivered)
    (buffers : next.buffers = state.buffers)
    (received : ∀ generation,
      state.slot = some generation ∨ state.starter = .installing generation →
        next.slot = some generation ∨ next.starter = .installing generation) : Flow next := by
  obtain ⟨once, ordered, sorted, before⟩ := held
  rw [← returned, ← lost, ← delivered, ← buffers] at once
  rw [← returned] at ordered
  rw [← returned, ← buffers] at sorted
  rw [← buffers] at before
  exact ⟨once, ordered, sorted, fun generation buffer present waiting =>
    received generation (before generation buffer present waiting)⟩

theorem flow_of_set (held : Flow state) {generation : Nat} {channel after : AcceptChannel}
    (present : state.channels[generation]? = some channel)
    (channels : next.channels = state.channels.set generation after)
    (balance : ∀ number, next.returned.count number + next.lost.count number +
        after.buffer.count number + (if number < state.delivered then 1 else 0) =
      state.returned.count number + state.lost.count number + channel.buffer.count number +
        if number < next.delivered then 1 else 0)
    (sorted : (next.returned ++ after.buffer).Pairwise (· < ·))
    (here : after.buffer ≠ [] → next.slot = some generation ∨ next.starter = .installing generation)
    (others : ∀ place, generation ≠ place →
      state.slot = some place ∨ state.starter = .installing place →
        next.returned = state.returned ∧
          (next.slot = some place ∨ next.starter = .installing place)) : Flow next := by
  have own := state.buffers_at present
  have buffers : next.buffers = state.buffers.set generation after.buffer := by
    rw [AcceptState.buffers, channels, List.map_set]
    rfl
  have ordered : next.returned.Pairwise (· < ·) := (List.pairwise_append.mp sorted).1
  refine ⟨?_, ordered, ?_, ?_⟩
  · intro number
    have once := held.once number
    have moved := count_flatten_set own after.buffer number
    have balanced := balance number
    rw [buffers]
    omega
  · intro place found present
    rw [buffers] at present
    by_cases same : generation = place
    · subst same
      rw [List.getElem?_set_self (List.getElem?_eq_some_iff.mp own).1] at present
      cases present
      exact sorted
    · rw [List.getElem?_set_ne same] at present
      by_cases empty : found = []
      · rw [empty, List.append_nil]
        exact ordered
      · rw [(others place same (held.received place found present empty)).1]
        exact held.sorted place found present
  · intro place found present waiting
    rw [buffers] at present
    by_cases same : generation = place
    · subst same
      rw [List.getElem?_set_self (List.getElem?_eq_some_iff.mp own).1] at present
      cases present
      exact here waiting
    · rw [List.getElem?_set_ne same] at present
      exact (others place same (held.received place found present waiting)).2

theorem flow_took (held : Flow state) (placed : Placed backend state) {generation number : Nat}
    {channel : AcceptChannel} {later : List Nat} (rest : List LockRequest)
    (slot : state.slot = some generation)
    (present : state.channels[generation]? = some channel)
    (buffered : channel.buffer = number :: later) :
    Flow ((state.put generation { channel with buffer := later }).answer (.ok number) rest) := by
  have own : state.buffers[generation]? = some (number :: later) := by
    rw [state.buffers_at present, buffered]
  have returned := (state.put generation { channel with buffer := later }).answer_ok_returned
    number rest
  have before : (state.put generation { channel with buffer := later }).returned =
      state.returned := rfl
  rw [before] at returned
  refine flow_of_set held present rfl ?_ ?_ ?_ ?_
  · intro other
    rw [returned, buffered]
    show (state.returned ++ [number]).count other + state.lost.count other + later.count other +
        (if other < state.delivered then 1 else 0) =
      state.returned.count other + state.lost.count other + (number :: later).count other +
        if other < state.delivered then 1 else 0
    simp only [List.count_append, List.count_cons, List.count_nil]
    omega
  · rw [returned]
    simpa using held.sorted generation _ own
  · exact fun _ => .inl slot
  · -- no other channel has a receiver
    intro place other received
    exact absurd (sole_receiver placed slot received).symm other

theorem flow_cleared (held : Flow state) (placed : Placed backend state)
    (pending : state.starter = .clearing) (rest : List LockRequest) :
    Flow { state.replace none with queue := rest, starter := .down } := by
  have none_waits : ∀ place, state.starter ≠ .installing place := by
    intro place installing
    cases pending.symm.trans installing
  unfold AcceptState.replace
  split
  · rename_i generation channel found
    obtain ⟨slot, present⟩ := current_some.mp found
    refine flow_of_set held present rfl ?_ ?_ ?_ ?_
    · intro number
      simp only [AcceptState.returned, List.count_append, List.count_nil]
      omega
    · rw [List.append_nil]
      exact held.ordered
    · intro impossible
      exact absurd rfl impossible
    · intro place other received
      exact absurd (sole_receiver placed slot received).symm other
  · rename_i missing
    have unplaced : ∀ (place : Nat) (buffer : List Nat), state.buffers[place]? = some buffer →
        buffer = [] := by
      intro place buffer present
      by_contra waiting
      rcases held.received place buffer present waiting with slot | installing
      · obtain ⟨channel, found, -⟩ : ∃ channel, state.channels[place]? = some channel ∧
            channel.buffer = buffer := by
          simpa [AcceptState.buffers] using present
        cases missing.symm.trans (current_some.mpr ⟨slot, found⟩)
      · exact none_waits place installing
    exact ⟨held.once, held.ordered, held.sorted, fun place buffer present waiting =>
      absurd (unplaced place buffer present) waiting⟩

theorem count_delivered (delivered number : Nat) :
    (if number < delivered then 1 else 0) + [delivered].count number =
      if number < delivered + 1 then 1 else 0 := by
  rw [List.count_singleton]
  simp only [beq_iff_eq]
  split_ifs <;> omega

theorem flow_sent (queued : Queued state) (held : Flow state) {generation : Nat}
    {channel after : AcceptChannel} (present : state.channels[generation]? = some channel)
    (same : after.buffer = channel.buffer) : Flow (state.send generation after) := by
  have own := state.buffers_at present
  have larger : ∀ number ∈ state.returned ++ channel.buffer, number < state.delivered :=
    fun number listed => below_delivered held own listed
  unfold AcceptState.send
  split_ifs with received
  · have receives := (has_receiver_iff queued generation).mp received
    refine flow_of_set held present rfl ?_ ?_ ?_ ?_
    · intro number
      have counted := count_delivered state.delivered number
      simp only [AcceptState.returned, same, List.count_append]
      omega
    · show (state.returned ++ (after.buffer ++ [state.delivered])).Pairwise (· < ·)
      rw [same, ← List.append_assoc, List.pairwise_append]
      exact ⟨held.sorted generation _ own, List.pairwise_singleton .., fun number listed new
        here => by rw [List.mem_singleton.mp here]; exact larger number listed⟩
    · exact fun _ => receives
    · exact fun place other receives => ⟨rfl, receives⟩
  · refine flow_of_set held present rfl ?_ ?_ ?_ ?_
    · intro number
      have counted := count_delivered state.delivered number
      simp only [AcceptState.returned, same, List.count_append]
      omega
    · rw [same]
      exact held.sorted generation _ own
    · intro waiting
      rw [same] at waiting
      exact held.received generation _ own waiting
    · exact fun place other receives => ⟨rfl, receives⟩

theorem flow_started (held : Flow state) (down : state.starter = .down) :
    Flow { state with
      channels := state.channels ++ [.fresh]
      queue := state.queue ++ [.install state.channels.length]
      starter := .installing state.channels.length } := by
  have placed : ∀ {place : Nat} {buffer : List Nat},
      ((state.channels ++ [AcceptChannel.fresh]).map AcceptChannel.buffer)[place]? = some buffer →
        state.buffers[place]? = some buffer ∨ buffer = [] := by
    intro place buffer present
    rw [List.map_append, List.getElem?_append] at present
    split_ifs at present
    · exact .inl present
    · right
      exact List.mem_singleton.mp (List.mem_of_getElem? present)
  refine ⟨?_, held.ordered, ?_, ?_⟩
  · intro number
    have once := held.once number
    simpa [AcceptState.buffers, AcceptState.returned, AcceptChannel.fresh] using once
  · intro place buffer present
    rcases placed present with before | empty
    · exact held.sorted place buffer before
    · rw [empty, List.append_nil]
      exact held.ordered
  · intro place buffer present waiting
    rcases placed present with before | empty
    · rcases held.received place buffer before waiting with slot | installing
      · exact .inl slot
      · cases down.symm.trans installing
    · exact absurd empty waiting

theorem flow_step (consistent : Consistent backend state) (held : Flow state)
    (moved : AcceptMove backend state label next) : Flow next := by
  cases moved with
  | startFailed => exact held
  | started down => exact flow_started held down
  | stoppedDown down =>
      refine flow_congr held rfl rfl rfl rfl fun generation received => ?_
      rw [down] at received
      exact .inl (received.resolve_right (by simp))
  | stoppedUp up =>
      refine flow_congr held rfl rfl rfl (state.modify_buffers _ _) fun generation received => ?_
      rw [up] at received
      exact .inl (received.resolve_right (by simp))
  | called quiet => exact flow_congr held rfl rfl rfl rfl fun _ received => received
  | took queued accepts slot present buffered =>
      exact flow_took held consistent.placed _ slot present buffered
  | polled queued => exact flow_congr held rfl rfl rfl rfl fun _ received => received
  | refused queued closed =>
      exact flow_congr held (AcceptState.answer_error_returned ..) rfl rfl rfl
        fun _ received => received
  | cleared queued =>
      exact flow_cleared held consistent.placed (phase_of_clear consistent.queued queued) _
  | @installed generation rest queued =>
      have phase := phase_of_install consistent.queued queued
      obtain ⟨empty, replaced⟩ := replace_installing consistent phase
      rw [replaced]
      refine flow_congr held rfl rfl rfl rfl fun place received => ?_
      rw [empty, phase] at received
      rcases received with impossible | same
      · cases impossible
      · cases same
        exact .inl rfl
  | changed present moved =>
      exact flow_congr held rfl rfl rfl (state.put_buffers_same present (sender_buffer moved))
        fun _ received => received
  | sent present moved => exact flow_sent consistent.queued held present (sender_buffer moved)

structure NeverStopped (state : AcceptState) : Prop where
  lost : state.lost = []
  running : state.starter ≠ .clearing
  received : ∀ generation, generation < state.channels.length →
    state.slot = some generation ∨ state.starter = .installing generation

theorem never_stopped_congr (held : NeverStopped state) (lost : next.lost = state.lost)
    (starter : next.starter = state.starter) (slot : next.slot = state.slot)
    (channels : next.channels.length = state.channels.length) : NeverStopped next := by
  obtain ⟨none, running, received⟩ := held
  rw [← lost] at none
  rw [← starter] at running
  rw [← channels, ← slot, ← starter] at received
  exact ⟨none, running, received⟩

theorem never_stopped_step (consistent : Consistent backend state) (held : NeverStopped state)
    (going : label ≠ .stop) (moved : AcceptMove backend state label next) :
    NeverStopped next := by
  cases moved with
  | startFailed => exact held
  | started down =>
      have placed := consistent.placed
      unfold Placed at placed
      rw [down] at placed
      refine ⟨held.lost, by simp, fun generation present => .inr ?_⟩
      -- an earlier channel would have a receiver, but the slot is empty
      have first : state.channels.length = 0 := by
        by_contra earlier
        rcases held.received 0 (by omega) with slot | installing
        · cases placed.symm.trans slot
        · cases down.symm.trans installing
      have zero : generation = state.channels.length := by
        rw [List.length_append, first] at present
        rw [first]
        exact Nat.lt_one_iff.mp present
      rw [zero]
  | stoppedDown down => exact absurd rfl going
  | stoppedUp up => exact absurd rfl going
  | called quiet => exact never_stopped_congr held rfl rfl rfl rfl
  | took queued accepts slot present buffered =>
      exact never_stopped_congr held rfl rfl rfl List.length_set
  | polled queued => exact never_stopped_congr held rfl rfl rfl rfl
  | refused queued closed => exact never_stopped_congr held rfl rfl rfl rfl
  | cleared queued => exact absurd (phase_of_clear consistent.queued queued) held.running
  | @installed generation rest queued =>
      have phase := phase_of_install consistent.queued queued
      obtain ⟨empty, replaced⟩ := replace_installing consistent phase
      rw [replaced]
      refine ⟨held.lost, by simp, fun place present => ?_⟩
      rcases held.received place present with impossible | same
      · cases empty.symm.trans impossible
      · cases phase.symm.trans same
        exact .inl rfl
  | changed present moved => exact never_stopped_congr held rfl rfl rfl List.length_set
  | @sent generation channel after event present moved =>
      have received := (has_receiver_iff consistent.queued generation).mpr
        (held.received generation (List.getElem?_eq_some_iff.mp present).1)
      unfold AcceptState.send
      rw [if_pos received]
      exact never_stopped_congr held rfl rfl rfl List.length_set

theorem flow_run {labels : List AcceptLabel}
    (run : Run (acceptStep backend) anyStep .new labels state) :
    Consistent backend state ∧ Flow state ∧ (.stop ∉ labels → NeverStopped state) := by
  induction run with
  | start =>
      refine ⟨consistent_run .start, ⟨fun number => ?_, List.Pairwise.nil, ?_, ?_⟩, fun _ => ?_⟩
      · simp [AcceptState.new, AcceptState.returned, AcceptState.buffers]
      · intro generation buffer present
        simp [AcceptState.new, AcceptState.buffers] at present
      · intro generation buffer present
        simp [AcceptState.new, AcceptState.buffers] at present
      · exact ⟨rfl, by simp [AcceptState.new], fun generation present => by
          simp [AcceptState.new] at present⟩
  | extend prior allowed taken ih =>
      obtain ⟨consistent, flow, never⟩ := ih
      have moved := accept_step_moves taken
      refine ⟨consistent_run (.extend prior allowed taken), flow_step consistent flow moved, ?_⟩
      intro going
      rw [List.mem_append, List.mem_singleton, not_or] at going
      exact never_stopped_step consistent (never going.1) (Ne.symm going.2) moved

end Flow

/-- `accept` returns the connections in the order in which they were sent, over every
restart of the transport. Each one is returned once, or is still to be returned, or was
dropped, and none is dropped in a run without a `stop`. -/
theorem accepted_in_order (backend : AcceptBackend) (labels : List AcceptLabel)
    (state : AcceptState) (run : Run (acceptStep backend) anyStep .new labels state) :
    state.returned.Pairwise (· < ·) ∧
    (∀ number, state.returned.count number + state.lost.count number +
      state.buffers.flatten.count number = if number < state.delivered then 1 else 0) ∧
    (.stop ∉ labels → state.lost = []) := by
  obtain ⟨-, flow, never⟩ := flow_run run
  exact ⟨flow.ordered, flow.once, fun going => (never going).lost⟩

/-- Two connections on a first channel, of which a `stop` drops the second, and one on the
channel of the next `start`. -/
def restartedOnce : List AcceptLabel :=
  [.startSucceeds, .grant, .sender 0 .subscriber, .accept, .grant, .sender 0 .subscriber, .stop,
    .grant, .startSucceeds, .accept, .grant, .sender 1 .subscriber, .grant]

theorem accepted_in_order_restarted :
    ∃ state, Run (acceptStep .ble) anyStep .new restartedOnce state ∧
      state.returned = [0, 2] ∧ state.lost = [1] ∧ state.returned.Pairwise (· < ·) := by
  obtain ⟨state, reached, returned, lost⟩ : ∃ state,
      execute (acceptStep .ble) .new restartedOnce = some state ∧ state.returned = [0, 2] ∧
        state.lost = [1] := ⟨_, rfl, rfl, rfl⟩
  have run := run_of_execute reached
  exact ⟨state, run, returned, lost, (accepted_in_order .ble _ state run).1⟩

end Pathweave
