import Pathweave.BroadcastRouting

/-!
# Connections that share a slot

Incoming and outgoing connections with one peer share one slot of the map, and whoever
opens a connection overwrites it. A connection that is still held then hears nothing
more of its peer, and its next read reports it closed. While slots are written only
when no connection with the peer is attached and held, a connection keeps its slot
until it is dropped or the transport is stopped.
-/

namespace Pathweave

open ByteStrings GuardedRuns

set_option autoImplicit false

variable {hashPayload : Bytes → UInt64} {state next : BroadcastState} {label : BroadcastLabel}
  {index : Nat} {source : ShortId}

theorem mem_live :
    index ∈ state.live source ↔
      ∃ channel, state.channels[index]? = some channel ∧ channel.peer = source ∧
        channel.attached = true ∧ channel.status ≠ .dropped := by
  simp only [BroadcastState.live, List.mem_filter, List.mem_range, Option.any_eq_true,
    VirtualChannel.isLive, decide_eq_true_eq]
  constructor
  · intro given
    exact given.2
  · intro given
    obtain ⟨channel, present, rest⟩ := given
    exact ⟨(List.getElem?_eq_some_iff.mp present).1, channel, present, rest⟩

/-! ## The queue of `accept` -/

theorem enqueue_status (channel : VirtualChannel) (payload : Bytes) :
    (channel.enqueue payload).status = channel.status := by
  unfold VirtualChannel.enqueue
  split_ifs <;> rfl

structure QueueWaiting (state : BroadcastState) : Prop where
  waiting : ∀ index ∈ state.incoming, ∃ channel, state.channels[index]? = some channel ∧
    channel.status = .queued
  distinct : state.incoming.Nodup

theorem waiting_kept (moved : BroadcastMove hashPayload state label next)
    (notHead : ∀ rest, label = .accept → state.incoming ≠ index :: rest)
    (waiting : ∃ channel, state.channels[index]? = some channel ∧ channel.status = .queued) :
    ∃ channel, next.channels[index]? = some channel ∧ channel.status = .queued := by
  obtain ⟨channel, present, queued⟩ := waiting
  obtain ⟨after, found, change⟩ := channel_changes moved present
  apply Exists.intro after
  apply And.intro found
  cases change with
  | accepted queue isAccept => exact absurd queue (notHead _ isAccept)
  | dropped isDrop held =>
      rw [queued] at held
      cases held
  | enqueued payload => exact (enqueue_status channel payload).trans queued
  | _ => exact queued

theorem queue_waiting_step (queueWaiting : QueueWaiting state)
    (moved : BroadcastMove hashPayload state label next) : QueueWaiting next := by
  have kept : label ≠ .accept → ∀ index ∈ state.incoming,
      ∃ channel, next.channels[index]? = some channel ∧ channel.status = .queued := by
    intro other index listed
    apply waiting_kept moved _ (queueWaiting.waiting index listed)
    intro rest isAccept
    exact absurd isAccept other
  cases moved with
  | @accepted channel rest queue =>
      have distinct := queueWaiting.distinct
      rw [queue, List.nodup_cons] at distinct
      have taken : BroadcastMove hashPayload state .accept _ := .accepted queue
      constructor
      · intro index listed
        apply waiting_kept taken
        · intro others _ same
          rw [queue] at same
          cases same
          exact distinct.1 listed
        · exact queueWaiting.waiting index (by rw [queue]; exact List.mem_cons_of_mem _ listed)
      · exact distinct.2
  | @opened place dispatcher source payload live present phase =>
      constructor
      · intro index listed
        cases List.mem_append.mp listed with
        | inl old => exact kept (by simp) index old
        | inr new =>
            rw [List.mem_singleton.mp new]
            apply Exists.intro (incomingChannel source payload)
            constructor
            · simp [BroadcastState.openIncoming, BroadcastState.setDispatcher,
                BroadcastState.attach]
            · rfl
      · apply queueWaiting.distinct.append (List.nodup_singleton _)
        intro index old new
        rw [List.mem_singleton.mp new] at old
        obtain ⟨channel, found, _⟩ := queueWaiting.waiting _ old
        simp at found
  | _ => exact ⟨kept (by simp), queueWaiting.distinct⟩

theorem not_dropped_before (queueWaiting : QueueWaiting state)
    (moved : BroadcastMove hashPayload state label next) {channel after : VirtualChannel}
    (present : state.channels[index]? = some channel) (found : next.channels[index]? = some after)
    (alive : after.status ≠ .dropped) : channel.status ≠ .dropped := by
  obtain ⟨same, located, change⟩ := channel_changes moved present
  rw [found] at located
  cases located
  cases change with
  | accepted queue isAccept =>
      obtain ⟨waiting, located, queued⟩ :=
        queueWaiting.waiting index (by rw [queue]; exact List.mem_cons_self ..)
      rw [present] at located
      cases located
      rw [queued]
      simp
  | dropped isDrop held => exact absurd rfl alive
  | enqueued payload => exact enqueue_status channel payload ▸ alive
  | _ => exact alive

/-! ## Slots -/

def DispatcherPhase.opens : DispatcherPhase → Option ShortId
  | .opening source _ _ => some source
  | _ => none

def slotWritten (state : BroadcastState) : BroadcastLabel → Option ShortId
  | .register index => state.calls[index]?
  | .deliver index => (state.dispatchers[index]?).bind fun dispatcher => dispatcher.phase.opens
  | _ => none

def writesFreeSlot (state : BroadcastState) (label : BroadcastLabel) : Prop :=
  ∀ source ∈ slotWritten state label, state.live source = []

instance (state : BroadcastState) (label : BroadcastLabel) :
    Decidable (writesFreeSlot state label) :=
  inferInstanceAs (Decidable (∀ source ∈ slotWritten state label, _))

/-- A lookup made now finds the only connection there is. -/
def DispatcherPhase.Sound : DispatcherPhase → Prop
  | .scanning => True
  | .sending _ _ channel live => ∀ index ∈ live, channel = index
  | .opening _ _ live => live = []

structure SlotsKept (state : BroadcastState) : Prop where
  queue : QueueWaiting state
  slots : ∀ source, ∀ index ∈ state.live source, state.connections.lookup source = some index
  phases : ∀ dispatcher ∈ state.dispatchers, dispatcher.phase.Sound
  routed : ∀ packet ∈ state.routed, ∀ index ∈ packet.live, packet.channel = index
  placed : ∀ packet ∈ state.routed, ∃ channel, state.channels[packet.channel]? = some channel ∧
    (channel.status ≠ .dropped → channel.inbox[packet.place]? = some packet.payload)

theorem live_before (queueWaiting : QueueWaiting state)
    (moved : BroadcastMove hashPayload state label next) (inside : index < state.channels.length)
    (live : index ∈ next.live source) : index ∈ state.live source := by
  obtain ⟨after, found, peer, attached, alive⟩ := mem_live.mp live
  have present : state.channels[index]? = some (state.channels[index]) :=
    List.getElem?_eq_getElem inside
  obtain ⟨same, located, evolved⟩ := channel_step moved present
  rw [found] at located
  cases located
  exact mem_live.mpr ⟨_, present, evolved.peer.symm.trans peer, evolved.attached attached,
    not_dropped_before queueWaiting moved present found alive⟩

theorem live_lt (live : index ∈ state.live source) : index < state.channels.length := by
  obtain ⟨channel, present, _⟩ := mem_live.mp live
  exact (List.getElem?_eq_some_iff.mp present).1

theorem slots_attached (kept : SlotsKept state)
    (moved : BroadcastMove hashPayload state label next) {added : VirtualChannel}
    (free : state.live added.peer = []) (appended : next.channels = state.channels ++ [added])
    (inserted : next.connections = state.connections.insert added.peer state.channels.length) :
    ∀ source, ∀ index ∈ next.live source, next.connections.lookup source = some index := by
  intro source index live
  rw [inserted]
  have bound := live_lt live
  rw [appended, List.length_append, List.length_singleton] at bound
  rcases Nat.lt_or_ge index state.channels.length with old | new
  · have before := live_before kept.queue moved old live
    have other : source ≠ added.peer := by
      intro same
      rw [same, free] at before
      cases before
    rw [AList.lookup_insert_ne other]
    exact kept.slots source index before
  · have last : index = state.channels.length := by omega
    subst last
    obtain ⟨channel, found, peer, _⟩ := mem_live.mp live
    rw [appended, List.getElem?_concat_length] at found
    cases found
    rw [← peer, AList.lookup_insert]

theorem slots_kept_slots (kept : SlotsKept state) (allowed : writesFreeSlot state label)
    (moved : BroadcastMove hashPayload state label next) :
    ∀ source, ∀ index ∈ next.live source, next.connections.lookup source = some index := by
  have unchanged : next.channels.length = state.channels.length →
      next.connections = state.connections →
      ∀ source, ∀ index ∈ next.live source, next.connections.lookup source = some index := by
    intro length same source index live
    rw [same]
    apply kept.slots source index
    exact live_before kept.queue moved (length ▸ live_lt live) live
  cases moved with
  | stopped =>
      intro source index live
      obtain ⟨channel, found, _, attached, _⟩ := mem_live.mp live
      simp only [BroadcastState.stop, List.getElem?_map, Option.map_eq_some_iff] at found
      obtain ⟨before, _, same⟩ := found
      rw [← same] at attached
      cases attached
  | @registered index peer present =>
      have taken : BroadcastMove hashPayload state (.register index) _ := .registered present
      have free : state.live (outgoingChannel peer).peer = [] := allowed peer present
      exact slots_attached kept taken free rfl rfl
  | @opened index dispatcher source payload live present phase =>
      have taken : BroadcastMove hashPayload state (.deliver index) _ := .opened present phase
      have free : state.live (incomingChannel source payload).peer = [] := by
        apply allowed source
        simp [slotWritten, present, phase, DispatcherPhase.opens]
      exact slots_attached kept taken free rfl rfl
  | accepted queue => exact unchanged (List.length_modify ..) rfl
  | received present unread => exact unchanged (List.length_modify ..) rfl
  | dropped present held => exact unchanged (List.length_modify ..) rfl
  | sent present phase found => exact unchanged (List.length_modify ..) rfl
  | _ => exact unchanged rfl rfl

theorem lookup_sound (kept : SlotsKept state) (source : ShortId) (payload : Bytes) :
    (state.lookupSource source payload).Sound := by
  unfold BroadcastState.lookupSource
  split
  · rename_i channel slot
    intro index live
    have found := kept.slots source index live
    rw [slot] at found
    exact Option.some.inj found
  · rename_i none
    apply List.eq_nil_iff_forall_not_mem.mpr
    intro index live
    have found := kept.slots source index live
    rw [none] at found
    cases found

theorem phases_step (kept : SlotsKept state)
    (moved : BroadcastMove hashPayload state label next) :
    ∀ dispatcher ∈ next.dispatchers, dispatcher.phase.Sound := by
  have replaced : ∀ place (new : BroadcastDispatcher), new.phase.Sound →
      ∀ dispatcher ∈ state.dispatchers.set place new, dispatcher.phase.Sound := by
    intro place new sound dispatcher listed
    cases List.mem_or_eq_of_mem_set listed with
    | inl old => exact kept.phases dispatcher old
    | inr same => exact same ▸ sound
  cases moved with
  | started =>
      intro dispatcher listed
      cases List.mem_append.mp listed with
      | inl old => exact kept.phases dispatcher old
      | inr new =>
          rw [List.mem_singleton.mp new]
          trivial
  | stopped =>
      intro dispatcher listed
      obtain ⟨before, old, same⟩ := abort_phase listed
      exact same ▸ kept.phases before old
  | ignored present scanning =>
      have sound := kept.phases _ (List.mem_of_getElem? present)
      exact replaced _ _ sound
  | passed present scanning => exact replaced _ _ (lookup_sound kept _ _)
  | sent present phase found => exact replaced _ _ trivial
  | opened present phase => exact replaced _ _ trivial
  | _ => exact kept.phases

theorem routed_appended (kept : SlotsKept state) {packet new : RoutedPacket}
    (own : ∀ index ∈ new.live, new.channel = index) (listed : packet ∈ state.routed ++ [new]) :
    ∀ index ∈ packet.live, packet.channel = index := by
  rcases List.mem_append.mp listed with old | last
  · exact kept.routed packet old
  · rw [List.mem_singleton.mp last]
    exact own

theorem routed_step (kept : SlotsKept state)
    (moved : BroadcastMove hashPayload state label next) :
    ∀ packet ∈ next.routed, ∀ index ∈ packet.live, packet.channel = index := by
  intro packet listed
  cases moved with
  | sent present phase found =>
      have sound := kept.phases _ (List.mem_of_getElem? present)
      rw [phase] at sound
      refine routed_appended kept ?_ listed
      exact sound
  | opened present phase =>
      have sound := kept.phases _ (List.mem_of_getElem? present)
      rw [phase] at sound
      refine routed_appended kept ?_ listed
      intro index live
      rw [show _ = [] from sound] at live
      cases live
  | _ => exact kept.routed packet listed

theorem placed_kept (queueWaiting : QueueWaiting state)
    (moved : BroadcastMove hashPayload state label next) {packet : RoutedPacket}
    (placed : ∃ channel, state.channels[packet.channel]? = some channel ∧
      (channel.status ≠ .dropped → channel.inbox[packet.place]? = some packet.payload)) :
    ∃ channel, next.channels[packet.channel]? = some channel ∧
      (channel.status ≠ .dropped → channel.inbox[packet.place]? = some packet.payload) := by
  obtain ⟨channel, present, inPlace⟩ := placed
  obtain ⟨after, found, evolved⟩ := channel_step moved present
  apply Exists.intro after
  apply And.intro found
  intro alive
  have before := inPlace (not_dropped_before queueWaiting moved present found alive)
  obtain ⟨rest, same⟩ := evolved.inbox
  have inside : packet.place < channel.inbox.length := (List.getElem?_eq_some_iff.mp before).1
  rw [← same, List.getElem?_append_left inside]
  exact before

theorem placed_step (kept : SlotsKept state)
    (moved : BroadcastMove hashPayload state label next) :
    ∀ packet ∈ next.routed, ∃ channel, next.channels[packet.channel]? = some channel ∧
      (channel.status ≠ .dropped → channel.inbox[packet.place]? = some packet.payload) := by
  intro packet listed
  have older : packet ∈ state.routed → ∃ channel, next.channels[packet.channel]? = some channel ∧
      (channel.status ≠ .dropped → channel.inbox[packet.place]? = some packet.payload) :=
    fun old => placed_kept kept.queue moved (kept.placed packet old)
  cases moved with
  | @sent place target dispatcher source payload live channel present phase found =>
      cases List.mem_append.mp listed with
      | inl old => exact older old
      | inr new =>
          rw [List.mem_singleton.mp new]
          apply Exists.intro (channel.enqueue payload)
          constructor
          · simp [BroadcastState.send, BroadcastState.setDispatcher, BroadcastState.updateChannel,
              found]
          · intro alive
            rw [enqueue_status] at alive
            rw [enqueue_open alive]
            simp
  | @opened place dispatcher source payload live present phase =>
      cases List.mem_append.mp listed with
      | inl old => exact older old
      | inr new =>
          rw [List.mem_singleton.mp new]
          apply Exists.intro (incomingChannel source payload)
          constructor
          · simp [BroadcastState.openIncoming, BroadcastState.setDispatcher, BroadcastState.attach]
          · exact fun _ => rfl
  | _ => exact older listed

theorem slots_kept_step (kept : SlotsKept state) (allowed : writesFreeSlot state label)
    (moved : BroadcastMove hashPayload state label next) : SlotsKept next where
  queue := queue_waiting_step kept.queue moved
  slots := slots_kept_slots kept allowed moved
  phases := phases_step kept moved
  routed := routed_step kept moved
  placed := placed_step kept moved

/-- An attached connection keeps its slot while it is held, and every packet of its peer
that was looked up meanwhile is in its inbox. -/
def ConnectionsIsolated (state : BroadcastState) : Prop :=
  (∀ index channel, state.channels[index]? = some channel → channel.attached = true →
    channel.status ≠ .dropped → state.connections.lookup channel.peer = some index) ∧
  ∀ packet ∈ state.routed, ∀ index ∈ packet.live, packet.channel = index ∧
    ∀ channel, state.channels[index]? = some channel → channel.status ≠ .dropped →
      channel.inbox[packet.place]? = some packet.payload

theorem broadcast_connections_isolated {labels : List BroadcastLabel}
    (run : Run (broadcastStep hashPayload) writesFreeSlot .new labels state) :
    ConnectionsIsolated state := by
  have kept : SlotsKept state := by
    apply run_invariant SlotsKept _ run
    · constructor
      · constructor
        · intro index listed
          cases listed
        · exact List.nodup_nil
      · intro source index live
        exact absurd (live_lt live) (Nat.not_lt_zero _)
      · intro dispatcher listed
        cases listed
      · intro packet listed
        cases listed
      · intro packet listed
        cases listed
    · intro before label after held allowed taken
      exact slots_kept_step held allowed (broadcast_step_moves taken)
  constructor
  · intro index channel present attached alive
    exact kept.slots channel.peer index (mem_live.mpr ⟨channel, present, rfl, attached, alive⟩)
  · intro packet listed index live
    have same := kept.routed packet listed index live
    apply And.intro same
    intro channel present alive
    obtain ⟨found, located, placed⟩ := kept.placed packet listed
    rw [same, present] at located
    cases located
    exact placed alive

/-! ## A call to a peer that has called -/

/-- Peer 2 has called; its connection is dropped before peer 1 calls back. -/
theorem broadcast_connections_isolated_in_turn :
    ∃ state, Run (broadcastStep lengthHash) writesFreeSlot .new
        (firstSession ++ [.drop 0, .connect (sampleShortId 2), .register 0] ++ route 0 [2, 3] 5)
        state ∧
      state.routed.map RoutedPacket.channel = [0, 1] ∧ ConnectionsIsolated state := by
  have finished : ((execute (fun state label =>
      if writesFreeSlot state label then broadcastStep lengthHash state label else none) .new
        (firstSession ++ [.drop 0, .connect (sampleShortId 2), .register 0] ++
          route 0 [2, 3] 5)).map fun state => state.routed.map RoutedPacket.channel) =
      some [0, 1] := by
    decide +kernel
  obtain ⟨state, reached, found⟩ := Option.map_eq_some_iff.mp finished
  have run := run_of_execute_guarded reached
  exact ⟨state, run, found, broadcast_connections_isolated run⟩

def AlwaysIsolated : Prop :=
  ∀ (hashPayload : Bytes → UInt64) (labels : List BroadcastLabel) (state : BroadcastState),
    Run (broadcastStep hashPayload) anyStep .new labels state → ConnectionsIsolated state

/-- Peer 1 holds the connection peer 2 has opened and calls peer 2: the next packet of
the first session goes to the new connection. -/
theorem call_takes_packets : ¬AlwaysIsolated := by
  intro always
  have finished : ((execute (broadcastStep lengthHash) .new
      (firstSession ++ [.connect (sampleShortId 2), .register 0] ++ route 0 [2, 3] 5)).map
        fun state => state.routed.map fun packet => (packet.channel, packet.live)) =
      some [(0, []), (1, [0, 1])] := by
    decide +kernel
  obtain ⟨state, reached, found⟩ := Option.map_eq_some_iff.mp finished
  have isolated := (always _ _ state (run_of_execute reached)).2
  have listed : ((1, [0, 1]) : Nat × List Nat) ∈
      state.routed.map fun packet => (packet.channel, packet.live) := by
    simp [found]
  obtain ⟨packet, member, same⟩ := List.mem_map.mp listed
  simp only [Prod.mk.injEq] at same
  have stolen := (isolated packet member 0 (by simp [same.2])).1
  rw [same.1] at stolen
  cases stolen

end Pathweave
