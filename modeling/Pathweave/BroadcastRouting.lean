import Mathlib.Algebra.Order.Group.Multiset
import Mathlib.Tactic.Abel
import Pathweave.BroadcastTransport
import Pathweave.Weights

/-!
# Where broadcast packets go

Channels are never forgotten and their inboxes only grow, so a routed packet can be
looked up at its place for ever. A packet is lost when a dispatcher finds a connection
for it that has been dropped, or that is dropped before the packet is sent, and it is
taken from a connection that is still held when another one has been put in its slot. Both
need a condition on the steps, since no step of the code rules them out.
-/

namespace Pathweave

open ByteStrings GuardedRuns Weights

set_option autoImplicit false

variable {hashPayload : Bytes → UInt64} {state next : BroadcastState} {label : BroadcastLabel}

/-! ## Channels -/

inductive ChannelChange (state : BroadcastState) (label : BroadcastLabel) (index : Nat)
    (channel : VirtualChannel) : VirtualChannel → Prop where
  | kept : ChannelChange state label index channel channel
  | detached : ChannelChange state label index channel channel.detach
  | accepted {rest : List Nat} (queue : state.incoming = index :: rest)
      (isAccept : label = .accept) : ChannelChange state label index channel channel.hold
  | read : ChannelChange state label index channel channel.advance
  | dropped (isDrop : label = .drop index) (held : channel.status = .held) :
      ChannelChange state label index channel channel.drop
  | enqueued (payload : Bytes) : ChannelChange state label index channel (channel.enqueue payload)

/-- A channel of the same peer, with all that was in its inbox. `dropping` says that the
step drops it. -/
structure Evolves (dropping : Prop) (channel after : VirtualChannel) : Prop where
  peer : after.peer = channel.peer
  inbox : channel.inbox <+: after.inbox
  attached : after.attached = true → channel.attached = true
  alive : channel.status ≠ .dropped → ¬dropping → after.status ≠ .dropped

section ChannelSteps

variable {channels : List VirtualChannel} {index : Nat} {channel after : VirtualChannel}

theorem changed_modify {target : Nat} {change : VirtualChannel → VirtualChannel}
    (present : channels[index]? = some channel)
    (changed : target = index → ChannelChange state label index channel (change channel)) :
    ∃ after, (channels.modify target change)[index]? = some after ∧
      ChannelChange state label index channel after := by
  rw [List.getElem?_modify, present]
  by_cases same : target = index
  · exact ⟨change channel, by simp [same], changed same⟩
  · exact ⟨channel, by simp [same], .kept⟩

theorem changed_append (added : VirtualChannel) (present : channels[index]? = some channel) :
    ∃ after, (channels ++ [added])[index]? = some after ∧
      ChannelChange state label index channel after := by
  have inside : index < channels.length := (List.getElem?_eq_some_iff.mp present).1
  exact ⟨channel, by rw [List.getElem?_append_left inside, present], .kept⟩

theorem channel_changes (moved : BroadcastMove hashPayload state label next)
    (present : state.channels[index]? = some channel) :
    ∃ after, next.channels[index]? = some after ∧
      ChannelChange state label index channel after := by
  have unchanged : ∃ after, state.channels[index]? = some after ∧
      ChannelChange state label index channel after := ⟨channel, present, .kept⟩
  cases moved with
  | started => exact unchanged
  | stopped => exact ⟨channel.detach, by simp [BroadcastState.stop, present], .detached⟩
  | called => exact unchanged
  | registered _ => exact changed_append _ present
  | accepted queue =>
      apply changed_modify present
      intro same
      subst same
      exact .accepted queue rfl
  | received _ unread =>
      apply changed_modify present
      intro _
      exact .read
  | dropped found held =>
      apply changed_modify present
      intro same
      subst same
      rw [found] at present
      cases present
      exact .dropped rfl held
  | ignored _ scanning => exact unchanged
  | passed _ scanning => exact unchanged
  | sent _ phase found =>
      apply changed_modify present
      intro _
      exact .enqueued _
  | opened _ phase => exact changed_append _ present

theorem evolves_enqueue (dropping : Prop) (channel : VirtualChannel) (payload : Bytes) :
    Evolves dropping channel (channel.enqueue payload) := by
  unfold VirtualChannel.enqueue
  split_ifs
  · exact ⟨rfl, List.prefix_rfl, id, fun alive _ => alive⟩
  · exact ⟨rfl, List.prefix_append .., id, fun alive _ => alive⟩

theorem evolves_of_change (change : ChannelChange state label index channel after) :
    Evolves (label = .drop index) channel after := by
  cases change with
  | kept => exact ⟨rfl, List.prefix_rfl, id, fun alive _ => alive⟩
  | detached =>
      exact ⟨rfl, List.prefix_rfl, (by intro attached; cases attached), fun alive _ => alive⟩
  | accepted queue isAccept =>
      exact ⟨rfl, List.prefix_rfl, id, (by intro _ _ dropped; cases dropped)⟩
  | read => exact ⟨rfl, List.prefix_rfl, id, fun alive _ => alive⟩
  | dropped isDrop held => exact ⟨rfl, List.prefix_rfl, id, fun _ kept => absurd isDrop kept⟩
  | enqueued payload => exact evolves_enqueue _ channel payload

theorem channel_step (moved : BroadcastMove hashPayload state label next)
    (present : state.channels[index]? = some channel) :
    ∃ after, next.channels[index]? = some after ∧
      Evolves (label = .drop index) channel after := by
  obtain ⟨after, found, change⟩ := channel_changes moved present
  exact ⟨after, found, evolves_of_change change⟩

end ChannelSteps

/-! ## Routed packets -/

def RoutedPacket.Arrived (state : BroadcastState) (packet : RoutedPacket) : Prop :=
  ∃ channel, state.channels[packet.channel]? = some channel ∧ channel.peer = packet.source ∧
    channel.inbox[packet.place]? = some packet.payload

theorem arrived_step (moved : BroadcastMove hashPayload state label next) {packet : RoutedPacket}
    (arrived : packet.Arrived state) : packet.Arrived next := by
  obtain ⟨channel, present, peer, placed⟩ := arrived
  obtain ⟨after, found, evolved⟩ := channel_step moved present
  apply Exists.intro after
  apply And.intro found
  apply And.intro (evolved.peer.trans peer)
  obtain ⟨rest, same⟩ := evolved.inbox
  have inside : packet.place < channel.inbox.length := (List.getElem?_eq_some_iff.mp placed).1
  rw [← same, List.getElem?_append_left inside]
  exact placed

def DispatcherPhase.inHand : DispatcherPhase → List (ShortId × Bytes)
  | .scanning => []
  | .sending source payload _ _ => [(source, payload)]
  | .opening source payload _ => [(source, payload)]

theorem in_hand_lookup (state : BroadcastState) (source : ShortId) (payload : Bytes) :
    (state.lookupSource source payload).inHand = [(source, payload)] := by
  unfold BroadcastState.lookupSource
  cases state.connections.lookup source <;> rfl

def BroadcastDispatcher.pending (dispatcher : BroadcastDispatcher) :
    Multiset (ShortId × Bytes) :=
  ↑dispatcher.phase.inHand

/-- Every packet that passed the checks has been routed or is in a dispatcher's hands. -/
def PacketsAccounted (state : BroadcastState) : Prop :=
  (↑state.passed : Multiset (ShortId × Bytes)) =
    ↑(state.routed.map fun packet => (packet.source, packet.payload)) +
      weigh BroadcastDispatcher.pending state.dispatchers

theorem pending_scanning {dispatcher : BroadcastDispatcher}
    (scanning : dispatcher.phase = .scanning) : dispatcher.pending = 0 := by
  rw [BroadcastDispatcher.pending, scanning]
  rfl

theorem weigh_routed {index : Nat} {dispatcher : BroadcastDispatcher} {packet : ShortId × Bytes}
    (present : state.dispatchers[index]? = some dispatcher)
    (inHand : dispatcher.phase.inHand = [packet]) :
    weigh BroadcastDispatcher.pending
        (state.dispatchers.set index { dispatcher with phase := .scanning }) + {packet} =
      weigh BroadcastDispatcher.pending state.dispatchers := by
  apply weigh_set_lost BroadcastDispatcher.pending present
  rw [BroadcastDispatcher.pending, inHand, Multiset.coe_singleton, pending_scanning rfl, zero_add]

theorem accounted_routed {index : Nat} {dispatcher : BroadcastDispatcher} {packet : RoutedPacket}
    (accounted : PacketsAccounted state)
    (present : state.dispatchers[index]? = some dispatcher)
    (inHand : dispatcher.phase.inHand = [(packet.source, packet.payload)])
    (passed : next.passed = state.passed) (routed : next.routed = state.routed ++ [packet])
    (dispatchers : next.dispatchers =
      state.dispatchers.set index { dispatcher with phase := .scanning }) :
    PacketsAccounted next := by
  unfold PacketsAccounted at accounted ⊢
  rw [passed, accounted, routed, dispatchers, ← weigh_routed present inHand, List.map_append,
    ← Multiset.coe_add, List.map_singleton, Multiset.coe_singleton]
  abel

theorem accounted_step (accounted : PacketsAccounted state)
    (moved : BroadcastMove hashPayload state label next) : PacketsAccounted next := by
  cases moved with
  | started =>
      simpa [PacketsAccounted, BroadcastState.spawn, pending_scanning] using accounted
  | stopped =>
      unfold PacketsAccounted at accounted ⊢
      have same : weigh BroadcastDispatcher.pending state.abortCurrent =
          weigh BroadcastDispatcher.pending state.dispatchers := by
        unfold BroadcastState.abortCurrent
        split
        · split
          · rename_i dispatcher present
            exact weigh_set_same BroadcastDispatcher.pending present rfl
          · rfl
        · rfl
      simp only [BroadcastState.stop, same]
      exact accounted
  | @ignored index now packet dispatcher recent present scanning =>
      unfold PacketsAccounted at accounted ⊢
      have same := @weigh_set_same _ _ _ BroadcastDispatcher.pending _ _ _
        { dispatcher with recent := recent } present rfl
      simp only [BroadcastState.setDispatcher, same]
      exact accounted
  | @passed index now packet dispatcher recent source payload present scanning =>
      unfold PacketsAccounted at accounted ⊢
      have gained := @weigh_set _ _ _ BroadcastDispatcher.pending _ _ _
        { dispatcher with recent := recent, phase := state.lookupSource source payload } present
      rw [pending_scanning scanning, add_zero, BroadcastDispatcher.pending, in_hand_lookup]
        at gained
      simp only [BroadcastState.setDispatcher, gained, ← Multiset.coe_add]
      rw [accounted, add_assoc]
  | sent present phase found =>
      exact accounted_routed accounted present (by rw [phase]; rfl) rfl rfl rfl
  | opened present phase =>
      exact accounted_routed accounted present (by rw [phase]; rfl) rfl rfl rfl
  | _ => exact accounted

/-! ## No packet is lost -/

def DispatcherPhase.target : DispatcherPhase → Option Nat
  | .sending _ _ channel _ => some channel
  | _ => none

def BroadcastState.isDropped (state : BroadcastState) (index : Nat) : Bool :=
  (state.channels[index]?).any fun channel => decide (channel.status = .dropped)

/-- The slot that a dispatcher finds for a packet that passes its checks. -/
def BroadcastState.scannedSlot (hashPayload : Bytes → UInt64) (state : BroadcastState)
    (index : Nat) (packet : Bytes) (now : Nat) : Option Nat := do
  let dispatcher ← state.dispatchers[index]?
  let (source, _) ←
    (scanPacket hashPayload dispatcher.localShortId dispatcher.recent packet now).2
  state.connections.lookup source

/-- The connection found for a packet has not been dropped, and it is not dropped before
the packet is sent. -/
def sendsToOpen (hashPayload : Bytes → UInt64) (state : BroadcastState) : BroadcastLabel → Prop
  | .scan index packet now =>
      (state.scannedSlot hashPayload index packet now).any state.isDropped = false
  | .drop index =>
      (state.dispatchers.any fun dispatcher => dispatcher.phase.target == some index) = false
  | _ => True

instance (hashPayload : Bytes → UInt64) (state : BroadcastState) (label : BroadcastLabel) :
    Decidable (sendsToOpen hashPayload state label) :=
  match label with
  | .scan _ _ _ | .drop _ => inferInstanceAs (Decidable (_ = false))
  | .start _ | .stop | .connect _ | .register _ | .accept | .recv _ | .deliver _ =>
      isTrue trivial

def OwnedBy (state : BroadcastState) (source : ShortId) (index : Nat) : Prop :=
  ∃ channel, state.channels[index]? = some channel ∧ channel.peer = source

structure SendersOpen (state : BroadcastState) : Prop where
  slots : ∀ source index, state.connections.lookup source = some index →
    OwnedBy state source index
  sending : ∀ dispatcher ∈ state.dispatchers, ∀ source payload channel live,
    dispatcher.phase = .sending source payload channel live →
      OwnedBy state source channel ∧ state.isDropped channel = false
  arrived : ∀ packet ∈ state.routed, packet.Arrived state

section NoLoss

variable {index : Nat} {source : ShortId}

theorem owned_step (moved : BroadcastMove hashPayload state label next)
    (owned : OwnedBy state source index) : OwnedBy next source index := by
  obtain ⟨channel, present, peer⟩ := owned
  obtain ⟨after, found, evolved⟩ := channel_step moved present
  exact ⟨after, found, evolved.peer.trans peer⟩

theorem is_dropped_eq {channel : VirtualChannel} (present : state.channels[index]? = some channel) :
    state.isDropped index = false ↔ channel.status ≠ .dropped := by
  simp [BroadcastState.isDropped, present]

theorem open_step (moved : BroadcastMove hashPayload state label next)
    (kept : label ≠ .drop index) (owned : OwnedBy state source index)
    (alive : state.isDropped index = false) : next.isDropped index = false := by
  obtain ⟨channel, present, -⟩ := owned
  obtain ⟨after, found, evolved⟩ := channel_step moved present
  exact (is_dropped_eq found).mpr (evolved.alive ((is_dropped_eq present).mp alive) kept)

theorem slots_step (senders : SendersOpen state)
    (moved : BroadcastMove hashPayload state label next) :
    ∀ source index, next.connections.lookup source = some index → OwnedBy next source index := by
  have kept : ∀ source index, state.connections.lookup source = some index →
      OwnedBy next source index :=
    fun source index slot => owned_step moved (senders.slots source index slot)
  have attached : ∀ added : VirtualChannel, next.channels = state.channels ++ [added] →
      ∀ source index, (state.connections.insert added.peer state.channels.length).lookup source =
        some index → OwnedBy next source index := by
    intro added appended source index slot
    by_cases own : source = added.peer
    · subst own
      rw [AList.lookup_insert] at slot
      cases slot
      exact ⟨added, by simp [appended], rfl⟩
    · rw [AList.lookup_insert_ne own] at slot
      exact kept source index slot
  cases moved with
  | stopped =>
      intro source index slot
      simp [BroadcastState.stop] at slot
  | registered present => exact attached _ rfl
  | opened present phase => exact attached _ rfl
  | _ => exact kept

theorem abort_phase {dispatcher : BroadcastDispatcher}
    (listed : dispatcher ∈ state.abortCurrent) :
    ∃ before ∈ state.dispatchers, before.phase = dispatcher.phase := by
  unfold BroadcastState.abortCurrent at listed
  split at listed
  · split at listed
    · rename_i before present
      cases List.mem_or_eq_of_mem_set listed with
      | inl old => exact ⟨dispatcher, old, rfl⟩
      | inr same => exact ⟨before, List.mem_of_getElem? present, by rw [same]⟩
    · exact ⟨dispatcher, listed, rfl⟩
  · exact ⟨dispatcher, listed, rfl⟩

theorem target_step (moved : BroadcastMove hashPayload state label next)
    {dispatcher : BroadcastDispatcher} {payload : Bytes} {live : List Nat}
    (listed : dispatcher ∈ next.dispatchers)
    (sends : dispatcher.phase = .sending source payload index live) :
    (∃ before ∈ state.dispatchers, before.phase = .sending source payload index live) ∨
      state.connections.lookup source = some index ∧
        ∃ place packet now, label = .scan place packet now ∧
          state.scannedSlot hashPayload place packet now = some index := by
  have replaced : ∀ place (new : BroadcastDispatcher),
      next.dispatchers = state.dispatchers.set place new →
      (∃ before ∈ state.dispatchers, before.phase = .sending source payload index live) ∨
        new.phase = .sending source payload index live := by
    intro place new same
    rw [same] at listed
    cases List.mem_or_eq_of_mem_set listed with
    | inl old => exact .inl ⟨dispatcher, old, sends⟩
    | inr equal => exact .inr (equal ▸ sends)
  cases moved with
  | started =>
      cases List.mem_append.mp listed with
      | inl old => exact .inl ⟨dispatcher, old, sends⟩
      | inr new =>
          rw [List.mem_singleton.mp new] at sends
          cases sends
  | stopped =>
      obtain ⟨before, old, same⟩ := abort_phase listed
      exact .inl ⟨before, old, same.trans sends⟩
  | ignored present scanning =>
      apply (replaced _ _ rfl).imp_right
      intro impossible
      rw [scanning] at impossible
      cases impossible
  | @passed place now packet old recent found received present scanning result =>
      apply (replaced _ _ rfl).imp_right
      intro looked
      dsimp only [BroadcastState.lookupSource] at looked
      split at looked
      · next slot =>
          cases looked
          refine ⟨slot, place, packet, now, rfl, ?_⟩
          simp [BroadcastState.scannedSlot, present, result, slot]
      · cases looked
  | sent present phase found =>
      apply (replaced _ _ rfl).imp_right
      intro impossible
      cases impossible
  | opened present phase =>
      apply (replaced _ _ rfl).imp_right
      intro impossible
      cases impossible
  | _ => exact .inl ⟨dispatcher, listed, sends⟩

theorem enqueue_open {channel : VirtualChannel} (alive : channel.status ≠ .dropped)
    (payload : Bytes) : (channel.enqueue payload).inbox = channel.inbox ++ [payload] := by
  rw [VirtualChannel.enqueue, if_neg alive]

theorem arrived_now (senders : SendersOpen state)
    (moved : BroadcastMove hashPayload state label next) :
    ∀ packet ∈ next.routed, packet ∈ state.routed ∨ packet.Arrived next := by
  intro packet listed
  cases moved with
  | @sent place target dispatcher source payload live channel present phase found =>
      apply (List.mem_append.mp listed).imp_right
      intro new
      rw [List.mem_singleton.mp new]
      obtain ⟨⟨same, located, peer⟩, unbroken⟩ := senders.sending dispatcher
        (List.mem_of_getElem? present) _ _ _ _ phase
      rw [found] at located
      cases located
      have alive := (is_dropped_eq found).mp unbroken
      apply Exists.intro (channel.enqueue payload)
      constructor
      · simp [BroadcastState.send, BroadcastState.setDispatcher, BroadcastState.updateChannel,
          found]
      · constructor
        · rw [(evolves_enqueue False channel payload).peer]
          exact peer
        · rw [enqueue_open alive]
          simp
  | @opened place dispatcher source payload live present phase =>
      apply (List.mem_append.mp listed).imp_right
      intro new
      rw [List.mem_singleton.mp new]
      apply Exists.intro (incomingChannel source payload)
      constructor
      · simp [BroadcastState.openIncoming, BroadcastState.setDispatcher, BroadcastState.attach]
      · exact ⟨rfl, rfl⟩
  | _ => exact .inl listed

theorem senders_open_step (senders : SendersOpen state)
    (allowed : sendsToOpen hashPayload state label)
    (moved : BroadcastMove hashPayload state label next) : SendersOpen next := by
  constructor
  · exact slots_step senders moved
  · intro dispatcher listed source payload channel live sends
    cases target_step moved listed sends with
    | inl before =>
        obtain ⟨earlier, old, phase⟩ := before
        obtain ⟨owned, alive⟩ := senders.sending earlier old _ _ _ _ phase
        refine ⟨owned_step moved owned, open_step moved ?_ owned alive⟩
        rintro rfl
        have target := List.any_eq_false.mp allowed earlier old
        simp [phase, DispatcherPhase.target] at target
    | inr looked =>
        obtain ⟨slot, place, packet, now, rfl, found⟩ := looked
        have owned := senders.slots source channel slot
        have alive : state.isDropped channel = false := by
          simpa [sendsToOpen, found] using allowed
        exact ⟨owned_step moved owned, open_step moved (by simp) owned alive⟩
  · intro packet listed
    cases arrived_now senders moved packet listed with
    | inl old => exact arrived_step moved (senders.arrived packet old)
    | inr new => exact new

end NoLoss

/-- Every packet that passed the checks is in a dispatcher's hands or has been routed to a
connection with its source, existing or new, and is there in its place. -/
def PacketsReach (state : BroadcastState) : Prop :=
  PacketsAccounted state ∧ ∀ packet ∈ state.routed, packet.Arrived state

theorem broadcast_packets_reach {labels : List BroadcastLabel}
    (run : Run (broadcastStep hashPayload) (sendsToOpen hashPayload) .new labels state) :
    PacketsReach state := by
  have tracked : PacketsAccounted state ∧ SendersOpen state := by
    apply run_invariant (fun state => PacketsAccounted state ∧ SendersOpen state) _ run
    · constructor
      · rfl
      · constructor
        · intro source index slot
          simp [BroadcastState.new] at slot
        · intro dispatcher listed
          cases listed
        · intro packet listed
          cases listed
    · intro before label after held allowed taken
      have moved := broadcast_step_moves taken
      exact ⟨accounted_step held.1 moved, senders_open_step held.2 allowed moved⟩
  exact ⟨tracked.1, tracked.2.arrived⟩

/-! ## Two sessions with one peer -/

def sampleShortId (number : UInt8) : ShortId := ⟨number :: List.replicate 7 0, by simp⟩

def lengthHash (payload : Bytes) : UInt64 := payload.length.toUInt64

def packetWith (payload : Bytes) : Bytes :=
  encodeHeader (sampleShortId 1) (sampleShortId 2) ++ payload

def route (dispatcher : Nat) (payload : Bytes) (now : Nat) : List BroadcastLabel :=
  [.scan dispatcher (packetWith payload) now, .deliver dispatcher]

def firstSession : List BroadcastLabel :=
  .start (sampleShortId 1) :: route 0 [1] 0 ++ [.accept]

/-- The first connection ends while its slot is still in the map; `connect` has put another
one in its place before the peer sends again. -/
def secondSession : List BroadcastLabel :=
  firstSession ++ [.drop 0, .connect (sampleShortId 2), .register 0] ++ route 0 [2, 3] 5

theorem broadcast_packets_reach_reconnected :
    ∃ state, Run (broadcastStep lengthHash) (sendsToOpen lengthHash) .new secondSession state ∧
      state.routed.map RoutedPacket.channel = [0, 1] ∧ PacketsReach state := by
  have finished : ((execute (fun state label =>
      if sendsToOpen lengthHash state label then broadcastStep lengthHash state label else none)
        .new secondSession).map fun state => state.routed.map RoutedPacket.channel) =
          some [0, 1] := by
    decide +kernel
  obtain ⟨state, reached, found⟩ := Option.map_eq_some_iff.mp finished
  have run := run_of_execute_guarded reached
  exact ⟨state, run, found, broadcast_packets_reach run⟩

def AlwaysReach : Prop :=
  ∀ (hashPayload : Bytes → UInt64) (labels : List BroadcastLabel) (state : BroadcastState),
    Run (broadcastStep hashPayload) anyStep .new labels state → PacketsReach state

/-- The accepted connection is dropped, its slot stays, and the next packet of the
peer is sent into it. -/
theorem packet_lost_after_drop : ¬AlwaysReach := by
  intro always
  have finished : ((execute (broadcastStep lengthHash) .new
      (firstSession ++ .drop 0 :: route 0 [2, 3] 5)).map fun state =>
        (state.routed.map fun packet => (packet.channel, packet.place, packet.payload),
          state.channels.map VirtualChannel.inbox)) =
      some ([(0, 0, [1]), (0, 1, [2, 3])], [[[1]]]) := by
    decide +kernel
  obtain ⟨state, reached, found⟩ := Option.map_eq_some_iff.mp finished
  simp only [Prod.mk.injEq] at found
  have lost : ∃ packet ∈ state.routed, packet.channel = 0 ∧ packet.place = 1 := by
    have listed : ((0, 1, [2, 3]) : Nat × Nat × Bytes) ∈
        state.routed.map fun packet => (packet.channel, packet.place, packet.payload) := by
      simp [found.1]
    obtain ⟨packet, member, same⟩ := List.mem_map.mp listed
    simp only [Prod.mk.injEq] at same
    exact ⟨packet, member, same.1, same.2.1⟩
  obtain ⟨packet, member, channel, place⟩ := lost
  obtain ⟨target, present, _, placed⟩ :=
    (always _ _ state (run_of_execute reached)).2 packet member
  have inbox : target.inbox ∈ state.channels.map VirtualChannel.inbox :=
    List.mem_map_of_mem (List.mem_of_getElem? present)
  rw [found.2, List.mem_singleton] at inbox
  rw [inbox, place] at placed
  cases placed

end Pathweave
