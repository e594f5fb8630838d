import Mathlib.Data.List.AList
import Pathweave.DeduplicationCache
import Pathweave.GuardedRuns

/-!
# The broadcast transport

Virtual connections over a medium that every node hears. A dispatcher reads the
medium, drops its own and recently seen packets, and hands the rest to the
connection that the map holds for the source, or opens a new one. The map is shared
by `connect`, `stop` and every dispatcher that `start` has spawned, and is locked for
each access separately: a dispatcher looks up a source in one critical section and
inserts a new connection in another. Nothing removes the slot of a dropped connection.
-/

namespace Pathweave

open ByteStrings GuardedRuns

set_option autoImplicit false

/-! ## Packets -/

abbrev ShortId := Octets 8

def headerLen : Nat := 16

def maxPayloadLen : Nat := 150

def broadcastDedupTtl : Nat := seconds 2

def encodeHeader (dest source : ShortId) : Bytes := dest.val ++ source.val

def decodeHeader (packet : Bytes) : Option (ShortId × ShortId × Bytes) :=
  if long : headerLen ≤ packet.length then
    some (octetsAt packet 0 8 (Nat.le_trans (by decide) long), octetsAt packet 8 8 long,
      packet.drop headerLen)
  else none

theorem decode_encode_header (dest source : ShortId) (payload : Bytes) :
    decodeHeader (encodeHeader dest source ++ payload) = some (dest, source, payload) := by
  have destSize := dest.property
  have sourceSize := source.property
  have size : (encodeHeader dest source).length = headerLen := by
    simp [encodeHeader, headerLen, destSize, sourceSize]
  have long : headerLen ≤ (encodeHeader dest source ++ payload).length := by
    rw [List.length_append, size]
    exact Nat.le_add_right ..
  rw [decodeHeader, dif_pos long]
  congr 1
  apply Prod.ext
  · apply Subtype.ext
    simp [octetsAt, encodeHeader, destSize]
  apply Prod.ext
  · apply Subtype.ext
    simp [octetsAt, encodeHeader, destSize, sourceSize]
  · rw [← size]
    exact List.drop_left ..

/-- The packets a dispatcher has seen: source and payload hash, without the destination. -/
abbrev RecentPackets := ShortId × UInt64 → Option Nat

section Scan

variable (hashPayload : Bytes → UInt64) (localShortId : ShortId)

/-- The dispatcher's treatment of one packet up to the lookup of its source: what it
remembers afterwards, and the source and payload to route, if any. `duration_since`
saturates, so an entry of the future is fresh as it is in `retainFresh`. -/
def scanPacket (recent : RecentPackets) (packet : Bytes) (now : Nat) :
    RecentPackets × Option (ShortId × Bytes) :=
  match decodeHeader packet with
  | none => (recent, none)
  | some (dest, source, payload) =>
      if source = localShortId then (recent, none)
      else
        let (seen, recorded) :=
          checkAndInsertKey broadcastDedupTtl now (source, hashPayload payload) recent
        if seen then (recorded, none)
        else if dest = localShortId then (recorded, some (source, payload))
        else (recorded, none)

end Scan

/-! ## States -/

inductive ChannelStatus where
  /-- In the queue that `accept` takes from. -/
  | queued
  | held
  | dropped
  deriving DecidableEq

/-- The channel of a virtual connection. `inbox` keeps what has been read, up to `read`.
`attached` says that the connection has been put in the map since the last `stop`,
whether or not it is still there. -/
structure VirtualChannel where
  peer : ShortId
  status : ChannelStatus
  attached : Bool
  inbox : List Bytes
  read : Nat
  deriving DecidableEq

/-- What a dispatcher does between its critical sections. `live` are the connections
with the source that were attached and not dropped at the lookup. -/
inductive DispatcherPhase where
  | scanning
  | sending (source : ShortId) (payload : Bytes) (channel : Nat) (live : List Nat)
  | opening (source : ShortId) (payload : Bytes) (live : List Nat)
  deriving DecidableEq

/-- An aborted dispatcher finishes the packet at hand and scans no more. -/
structure BroadcastDispatcher where
  localShortId : ShortId
  recent : RecentPackets
  phase : DispatcherPhase
  aborted : Bool

structure RoutedPacket where
  source : ShortId
  payload : Bytes
  channel : Nat
  place : Nat
  live : List Nat
  deriving DecidableEq

/-- The transport with its dispatchers and, as history, the packets that passed all
checks and those that were routed. `calls` are calls of `connect` that have found the
transport started and have not yet reached the map. -/
structure BroadcastState where
  localShortId : Option ShortId
  connections : AList (fun _ : ShortId => Nat)
  channels : List VirtualChannel
  dispatchers : List BroadcastDispatcher
  dispatcherHandle : Option Nat
  incoming : List Nat
  calls : List ShortId
  clock : Nat
  passed : List (ShortId × Bytes)
  routed : List RoutedPacket

def BroadcastState.new : BroadcastState where
  localShortId := none
  connections := ∅
  channels := []
  dispatchers := []
  dispatcherHandle := none
  incoming := []
  calls := []
  clock := 0
  passed := []
  routed := []

inductive BroadcastLabel where
  | start (shortId : ShortId)
  | stop
  | connect (peer : ShortId)
  | register (call : Nat)
  | accept
  | recv (channel : Nat)
  | drop (channel : Nat)
  | scan (dispatcher : Nat) (packet : Bytes) (now : Nat)
  | deliver (dispatcher : Nat)
  deriving DecidableEq

/-! ## Steps -/

def VirtualChannel.isLive (source : ShortId) (channel : VirtualChannel) : Bool :=
  decide (channel.peer = source ∧ channel.attached = true ∧ channel.status ≠ .dropped)

/-- A send on a channel whose receiver is gone fails, and the failure is ignored. -/
def VirtualChannel.enqueue (channel : VirtualChannel) (payload : Bytes) : VirtualChannel :=
  if channel.status = .dropped then channel
  else { channel with inbox := channel.inbox ++ [payload] }

def VirtualChannel.detach (channel : VirtualChannel) : VirtualChannel :=
  { channel with attached := false }

def VirtualChannel.hold (channel : VirtualChannel) : VirtualChannel :=
  { channel with status := .held }

def VirtualChannel.drop (channel : VirtualChannel) : VirtualChannel :=
  { channel with status := .dropped }

def VirtualChannel.advance (channel : VirtualChannel) : VirtualChannel :=
  { channel with read := channel.read + 1 }

def outgoingChannel (peer : ShortId) : VirtualChannel where
  peer := peer
  status := .held
  attached := true
  inbox := []
  read := 0

/-- The connection a dispatcher opens, with the packet already in it. -/
def incomingChannel (source : ShortId) (payload : Bytes) : VirtualChannel where
  peer := source
  status := .queued
  attached := true
  inbox := [payload]
  read := 0

namespace BroadcastState

variable (state : BroadcastState)

def live (source : ShortId) : List Nat :=
  (List.range state.channels.length).filter fun index =>
    (state.channels[index]?).any (VirtualChannel.isLive source)

def spawn (shortId : ShortId) : BroadcastState :=
  { state with
    localShortId := some shortId
    dispatchers := state.dispatchers ++
      [{ localShortId := shortId, recent := fun _ => none, phase := .scanning, aborted := false }]
    dispatcherHandle := some state.dispatchers.length }

def abortCurrent : List BroadcastDispatcher :=
  match state.dispatcherHandle with
  | some index =>
      match state.dispatchers[index]? with
      | some dispatcher => state.dispatchers.set index { dispatcher with aborted := true }
      | none => state.dispatchers
  | none => state.dispatchers

/-- Only the dispatcher of the last `start` is aborted. Clearing the map drops all senders. -/
def stop : BroadcastState :=
  { state with
    dispatchers := state.abortCurrent
    dispatcherHandle := none
    localShortId := none
    connections := ∅
    channels := state.channels.map VirtualChannel.detach }

def setDispatcher (index : Nat) (dispatcher : BroadcastDispatcher) : BroadcastState :=
  { state with dispatchers := state.dispatchers.set index dispatcher }

def updateChannel (index : Nat) (change : VirtualChannel → VirtualChannel) : BroadcastState :=
  { state with channels := state.channels.modify index change }

def attach (channel : VirtualChannel) : BroadcastState :=
  { state with
    channels := state.channels ++ [channel]
    connections := state.connections.insert channel.peer state.channels.length }

def register (index : Nat) (peer : ShortId) : BroadcastState :=
  { state.attach (outgoingChannel peer) with calls := state.calls.eraseIdx index }

def lookupSource (source : ShortId) (payload : Bytes) : DispatcherPhase :=
  match state.connections.lookup source with
  | some channel => .sending source payload channel (state.live source)
  | none => .opening source payload (state.live source)

def scan (hashPayload : Bytes → UInt64) (index : Nat) (dispatcher : BroadcastDispatcher)
    (packet : Bytes) (now : Nat) : BroadcastState :=
  match scanPacket hashPayload dispatcher.localShortId dispatcher.recent packet now with
  | (recent, none) =>
      { state.setDispatcher index { dispatcher with recent := recent } with clock := now }
  | (recent, some (source, payload)) =>
      { state.setDispatcher index
          { dispatcher with recent := recent, phase := state.lookupSource source payload } with
        clock := now
        passed := state.passed ++ [(source, payload)] }

def send (index : Nat) (dispatcher : BroadcastDispatcher) (source : ShortId) (payload : Bytes)
    (channel : Nat) (live : List Nat) (place : Nat) : BroadcastState :=
  { (state.updateChannel channel fun target => target.enqueue payload).setDispatcher index
      { dispatcher with phase := .scanning } with
    routed := state.routed ++
      [{ source := source
         payload := payload
         channel := channel
         place := place
         live := live }] }

/-- The new connection goes to the map and to the queue of `accept`. -/
def openIncoming (index : Nat) (dispatcher : BroadcastDispatcher) (source : ShortId)
    (payload : Bytes) (live : List Nat) : BroadcastState :=
  { (state.attach (incomingChannel source payload)).setDispatcher index
      { dispatcher with phase := .scanning } with
    incoming := state.incoming ++ [state.channels.length]
    routed := state.routed ++
      [{ source := source
         payload := payload
         channel := state.channels.length
         place := 0
         live := live }] }

end BroadcastState

def broadcastStep (hashPayload : Bytes → UInt64) (state : BroadcastState) :
    BroadcastLabel → Option BroadcastState
  | .start shortId => some (state.spawn shortId)
  | .stop => some state.stop
  | .connect peer =>
      if state.localShortId.isSome then some { state with calls := state.calls ++ [peer] } else none
  | .register index => (state.calls[index]?).map (state.register index)
  | .accept =>
      match state.incoming with
      | [] => none
      | channel :: rest =>
          some { state.updateChannel channel VirtualChannel.hold with incoming := rest }
  | .recv index =>
      match state.channels[index]? with
      | some channel =>
          if channel.status = .held ∧ channel.read < channel.inbox.length then
            some (state.updateChannel index VirtualChannel.advance)
          else none
      | none => none
  | .drop index =>
      match state.channels[index]? with
      | some channel =>
          if channel.status = .held then some (state.updateChannel index VirtualChannel.drop)
          else none
      | none => none
  | .scan index packet now =>
      match state.dispatchers[index]? with
      | some dispatcher =>
          if dispatcher.phase = .scanning ∧ dispatcher.aborted = false ∧ state.clock ≤ now then
            some (state.scan hashPayload index dispatcher packet now)
          else none
      | none => none
  | .deliver index =>
      match state.dispatchers[index]? with
      | some dispatcher =>
          match dispatcher.phase with
          | .sending source payload channel live =>
              (state.channels[channel]?).map fun target =>
                state.send index dispatcher source payload channel live target.inbox.length
          | .opening source payload live =>
              some (state.openIncoming index dispatcher source payload live)
          | .scanning => none
      | none => none

/-! ## What a step can do -/

inductive BroadcastMove (hashPayload : Bytes → UInt64) (state : BroadcastState) :
    BroadcastLabel → BroadcastState → Prop where
  | started {shortId : ShortId} :
      BroadcastMove hashPayload state (.start shortId) (state.spawn shortId)
  | stopped : BroadcastMove hashPayload state .stop state.stop
  | called {peer : ShortId} :
      BroadcastMove hashPayload state (.connect peer) { state with calls := state.calls ++ [peer] }
  | registered {index : Nat} {peer : ShortId} (present : state.calls[index]? = some peer) :
      BroadcastMove hashPayload state (.register index) (state.register index peer)
  | accepted {channel : Nat} {rest : List Nat} (queue : state.incoming = channel :: rest) :
      BroadcastMove hashPayload state .accept
        { state.updateChannel channel VirtualChannel.hold with incoming := rest }
  | received {index : Nat} {channel : VirtualChannel}
      (present : state.channels[index]? = some channel)
      (unread : channel.read < channel.inbox.length) :
      BroadcastMove hashPayload state (.recv index)
        (state.updateChannel index VirtualChannel.advance)
  | dropped {index : Nat} {channel : VirtualChannel}
      (present : state.channels[index]? = some channel) (held : channel.status = .held) :
      BroadcastMove hashPayload state (.drop index) (state.updateChannel index VirtualChannel.drop)
  | ignored {index now : Nat} {packet : Bytes} {dispatcher : BroadcastDispatcher}
      {recent : RecentPackets} (present : state.dispatchers[index]? = some dispatcher)
      (scanning : dispatcher.phase = .scanning)
      (result : scanPacket hashPayload dispatcher.localShortId dispatcher.recent packet now =
        (recent, none)) :
      BroadcastMove hashPayload state (.scan index packet now)
        { state.setDispatcher index { dispatcher with recent := recent } with clock := now }
  | passed {index now : Nat} {packet : Bytes} {dispatcher : BroadcastDispatcher}
      {recent : RecentPackets} {source : ShortId} {payload : Bytes}
      (present : state.dispatchers[index]? = some dispatcher)
      (scanning : dispatcher.phase = .scanning)
      (result : scanPacket hashPayload dispatcher.localShortId dispatcher.recent packet now =
        (recent, some (source, payload))) :
      BroadcastMove hashPayload state (.scan index packet now)
        { state.setDispatcher index
            { dispatcher with recent := recent, phase := state.lookupSource source payload } with
          clock := now
          passed := state.passed ++ [(source, payload)] }
  | sent {index channel : Nat} {dispatcher : BroadcastDispatcher} {source : ShortId}
      {payload : Bytes} {live : List Nat} {target : VirtualChannel}
      (present : state.dispatchers[index]? = some dispatcher)
      (phase : dispatcher.phase = .sending source payload channel live)
      (found : state.channels[channel]? = some target) :
      BroadcastMove hashPayload state (.deliver index)
        (state.send index dispatcher source payload channel live target.inbox.length)
  | opened {index : Nat} {dispatcher : BroadcastDispatcher} {source : ShortId} {payload : Bytes}
      {live : List Nat} (present : state.dispatchers[index]? = some dispatcher)
      (phase : dispatcher.phase = .opening source payload live) :
      BroadcastMove hashPayload state (.deliver index)
        (state.openIncoming index dispatcher source payload live)

theorem broadcast_step_moves {hashPayload : Bytes → UInt64} {state next : BroadcastState}
    {label : BroadcastLabel} (taken : broadcastStep hashPayload state label = some next) :
    BroadcastMove hashPayload state label next := by
  cases label with
  | start shortId =>
      cases taken
      exact .started
  | stop =>
      cases taken
      exact .stopped
  | connect peer =>
      simp only [broadcastStep] at taken
      split_ifs at taken
      cases taken
      exact .called
  | register index =>
      obtain ⟨peer, present, same⟩ := Option.map_eq_some_iff.mp taken
      subst same
      exact .registered present
  | accept =>
      simp only [broadcastStep] at taken
      split at taken
      · cases taken
      · cases taken
        exact .accepted (by assumption)
  | recv index =>
      simp only [broadcastStep] at taken
      split at taken
      · split_ifs at taken with readable
        cases taken
        exact .received (by assumption) readable.2
      · cases taken
  | drop index =>
      simp only [broadcastStep] at taken
      split at taken
      · split_ifs at taken with held
        cases taken
        exact .dropped (by assumption) held
      · cases taken
  | scan index packet now =>
      simp only [broadcastStep] at taken
      split at taken
      · rename_i dispatcher present
        split_ifs at taken with ready
        unfold BroadcastState.scan at taken
        split at taken
        · rename_i recent result
          cases taken
          exact .ignored present ready.1 result
        · rename_i recent source payload result
          cases taken
          exact .passed present ready.1 result
      · cases taken
  | deliver index =>
      simp only [broadcastStep] at taken
      split at taken
      · rename_i dispatcher present
        split at taken
        · rename_i source payload channel live phase
          obtain ⟨target, found, same⟩ := Option.map_eq_some_iff.mp taken
          subst same
          exact .sent present phase found
        · rename_i source payload live phase
          cases taken
          exact .opened present phase
        · cases taken
      · cases taken

end Pathweave
