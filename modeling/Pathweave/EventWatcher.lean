import Pathweave.LaggedReaders
import Pathweave.StoreForward

/-!
# The event watcher of a node

The task that `PathweaveNode::new` spawns reads the router's event channel. It drains
the queues when a peer connects and floods a key when one is learned, and awaits both
before it reads on; its own sends fire events into the channel it reads. The channel
keeps 64 events. Every critical section of the watcher is one step, and so is every
event it fires; other tasks fire any event at any time and change the queues and the
peer table as they like.
-/

namespace Pathweave

open ByteStrings GuardedRuns LaggedReaders

set_option autoImplicit false

/-! ## Events -/

inductive NodeEvent where
  | transportChanged (old : Option TransportKind) (new : TransportKind)
  | peerConnected (peer : PeerId)
  | peerDisconnected (peer : PeerId)
  | messageDelivered (peer : PeerId) (transport : TransportKind)
  | storeFailed (peer : PeerId)
  | keyLearned (peer : PeerId) (publicKey : PublicKey)
  deriving DecidableEq

def eventCapacity : Nat := 64

inductive Reaction where
  | drain (peer : PeerId)
  | flood (peer : PeerId) (publicKey : PublicKey)
  deriving DecidableEq

def NodeEvent.reaction : NodeEvent → Option Reaction
  | .peerConnected peer => some (.drain peer)
  | .keyLearned peer publicKey => some (.flood peer publicKey)
  | _ => none

/-! ## Sends -/

inductive SendResult where
  | failed
  | delivered (transport : TransportKind) (learnedKey : Option PublicKey)
  deriving DecidableEq

/-- A `Router::send` that is waiting for its result, or has still to report a key. -/
inductive SendProgress where
  | trying (peer : PeerId)
  | announcing (peer : PeerId) (publicKey : PublicKey)
  deriving DecidableEq

/-- What is left of a send, the event it fires, and whether it has succeeded. -/
def SendProgress.advance : SendProgress → SendResult → Option SendProgress × Option NodeEvent × Bool
  | .trying _, .failed => (none, none, false)
  | .trying peer, .delivered transport learnedKey =>
      (learnedKey.map (.announcing peer), some (.messageDelivered peer transport), true)
  | .announcing peer publicKey, _ => (none, some (.keyLearned peer publicKey), true)

/-! ## Drains -/

structure EntrySend where
  entry : Entry
  sends : List SendProgress
  anyOk : Bool
  deriving DecidableEq

/-- The entries taken from a queue. `view` holds the clock reading and the targets once
they have been read. -/
structure DrainBatch where
  dest : PeerId
  todo : List Entry
  failures : List Entry
  view : Option (Nat × List Target)
  current : Option EntrySend
  deriving DecidableEq

structure WatcherDrain where
  rest : List PeerId
  batch : Option DrainBatch
  deriving DecidableEq

/-- The queues after a step of a drain, the drain, and the event it has fired. -/
structure DrainOutcome where
  pending : PendingStore
  drain : WatcherDrain
  event : Option NodeEvent

section Drain

variable (policy : StorePolicy) (storeTtl : Nat) (pending : PendingStore) (peers : PeerTable)

def takeQueue (dest : PeerId) (rest : List PeerId) : DrainOutcome :=
  match pending.lookup dest with
  | none => { pending := pending, drain := { rest := rest, batch := none }, event := none }
  | some entries =>
      { pending := pending.erase dest
        drain :=
          { rest := rest
            batch := some
              { dest := dest, todo := entries, failures := [], view := none, current := none } }
        event := none }

def returnFailures (batch : DrainBatch) : PendingStore :=
  if batch.failures.isEmpty then pending
  else pending.insert batch.dest (batch.failures ++ (pending.lookup batch.dest).getD [])

def nextEntry (batch : DrainBatch) (now : Nat) (targets : List Target) (entry : Entry)
    (todo : List Entry) : DrainBatch × Option NodeEvent :=
  if storeTtl < now - entry.queuedAt then
    ({ batch with todo := todo }, some (.storeFailed batch.dest))
  else if targets.isEmpty then
    ({ batch with todo := todo, failures := batch.failures ++ [entry] }, none)
  else
    ({ batch with
        todo := todo
        current := some
          { entry := entry
            sends := targets.map fun target => .trying target.1
            anyOk := false } }, none)

def advanceEntry (batch : DrainBatch) (current : EntrySend) (result : SendResult) :
    DrainBatch × Option NodeEvent :=
  match current.sends with
  | [] =>
      ({ batch with
          current := none
          failures := if current.anyOk then batch.failures
            else batch.failures ++ [current.entry] }, none)
  | send :: sends =>
      let (left, event, succeeded) := send.advance result
      ({ batch with
          current := some
            { current with
              sends := left.toList ++ sends
              anyOk := current.anyOk || succeeded } }, event)

/-- `drain_direct_for_peer` and `drain_routed_all`, one critical section, send or event at
a time. -/
def drainStep (drain : WatcherDrain) (now : Nat) (result : SendResult) : Option DrainOutcome :=
  match drain.batch with
  | none =>
      match drain.rest with
      | [] => none
      | dest :: rest => some (takeQueue pending dest rest)
  | some batch =>
      match batch.view with
      | none =>
          let batch := { batch with view := some (now, policy.targets peers batch.dest) }
          some { pending := pending, drain := { drain with batch := some batch }, event := none }
      | some (readAt, targets) =>
          match batch.current, batch.todo with
          | some current, _ =>
              let (batch, event) := advanceEntry batch current result
              some
                { pending := pending
                  drain := { drain with batch := some batch }
                  event := event }
          | none, entry :: todo =>
              let (batch, event) := nextEntry storeTtl batch readAt targets entry todo
              some
                { pending := pending
                  drain := { drain with batch := some batch }
                  event := event }
          | none, [] =>
              some
                { pending := returnFailures pending batch
                  drain := { drain with batch := none }
                  event := none }

end Drain

/-! ## The watcher -/

inductive WatcherPhase where
  | waiting
  | drainingDirect (drain : WatcherDrain)
  | drainingRouted (drain : WatcherDrain)
  /-- The flood has still to read the peer table. -/
  | startingFlood (peer : PeerId) (publicKey : PublicKey)
  | flooding (sends : List SendProgress)
  deriving DecidableEq

structure WatcherConfig where
  localPeer : PeerId
  storeTtl : Nat

structure WatcherState where
  reader : Reader NodeEvent Reaction
  phase : WatcherPhase
  pendingDirect : PendingStore
  pendingRouted : PendingStore
  peers : PeerTable

def WatcherState.subscribed (pendingDirect pendingRouted : PendingStore) (peers : PeerTable) :
    WatcherState where
  reader := .subscribed
  phase := .waiting
  pendingDirect := pendingDirect
  pendingRouted := pendingRouted
  peers := peers

inductive WatcherLabel where
  /-- Another task fires an event. -/
  | fire (event : NodeEvent)
  | changePeers (peers : PeerTable)
  | changeDirect (pending : PendingStore)
  | changeRouted (pending : PendingStore)
  | recv
  | drain (now : Nat) (result : SendResult)
  /-- The direct drain is over, and the destinations of the routed one are read. -/
  | drainRouted (dests : List PeerId)
  | readNeighbors
  /-- One of the concurrent sends of a flood. -/
  | flood (send : Nat) (result : SendResult)
  /-- Drains or flood are over. -/
  | wait

def WatcherLabel.own : WatcherLabel → Bool
  | .fire _ => false
  | .changePeers _ => false
  | .changeDirect _ => false
  | .changeRouted _ => false
  | _ => true

namespace WatcherState

variable (state : WatcherState)

def fire (event : Option NodeEvent) : Reader NodeEvent Reaction :=
  match event with
  | some event => state.reader.send event
  | none => state.reader

def begin : Option Reaction → WatcherPhase
  | some (.drain peer) => .drainingDirect { rest := [peer], batch := none }
  | some (.flood peer publicKey) => .startingFlood peer publicKey
  | none => .waiting

/-- `event_rx.recv()` and the `match` on its result. -/
def recv : Option WatcherState :=
  if state.reader.cursor + eventCapacity < state.reader.sent.length then
    some { state with reader := state.reader.skip eventCapacity }
  else
    match state.reader.sent[state.reader.cursor]? with
    | some event =>
        some { state with
          reader := state.reader.take NodeEvent.reaction event
          phase := begin event.reaction }
    | none => none

end WatcherState

def watcherStep (config : WatcherConfig) (state : WatcherState) :
    WatcherLabel → Option WatcherState
  | .fire event => some { state with reader := state.reader.send event }
  | .changePeers peers => some { state with peers := peers }
  | .changeDirect pending => some { state with pendingDirect := pending }
  | .changeRouted pending => some { state with pendingRouted := pending }
  | .recv => if state.phase = .waiting then state.recv else none
  | .drain now result =>
      match state.phase with
      | .drainingDirect drain =>
          (drainStep directStore config.storeTtl state.pendingDirect state.peers drain now
            result).map fun outcome =>
              { state with
                reader := state.fire outcome.event
                phase := .drainingDirect outcome.drain
                pendingDirect := outcome.pending }
      | .drainingRouted drain =>
          (drainStep (routedStore config.localPeer) config.storeTtl state.pendingRouted
            state.peers drain now result).map fun outcome =>
              { state with
                reader := state.fire outcome.event
                phase := .drainingRouted outcome.drain
                pendingRouted := outcome.pending }
      | _ => none
  | .drainRouted dests =>
      match state.phase with
      | .drainingDirect { rest := [], batch := none } =>
          if dests.isPerm state.pendingRouted.keys then
            some { state with phase := .drainingRouted { rest := dests, batch := none } }
          else none
      | _ => none
  | .readNeighbors =>
      match state.phase with
      | .startingFlood peer _ =>
          let neighbors := neighborsExcept state.peers [peer, config.localPeer]
          some { state with phase := .flooding (neighbors.map fun target => .trying target.1) }
      | _ => none
  | .flood index result =>
      match state.phase with
      | .flooding sends =>
          match sends[index]? with
          | some send =>
              let (left, event, _) := send.advance result
              some { state with
                reader := state.fire event
                phase := .flooding (sends.take index ++ left.toList ++ sends.drop (index + 1)) }
          | none => none
      | _ => none
  | .wait =>
      match state.phase with
      | .drainingRouted { rest := [], batch := none } => some { state with phase := .waiting }
      | .flooding [] => some { state with phase := .waiting }
      | _ => none

variable {config : WatcherConfig} {state next : WatcherState} {label : WatcherLabel}

/-! ## The watcher as a reader -/

theorem fire_effect (event : Option NodeEvent) :
    Effect eventCapacity NodeEvent.reaction state.reader (state.fire event) := by
  cases event with
  | none => exact .unchanged
  | some event => exact .sent event

theorem recv_effect (taken : state.recv = some next) :
    Effect eventCapacity NodeEvent.reaction state.reader next.reader := by
  unfold WatcherState.recv at taken
  split_ifs at taken with behind
  · cases taken
    exact .skipped behind
  · split at taken
    · rename_i event present
      cases taken
      exact .took (Nat.le_of_not_lt behind) present
    · cases taken

theorem watcher_acts :
    ActsOnReader eventCapacity NodeEvent.reaction (watcherStep config) WatcherState.reader := by
  intro state label next taken
  cases label with
  | fire event =>
      cases taken
      exact .sent event
  | recv =>
      simp only [watcherStep] at taken
      split_ifs at taken
      exact recv_effect taken
  | drain now result =>
      simp only [watcherStep] at taken
      split at taken
      · obtain ⟨outcome, _, same⟩ := Option.map_eq_some_iff.mp taken
        subst same
        exact fire_effect outcome.event
      · obtain ⟨outcome, _, same⟩ := Option.map_eq_some_iff.mp taken
        subst same
        exact fire_effect outcome.event
      · cases taken
  | flood index result =>
      simp only [watcherStep] at taken
      split at taken
      · split at taken
        · cases taken
          exact fire_effect _
        · cases taken
      · cases taken
  | drainRouted dests =>
      simp only [watcherStep] at taken
      split at taken
      · split_ifs at taken
        cases taken
        exact .unchanged
      · cases taken
  | readNeighbors =>
      simp only [watcherStep] at taken
      split at taken
      · cases taken
        exact .unchanged
      · cases taken
  | wait =>
      simp only [watcherStep] at taken
      split at taken
      · cases taken
        exact .unchanged
      · cases taken
        exact .unchanged
      · cases taken
  | _ =>
      cases taken
      exact .unchanged

/-! ## The watcher always goes on -/

theorem drain_step_some {policy : StorePolicy} {storeTtl : Nat} {pending : PendingStore}
    {peers : PeerTable} {drain : WatcherDrain} (unfinished : drain.rest ≠ [] ∨ drain.batch ≠ none)
    (now : Nat) (result : SendResult) :
    (drainStep policy storeTtl pending peers drain now result).isSome := by
  unfold drainStep
  split
  · rename_i idle
    split
    · rename_i empty
      cases unfinished with
      | inl more => exact absurd empty more
      | inr busy => exact absurd idle busy
    · rfl
  · split
    · rfl
    · split <;> rfl

/-- The watcher has a step of its own unless it waits and there is nothing to read. -/
theorem watcher_never_stuck
    (busy : state.phase ≠ .waiting ∨ state.reader.cursor < state.reader.sent.length) :
    ∃ label : WatcherLabel, label.own = true ∧ (watcherStep config state label).isSome := by
  cases phase : state.phase with
  | waiting =>
      have unread : state.reader.cursor < state.reader.sent.length := by
        cases busy with
        | inl working => exact absurd phase working
        | inr unread => exact unread
      apply Exists.intro WatcherLabel.recv
      apply And.intro rfl
      simp only [watcherStep, phase, if_true, WatcherState.recv]
      split_ifs
      · rfl
      · rw [List.getElem?_eq_getElem unread]
        rfl
  | drainingDirect drain =>
      by_cases unfinished : drain.rest ≠ [] ∨ drain.batch ≠ none
      · apply Exists.intro (WatcherLabel.drain 0 .failed)
        apply And.intro rfl
        simp [watcherStep, phase, drain_step_some unfinished]
      · apply Exists.intro (WatcherLabel.drainRouted state.pendingRouted.keys)
        apply And.intro rfl
        obtain ⟨rest, batch⟩ := drain
        simp only [ne_eq, not_or, not_not] at unfinished
        obtain ⟨empty, idle⟩ := unfinished
        subst empty idle
        have all : state.pendingRouted.keys.isPerm state.pendingRouted.keys = true :=
          List.isPerm_iff.mpr (List.Perm.refl _)
        simp [watcherStep, phase, all]
  | drainingRouted drain =>
      by_cases unfinished : drain.rest ≠ [] ∨ drain.batch ≠ none
      · apply Exists.intro (WatcherLabel.drain 0 .failed)
        apply And.intro rfl
        simp [watcherStep, phase, drain_step_some unfinished]
      · apply Exists.intro WatcherLabel.wait
        apply And.intro rfl
        obtain ⟨rest, batch⟩ := drain
        simp only [ne_eq, not_or, not_not] at unfinished
        obtain ⟨empty, idle⟩ := unfinished
        subst empty idle
        simp [watcherStep, phase]
  | startingFlood peer publicKey =>
      apply Exists.intro WatcherLabel.readNeighbors
      apply And.intro rfl
      simp [watcherStep, phase]
  | flooding sends =>
      cases sends with
      | nil =>
          apply Exists.intro WatcherLabel.wait
          apply And.intro rfl
          simp [watcherStep, phase]
      | cons send rest =>
          apply Exists.intro (WatcherLabel.flood 0 .failed)
          apply And.intro rfl
          simp [watcherStep, phase]

/-! ## No event is skipped -/

/-- Every event fired that asks for a drain or a flood has been given it, or is in the
buffer and still to be read. -/
def NoEventSkipped (state : WatcherState) : Prop :=
  state.reader.Watched eventCapacity NodeEvent.reaction

/-- No event is fired that overwrites an unread `PeerConnected` or `KeyLearned`. -/
def overwritesNoWork (config : WatcherConfig) : WatcherState → WatcherLabel → Prop :=
  keepsUnread eventCapacity NodeEvent.reaction (watcherStep config) WatcherState.reader

instance (config : WatcherConfig) (state : WatcherState) (label : WatcherLabel) :
    Decidable (overwritesNoWork config state label) :=
  inferInstanceAs (Decidable (keepsUnread _ _ _ _ state label))

theorem no_event_skipped_iff {pendingDirect pendingRouted : PendingStore} {peers : PeerTable}
    {labels : List WatcherLabel}
    (run : Run (watcherStep config) anyStep (.subscribed pendingDirect pendingRouted peers)
      labels state) :
    NoEventSkipped state ↔
      Run (watcherStep config) (overwritesNoWork config)
        (.subscribed pendingDirect pendingRouted peers) labels state := by
  apply watched_iff_keeps (by decide) watcher_acts sound_subscribed _ run
  intro index event work present
  cases present

/-- When the watcher has read everything, all drains and floods have begun. -/
theorem reactions_begun (kept : NoEventSkipped state)
    (read : state.reader.cursor = state.reader.sent.length) {index : Nat} {event : NodeEvent}
    {reaction : Reaction} (present : state.reader.sent[index]? = some event)
    (called : event.reaction = some reaction) : (index, reaction) ∈ state.reader.begun :=
  begun_of_watched kept read present called

/-! ## A long drain -/

def watcherConfig : WatcherConfig where
  localPeer := samplePeer 1
  storeTtl := storeTtlDefault

def queuedEntry (number : Nat) : Entry where
  call := number
  msgId := number.toUInt64
  payload := [1]
  queuedAt := 0

def queuedFor (count : Nat) : PendingStore :=
  (∅ : PendingStore).insert (samplePeer 2) ((List.range count).map queuedEntry)

def drainEntry : List WatcherLabel :=
  List.replicate 3 (.drain 0 (.delivered .ble none))

/-- Peer 2 connects; while its queue is drained peer 3 connects. -/
def connectDuringDrain (count : Nat) : List WatcherLabel :=
  [.fire (.peerConnected (samplePeer 2)), .recv, .drain 0 .failed,
    .fire (.peerConnected (samplePeer 3)), .drain 0 .failed] ++
      (List.replicate count drainEntry).flatten

def finishDrains : List WatcherLabel := [.drain 0 .failed, .drainRouted [], .wait, .recv]

theorem no_event_skipped_short_queue :
    ∃ state, Run (watcherStep watcherConfig) anyStep (.subscribed (queuedFor 2) ∅ knownPeer)
        (connectDuringDrain 2 ++ finishDrains) state ∧
      state.reader.begun = [(0, .drain (samplePeer 2)), (1, .drain (samplePeer 3))] ∧
      NoEventSkipped state := by
  have finished : ((execute (fun state label =>
      if overwritesNoWork watcherConfig state label then watcherStep watcherConfig state label
      else none) (.subscribed (queuedFor 2) ∅ knownPeer)
        (connectDuringDrain 2 ++ finishDrains)).map fun state => state.reader.begun) =
      some [(0, .drain (samplePeer 2)), (1, .drain (samplePeer 3))] := by
    decide +kernel
  obtain ⟨state, reached, found⟩ := Option.map_eq_some_iff.mp finished
  have guarded := run_of_execute_guarded reached
  have run := run_weaken (fun _ _ _ => trivial) guarded
  exact ⟨state, run, found, (no_event_skipped_iff run).mpr guarded⟩

def AlwaysWatched : Prop :=
  ∀ (config : WatcherConfig) (pendingDirect pendingRouted : PendingStore) (peers : PeerTable)
    (labels : List WatcherLabel) (state : WatcherState),
    Run (watcherStep config) anyStep (.subscribed pendingDirect pendingRouted peers) labels
      state → NoEventSkipped state

/-- The drain of 64 entries fires as many events, and the last one overwrites the
`PeerConnected` of peer 3. -/
theorem long_drain_skips_event : ¬AlwaysWatched := by
  intro always
  have finished : ((execute (watcherStep watcherConfig)
      (.subscribed (queuedFor 64) ∅ knownPeer) (connectDuringDrain 64)).map fun state =>
        (state.reader.begun, state.reader.sent[1]?, state.reader.sent.length)) =
      some ([(0, .drain (samplePeer 2))], some (.peerConnected (samplePeer 3)), 66) := by
    decide +kernel
  obtain ⟨state, reached, found⟩ := Option.map_eq_some_iff.mp finished
  simp only [Prod.mk.injEq] at found
  obtain ⟨begun, present, length⟩ := found
  have kept := always _ _ _ _ _ state (run_of_execute reached)
  cases kept 1 _ (.drain (samplePeer 3)) present rfl with
  | inl listed =>
      rw [begun] at listed
      simp at listed
  | inr unread =>
      have inBuffer := unread.2
      rw [length] at inBuffer
      exact absurd inBuffer (by decide)

end Pathweave
