import Pathweave.GuardedRuns
import Pathweave.PeerAddresses
import Pathweave.SampleMesh
import Pathweave.Weights
import Pathweave.WireFrames

/-!
# Store-and-forward

The pending queues of a node, the calls that fill them and the drains that empty
them. Every critical section of the source is one step, and a label picks the task
that takes its next step, so a list of labels is one interleaving; it also fixes
what the environment decides, such as clock readings and the results of sends.
The direct and the routed queue differ in where a payload is sent, in its framing
and in which destinations a drain visits: `StorePolicy` holds the difference.
-/

namespace Pathweave

open ByteStrings GuardedRuns

set_option autoImplicit false

/-- A queued payload. `call` numbers the call that accepted it. -/
structure Entry where
  call : Nat
  msgId : UInt64
  payload : Bytes
  queuedAt : Nat
  deriving DecidableEq

abbrev Item := PeerId × Entry

abbrev Target := PeerId × List PeerAnnouncement

abbrev PendingStore := AList (fun _ : PeerId => List Entry)

structure StorePolicy where
  targets : PeerTable → PeerId → List Target
  body : PeerId → Bytes → Bytes
  /-- Whether a drain may visit these destinations, given the keys of the map. -/
  visits : List PeerId → List PeerId → Bool

/-- `store_forward` and `drain_direct_for_peer`: the peer itself, if it has
addresses. -/
def directStore : StorePolicy where
  targets peers peer :=
    match peers.lookup peer with
    | some announcements => if announcements.isEmpty then [] else [(peer, announcements)]
    | none => []
  body _ payload := directBody payload
  visits _ dests := dests.length == 1

/-- `store_forward_routed` and `drain_routed_all`: every neighbour, and a drain of
all destinations in some order. -/
def routedStore (localPeer : PeerId) : StorePolicy where
  targets peers _ := neighborsExcept peers [localPeer]
  body dest payload := routedBody dest maxTtl payload
  visits keys dests := dests.isPerm keys

structure StoreConfig where
  policy : StorePolicy
  maxQueueDepth : Option Nat
  storeTtl : Nat

def storeTtlDefault : Nat := seconds 86400

inductive CallerPhase where
  | lookup
  | attempting (targets : List Target)
  | enqueue
  deriving DecidableEq

structure Caller where
  dest : PeerId
  entry : Entry
  phase : CallerPhase
  deriving DecidableEq

/-- The local variables of a drain between its two critical sections. `takenAt`
is the number of enqueues that had happened when the batch was taken, and `view`
the clock reading and the targets once they have been read. -/
structure Batch where
  dest : PeerId
  todo : List Entry
  failures : List Entry
  takenAt : Nat
  view : Option (Nat × List Target)
  deriving DecidableEq

structure Drain where
  rest : List PeerId
  batch : Option Batch
  deriving DecidableEq

/-- The shared maps, the running tasks and, as history, what was accepted and
enqueued, where payloads ended and which sends were made. -/
structure StoreState where
  pending : PendingStore
  peers : PeerTable
  callers : List Caller
  drains : List Drain
  accepted : List Item
  enqueued : List Item
  sent : List Item
  /-- The `StoreFailed` events, with the payload each is about. -/
  storeFailed : List Item
  sends : List (Entry × RouterSend)

def StoreState.start (peers : PeerTable) : StoreState where
  pending := ∅
  peers := peers
  callers := []
  drains := []
  accepted := []
  enqueued := []
  sent := []
  storeFailed := []
  sends := []

inductive StoreLabel where
  | accept (dest : PeerId) (payload : Bytes) (entropy : Octets 8) (now : Nat)
  | lookup (caller : Nat)
  | attempt (caller : Nat) (results : List Bool)
  | enqueue (caller : Nat)
  | spawnDrain (dests : List PeerId)
  | take (drain : Nat)
  | view (drain now : Nat)
  | process (drain : Nat) (results : List Bool)
  | finish (drain : Nat)
  | retire (drain : Nat)
  | changePeers (peers : PeerTable)

namespace StoreState

variable (config : StoreConfig) (state : StoreState)

def queue (dest : PeerId) : List Entry := (state.pending.lookup dest).getD []

def attemptSends (dest : PeerId) (entry : Entry) (targets : List Target) :
    List (Entry × RouterSend) :=
  targets.map fun target =>
    (entry,
      { announcements := target.2
        payload := config.policy.body dest entry.payload
        peerId := target.1
        messageId := entry.msgId })

def accept (dest : PeerId) (payload : Bytes) (entropy : Octets 8) (now : Nat) : StoreState :=
  let entry : Entry :=
    { call := state.accepted.length
      msgId := newMessageId entropy
      payload := payload
      queuedAt := now }
  { state with
    callers := state.callers ++ [{ dest := dest, entry := entry, phase := .lookup }]
    accepted := state.accepted ++ [(dest, entry)] }

def lookupTargets (index : Nat) (caller : Caller) : StoreState :=
  let targets := config.policy.targets state.peers caller.dest
  { state with
    callers := state.callers.set index
      { caller with phase := if targets.isEmpty then .enqueue else .attempting targets } }

def attempt (index : Nat) (caller : Caller) (targets : List Target) (results : List Bool) :
    StoreState :=
  let state := { state with
    sends := state.sends ++ attemptSends config caller.dest caller.entry targets }
  if results.any id then
    { state with
      callers := state.callers.eraseIdx index
      sent := state.sent ++ [(caller.dest, caller.entry)] }
  else { state with callers := state.callers.set index { caller with phase := .enqueue } }

def full (dest : PeerId) : Bool :=
  match config.maxQueueDepth with
  | some max => max ≤ (state.queue dest).length
  | none => false

/-- `entry(..).or_default()` creates the queue even when the payload is refused. -/
def enqueue (index : Nat) (caller : Caller) : StoreState :=
  if state.full config caller.dest then
    { state with
      callers := state.callers.eraseIdx index
      pending := state.pending.insert caller.dest (state.queue caller.dest)
      storeFailed := state.storeFailed ++ [(caller.dest, caller.entry)] }
  else
    { state with
      callers := state.callers.eraseIdx index
      pending := state.pending.insert caller.dest (state.queue caller.dest ++ [caller.entry])
      enqueued := state.enqueued ++ [(caller.dest, caller.entry)] }

def setDrain (index : Nat) (drain : Drain) : StoreState :=
  { state with drains := state.drains.set index drain }

def newBatch (dest : PeerId) (entries : List Entry) : Batch where
  dest := dest
  todo := entries
  failures := []
  takenAt := state.enqueued.length
  view := none

def take (index : Nat) (dest : PeerId) (rest : List PeerId) : StoreState :=
  match state.pending.lookup dest with
  | none => state.setDrain index { rest := rest, batch := none }
  | some entries =>
      { state with pending := state.pending.erase dest }.setDrain index
        { rest := rest, batch := some (state.newBatch dest entries) }

/-- One turn of the loop over the batch. -/
def process (index : Nat) (rest : List PeerId) (batch : Batch) (now : Nat)
    (targets : List Target) (entry : Entry) (todo : List Entry) (results : List Bool) :
    StoreState :=
  let kept := { batch with todo := todo }
  let failing := { batch with todo := todo, failures := batch.failures ++ [entry] }
  -- `saturating_duration_since` is truncated subtraction.
  if config.storeTtl < now - entry.queuedAt then
    { state with storeFailed := state.storeFailed ++ [(batch.dest, entry)] }.setDrain index
      { rest := rest, batch := some kept }
  else if targets.isEmpty then state.setDrain index { rest := rest, batch := some failing }
  else
    let state := { state with
      sends := state.sends ++ attemptSends config batch.dest entry targets }
    if results.any id then
      { state with sent := state.sent ++ [(batch.dest, entry)] }.setDrain index
        { rest := rest, batch := some kept }
    else state.setDrain index { rest := rest, batch := some failing }

def finish (index : Nat) (rest : List PeerId) (batch : Batch) : StoreState :=
  let state := state.setDrain index { rest := rest, batch := none }
  if batch.failures.isEmpty then state
  else
    { state with
      pending := state.pending.insert batch.dest (batch.failures ++ state.queue batch.dest) }

end StoreState

def storeStep (config : StoreConfig) (state : StoreState) : StoreLabel → Option StoreState
  | .accept dest payload entropy now => some (state.accept dest payload entropy now)
  | .lookup index =>
      match state.callers[index]? with
      | some caller =>
          if caller.phase = .lookup then some (state.lookupTargets config index caller) else none
      | none => none
  | .attempt index results =>
      match state.callers[index]? with
      | some caller =>
          match caller.phase with
          | .attempting targets =>
              if results.length = targets.length then
                some (state.attempt config index caller targets results)
              else none
          | _ => none
      | none => none
  | .enqueue index =>
      match state.callers[index]? with
      | some caller =>
          if caller.phase = .enqueue then some (state.enqueue config index caller) else none
      | none => none
  | .spawnDrain dests =>
      if config.policy.visits state.pending.keys dests then
        some { state with drains := state.drains ++ [{ rest := dests, batch := none }] }
      else none
  | .take index =>
      match state.drains[index]? with
      | some { rest := dest :: rest, batch := none } => some (state.take index dest rest)
      | _ => none
  | .view index now =>
      match state.drains[index]? with
      | some { rest := rest, batch := some batch } =>
          if batch.view = none then
            some (state.setDrain index
              { rest := rest
                batch := some { batch with
                  view := some (now, config.policy.targets state.peers batch.dest) } })
          else none
      | _ => none
  | .process index results =>
      match state.drains[index]? with
      | some { rest := rest, batch := some batch } =>
          match batch.todo, batch.view with
          | entry :: todo, some (now, targets) =>
              if results.length = targets.length then
                some (state.process config index rest batch now targets entry todo results)
              else none
          | _, _ => none
      | _ => none
  | .finish index =>
      match state.drains[index]? with
      | some { rest := rest, batch := some batch } =>
          if batch.todo = [] ∧ batch.view ≠ none then some (state.finish index rest batch)
          else none
      | _ => none
  | .retire index =>
      match state.drains[index]? with
      | some { rest := [], batch := none } =>
          some { state with drains := state.drains.eraseIdx index }
      | _ => none
  | .changePeers peers => some { state with peers := peers }

/-! ## What the operations leave alone -/

section Frame

structure AttemptFrame (before after : StoreState) : Prop where
  pending : after.pending = before.pending
  peers : after.peers = before.peers
  drains : after.drains = before.drains
  accepted : after.accepted = before.accepted
  enqueued : after.enqueued = before.enqueued
  storeFailed : after.storeFailed = before.storeFailed

structure EnqueueFrame (before after : StoreState) : Prop where
  peers : after.peers = before.peers
  drains : after.drains = before.drains
  accepted : after.accepted = before.accepted
  sent : after.sent = before.sent
  sends : after.sends = before.sends

structure TakeFrame (before after : StoreState) : Prop where
  peers : after.peers = before.peers
  callers : after.callers = before.callers
  accepted : after.accepted = before.accepted
  enqueued : after.enqueued = before.enqueued
  sent : after.sent = before.sent
  storeFailed : after.storeFailed = before.storeFailed
  sends : after.sends = before.sends

structure ProcessFrame (before after : StoreState) : Prop where
  pending : after.pending = before.pending
  peers : after.peers = before.peers
  callers : after.callers = before.callers
  accepted : after.accepted = before.accepted
  enqueued : after.enqueued = before.enqueued

structure FinishFrame (before after : StoreState) : Prop where
  peers : after.peers = before.peers
  callers : after.callers = before.callers
  accepted : after.accepted = before.accepted
  enqueued : after.enqueued = before.enqueued
  sent : after.sent = before.sent
  storeFailed : after.storeFailed = before.storeFailed
  sends : after.sends = before.sends

variable {config : StoreConfig} (state : StoreState) (index now : Nat) (caller : Caller)
  (targets : List Target) (results : List Bool) (dest : PeerId) (rest : List PeerId)
  (batch : Batch) (entry : Entry) (todo : List Entry)

theorem attempt_frame :
    AttemptFrame state (state.attempt config index caller targets results) := by
  unfold StoreState.attempt
  dsimp only
  split_ifs <;> constructor <;> rfl

theorem enqueue_frame : EnqueueFrame state (state.enqueue config index caller) := by
  unfold StoreState.enqueue
  split_ifs <;> constructor <;> rfl

theorem enqueue_callers :
    (state.enqueue config index caller).callers = state.callers.eraseIdx index := by
  unfold StoreState.enqueue
  split_ifs <;> rfl

theorem take_frame : TakeFrame state (state.take index dest rest) := by
  unfold StoreState.take
  cases state.pending.lookup dest <;> constructor <;> rfl

theorem take_drains :
    (state.take index dest rest).drains = state.drains.set index
      { rest := rest, batch := (state.pending.lookup dest).map (state.newBatch dest) } := by
  unfold StoreState.take
  cases state.pending.lookup dest <;> rfl

theorem process_frame :
    ProcessFrame state
      (state.process config index rest batch now targets entry todo results) := by
  unfold StoreState.process
  dsimp only
  split_ifs <;> constructor <;> rfl

theorem finish_frame : FinishFrame state (state.finish index rest batch) := by
  unfold StoreState.finish
  dsimp only
  split_ifs <;> constructor <;> rfl

theorem finish_drains :
    (state.finish index rest batch).drains =
      state.drains.set index { rest := rest, batch := none } := by
  unfold StoreState.finish
  dsimp only
  split_ifs <;> rfl

theorem process_drains :
    (state.process config index rest batch now targets entry todo results).drains =
        state.drains.set index { rest := rest, batch := some { batch with todo := todo } } ∨
      (state.process config index rest batch now targets entry todo results).drains =
        state.drains.set index
          { rest := rest
            batch := some { batch with todo := todo, failures := batch.failures ++ [entry] } } := by
  unfold StoreState.process
  dsimp only
  split_ifs
  all_goals first | exact .inl rfl | exact .inr rfl

end Frame

/-! ## Queues -/

section Queues

variable {config : StoreConfig} (state : StoreState)

theorem queue_eq_of_pending {other : StoreState} (same : other.pending = state.pending)
    (dest : PeerId) : other.queue dest = state.queue dest := by
  rw [StoreState.queue, StoreState.queue, same]

theorem queue_enqueue (index : Nat) (caller : Caller) (dest : PeerId) :
    (state.enqueue config index caller).queue dest =
      if dest = caller.dest ∧ state.full config caller.dest = false then
        state.queue dest ++ [caller.entry]
      else state.queue dest := by
  unfold StoreState.enqueue
  by_cases full : state.full config caller.dest = true
  · rw [if_pos full, if_neg (by simp [full])]
    change ((state.pending.insert caller.dest (state.queue caller.dest)).lookup dest).getD [] = _
    rw [lookup_insert_getD]
    split_ifs with same
    · rw [same]
    · rfl
  · rw [if_neg full]
    change ((state.pending.insert caller.dest
      (state.queue caller.dest ++ [caller.entry])).lookup dest).getD [] = _
    rw [lookup_insert_getD]
    by_cases same : dest = caller.dest
    · rw [if_pos same, if_pos ⟨same, by simpa using full⟩, same]
    · rw [if_neg same, if_neg (fun both => same both.1)]
      rfl

theorem queue_take (index : Nat) (dest other : PeerId) (rest : List PeerId) :
    (state.take index dest rest).queue other = if other = dest then [] else state.queue other := by
  unfold StoreState.take StoreState.queue
  cases found : state.pending.lookup dest with
  | none =>
      split_ifs with same
      · subst same
        simp [StoreState.setDrain, found]
      · rfl
  | some entries =>
      split_ifs with same
      · subst same
        simp [StoreState.setDrain]
      · simp [StoreState.setDrain, AList.lookup_erase_ne same]

theorem queue_finish (index : Nat) (rest : List PeerId) (batch : Batch) (other : PeerId) :
    (state.finish index rest batch).queue other =
      if other = batch.dest then batch.failures ++ state.queue other else state.queue other := by
  unfold StoreState.finish
  dsimp only
  by_cases clean : batch.failures = []
  · simp only [clean, List.isEmpty_nil, if_true, List.nil_append, ite_self]
    rfl
  · simp only [List.isEmpty_iff, clean, if_false, StoreState.queue, lookup_insert_getD]
    split_ifs with same
    · rw [same]
      rfl
    · rfl

end Queues

theorem drains_set {property : Drain → Prop} {drains : List Drain} {index : Nat} {drain : Drain}
    (held : ∀ other ∈ drains, property other) (own : property drain) :
    ∀ other ∈ drains.set index drain, property other := by
  intro other listed
  rcases List.mem_or_eq_of_mem_set listed with old | rfl
  · exact held other old
  · exact own

/-! ## What a step can do -/

inductive StoreMove (config : StoreConfig) (state : StoreState) : StoreLabel → StoreState → Prop where
  | accepted {dest : PeerId} {payload : Bytes} {entropy : Octets 8} {now : Nat} :
      StoreMove config state (.accept dest payload entropy now)
        (state.accept dest payload entropy now)
  | looked {index : Nat} {caller : Caller} (present : state.callers[index]? = some caller)
      (phase : caller.phase = .lookup) :
      StoreMove config state (.lookup index) (state.lookupTargets config index caller)
  | attempted {index : Nat} {caller : Caller} {targets : List Target} {results : List Bool}
      (present : state.callers[index]? = some caller) (phase : caller.phase = .attempting targets)
      (complete : results.length = targets.length) :
      StoreMove config state (.attempt index results)
        (state.attempt config index caller targets results)
  | enqueued {index : Nat} {caller : Caller} (present : state.callers[index]? = some caller)
      (phase : caller.phase = .enqueue) :
      StoreMove config state (.enqueue index) (state.enqueue config index caller)
  | spawned {dests : List PeerId} :
      StoreMove config state (.spawnDrain dests)
        { state with drains := state.drains ++ [{ rest := dests, batch := none }] }
  | took {index : Nat} {dest : PeerId} {rest : List PeerId}
      (present : state.drains[index]? = some { rest := dest :: rest, batch := none }) :
      StoreMove config state (.take index) (state.take index dest rest)
  | viewed {index now : Nat} {rest : List PeerId} {batch : Batch}
      (present : state.drains[index]? = some { rest := rest, batch := some batch })
      (unread : batch.view = none) :
      StoreMove config state (.view index now)
        (state.setDrain index
          { rest := rest
            batch := some { batch with
              view := some (now, config.policy.targets state.peers batch.dest) } })
  | processed {index now : Nat} {rest : List PeerId} {batch : Batch} {targets : List Target}
      {entry : Entry} {todo : List Entry} {results : List Bool}
      (present : state.drains[index]? = some { rest := rest, batch := some batch })
      (head : batch.todo = entry :: todo) (read : batch.view = some (now, targets))
      (complete : results.length = targets.length) :
      StoreMove config state (.process index results)
        (state.process config index rest batch now targets entry todo results)
  | finished {index : Nat} {rest : List PeerId} {batch : Batch}
      (present : state.drains[index]? = some { rest := rest, batch := some batch })
      (done : batch.todo = []) :
      StoreMove config state (.finish index) (state.finish index rest batch)
  | retired {index : Nat}
      (present : state.drains[index]? = some { rest := [], batch := none }) :
      StoreMove config state (.retire index)
        { state with drains := state.drains.eraseIdx index }
  | peersChanged {peers : PeerTable} :
      StoreMove config state (.changePeers peers) { state with peers := peers }

theorem store_step_moves {config : StoreConfig} {state next : StoreState} {label : StoreLabel}
    (taken : storeStep config state label = some next) : StoreMove config state label next := by
  cases label with
  | accept dest payload entropy now =>
      cases taken
      exact .accepted
  | lookup index =>
      simp only [storeStep] at taken
      split at taken
      · split_ifs at taken with phase
        cases taken
        exact .looked (by assumption) phase
      · cases taken
  | attempt index results =>
      simp only [storeStep] at taken
      split at taken
      · split at taken
        · split_ifs at taken with complete
          cases taken
          exact .attempted (by assumption) (by assumption) complete
        · cases taken
      · cases taken
  | enqueue index =>
      simp only [storeStep] at taken
      split at taken
      · split_ifs at taken with phase
        cases taken
        exact .enqueued (by assumption) phase
      · cases taken
  | spawnDrain dests =>
      simp only [storeStep] at taken
      split_ifs at taken
      cases taken
      exact .spawned
  | take index =>
      simp only [storeStep] at taken
      split at taken
      · cases taken
        exact .took (by assumption)
      · cases taken
  | view index now =>
      simp only [storeStep] at taken
      split at taken
      · split_ifs at taken with unread
        cases taken
        exact .viewed (by assumption) unread
      · cases taken
  | process index results =>
      simp only [storeStep] at taken
      split at taken
      · split at taken
        · split_ifs at taken with complete
          cases taken
          exact .processed (by assumption) (by assumption) (by assumption) complete
        · cases taken
      · cases taken
  | finish index =>
      simp only [storeStep] at taken
      split at taken
      · split_ifs at taken with done
        cases taken
        exact .finished (by assumption) done.1
      · cases taken
  | retire index =>
      simp only [storeStep] at taken
      split at taken
      · cases taken
        exact .retired (by assumption)
      · cases taken
  | changePeers peers =>
      cases taken
      exact .peersChanged

/-! ## Sample runs -/

def openStore : StoreConfig where
  policy := directStore
  maxQueueDepth := none
  storeTtl := storeTtlDefault

def callAndEnqueue (payload : Bytes) : List StoreLabel :=
  [.accept (samplePeer 2) payload sampleEntropy 0, .lookup 0,
    .attempt 0 [false], .enqueue 0]

def startDrain (index : Nat) : List StoreLabel := [.spawnDrain [samplePeer 2], .take index]

def failDrain (index : Nat) : List StoreLabel :=
  [.view index 5, .process index [false], .finish index]

def knownPeer : PeerTable := upsertPeerAddresses ∅ (samplePeer 2) [.ble "b"]

/-- The second payload is enqueued while a drain holds the first. -/
def enqueueDuringDrain : List StoreLabel :=
  callAndEnqueue [1] ++ startDrain 0 ++ callAndEnqueue [2] ++ failDrain 0

end Pathweave
