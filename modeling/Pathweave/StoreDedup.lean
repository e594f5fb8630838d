import Pathweave.DispatchPayload
import Pathweave.StoreConservation

/-!
# Stored payloads at the receiver

The sender keeps a payload for up to `store_ttl` and sends it under one message id
each time; the receiver forgets an id after the lifetime of its deduplication
cache. A send counts as failed when its ACK is lost, so its copy may have arrived.
Copies of every send arrive in any order and number, among other traffic, on the
receiver's monotonic clock.
-/

namespace Pathweave

open ByteStrings GuardedRuns

set_option autoImplicit false

variable {prims : Primitives}

/-! ## The system -/

structure Arrival where
  entry : Entry
  time : Nat
  delivered : Option (PeerId × Bytes)
  deriving DecidableEq

structure DeliveryState (prims : Primitives) where
  store : StoreState
  receiver : NodeState prims
  clock : Nat
  arrivals : List Arrival

inductive DeliveryLabel where
  | store (label : StoreLabel)
  | arrive (send now : Nat)
  | other (origin : PeerId) (payload : Bytes) (now : Nat)
  | configure (handlerRegistered : Bool) (peers : PeerTable) (keyRegistry : KeyRegistryState)

namespace DeliveryState

variable (state : DeliveryState prims)

def start (peers : PeerTable) (receiver : NodeState prims) : DeliveryState prims where
  store := .start peers
  receiver := receiver
  clock := 0
  arrivals := []

def receive (origin : PeerId) (payload : Bytes) (now : Nat) : Option (DispatchOutcome prims) :=
  if state.clock ≤ now then
    match dispatchPayload state.receiver origin now payload with
    | .ok outcome => some outcome
    | .error _ => none
  else none

def invocations (entry : Entry) : List Arrival :=
  state.arrivals.filter fun arrival => arrival.entry = entry ∧ arrival.delivered.isSome

end DeliveryState

def deliveryStep (config : StoreConfig) (sender : PeerId) (state : DeliveryState prims) :
    DeliveryLabel → Option (DeliveryState prims)
  | .store label =>
      (storeStep config state.store label).map fun store => { state with store := store }
  | .arrive index now =>
      match state.store.sends[index]? with
      | some (entry, send) =>
          if send.peerId = state.receiver.localPeerId then
            (state.receive sender (frameMessage send.messageId send.payload) now).map fun outcome =>
              { state with
                receiver := outcome.node
                clock := now
                arrivals := state.arrivals ++
                  [{ entry := entry, time := now, delivered := outcome.delivered }] }
          else none
      | none => none
  | .other origin payload now =>
      (state.receive origin payload now).map fun outcome =>
        { state with receiver := outcome.node, clock := now }
  | .configure handlerRegistered peers keyRegistry =>
      some { state with
        receiver := { state.receiver with
          handlerRegistered := handlerRegistered
          peers := peers
          keyRegistry := keyRegistry } }

/-- However often a stored payload is transmitted, its receiver handles it once. -/
def StoredAtMostOnce : Prop :=
  ∀ (prims : Primitives) (config : StoreConfig) (sender : PeerId) (peers : PeerTable)
    (receiver : NodeState prims) (labels : List DeliveryLabel) (state : DeliveryState prims),
    config.policy = directStore → config.storeTtl = storeTtlDefault → receiver.dedup = .new →
    Run (deliveryStep config sender) anyStep (.start peers receiver) labels state →
    ∀ dest entry, (dest, entry) ∈ state.store.accepted → (state.invocations entry).length ≤ 1

/-- Copies of a payload arrive within the lifetime of the cache, counted from every
earlier one. -/
def arrivesInWindow (state : DeliveryState prims) : DeliveryLabel → Prop
  | .arrive index now =>
      ∀ record ∈ state.store.sends[index]?, ∀ earlier ∈ state.arrivals,
        earlier.entry = record.1 → now < earlier.time + state.receiver.dedup.ttl
  | _ => True

instance (state : DeliveryState prims) (label : DeliveryLabel) :
    Decidable (arrivesInWindow state label) :=
  match label with
  | .arrive index now =>
      inferInstanceAs (Decidable (∀ record ∈ state.store.sends[index]?,
        ∀ earlier ∈ state.arrivals, earlier.entry = record.1 →
          now < earlier.time + state.receiver.dedup.ttl))
  | .store _ | .other .. | .configure .. => .isTrue trivial

/-! ## The invariant -/

section Preservation

variable {config : StoreConfig} {sender : PeerId} {state next : DeliveryState prims}
  {label : DeliveryLabel}

def SendsDirect (state : StoreState) : Prop :=
  ∀ record ∈ state.sends,
    frameMessage record.2.messageId record.2.payload =
      frameMessage record.1.msgId (directBody record.1.payload)

/-- The receiver still remembers what it handled, unless its window has passed. -/
def Remembered (sender : PeerId) (state : DeliveryState prims) : Prop :=
  ∀ arrival ∈ state.arrivals, arrival.delivered.isSome →
    state.receiver.dedup.seen (sender, arrival.entry.msgId) = some arrival.time ∨
      arrival.time + state.receiver.dedup.ttl ≤ state.clock

structure HandledOnce (sender : PeerId) (state : DeliveryState prims) : Prop where
  framed : SendsDirect state.store
  remembered : Remembered sender state
  once : ∀ entry, (state.invocations entry).length ≤ 1

theorem sends_direct_step {before after : StoreState} {label : StoreLabel}
    (direct : config.policy = directStore) (framed : SendsDirect before)
    (moved : StoreMove config before label after) : SendsDirect after := by
  intro record listed
  rcases sends_step moved with same | ⟨dest, entry, targets, -, appended⟩
  · exact framed record (same ▸ listed)
  · rw [appended] at listed
    rcases List.mem_append.mp listed with earlier | now
    · exact framed record earlier
    · rcases mem_attempt_sends now with ⟨rfl, sameId, sameBody⟩
      rw [sameId, sameBody, direct]
      rfl

theorem receive_outcome {origin : PeerId} {payload : Bytes} {now : Nat}
    {outcome : DispatchOutcome prims} (received : state.receive origin payload now = some outcome) :
    state.clock ≤ now ∧
      outcome = frameOutcome state.receiver origin now (parseFrame payload) := by
  unfold DeliveryState.receive at received
  rw [dispatch_payload_eq] at received
  split_ifs at received with later
  exact ⟨later, (Option.some.inj received).symm⟩

theorem remembered_frame {origin : PeerId} {now : Nat} {frame : Frame}
    (remembered : Remembered sender state) (later : state.clock ≤ now) :
    Remembered sender { state with
      receiver := (frameOutcome state.receiver origin now frame).node
      clock := now } := by
  intro arrival listed delivered
  simp only [(frame_outcome_setting state.receiver origin now frame).lifetime]
  rcases remembered arrival listed delivered with entry | passed
  · exact frame_outcome_seen _ _ _ entry
  · exact .inr (passed.trans later)

theorem first_invocation {entry : Entry} {send : RouterSend} {index now : Nat}
    (remembered : Remembered sender state) (later : state.clock ≤ now)
    (sent : state.store.sends[index]? = some (entry, send))
    (allowed : arrivesInWindow state (.arrive index now))
    (delivered : (frameOutcome state.receiver sender now
      (.direct entry.msgId entry.payload)).delivered.isSome) :
    state.invocations entry = [] := by
  apply List.filter_eq_nil_iff.mpr
  intro earlier listed handled
  rcases of_decide_eq_true handled with ⟨same, before⟩
  have recent := allowed _ sent earlier listed same
  rcases remembered earlier listed before with cached | passed
  · rw [same] at cached
    have expired := (direct_outcome_delivered _ _ _ delivered).1 _ cached
    omega
  · omega

theorem handled_once_arrive {entry : Entry} {send : RouterSend} {index now : Nat}
    {outcome : DispatchOutcome prims} (handled : HandledOnce sender state)
    (sent : state.store.sends[index]? = some (entry, send))
    (received : state.receive sender (frameMessage send.messageId send.payload) now = some outcome)
    (allowed : arrivesInWindow state (.arrive index now)) :
    HandledOnce sender { state with
      receiver := outcome.node
      clock := now
      arrivals := state.arrivals ++
        [{ entry := entry, time := now, delivered := outcome.delivered }] } := by
  rcases handled with ⟨framed, remembered, once⟩
  rcases receive_outcome received with ⟨later, processed⟩
  have frame := framed _ (List.mem_of_getElem? sent)
  dsimp only at frame
  rw [frame, parse_direct] at processed
  subst processed
  refine ⟨framed, ?_, ?_⟩
  · intro arrival listed delivered
    rcases List.mem_append.mp listed with old | new
    · exact remembered_frame remembered later arrival old delivered
    · cases List.mem_singleton.mp new
      exact .inl (direct_outcome_delivered _ _ _ delivered).2
  · intro other
    simp only [DeliveryState.invocations, List.filter_append, List.length_append]
    by_cases counted : entry = other ∧
        (frameOutcome state.receiver sender now (.direct entry.msgId entry.payload)).delivered.isSome
    · -- The copy is delivered, so no earlier one was.
      rcases counted with ⟨rfl, delivered⟩
      have none := first_invocation remembered later sent allowed delivered
      unfold DeliveryState.invocations at none
      rw [none, List.length_nil, zero_add]
      exact List.length_filter_le _ _
    · have skipped : ([{ entry := entry, time := now, delivered := (frameOutcome state.receiver
          sender now (.direct entry.msgId entry.payload)).delivered }] : List Arrival).filter
            (fun arrival => arrival.entry = other ∧ arrival.delivered.isSome) = [] := by
        simpa using counted
      rw [skipped]
      exact once other

theorem handled_once_step (direct : config.policy = directStore)
    (handled : HandledOnce sender state) (allowed : arrivesInWindow state label)
    (taken : deliveryStep config sender state label = some next) : HandledOnce sender next := by
  cases label with
  | store label =>
      obtain ⟨store, stepped, rfl⟩ := Option.map_eq_some_iff.mp taken
      exact ⟨sends_direct_step direct handled.framed (store_step_moves stepped),
        handled.remembered, handled.once⟩
  | arrive index now =>
      simp only [deliveryStep] at taken
      split at taken
      · split_ifs at taken
        obtain ⟨outcome, received, rfl⟩ := Option.map_eq_some_iff.mp taken
        exact handled_once_arrive handled (by assumption) received allowed
      · cases taken
  | other origin payload now =>
      obtain ⟨outcome, received, rfl⟩ := Option.map_eq_some_iff.mp taken
      rcases receive_outcome received with ⟨later, rfl⟩
      exact ⟨handled.framed, remembered_frame handled.remembered later, handled.once⟩
  | configure handlerRegistered peers keyRegistry =>
      cases taken
      exact ⟨handled.framed, handled.remembered, handled.once⟩

end Preservation

/-! ## Whole runs -/

/-- As long as every copy of a payload is processed within the lifetime of the
receiver's cache after the first, its handler is called at most once for it. -/
theorem stored_payload_handled_once (config : StoreConfig) (direct : config.policy = directStore)
    (sender : PeerId) (peers : PeerTable) (receiver : NodeState prims)
    (labels : List DeliveryLabel) (state : DeliveryState prims)
    (run : Run (deliveryStep config sender) arrivesInWindow (.start peers receiver) labels state)
    (entry : Entry) : (state.invocations entry).length ≤ 1 := by
  have handled : HandledOnce sender state := by
    refine run_invariant (HandledOnce sender) ?_ run ?_
    · intro before label after handled allowed taken
      exact handled_once_step direct handled allowed taken
    · constructor <;>
        simp [DeliveryState.start, StoreState.start, SendsDirect, Remembered,
          DeliveryState.invocations]
  exact handled.once entry

/-- The immediate attempt arrives and its ACK is lost; a drain sends the payload
again at the given time, and that copy arrives too. -/
def resentAt (time : Nat) : List DeliveryLabel :=
  (callAndEnqueue [42]).map .store ++ [.arrive 0 0] ++ (startDrain 0).map .store ++
    [.store (.view 0 time), .store (.process 0 [true]), .arrive 1 time]

theorem stored_payload_handled_once_soon :
    ∃ state, Run (deliveryStep openStore (samplePeer 1)) arrivesInWindow
        (.start knownPeer (sampleNode 2 [1] [])) (resentAt (seconds 59)) state ∧
      state.arrivals.map (fun arrival => arrival.delivered.isSome) = [true, false] ∧
      ∀ entry, (state.invocations entry).length ≤ 1 := by
  have finished : ((execute (fun state label =>
      if arrivesInWindow state label then deliveryStep openStore (samplePeer 1) state label
      else none) (.start knownPeer (sampleNode 2 [1] [])) (resentAt (seconds 59))).map
        fun state => state.arrivals.map (fun arrival => arrival.delivered.isSome)) =
        some [true, false] := by
    decide +kernel
  obtain ⟨state, reached, found⟩ := Option.map_eq_some_iff.mp finished
  have run := run_of_execute_guarded reached
  exact ⟨state, run, found,
    stored_payload_handled_once openStore rfl (samplePeer 1) knownPeer _ _ state run⟩

/-- A minute later the receiver has forgotten the id, while the sender keeps the
payload for a day. -/
theorem stored_payload_handled_twice : ¬ StoredAtMostOnce := by
  intro once
  have finished : ((execute (deliveryStep openStore (samplePeer 1))
      (.start knownPeer (sampleNode 2 [1] [])) (resentAt (seconds 61))).map fun state =>
        state.store.accepted.map fun item => (state.invocations item.2).length) = some [2] := by
    decide +kernel
  obtain ⟨state, reached, found⟩ := Option.map_eq_some_iff.mp finished
  rcases List.mem_map.mp (found ▸ List.mem_singleton_self 2) with
    ⟨⟨dest, entry⟩, accepted, twice⟩
  have atMost := once clearPrimitives openStore (samplePeer 1) knownPeer _ _ state rfl rfl rfl
    (run_of_execute reached) dest entry accepted
  dsimp only at twice
  omega

end Pathweave
