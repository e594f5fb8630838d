import Pathweave.NodeTasks

/-!
# Keys stay with their peers

Handshakes, gossip and evictions of all tasks write one registry. Every writer
keeps the binding between a `PeerId` and the hash of its key, so a key that is
evicted, relearned or refreshed comes back unchanged.
-/

namespace Pathweave

open ByteStrings GuardedRuns

set_option autoImplicit false

variable {prims : Primitives}

inductive RegistryChange (node : NodeState prims) : KeyRegistryState → Prop where
  | kept : RegistryChange node node.keyRegistry
  | evicted (peer : PeerId) : RegistryChange node (node.keyRegistry.remove peer)
  | learned (session : Session prims) :
      RegistryChange node
        (node.keyRegistry.insertDirect session.peerId session.remoteStaticKey).1
  | dispatched (sender : PeerId) (now : Nat) (frame : Frame) :
      RegistryChange node (frameOutcome node sender now frame).node.keyRegistry

theorem node_move_registry {state next : NodeWorld prims} {label : NodeLabel}
    (moved : NodeMove state label next) :
    RegistryChange state.node next.node.keyRegistry := by
  cases moved with
  | accepted session => exact .learned session
  | dialed present => exact .learned _
  | connectDialed present => exact .learned _
  | refused present => exact .evicted _
  | dispatched present serves later => exact .dispatched _ _ _
  | _ => exact .kept

theorem bound_change {node : NodeState prims} {registry : KeyRegistryState}
    (bound : KeyRegistryState.Bound prims node.keyRegistry)
    (change : RegistryChange node registry) : KeyRegistryState.Bound prims registry := by
  cases change with
  | kept => exact bound
  | evicted peer => exact KeyRegistryState.bound_remove bound peer
  | learned session =>
      rw [session.bound]
      exact KeyRegistryState.bound_insert_direct bound session.remoteStaticKey
  | dispatched sender now frame => exact frame_outcome_bound bound

theorem bound_run {guard : NodeWorld prims → NodeLabel → Prop} {first last : NodeWorld prims}
    {labels : List NodeLabel} (run : Run nodeStep guard first labels last)
    (bound : KeyRegistryState.Bound prims first.node.keyRegistry) :
    KeyRegistryState.Bound prims last.node.keyRegistry := by
  induction run with
  | start => exact bound
  | extend prior allowed taken ih =>
      exact bound_change ih (node_move_registry (node_step_moves taken))

/-- Every entry of every reachable registry is bound to its key. If no two keys
share a `PeerId`, then whatever happens in between, two states of a run never
disagree on the key of a peer. -/
theorem registry_keys_bound_and_stable {identity : NodeIdentity prims} {peers : PeerTable}
    {maxKeyRegistrySize : Option Nat} {labels : List NodeLabel} {state : NodeWorld prims}
    (run : Run nodeStep anyStep (.start identity peers maxKeyRegistrySize) labels state) :
    KeyRegistryState.Bound prims state.node.keyRegistry ∧
      (Function.Injective (peerIdFromPublicKey prims) →
        ∀ (laterLabels : List NodeLabel) (later : NodeWorld prims),
          Run nodeStep anyStep state laterLabels later →
          ∀ peer key laterKey, state.node.keyRegistry.get peer = some key →
            later.node.keyRegistry.get peer = some laterKey → laterKey = key) := by
  have bound : KeyRegistryState.Bound prims state.node.keyRegistry :=
    bound_run run (KeyRegistryState.bound_empty maxKeyRegistrySize)
  apply And.intro bound
  intro injective laterLabels later continued peer key laterKey known relearned
  apply injective
  exact (bound_run continued bound peer laterKey relearned).symm.trans (bound peer key known)

/-! ## A run with a forged announcement and an eviction -/

theorem clear_peer_id_injective : Function.Injective (peerIdFromPublicKey clearPrimitives) := by
  intro key other same
  rw [clear_peer_id, clear_peer_id] at same
  exact PeerId.mk.inj same

/-- Peer 9 connects and then claims that its key belongs to peer 2. -/
def forgedIntroduction : List NodeLabel :=
  [.accept (samplePeer 9).octets, .proceed 0,
    .receive 0 (frameMessage (newMessageId sampleEntropy)
      (encodeKeyAnnouncement (samplePeer 2) (samplePeer 9).octets 3)) 0]

/-- Peer 9's key is evicted by a failed handshake and learned again. -/
def evictionAndReturn : List NodeLabel :=
  [.call { announcements := [], payload := [], peerId := samplePeer 9, messageId := 6 },
    .proceed 1,
    .handshake 1 { staticKey := (samplePeer 3).octets
                   refusal := fun _ => some (.noise "decrypt error")
                   authentic := fun _ accepted => nomatch accepted },
    .accept (samplePeer 9).octets]

theorem registry_keys_stable_after_eviction :
    ∃ state later : NodeWorld clearPrimitives,
      Run nodeStep anyStep freshNode forgedIntroduction state ∧
      Run nodeStep anyStep state evictionAndReturn later ∧
      state.node.keyRegistry.get (samplePeer 2) = none ∧
      later.node.keyRegistry.get (samplePeer 9) = some (samplePeer 9).octets ∧
      KeyRegistryState.Bound clearPrimitives state.node.keyRegistry ∧
      ∀ peer key laterKey, state.node.keyRegistry.get peer = some key →
        later.node.keyRegistry.get peer = some laterKey → laterKey = key := by
  have finished : ((execute nodeStep freshNode forgedIntroduction).bind fun state =>
      (execute nodeStep state evictionAndReturn).map fun later =>
        (state.node.keyRegistry.get (samplePeer 2),
          later.node.keyRegistry.get (samplePeer 9))) =
      some (none, some (samplePeer 9).octets) := by
    decide +kernel
  obtain ⟨state, reached, continued⟩ := Option.bind_eq_some_iff.mp finished
  obtain ⟨later, returned, found⟩ := Option.map_eq_some_iff.mp continued
  have front : Run nodeStep anyStep freshNode forgedIntroduction state := run_of_execute reached
  have back : Run nodeStep anyStep state evictionAndReturn later := run_of_execute returned
  rcases registry_keys_bound_and_stable front with ⟨bound, stable⟩
  exact ⟨state, later, front, back, congrArg Prod.fst found, congrArg Prod.snd found, bound,
    stable clear_peer_id_injective _ later back⟩

end Pathweave
