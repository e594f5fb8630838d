import Pathweave.FloodWaves
import Pathweave.KeyAnnouncements
import Pathweave.KeyRegistryHistory

/-!
# Where a gossiped key arrives

`flood_key_announcement` sends the announcement of a learned key to every neighbour but
its owner. A node that records the announcement has inserted the key, and in a registry
without a bound nothing takes it out again: another announcement for the same peer
passes the self-certifying check only with the same key.
-/

namespace Pathweave

open ByteStrings GuardedRuns

set_option autoImplicit false

variable {prims : Primitives}

/-! ## Registries without a bound -/

theorem get_insert_unbounded {registry : KeyRegistryState} (unbounded : registry.maxSize = none)
    (peer other : PeerId) (key : PublicKey) :
    (registry.insertGossip peer key).get other =
      if other = peer then some key else registry.get other := by
  unfold KeyRegistryState.insertGossip
  split_ifs with known same same
  · subst same
    simp [KeyRegistryState.get]
  · simp [KeyRegistryState.get, AList.lookup_insert_ne same]
  all_goals
    simp only [unbounded]
    rw [KeyRegistryState.get_append_gossip]
    simp [same]

/-- What a dispatch can do to the registry of its node. -/
inductive RegistryEffect (node : NodeState prims) (frame : Frame) (after : NodeState prims) :
    Prop where
  | same (kept : after.keyRegistry = node.keyRegistry)
  | announced {messageId : UInt64} {peer : PeerId} {key : PublicKey} {ttl : UInt8}
      (parsed : frame = .routed messageId (.announcement peer key) ttl)
      (valid : peerIdFromPublicKey prims key = peer)
      (inserted : after.keyRegistry = node.keyRegistry.insertGossip peer key)

section Dispatch

variable {node : NodeState prims} {sender : PeerId} {now : Nat} {frame : Frame}

theorem frame_outcome_registry :
    RegistryEffect node frame (frameOutcome node sender now frame).node := by
  cases frame with
  | direct messageId payload =>
      simp only [frameOutcome]
      split_ifs <;> exact .same rfl
  | routed messageId content ttl =>
      simp only [frameOutcome, routedOutcome]
      split_ifs with forged
      all_goals try exact .same rfl
      cases content with
      | announcement peer key =>
          exact .announced rfl (by simpa [Routed.genuine, validateKeyAnnouncement] using forged) rfl
      | message dest payload => exact .same rfl
      | sealedMessage dest sealedSender noiseMessage => exact .same rfl
  | skipped => exact .same rfl

end Dispatch

/-! ## What the nodes of a mesh know -/

section Mesh

variable {mesh : Mesh prims} {state next : MeshState prims} {label : MeshLabel}
  {subject : PeerId} {key : PublicKey} {messageId : UInt64}

def MeshState.Unbounded (state : MeshState prims) : Prop :=
  ∀ peer, (state.nodes peer).keyRegistry.maxSize = none

theorem dispatch_unbounded {node after : NodeState prims} {frame : Frame}
    (effect : RegistryEffect node frame after) (unbounded : node.keyRegistry.maxSize = none) :
    after.keyRegistry.maxSize = none := by
  cases effect with
  | same kept => rw [kept, unbounded]
  | announced parsed valid inserted => rw [inserted, insert_gossip_max_size, unbounded]

theorem unbounded_step (unbounded : state.Unbounded) (moved : MeshMove mesh state label next) :
    next.Unbounded := by
  cases moved with
  | @delivered index now again copy present member budget =>
      intro peer
      by_cases here : peer = copy.receiver
      · subst here
        rw [process_nodes_self]
        exact dispatch_unbounded frame_outcome_registry (unbounded copy.receiver)
      · rw [process_nodes_of_ne _ _ _ here]
        exact unbounded peer
  | lost inside => exact unbounded

theorem dispatch_knows {node after : NodeState prims} {frame : Frame}
    (unique : ∀ other, peerIdFromPublicKey prims other = subject → other = key)
    (unbounded : node.keyRegistry.maxSize = none) (effect : RegistryEffect node frame after)
    (known : node.keyRegistry.get subject = some key) :
    after.keyRegistry.get subject = some key := by
  cases effect with
  | same kept => rw [kept, known]
  | @announced messageId peer announced ttl parsed valid inserted =>
      rw [inserted, get_insert_unbounded unbounded]
      split_ifs with same
      · rw [unique announced (valid.trans same.symm)]
      · exact known

theorem knows_step
    (unique : ∀ other, peerIdFromPublicKey prims other = subject → other = key)
    (unbounded : state.Unbounded) (moved : MeshMove mesh state label next) {peer : PeerId}
    (known : (state.nodes peer).keyRegistry.get subject = some key) :
    (next.nodes peer).keyRegistry.get subject = some key := by
  cases moved with
  | @delivered index now again copy present member budget =>
      by_cases here : peer = copy.receiver
      · subst here
        rw [process_nodes_self]
        exact dispatch_knows unique (unbounded _) frame_outcome_registry known
      · rw [process_nodes_of_ne _ _ _ here]
        exact known
  | lost inside => exact known

def Taught (subject : PeerId) (key : PublicKey) (messageId : UInt64) (state : MeshState prims) :
    Prop :=
  ∀ peer, (state.nodes peer).hasSeen messageId →
    (state.nodes peer).keyRegistry.get subject = some key

theorem recorded_taught {node : NodeState prims} {sender : PeerId} {now : Nat} {ttl : UInt8}
    (unexpired : node.Unexpired now) (unbounded : node.keyRegistry.maxSize = none)
    (new : ¬ node.hasSeen messageId)
    (marked : (routedOutcome node sender now messageId (.announcement subject key) ttl).node.hasSeen
      messageId) :
    (routedOutcome node sender now messageId (.announcement subject key) ttl).node.keyRegistry.get
      subject = some key := by
  have effect := routed_outcome_effect node sender now messageId (.announcement subject key) ttl
    unexpired
  generalize routedOutcome node sender now messageId (.announcement subject key) ttl = outcome
    at effect marked ⊢
  cases effect with
  | ignored why => exact absurd marked new
  | arrived genuine here new => cases here
  | passed genuine elsewhere alive new =>
      change (node.keyRegistry.insertGossip subject key).get subject = some key
      rw [get_insert_unbounded unbounded, if_pos rfl]

theorem taught_step
    (unique : ∀ other, peerIdFromPublicKey prims other = subject → other = key)
    (unbounded : state.Unbounded)
    (copies : ∀ copy ∈ state.inFlight, CarriesOnly messageId (.announcement subject key) copy)
    (taught : Taught subject key messageId state) (allowed : noExpiry state label)
    (moved : MeshMove mesh state label next) : Taught subject key messageId next := by
  intro peer seen
  by_cases before : (state.nodes peer).hasSeen messageId
  · exact knows_step unique unbounded moved (taught peer before)
  cases moved with
  | @delivered index now again copy present member budget =>
      rcases newly_seen (allowed copy present) seen with old | ⟨rfl, flooded, marked⟩
      · exact absurd old before
      · obtain ⟨ttl, parsed⟩ := copies copy (List.mem_of_getElem? present) flooded
        rw [process_nodes_self]
        simp only [MeshState.outcome, parsed, frameOutcome] at marked ⊢
        exact recorded_taught (allowed copy present) (unbounded _) before marked
  | lost inside => exact absurd seen before

/-! ## The flood of an announcement -/

/-- The frames that a node puts on the mesh for a key it learned. -/
def Mesh.announce (mesh : Mesh prims) (originator : PeerId) (entropy : Octets 8)
    (subject : PeerId) (key : PublicKey) : List Transmission :=
  (floodKeyAnnouncement entropy (mesh.nodes originator).peers originator subject key).map
    (transmit mesh.retries originator [])

/-- Somebody has flooded the key of a peer, and a path of at most eight hops leads from
there to a reader. The flood leaves out the owner of the key. -/
structure Heralded (mesh : Mesh prims) (graph : SimpleGraph PeerId) (subject : PeerId)
    (key : PublicKey) (reader : PeerId) (start : MeshState prims) where
  herald : PeerId
  entropy : Octets 8
  path : graph.Walk herald reader
  member : herald ∈ mesh.members
  distinct : reader ≠ herald
  simple : path.IsPath
  short : path.length ≤ 8
  avoids : path.getVert 1 ≠ subject
  launched : Launched (newMessageId entropy) (mesh.announce herald entropy subject key) start

section Flood

variable {graph : SimpleGraph PeerId} {reader : PeerId} {start : MeshState prims}

def Heralded.floodId (heralded : Heralded mesh graph subject key reader start) : UInt64 :=
  newMessageId heralded.entropy

structure GossipWave (heralded : Heralded mesh graph subject key reader start)
    (state : MeshState prims) : Prop where
  wave : FloodWave mesh heralded.floodId (.announcement subject key) heralded.path state
  unbounded : state.Unbounded
  taught : Taught subject key heralded.floodId state

variable (heralded : Heralded mesh graph subject key reader start)

theorem announcement_passes {originator : PeerId} (path : graph.Walk originator reader)
    (valid : peerIdFromPublicKey prims key = subject) :
    PassesAlong prims (.announcement subject key) path where
  genuine := by simpa [Routed.genuine, validateKeyAnnouncement] using valid
  inner := fun _ _ _ => by simp [Routed.destination]
  kept := .inl rfl

theorem gossip_wave_step (graphMesh : GraphMesh mesh graph)
    (valid : peerIdFromPublicKey prims key = subject)
    (unique : ∀ other, peerIdFromPublicKey prims other = subject → other = key)
    (gossip : GossipWave heralded state)
    (allowed : reliable state label ∧ inTime heralded.floodId heralded.path state label)
    (moved : MeshMove mesh state label next) : GossipWave heralded next where
  wave := wave_step graphMesh heralded.simple (announcement_passes _ valid) gossip.wave allowed
    moved
  unbounded := unbounded_step gossip.unbounded moved
  taught := taught_step unique gossip.unbounded gossip.wave.copies gossip.taught allowed.1.1 moved

theorem gossip_wave_starts (graphMesh : GraphMesh mesh graph) (same : mesh.SameSettings start)
    (unbounded : start.Unbounded) : GossipWave heralded start := by
  have positive : 0 < heralded.path.length := by
    rw [Nat.pos_iff_ne_zero]
    exact fun empty => heralded.distinct (heralded.path.eq_of_length_eq_zero empty).symm
  have adjacent := heralded.path.adj_getVert_succ positive
  rw [heralded.path.getVert_zero] at adjacent
  have toward : ∃ send ∈ floodKeyAnnouncement heralded.entropy (mesh.nodes heralded.herald).peers
      heralded.herald subject key, send.peerId = heralded.path.getVert 1 :=
    spawned_relay_exists ((graphMesh.tables _ heralded.member _).mpr adjacent) heralded.avoids
      adjacent.ne.symm
  refine ⟨wave_starts heralded.short same heralded.launched ?_ toward, unbounded, ?_⟩
  · intro send sent
    rcases mem_spawned_relays sent with ⟨body, sendId, -⟩
    exact ⟨body, sendId⟩
  · exact fun peer seen => absurd seen (heralded.launched.unseen peer)

theorem gossip_arrives (graphMesh : GraphMesh mesh graph)
    (valid : peerIdFromPublicKey prims key = subject)
    (unique : ∀ other, peerIdFromPublicKey prims other = subject → other = key)
    (same : mesh.SameSettings start) (unbounded : start.Unbounded) {labels : List MeshLabel}
    (run : Run (meshStep mesh)
      (fun before label => reliable before label ∧
        inTime heralded.floodId heralded.path before label) start labels state)
    (gone : ∀ copy ∈ state.inFlight, (parseFrame copy.frame).floodId ≠ some heralded.floodId) :
    mesh.SameSettings state ∧ state.Unbounded ∧
      (state.nodes reader).keyRegistry.get subject = some key := by
  have final := run_invariant (GossipWave heralded)
    (fun _ _ _ held allowed taken =>
      gossip_wave_step heralded graphMesh valid unique held allowed (mesh_step_moves taken)) run
    (gossip_wave_starts heralded graphMesh same unbounded)
  exact ⟨final.wave.settings, final.unbounded,
    final.taught reader (wave_at_end heralded.distinct final.wave gone)⟩

end Flood

end Mesh

/-! ## A line of strangers -/

def strangers (numbers : List UInt8) (links : List (UInt8 × UInt8)) : Mesh clearPrimitives where
  members := (sampleMesh numbers links).members
  nodes peer := { (sampleMesh numbers links).nodes peer with keyRegistry := .empty none }
  placed := (sampleMesh numbers links).placed
  retries := 0

def strangerLine : Mesh clearPrimitives := strangers [1, 2, 3] [(1, 2), (2, 3)]

abbrev lineGraph : SimpleGraph PeerId := sampleGraph [1, 2, 3] [(1, 2), (2, 3)]

theorem stranger_graph_mesh : GraphMesh strangerLine lineGraph where
  tables := (sample_graph_mesh [1, 2, 3] [(1, 2), (2, 3)] (by decide +kernel)).tables
  closed := (sample_graph_mesh [1, 2, 3] [(1, 2), (2, 3)] (by decide +kernel)).closed
  handlers := (sample_graph_mesh [1, 2, 3] [(1, 2), (2, 3)] (by decide +kernel)).handlers

theorem stranger_at_instant (traffic : List Transmission) :
    (strangerLine.idle traffic).AtInstant 0 :=
  sample_at_instant [1, 2, 3] [(1, 2), (2, 3)] traffic

theorem stranger_unseen (messageId : UInt64) (peer : PeerId) :
    ¬ (strangerLine.nodes peer).hasSeen messageId :=
  sample_unseen [1, 2, 3] [(1, 2), (2, 3)] messageId peer

theorem sample_key_only (number : UInt8) (other : PublicKey)
    (hashed : peerIdFromPublicKey clearPrimitives other = samplePeer number) :
    other = (samplePeer number).octets := by
  rw [clear_peer_id] at hashed
  exact congrArg PeerId.octets hashed

theorem line_hop : lineGraph.Adj (samplePeer 1) (samplePeer 2) := by
  decide

theorem line_last_hop : lineGraph.Adj (samplePeer 2) (samplePeer 3) := by
  decide

def linePath : lineGraph.Walk (samplePeer 1) (samplePeer 3) :=
  .cons line_hop (.cons line_last_hop .nil)

theorem line_path_simple : linePath.IsPath := by
  rw [SimpleGraph.Walk.isPath_def]
  change [samplePeer 1, samplePeer 2, samplePeer 3].Nodup
  decide

/-- Node 1 floods the key of a peer it has met outside the line. -/
def heraldedStart : MeshState clearPrimitives :=
  strangerLine.idle
    (strangerLine.announce (samplePeer 1) sampleEntropy (samplePeer 9) (samplePeer 9).octets)

def heraldedLine : Heralded strangerLine lineGraph (samplePeer 9) (samplePeer 9).octets
    (samplePeer 3) heraldedStart where
  herald := samplePeer 1
  entropy := sampleEntropy
  path := linePath
  member := by decide
  distinct := by decide
  simple := line_path_simple
  short := by simp [linePath]
  avoids := by
    change samplePeer 2 ≠ samplePeer 9
    decide
  launched := ⟨fun _ listed => listed, fun _ listed _ => listed, stranger_unseen _⟩

end Pathweave
