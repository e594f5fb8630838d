import Mathlib.Combinatorics.SimpleGraph.Acyclic
import Pathweave.FloodWaves

/-!
# Floods in a mesh without cycles

What makes a flood miss a destination is a detour that is faster than the short path. In
a mesh without cycles there is no detour: a relay never goes back where its copy came
from, so every copy moves away from the originator along the only path there is, and its
TTL tells how far it has come. No node is then reached too late, whatever the order in
which the frames are processed.
-/

namespace Pathweave

open ByteStrings GuardedRuns

set_option autoImplicit false

variable {prims : Primitives} {graph : SimpleGraph PeerId} {originator last : PeerId}
  {mesh : Mesh prims} {messageId : UInt64} {content : Routed} {state next : MeshState prims}
  {label : MeshLabel}

/-- The copy has come along a path from the originator, and the TTL has paid for it. -/
def Outward (graph : SimpleGraph PeerId) (originator : PeerId) (messageId : UInt64)
    (copy : Transmission) : Prop :=
  ∀ content ttl, parseFrame copy.frame = .routed messageId content ttl →
    ∃ route : graph.Walk originator copy.receiver, route.IsPath ∧
      route.penultimate = copy.sender ∧ min ttl.toNat 7 + route.length = 8

theorem outward_step (graphMesh : GraphMesh mesh graph) (acyclic : graph.IsAcyclic)
    (same : mesh.SameSettings state)
    (outward : ∀ copy ∈ state.inFlight, Outward graph originator messageId copy)
    (moved : MeshMove mesh state label next) :
    ∀ copy ∈ next.inFlight, Outward graph originator messageId copy := by
  refine in_flight_invariant (Outward graph originator messageId) (fun _ held => held) ?_ outward
    moved
  intro copy now member held send sent sentContent sentTtl sentParsed
  rcases frame_outcome_relays sent with ⟨ownId, ownContent, ttl, parsed, relayed⟩
  rcases mem_relays relayed with ⟨alive, body, sendId, listed, notSender, -⟩
  rw [transmit, body, sendId, parse_routed] at sentParsed
  cases sentParsed
  obtain ⟨route, simple, before, paid⟩ := held _ ttl parsed
  have adjacent : graph.Adj copy.receiver send.peerId := by
    rw [same.peers_eq] at listed
    exact (graphMesh.tables _ member _).mp listed
  have onward : send.peerId ∉ route.support := by
    intro visited
    have back := acyclic.eq_penultimate_of_adj_end simple adjacent visited
    exact notSender (back.trans before)
  have lower := forwarded_ttl ttl alive
  have paidNext : min (clampTtl ttl - 1).toNat 7 + (route.concat adjacent).length = 8 := by
    rw [route.length_concat adjacent]
    omega
  exact ⟨route.concat adjacent, simple.concat onward adjacent, route.penultimate_concat adjacent,
    paidNext⟩

theorem acyclic_same_length (acyclic : graph.IsAcyclic) {node other : PeerId}
    (same : node = other) (left : graph.Walk originator node) (right : graph.Walk originator other)
    (leftSimple : left.IsPath) (rightSimple : right.IsPath) : left.length = right.length := by
  subst same
  have only : (⟨left, leftSimple⟩ : graph.Path originator node) = ⟨right, rightSimple⟩ :=
    (acyclic.subsingleton_path originator node).elim _ _
  rw [Subtype.mk.inj only]

theorem outward_in_time (acyclic : graph.IsAcyclic) {path : graph.Walk originator last}
    (simple : path.IsPath) (short : path.length ≤ 8)
    (outward : ∀ copy ∈ state.inFlight, Outward graph originator messageId copy)
    (label : MeshLabel) : inTime messageId path state label := by
  cases label with
  | deliver index now again =>
      intro copy content ttl place present parsed positive inside receiver _ _
      obtain ⟨route, routeSimple, -, paid⟩ :=
        outward copy (List.mem_of_getElem? present) content ttl parsed
      have length := acyclic_same_length acyclic receiver route (path.take place) routeSimple
        (simple.take place)
      rw [path.take_length] at length
      omega
  | lose index => trivial

/-! ## A routed message in a mesh without cycles -/

section Message

variable {dest : PeerId} {payload : Bytes} {path : graph.Walk originator dest}

structure OutwardWave (mesh : Mesh prims) (messageId : UInt64) (path : graph.Walk originator dest)
    (payload : Bytes) (state : MeshState prims) : Prop where
  wave : FloodWave mesh messageId (.message dest payload) path state
  outward : ∀ copy ∈ state.inFlight, Outward graph originator messageId copy
  handed : Handed messageId dest
    (fun entry => ∃ peer, entry.delivered = some (peer, payload)) state

theorem outward_wave_step (graphMesh : GraphMesh mesh graph) (acyclic : graph.IsAcyclic)
    (simple : path.IsPath) (short : path.length ≤ 8)
    (held : OutwardWave mesh messageId path payload state) (allowed : reliable state label)
    (moved : MeshMove mesh state label next) :
    OutwardWave mesh messageId path payload next where
  wave := wave_step graphMesh simple (addressed_passes simple rfl rfl) held.wave
    ⟨allowed, outward_in_time acyclic simple short held.outward label⟩ moved
  outward := outward_step graphMesh acyclic held.wave.settings held.outward moved
  handed := by
    refine handed_step held.wave.copies ?_ held.handed allowed.1 moved
    rintro copy now ttl rfl member unexpired parsed new marked
    have handler := (held.wave.settings copy.receiver).handler.trans (graphMesh.handlers _ member)
    refine ⟨copy.sender, ?_⟩
    simp only [MeshState.outcome, parsed, frameOutcome] at marked ⊢
    rcases routed_outcome_first unexpired new marked with ⟨-, delivered⟩ | ⟨elsewhere, -⟩
    · rw [delivered, deliverContent, NodeState.onMessage, if_pos handler]
    · exact absurd (by rw [held.wave.settings.local_peer member]; rfl) elsewhere

theorem outward_wave_starts (graphMesh : GraphMesh mesh graph) (member : originator ∈ mesh.members)
    (distinct : dest ≠ originator) (short : path.length ≤ 8) {accepted : RouterSend → Bool}
    {entropy : Octets 8} (same : mesh.SameSettings state)
    (launched : Launched (newMessageId entropy)
      ((sendRouted (mesh.nodes originator) accepted entropy dest payload).1.map
        (transmit mesh.retries originator [])) state) :
    OutwardWave mesh (newMessageId entropy) path payload state := by
  have placed : (mesh.nodes originator).localPeerId = originator := mesh.placed originator member
  have positive : 0 < path.length := by
    rw [Nat.pos_iff_ne_zero]
    exact fun empty => distinct (path.eq_of_length_eq_zero empty).symm
  have adjacent := path.adj_getVert_succ positive
  rw [path.getVert_zero] at adjacent
  have notLocal : path.getVert 1 ≠ (mesh.nodes originator).localPeerId := by
    rw [placed]
    exact adjacent.ne.symm
  refine ⟨wave_starts short same launched ?_ ?_, ?_, fun seen => absurd seen (launched.unseen dest)⟩
  · intro send sent
    rcases mem_originated sent with ⟨body, sendId, -⟩
    exact ⟨body, sendId⟩
  · exact originated_exists accepted _ _ ((graphMesh.tables originator member _).mpr adjacent)
      notLocal
  · intro copy listed content ttl parsed
    obtain ⟨send, sent, rfl⟩ := List.mem_map.mp (launched.own copy listed (by rw [parsed]; rfl))
    rcases mem_originated sent with ⟨body, sendId, known, -⟩
    rw [transmit, body, sendId, parse_message] at parsed
    cases parsed
    have hop : graph.Adj originator send.peerId := (graphMesh.tables originator member _).mp known
    exact ⟨.cons hop .nil, (SimpleGraph.Path.singleton hop).property, rfl, rfl⟩

end Message

/-- In a mesh without cycles a routed message reaches every destination within eight
hops: whatever the order in which its copies and other traffic are processed, once no copy
of it is left it has been delivered there. -/
theorem acyclic_flood_delivers (mesh : Mesh prims) (graph : SimpleGraph PeerId)
    (graphMesh : GraphMesh mesh graph) (acyclic : graph.IsAcyclic) (originator dest : PeerId)
    (member : originator ∈ mesh.members) (distinct : dest ≠ originator)
    (walk : graph.Walk originator dest) (short : walk.length ≤ 8) (accepted : RouterSend → Bool)
    (entropy : Octets 8) (payload : Bytes) (start : MeshState prims)
    (same : mesh.SameSettings start)
    (launched : Launched (newMessageId entropy)
      ((sendRouted (mesh.nodes originator) accepted entropy dest payload).1.map
        (transmit mesh.retries originator [])) start)
    (labels : List MeshLabel) (state : MeshState prims)
    (run : Run (meshStep mesh) reliable start labels state)
    (gone : ∀ copy ∈ state.inFlight,
      (parseFrame copy.frame).floodId ≠ some (newMessageId entropy)) :
    DeliveredAt dest payload state := by
  classical
  have simple : walk.bypass.IsPath := walk.bypass_isPath
  have bounded : walk.bypass.length ≤ 8 := walk.length_bypass_le_length.trans short
  have final := run_invariant (OutwardWave mesh (newMessageId entropy) walk.bypass payload)
    (fun _ _ _ held allowed taken =>
      outward_wave_step graphMesh acyclic simple bounded held allowed (mesh_step_moves taken)) run
    (outward_wave_starts graphMesh member distinct bounded same launched)
  exact final.handed (wave_at_end distinct final.wave gone)

/-! ## A line -/

/-- A graph is acyclic if only one node has two neighbours. -/
theorem acyclic_of_hub {graph : SimpleGraph PeerId} (hub : PeerId)
    (only : ∀ node left right, graph.Adj node left → graph.Adj node right → left ≠ right →
      node = hub) : graph.IsAcyclic := by
  classical
  have centre : ∀ node (cycle : graph.Walk node node), cycle.IsCycle → node = hub := by
    intro node cycle isCycle
    exact only node cycle.snd cycle.penultimate (cycle.adj_snd isCycle.not_nil)
      (cycle.adj_penultimate isCycle.not_nil).symm isCycle.snd_ne_penultimate
  intro node cycle isCycle
  have next := cycle.adj_snd isCycle.not_nil
  have visited : cycle.snd ∈ cycle.support := cycle.getVert_mem_support 1
  have turned := centre cycle.snd _ (isCycle.rotate visited)
  exact next.ne ((centre node cycle isCycle).trans turned.symm)

theorem sample_line_acyclic :
    (sampleGraph [1, 2, 3] [(1, 2), (2, 3)]).IsAcyclic := by
  refine acyclic_of_hub (samplePeer 2) ?_
  intro node left right toLeft toRight distinct
  have checked : ∀ node ∈ [1, 2, 3].map samplePeer, ∀ left ∈ [1, 2, 3].map samplePeer,
      ∀ right ∈ [1, 2, 3].map samplePeer,
        (sampleGraph [1, 2, 3] [(1, 2), (2, 3)]).Adj node left →
        (sampleGraph [1, 2, 3] [(1, 2), (2, 3)]).Adj node right → left ≠ right →
        node = samplePeer 2 := by
    decide +kernel
  exact checked node toLeft.1.1 left toLeft.1.2 right toRight.1.2 toLeft toRight distinct

theorem acyclic_flood_delivers_line :
    ∃ state, execute (meshStep line)
        (line.idle ((sendRouted (line.nodes (samplePeer 1)) (fun _ => true) sampleEntropy
          (samplePeer 3) [42]).1.map (transmit line.retries (samplePeer 1) [])))
        [.deliver 0 0 false, .deliver 0 0 false] = some state ∧
      DeliveredAt (samplePeer 3) [42] state := by
  have rested : ((execute (meshStep line)
      (line.idle ((sendRouted (line.nodes (samplePeer 1)) (fun _ => true) sampleEntropy
        (samplePeer 3) [42]).1.map (transmit line.retries (samplePeer 1) [])))
      [.deliver 0 0 false, .deliver 0 0 false]).map fun state => state.inFlight) = some [] := by
    decide +kernel
  obtain ⟨state, reached, quiet⟩ := Option.map_eq_some_iff.mp rested
  have hop : (sampleGraph [1, 2, 3] [(1, 2), (2, 3)]).Adj (samplePeer 1) (samplePeer 2) := by
    decide
  have lastHop : (sampleGraph [1, 2, 3] [(1, 2), (2, 3)]).Adj (samplePeer 2) (samplePeer 3) := by
    decide
  exact ⟨state, reached, acyclic_flood_delivers line _
    (sample_graph_mesh _ _ (by decide +kernel)) sample_line_acyclic (samplePeer 1) (samplePeer 3)
    (by decide) (by decide) (.cons hop (.cons lastHop .nil)) (by simp) (fun _ => true)
    sampleEntropy [42] _ (same_settings_idle _)
    ⟨fun _ listed => listed, fun _ listed _ => listed, sample_unseen _ _ _⟩
    [.deliver 0 0 false, .deliver 0 0 false] state
    (run_at_instant (sample_at_instant _ _ _) (by decide) reached) (by simp [quiet])⟩

end Pathweave
