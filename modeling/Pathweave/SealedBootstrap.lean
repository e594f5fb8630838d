import Pathweave.KeyGossip

/-!
# From announced keys to a sealed message

`send_routed_sealed` needs the destination's key at the originator, and the destination
can open the envelope only with the originator's key. Neither has to have met the other:
after announcements of both keys have come to rest, a sealed call is delivered at the
end of a path of nodes that know nothing of its content.
-/

namespace Pathweave

open ByteStrings GuardedRuns

set_option autoImplicit false

variable {prims : Primitives}

def MeshState.submit (state : MeshState prims) (sends : List Transmission) : MeshState prims :=
  { state with inFlight := state.inFlight ++ sends }

/-- The frames of `send_routed_sealed`, called at a node in its present state. -/
def Mesh.sealedCall (mesh : Mesh prims) (state : MeshState prims) (source : PeerId)
    (accepted : RouterSend → Bool) (entropy : Octets 8) (dest : PeerId)
    (payload ephemeral : Bytes) : List Transmission :=
  (sendRoutedSealed (state.nodes source) accepted entropy dest payload ephemeral).1.map
    (transmit mesh.retries source [])

theorem launched_submit {messageId : UInt64} {sends : List Transmission} {state : MeshState prims}
    (unused : Unused messageId state) : Launched messageId sends (state.submit sends) where
  submitted := fun _ listed => List.mem_append_right _ listed
  own := by
    intro copy listed flooded
    rcases List.mem_append.mp listed with old | own
    · exact absurd flooded (unused.fresh copy old)
    · exact own
  unseen := unused.unseen

section Opening

variable {node : NodeState prims} {sender : PeerId} {identity : NodeIdentity prims}
  {ephemeral payload sealed : Bytes}

theorem opens_sealed (opens : UnsealUndoesSeal prims)
    (written : sealPayload identity node.identity.publicKey ephemeral payload = .ok sealed)
    (known : node.keyRegistry.get sender = some identity.publicKey)
    (handler : node.handlerRegistered = true) :
    openSealed node sender sealed = some (sender, payload) := by
  have wrote : prims.noiseKWrite identity.privateKey node.identity.publicKey ephemeral payload =
      .ok sealed := by
    unfold sealPayload at written
    split at written
    · next message found => rw [found, Except.ok.inj written]
    · cases written
  have read := opens identity node.identity ephemeral payload sealed wrote
  simp only [openSealed, known, unsealPayload, read, NodeState.onMessage, handler, if_true]

end Opening

section Call

variable {mesh : Mesh prims} {graph : SimpleGraph PeerId} {source dest : PeerId}
  {path : graph.Walk source dest} {state next : MeshState prims} {label : MeshLabel}
  {messageId : UInt64} {ephemeral payload sealed : Bytes}

def DeliveredAs (source : PeerId) (payload : Bytes) (entry : Dispatched) : Prop :=
  entry.delivered = some (source, payload)

/-- A sealed message on its way to a destination that holds the originator's key. -/
structure SealedWave (mesh : Mesh prims) (messageId : UInt64) (path : graph.Walk source dest)
    (payload sealed : Bytes) (state : MeshState prims) : Prop where
  wave : FloodWave mesh messageId (.sealedMessage dest source sealed) path state
  unbounded : state.Unbounded
  known : (state.nodes dest).keyRegistry.get source =
    some (mesh.nodes source).identity.publicKey
  handed : Handed messageId dest (DeliveredAs source payload) state

theorem sealed_wave_step (graphMesh : GraphMesh mesh graph) (simple : path.IsPath)
    (opens : UnsealUndoesSeal prims)
    (unique : ∀ other, peerIdFromPublicKey prims other = source →
      other = (mesh.nodes source).identity.publicKey)
    (written : sealPayload (mesh.nodes source).identity (mesh.nodes dest).identity.publicKey
      ephemeral payload = .ok sealed)
    (held : SealedWave mesh messageId path payload sealed state)
    (allowed : reliable state label ∧ inTime messageId path state label)
    (moved : MeshMove mesh state label next) :
    SealedWave mesh messageId path payload sealed next where
  wave := wave_step graphMesh simple (addressed_passes simple rfl rfl) held.wave allowed moved
  unbounded := unbounded_step held.unbounded moved
  known := knows_step unique held.unbounded moved held.known
  handed := by
    refine handed_step held.wave.copies ?_ held.handed allowed.1.1 moved
    rintro copy now ttl rfl member unexpired parsed new marked
    have same := held.wave.settings copy.receiver
    have opened : openSealed (state.nodes copy.receiver) source sealed = some (source, payload) :=
      opens_sealed opens (by rw [same.identity]; exact written) held.known
        (same.handler.trans (graphMesh.handlers _ member))
    simp only [DeliveredAs, MeshState.outcome, parsed, frameOutcome] at marked ⊢
    rcases routed_outcome_first unexpired new marked with ⟨-, delivered⟩ | ⟨elsewhere, -⟩
    · rw [delivered, deliverContent, opened]
    · exact absurd (by rw [held.wave.settings.local_peer member]; rfl) elsewhere

/-- A sealed call by a node that holds the destination's key starts a wave. -/
theorem sealed_wave_starts (graphMesh : GraphMesh mesh graph) (member : source ∈ mesh.members)
    (distinct : dest ≠ source) (short : path.length ≤ 8) {accepted : RouterSend → Bool}
    {entropy : Octets 8}
    (written : sealPayload (mesh.nodes source).identity (mesh.nodes dest).identity.publicKey
      ephemeral payload = .ok sealed)
    (same : mesh.SameSettings state) (unbounded : state.Unbounded)
    (destKey : (state.nodes source).keyRegistry.get dest =
      some (mesh.nodes dest).identity.publicKey)
    (sourceKey : (state.nodes dest).keyRegistry.get source =
      some (mesh.nodes source).identity.publicKey)
    (unused : Unused (newMessageId entropy) state) :
    SealedWave mesh (newMessageId entropy) path payload sealed
      (state.submit (mesh.sealedCall state source accepted entropy dest payload ephemeral)) := by
  have placed : (state.nodes source).localPeerId = source := same.local_peer member
  have positive : 0 < path.length := by
    rw [Nat.pos_iff_ne_zero]
    exact fun empty => distinct (path.eq_of_length_eq_zero empty).symm
  have adjacent := path.adj_getVert_succ positive
  rw [path.getVert_zero] at adjacent
  have sends : (sendRoutedSealed (state.nodes source) accepted entropy dest payload ephemeral).1 =
      (floodFromOriginator (state.nodes source) accepted (newMessageId entropy)
        (Routed.body (.sealedMessage dest source sealed) maxTtl)).1 := by
    simp only [sendRoutedSealed, destKey, (same source).identity, written, placed, Routed.body]
  have listed : path.getVert 1 ∈ (state.nodes source).peers := by
    rw [same.peers_eq]
    exact (graphMesh.tables source member _).mpr adjacent
  have notLocal : path.getVert 1 ≠ (state.nodes source).localPeerId := by
    rw [placed]
    exact adjacent.ne.symm
  refine ⟨wave_starts short same (launched_submit unused) ?_ ?_, unbounded, sourceKey,
    fun seen => absurd seen (unused.unseen dest)⟩
  · intro send sent
    rw [sends] at sent
    rcases mem_originated sent with ⟨body, sendId, -⟩
    exact ⟨body, sendId⟩
  · rw [sends]
    exact originated_exists accepted _ _ listed notLocal

end Call

def laterEntropy : Octets 8 := ⟨[0, 0, 0, 0, 0, 0, 0, 8], by decide⟩

def thirdEntropy : Octets 8 := ⟨[0, 0, 0, 0, 0, 0, 0, 9], by decide⟩

/-- Node 2 has met both of its neighbours and announces each to the other. -/
def introducedStart : MeshState clearPrimitives :=
  strangerLine.idle
    (strangerLine.announce (samplePeer 2) sampleEntropy (samplePeer 1) (samplePeer 1).octets ++
      strangerLine.announce (samplePeer 2) laterEntropy (samplePeer 3) (samplePeer 3).octets)

theorem introduced_launched :
    Launched (newMessageId sampleEntropy)
        (strangerLine.announce (samplePeer 2) sampleEntropy (samplePeer 1) (samplePeer 1).octets)
        introducedStart ∧
      Launched (newMessageId laterEntropy)
        (strangerLine.announce (samplePeer 2) laterEntropy (samplePeer 3) (samplePeer 3).octets)
        introducedStart := by
  refine ⟨⟨?_, ?_, stranger_unseen _⟩, ⟨?_, ?_, stranger_unseen _⟩⟩
  · decide +kernel
  · decide +kernel
  · decide +kernel
  · decide +kernel

def introducedToThree : Heralded strangerLine lineGraph (samplePeer 1)
    (strangerLine.nodes (samplePeer 1)).identity.publicKey (samplePeer 3) introducedStart where
  herald := samplePeer 2
  entropy := sampleEntropy
  path := .cons line_last_hop .nil
  member := by decide
  distinct := by decide
  simple := (SimpleGraph.Path.singleton line_last_hop).property
  short := by simp
  avoids := by
    change samplePeer 3 ≠ samplePeer 1
    decide
  launched := introduced_launched.1

def introducedToOne : Heralded strangerLine lineGraph (samplePeer 3)
    (strangerLine.nodes (samplePeer 3)).identity.publicKey (samplePeer 1) introducedStart where
  herald := samplePeer 2
  entropy := laterEntropy
  path := .cons line_hop.symm .nil
  member := by decide
  distinct := by decide
  simple := (SimpleGraph.Path.singleton line_hop.symm).property
  short := by simp
  avoids := by
    change samplePeer 1 ≠ samplePeer 3
    decide
  launched := introduced_launched.2

/-- Both announcements are processed, then the sealed call is relayed and opened. -/
def bothFirst : List MeshLabel := [.deliver 0 0 false, .deliver 0 0 false]

def afterSealedCall (state : MeshState clearPrimitives) : MeshState clearPrimitives :=
  state.submit (strangerLine.sealedCall state (samplePeer 1) (fun _ => true) thirdEntropy
    (samplePeer 3) [42] [])

end Pathweave
