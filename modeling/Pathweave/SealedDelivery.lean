import Pathweave.KeyBinding
import Pathweave.MeshDelivery

/-!
# Sealed frames at their destination

The sender of a sealed frame is read from an envelope that any relay can write, and
its key from a registry that gossip fills. The handler nevertheless sees only what
the named sender sealed. The id of a sealed frame is recorded before the frame is
opened, though: a copy that fails to open uses up the id for the genuine one.
-/

namespace Pathweave

open ByteStrings GuardedRuns

set_option autoImplicit false

variable {prims : Primitives}

/-! ## What a step adds to the history -/

inductive DispatchChange (state : NodeWorld prims) (label : NodeLabel) (next : NodeWorld prims) :
    Prop where
  | quiet (history : next.dispatched = state.dispatched)
      (cache : next.node.dedup = state.node.dedup) (clock : next.clock = state.clock)
  | dispatch (index : Nat) (payload : Bytes) (now : Nat) (task : Task prims)
      (session : Session prims) (received : label = .receive index payload now)
      (present : state.tasks[index]? = some task) (serves : task.serves payload = some session)
      (later : state.clock ≤ now) (clock : next.clock = now)
      (node : next.node = (frameOutcome state.node session.peerId now (parseFrame payload)).node)
      (history : next.dispatched = state.dispatched ++
        [{ sender := session.peerId
           payload := payload
           time := now
           delivered :=
            (frameOutcome state.node session.peerId now (parseFrame payload)).delivered }])

theorem node_move_dispatch {state next : NodeWorld prims} {label : NodeLabel}
    (moved : NodeMove state label next) : DispatchChange state label next := by
  cases moved with
  | dispatched present serves later =>
      exact .dispatch _ _ _ _ _ rfl present serves later rfl rfl rfl
  | _ => exact .quiet rfl rfl rfl

/-! ## Authenticity -/

/-- Ideal Noise_K. `sealedTo key dest payload message` stands for: the holder of the
private key of `key` sealed `payload` to `dest`, which gave `message`. -/
def IdealNoiseK (prims : Primitives)
    (sealedTo : PublicKey → PublicKey → Bytes → Bytes → Prop) : Prop :=
  ∀ (identity : NodeIdentity prims) (senderKey : PublicKey) (message payload : Bytes),
    prims.noiseKRead identity.privateKey senderKey message = .ok payload →
      sealedTo senderKey identity.publicKey payload message

section Authenticity

variable (sealedTo : PublicKey → PublicKey → Bytes → Bytes → Prop)

/-- A handler call that a sealed frame caused names the sender of the envelope, and
that sender sealed the payload to this node. -/
def DispatchRecord.Authentic (identity : NodeIdentity prims) (record : DispatchRecord) : Prop :=
  ∀ messageId dest sealedSender noiseMessage ttl,
    parseFrame record.payload =
      .routed messageId (.sealedMessage dest sealedSender noiseMessage) ttl →
    ∀ peer payload, record.delivered = some (peer, payload) →
      dest = identity.peerId ∧ peer = sealedSender ∧
        ∀ key, peerIdFromPublicKey prims key = peer →
          sealedTo key identity.publicKey payload noiseMessage

theorem open_sealed_authentic {node : NodeState prims} {sealedSender peer : PeerId}
    {noiseMessage payload : Bytes} (ideal : IdealNoiseK prims sealedTo)
    (injective : Function.Injective (peerIdFromPublicKey prims))
    (bound : KeyRegistryState.Bound prims node.keyRegistry)
    (opened : openSealed node sealedSender noiseMessage = some (peer, payload)) :
    peer = sealedSender ∧ ∀ key, peerIdFromPublicKey prims key = peer →
      sealedTo key node.identity.publicKey payload noiseMessage := by
  unfold openSealed at opened
  split at opened
  · next senderKey known =>
      split at opened
      · next plaintext unsealed =>
          unfold NodeState.onMessage at opened
          split_ifs at opened
          cases opened
          apply And.intro rfl
          intro key hashed
          have same : key = senderKey := injective (hashed.trans (bound sealedSender senderKey known))
          rw [same]
          apply ideal node.identity
          unfold unsealPayload at unsealed
          split at unsealed
          · cases unsealed
            assumption
          · cases unsealed
      · cases opened
  · cases opened

theorem frame_outcome_authentic {node : NodeState prims} (sender : PeerId) (now : Nat)
    (payload : Bytes) (ideal : IdealNoiseK prims sealedTo)
    (injective : Function.Injective (peerIdFromPublicKey prims))
    (bound : KeyRegistryState.Bound prims node.keyRegistry) :
    DispatchRecord.Authentic sealedTo node.identity
      { sender := sender
        payload := payload
        time := now
        delivered := (frameOutcome node sender now (parseFrame payload)).delivered } := by
  intro messageId dest sealedSender noiseMessage ttl parsed peer plaintext delivered
  dsimp only at parsed delivered
  rw [parsed] at delivered
  rcases routed_outcome_delivered delivered with ⟨here, opened⟩
  apply And.intro (Option.some.inj here)
  exact open_sealed_authentic sealedTo ideal injective bound opened

/-- Whatever the relays send, in every reachable state each handler call made for a
sealed frame reports the peer that sealed it and the payload it sealed. -/
theorem sealed_delivery_authentic {identity : NodeIdentity prims} {peers : PeerTable}
    {maxKeyRegistrySize : Option Nat} {labels : List NodeLabel} {state : NodeWorld prims}
    (ideal : IdealNoiseK prims sealedTo)
    (injective : Function.Injective (peerIdFromPublicKey prims))
    (run : Run nodeStep anyStep (.start identity peers maxKeyRegistrySize) labels state) :
    ∀ record ∈ state.dispatched, record.Authentic sealedTo identity := by
  induction run with
  | start =>
      intro record listed
      cases listed
  | extend prior allowed taken ih =>
      have bound := bound_run prior (KeyRegistryState.bound_empty maxKeyRegistrySize)
      have own := identity_run prior
      cases node_move_dispatch (node_step_moves taken) with
      | quiet history cache clock =>
          rw [history]
          exact ih
      | dispatch index payload now task session received present serves later clock node history =>
          intro record listed
          rw [history] at listed
          rcases List.mem_append.mp listed with earlier | new
          · exact ih record earlier
          · have genuine := frame_outcome_authentic sealedTo session.peerId now payload ideal
              injective bound
            rw [own] at genuine
            cases List.mem_singleton.mp new
            exact genuine

end Authenticity

/-! ## Primitives that authenticate -/

/-- As `clearPrimitives`, except that a sealed message names both keys and is opened
only between them. -/
def taggedPrimitives : Primitives where
  blake3Hash := clearPrimitives.blake3Hash
  bs58Encode := clearPrimitives.bs58Encode
  x25519PublicKey privateKey := privateKey
  noiseKWrite localPrivate remotePublic _ payload :=
    .ok (localPrivate.val ++ remotePublic.val ++ payload)
  noiseKRead localPrivate remotePublic message :=
    if message.take 64 = remotePublic.val ++ localPrivate.val then .ok (message.drop 64)
    else .error "decrypt error"

theorem tagged_public_key (privateKey : Octets 32) :
    privateKey = taggedPrimitives.x25519PublicKey privateKey :=
  rfl

theorem tagged_peer_id (publicKey : PublicKey) :
    peerIdFromPublicKey taggedPrimitives publicKey = ⟨publicKey⟩ :=
  clear_peer_id publicKey

def taggedIdentity (number : UInt8) : NodeIdentity taggedPrimitives where
  privateKey := (samplePeer number).octets
  publicKey := (samplePeer number).octets
  peerId := samplePeer number
  derived := tagged_public_key (samplePeer number).octets
  hashed := (tagged_peer_id (samplePeer number).octets).symm

def TaggedSealed (senderKey destKey : PublicKey) (payload message : Bytes) : Prop :=
  ∃ ephemeral, taggedPrimitives.noiseKWrite senderKey destKey ephemeral payload = .ok message

theorem tagged_peer_id_injective : Function.Injective (peerIdFromPublicKey taggedPrimitives) :=
  clear_peer_id_injective

theorem tagged_ideal : IdealNoiseK taggedPrimitives TaggedSealed := by
  intro identity senderKey message payload opened
  have own : identity.publicKey = identity.privateKey := identity.derived
  simp only [taggedPrimitives] at opened
  split_ifs at opened with tagged
  cases opened
  refine ⟨[], ?_⟩
  simp only [taggedPrimitives, own]
  rw [← tagged, List.take_append_drop]

theorem tagged_unseal_undoes_seal : UnsealUndoesSeal taggedPrimitives := by
  intro sender dest ephemeral payload message written
  have sealedBy : sender.publicKey = sender.privateKey := sender.derived
  have sealedFor : dest.publicKey = dest.privateKey := dest.derived
  cases written
  have size : (sender.privateKey.val ++ dest.publicKey.val).length = 64 := by
    rw [List.length_append, sender.privateKey.property, dest.publicKey.property]
  simp only [taggedPrimitives, sealedBy, ← sealedFor]
  rw [List.take_left' size, List.drop_left' size, if_pos rfl]

def keyOfPeer2 : Bytes :=
  frameMessage (newMessageId sampleEntropy + 1)
    (encodeKeyAnnouncement (samplePeer 2) (samplePeer 2).octets 3)

/-- Peer 1 with a registered handler learns the key of peer 2 from peer 9, which
relays a sealed frame. -/
def sealedArrival (frames : List Bytes) : List NodeLabel :=
  [.onMessage, .accept (samplePeer 9).octets, .proceed 0,
    .receive 0 keyOfPeer2 0] ++
    frames.map fun frame => .receive 0 frame 0

/-- The frame in which peer 2 sends a byte to peer 1, and what a relay makes of it
that puts its own key in place of the sender's. -/
def genuineFrame : Bytes :=
  frameMessage (newMessageId sampleEntropy) (sealedBody (samplePeer 1) 3
    ((samplePeer 2).asBytes ++ ((samplePeer 2).asBytes ++ (samplePeer 1).asBytes ++ [42])))

def tamperedFrame : Bytes :=
  frameMessage (newMessageId sampleEntropy) (sealedBody (samplePeer 1) 3
    ((samplePeer 2).asBytes ++ ((samplePeer 9).asBytes ++ (samplePeer 1).asBytes ++ [42])))

def taggedNode : NodeWorld taggedPrimitives := .start (taggedIdentity 1) ∅ none

theorem sealed_delivery_authentic_relayed :
    ∃ state, Run nodeStep anyStep taggedNode (sealedArrival [genuineFrame]) state ∧
      (state.dispatched.map DispatchRecord.delivered) = [none, some (samplePeer 2, [42])] ∧
      ∀ record ∈ state.dispatched, record.Authentic TaggedSealed (taggedIdentity 1) := by
  have finished : ((execute nodeStep taggedNode (sealedArrival [genuineFrame])).map fun state =>
      state.dispatched.map DispatchRecord.delivered) = some [none, some (samplePeer 2, [42])] := by
    decide +kernel
  obtain ⟨state, reached, found⟩ := Option.map_eq_some_iff.mp finished
  have run : Run nodeStep anyStep taggedNode (sealedArrival [genuineFrame]) state :=
    run_of_execute reached
  exact ⟨state, run, found,
    sealed_delivery_authentic TaggedSealed tagged_ideal tagged_peer_id_injective run⟩

end Pathweave
