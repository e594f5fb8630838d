import Pathweave.MeshBounds

/-!
# Who a routed message reaches

A call of `send_routed` or `send_routed_sealed` puts one content on the mesh.
Every copy under its id carries the same bytes up to the TTL, so the handler runs
only at the destination and only on what the originator sent.
-/

namespace Pathweave

open ByteStrings GuardedRuns

set_option autoImplicit false

inductive RoutedCall where
  | plain
  | endToEnd (ephemeral : Bytes)

variable {prims : Primitives}

/-! ## The content of a call -/

def RoutedCall.sends (node : NodeState prims) (accepted : RouterSend → Bool) (entropy : Octets 8)
    (dest : PeerId) (payload : Bytes) : RoutedCall → List RouterSend
  | .plain => (sendRouted node accepted entropy dest payload).1
  | .endToEnd ephemeral => (sendRoutedSealed node accepted entropy dest payload ephemeral).1

/-- What the originator means to send: the payload itself, or the envelope it
seals to the key it holds for the destination. -/
inductive RoutedCall.Carries (node : NodeState prims) (dest : PeerId) (payload : Bytes) :
    RoutedCall → Routed → Prop where
  | plain : Carries node dest payload .plain (.message dest payload)
  | endToEnd {ephemeral sealed : Bytes} {destPublicKey : PublicKey}
      (known : node.keyRegistry.get dest = some destPublicKey)
      (written : sealPayload node.identity destPublicKey ephemeral payload = .ok sealed) :
      Carries node dest payload (.endToEnd ephemeral)
        (.sealedMessage dest node.localPeerId sealed)

section Call

variable {node : NodeState prims} {accepted : RouterSend → Bool} {entropy : Octets 8}
  {dest : PeerId} {payload : Bytes} {call : RoutedCall} {content : Routed}

theorem RoutedCall.Carries.destination (carries : call.Carries node dest payload content) :
    content.destination = some dest := by
  cases carries <;> rfl

theorem mem_call_sends {send : RouterSend}
    (sent : send ∈ call.sends node accepted entropy dest payload) :
    ∃ content, call.Carries node dest payload content ∧
      send.payload = content.body maxTtl ∧ send.messageId = newMessageId entropy := by
  cases call with
  | plain =>
      rcases mem_originated sent with ⟨body, sameId, -⟩
      exact ⟨_, .plain, body, sameId⟩
  | endToEnd ephemeral =>
      simp only [RoutedCall.sends, sendRoutedSealed] at sent
      cases known : node.keyRegistry.get dest with
      | none => simp [known] at sent
      | some destPublicKey =>
          simp only [known] at sent
          cases written : sealPayload node.identity destPublicKey ephemeral payload with
          | error error => simp [written] at sent
          | ok sealed =>
              simp only [written] at sent
              rcases mem_originated sent with ⟨body, sameId, -⟩
              exact ⟨_, .endToEnd known written, body, sameId⟩

end Call

/-! ## Copies of a call -/

section Copies

variable {mesh : Mesh prims} {state next : MeshState prims} {label : MeshLabel}
  {originator dest : PeerId} {payload : Bytes} {call : RoutedCall} {messageId : UInt64}

/-- Whatever travels under the id is what the originator built, up to the TTL. -/
def Faithful (node : NodeState prims) (dest : PeerId) (payload : Bytes) (call : RoutedCall)
    (messageId : UInt64) (copy : Transmission) : Prop :=
  (parseFrame copy.frame).messageId = some messageId →
    ∃ content ttl, call.Carries node dest payload content ∧
      copy.frame = frameMessage messageId (content.body ttl)

theorem faithful_step {node : NodeState prims}
    (held : ∀ copy ∈ state.inFlight, Faithful node dest payload call messageId copy)
    (moved : MeshMove mesh state label next) :
    ∀ copy ∈ next.inFlight, Faithful node dest payload call messageId copy := by
  refine in_flight_invariant (Faithful node dest payload call messageId) (fun _ known => known)
    ?_ held moved
  intro copy now member known send sent sameId
  rcases frame_outcome_relays sent with ⟨ownId, content, ttl, parsed, relayed⟩
  rcases mem_relays relayed with ⟨-, body, sendId, -⟩
  rw [transmit, body, sendId, parse_routed] at sameId
  cases sameId
  rcases known (by rw [parsed]; rfl) with ⟨original, sentTtl, carries, built⟩
  rw [built, parse_routed] at parsed
  cases parsed
  exact ⟨content, _, carries, by rw [transmit, body, sendId]⟩

def BoundEverywhere (state : MeshState prims) : Prop :=
  ∀ peer, KeyRegistryState.Bound prims (state.nodes peer).keyRegistry

theorem bound_everywhere_step (bound : BoundEverywhere state)
    (moved : MeshMove mesh state label next) : BoundEverywhere next := by
  cases moved with
  | @delivered index now again copy present member budget =>
      intro peer
      by_cases here : peer = copy.receiver
      · subst here
        rw [process_nodes_self]
        exact frame_outcome_bound (bound copy.receiver)
      · rw [process_nodes_of_ne _ _ _ here]
        exact bound peer
  | lost inside => exact bound

theorem key_of_bound {registry : KeyRegistryState} {identity : NodeIdentity prims}
    {key : PublicKey} (bound : KeyRegistryState.Bound prims registry)
    (unique : identity.KeyUnique) (known : registry.get identity.peerId = some key) :
    key = identity.publicKey :=
  unique key (bound _ _ known)

theorem delivered_exactly {node origin : NodeState prims} {sender : PeerId} {now : Nat}
    {content : Routed} {ttl : UInt8} {peer : PeerId} {bytes : Bytes}
    (opens : UnsealUndoesSeal prims)
    (bound : KeyRegistryState.Bound prims node.keyRegistry)
    (originBound : KeyRegistryState.Bound prims origin.keyRegistry)
    (unique : node.identity.KeyUnique) (originUnique : origin.identity.KeyUnique)
    (carries : call.Carries origin dest payload content)
    (delivered : (routedOutcome node sender now messageId content ttl).delivered =
      some (peer, bytes)) :
    node.localPeerId = dest ∧ bytes = payload ∧
      (call ≠ .plain → peer = origin.localPeerId) := by
  rcases routed_outcome_delivered delivered with ⟨here, invoked⟩
  have local_eq : node.localPeerId = dest :=
    Option.some.inj (here.symm.trans carries.destination)
  refine ⟨local_eq, ?_⟩
  cases carries with
  | plain =>
      simp only [deliverContent, NodeState.onMessage] at invoked
      split_ifs at invoked
      cases invoked
      exact ⟨rfl, fun sealedCall => absurd rfl sealedCall⟩
  | @endToEnd ephemeral sealed destPublicKey known written =>
      -- Both ends look the other's key up, and both look-ups find the true key.
      have destKey : destPublicKey = node.identity.publicKey :=
        key_of_bound originBound unique (by rw [← NodeState.localPeerId, local_eq]; exact known)
      simp only [deliverContent, openSealed] at invoked
      cases found : node.keyRegistry.get origin.localPeerId with
      | none => simp [found] at invoked
      | some senderKey =>
          have senderTrue : senderKey = origin.identity.publicKey :=
            key_of_bound bound originUnique found
          have sealWritten : prims.noiseKWrite origin.identity.privateKey
              node.identity.publicKey ephemeral payload = .ok sealed := by
            rw [sealPayload, destKey] at written
            split at written
            · rename_i message wrote
              rw [wrote, Except.ok.inj written]
            · cases written
          have read := opens origin.identity node.identity ephemeral payload sealed sealWritten
          simp only [found, senderTrue, unsealPayload, read, NodeState.onMessage] at invoked
          split_ifs at invoked
          cases invoked
          exact ⟨rfl, fun _ => rfl⟩

end Copies

/-! ## Whole runs -/

section WholeRun

variable {mesh : Mesh prims} {state : MeshState prims} {labels : List MeshLabel}
  {originator dest : PeerId} {payload : Bytes} {call : RoutedCall} {messageId : UInt64}

def Mesh.afterCall (mesh : Mesh prims) (originator : PeerId) (call : RoutedCall)
    (accepted : RouterSend → Bool) (entropy : Octets 8) (dest : PeerId) (payload : Bytes)
    (traffic : List Transmission) : MeshState prims :=
  mesh.idle (traffic ++
    (call.sends (mesh.nodes originator) accepted entropy dest payload).map
      (transmit mesh.retries originator []))

def deliveries (messageId : UInt64) (history : List Dispatched) : List Dispatched :=
  history.filter fun entry =>
    decide ((parseFrame entry.copy.frame).messageId = some messageId) && entry.delivered.isSome

/-- What is to hold of a dispatch of any frame with the id of the call. -/
def DeliversExactly (origin : NodeState prims) (dest : PeerId) (payload : Bytes)
    (call : RoutedCall) (messageId : UInt64) (entry : Dispatched) : Prop :=
  Faithful origin dest payload call messageId entry.copy ∧
    ((parseFrame entry.copy.frame).messageId = some messageId →
      ∀ peer bytes, entry.delivered = some (peer, bytes) →
        entry.node = dest ∧ bytes = payload ∧ (call ≠ .plain → peer = origin.localPeerId))

theorem delivers_exactly_step {next : MeshState prims} {label : MeshLabel}
    (opens : UnsealUndoesSeal prims) (member : originator ∈ mesh.members)
    (originBound : KeyRegistryState.Bound prims (mesh.nodes originator).keyRegistry)
    (unique : ∀ peer ∈ mesh.members, (mesh.nodes peer).identity.KeyUnique)
    (same : mesh.SameSettings state) (bound : BoundEverywhere state)
    (faithful : ∀ copy ∈ state.inFlight,
      Faithful (mesh.nodes originator) dest payload call messageId copy)
    (held : ∀ entry ∈ state.history,
      DeliversExactly (mesh.nodes originator) dest payload call messageId entry)
    (moved : MeshMove mesh state label next) :
    ∀ entry ∈ next.history,
      DeliversExactly (mesh.nodes originator) dest payload call messageId entry := by
  refine history_invariant _ ?_ held moved
  intro copy now listed receiver
  refine ⟨faithful copy listed, fun sameId peer bytes delivered => ?_⟩
  rcases faithful copy listed sameId with ⟨content, ttl, carries, built⟩
  simp only [MeshState.outcome, built, parse_routed] at delivered
  have uniqueHere : (state.nodes copy.receiver).identity.KeyUnique := by
    rw [(same copy.receiver).identity]
    exact unique copy.receiver receiver
  have exactly := delivered_exactly opens (bound copy.receiver) originBound uniqueHere
    (unique originator member) carries delivered
  rwa [same.local_peer receiver] at exactly

theorem faithful_after_call {accepted : RouterSend → Bool} {entropy : Octets 8}
    {traffic : List Transmission}
    (fresh : ∀ copy ∈ traffic, (parseFrame copy.frame).messageId ≠ some (newMessageId entropy)) :
    ∀ copy ∈ (mesh.afterCall originator call accepted entropy dest payload traffic).inFlight,
      Faithful (mesh.nodes originator) dest payload call (newMessageId entropy) copy := by
  intro copy listed sameId
  rcases List.mem_append.mp listed with other | own
  · exact absurd sameId (fresh copy other)
  · obtain ⟨send, sent, rfl⟩ := List.mem_map.mp own
    rcases mem_call_sends sent with ⟨content, carries, body, sendId⟩
    exact ⟨content, maxTtl, carries, by rw [transmit, body, sendId]⟩

theorem length_le_one_of_nodup {Item : Type*} {items : List Item} {only : Item}
    (nodup : items.Nodup) (all : ∀ item ∈ items, item = only) : items.length ≤ 1 := by
  rw [List.eq_replicate_of_mem all, List.nodup_replicate] at nodup
  exact nodup

theorem deliveries_at_most_one (origin : NodeState prims) (once : ActsOnce messageId state)
    (exactly : ∀ entry ∈ state.history,
      DeliversExactly origin dest payload call messageId entry) :
    (deliveries messageId state.history).length ≤ 1 := by
  have routedOnly : ∀ entry ∈ state.history,
      (parseFrame entry.copy.frame).messageId = some messageId →
        (parseFrame entry.copy.frame).floodId = some messageId := by
    intro entry listed sameId
    rcases (exactly entry listed).1 sameId with ⟨content, ttl, -, built⟩
    rw [built, parse_routed]
    rfl
  have nodes : ((deliveries messageId state.history).map Dispatched.node).Nodup := by
    refine once.1.sublist (List.Sublist.map _ ?_)
    have acting : deliveries messageId state.history =
        (state.history.filter (Dispatched.actsFor messageId)).filter fun entry =>
          entry.delivered.isSome := by
      rw [deliveries, List.filter_filter]
      apply List.filter_congr
      intro entry listed
      rw [Bool.eq_iff_iff]
      simp only [Dispatched.actsFor, Bool.and_eq_true, Bool.or_eq_true, decide_eq_true_eq]
      constructor
      · intro given
        rcases given with ⟨sameId, invoked⟩
        exact ⟨invoked, routedOnly entry listed sameId, .inl invoked⟩
      · intro given
        rcases given with ⟨invoked, flooded, -⟩
        exact ⟨message_id_of_flood_id flooded, invoked⟩
    rw [acting]
    exact List.filter_sublist
  have atDest : ∀ peer ∈ (deliveries messageId state.history).map Dispatched.node,
      peer = dest := by
    intro peer listed
    obtain ⟨entry, kept, rfl⟩ := List.mem_map.mp listed
    obtain ⟨inHistory, chosen⟩ := List.mem_filter.mp kept
    simp only [Bool.and_eq_true, decide_eq_true_eq, Option.isSome_iff_exists] at chosen
    rcases chosen with ⟨sameId, invoked, delivered⟩
    exact ((exactly entry inHistory).2 sameId invoked.1 invoked.2 delivered).1
  simpa using length_le_one_of_nodup nodes atDest

/-- A routed call under a fresh id reaches the handler only at its destination,
with exactly its payload, and at most once while nothing expires. A sealed call
is delivered in the originator's name, and every copy of it carries the envelope
the originator built. -/
theorem routed_call_delivers_exactly (mesh : Mesh prims) (originator dest : PeerId)
    (member : originator ∈ mesh.members) (call : RoutedCall) (accepted : RouterSend → Bool)
    (entropy : Octets 8) (payload : Bytes) (traffic : List Transmission)
    (fresh : ∀ copy ∈ traffic, (parseFrame copy.frame).messageId ≠ some (newMessageId entropy))
    (bound : ∀ peer, KeyRegistryState.Bound prims (mesh.nodes peer).keyRegistry)
    (unique : ∀ peer ∈ mesh.members, (mesh.nodes peer).identity.KeyUnique)
    (opens : UnsealUndoesSeal prims) (labels : List MeshLabel) (state : MeshState prims)
    (run : Run (meshStep mesh) anyStep
      (mesh.afterCall originator call accepted entropy dest payload traffic) labels state) :
    (∀ entry ∈ state.history,
      (parseFrame entry.copy.frame).messageId = some (newMessageId entropy) →
        (∃ content ttl, call.Carries (mesh.nodes originator) dest payload content ∧
          entry.copy.frame = frameMessage (newMessageId entropy) (content.body ttl)) ∧
        ∀ peer bytes, entry.delivered = some (peer, bytes) →
          entry.node = dest ∧ bytes = payload ∧ (call ≠ .plain → peer = originator)) ∧
    (Run (meshStep mesh) noExpiry
      (mesh.afterCall originator call accepted entropy dest payload traffic) labels state →
        (deliveries (newMessageId entropy) state.history).length ≤ 1) := by
  have invariant := run_invariant
    (fun state => mesh.SameSettings state ∧ BoundEverywhere state ∧
      (∀ copy ∈ state.inFlight,
        Faithful (mesh.nodes originator) dest payload call (newMessageId entropy) copy) ∧
      ∀ entry ∈ state.history,
        DeliversExactly (mesh.nodes originator) dest payload call (newMessageId entropy) entry)
    (fun before label after held _ taken => ?_) run ?_
  · rcases invariant with ⟨-, -, -, exactly⟩
    refine ⟨fun entry listed sameId => ⟨(exactly entry listed).1 sameId, ?_⟩, fun unexpired => ?_⟩
    · have delivers := (exactly entry listed).2 sameId
      rwa [mesh.placed originator member] at delivers
    · exact deliveries_at_most_one _ (run_acts_once _ unexpired) exactly
  · rcases held with ⟨same, boundBefore, faithful, exactly⟩
    have moved := mesh_step_moves taken
    exact ⟨same_settings_step same moved, bound_everywhere_step boundBefore moved,
      faithful_step faithful moved,
      delivers_exactly_step opens member (bound originator) unique same boundBefore faithful
        exactly moved⟩
  · exact ⟨same_settings_idle _, bound, faithful_after_call fresh,
      by simp [Mesh.afterCall, Mesh.idle]⟩

end WholeRun

def line : Mesh clearPrimitives := sampleMesh [1, 2, 3] [(1, 2), (2, 3)]

theorem routed_call_delivers_exactly_line :
    ∃ state, execute (meshStep line)
        (line.afterCall (samplePeer 1) (.endToEnd []) (fun _ => true) sampleEntropy (samplePeer 3)
          [42] []) [.deliver 0 0 true, .deliver 1 0 false, .deliver 0 0 false] = some state ∧
      (state.history.map fun entry => entry.delivered) =
        [none, some (samplePeer 1, [42]), none] ∧
      (deliveries (newMessageId sampleEntropy) state.history).length ≤ 1 := by
  have delivered : ((execute (meshStep line)
      (line.afterCall (samplePeer 1) (.endToEnd []) (fun _ => true) sampleEntropy (samplePeer 3)
        [42] []) [.deliver 0 0 true, .deliver 1 0 false, .deliver 0 0 false]).map
          fun state => state.history.map fun entry => entry.delivered) =
      some [none, some (samplePeer 1, [42]), none] := by
    decide +kernel
  obtain ⟨state, reached, found⟩ := Option.map_eq_some_iff.mp delivered
  have timed := run_at_instant (sample_at_instant _ _ _) (by decide) reached
  have exactly := routed_call_delivers_exactly line (samplePeer 1) (samplePeer 3) (by decide)
    (.endToEnd []) (fun _ => true) sampleEntropy [42] [] (by simp)
    (fun _ => keysOf_bound _) (fun _ _ => sample_key_unique _) clear_unseal_undoes_seal _ state
    (run_of_execute reached)
  exact ⟨state, reached, found, exactly.2 (run_weaken (fun _ _ allowed => allowed.1) timed)⟩

end Pathweave
