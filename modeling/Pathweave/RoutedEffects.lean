import Pathweave.DispatchPayload

/-!
# What one dispatch can do to a flood

A flooded frame is ignored, arrives at its destination, or passes through and is
relayed. `RoutedEffect` lists these cases with everything that is known in each,
so that an invariant of the mesh is a case analysis and never unfolds a dispatch.
-/

namespace Pathweave

open ByteStrings

set_option autoImplicit false

variable {prims : Primitives}

/-! ## TTL arithmetic -/

theorem clamp_ttl_toNat (ttl : UInt8) : (clampTtl ttl).toNat = min ttl.toNat 7 := by
  change (if ttl ≤ maxTtl then ttl else maxTtl).toNat = min ttl.toNat maxTtl.toNat
  split_ifs with below
  · exact (min_eq_left (UInt8.le_iff_toNat_le.mp below)).symm
  · have above : ¬ ttl.toNat ≤ maxTtl.toNat := fun le => below (UInt8.le_iff_toNat_le.mpr le)
    exact (min_eq_right (by omega)).symm

theorem clamp_ttl_zero_iff (ttl : UInt8) : clampTtl ttl = 0 ↔ ttl.toNat = 0 := by
  rw [← UInt8.toNat_inj, clamp_ttl_toNat, UInt8.toNat_zero]
  omega

theorem forwarded_ttl (ttl : UInt8) (alive : clampTtl ttl ≠ 0) :
    (clampTtl ttl - 1).toNat + 1 = min ttl.toNat 7 := by
  rw [← clamp_ttl_toNat]
  exact decremented_toNat alive

/-! ## Relays -/

theorem mem_spawned_relays {body : Bytes} {messageId : UInt64} {sender localPeer : PeerId}
    {peers : PeerTable} {send : RouterSend}
    (spawned : send ∈ spawnRelayToNeighbors body messageId sender localPeer peers) :
    send.payload = body ∧ send.messageId = messageId ∧ send.peerId ∈ peers ∧
      send.peerId ≠ sender ∧ send.peerId ≠ localPeer := by
  simp only [spawnRelayToNeighbors, List.mem_map] at spawned
  rcases spawned with ⟨neighbor, listed, rfl⟩
  have member : neighbor.1 ∈ (neighborsExcept peers [sender, localPeer]).map Prod.fst :=
    List.mem_map_of_mem listed
  rcases mem_neighbors_except.mp member with ⟨known, kept⟩
  simp only [List.mem_cons, List.not_mem_nil, or_false, not_or] at kept
  exact ⟨rfl, rfl, known, kept.1, kept.2⟩

theorem spawned_relay_exists {body : Bytes} {messageId : UInt64} {sender localPeer peer : PeerId}
    {peers : PeerTable} (known : peer ∈ peers) (notSender : peer ≠ sender)
    (notLocal : peer ≠ localPeer) :
    ∃ send ∈ spawnRelayToNeighbors body messageId sender localPeer peers, send.peerId = peer := by
  have member : peer ∈ (neighborsExcept peers [sender, localPeer]).map Prod.fst :=
    mem_neighbors_except.mpr ⟨known, by simp [notSender, notLocal]⟩
  obtain ⟨neighbor, listed, rfl⟩ := List.mem_map.mp member
  exact ⟨_, List.mem_map_of_mem listed, rfl⟩

theorem spawned_relays_length_le (body : Bytes) (messageId : UInt64) (sender localPeer : PeerId)
    (peers : PeerTable) :
    (spawnRelayToNeighbors body messageId sender localPeer peers).length ≤ peers.keys.length := by
  simp only [spawnRelayToNeighbors, List.length_map]
  exact neighbors_except_length_le peers _

theorem mem_relays {node : NodeState prims} {sender : PeerId} {messageId : UInt64}
    {content : Routed} {ttl : UInt8} {send : RouterSend}
    (relayed : send ∈ relaysOf node sender messageId content ttl) :
    clampTtl ttl ≠ 0 ∧ send.payload = content.body (clampTtl ttl - 1) ∧
      send.messageId = messageId ∧ send.peerId ∈ node.peers ∧ send.peerId ≠ sender ∧
      send.peerId ≠ node.localPeerId := by
  unfold relaysOf at relayed
  split_ifs at relayed with spent
  · simp at relayed
  · exact ⟨spent, mem_spawned_relays relayed⟩

theorem relay_exists {node : NodeState prims} {sender peer : PeerId} (messageId : UInt64)
    (content : Routed) {ttl : UInt8} (alive : clampTtl ttl ≠ 0) (known : peer ∈ node.peers)
    (notSender : peer ≠ sender) (notLocal : peer ≠ node.localPeerId) :
    ∃ send ∈ relaysOf node sender messageId content ttl, send.peerId = peer := by
  rw [relaysOf, if_neg alive]
  exact spawned_relay_exists known notSender notLocal

theorem relays_length_le (node : NodeState prims) (sender : PeerId) (messageId : UInt64)
    (content : Routed) (ttl : UInt8) :
    (relaysOf node sender messageId content ttl).length ≤ node.peers.keys.length := by
  unfold relaysOf
  split_ifs
  · simp
  · exact spawned_relays_length_le _ _ _ _ _

/-! ## The cases of a dispatch -/

def NodeState.markSeen (node : NodeState prims) (now : Nat) (messageId : UInt64) :
    NodeState prims :=
  { node with
    dedup := { node.dedup with
      seenRouted := Function.update node.dedup.seenRouted messageId (some now) } }

def NodeState.hasSeen (node : NodeState prims) (messageId : UInt64) : Prop :=
  (node.dedup.seenRouted messageId).isSome

def NodeState.Unexpired (node : NodeState prims) (now : Nat) : Prop :=
  Pathweave.Unexpired node.dedup.ttl now node.dedup.seenRouted

section Effects

variable (node : NodeState prims) (sender : PeerId) (now : Nat) (messageId : UInt64)
  (content : Routed) (ttl : UInt8)

inductive RoutedEffect : DispatchOutcome prims → Prop where
  | ignored
      (why : content.genuine prims = false ∨
        (content.destination ≠ some node.localPeerId ∧ content.dropped ttl = true) ∨
        node.hasSeen messageId) :
      RoutedEffect (acknowledged node)
  | arrived (genuine : content.genuine prims = true)
      (here : content.destination = some node.localPeerId)
      (new : ¬ node.hasSeen messageId) :
      RoutedEffect { acknowledged (node.markSeen now messageId) with
        delivered := deliverContent node sender content }
  | passed (genuine : content.genuine prims = true)
      (elsewhere : content.destination ≠ some node.localPeerId)
      (alive : content.dropped ttl = false)
      (new : ¬ node.hasSeen messageId) :
      RoutedEffect { acknowledged (learnContent (node.markSeen now messageId) content) with
        relays := relaysOf node sender messageId content ttl }

theorem check_routed_unexpired (unexpired : node.Unexpired now) :
    node.dedup.checkAndInsertRouted now messageId =
      if (node.dedup.seenRouted messageId).isSome then (true, node.dedup)
      else (false, (node.markSeen now messageId).dedup) := by
  simp only [DeduplicationCache.checkAndInsertRouted, check_unexpired unexpired]
  split_ifs <;> rfl

/-- While nothing expires, a dispatch of a flooded frame is one of the three
cases. -/
theorem routed_outcome_effect (unexpired : node.Unexpired now) :
    RoutedEffect node sender now messageId content ttl
      (routedOutcome node sender now messageId content ttl) := by
  unfold routedOutcome
  rw [check_routed_unexpired node now messageId unexpired]
  by_cases forged : content.genuine prims = false
  · simp only [forged, if_true]
    exact .ignored (.inl forged)
  have genuine : content.genuine prims = true := by simpa using forged
  by_cases seen : (node.dedup.seenRouted messageId).isSome
  · have known : RoutedEffect node sender now messageId content ttl (acknowledged node) :=
      .ignored (.inr (.inr seen))
    simp only [seen, if_true, genuine]
    split_ifs <;> exact known
  simp only [seen, genuine]
  by_cases here : content.destination = some node.localPeerId
  · simp only [here, if_true]
    exact .arrived genuine here seen
  · by_cases spent : content.dropped ttl = true
    · simp only [here, spent]
      exact .ignored (.inr (.inl ⟨here, spent⟩))
    · simp only [here, spent]
      exact .passed genuine here (by simpa using spent) seen

/-- Expiry or not, a dispatch relays nothing or relays the clamped and
decremented frame to the neighbours. -/
theorem routed_outcome_relays :
    (routedOutcome node sender now messageId content ttl).relays = [] ∨
      (routedOutcome node sender now messageId content ttl).relays =
        relaysOf node sender messageId content ttl := by
  unfold routedOutcome
  dsimp only
  split_ifs
  all_goals first | exact .inl rfl | exact .inr rfl

end Effects

/-! ## Consequences for any frame -/

def Frame.floodId : Frame → Option UInt64
  | .routed messageId _ _ => some messageId
  | _ => none

def Frame.messageId : Frame → Option UInt64
  | .direct messageId _ => some messageId
  | .routed messageId _ _ => some messageId
  | .skipped => none

theorem message_id_of_flood_id {frame : Frame} {messageId : UInt64}
    (flooded : frame.floodId = some messageId) : frame.messageId = some messageId := by
  cases frame with
  | routed ownId content ttl => exact flooded
  | direct ownId payload => cases flooded
  | skipped => cases flooded

section AnyFrame

variable {node : NodeState prims} {sender : PeerId} {now : Nat} {frame : Frame}
  {messageId : UInt64}

theorem frame_outcome_relays {send : RouterSend}
    (sent : send ∈ (frameOutcome node sender now frame).relays) :
    ∃ messageId content ttl, frame = .routed messageId content ttl ∧
      send ∈ relaysOf node sender messageId content ttl := by
  cases frame with
  | direct messageId payload =>
      simp only [frameOutcome] at sent
      split_ifs at sent <;> simp [acknowledged] at sent
  | routed messageId content ttl =>
      refine ⟨messageId, content, ttl, rfl, ?_⟩
      rcases routed_outcome_relays node sender now messageId content ttl with none | all
      · simp [frameOutcome, none] at sent
      · simpa [frameOutcome, all] using sent
  | skipped => simp [frameOutcome, acknowledged] at sent

theorem frame_outcome_relays_length :
    (frameOutcome node sender now frame).relays.length ≤ node.peers.keys.length := by
  cases frame with
  | direct messageId payload =>
      simp only [frameOutcome]
      split_ifs <;> simp [acknowledged]
  | routed messageId content ttl =>
      rcases routed_outcome_relays node sender now messageId content ttl with none | all
      · simp [frameOutcome, none]
      · simpa [frameOutcome, all] using relays_length_le node sender messageId content ttl
  | skipped => simp [frameOutcome, acknowledged]

theorem has_seen_mark_seen {other : UInt64} :
    (node.markSeen now messageId).hasSeen other ↔ other = messageId ∨ node.hasSeen other := by
  unfold NodeState.hasSeen NodeState.markSeen
  by_cases same : other = messageId
  · subst same
    simp
  · simp [same]

theorem has_seen_learn_content {content : Routed} :
    (learnContent node content).hasSeen messageId ↔ node.hasSeen messageId := by
  cases content <;> rfl

theorem frame_outcome_has_seen (unexpired : node.Unexpired now) :
    ((frameOutcome node sender now frame).node.hasSeen messageId → node.hasSeen messageId ∨
      frame.floodId = some messageId) ∧
    (node.hasSeen messageId → (frameOutcome node sender now frame).node.hasSeen messageId) := by
  cases frame with
  | direct ownId payload =>
      simp only [frameOutcome]
      split_ifs <;> exact ⟨.inl, fun seen => seen⟩
  | routed ownId content ttl =>
      have effect := routed_outcome_effect node sender now ownId content ttl unexpired
      simp only [frameOutcome, Frame.floodId, Option.some.injEq]
      generalize routedOutcome node sender now ownId content ttl = outcome at effect ⊢
      cases effect with
      | ignored why => exact ⟨.inl, fun seen => seen⟩
      | arrived genuine here new =>
          simp only [acknowledged, has_seen_mark_seen]
          tauto
      | passed genuine elsewhere alive new =>
          simp only [acknowledged, has_seen_learn_content, has_seen_mark_seen]
          tauto
  | skipped => exact ⟨.inl, fun seen => seen⟩

/-- While nothing expires, a flooded frame causes something only at a node that
had not seen its id, and the node has seen it afterwards. -/
theorem routed_outcome_acts {content : Routed} {ttl : UInt8} (unexpired : node.Unexpired now)
    (acts : (routedOutcome node sender now messageId content ttl).delivered.isSome ∨
      (routedOutcome node sender now messageId content ttl).relays ≠ []) :
    ¬ node.hasSeen messageId ∧
      (routedOutcome node sender now messageId content ttl).node.hasSeen messageId := by
  have effect := routed_outcome_effect node sender now messageId content ttl unexpired
  generalize routedOutcome node sender now messageId content ttl = outcome at acts effect ⊢
  cases effect with
  | ignored why => simp [acknowledged] at acts
  | arrived genuine here new => exact ⟨new, has_seen_mark_seen.mpr (.inl rfl)⟩
  | passed genuine elsewhere alive new =>
      exact ⟨new, has_seen_learn_content.mpr (has_seen_mark_seen.mpr (.inl rfl))⟩

section Unseen

variable {content : Routed} {ttl : UInt8}

theorem routed_outcome_marks (unexpired : node.Unexpired now)
    (genuine : content.genuine prims = true)
    (kept : content.destination = some node.localPeerId ∨ content.dropped ttl = false) :
    (routedOutcome node sender now messageId content ttl).node.hasSeen messageId := by
  have effect := routed_outcome_effect node sender now messageId content ttl unexpired
  generalize routedOutcome node sender now messageId content ttl = outcome at effect ⊢
  cases effect with
  | ignored why =>
      rcases why with forged | ⟨elsewhere, spent⟩ | seen
      · simp [genuine] at forged
      · rcases kept with here | alive
        · exact absurd here elsewhere
        · simp [alive] at spent
      · exact seen
  | arrived _ here new => exact has_seen_mark_seen.mpr (.inl rfl)
  | passed _ elsewhere alive new =>
      exact has_seen_learn_content.mpr (has_seen_mark_seen.mpr (.inl rfl))

/-- What the first copy does: it is delivered at its destination, or relayed. -/
theorem routed_outcome_first (unexpired : node.Unexpired now)
    (new : ¬ node.hasSeen messageId)
    (marked : (routedOutcome node sender now messageId content ttl).node.hasSeen messageId) :
    (content.destination = some node.localPeerId ∧
      (routedOutcome node sender now messageId content ttl).delivered =
        deliverContent node sender content) ∨
    (content.destination ≠ some node.localPeerId ∧ content.dropped ttl = false ∧
      (routedOutcome node sender now messageId content ttl).relays =
        relaysOf node sender messageId content ttl) := by
  have effect := routed_outcome_effect node sender now messageId content ttl unexpired
  generalize routedOutcome node sender now messageId content ttl = outcome at effect marked ⊢
  cases effect with
  | ignored why => exact absurd marked new
  | arrived _ here _ => exact .inl ⟨here, rfl⟩
  | passed _ elsewhere alive _ => exact .inr ⟨elsewhere, alive, rfl⟩

end Unseen

/-- Expiry or not, a flooded frame leaves the cache alone or is checked against its
routed table. -/
theorem routed_outcome_dedup {content : Routed} {ttl : UInt8} :
    (routedOutcome node sender now messageId content ttl).node.dedup = node.dedup ∨
      (routedOutcome node sender now messageId content ttl).node.dedup =
        (node.dedup.checkAndInsertRouted now messageId).2 := by
  simp only [routedOutcome]
  split_ifs
  all_goals first
    | exact .inl rfl
    | exact .inr rfl
    | (cases content <;> exact .inr rfl)

theorem routed_outcome_handled {content : Routed} {ttl : UInt8}
    (delivered : (routedOutcome node sender now messageId content ttl).delivered.isSome) :
    (node.dedup.checkAndInsertRouted now messageId).1 = false ∧
      (routedOutcome node sender now messageId content ttl).node.dedup =
        (node.dedup.checkAndInsertRouted now messageId).2 := by
  simp only [routedOutcome] at delivered ⊢
  split_ifs at delivered ⊢ with forged here duplicate
  · simp [acknowledged] at delivered
  · simp [acknowledged] at delivered
  · exact ⟨by simpa using duplicate, rfl⟩
  all_goals simp [acknowledged] at delivered

/-- Expiry or not, the entries of the routed table are old ones or carry the
clock reading of the dispatch. -/
theorem frame_outcome_entry {inserted : Nat}
    (entry : (frameOutcome node sender now frame).node.dedup.seenRouted messageId =
      some inserted) :
    node.dedup.seenRouted messageId = some inserted ∨ inserted = now := by
  cases frame with
  | direct ownId payload =>
      simp only [frameOutcome] at entry
      split_ifs at entry <;> exact .inl entry
  | routed ownId content ttl =>
      simp only [frameOutcome] at entry
      rcases routed_outcome_dedup with same | checked
      · rw [same] at entry
        exact .inl entry
      · rw [checked] at entry
        exact (check_entry entry).imp_right And.left
  | skipped => exact .inl entry

theorem routed_outcome_delivered {content : Routed} {ttl : UInt8} {call : PeerId × Bytes}
    (delivered : (routedOutcome node sender now messageId content ttl).delivered = some call) :
    content.destination = some node.localPeerId ∧
      deliverContent node sender content = some call := by
  simp only [routedOutcome] at delivered
  split_ifs at delivered with forged here duplicate
  all_goals try simp only [acknowledged, reduceCtorEq] at delivered
  refine ⟨here, ?_⟩
  cases content <;> exact delivered

theorem learn_content_bound {content : Routed}
    (bound : KeyRegistryState.Bound prims node.keyRegistry)
    (genuine : ¬ content.genuine prims = false) :
    KeyRegistryState.Bound prims (learnContent node content).keyRegistry := by
  cases content with
  | announcement peer publicKey =>
      apply KeyRegistryState.bound_insert_gossip bound peer publicKey
      simpa [Routed.genuine, validateKeyAnnouncement] using genuine
  | message dest payload => exact bound
  | sealedMessage dest sealedSender noiseMessage => exact bound

theorem frame_outcome_bound (bound : KeyRegistryState.Bound prims node.keyRegistry) :
    KeyRegistryState.Bound prims (frameOutcome node sender now frame).node.keyRegistry := by
  cases frame with
  | direct ownId payload =>
      simp only [frameOutcome]
      split_ifs <;> exact bound
  | routed ownId content ttl =>
      simp only [frameOutcome, routedOutcome]
      split_ifs with forged
      all_goals first
        | exact bound
        | exact learn_content_bound bound forged
  | skipped => exact bound

end AnyFrame

/-- A dispatch leaves the identity, the peer table, the handler and the lifetime
of the cache as they are. -/
structure SameSetting (before after : NodeState prims) : Prop where
  identity : after.identity = before.identity
  peers : after.peers = before.peers
  handler : after.handlerRegistered = before.handlerRegistered
  lifetime : after.dedup.ttl = before.dedup.ttl

theorem frame_outcome_setting (node : NodeState prims) (sender : PeerId) (now : Nat)
    (frame : Frame) : SameSetting node (frameOutcome node sender now frame).node := by
  cases frame with
  | direct messageId payload =>
      unfold frameOutcome
      dsimp only [DeduplicationCache.checkAndInsert]
      split_ifs <;> constructor <;> rfl
  | routed messageId content ttl =>
      unfold frameOutcome routedOutcome
      dsimp only [DeduplicationCache.checkAndInsertRouted]
      split_ifs <;> cases content <;> constructor <;> rfl
  | skipped => constructor <;> rfl

/-! ## What processing a frame does to the cache -/

section Cache

variable (node : NodeState prims) (sender : PeerId) (now : Nat)

theorem direct_outcome_dedup (messageId : UInt64) (payload : Bytes) :
    (frameOutcome node sender now (.direct messageId payload)).node.dedup =
      (node.dedup.checkAndInsert now sender messageId).2 := by
  simp only [frameOutcome]
  split_ifs <;> rfl

theorem frame_outcome_seen {frame : Frame} {key : PeerId × UInt64} {inserted : Nat}
    (entry : node.dedup.seen key = some inserted) :
    (frameOutcome node sender now frame).node.dedup.seen key = some inserted ∨
      inserted + node.dedup.ttl ≤ now := by
  cases frame with
  | direct messageId payload =>
      rw [direct_outcome_dedup]
      exact check_keeps entry
  | routed messageId content ttl =>
      simp only [frameOutcome]
      rcases routed_outcome_dedup with same | checked
      · rw [same]
        exact .inl entry
      · rw [checked]
        exact .inl entry
  | skipped => exact .inl entry

theorem direct_outcome_delivered {messageId : UInt64} {payload : Bytes}
    (delivered : (frameOutcome node sender now (.direct messageId payload)).delivered.isSome) :
    (∀ inserted, node.dedup.seen (sender, messageId) = some inserted →
      inserted + node.dedup.ttl ≤ now) ∧
    (frameOutcome node sender now (.direct messageId payload)).node.dedup.seen
      (sender, messageId) = some now := by
  have first :
      (checkAndInsertKey node.dedup.ttl now (sender, messageId) node.dedup.seen).1 = false := by
    by_contra duplicate
    rw [Bool.not_eq_false] at duplicate
    simp [frameOutcome, DeduplicationCache.checkAndInsert, duplicate, acknowledged] at delivered
  constructor
  · intro inserted entry
    by_contra recent
    rw [check_duplicate entry (by omega)] at first
    cases first
  · rw [direct_outcome_dedup]
    exact check_records first

end Cache

end Pathweave
