import Pathweave.AddressExchange
import Pathweave.DeduplicationCache
import Pathweave.KeyRegistry
import Pathweave.WireFrames

/-!
# Dispatch of one received frame

`dispatchPayload` transcribes `dispatch_payload` on bytes, with every index and
the TTL decrement checked. `frameOutcome` says what a parsed frame does, once for
the three flooded kinds; `dispatch_payload_eq` identifies the two, so no byte
string panics and later proofs never look at an index again.
-/

namespace Pathweave

open ByteStrings

set_option autoImplicit false

/-- The shared state a dispatch reads and writes. The handler is opaque code of
the application: only whether one is registered matters here. -/
structure NodeState (prims : Primitives) where
  identity : NodeIdentity prims
  dedup : DeduplicationCache
  handlerRegistered : Bool
  peers : PeerTable
  keyRegistry : KeyRegistryState

structure RouterSend where
  announcements : List PeerAnnouncement
  payload : Bytes
  peerId : PeerId
  messageId : UInt64
  deriving DecidableEq

structure DispatchOutcome (prims : Primitives) where
  node : NodeState prims
  /-- The `on_message` call, if the handler was invoked. -/
  delivered : Option (PeerId × Bytes)
  relays : List RouterSend
  /-- What is sent back on the session: every path ends in `send(b"")`. -/
  reply : Bytes

variable {prims : Primitives}

def NodeState.localPeerId (node : NodeState prims) : PeerId := node.identity.peerId

def NodeState.onMessage (node : NodeState prims) (peer : PeerId) (payload : Bytes) :
    Option (PeerId × Bytes) :=
  if node.handlerRegistered then some (peer, payload) else none

def acknowledged (node : NodeState prims) : DispatchOutcome prims where
  node := node
  delivered := none
  relays := []
  reply := []

def spawnRelayToNeighbors (relayBody : Bytes) (messageId : UInt64) (sender localPeer : PeerId)
    (peers : PeerTable) : List RouterSend :=
  (neighborsExcept peers [sender, localPeer]).map fun neighbor =>
    { announcements := neighbor.2
      payload := relayBody
      peerId := neighbor.1
      messageId := messageId }

section Source

variable (node : NodeState prims) (sender : PeerId) (now : Nat)

def dispatchDirect (messageId : UInt64) (payload : Bytes) : Checked (DispatchOutcome prims) := do
  let data ← sliceFrom payload 9
  let (isDup, dedup) := node.dedup.checkAndInsert now sender messageId
  let node := { node with dedup := dedup }
  if isDup then .ok (acknowledged node)
  else .ok { acknowledged node with delivered := node.onMessage sender data }

def dispatchRouted (messageId : UInt64) (payload : Bytes) : Checked (DispatchOutcome prims) :=
  if payload.length < 9 + 32 + 1 then .ok (acknowledged node)
  else do
    let dest : PeerId := ⟨← arrayAt payload 9 32⟩
    let ttl := min (← byteAt payload 41) maxTtl
    let appPayload ← sliceFrom payload 42
    if dest = node.localPeerId then
      let (isDup, dedup) := node.dedup.checkAndInsertRouted now messageId
      let node := { node with dedup := dedup }
      if isDup then .ok (acknowledged node)
      else .ok { acknowledged node with delivered := node.onMessage sender appPayload }
    else if ttl = 0 then
      -- Dropped before the deduplication check, which therefore keeps no trace.
      .ok (acknowledged node)
    else
      let (isDup, dedup) := node.dedup.checkAndInsertRouted now messageId
      let node := { node with dedup := dedup }
      if isDup then .ok (acknowledged node)
      else do
        let newTtl ← decrement ttl
        .ok { acknowledged node with
              relays := spawnRelayToNeighbors (routedBody dest newTtl appPayload) messageId
                sender node.localPeerId node.peers }

def dispatchAnnouncement (messageId : UInt64) (payload : Bytes) :
    Checked (DispatchOutcome prims) := do
  match ← decodeKeyAnnouncement (← sliceFrom payload 9) with
  | none => .ok (acknowledged node)
  | some (announced, publicKey, ttl) =>
      if validateKeyAnnouncement prims announced publicKey then
        let (isDup, dedup) := node.dedup.checkAndInsertRouted now messageId
        if isDup then .ok (acknowledged { node with dedup := dedup })
        else
          let node := { node with
            dedup := dedup
            keyRegistry := node.keyRegistry.insertGossip announced publicKey }
          if 0 < min ttl maxTtl then do
            let newTtl ← decrement (min ttl maxTtl)
            .ok { acknowledged node with
                  relays := spawnRelayToNeighbors (encodeKeyAnnouncement announced publicKey newTtl)
                    messageId sender node.localPeerId node.peers }
          else .ok (acknowledged node)
      else .ok (acknowledged node)

/-- The destination's handling of a sealed frame it has not seen before. -/
def openSealed (sealedSender : PeerId) (noiseMessage : Bytes) : Option (PeerId × Bytes) :=
  match node.keyRegistry.get sealedSender with
  | some senderKey =>
      match unsealPayload node.identity sealedSender senderKey noiseMessage with
      | .ok plaintext => node.onMessage sealedSender plaintext
      | .error _ => none
  | none => none

def dispatchSealed (messageId : UInt64) (payload : Bytes) : Checked (DispatchOutcome prims) :=
  if payload.length < 9 + 32 + 1 + 32 then .ok (acknowledged node)
  else do
    let dest : PeerId := ⟨← arrayAt payload 9 32⟩
    let ttl := min (← byteAt payload 41) maxTtl
    let envelope ← sliceFrom payload 42
    let sealedSender : PeerId := ⟨← arrayAt envelope 0 32⟩
    let noiseMessage ← sliceFrom envelope 32
    if dest = node.localPeerId then
      let (isDup, dedup) := node.dedup.checkAndInsertRouted now messageId
      let node := { node with dedup := dedup }
      if isDup then .ok (acknowledged node)
      else .ok { acknowledged node with delivered := openSealed node sealedSender noiseMessage }
    else if ttl = 0 then .ok (acknowledged node)
    else
      let (isDup, dedup) := node.dedup.checkAndInsertRouted now messageId
      let node := { node with dedup := dedup }
      if isDup then .ok (acknowledged node)
      else do
        let newTtl ← decrement ttl
        .ok { acknowledged node with
              relays := spawnRelayToNeighbors (sealedBody dest newTtl envelope) messageId
                sender node.localPeerId node.peers }

def dispatchPayload (payload : Bytes) : Checked (DispatchOutcome prims) :=
  if payload.length < 9 then .ok (acknowledged node)
  else do
    let messageId := fromBeBytes (← slice payload 0 8)
    let routeFlag ← byteAt payload 8
    if routeFlag = 0x00 then dispatchDirect node sender now messageId payload
    else if routeFlag = 0x01 then dispatchRouted node sender now messageId payload
    else if routeFlag = 0x02 then dispatchAnnouncement node sender now messageId payload
    else if routeFlag = 0x03 then dispatchSealed node sender now messageId payload
    else .ok (acknowledged node)

end Source

/-! ## What a parsed frame does -/

/-- The peer a flooded frame is addressed to; an announcement is for everyone. -/
def Routed.destination : Routed → Option PeerId
  | .message dest _ => some dest
  | .announcement _ _ => none
  | .sealedMessage dest _ _ => some dest

def Routed.genuine (prims : Primitives) : Routed → Bool
  | .announcement peer publicKey => validateKeyAnnouncement prims peer publicKey
  | _ => true

def clampTtl (ttl : UInt8) : UInt8 := min ttl maxTtl

def deliverContent (node : NodeState prims) (sender : PeerId) : Routed → Option (PeerId × Bytes)
  | .message _ payload => node.onMessage sender payload
  | .announcement _ _ => none
  | .sealedMessage _ sealedSender noiseMessage => openSealed node sealedSender noiseMessage

/-- An announcement teaches its key to every node it passes. -/
def learnContent (node : NodeState prims) : Routed → NodeState prims
  | .announcement peer publicKey =>
      { node with keyRegistry := node.keyRegistry.insertGossip peer publicKey }
  | _ => node

def relaysOf (node : NodeState prims) (sender : PeerId) (messageId : UInt64) (content : Routed)
    (ttl : UInt8) : List RouterSend :=
  if clampTtl ttl = 0 then []
  else
    spawnRelayToNeighbors (content.body (clampTtl ttl - 1)) messageId sender node.localPeerId
      node.peers

/-- A frame with an exhausted TTL that is addressed to somebody else is dropped
without a trace. An announcement is addressed to nobody, so it is recorded even
then. -/
def Routed.dropped (content : Routed) (ttl : UInt8) : Bool :=
  content.destination.isSome && clampTtl ttl == 0

def routedOutcome (node : NodeState prims) (sender : PeerId) (now : Nat) (messageId : UInt64)
    (content : Routed) (ttl : UInt8) : DispatchOutcome prims :=
  let (isDup, dedup) := node.dedup.checkAndInsertRouted now messageId
  let checked := { node with dedup := dedup }
  if content.genuine prims = false then acknowledged node
  else if content.destination = some node.localPeerId then
    if isDup then acknowledged checked
    else { acknowledged checked with delivered := deliverContent checked sender content }
  else if content.dropped ttl then acknowledged node
  else if isDup then acknowledged checked
  else
    { acknowledged (learnContent checked content) with
      relays := relaysOf node sender messageId content ttl }

def frameOutcome (node : NodeState prims) (sender : PeerId) (now : Nat) :
    Frame → DispatchOutcome prims
  | .direct messageId payload =>
      let (isDup, dedup) := node.dedup.checkAndInsert now sender messageId
      let node := { node with dedup := dedup }
      if isDup then acknowledged node
      else { acknowledged node with delivered := node.onMessage sender payload }
  | .routed messageId content ttl => routedOutcome node sender now messageId content ttl
  | .skipped => acknowledged node

section Agreement

variable (node : NodeState prims) (sender : PeerId) (now : Nat) (messageId : UInt64)
  (payload : Bytes)

theorem dispatch_direct_eq (long : 9 ≤ payload.length) :
    dispatchDirect node sender now messageId payload =
      .ok (frameOutcome node sender now (.direct messageId (payload.drop 9))) := by
  simp only [dispatchDirect, frameOutcome, sliceFrom_of_le long, checked_bind_ok]
  split_ifs <;> rfl

theorem decrement_of_ne {byte : UInt8} (positive : byte ≠ 0) : decrement byte = .ok (byte - 1) :=
  if_neg positive

theorem routed_outcome_addressed {content : Routed} {dest : PeerId} (ttl : UInt8)
    (addressed : content.destination = some dest) :
    routedOutcome node sender now messageId content ttl =
      let check := node.dedup.checkAndInsertRouted now messageId
      let checked := { node with dedup := check.2 }
      if dest = node.localPeerId then
        if check.1 then acknowledged checked
        else { acknowledged checked with delivered := deliverContent checked sender content }
      else if clampTtl ttl = 0 then acknowledged node
      else if check.1 then acknowledged checked
      else
        { acknowledged checked with
          relays := spawnRelayToNeighbors (content.body (clampTtl ttl - 1)) messageId sender
            node.localPeerId node.peers } := by
  have genuine : content.genuine prims = true ∧ ∀ node : NodeState prims,
      learnContent node content = node := by
    cases content with
    | announcement peer publicKey => cases addressed
    | _ => exact ⟨rfl, fun _ => rfl⟩
  have spent : content.dropped ttl = true ↔ clampTtl ttl = 0 := by
    simp [Routed.dropped, addressed]
  simp only [routedOutcome, genuine, addressed, relaysOf, Option.some.injEq, spent, if_false,
    Bool.true_eq_false]
  split_ifs <;> rfl

theorem dispatch_routed_eq (long : 9 + 32 + 1 ≤ payload.length) :
    dispatchRouted node sender now messageId payload =
      .ok (routedOutcome node sender now messageId
        (.message ⟨octetsAt payload 9 32 (Nat.le_trans (by decide) long)⟩ (payload.drop 42))
        (payload.getD 41 0)) := by
  have addressed :
      (Routed.message ⟨octetsAt payload 9 32 (by omega)⟩ (payload.drop 42)).destination =
        some ⟨octetsAt payload 9 32 (by omega)⟩ := rfl
  rw [dispatchRouted, if_neg (by omega), routed_outcome_addressed _ _ _ _ _ addressed]
  simp only [arrayAt_of_le (show 9 + 32 ≤ payload.length by omega),
    byteAt_of_lt (show 41 < payload.length by omega),
    sliceFrom_of_le (show 42 ≤ payload.length by omega), checked_bind_ok, clampTtl]
  by_cases own : (⟨octetsAt payload 9 32 (by omega)⟩ : PeerId) = node.localPeerId
  · simp only [own, if_true]
    split_ifs <;> rfl
  · by_cases spent : min (payload.getD 41 0) maxTtl = 0
    · simp only [own, if_false, spent, if_true]
    · simp only [own, spent, if_false, decrement_of_ne spent, checked_bind_ok]
      split_ifs <;> rfl

theorem dispatch_sealed_eq (long : 9 + 32 + 1 + 32 ≤ payload.length) :
    dispatchSealed node sender now messageId payload =
      .ok (routedOutcome node sender now messageId
        (.sealedMessage ⟨octetsAt payload 9 32 (Nat.le_trans (by decide) long)⟩
          ⟨octetsAt payload 42 32 (Nat.le_trans (by decide) long)⟩ (payload.drop 74))
        (payload.getD 41 0)) := by
  have envelopeLong : 0 + 32 ≤ (payload.drop 42).length := by
    rw [List.length_drop]
    omega
  have envelope : payload.drop 42 =
      (octetsAt payload 42 32 (by omega)).val ++ payload.drop 74 := by
    conv_lhs => rw [← List.take_append_drop 32 (payload.drop 42)]
    rw [List.drop_drop]
    rfl
  have sealedSender : octetsAt (payload.drop 42) 0 32 envelopeLong =
      octetsAt payload 42 32 (by omega) := rfl
  have addressed : (Routed.sealedMessage ⟨octetsAt payload 9 32 (by omega)⟩
      ⟨octetsAt payload 42 32 (by omega)⟩ (payload.drop 74)).destination =
        some ⟨octetsAt payload 9 32 (by omega)⟩ := rfl
  rw [dispatchSealed, if_neg (by omega), routed_outcome_addressed _ _ _ _ _ addressed]
  simp only [arrayAt_of_le (show 9 + 32 ≤ payload.length by omega),
    byteAt_of_lt (show 41 < payload.length by omega),
    sliceFrom_of_le (show 42 ≤ payload.length by omega), arrayAt_of_le envelopeLong,
    sliceFrom_of_le (show 32 ≤ (payload.drop 42).length by omega), List.drop_drop, checked_bind_ok,
    clampTtl, sealedSender]
  by_cases own : (⟨octetsAt payload 9 32 (by omega)⟩ : PeerId) = node.localPeerId
  · simp only [own, if_true]
    split_ifs <;> rfl
  · by_cases spent : min (payload.getD 41 0) maxTtl = 0
    · simp only [own, if_false, spent, if_true]
    · simp only [own, spent, if_false, decrement_of_ne spent, checked_bind_ok, envelope]
      split_ifs <;> rfl

theorem decode_key_announcement_eq (body : Bytes) (exact : body.length = 65) :
    decodeKeyAnnouncement body =
      .ok (some (⟨octetsAt body 0 32 (by omega)⟩, octetsAt body 32 32 (by omega),
        body.getD 64 0)) := by
  rw [decodeKeyAnnouncement, if_neg (by omega)]
  simp only [arrayAt_of_le (show 0 + 32 ≤ body.length by omega),
    arrayAt_of_le (show 32 + 32 ≤ body.length by omega),
    byteAt_of_lt (show 64 < body.length by omega), checked_bind_ok]

theorem dispatch_announcement_eq (exact : payload.length = 9 + 65) :
    dispatchAnnouncement node sender now messageId payload =
      .ok (routedOutcome node sender now messageId
        (.announcement ⟨octetsAt payload 9 32 (Nat.le_trans (by decide) exact.ge)⟩
          (octetsAt payload 41 32 (Nat.le_trans (by decide) exact.ge)))
        (payload.getD 73 0)) := by
  have bodySize : (payload.drop 9).length = 65 := by
    rw [List.length_drop]
    omega
  have peer : octetsAt (payload.drop 9) 0 32 (by omega) = octetsAt payload 9 32 (by omega) := by
    apply Subtype.ext
    simp [octetsAt]
  have key : octetsAt (payload.drop 9) 32 32 (by omega) = octetsAt payload 41 32 (by omega) := by
    apply Subtype.ext
    simp [octetsAt]
  have ttl : (payload.drop 9).getD 64 0 = payload.getD 73 0 := by
    simp [List.getD_eq_getElem?_getD]
  simp only [dispatchAnnouncement, sliceFrom_of_le (show 9 ≤ payload.length by omega),
    checked_bind_ok, decode_key_announcement_eq _ bodySize, peer, key, ttl]
  simp only [routedOutcome, Routed.genuine, Routed.destination, Routed.dropped, learnContent,
    relaysOf, clampTtl, Option.isSome_none, Bool.false_and]
  have announced : ∀ dest, (none : Option PeerId) ≠ some dest := by
    simp
  cases genuine : validateKeyAnnouncement prims ⟨octetsAt payload 9 32 (by omega)⟩
      (octetsAt payload 41 32 (by omega)) with
  | false => simp only [if_true, Bool.false_eq_true, if_false]
  | true =>
      by_cases spent : min (payload.getD 73 0) maxTtl = 0
      · have exhausted : ¬ (0 : UInt8) < 0 := by decide
        simp only [if_true, exhausted, if_false, spent, announced, Bool.true_eq_false,
          Bool.false_eq_true]
        split_ifs <;> rfl
      · have left : 0 < min (payload.getD 73 0) maxTtl := UInt8.pos_iff_ne_zero.mpr spent
        simp only [if_true, left, spent, if_false, announced, decrement_of_ne spent,
          checked_bind_ok, Bool.true_eq_false, Bool.false_eq_true]
        split_ifs <;> rfl

/-- No byte string panics, and what it does is what its parsed frame does. -/
theorem dispatch_payload_eq :
    dispatchPayload node sender now payload =
      .ok (frameOutcome node sender now (parseFrame payload)) := by
  by_cases short : payload.length < 9
  · rw [dispatchPayload, if_pos short, parseFrame, if_pos short]
    rfl
  · have front : slice payload 0 8 = .ok (payload.take 8) := by
      simpa using @slice_of_le payload _ _ (Nat.zero_le 8) (by omega)
    rw [dispatchPayload, if_neg short, parseFrame, if_neg short]
    simp only [front, byteAt_of_lt (show 8 < payload.length by omega), checked_bind_ok]
    split_ifs with direct routed long announcement exact sealedFlag sealedLong
    · exact dispatch_direct_eq node sender now _ payload (by omega)
    · exact dispatch_routed_eq node sender now _ payload long
    · rw [dispatchRouted, if_pos (by omega)]
      rfl
    · exact dispatch_announcement_eq node sender now _ payload exact
    · have malformed : (payload.drop 9).length ≠ 32 + 32 + 1 := by
        rw [List.length_drop]
        omega
      simp only [dispatchAnnouncement, sliceFrom_of_le (show 9 ≤ payload.length by omega),
        checked_bind_ok, decodeKeyAnnouncement, if_pos malformed]
      rfl
    · exact dispatch_sealed_eq node sender now _ payload sealedLong
    · rw [dispatchSealed, if_pos (by omega)]
      rfl
    · rfl

end Agreement

end Pathweave
