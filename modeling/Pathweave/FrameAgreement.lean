import Pathweave.DeliveryAck
import Pathweave.KeyAnnouncements
import Pathweave.MeshFlood
import Pathweave.StoreConservation

/-!
# Producers and the parser agree

The bodies of application frames are put together in many places and taken apart in one.
`Produces` lists the places with what each means to send; every one of them writes the
layout that the parser reads, for any fields and under any message id.
-/

namespace Pathweave

open ByteStrings

set_option autoImplicit false

variable {prims : Primitives}

/-- What an application frame carries after its message id. -/
inductive FrameFields where
  | direct (payload : Bytes)
  | routed (content : Routed) (ttl : UInt8)

def FrameFields.body : FrameFields → Bytes
  | .direct payload => directBody payload
  | .routed content ttl => content.body ttl

def FrameFields.frame (messageId : UInt64) : FrameFields → Frame
  | .direct payload => .direct messageId payload
  | .routed content ttl => .routed messageId content ttl

def Frame.clamped : Frame → Frame
  | .routed messageId content ttl => .routed messageId content (clampTtl ttl)
  | frame => frame

/-- `Node::send`. The id is drawn by the router. -/
def NodeState.send (node : NodeState prims) (entropy : Octets 8) (peer : PeerId)
    (payload : Bytes) : Except Error RouterSend :=
  match node.peers.lookup peer with
  | none => .error .noTransportAvailable
  | some announcements =>
      .ok
        { announcements := announcements
          payload := directBody payload
          peerId := peer
          messageId := newMessageId entropy }

inductive Produces (prims : Primitives) : RouterSend → FrameFields → Prop where
  | send {node : NodeState prims} {entropy : Octets 8} {peer : PeerId} {payload : Bytes}
      {sent : RouterSend} (made : node.send entropy peer payload = .ok sent) :
      Produces prims sent (.direct payload)
  | storeForward {config : StoreConfig} {dest : PeerId} {entry : Entry} {targets : List Target}
      {record : Entry × RouterSend} (policy : config.policy = directStore)
      (made : record ∈ StoreState.attemptSends config dest entry targets) :
      Produces prims record.2 (.direct entry.payload)
  | storeForwardRouted {config : StoreConfig} {localPeer dest : PeerId} {entry : Entry}
      {targets : List Target} {record : Entry × RouterSend}
      (policy : config.policy = routedStore localPeer)
      (made : record ∈ StoreState.attemptSends config dest entry targets) :
      Produces prims record.2 (.routed (.message dest entry.payload) maxTtl)
  | sendRouted {node : NodeState prims} {accepted : RouterSend → Bool} {entropy : Octets 8}
      {dest : PeerId} {payload : Bytes} {sent : RouterSend}
      (made : sent ∈ (sendRouted node accepted entropy dest payload).1) :
      Produces prims sent (.routed (.message dest payload) maxTtl)
  | sendRoutedSealed {node : NodeState prims} {accepted : RouterSend → Bool}
      {entropy : Octets 8} {dest : PeerId} {payload ephemeral sealed : Bytes}
      {destPublicKey : PublicKey} {sent : RouterSend}
      (known : node.keyRegistry.get dest = some destPublicKey)
      (encrypted : sealPayload node.identity destPublicKey ephemeral payload = .ok sealed)
      (made : sent ∈ (sendRoutedSealed node accepted entropy dest payload ephemeral).1) :
      Produces prims sent (.routed (.sealedMessage dest node.localPeerId sealed) maxTtl)
  | keyLearned {entropy : Octets 8} {peers : PeerTable} {localPeer learnedPeer : PeerId}
      {learnedKey : PublicKey} {sent : RouterSend}
      (made : sent ∈ floodKeyAnnouncement entropy peers localPeer learnedPeer learnedKey) :
      Produces prims sent (.routed (.announcement learnedPeer learnedKey) maxTtl)
  | relay {node : NodeState prims} {sender : PeerId} {now : Nat} {payload : Bytes}
      {outcome : DispatchOutcome prims} {messageId : UInt64} {content : Routed} {ttl : UInt8}
      {sent : RouterSend}
      (received : parseFrame payload = .routed messageId content ttl)
      (dispatched : dispatchPayload node sender now payload = .ok outcome)
      (made : sent ∈ outcome.relays) :
      Produces prims sent (.routed content (clampTtl ttl - 1))

/-! ## Every producer writes the layout of its fields -/

theorem dispatched_relays {node : NodeState prims} {sender : PeerId} {now : Nat} {payload : Bytes}
    {outcome : DispatchOutcome prims} {messageId : UInt64} {content : Routed} {ttl : UInt8}
    {sent : RouterSend} (received : parseFrame payload = .routed messageId content ttl)
    (dispatched : dispatchPayload node sender now payload = .ok outcome)
    (made : sent ∈ outcome.relays) : sent ∈ relaysOf node sender messageId content ttl := by
  rw [dispatch_payload_eq, received, Except.ok.injEq] at dispatched
  subst dispatched
  simp only [frameOutcome, routedOutcome] at made
  split_ifs at made <;> first | cases made | exact made

theorem produced_body {sent : RouterSend} {fields : FrameFields}
    (produced : Produces prims sent fields) : sent.payload = fields.body := by
  cases produced with
  | @send node entropy peer payload _ made =>
      unfold NodeState.send at made
      cases listed : node.peers.lookup peer with
      | none => simp [listed] at made
      | some announcements =>
          simp only [listed, Except.ok.injEq] at made
          rw [← made]
          rfl
  | storeForward policy made =>
      rw [(mem_attempt_sends made).2.2, policy]
      rfl
  | storeForwardRouted policy made =>
      rw [(mem_attempt_sends made).2.2, policy]
      rfl
  | sendRouted made => exact (mem_originated made).1
  | sendRoutedSealed known encrypted made =>
      simp only [sendRoutedSealed, known, encrypted] at made
      exact (mem_originated made).1
  | keyLearned made => exact (mem_spawned_relays made).1
  | relay received dispatched made =>
      exact (mem_relays (dispatched_relays received dispatched made)).2.1

theorem parse_fields (messageId : UInt64) (fields : FrameFields) :
    parseFrame (frameMessage messageId fields.body) = fields.frame messageId := by
  cases fields with
  | direct payload => exact parse_direct messageId payload
  | routed content ttl => exact parse_routed messageId content ttl

/-! ## The dispatch of a byte string -/

theorem clamp_ttl_idempotent (ttl : UInt8) : clampTtl (clampTtl ttl) = clampTtl ttl := by
  apply UInt8.toNat_inj.mp
  rw [clamp_ttl_toNat, clamp_ttl_toNat, min_assoc, min_self]

theorem frame_outcome_clamped (node : NodeState prims) (sender : PeerId) (now : Nat)
    (frame : Frame) :
    frameOutcome node sender now frame.clamped = frameOutcome node sender now frame := by
  cases frame with
  | routed messageId content ttl =>
      have dropped : content.dropped (clampTtl ttl) = content.dropped ttl := by
        rw [Routed.dropped, clamp_ttl_idempotent, Routed.dropped]
      have relays : relaysOf node sender messageId content (clampTtl ttl) =
          relaysOf node sender messageId content ttl := by
        rw [relaysOf, clamp_ttl_idempotent, relaysOf]
      show routedOutcome node sender now messageId content (clampTtl ttl) = _
      rw [routedOutcome, dropped, relays]
      rfl
  | _ => rfl

/-- Every producer writes the layout of its fields; every layout is read back with the same
fields under any id; frames with a drawn id are never taken for an address exchange, and address
exchanges always are; and the dispatch of any bytes stays within bounds and does what the parsed
frame with the clamped TTL says. -/
theorem wire_frames_agree (prims : Primitives) :
    (∀ sent fields, Produces prims sent fields → sent.payload = fields.body) ∧
    (∀ messageId fields,
      parseFrame (frameMessage messageId fields.body) = FrameFields.frame messageId fields) ∧
    (∀ entropy (fields : FrameFields),
      looksLikeControl (frameMessage (newMessageId entropy) fields.body) = false) ∧
    (∀ addresses, looksLikeControl (encodeAddrExchange addresses) = true) ∧
    (∀ (node : NodeState prims) sender now payload,
      dispatchPayload node sender now payload =
        .ok (frameOutcome node sender now (parseFrame payload).clamped)) := by
  refine ⟨?_, parse_fields, ?_, encode_addr_exchange_looks_like_control, ?_⟩
  · intro sent fields produced
    exact produced_body produced
  · intro entropy fields
    exact drawn_frame_not_control entropy fields.body
  · intro node sender now payload
    rw [frame_outcome_clamped]
    exact dispatch_payload_eq node sender now payload

end Pathweave
