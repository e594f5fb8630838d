import Pathweave.AddressExchange
import Pathweave.KeyRegistry
import Pathweave.SampleMesh
import Pathweave.Sessions
import Pathweave.WireFrames

/-!
# One delivery attempt

`trySend` dials an address on behalf of a peer, completes a handshake, exchanges
addresses, transmits the frame and waits for the acknowledgement. With a known
key it asks for that key; without one it accepts whoever answers, and nothing
later compares the session with the peer the frame is meant for.
-/

namespace Pathweave

open ByteStrings

set_option autoImplicit false

structure Attempt where
  connect : Except Error Remote
  localAddresses : List PeerAddress
  exchangeLink : Option Error
  exchangeReply : Received
  frameLink : Option Error
  ackReply : Received

structure TrySendOutcome where
  keyRegistry : KeyRegistryState
  peers : PeerTable
  /-- The authenticated peer, once the handshake is complete. -/
  sessionPeer : Option PeerId
  /-- The control frame with the own addresses, if it left. -/
  offered : Option Bytes
  /-- The peer and the addresses that were merged into the table. -/
  upserted : Option (PeerId × List PeerAddress)
  /-- The application frame, if it left. -/
  transmitted : Option Bytes
  result : Except Error (Option PublicKey)

def sentBytes (link : Option Error) (plaintext : Bytes) : Option Bytes :=
  match sessionSend link plaintext with
  | .ok () => some plaintext
  | .error _ => none

def decodeReply : Received → Checked (Option (List PeerAddress))
  | .bytes received => decodeAddrExchange received
  | .failed _ => .ok none
  | .timedOut => .ok none

def awaitAck (learnedKey : Option PublicKey) : Received → Except Error (Option PublicKey)
  | .bytes _ => .ok learnedKey
  | .failed error => .error error
  | .timedOut => .error (.transport "delivery ACK timed out")

section TrySend

variable (prims : Primitives) (keyRegistry : KeyRegistryState) (peers : PeerTable)
  (peerId : PeerId) (payload : Bytes) (messageId : UInt64) (attempt : Attempt)

def withoutSession (keyRegistry : KeyRegistryState) (error : Error) : TrySendOutcome where
  keyRegistry := keyRegistry
  peers := peers
  sessionPeer := none
  offered := none
  upserted := none
  transmitted := none
  result := .error error

/-- What the call leaves behind once the exchange reply has been looked at. -/
def sessionOutcome (session : Session prims) (exchanged : Option (List PeerAddress)) :
    TrySendOutcome :=
  let inserted := keyRegistry.insertDirect session.peerId session.remoteStaticKey
  let learnedKey := if inserted.2 then some session.remoteStaticKey else none
  let framed := frameMessage messageId payload
  { keyRegistry := inserted.1
    peers := mergeExchanged peers peerId exchanged
    sessionPeer := some session.peerId
    offered := sentBytes attempt.exchangeLink (encodeAddrExchange attempt.localAddresses)
    upserted := exchanged.map fun addresses => (peerId, addresses)
    transmitted := sentBytes attempt.frameLink framed
    result := match sessionSend attempt.frameLink framed with
      | .error error => .error error
      | .ok () => awaitAck learnedKey attempt.ackReply }

def overSession (session : Session prims) : Checked TrySendOutcome := do
  let exchanged ← decodeReply attempt.exchangeReply
  .ok (sessionOutcome prims keyRegistry peers peerId payload messageId attempt session exchanged)

def trySend : Checked TrySendOutcome :=
  let remoteKey := keyRegistry.get peerId
  match attempt.connect with
  | .error error => .ok (withoutSession peers keyRegistry error)
  | .ok remote =>
      match Session.initiate prims remote remoteKey with
      | .error failure =>
          -- A failed XK handshake evicts the key, so that the next attempt uses XX.
          let registry := if remoteKey.isSome then keyRegistry.remove peerId else keyRegistry
          .ok (withoutSession peers registry failure.toError)
      | .ok session => overSession prims keyRegistry peers peerId payload messageId attempt session

end TrySend

/-! ## Whom an attempt serves -/

section Bound

variable {prims : Primitives} {keyRegistry : KeyRegistryState} {peers : PeerTable}
  {peerId : PeerId} {payload : Bytes} {messageId : UInt64} {attempt : Attempt}

/-- The frame leaves, addresses are merged and the call succeeds only on a
session with the intended peer. -/
structure OnlyTo (peer : PeerId) (outcome : TrySendOutcome) : Prop where
  transmitted : outcome.transmitted ≠ none → outcome.sessionPeer = some peer
  upserted : outcome.upserted ≠ none → outcome.sessionPeer = some peer
  acknowledged : ∀ learnedKey, outcome.result = .ok learnedKey → outcome.sessionPeer = some peer

/-- Neither can the frame be sent nor is the exchange reply an address list. -/
def Attempt.Silent (payload : Bytes) (messageId : UInt64) (attempt : Attempt) : Prop :=
  sentBytes attempt.frameLink (frameMessage messageId payload) = none ∧
    decodeReply attempt.exchangeReply = .ok none

theorem without_session_only_to (keyRegistry : KeyRegistryState) (error : Error) :
    OnlyTo peerId (withoutSession peers keyRegistry error) := by
  constructor
  · exact fun sent => absurd rfl sent
  · exact fun merged => absurd rfl merged
  · intro learnedKey succeeded
    cases succeeded

theorem decode_reply_total (reply : Received) : ∃ exchanged, decodeReply reply = .ok exchanged := by
  cases reply with
  | bytes received => exact decode_addr_exchange_total received
  | failed error => exact ⟨none, rfl⟩
  | timedOut => exact ⟨none, rfl⟩

theorem session_outcome_only_to_iff (session : Session prims)
    (exchanged : Option (List PeerAddress)) :
    OnlyTo peerId
        (sessionOutcome prims keyRegistry peers peerId payload messageId attempt session
          exchanged) ↔
      session.peerId = peerId ∨
        (sentBytes attempt.frameLink (frameMessage messageId payload) = none ∧
          exchanged = none) := by
  constructor
  · intro given
    rcases given with ⟨transmitted, upserted, -⟩
    simp only [sessionOutcome, Option.some.injEq, ne_eq, Option.map_eq_none_iff]
      at transmitted upserted
    by_cases same : session.peerId = peerId
    · exact .inl same
    · exact .inr ⟨not_imp_comm.mp transmitted same, not_imp_comm.mp upserted same⟩
  · intro given
    rcases given with same | ⟨unsent, rfl⟩
    · have session_eq : some session.peerId = some peerId := congrArg some same
      exact ⟨fun _ => session_eq, fun _ => session_eq, fun _ _ => session_eq⟩
    · constructor
      · simp [sessionOutcome, unsent]
      · simp [sessionOutcome]
      · intro learnedKey succeeded
        simp only [sessionOutcome] at succeeded
        unfold sentBytes at unsent
        split at unsent
        · cases unsent
        · rename_i refused
          simp [refused] at succeeded

theorem over_session_only_to_iff (attempt : Attempt) (session : Session prims)
    (keyRegistry : KeyRegistryState) (peers : PeerTable) (peerId : PeerId) (payload : Bytes)
    (messageId : UInt64) :
    ∃ outcome,
      overSession prims keyRegistry peers peerId payload messageId attempt session = .ok outcome ∧
        (OnlyTo peerId outcome ↔
          session.peerId = peerId ∨ attempt.Silent payload messageId) := by
  rcases decode_reply_total attempt.exchangeReply with ⟨exchanged, decoded⟩
  refine ⟨_, by rw [overSession, decoded, checked_bind_ok], ?_⟩
  rw [session_outcome_only_to_iff, Attempt.Silent, decoded, Except.ok.injEq]

theorem try_send_over_session {remote : Remote} (connected : attempt.connect = .ok remote)
    (accepted : remote.refusal (keyRegistry.get peerId) = none) :
    trySend prims keyRegistry peers peerId payload messageId attempt =
      overSession prims keyRegistry peers peerId payload messageId attempt
        (Session.finish prims remote.staticKey) := by
  simp only [trySend, connected, Session.initiate, accepted]

theorem try_send_refused {remote : Remote} {failure : HandshakeFailure}
    (connected : attempt.connect = .ok remote)
    (refused : remote.refusal (keyRegistry.get peerId) = some failure) :
    trySend prims keyRegistry peers peerId payload messageId attempt =
      .ok (withoutSession peers
        (if (keyRegistry.get peerId).isSome then keyRegistry.remove peerId else keyRegistry)
        failure.toError) := by
  simp only [trySend, connected, Session.initiate, refused]

/-- A call serves only the intended peer if and only if no session arises, or
the party that answers holds a key of that peer, or nothing leaves and nothing
is merged. With a key in a well-bound registry the call is always safe: the XK
handshake asks for that key. -/
theorem try_send_only_to_peer_iff (prims : Primitives) (keyRegistry : KeyRegistryState)
    (peers : PeerTable) (peerId : PeerId) (payload : Bytes) (messageId : UInt64)
    (attempt : Attempt) :
    ∃ outcome, trySend prims keyRegistry peers peerId payload messageId attempt = .ok outcome ∧
      (OnlyTo peerId outcome ↔
        ∀ remote, attempt.connect = .ok remote → remote.refusal (keyRegistry.get peerId) = none →
          peerIdFromPublicKey prims remote.staticKey = peerId ∨
            attempt.Silent payload messageId) ∧
      (KeyRegistryState.Bound prims keyRegistry → keyRegistry.get peerId ≠ none →
        OnlyTo peerId outcome) := by
  cases connected : attempt.connect with
  | error error =>
      refine ⟨_, by rw [trySend, connected], ?_, fun _ _ => without_session_only_to _ _⟩
      refine ⟨fun _ remote impossible => ?_, fun _ => without_session_only_to _ _⟩
      cases impossible
  | ok remote =>
      cases refused : remote.refusal (keyRegistry.get peerId) with
      | some failure =>
          refine ⟨_, try_send_refused connected refused, ?_,
            fun _ _ => without_session_only_to _ _⟩
          refine ⟨fun _ other same accepted => ?_, fun _ => without_session_only_to _ _⟩
          cases same
          simp [refused] at accepted
      | none =>
          rcases over_session_only_to_iff attempt
            (Session.finish prims remote.staticKey) keyRegistry peers peerId payload messageId with
              ⟨outcome, completed, only⟩
          refine ⟨outcome, (try_send_over_session connected refused).trans completed, ?_, ?_⟩
          · rw [only]
            constructor
            · intro safe other same _
              cases same
              exact safe
            · exact fun safe => safe remote rfl refused
          · intro bound known
            obtain ⟨key, found⟩ := Option.ne_none_iff_exists'.mp known
            rw [found] at refused
            have answered := remote.authentic key refused
            exact only.mpr (.inl ((bound peerId key found).trans (by rw [answered]; rfl)).symm)

end Bound

/-! ## The XX fallback reaches whoever answers -/

def SendsOnlyToPeer : Prop :=
  ∀ (prims : Primitives) (keyRegistry : KeyRegistryState) (peers : PeerTable) (peerId : PeerId)
    (payload : Bytes) (messageId : UInt64) (attempt : Attempt) (outcome : TrySendOutcome),
    KeyRegistryState.Bound prims keyRegistry →
    trySend prims keyRegistry peers peerId payload messageId attempt = .ok outcome →
    OnlyTo peerId outcome

def keyHolder (key : PublicKey) : Remote where
  staticKey := key
  refusal
    | none => none
    | some expected => if expected = key then none else some (.noise "decrypt error")
  authentic := by
    intro expected accepted
    by_contra foreign
    simp [foreign] at accepted

def sampleRemote (number : UInt8) : Remote := keyHolder (samplePeer number).octets

/-- Peer 9 completes any handshake that its own key can complete. -/
def impostor : Remote := sampleRemote 9

def answeredByImpostor : Attempt where
  connect := .ok impostor
  localAddresses := []
  exchangeLink := none
  exchangeReply := .timedOut
  frameLink := none
  ackReply := .bytes []

/-- The registry that a first attempt for peer 2 leaves behind: the impostor made
the XK handshake fail, so the true key of peer 2 is gone. -/
def afterEviction : KeyRegistryState :=
  match trySend clearPrimitives (keysOf [2]) ∅ (samplePeer 2) [42] 5 answeredByImpostor with
  | .ok outcome => outcome.keyRegistry
  | .error _ => keysOf [2]

theorem after_eviction_eq : afterEviction = (keysOf [2]).remove (samplePeer 2) := rfl

theorem fallback_serves_impostor : ¬ SendsOnlyToPeer := by
  intro safe
  rcases over_session_only_to_iff answeredByImpostor
    (Session.finish clearPrimitives (samplePeer 9).octets) afterEviction ∅ (samplePeer 2) [42] 5 with
      ⟨outcome, completed, only⟩
  have bound : KeyRegistryState.Bound clearPrimitives afterEviction := by
    rw [after_eviction_eq]
    exact KeyRegistryState.bound_remove (keysOf_bound _) _
  have unknown : afterEviction.get (samplePeer 2) = none := by
    rw [after_eviction_eq, KeyRegistryState.get_remove, if_pos rfl]
  have answered : trySend clearPrimitives afterEviction ∅ (samplePeer 2) [42] 5
      answeredByImpostor = .ok outcome := by
    have accepted : impostor.refusal (afterEviction.get (samplePeer 2)) = none := by
      rw [unknown]
      rfl
    exact (try_send_over_session rfl accepted).trans completed
  rcases only.mp (safe _ _ _ _ _ _ _ outcome bound answered) with same | ⟨unsent, -⟩
  · exact absurd ((clear_peer_id _).symm.trans same) (by decide)
  · exact absurd unsent (by decide)

end Pathweave
