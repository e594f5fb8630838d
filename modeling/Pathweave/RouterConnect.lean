import Pathweave.DepartureOwners
import Pathweave.FrameAgreement
import Pathweave.RouterControl

/-!
# Connecting to a peer and sending to it

`Router::connect` dials the given addresses, cheapest transports first, and returns the
identity of whoever completes a handshake first. `PathweaveNode::connect` lists the
address under that identity. A later `send` asks for the key that the handshake revealed.
Each call is taken as a whole; what other tasks may do between its steps is in
`NodeTasks`.
-/

namespace Pathweave

open ByteStrings GuardedRuns

set_option autoImplicit false

variable {prims : Primitives}

/-! ## One address -/

structure ConnectAttempt where
  connect : Except Error Remote
  localAddresses : List PeerAddress
  exchangeLink : Option Error
  exchangeReply : Received

structure TryConnectOutcome where
  keyRegistry : KeyRegistryState
  peers : PeerTable
  /-- The control frame with the own addresses, if it left. -/
  offered : Option Bytes
  result : Except Error (PeerId × Option PublicKey)

section TryConnect

variable (prims : Primitives) (keyRegistry : KeyRegistryState) (peers : PeerTable)
  (attempt : ConnectAttempt)

def notConnected (error : Error) : TryConnectOutcome where
  keyRegistry := keyRegistry
  peers := peers
  offered := none
  result := .error error

/-- Behind the handshake nothing fails the call any more. -/
def connectOutcome (session : Session prims) (exchanged : Option (List PeerAddress)) :
    TryConnectOutcome :=
  let inserted := keyRegistry.insertDirect session.peerId session.remoteStaticKey
  { keyRegistry := inserted.1
    peers := mergeExchanged peers session.peerId exchanged
    offered := sentBytes attempt.exchangeLink (encodeAddrExchange attempt.localAddresses)
    result := .ok (session.peerId, if inserted.2 then some session.remoteStaticKey else none) }

def tryConnect : Checked TryConnectOutcome :=
  match attempt.connect with
  | .error error => .ok (notConnected keyRegistry peers error)
  | .ok remote =>
      match Session.initiate prims remote none with
      | .error failure => .ok (notConnected keyRegistry peers failure.toError)
      | .ok session => do
          let exchanged ← decodeReply attempt.exchangeReply
          .ok (connectOutcome prims keyRegistry peers attempt session exchanged)

def ConnectAttempt.answers : Option PublicKey :=
  match attempt.connect with
  | .error _ => none
  | .ok remote =>
      match remote.refusal none with
      | some _ => none
      | none => some remote.staticKey

variable {attempt}

theorem try_connect_silent (silent : attempt.answers = none) :
    ∃ error, tryConnect prims keyRegistry peers attempt =
      .ok (notConnected keyRegistry peers error) := by
  unfold ConnectAttempt.answers at silent
  unfold tryConnect
  cases connected : attempt.connect with
  | error error => exact ⟨error, rfl⟩
  | ok remote =>
      rw [connected] at silent
      cases refusal : remote.refusal none with
      | none => simp [refusal] at silent
      | some failure => exact ⟨failure.toError, by simp [Session.initiate, refusal]⟩

theorem answers_some {key : PublicKey} (answered : attempt.answers = some key) :
    ∃ remote, attempt.connect = .ok remote ∧ remote.refusal none = none ∧
      remote.staticKey = key := by
  unfold ConnectAttempt.answers at answered
  cases connected : attempt.connect with
  | error error => simp [connected] at answered
  | ok remote =>
      rw [connected] at answered
      cases refusal : remote.refusal none with
      | some failure => simp [refusal] at answered
      | none => exact ⟨remote, rfl, refusal, by simpa [refusal] using answered⟩

theorem try_connect_answered {key : PublicKey} (answered : attempt.answers = some key) :
    ∃ exchanged, decodeReply attempt.exchangeReply = .ok exchanged ∧
      tryConnect prims keyRegistry peers attempt =
        .ok (connectOutcome prims keyRegistry peers attempt (Session.finish prims key)
          exchanged) := by
  obtain ⟨exchanged, decoded⟩ := decode_reply_total attempt.exchangeReply
  obtain ⟨remote, connected, accepted, rfl⟩ := answers_some answered
  refine ⟨exchanged, decoded, ?_⟩
  simp only [tryConnect, connected, Session.initiate, accepted, decoded, checked_bind_ok]

end TryConnect

/-! ## The candidates in turn -/

/-- What a call of `Router::connect` has done so far. -/
structure ConnectLog where
  keyRegistry : KeyRegistryState
  peers : PeerTable
  dialled : List (TransportEntry × PeerAnnouncement)
  events : List TransportEvent

def ConnectLog.answered (prims : Primitives) (log : ConnectLog)
    (dialled : List (TransportEntry × PeerAnnouncement)) (key : PublicKey)
    (exchanged : Option (List PeerAddress)) : ConnectLog :=
  let peer := peerIdFromPublicKey prims key
  { keyRegistry := (log.keyRegistry.insertDirect peer key).1
    peers := mergeExchanged log.peers peer exchanged
    dialled := log.dialled ++ dialled
    events := log.events ++
      if (log.keyRegistry.get peer).isNone then [.keyLearned peer key] else [] }

section Connect

variable (prims : Primitives) (attempts : Nat → ConnectAttempt)

def connectInTurn : List (TransportEntry × PeerAnnouncement) → ConnectLog →
    Checked (ConnectLog × Except Error PeerId)
  | [], log => .ok (log, .error .noTransportAvailable)
  | candidate :: rest, log => do
      let outcome ← tryConnect prims log.keyRegistry log.peers (attempts log.dialled.length)
      let after : ConnectLog :=
        { log with
          keyRegistry := outcome.keyRegistry
          peers := outcome.peers
          dialled := log.dialled ++ [candidate] }
      match outcome.result with
      | .ok (peer, learned) =>
          .ok ({ after with events := log.events ++ (learned.map (.keyLearned peer)).toList },
            .ok peer)
      | .error _ => connectInTurn rest after

def routerConnect (transports : List TransportEntry) (announcements : List PeerAnnouncement)
    (keyRegistry : KeyRegistryState) (peers : PeerTable) :
    Checked (ConnectLog × Except Error PeerId) :=
  connectInTurn prims attempts (candidatesFor transports announcements)
    { keyRegistry := keyRegistry, peers := peers, dialled := [], events := [] }

variable {attempts}

theorem connect_silent {candidate : TransportEntry × PeerAnnouncement}
    (rest : List (TransportEntry × PeerAnnouncement)) (log : ConnectLog)
    (silent : (attempts log.dialled.length).answers = none) :
    connectInTurn prims attempts (candidate :: rest) log =
      connectInTurn prims attempts rest
        { log with dialled := log.dialled ++ [candidate] } := by
  obtain ⟨error, outcome⟩ := try_connect_silent prims log.keyRegistry log.peers silent
  rw [connectInTurn, outcome]
  rfl

theorem connect_answered (candidate : TransportEntry × PeerAnnouncement)
    (rest : List (TransportEntry × PeerAnnouncement)) (log : ConnectLog) {key : PublicKey}
    (answered : (attempts log.dialled.length).answers = some key) :
    ∃ exchanged, decodeReply (attempts log.dialled.length).exchangeReply = .ok exchanged ∧
      connectInTurn prims attempts (candidate :: rest) log =
        .ok (log.answered prims [candidate] key exchanged,
          .ok (peerIdFromPublicKey prims key)) := by
  obtain ⟨exchanged, decoded, outcome⟩ :=
    try_connect_answered prims log.keyRegistry log.peers answered
  refine ⟨exchanged, decoded, ?_⟩
  rw [connectInTurn, outcome, checked_bind_ok]
  have flag : (log.keyRegistry.insertDirect (peerIdFromPublicKey prims key) key).2 =
      (log.keyRegistry.get (peerIdFromPublicKey prims key)).isNone := rfl
  simp only [connectOutcome, Session.finish, flag, ConnectLog.answered]
  cases log.keyRegistry.get (peerIdFromPublicKey prims key) with
  | none => rfl
  | some other => rfl

variable (attempts)

/-- How dialling candidates in turn ends: at the first completed handshake, or with
nothing changed once all were dialled. -/
inductive ConnectedInTurn (candidates : List (TransportEntry × PeerAnnouncement))
    (log : ConnectLog) : ConnectLog → Except Error PeerId → Prop where
  | answered {before after : List (TransportEntry × PeerAnnouncement)}
      {candidate : TransportEntry × PeerAnnouncement} {key : PublicKey}
      {exchanged : Option (List PeerAddress)} (split : candidates = before ++ candidate :: after)
      (silent : ∀ index < before.length,
        (attempts (log.dialled.length + index)).answers = none)
      (answers : (attempts (log.dialled.length + before.length)).answers = some key)
      (decoded : decodeReply (attempts (log.dialled.length + before.length)).exchangeReply =
        .ok exchanged) :
      ConnectedInTurn candidates log
        (log.answered prims (before ++ [candidate]) key exchanged)
        (.ok (peerIdFromPublicKey prims key))
  | exhausted
      (silent : ∀ index < candidates.length,
        (attempts (log.dialled.length + index)).answers = none) :
      ConnectedInTurn candidates log { log with dialled := log.dialled ++ candidates }
        (.error .noTransportAvailable)

variable {attempts}

theorem connected_after_silence {candidate : TransportEntry × PeerAnnouncement}
    {rest : List (TransportEntry × PeerAnnouncement)} {log final : ConnectLog}
    {result : Except Error PeerId} (silent : (attempts log.dialled.length).answers = none)
    (connected : ConnectedInTurn prims attempts rest
      { log with dialled := log.dialled ++ [candidate] } final result) :
    ConnectedInTurn prims attempts (candidate :: rest) log final result := by
  have shifted : ∀ count,
      (∀ index < count, (attempts ((log.dialled ++ [candidate]).length + index)).answers = none) →
        ∀ index < count + 1, (attempts (log.dialled.length + index)).answers = none := by
    intro count later index inside
    cases index with
    | zero => exact silent
    | succ index =>
        have next := later index (Nat.lt_of_succ_lt_succ inside)
        rwa [List.length_append, List.length_singleton, Nat.add_assoc, Nat.add_comm 1] at next
  cases connected with
  | @answered before after last key exchanged split quiet answers decoded =>
      have place : (log.dialled ++ [candidate]).length + before.length =
          log.dialled.length + (candidate :: before).length := by
        simp only [List.length_append, List.length_cons, List.length_nil]
        omega
      rw [place] at answers decoded
      have whole : ConnectedInTurn prims attempts (candidate :: rest) log
          (log.answered prims (candidate :: before ++ [last]) key exchanged) _ :=
        .answered (by rw [split]; rfl) (shifted _ quiet) answers decoded
      rw [List.cons_append] at whole
      simpa [ConnectLog.answered] using whole
  | exhausted quiet =>
      have whole : ConnectedInTurn prims attempts (candidate :: rest) log _ _ :=
        .exhausted (shifted _ quiet)
      simpa using whole

theorem connected_in_turn (candidates : List (TransportEntry × PeerAnnouncement))
    (log : ConnectLog) :
    ∃ final result, connectInTurn prims attempts candidates log = .ok (final, result) ∧
      ConnectedInTurn prims attempts candidates log final result := by
  induction candidates generalizing log with
  | nil =>
      refine ⟨log, _, rfl, ?_⟩
      have none : ConnectedInTurn prims attempts [] log _ _ :=
        .exhausted fun index inside => absurd inside (Nat.not_lt_zero index)
      simpa using none
  | cons candidate rest ih =>
      cases answers : (attempts log.dialled.length).answers with
      | none =>
          rw [connect_silent prims rest log answers]
          obtain ⟨final, result, ended, connected⟩ :=
            ih { log with dialled := log.dialled ++ [candidate] }
          exact ⟨final, result, ended, connected_after_silence prims answers connected⟩
      | some key =>
          obtain ⟨exchanged, decoded, ended⟩ :=
            connect_answered prims candidate rest log answers
          have first : ConnectedInTurn prims attempts (candidate :: rest) log
              (log.answered prims ([] ++ [candidate]) key exchanged) _ :=
            .answered rfl (fun index inside => absurd inside (Nat.not_lt_zero index)) answers
              decoded
          exact ⟨_, _, ended, first⟩

theorem router_connect_in_turn (attempts : Nat → ConnectAttempt)
    (transports : List TransportEntry) (announcements : List PeerAnnouncement)
    (keyRegistry : KeyRegistryState) (peers : PeerTable) :
    ∃ final result,
      routerConnect prims attempts transports announcements keyRegistry peers =
        .ok (final, result) ∧
      ConnectedInTurn prims attempts (candidatesFor transports announcements)
        { keyRegistry := keyRegistry, peers := peers, dialled := [], events := [] } final
        result :=
  connected_in_turn prims _ _

end Connect

/-- `Router::connect` dials the matching pairs in the order of their cost up to the first
completed handshake. It returns the identity behind the key that was revealed there, has
inserted that key and reports it if the peer had none. Dialling the others has changed
nothing. -/
theorem router_connect_first_answer (prims : Primitives) (attempts : Nat → ConnectAttempt)
    (transports : List TransportEntry) (announcements : List PeerAnnouncement)
    (keyRegistry : KeyRegistryState) (peers : PeerTable) :
    ∃ final result,
      routerConnect prims attempts transports announcements keyRegistry peers =
        .ok (final, result) ∧
      ConnectedInTurn prims attempts (costSorted transports announcements)
        { keyRegistry := keyRegistry, peers := peers, dialled := [], events := [] } final
        result := by
  rw [← candidates_for_sorted]
  exact router_connect_in_turn prims attempts transports announcements keyRegistry peers

/-! ## A node connects and sends -/

/-- The drains that `connect` runs before it returns. -/
inductive StoreDrain where
  | direct (peer : PeerId)
  | routedAll
  deriving DecidableEq

/-- What a call of `PathweaveNode::connect` leaves behind, up to the effect of its drains. -/
structure NodeConnected (prims : Primitives) where
  node : NodeState prims
  knownAddrs : Finset PeerAddress
  events : List TransportEvent
  drains : List StoreDrain

def nodeConnect (attempts : Nat → ConnectAttempt) (transports : List TransportEntry)
    (announcement : PeerAnnouncement) (node : NodeState prims)
    (knownAddrs : Finset PeerAddress) :
    Checked (NodeConnected prims × Except Error PeerId) := do
  let (log, result) ←
    routerConnect prims attempts transports [announcement] node.keyRegistry node.peers
  match result with
  | .error error =>
      .ok ({ node := { node with keyRegistry := log.keyRegistry, peers := log.peers }
             knownAddrs := knownAddrs
             events := log.events
             drains := [] }, .error error)
  | .ok peer =>
      .ok ({ node :=
               { node with
                 keyRegistry := log.keyRegistry
                 peers := listAnnouncement log.peers peer announcement }
             knownAddrs := insert announcement.address knownAddrs
             events := log.events
             drains := [.direct peer, .routedAll] }, .ok peer)

/-- The party with the key is reached, takes part in the handshake that asks for it, and
acknowledges the frame. -/
structure Acknowledges (key : PublicKey) (attempt : Attempt) : Prop where
  reached : ∃ remote, attempt.connect = .ok remote ∧ remote.refusal (some key) = none
  frame : attempt.frameLink = none
  acked : ∃ bytes, attempt.ackReply = .bytes bytes

section NodeConnect

variable {attempts : Nat → ConnectAttempt} {transports : List TransportEntry}
  {announcement : PeerAnnouncement} {node : NodeState prims} {knownAddrs : Finset PeerAddress}
  {after : NodeConnected prims} {peer : PeerId}

theorem node_connected
    (connected : nodeConnect attempts transports announcement node knownAddrs =
      .ok (after, .ok peer)) :
    ∃ key, peer = peerIdFromPublicKey prims key ∧
      after.node.keyRegistry = (node.keyRegistry.insertDirect peer key).1 ∧
      after.node.identity = node.identity ∧
      Lists after.node.peers peer announcement.address ∧
      announcement.address ∈ after.knownAddrs ∧
      after.drains = [.direct peer, .routedAll] := by
  obtain ⟨final, result, returned, turn⟩ := router_connect_in_turn prims attempts transports
    [announcement] node.keyRegistry node.peers
  rw [nodeConnect, returned, checked_bind_ok] at connected
  cases turn with
  | exhausted silent => simp at connected
  | @answered before later candidate key exchanged split silent answers decoded =>
      simp only [Except.ok.injEq, Prod.mk.injEq] at connected
      obtain ⟨rfl, rfl⟩ := connected
      refine ⟨key, rfl, rfl, rfl, ?_, Finset.mem_insert_self .., rfl⟩
      exact (lists_announced announcement).mpr (.inr (List.mem_singleton_self _))

/-- One dialled address that answers, as a run of the tasks of a node. -/
theorem connect_task_runs (world : NodeWorld prims) (announcement : PeerAnnouncement)
    {remote : Remote} {key : PublicKey} {reply : Received}
    {exchanged : Option (List PeerAddress)}
    (completed : Session.initiate prims remote none = .ok (Session.finish prims key))
    (decoded : decodeReply reply = .ok exchanged) :
    ∃ labels final, execute nodeStep world labels = some final ∧
      final.node =
        { world.node with
          keyRegistry :=
            (world.node.keyRegistry.insertDirect (peerIdFromPublicKey prims key) key).1
          peers := listAnnouncement
            (mergeExchanged world.node.peers (peerIdFromPublicKey prims key) exchanged)
            (peerIdFromPublicKey prims key) announcement } ∧
      final.knownAddrs = insert announcement.address world.knownAddrs ∧
      final.events = world.events ++
        (if (world.node.keyRegistry.get (peerIdFromPublicKey prims key)).isNone then
          [.keyLearned (peerIdFromPublicKey prims key) key] else []) ∧
      final.tasks = world.tasks := by
  let place := world.tasks.length
  refine ⟨[.connect announcement, .handshake place remote, .exchange place reply,
    .proceed place, .proceed place, .proceed place], ?_⟩
  have flag : (world.node.keyRegistry.insertDirect (peerIdFromPublicKey prims key) key).2 =
      (world.node.keyRegistry.get (peerIdFromPublicKey prims key)).isNone := rfl
  have last : ∀ task, (world.tasks ++ [task])[world.tasks.length]? = some task := by simp
  have replaced : ∀ task next, (world.tasks ++ [task]).set world.tasks.length next =
      world.tasks ++ [next] := by simp
  have ended : ∀ task, (world.tasks ++ [task]).eraseIdx world.tasks.length = world.tasks := by
    simp [List.eraseIdx_append_of_length_le]
  simp only [execute, nodeStep, place, NodeWorld.spawn, NodeWorld.setTask, NodeWorld.learn,
    NodeWorld.isNewKey, NodeWorld.withRegistry, NodeWorld.withPeers, NodeWorld.emit,
    NodeWorld.endTask, handshakeStep, exchangeStep, proceedStep, completed, decoded, last,
    replaced, ended, flag, keyEvents, Session.finish, Option.bind_some]
  exact ⟨_, rfl, rfl, rfl, rfl, rfl⟩

/-- A call that returns a peer is one of the runs of the node's tasks: what it leaves
behind is reached there when no other task moves meanwhile. -/
theorem node_connect_runs (world : NodeWorld prims)
    (connected : nodeConnect attempts transports announcement world.node world.knownAddrs =
      .ok (after, .ok peer)) :
    ∃ labels final, execute nodeStep world labels = some final ∧ final.node = after.node ∧
      final.knownAddrs = after.knownAddrs ∧ final.events = world.events ++ after.events ∧
      final.tasks = world.tasks := by
  obtain ⟨log, result, returned, turn⟩ := router_connect_in_turn prims attempts transports
    [announcement] world.node.keyRegistry world.node.peers
  rw [nodeConnect, returned, checked_bind_ok] at connected
  cases turn with
  | exhausted silent => simp at connected
  | @answered before later candidate key exchanged split silent answers decoded =>
      simp only [Except.ok.injEq, Prod.mk.injEq] at connected
      obtain ⟨rfl, rfl⟩ := connected
      obtain ⟨remote, -, accepted, rfl⟩ := answers_some answers
      exact connect_task_runs world announcement (by rw [Session.initiate, accepted]) decoded

end NodeConnect

section FirstTry

variable {call : SendCall} {tries : Nat → TimedAttempt} {state : CallState prims}
  {key : PublicKey}

theorem acknowledged_try (peer : call.peerId = peerIdFromPublicKey prims key)
    (known : state.keyRegistry.get call.peerId = some key)
    (fits : fitsSession call.frame = true)
    (acknowledges : Acknowledges key (tries state.tries).attempt) :
    ∃ outcome, trySend prims state.keyRegistry state.peers call.peerId call.payload
        call.messageId (tries state.tries).attempt = .ok outcome ∧
      outcome.transmitted = some call.frame ∧ outcome.result = .ok none ∧
      outcome.keyRegistry.get call.peerId = some key := by
  obtain ⟨⟨remote, connected, accepted⟩, link, bytes, acked⟩ := acknowledges
  have holder : key = remote.staticKey := remote.authentic key accepted
  obtain ⟨exchanged, decoded⟩ := decode_reply_total (tries state.tries).attempt.exchangeReply
  rw [← known] at accepted
  refine ⟨_, (try_send_over_session connected accepted).trans
    (by rw [overSession, decoded, checked_bind_ok]), ?_, ?_, ?_⟩
  · simp only [sessionOutcome, sentBytes, sessionSend, link]
    rw [show frameMessage call.messageId call.payload = call.frame from rfl, fits]
    rfl
  · have flag : (state.keyRegistry.insertDirect (peerIdFromPublicKey prims remote.staticKey)
        remote.staticKey).2 = false := by
      show (state.keyRegistry.get _).isNone = false
      rw [← holder, ← peer, known]
      rfl
    simp only [sessionOutcome, sessionSend, link, acked, Session.finish, flag]
    rw [show frameMessage call.messageId call.payload = call.frame from rfl, fits]
    rfl
  · show (state.keyRegistry.insertDirect (peerIdFromPublicKey prims remote.staticKey)
      remote.staticKey).1.get call.peerId = some key
    rw [← holder, ← peer, KeyRegistryState.get_insert_direct, if_pos rfl]

theorem acknowledged_once (peer : call.peerId = peerIdFromPublicKey prims key)
    (known : state.keyRegistry.get call.peerId = some key)
    (fits : fitsSession call.frame = true)
    (acknowledges : Acknowledges key (tries state.tries).attempt) :
    ∃ sentAt, (tryOnce call tries state).2 = true ∧
      (tryOnce call tries state).1.events = state.events ++ [.messageDelivered call.peerId] ∧
      (tryOnce call tries state).1.handled =
        (receiveFrame call (tries state.tries).processed sentAt state
          (some call.frame)).handled ∧
      (tryOnce call tries state).1.receiver =
        (receiveFrame call (tries state.tries).processed sentAt state
          (some call.frame)).receiver ∧
      (tryOnce call tries state).1.keyRegistry.get call.peerId = some key := by
  obtain ⟨outcome, tried, transmitted, result, kept⟩ :=
    acknowledged_try peer known fits acknowledges
  simp only [tryOnce, tried, transmitted, result]
  exact ⟨_, rfl, rfl, rfl, rfl, kept⟩

theorem acknowledged_send {plan : DialPlan}
    (peer : call.peerId = peerIdFromPublicKey prims key)
    (known : state.keyRegistry.get call.peerId = some key)
    (fits : fitsSession call.frame = true)
    (acknowledges : Acknowledges key (tries state.tries).attempt)
    (started : plan.initially.any (fun entry => entry.available) = true)
    (dialled : plan.candidatesAt 0 ≠ []) :
    routerSend plan call tries state = ((tryOnce call tries state).1, .ok ()) := by
  obtain ⟨sentAt, succeeded, -⟩ := acknowledged_once peer known fits acknowledges
  cases candidates : plan.candidatesAt 0 with
  | nil => exact absurd candidates dialled
  | cons candidate rest =>
      have pass : tryCandidates call tries (candidate :: rest) state =
          ((tryOnce call tries state).1, true) := by
        rw [tryCandidates]
        split
        · next ended success => rw [success]
        · next ended failure =>
            rw [failure] at succeeded
            cases succeeded
      rw [routerSend, if_pos started]
      simp only [maxSendAttempts, sendPasses, candidates, List.isEmpty_cons, Bool.false_eq_true,
        if_false, pass]

end FirstTry

theorem fits_direct {payload : Bytes} (short : payload.length ≤ 65510) (messageId : UInt64) :
    fitsSession (frameMessage messageId (directBody payload)) = true := by
  simp [fitsSession, directBody, noiseMsgMax]
  omega

theorem candidates_of_listed {plan : DialPlan} {peers : PeerTable} {peer : PeerId}
    {address : PeerAddress} (listed : Lists peers peer address)
    (announcements : plan.announcements = announcementsOf peers peer) {entry : TransportEntry}
    (registered : entry ∈ plan.transports 0) (available : entry.available = true)
    (kind : entry.kind = address.kind) : plan.candidatesAt 0 ≠ [] := by
  obtain ⟨announcement, present, same⟩ := List.mem_map.mp listed
  have pair : (entry, announcement) ∈ matchingPairs (plan.transports 0) plan.announcements := by
    rw [matchingPairs, List.mem_filter, List.mem_product, announcements]
    exact ⟨⟨registered, present⟩, by simp [available, kind, ← same]⟩
  have kept : (entry, announcement) ∈ plan.candidatesAt 0 := by
    rw [DialPlan.candidatesAt, candidatesFor, matching_pairs_eq]
    exact List.mem_mergeSort.mpr pair
  exact List.ne_nil_of_mem kept

theorem first_handled {call : SendCall} {state : CallState prims} {payload : Bytes}
    (body : call.payload = directBody payload) (now : Nat)
    (handler : state.receiver.handlerRegistered = true)
    (unseen : state.receiver.dedup.seen (call.sender, call.messageId) = none) :
    (receiveFrame call true now state (some call.frame)).handled =
        state.handled ++ [(call.sender, payload)] ∧
      (receiveFrame call true now state (some call.frame)).receiver.handlerRegistered = true ∧
      ∀ other, other ≠ call.messageId →
        state.receiver.dedup.seen (call.sender, other) = none →
        (receiveFrame call true now state (some call.frame)).receiver.dedup.seen
          (call.sender, other) = none := by
  have first : (checkAndInsertKey state.receiver.dedup.ttl now (call.sender, call.messageId)
      state.receiver.dedup.seen).1 = false :=
    check_first fun inserted seen => by cases unseen.symm.trans seen
  rw [receive_frame_processed, SendCall.frame, body, parse_direct]
  refine ⟨?_, ?_, fun other apart absent => ?_⟩
  · simp [frameOutcome, DeduplicationCache.checkAndInsert, first, acknowledged,
      NodeState.onMessage, handler]
  · simp [frameOutcome, DeduplicationCache.checkAndInsert, first, acknowledged, handler]
  · simp only [frameOutcome, DeduplicationCache.checkAndInsert, first, acknowledged]
    cases entry : (checkAndInsertKey state.receiver.dedup.ttl now (call.sender, call.messageId)
        state.receiver.dedup.seen).2 (call.sender, other) with
    | none => exact entry
    | some inserted =>
        rcases check_entry entry with old | ⟨-, same, -⟩
        · cases absent.symm.trans old
        · exact absurd (Prod.mk.inj same).2 apart

def peripheralAnnouncement : PeerAnnouncement where
  address := .ble "peripheral"
  shortId := none

def peripheralTransport : TransportEntry where
  kind := .ble
  cost := .free
  available := true

def sampleConnect : ConnectAttempt where
  connect := .ok (sampleRemote 2)
  localAddresses := []
  exchangeLink := none
  exchangeReply := .timedOut

def sampleTry : TimedAttempt where
  attempt :=
    { connect := .ok (sampleRemote 2)
      localAddresses := []
      exchangeLink := none
      exchangeReply := .failed (.session "closed")
      frameLink := none
      ackReply := .bytes [] }
  exchangeWait := 0
  ackWait := 0
  processed := true
  exchangeInTime := Nat.zero_le _
  exchangeExpires := fun expired => by cases expired
  ackInTime := Nat.zero_le _
  ackExpires := fun expired => by cases expired

theorem sample_connects :
    ∃ after, nodeConnect (fun _ => sampleConnect) [peripheralTransport] peripheralAnnouncement
      (sampleNode 1 [] []) ∅ = .ok (after, .ok (samplePeer 2)) := by
  have candidates : candidatesFor [peripheralTransport] [peripheralAnnouncement] =
      [(peripheralTransport, peripheralAnnouncement)] := by
    rw [candidates_for_sorted]
    rfl
  rw [nodeConnect, routerConnect, candidates]
  exact ⟨_, rfl⟩

end Pathweave
