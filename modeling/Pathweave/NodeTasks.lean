import Mathlib.Data.Finset.Basic
import Pathweave.GuardedRuns
import Pathweave.RoutedEffects
import Pathweave.TrySend

/-!
# The tasks of a node

Calls of the application, discovery, relays and incoming connections run as tasks
that share the key registry, the peer table, the known addresses and the event
channel. A task advances by one critical section at a time; a label picks the task
and fixes what the environment decides: who answers, what is received, which sends
fail and what the clock reads. A `Router::send` is a sequence of tries, and the
addresses it tries and when it gives up are left to the environment.
-/

namespace Pathweave

open ByteStrings GuardedRuns

set_option autoImplicit false

/-- On whose behalf `try_connect` dials an address. -/
inductive DialReason where
  | connect (announcement : PeerAnnouncement)
  | discovery (announcement : PeerAnnouncement)
  deriving DecidableEq

/-- A task and the local variables it holds. Where the source carries a
`learned_key`, the flag says whether the session's key was new. -/
inductive Task (prims : Primitives) where
  | sending (send : RouterSend)
  | dialing (send : RouterSend) (remoteKey : Option PublicKey)
  | exchanging (send : RouterSend) (session : Session prims) (isNewKey : Bool)
  | delivering (send : RouterSend) (session : Session prims) (isNewKey : Bool)
  | connecting (reason : DialReason)
  | connectExchanging (reason : DialReason) (session : Session prims) (isNewKey : Bool)
  | connected (reason : DialReason) (session : Session prims) (isNewKey : Bool)
  | recording (announcement : PeerAnnouncement) (peer : PeerId)
  | listing (announcement : PeerAnnouncement) (peer : PeerId)
  | notifying (session : Session prims) (isNewKey : Bool)
  | accepted (session : Session prims) (isNewKey : Bool)
  | awaitingFirst (session : Session prims)
  | serving (session : Session prims)

inductive TransportEvent where
  | messageDelivered (peer : PeerId)
  | keyLearned (peer : PeerId) (publicKey : PublicKey)
  | peerConnected (peer : PeerId)
  | peerDisconnected (peer : PeerId)
  deriving DecidableEq

structure DispatchRecord where
  sender : PeerId
  payload : Bytes
  time : Nat
  delivered : Option (PeerId × Bytes)

/-- The shared state, the running tasks and, as history, the events, the direct
insertions that found no entry and the dispatched frames. -/
structure NodeWorld (prims : Primitives) where
  node : NodeState prims
  knownAddrs : Finset PeerAddress
  clock : Nat
  tasks : List (Task prims)
  events : List TransportEvent
  inserted : List (PeerId × PublicKey)
  dispatched : List DispatchRecord

inductive NodeLabel where
  | onMessage
  | call (send : RouterSend)
  | connect (announcement : PeerAnnouncement)
  | addPeer (peer : PeerId) (announcement : PeerAnnouncement)
  | arrival (announcement : PeerAnnouncement)
  | departure (address : PeerAddress)
  | accept (remoteKey : PublicKey)
  | unreachable (task : Nat)
  | handshake (task : Nat) (remote : Remote)
  | exchange (task : Nat) (reply : Received)
  | delivery (task : Nat) (link : Option Error) (reply : Received)
  | proceed (task : Nat)
  | receive (task : Nat) (payload : Bytes) (now : Nat)
  | close (task : Nat)

variable {prims : Primitives}

namespace NodeWorld

variable (state : NodeWorld prims)

def start (identity : NodeIdentity prims) (peers : PeerTable) (maxKeyRegistrySize : Option Nat) :
    NodeWorld prims where
  node :=
    { identity := identity
      dedup := .new
      handlerRegistered := false
      peers := peers
      keyRegistry := .empty maxKeyRegistrySize }
  knownAddrs := ∅
  clock := 0
  tasks := []
  events := []
  inserted := []
  dispatched := []

def spawn (task : Task prims) : NodeWorld prims := { state with tasks := state.tasks ++ [task] }

def setTask (index : Nat) (task : Task prims) : NodeWorld prims :=
  { state with tasks := state.tasks.set index task }

def endTask (index : Nat) : NodeWorld prims :=
  { state with tasks := state.tasks.eraseIdx index }

def withRegistry (registry : KeyRegistryState) : NodeWorld prims :=
  { state with node := { state.node with keyRegistry := registry } }

def withPeers (peers : PeerTable) : NodeWorld prims :=
  { state with node := { state.node with peers := peers } }

def emit (events : List TransportEvent) : NodeWorld prims :=
  { state with events := state.events ++ events }

def isNewKey (session : Session prims) : Bool :=
  (state.node.keyRegistry.insertDirect session.peerId session.remoteStaticKey).2

def learn (session : Session prims) : NodeWorld prims :=
  let result := state.node.keyRegistry.insertDirect session.peerId session.remoteStaticKey
  { state.withRegistry result.1 with
    inserted := state.inserted ++
      if result.2 then [(session.peerId, session.remoteStaticKey)] else [] }

end NodeWorld

def keyEvents (peer : PeerId) (session : Session prims) (isNewKey : Bool) : List TransportEvent :=
  if isNewKey then [.keyLearned peer session.remoteStaticKey] else []

/-- The peer a departed address belongs to, by the peer table. -/
def ownerOf (peers : PeerTable) (address : PeerAddress) : Option PeerId :=
  (peers.entries.find? fun entry => entry.2.any fun listed => listed.address = address).map
    fun entry => entry.1

section Steps

variable (state : NodeWorld prims) (index : Nat)

/-- A failed `try_connect` of a discovered address makes room for a retry. -/
def dialFailed (reason : DialReason) : NodeWorld prims :=
  match reason with
  | .connect _ => state.endTask index
  | .discovery announcement =>
      { state with knownAddrs := state.knownAddrs.erase announcement.address }.endTask index

def handshakeStep (remote : Remote) : Task prims → Option (NodeWorld prims)
  | .dialing send remoteKey =>
      match Session.initiate prims remote remoteKey with
      | .error _ =>
          -- A failed XK handshake evicts the key, so that the next try uses XX.
          let registry := if remoteKey.isSome then state.node.keyRegistry.remove send.peerId
            else state.node.keyRegistry
          some ((state.withRegistry registry).endTask index)
      | .ok session =>
          some ((state.learn session).setTask index
            (.exchanging send session (state.isNewKey session)))
  | .connecting reason =>
      match Session.initiate prims remote none with
      | .error _ => some (dialFailed state index reason)
      | .ok session =>
          some ((state.learn session).setTask index
            (.connectExchanging reason session (state.isNewKey session)))
  | _ => none

/-- `try_send` merges what it decodes under the intended peer, `try_connect` under
the session's. -/
def exchangeStep (exchanged : Option (List PeerAddress)) :
    Task prims → Option (NodeWorld prims)
  | .exchanging send session isNewKey =>
      some ((state.withPeers (mergeExchanged state.node.peers send.peerId exchanged)).setTask index
        (.delivering send session isNewKey))
  | .connectExchanging reason session isNewKey =>
      some ((state.withPeers (mergeExchanged state.node.peers session.peerId exchanged)).setTask
        index (.connected reason session isNewKey))
  | _ => none

/-- The frame and its acknowledgement. `Router::send` reports a success under the
peer it was called for. -/
def acknowledgeStep (link : Option Error) (reply : Received) : Task prims → Option (NodeWorld prims)
  | .delivering send session isNewKey =>
      match sessionSend link (frameMessage send.messageId send.payload), reply with
      | .ok (), .bytes _ =>
          some ((state.emit
            (.messageDelivered send.peerId :: keyEvents send.peerId session isNewKey)).endTask index)
      | _, _ => some (state.endTask index)
  | _ => none

/-- The steps a task takes without hearing from anyone. -/
def proceedStep : Task prims → Option (NodeWorld prims)
  | .sending send =>
      some (state.setTask index (.dialing send (state.node.keyRegistry.get send.peerId)))
  | .connected (.connect announcement) session isNewKey =>
      some ((state.emit (keyEvents session.peerId session isNewKey)).setTask index
        (.recording announcement session.peerId))
  | .connected (.discovery announcement) session isNewKey =>
      -- Self-discovery keeps the address known and does nothing else.
      if session.peerId = state.node.localPeerId then some (state.endTask index)
      else
        some ((state.withPeers
          (pushDiscovered state.node.peers session.peerId announcement)).setTask index
            (.notifying session isNewKey))
  | .recording announcement peer =>
      some ({ state with
        knownAddrs := insert announcement.address state.knownAddrs }.setTask index
          (.listing announcement peer))
  | .listing announcement peer =>
      some ((state.withPeers (listAnnouncement state.node.peers peer announcement)).endTask index)
  | .notifying session isNewKey =>
      some ((state.emit
        (keyEvents session.peerId session isNewKey ++ [.peerConnected session.peerId])).endTask
          index)
  | .accepted session isNewKey =>
      some ((state.emit (keyEvents session.peerId session isNewKey)).setTask index
        (.awaitingFirst session))
  | _ => none

/-- `dispatch_payload` on a session, with the relays it spawns. -/
def dispatchStep (session : Session prims) (payload : Bytes) (now : Nat) :
    Option (NodeWorld prims) :=
  if now < state.clock then none
  else
    match dispatchPayload state.node session.peerId now payload with
    | .error _ => none
    | .ok outcome =>
        some { state with
          node := outcome.node
          clock := now
          tasks := state.tasks.set index (.serving session) ++ outcome.relays.map .sending
          dispatched := state.dispatched ++
            [{ sender := session.peerId
               payload := payload
               time := now
               delivered := outcome.delivered }] }

/-- A control frame counts only as the first message of a connection. -/
def receiveStep (payload : Bytes) (now : Nat) : Task prims → Option (NodeWorld prims)
  | .awaitingFirst session =>
      if looksLikeControl payload then
        match decodeAddrExchange payload with
        | .error _ => none
        | .ok exchanged =>
            some ((state.withPeers
              (mergeExchanged state.node.peers session.peerId exchanged)).setTask index
                (.serving session))
      else dispatchStep state index session payload now
  | .serving session => dispatchStep state index session payload now
  | _ => none

def unreachableStep : Task prims → Option (NodeWorld prims)
  | .dialing _ _ => some (state.endTask index)
  | .connecting reason => some (dialFailed state index reason)
  | _ => none

def closeStep : Task prims → Option (NodeWorld prims)
  | .awaitingFirst _ => some (state.endTask index)
  | .serving _ => some (state.endTask index)
  | _ => none

end Steps

def nodeStep (state : NodeWorld prims) : NodeLabel → Option (NodeWorld prims)
  | .onMessage => some { state with node := { state.node with handlerRegistered := true } }
  | .call send => some (state.spawn (.sending send))
  | .connect announcement => some (state.spawn (.connecting (.connect announcement)))
  | .addPeer peer announcement =>
      some ({ state with knownAddrs := insert announcement.address state.knownAddrs }.spawn
        (.listing announcement peer))
  | .arrival announcement =>
      if announcement.address ∈ state.knownAddrs then some state
      else
        some ({ state with knownAddrs := insert announcement.address state.knownAddrs }.spawn
          (.connecting (.discovery announcement)))
  | .departure address =>
      match ownerOf state.node.peers address with
      | some peer =>
          some ({ state with knownAddrs := state.knownAddrs.erase address }.emit
            [.peerDisconnected peer])
      | none => some state
  | .accept remoteKey =>
      let session := Session.finish prims remoteKey
      some ((state.learn session).spawn (.accepted session (state.isNewKey session)))
  | .unreachable index => (state.tasks[index]?).bind (unreachableStep state index)
  | .handshake index remote => (state.tasks[index]?).bind (handshakeStep state index remote)
  | .exchange index reply =>
      match decodeReply reply with
      | .error _ => none
      | .ok exchanged => (state.tasks[index]?).bind (exchangeStep state index exchanged)
  | .delivery index link reply => (state.tasks[index]?).bind (acknowledgeStep state index link reply)
  | .proceed index => (state.tasks[index]?).bind (proceedStep state index)
  | .receive index payload now => (state.tasks[index]?).bind (receiveStep state index payload now)
  | .close index => (state.tasks[index]?).bind (closeStep state index)

/-! ## What a step does -/

def Task.unbound : Task prims → Bool
  | .sending _ => true
  | .dialing _ _ => true
  | .connecting _ => true
  | .recording _ _ => true
  | .listing _ _ => true
  | _ => false

def Task.serves (payload : Bytes) : Task prims → Option (Session prims)
  | .awaitingFirst session => if looksLikeControl payload then none else some session
  | .serving session => some session
  | _ => none

/-- The cases of a step, with the task that takes it. Steps that only start, end or
advance a task and touch no more than the known addresses share a case. -/
inductive NodeMove (state : NodeWorld prims) : NodeLabel → NodeWorld prims → Prop where
  | registered :
      NodeMove state .onMessage
        { state with node := { state.node with handlerRegistered := true } }
  | ignored {label : NodeLabel} : NodeMove state label state
  | departed {address : PeerAddress} {peer : PeerId} :
      NodeMove state (.departure address)
        ({ state with knownAddrs := state.knownAddrs.erase address }.emit
          [.peerDisconnected peer])
  | spawned {label : NodeLabel} {known : Finset PeerAddress} {task : Task prims}
      (unbound : task.unbound = true) :
      NodeMove state label ({ state with knownAddrs := known }.spawn task)
  | accepted {remoteKey : PublicKey} (session : Session prims) :
      NodeMove state (.accept remoteKey)
        ((state.learn session).spawn (.accepted session (state.isNewKey session)))
  | advanced {label : NodeLabel} {index : Nat} {task after : Task prims}
      {known : Finset PeerAddress} (present : state.tasks[index]? = some task)
      (before : task.unbound = true) (unbound : after.unbound = true) :
      NodeMove state label ({ state with knownAddrs := known }.setTask index after)
  | ended {label : NodeLabel} {index : Nat} {task : Task prims} {known : Finset PeerAddress}
      (present : state.tasks[index]? = some task) (unbound : task.unbound = true) :
      NodeMove state label ({ state with knownAddrs := known }.endTask index)
  | closed {index : Nat} {session : Session prims}
      (present : state.tasks[index]? = some (.awaitingFirst session) ∨
        state.tasks[index]? = some (.serving session)) :
      NodeMove state (.close index) (state.endTask index)
  | refused {index : Nat} {remote : Remote} {send : RouterSend} {remoteKey : PublicKey}
      (present : state.tasks[index]? = some (.dialing send (some remoteKey))) :
      NodeMove state (.handshake index remote)
        ((state.withRegistry (state.node.keyRegistry.remove send.peerId)).endTask index)
  | dialed {index : Nat} {remote : Remote} {send : RouterSend} {remoteKey : Option PublicKey}
      {session : Session prims} (present : state.tasks[index]? = some (.dialing send remoteKey)) :
      NodeMove state (.handshake index remote)
        ((state.learn session).setTask index (.exchanging send session (state.isNewKey session)))
  | connectDialed {index : Nat} {remote : Remote} {reason : DialReason} {session : Session prims}
      (present : state.tasks[index]? = some (.connecting reason)) :
      NodeMove state (.handshake index remote)
        ((state.learn session).setTask index
          (.connectExchanging reason session (state.isNewKey session)))
  | exchanged {index : Nat} {reply : Received} {send : RouterSend} {session : Session prims}
      {isNewKey : Bool} {addresses : Option (List PeerAddress)}
      (present : state.tasks[index]? = some (.exchanging send session isNewKey)) :
      NodeMove state (.exchange index reply)
        ((state.withPeers (mergeExchanged state.node.peers send.peerId addresses)).setTask index
          (.delivering send session isNewKey))
  | connectExchanged {index : Nat} {reply : Received} {reason : DialReason}
      {session : Session prims} {isNewKey : Bool} {addresses : Option (List PeerAddress)}
      (present : state.tasks[index]? = some (.connectExchanging reason session isNewKey)) :
      NodeMove state (.exchange index reply)
        ((state.withPeers (mergeExchanged state.node.peers session.peerId addresses)).setTask index
          (.connected reason session isNewKey))
  | delivered {index : Nat} {received : Bytes} {send : RouterSend} {session : Session prims}
      {isNewKey : Bool} {link : Option Error}
      (present : state.tasks[index]? = some (.delivering send session isNewKey))
      (sent : sessionSend link (frameMessage send.messageId send.payload) = .ok ()) :
      NodeMove state (.delivery index link (.bytes received))
        ((state.emit
          (.messageDelivered send.peerId :: keyEvents send.peerId session isNewKey)).endTask index)
  | abandoned {index : Nat} {link : Option Error} {reply : Received} {send : RouterSend}
      {session : Session prims} {isNewKey : Bool}
      (present : state.tasks[index]? = some (.delivering send session isNewKey))
      (failed : ∀ received, sessionSend link (frameMessage send.messageId send.payload) = .ok () →
        reply ≠ .bytes received) :
      NodeMove state (.delivery index link reply) (state.endTask index)
  | connected {index : Nat} {announcement : PeerAnnouncement} {session : Session prims}
      {isNewKey : Bool}
      (present : state.tasks[index]? = some (.connected (.connect announcement) session isNewKey)) :
      NodeMove state (.proceed index)
        ((state.emit (keyEvents session.peerId session isNewKey)).setTask index
          (.recording announcement session.peerId))
  | discoveredSelf {index : Nat} {announcement : PeerAnnouncement} {session : Session prims}
      {isNewKey : Bool}
      (present : state.tasks[index]? =
        some (.connected (.discovery announcement) session isNewKey))
      (own : session.peerId = state.node.localPeerId) :
      NodeMove state (.proceed index) (state.endTask index)
  | discovered {index : Nat} {announcement : PeerAnnouncement} {session : Session prims}
      {isNewKey : Bool}
      (present : state.tasks[index]? =
        some (.connected (.discovery announcement) session isNewKey))
      (other : session.peerId ≠ state.node.localPeerId) :
      NodeMove state (.proceed index)
        ((state.withPeers (pushDiscovered state.node.peers session.peerId announcement)).setTask
          index (.notifying session isNewKey))
  | listed {index : Nat} {announcement : PeerAnnouncement} {peer : PeerId}
      (present : state.tasks[index]? = some (.listing announcement peer)) :
      NodeMove state (.proceed index)
        ((state.withPeers (listAnnouncement state.node.peers peer announcement)).endTask index)
  | notified {index : Nat} {session : Session prims} {isNewKey : Bool}
      (present : state.tasks[index]? = some (.notifying session isNewKey)) :
      NodeMove state (.proceed index)
        ((state.emit
          (keyEvents session.peerId session isNewKey ++ [.peerConnected session.peerId])).endTask
            index)
  | greeted {index : Nat} {session : Session prims} {isNewKey : Bool}
      (present : state.tasks[index]? = some (.accepted session isNewKey)) :
      NodeMove state (.proceed index)
        ((state.emit (keyEvents session.peerId session isNewKey)).setTask index
          (.awaitingFirst session))
  | introduced {index now : Nat} {payload : Bytes} {session : Session prims}
      {addresses : Option (List PeerAddress)}
      (present : state.tasks[index]? = some (.awaitingFirst session)) :
      NodeMove state (.receive index payload now)
        ((state.withPeers (mergeExchanged state.node.peers session.peerId addresses)).setTask index
          (.serving session))
  | dispatched {index now : Nat} {payload : Bytes} {task : Task prims} {session : Session prims}
      (present : state.tasks[index]? = some task) (serves : task.serves payload = some session)
      (later : state.clock ≤ now) :
      NodeMove state (.receive index payload now)
        { state with
          node := (frameOutcome state.node session.peerId now (parseFrame payload)).node
          clock := now
          tasks := state.tasks.set index (.serving session) ++
            (frameOutcome state.node session.peerId now (parseFrame payload)).relays.map .sending
          dispatched := state.dispatched ++
            [{ sender := session.peerId
               payload := payload
               time := now
               delivered :=
                (frameOutcome state.node session.peerId now (parseFrame payload)).delivered }] }

section Inversion

variable {state next : NodeWorld prims} {index : Nat} {task : Task prims}

theorem dispatch_step_moves {session : Session prims} {payload : Bytes} {now : Nat}
    (present : state.tasks[index]? = some task) (serves : task.serves payload = some session)
    (taken : dispatchStep state index session payload now = some next) :
    NodeMove state (.receive index payload now) next := by
  unfold dispatchStep at taken
  rw [dispatch_payload_eq] at taken
  split_ifs at taken with early
  cases taken
  exact .dispatched present serves (Nat.le_of_not_lt early)

theorem receive_step_moves {payload : Bytes} {now : Nat} (present : state.tasks[index]? = some task)
    (taken : receiveStep state index payload now task = some next) :
    NodeMove state (.receive index payload now) next := by
  cases task with
  | awaitingFirst session =>
      simp only [receiveStep] at taken
      split_ifs at taken with control
      · split at taken
        · cases taken
        · cases taken
          exact .introduced present
      · exact dispatch_step_moves present (if_neg control) taken
  | serving session => exact dispatch_step_moves present rfl taken
  | _ => cases taken

theorem handshake_step_moves {remote : Remote} (present : state.tasks[index]? = some task)
    (taken : handshakeStep state index remote task = some next) :
    NodeMove state (.handshake index remote) next := by
  cases task with
  | dialing send remoteKey =>
      simp only [handshakeStep] at taken
      split at taken
      · cases taken
        cases remoteKey with
        | none => exact .ended present rfl
        | some key => exact .refused present
      · cases taken
        exact .dialed present
  | connecting reason =>
      simp only [handshakeStep] at taken
      split at taken
      · cases taken
        cases reason <;> exact .ended present rfl
      · cases taken
        exact .connectDialed present
  | _ => cases taken

theorem exchange_step_moves {reply : Received} {addresses : Option (List PeerAddress)}
    (present : state.tasks[index]? = some task)
    (taken : exchangeStep state index addresses task = some next) :
    NodeMove state (.exchange index reply) next := by
  cases task with
  | exchanging send session isNewKey =>
      cases taken
      exact .exchanged present
  | connectExchanging reason session isNewKey =>
      cases taken
      exact .connectExchanged present
  | _ => cases taken

theorem acknowledge_step_moves {link : Option Error} {reply : Received}
    (present : state.tasks[index]? = some task)
    (taken : acknowledgeStep state index link reply task = some next) :
    NodeMove state (.delivery index link reply) next := by
  cases task with
  | delivering send session isNewKey =>
      unfold acknowledgeStep at taken
      dsimp only at taken
      split at taken
      · cases taken
        exact .delivered present (by assumption)
      · next failed =>
          cases taken
          exact .abandoned present failed
  | _ => cases taken

theorem proceed_step_moves (present : state.tasks[index]? = some task)
    (taken : proceedStep state index task = some next) :
    NodeMove state (.proceed index) next := by
  cases task with
  | sending send =>
      cases taken
      exact .advanced present rfl rfl
  | connected reason session isNewKey =>
      cases reason with
      | connect announcement =>
          cases taken
          exact .connected present
      | discovery announcement =>
          simp only [proceedStep] at taken
          split_ifs at taken with own
          · cases taken
            exact .discoveredSelf present own
          · cases taken
            exact .discovered present own
  | recording announcement peer =>
      cases taken
      exact .advanced present rfl rfl
  | listing announcement peer =>
      cases taken
      exact .listed present
  | notifying session isNewKey =>
      cases taken
      exact .notified present
  | accepted session isNewKey =>
      cases taken
      exact .greeted present
  | _ => cases taken

theorem unreachable_step_moves (present : state.tasks[index]? = some task)
    (taken : unreachableStep state index task = some next) :
    NodeMove state (.unreachable index) next := by
  cases task with
  | dialing send remoteKey =>
      cases taken
      exact .ended present rfl
  | connecting reason =>
      cases taken
      cases reason <;> exact .ended present rfl
  | _ => cases taken

theorem close_step_moves (present : state.tasks[index]? = some task)
    (taken : closeStep state index task = some next) : NodeMove state (.close index) next := by
  cases task with
  | awaitingFirst session =>
      cases taken
      exact .closed (.inl present)
  | serving session =>
      cases taken
      exact .closed (.inr present)
  | _ => cases taken

theorem node_step_moves {label : NodeLabel} (taken : nodeStep state label = some next) :
    NodeMove state label next := by
  cases label with
  | onMessage =>
      cases taken
      exact .registered
  | call send =>
      cases taken
      exact .spawned rfl
  | connect announcement =>
      cases taken
      exact .spawned rfl
  | addPeer peer announcement =>
      cases taken
      exact .spawned rfl
  | arrival announcement =>
      simp only [nodeStep] at taken
      split_ifs at taken
      · cases taken
        exact .ignored
      · cases taken
        exact .spawned rfl
  | departure address =>
      simp only [nodeStep] at taken
      split at taken
      · cases taken
        exact .departed
      · cases taken
        exact .ignored
  | accept remoteKey =>
      cases taken
      exact .accepted _
  | unreachable index =>
      obtain ⟨task, present, stepped⟩ := Option.bind_eq_some_iff.mp taken
      exact unreachable_step_moves present stepped
  | handshake index remote =>
      obtain ⟨task, present, stepped⟩ := Option.bind_eq_some_iff.mp taken
      exact handshake_step_moves present stepped
  | exchange index reply =>
      simp only [nodeStep] at taken
      split at taken
      · cases taken
      · obtain ⟨task, present, stepped⟩ := Option.bind_eq_some_iff.mp taken
        exact exchange_step_moves present stepped
  | delivery index link reply =>
      obtain ⟨task, present, stepped⟩ := Option.bind_eq_some_iff.mp taken
      exact acknowledge_step_moves present stepped
  | proceed index =>
      obtain ⟨task, present, stepped⟩ := Option.bind_eq_some_iff.mp taken
      exact proceed_step_moves present stepped
  | receive index payload now =>
      obtain ⟨task, present, stepped⟩ := Option.bind_eq_some_iff.mp taken
      exact receive_step_moves present stepped
  | close index =>
      obtain ⟨task, present, stepped⟩ := Option.bind_eq_some_iff.mp taken
      exact close_step_moves present stepped

end Inversion

theorem dispatch_keeps_peers {state next : NodeWorld prims} {index : Nat}
    {session : Session prims} {payload : Bytes} {now : Nat}
    (taken : dispatchStep state index session payload now = some next) :
    next.node.peers = state.node.peers := by
  unfold dispatchStep at taken
  rw [dispatch_payload_eq] at taken
  split_ifs at taken
  cases taken
  exact (frame_outcome_setting ..).peers

theorem node_move_identity {state next : NodeWorld prims} {label : NodeLabel}
    (moved : NodeMove state label next) : next.node.identity = state.node.identity := by
  cases moved with
  | dispatched present serves later => exact (frame_outcome_setting ..).identity
  | _ => rfl

theorem identity_run {guard : NodeWorld prims → NodeLabel → Prop} {first last : NodeWorld prims}
    {labels : List NodeLabel} (run : Run nodeStep guard first labels last) :
    last.node.identity = first.node.identity := by
  induction run with
  | start => rfl
  | extend prior allowed taken ih => exact (node_move_identity (node_step_moves taken)).trans ih

def freshNode : NodeWorld clearPrimitives := .start (sampleIdentity 1) ∅ none

end Pathweave
