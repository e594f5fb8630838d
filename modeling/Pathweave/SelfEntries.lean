import Pathweave.PeerTableEntries

/-!
# The node's own entry in the peer table

A node that hears its own announcement may dial itself. `peer_stream` compares the
session's peer with its own identity before it lists anything, but both roles of
the address exchange have written the table by then. The keys of the table are
followed step by step: a step adds at most one, by an exchange or by a listing.
-/

namespace Pathweave

open ByteStrings GuardedRuns

set_option autoImplicit false

variable {prims : Primitives}

/-! ## The keys a step adds -/

def Task.exchangePeer : Task prims → Option PeerId
  | .exchanging send _ _ => some send.peerId
  | .connectExchanging _ session _ => some session.peerId
  | _ => none

/-- The entry a first message writes, if it is an address exchange. -/
def Task.introducedPeer (payload : Bytes) : Task prims → Option PeerId
  | .awaitingFirst session =>
      if looksLikeControl payload then
        match decodeAddrExchange payload with
        | .ok (some _) => some session.peerId
        | _ => none
      else none
  | _ => none

/-- The peer under which a step merges the addresses it decodes. -/
def exchangedPeer (state : NodeWorld prims) : NodeLabel → Option PeerId
  | .exchange index reply =>
      match decodeReply reply with
      | .ok (some _) => (state.tasks[index]?).bind Task.exchangePeer
      | _ => none
  | .receive index payload _ => (state.tasks[index]?).bind (Task.introducedPeer payload)
  | _ => none

def listedPeer (state : NodeWorld prims) : NodeLabel → Option PeerId
  | .proceed index =>
      match state.tasks[index]? with
      | some (.listing _ peer) => some peer
      | some (.connected (.discovery _) session _) =>
          if session.peerId = state.node.localPeerId then none else some session.peerId
      | _ => none
  | _ => none

theorem mem_merge_exchanged {peers : PeerTable} {peer other : PeerId}
    {exchanged : Option (List PeerAddress)} :
    other ∈ mergeExchanged peers peer exchanged ↔
      other ∈ peers ∨ (exchanged.isSome = true ∧ peer = other) := by
  cases exchanged with
  | none => simp [mergeExchanged]
  | some addresses => simp [mergeExchanged, upsertPeerAddresses, or_comm, eq_comm]

section Keys

variable {state next : NodeWorld prims} {index : Nat} {peer : PeerId}

theorem exchange_keys {reply : Received}
    (taken : nodeStep state (.exchange index reply) = some next) :
    peer ∈ next.node.peers ↔
      peer ∈ state.node.peers ∨ exchangedPeer state (.exchange index reply) = some peer := by
  simp only [nodeStep] at taken
  split at taken
  · cases taken
  · rename_i exchanged decoded
    obtain ⟨task, present, stepped⟩ := Option.bind_eq_some_iff.mp taken
    have written : exchangedPeer state (.exchange index reply) = some peer ↔
        exchanged.isSome = true ∧ task.exchangePeer = some peer := by
      cases exchanged <;> simp [exchangedPeer, decoded, present]
    rw [written]
    cases task with
    | exchanging send session isNewKey =>
        cases stepped
        simpa [Task.exchangePeer, NodeWorld.withPeers, NodeWorld.setTask] using
          mem_merge_exchanged
    | connectExchanging reason session isNewKey =>
        cases stepped
        simpa [Task.exchangePeer, NodeWorld.withPeers, NodeWorld.setTask] using
          mem_merge_exchanged
    | _ => cases stepped

theorem receive_keys {payload : Bytes} {now : Nat}
    (taken : nodeStep state (.receive index payload now) = some next) :
    peer ∈ next.node.peers ↔
      peer ∈ state.node.peers ∨ exchangedPeer state (.receive index payload now) = some peer := by
  obtain ⟨task, present, stepped⟩ := Option.bind_eq_some_iff.mp taken
  have written : exchangedPeer state (.receive index payload now) =
      task.introducedPeer payload := by
    simp [exchangedPeer, present]
  rw [written]
  cases task with
  | awaitingFirst session =>
      simp only [receiveStep] at stepped
      simp only [Task.introducedPeer]
      split_ifs at stepped ⊢ with control
      · split at stepped
        · cases stepped
        · rename_i exchanged decoded
          cases stepped
          rw [decoded]
          cases exchanged with
          | none => simp [NodeWorld.withPeers, NodeWorld.setTask, mergeExchanged]
          | some addresses =>
              simp [NodeWorld.withPeers, NodeWorld.setTask, mem_merge_exchanged]
      · rw [dispatch_keeps_peers stepped]
        simp
  | serving session =>
      rw [dispatch_keeps_peers stepped]
      simp [Task.introducedPeer]
  | _ => cases stepped

theorem proceed_keys (taken : nodeStep state (.proceed index) = some next) :
    peer ∈ next.node.peers ↔
      peer ∈ state.node.peers ∨ listedPeer state (.proceed index) = some peer := by
  obtain ⟨task, present, stepped⟩ := Option.bind_eq_some_iff.mp taken
  simp only [listedPeer, present]
  cases task with
  | connected reason session isNewKey =>
      cases reason with
      | connect announcement =>
          cases stepped
          simp [NodeWorld.emit, NodeWorld.setTask]
      | discovery announcement =>
          simp only [proceedStep] at stepped
          split_ifs at stepped with own
          · cases stepped
            simp [NodeWorld.endTask, own]
          · cases stepped
            simp [NodeWorld.withPeers, NodeWorld.setTask, pushDiscovered, own, or_comm, eq_comm]
  | listing announcement other =>
      cases stepped
      simp [NodeWorld.withPeers, NodeWorld.endTask, listAnnouncement, or_comm, eq_comm]
  | sending send =>
      cases stepped
      simp [NodeWorld.setTask]
  | recording announcement other =>
      cases stepped
      simp [NodeWorld.setTask]
  | notifying session isNewKey =>
      cases stepped
      simp [NodeWorld.emit, NodeWorld.endTask]
  | accepted session isNewKey =>
      cases stepped
      simp [NodeWorld.emit, NodeWorld.setTask]
  | _ => cases stepped

theorem keys_step {label : NodeLabel} (taken : nodeStep state label = some next) :
    peer ∈ next.node.peers ↔
      peer ∈ state.node.peers ∨ exchangedPeer state label = some peer ∨
        listedPeer state label = some peer := by
  cases label with
  | exchange index reply =>
      rw [exchange_keys taken]
      simp [listedPeer]
  | receive index payload now =>
      rw [receive_keys taken]
      simp [listedPeer]
  | proceed index =>
      rw [proceed_keys taken]
      simp [exchangedPeer]
  | _ =>
      -- No other label reaches a writer of the table.
      simp only [exchangedPeer, listedPeer, reduceCtorEq, or_false]
      cases node_step_moves taken <;> exact Iff.rfl

end Keys

/-! ## Listings asked for by the application -/

def Task.requestedPeer : Task prims → Option PeerId
  | .connectExchanging (.connect _) session _ => some session.peerId
  | .connected (.connect _) session _ => some session.peerId
  | .recording _ peer => some peer
  | .listing _ peer => some peer
  | _ => none

/-- The peer an application call turns out to be for: `add_peer` names it, and
`connect` learns it from the handshake. -/
def calledFor (state : NodeWorld prims) : NodeLabel → Option PeerId
  | .addPeer peer _ => some peer
  | .handshake index remote =>
      match state.tasks[index]?, Session.initiate prims remote none with
      | some (.connecting (.connect _)), .ok session => some session.peerId
      | _, _ => none
  | _ => none

/-- The application calls `connect` and `add_peer` for other peers only. -/
def callsForOthers (state : NodeWorld prims) (label : NodeLabel) : Prop :=
  calledFor state label ≠ some state.node.localPeerId

def exchangesWithOthers (state : NodeWorld prims) (label : NodeLabel) : Prop :=
  exchangedPeer state label ≠ some state.node.localPeerId

instance (state : NodeWorld prims) (label : NodeLabel) : Decidable (callsForOthers state label) :=
  inferInstanceAs (Decidable (_ ≠ _))

instance (state : NodeWorld prims) (label : NodeLabel) :
    Decidable (exchangesWithOthers state label) :=
  inferInstanceAs (Decidable (_ ≠ _))

def Requested (tasks : List (Task prims)) (peer : PeerId) : Prop :=
  ∃ task ∈ tasks, task.requestedPeer = some peer

section Requests

variable {state next : NodeWorld prims} {tasks : List (Task prims)} {index : Nat}
  {task : Task prims} {peer : PeerId}

theorem requested_spawned {new : List (Task prims)} (requested : Requested (tasks ++ new) peer) :
    Requested tasks peer ∨ Requested new peer := by
  obtain ⟨task, member, asks⟩ := requested
  cases List.mem_append.mp member with
  | inl old => exact .inl ⟨task, old, asks⟩
  | inr fresh => exact .inr ⟨task, fresh, asks⟩

theorem requested_set {after : Task prims} (requested : Requested (tasks.set index after) peer) :
    Requested tasks peer ∨ after.requestedPeer = some peer := by
  obtain ⟨task, member, asks⟩ := requested
  cases List.mem_or_eq_of_mem_set member with
  | inl old => exact .inl ⟨task, old, asks⟩
  | inr same => exact .inr (same ▸ asks)

theorem requested_ended (requested : Requested (tasks.eraseIdx index) peer) :
    Requested tasks peer := by
  obtain ⟨task, member, asks⟩ := requested
  exact ⟨task, List.mem_of_mem_eraseIdx member, asks⟩

theorem requested_advanced {after : Task prims} (present : tasks[index]? = some task)
    (requested : Requested (tasks.set index after) peer)
    (same : after.requestedPeer = some peer → task.requestedPeer = some peer) :
    Requested tasks peer := by
  cases requested_set requested with
  | inl old => exact old
  | inr asks => exact ⟨task, List.mem_of_getElem? present, same asks⟩

theorem requested_dispatch {session : Session prims} {payload : Bytes} {now : Nat}
    (stepped : dispatchStep state index session payload now = some next)
    (requested : Requested next.tasks peer) : Requested state.tasks peer := by
  unfold dispatchStep at stepped
  rw [dispatch_payload_eq] at stepped
  split_ifs at stepped
  cases stepped
  cases requested_spawned requested with
  | inl old =>
      cases requested_set old with
      | inl older => exact older
      | inr asks => cases asks
  | inr relayed =>
      obtain ⟨relay, member, asks⟩ := relayed
      obtain ⟨send, _, same⟩ := List.mem_map.mp member
      subst same
      cases asks

theorem requested_handshake {remote : Remote}
    (present : state.tasks[index]? = some task)
    (stepped : handshakeStep state index remote task = some next)
    (requested : Requested next.tasks peer) :
    Requested state.tasks peer ∨ calledFor state (.handshake index remote) = some peer := by
  cases task with
  | dialing send remoteKey =>
      apply Or.inl
      simp only [handshakeStep] at stepped
      split at stepped
      · cases stepped
        exact requested_ended requested
      · cases stepped
        exact requested_advanced present requested id
  | connecting reason =>
      simp only [handshakeStep] at stepped
      split at stepped
      · cases stepped
        cases reason <;> exact .inl (requested_ended requested)
      · rename_i session initiated
        cases stepped
        cases requested_set requested with
        | inl old => exact .inl old
        | inr asks =>
            cases reason with
            | connect announcement =>
                apply Or.inr
                simp only [calledFor, present, initiated]
                exact asks
            | discovery announcement => cases asks
  | _ => cases stepped

theorem requested_exchange {exchanged : Option (List PeerAddress)}
    (present : state.tasks[index]? = some task)
    (stepped : exchangeStep state index exchanged task = some next)
    (requested : Requested next.tasks peer) : Requested state.tasks peer := by
  cases task with
  | exchanging send session isNewKey =>
      cases stepped
      exact requested_advanced present requested id
  | connectExchanging reason session isNewKey =>
      cases stepped
      apply requested_advanced present requested
      cases reason <;> exact id
  | _ => cases stepped

theorem requested_acknowledge {link : Option Error} {reply : Received}
    (stepped : acknowledgeStep state index link reply task = some next)
    (requested : Requested next.tasks peer) : Requested state.tasks peer := by
  cases task with
  | delivering send session isNewKey =>
      unfold acknowledgeStep at stepped
      dsimp only at stepped
      split at stepped <;> cases stepped <;> exact requested_ended requested
  | _ => cases stepped

theorem requested_proceed (present : state.tasks[index]? = some task)
    (stepped : proceedStep state index task = some next)
    (requested : Requested next.tasks peer) : Requested state.tasks peer := by
  cases task with
  | sending send =>
      cases stepped
      exact requested_advanced present requested id
  | connected reason session isNewKey =>
      cases reason with
      | connect announcement =>
          cases stepped
          exact requested_advanced present requested id
      | discovery announcement =>
          simp only [proceedStep] at stepped
          split_ifs at stepped
          · cases stepped
            exact requested_ended requested
          · cases stepped
            exact requested_advanced present requested id
  | recording announcement other =>
      cases stepped
      exact requested_advanced present requested id
  | accepted session isNewKey =>
      cases stepped
      exact requested_advanced present requested id
  | listing announcement other =>
      cases stepped
      exact requested_ended requested
  | notifying session isNewKey =>
      cases stepped
      exact requested_ended requested
  | _ => cases stepped

theorem requested_receive {payload : Bytes} {now : Nat}
    (present : state.tasks[index]? = some task)
    (stepped : receiveStep state index payload now task = some next)
    (requested : Requested next.tasks peer) : Requested state.tasks peer := by
  cases task with
  | awaitingFirst session =>
      simp only [receiveStep] at stepped
      split_ifs at stepped
      · split at stepped
        · cases stepped
        · cases stepped
          exact requested_advanced present requested id
      · exact requested_dispatch stepped requested
  | serving session => exact requested_dispatch stepped requested
  | _ => cases stepped

/-- A task asks for a listing because it did before, or because the call of this
very step is for that peer. -/
theorem requested_step {label : NodeLabel} (taken : nodeStep state label = some next)
    (requested : Requested next.tasks peer) :
    Requested state.tasks peer ∨ calledFor state label = some peer := by
  have spawned : ∀ {new : Task prims}, Requested (state.tasks ++ [new]) peer →
      Requested state.tasks peer ∨ new.requestedPeer = some peer := by
    intro new given
    apply (requested_spawned given).imp_right
    intro fresh
    obtain ⟨task, member, asks⟩ := fresh
    rwa [List.mem_singleton.mp member] at asks
  cases label with
  | onMessage =>
      cases taken
      exact .inl requested
  | call send =>
      cases taken
      exact spawned requested
  | connect announcement =>
      cases taken
      exact spawned requested
  | addPeer other announcement =>
      cases taken
      exact spawned requested
  | arrival announcement =>
      simp only [nodeStep] at taken
      split_ifs at taken
      · cases taken
        exact .inl requested
      · cases taken
        exact spawned requested
  | departure address =>
      simp only [nodeStep] at taken
      split at taken <;> cases taken <;> exact .inl requested
  | accept remoteKey =>
      cases taken
      exact spawned requested
  | unreachable index =>
      obtain ⟨task, present, stepped⟩ := Option.bind_eq_some_iff.mp taken
      cases task with
      | dialing send remoteKey =>
          cases stepped
          exact .inl (requested_ended requested)
      | connecting reason =>
          cases stepped
          cases reason <;> exact .inl (requested_ended requested)
      | _ => cases stepped
  | handshake index remote =>
      obtain ⟨task, present, stepped⟩ := Option.bind_eq_some_iff.mp taken
      exact requested_handshake present stepped requested
  | exchange index reply =>
      simp only [nodeStep] at taken
      split at taken
      · cases taken
      · obtain ⟨task, present, stepped⟩ := Option.bind_eq_some_iff.mp taken
        exact .inl (requested_exchange present stepped requested)
  | delivery index link reply =>
      obtain ⟨task, present, stepped⟩ := Option.bind_eq_some_iff.mp taken
      exact .inl (requested_acknowledge stepped requested)
  | proceed index =>
      obtain ⟨task, present, stepped⟩ := Option.bind_eq_some_iff.mp taken
      exact .inl (requested_proceed present stepped requested)
  | receive index payload now =>
      obtain ⟨task, present, stepped⟩ := Option.bind_eq_some_iff.mp taken
      exact .inl (requested_receive present stepped requested)
  | close index =>
      obtain ⟨task, present, stepped⟩ := Option.bind_eq_some_iff.mp taken
      cases task with
      | awaitingFirst session =>
          cases stepped
          exact .inl (requested_ended requested)
      | serving session =>
          cases stepped
          exact .inl (requested_ended requested)
      | _ => cases stepped

end Requests

/-! ## Runs -/

/-- Neither the table nor a request of the application names the node itself. -/
structure SelfFree (state : NodeWorld prims) : Prop where
  table : state.node.localPeerId ∉ state.node.peers
  requests : ¬Requested state.tasks state.node.localPeerId

theorem local_peer_step {state next : NodeWorld prims} {label : NodeLabel}
    (taken : nodeStep state label = some next) :
    next.node.localPeerId = state.node.localPeerId :=
  congrArg NodeIdentity.peerId (node_move_identity (node_step_moves taken))

theorem listed_by_request {state : NodeWorld prims} {label : NodeLabel}
    (listed : listedPeer state label = some state.node.localPeerId) :
    Requested state.tasks state.node.localPeerId := by
  cases label with
  | proceed index =>
      simp only [listedPeer] at listed
      split at listed
      · rename_i announcement peer present
        exact ⟨_, List.mem_of_getElem? present, listed⟩
      · split_ifs at listed with own
        exact absurd (Option.some.inj listed) own
      · cases listed
  | _ => cases listed

theorem self_free_step {state next : NodeWorld prims} {label : NodeLabel}
    (free : SelfFree state) (calls : callsForOthers state label)
    (exchanges : exchangesWithOthers state label) (taken : nodeStep state label = some next) :
    SelfFree next := by
  have same := local_peer_step taken
  constructor
  · rw [same, keys_step taken]
    intro added
    cases added with
    | inl old => exact free.table old
    | inr written =>
        cases written with
        | inl exchanged => exact exchanges exchanged
        | inr listed => exact free.requests (listed_by_request listed)
  · rw [same]
    intro requested
    cases requested_step taken requested with
    | inl old => exact free.requests old
    | inr called => exact calls called

/-- While the application calls for other peers only, the node's own identity is
missing from the peer table exactly as long as no exchange is decoded on its own behalf. -/
theorem no_self_entry_iff {identity : NodeIdentity prims} {maxKeyRegistrySize : Option Nat}
    {labels : List NodeLabel} {state : NodeWorld prims}
    (run : Run nodeStep callsForOthers (.start identity ∅ maxKeyRegistrySize) labels state) :
    identity.peerId ∉ state.node.peers ↔
      Run nodeStep (fun state label => callsForOthers state label ∧ exchangesWithOthers state label)
        (.start identity ∅ maxKeyRegistrySize) labels state := by
  constructor
  · intro missing
    induction run with
    | start => exact .start
    | extend prior allowed taken ih =>
        have own := congrArg NodeIdentity.peerId (identity_run prior)
        rw [keys_step taken, not_or, not_or] at missing
        apply Run.extend (ih missing.1) _ taken
        apply And.intro allowed
        intro exchanged
        exact missing.2.1 (exchanged.trans (congrArg some own))
  · intro others
    have own := congrArg NodeIdentity.peerId (identity_run others)
    have free : SelfFree state := by
      apply run_invariant SelfFree _ others
      · constructor
        · exact AList.notMem_empty _
        · intro requested
          obtain ⟨task, member, asks⟩ := requested
          cases member
      · intro before label after held allowed taken
        exact self_free_step held allowed.1 allowed.2 taken
    intro present
    exact free.table (by rwa [NodeState.localPeerId, own])

/-! ## A node that hears itself -/

/-- Peer 1 discovers its own announcement and dials itself. Both ends of the session
exchange addresses before the self check ends the discovery. -/
def selfDiscovery (exchanged : List PeerAddress) : List NodeLabel :=
  [.arrival (sampleAnnouncement 1), .accept (samplePeer 1).octets, .handshake 0 (sampleRemote 1),
    .proceed 1, .receive 1 (encodeAddrExchange exchanged) 0,
    .exchange 0 (.bytes (encodeAddrExchange exchanged)), .proceed 0]

theorem no_self_entry_after_discovery :
    ∃ state, Run nodeStep callsForOthers freshNode (discoveryOf [sampleAddress 2]) state ∧
      samplePeer 1 ∉ state.node.peers := by
  have finished : ((execute (fun state label =>
      if callsForOthers state label ∧ exchangesWithOthers state label then nodeStep state label
      else none) freshNode (discoveryOf [sampleAddress 2])).map fun _ => ()) = some () := by
    decide +kernel
  obtain ⟨state, reached, _⟩ := Option.map_eq_some_iff.mp finished
  have guarded : Run nodeStep
      (fun state label => callsForOthers state label ∧ exchangesWithOthers state label)
      freshNode (discoveryOf [sampleAddress 2]) state := run_of_execute_guarded reached
  have run := run_weaken (fun _ _ both => both.1) guarded
  exact ⟨state, run, (no_self_entry_iff run).mpr guarded⟩

def NeverSelfEntry : Prop :=
  ∀ (prims : Primitives) (identity : NodeIdentity prims) (maxKeyRegistrySize : Option Nat)
    (labels : List NodeLabel) (state : NodeWorld prims),
    Run nodeStep callsForOthers (.start identity ∅ maxKeyRegistrySize) labels state →
    identity.peerId ∉ state.node.peers

theorem self_discovery_lists_self : ¬NeverSelfEntry := by
  intro never
  have finished : ((execute (fun state label =>
      if callsForOthers state label then nodeStep state label else none)
        freshNode (selfDiscovery [sampleAddress 1])).map fun state =>
          listedAddresses (announcementsOf state.node.peers (samplePeer 1))) =
      some [sampleAddress 1] := by
    decide +kernel
  obtain ⟨state, reached, found⟩ := Option.map_eq_some_iff.mp finished
  have missing : samplePeer 1 ∉ state.node.peers :=
    never _ _ _ _ state (run_of_execute_guarded reached)
  have absent : announcementsOf state.node.peers (samplePeer 1) = [] := by
    unfold announcementsOf
    rw [AList.lookup_eq_none.mpr missing]
    rfl
  rw [absent] at found
  cases found

end Pathweave
