import Pathweave.RouterConnect

/-!
# Delivering a backlog

`drain_direct_for_peer` takes the queue of a peer and makes one `Router::send` after the
other. Here the results of its sends are those of the router's calls, and the node at the
other end handles what arrives. The drain runs without other tasks; with them it is in
`StoreForward`.
-/

namespace Pathweave

open ByteStrings GuardedRuns

set_option autoImplicit false

variable {prims : Primitives}

/-! ## A drain with its calls -/

def Entry.expired (config : StoreConfig) (now : Nat) (entry : Entry) : Bool :=
  decide (config.storeTtl < now - entry.queuedAt)

def liveEntries (config : StoreConfig) (now : Nat) (entries : List Entry) : List Entry :=
  entries.filter fun entry => !entry.expired config now

def expiredEntries (config : StoreConfig) (now : Nat) (entries : List Entry) : List Entry :=
  entries.filter fun entry => entry.expired config now

section Drain

/- The transports that each call finds, what happens during the tries, in the order in
which they are made, and the clock reading of the drain. -/
variable (config : StoreConfig) (sender peer : PeerId) (plans : Entry → DialPlan)
  (tries : Nat → TimedAttempt) (now : Nat)

def backlogCall (entry : Entry) : SendCall where
  sender := sender
  payload := directBody entry.payload
  peerId := peer
  messageId := entry.msgId

def backlogPlan (announcements : List PeerAnnouncement) (entry : Entry) : DialPlan :=
  { plans entry with announcements := announcements }

/-- The loop over the entries, each with the result of its send. -/
def drainEntries (announcements : List PeerAnnouncement) (index : Nat) :
    List Entry → StoreState → CallState prims → Option (StoreState × CallState prims)
  | [], store, state => some (store, state)
  | entry :: rest, store, state =>
      let called := if entry.expired config now || announcements.isEmpty then
          (state, .error .deliveryFailed)
        else routerSend (backlogPlan plans announcements entry) (backlogCall sender peer entry)
          tries state
      let results := if announcements.isEmpty then [] else [called.2.isOk]
      (storeStep config store (.process index results)).bind fun next =>
        drainEntries announcements index rest next called.1

def drainDirectForPeer (store : StoreState) (state : CallState prims) :
    Option (StoreState × CallState prims) := do
  let index := store.drains.length
  let spawned ← storeStep config store (.spawnDrain [peer])
  let taken ← storeStep config spawned (.take index)
  match store.pending.lookup peer with
  | none =>
      let retired ← storeStep config taken (.retire index)
      some (retired, state)
  | some entries =>
      let viewed ← storeStep config taken (.view index now)
      let (processed, final) ← drainEntries config sender peer plans tries now
        (announcementsOf store.peers peer) index entries viewed state
      let finished ← storeStep config processed (.finish index)
      let retired ← storeStep config finished (.retire index)
      -- The sends have merged the addresses that were exchanged.
      let merged ← storeStep config retired (.changePeers final.peers)
      some (merged, final)

end Drain

/-! ## One entry -/

section Entries

variable {config : StoreConfig} {sender peer : PeerId} {plan : DialPlan}
  {tries : Nat → TimedAttempt} {key : PublicKey} {state : CallState prims} {entry : Entry}

structure Ready (sender peer : PeerId) (key : PublicKey) (entries : List Entry)
    (state : CallState prims) : Prop where
  known : state.keyRegistry.get peer = some key
  handler : state.receiver.handlerRegistered = true
  unseen : ∀ entry ∈ entries, state.receiver.dedup.seen (sender, entry.msgId) = none

/-- A call for an unexpired entry delivers it and leaves the rest as it was. -/
theorem backlog_call_delivers {rest : List Entry} (bound : peer = peerIdFromPublicKey prims key)
    (ready : Ready sender peer key (entry :: rest) state)
    (short : entry.payload.length ≤ 65510) (fresh : entry.msgId ∉ rest.map Entry.msgId)
    (dialled : plan.candidatesAt 0 ≠ [])
    (started : plan.initially.any (fun entry => entry.available) = true)
    (acknowledges : Acknowledges key (tries state.tries).attempt)
    (processed : (tries state.tries).processed = true) :
    ∃ after, routerSend plan (backlogCall sender peer entry) tries state = (after, .ok ()) ∧
      after.handled = state.handled ++ [(sender, entry.payload)] ∧
      Ready sender peer key rest after := by
  obtain ⟨known, handler, unseen⟩ := ready
  have fits : fitsSession (backlogCall sender peer entry).frame = true := fits_direct short _
  obtain ⟨sentAt, -, -, handled, receiver, kept⟩ :=
    acknowledged_once bound known fits acknowledges
  rw [processed] at handled receiver
  have body : (backlogCall sender peer entry).payload = directBody entry.payload := rfl
  obtain ⟨delivered, registered, others⟩ :=
    first_handled body sentAt handler (unseen entry List.mem_cons_self)
  refine ⟨_, acknowledged_send bound known fits acknowledges started dialled,
    handled.trans delivered, kept, ?_, ?_⟩
  · rw [receiver]
    exact registered
  · intro other listed
    rw [receiver]
    apply others _ _ (unseen other (List.mem_cons_of_mem _ listed))
    intro same
    exact fresh (List.mem_map.mpr ⟨other, listed, same⟩)

end Entries

/-! ## The whole queue -/

section Queue

variable {config : StoreConfig} {sender peer : PeerId} {plans : Entry → DialPlan}
  {tries : Nat → TimedAttempt} {now : Nat} {key : PublicKey} {base : List Drain}
  {batch : Batch} {store : StoreState} {state : CallState prims} {entry : Entry}
  {entries : List Entry} {announcements : List PeerAnnouncement} {target : Target}

theorem live_entries_expired (entries : List Entry)
    (expired : entry.expired config now = true) :
    liveEntries config now (entry :: entries) = liveEntries config now entries ∧
      expiredEntries config now (entry :: entries) =
        entry :: expiredEntries config now entries := by
  simp [liveEntries, expiredEntries, expired]

theorem live_entries_live (entries : List Entry)
    (live : entry.expired config now = false) :
    liveEntries config now (entry :: entries) = entry :: liveEntries config now entries ∧
      expiredEntries config now (entry :: entries) = expiredEntries config now entries := by
  simp [liveEntries, expiredEntries, live]

def Draining (base : List Drain) (batch : Batch) (store : StoreState) : Prop :=
  store.drains = base ++ [{ rest := [], batch := some batch }]

theorem draining_at (draining : Draining base batch store) :
    store.drains[base.length]? = some { rest := [], batch := some batch } := by
  rw [draining]
  simp

theorem draining_set (draining : Draining base batch store) (drain : Drain) :
    store.drains.set base.length drain = base ++ [drain] := by
  rw [draining]
  simp

/-- How a part of a drain has changed the store when every send in it succeeded. -/
structure Drained (config : StoreConfig) (base : List Drain) (batch : Batch) (now : Nat)
    (entries : List Entry) (store drained : StoreState) : Prop where
  draining : Draining base batch drained
  pending : drained.pending = store.pending
  sent : drained.sent = store.sent ++ (liveEntries config now entries).map (batch.dest, ·)
  storeFailed : drained.storeFailed =
    store.storeFailed ++ (expiredEntries config now entries).map (batch.dest, ·)

variable (config) in
theorem process_turn (draining : Draining base batch store)
    (todo : batch.todo = entry :: entries) (view : batch.view = some (now, [target]))
    (result : Bool) (succeeds : entry.expired config now = false → result = true) :
    ∃ next, storeStep config store (.process base.length [result]) = some next ∧
      Drained config base { batch with todo := entries } now [entry] store next := by
  have step : storeStep config store (.process base.length [result]) =
      some (store.process config base.length [] batch now [target] entry entries [result]) := by
    simp only [storeStep, draining_at draining, todo, view, List.length_singleton, if_true]
  refine ⟨_, step, ?_⟩
  cases expired : entry.expired config now with
  | true =>
      have late : config.storeTtl < now - entry.queuedAt := of_decide_eq_true expired
      obtain ⟨live, failed⟩ := live_entries_expired [] expired
      unfold StoreState.process
      rw [if_pos late]
      refine ⟨draining_set draining _, rfl, ?_, ?_⟩
      · rw [live]
        exact (List.append_nil _).symm
      · rw [failed]
        rfl
  | false =>
      have early : ¬ config.storeTtl < now - entry.queuedAt := of_decide_eq_false expired
      obtain ⟨live, failed⟩ := live_entries_live [] expired
      cases succeeds expired
      unfold StoreState.process
      rw [if_neg early]
      refine ⟨draining_set draining _, rfl, ?_, ?_⟩
      · rw [live]
        rfl
      · rw [failed]
        exact (List.append_nil _).symm

theorem drained_append {middle drained : StoreState} {earlier later : List Entry}
    {between : Batch} (first : Drained config base between now earlier store middle)
    (second : Drained config base batch now later middle drained)
    (same : between.dest = batch.dest) :
    Drained config base batch now (earlier ++ later) store drained := by
  refine ⟨second.draining, second.pending.trans first.pending, ?_, ?_⟩
  · rw [second.sent, first.sent, same, List.append_assoc, ← List.map_append]
    simp only [liveEntries, List.filter_append]
  · rw [second.storeFailed, first.storeFailed, same, List.append_assoc, ← List.map_append]
    simp only [expiredEntries, List.filter_append]

/-- What the calls need of the entries, of the transports and of the party that answers. -/
structure Deliverable (key : PublicKey) (plans : Entry → DialPlan)
    (announcements : List PeerAnnouncement) (tries : Nat → TimedAttempt)
    (entries : List Entry) : Prop where
  short : ∀ entry ∈ entries, entry.payload.length ≤ 65510
  distinct : (entries.map Entry.msgId).Nodup
  started : ∀ entry ∈ entries, (plans entry).initially.any (fun entry => entry.available) = true
  dialled : ∀ entry ∈ entries, (backlogPlan plans announcements entry).candidatesAt 0 ≠ []
  acknowledges : ∀ count, Acknowledges key (tries count).attempt
  processed : ∀ count, (tries count).processed = true

theorem deliverable_tail
    (deliverable : Deliverable key plans announcements tries (entry :: entries)) :
    entry.msgId ∉ entries.map Entry.msgId ∧
      Deliverable key plans announcements tries entries := by
  obtain ⟨short, distinct, started, dialled, acknowledges, processed⟩ := deliverable
  rw [List.map_cons, List.nodup_cons] at distinct
  exact ⟨distinct.1, fun other listed => short other (List.mem_cons_of_mem _ listed), distinct.2,
    fun other listed => started other (List.mem_cons_of_mem _ listed),
    fun other listed => dialled other (List.mem_cons_of_mem _ listed), acknowledges, processed⟩

/-- The loop, by induction on the entries that are left: each turn makes the call for the
first one unless it has expired, and what the later calls need stays true. -/
theorem drain_entries_deliver (bound : peer = peerIdFromPublicKey prims key)
    (listed : announcements.isEmpty = false)
    (deliverable : Deliverable key plans announcements tries (liveEntries config now entries))
    (ready : Ready sender peer key (liveEntries config now entries) state)
    (draining : Draining base batch store) (todo : batch.todo = entries)
    (view : batch.view = some (now, [target])) :
    ∃ drained final, drainEntries config sender peer plans tries now announcements base.length
        entries store state = some (drained, final) ∧
      Drained config base { batch with todo := [] } now entries store drained ∧
      final.handled = state.handled ++
        (liveEntries config now entries).map fun entry => (sender, entry.payload) := by
  induction entries generalizing batch store state with
  | nil =>
      refine ⟨store, state, rfl, ⟨?_, rfl, (List.append_nil _).symm, (List.append_nil _).symm⟩,
        (List.append_nil _).symm⟩
      rw [← todo]
      exact draining
  | cons entry rest ih =>
      cases expired : entry.expired config now with
      | true =>
          obtain ⟨live, -⟩ := live_entries_expired rest expired
          rw [live] at deliverable ready ⊢
          obtain ⟨next, step, turn⟩ := process_turn config draining todo view false
            (fun live => by cases expired.symm.trans live)
          obtain ⟨drained, final, run, done, handled⟩ :=
            ih deliverable ready turn.draining rfl view
          refine ⟨drained, final, ?_, drained_append turn done rfl, handled⟩
          simp only [drainEntries, expired, listed, Bool.true_or, if_true, Bool.false_eq_true,
            if_false]
          rw [show (Except.error .deliveryFailed : Except Error Unit).isOk = false from rfl, step]
          exact run
      | false =>
          obtain ⟨live, -⟩ := live_entries_live rest expired
          rw [live] at deliverable ready ⊢
          obtain ⟨fresh, later⟩ := deliverable_tail deliverable
          obtain ⟨after, called, delivered, waits⟩ := backlog_call_delivers bound ready
            (deliverable.short entry List.mem_cons_self) fresh
            (deliverable.dialled entry List.mem_cons_self)
            (deliverable.started entry List.mem_cons_self)
            (deliverable.acknowledges _) (deliverable.processed _)
          obtain ⟨next, step, turn⟩ := process_turn config draining todo view true fun _ => rfl
          obtain ⟨drained, final, run, done, handled⟩ := ih later waits turn.draining rfl view
          refine ⟨drained, final, ?_, drained_append turn done rfl, ?_⟩
          · simp only [drainEntries, expired, listed, Bool.or_self, Bool.false_eq_true, if_false,
              called]
            rw [show (Except.ok () : Except Error Unit).isOk = true from rfl, step]
            exact run
          · rw [handled, delivered, List.map_cons, List.append_assoc]
            rfl

def viewedStore (peer : PeerId) (now : Nat) (announcements : List PeerAnnouncement)
    (entries : List Entry) (store : StoreState) : StoreState :=
  { store with
    pending := store.pending.erase peer
    drains := store.drains ++
      [{ rest := []
         batch := some
          { store.newBatch peer entries with view := some (now, [(peer, announcements)]) } }] }

theorem direct_targets {peers : PeerTable} (listed : (announcementsOf peers peer).isEmpty = false) :
    directStore.targets peers peer = [(peer, announcementsOf peers peer)] := by
  unfold announcementsOf at listed ⊢
  cases lookup : peers.lookup peer with
  | none => simp [lookup] at listed
  | some announcements =>
      rw [lookup] at listed
      have filled : announcements ≠ [] := fun empty => by simp [empty] at listed
      simp [directStore, lookup, filled]

theorem drain_opens (now : Nat) (policy : config.policy = directStore)
    (queued : store.pending.lookup peer = some entries)
    (listed : (announcementsOf store.peers peer).isEmpty = false) :
    ∃ spawned taken, storeStep config store (.spawnDrain [peer]) = some spawned ∧
      storeStep config spawned (.take store.drains.length) = some taken ∧
      storeStep config taken (.view store.drains.length now) =
        some (viewedStore peer now (announcementsOf store.peers peer) entries store) := by
  have targets := direct_targets listed
  have visits : config.policy.visits store.pending.keys [peer] = true := by
    rw [policy]
    rfl
  refine ⟨_, _, by rw [storeStep, if_pos visits], by simp [storeStep]; rfl, ?_⟩
  simp [storeStep, StoreState.take, queued, StoreState.setDrain, StoreState.newBatch, policy,
    targets, viewedStore]

theorem drain_closes (config : StoreConfig) (draining : Draining base batch store)
    (todo : batch.todo = []) (viewed : batch.view ≠ none) (failures : batch.failures = [])
    (peers : PeerTable) :
    ∃ finished retired merged, storeStep config store (.finish base.length) = some finished ∧
      storeStep config finished (.retire base.length) = some retired ∧
      storeStep config retired (.changePeers peers) = some merged ∧
      merged = { store with drains := base, peers := peers } := by
  refine ⟨{ store with drains := base ++ [{ rest := [], batch := none }] },
    { store with drains := base }, _, ?_, ?_, rfl, rfl⟩
  · simp only [storeStep, draining_at draining]
    rw [if_pos ⟨todo, viewed⟩]
    simp [StoreState.finish, failures, StoreState.setDrain, draining_set draining]
  · simp [storeStep, List.eraseIdx_append_of_length_le]

theorem drain_direct_delivers (policy : config.policy = directStore)
    (bound : peer = peerIdFromPublicKey prims key)
    (queued : store.pending.lookup peer = some entries)
    (listed : (announcementsOf store.peers peer).isEmpty = false)
    (deliverable : Deliverable key plans (announcementsOf store.peers peer) tries
      (liveEntries config now entries))
    (ready : Ready sender peer key (liveEntries config now entries) state) :
    ∃ drained final, drainDirectForPeer config sender peer plans tries now store state =
        some (drained, final) ∧
      drained.pending = store.pending.erase peer ∧ drained.drains = store.drains ∧
      drained.sent = store.sent ++ (liveEntries config now entries).map (peer, ·) ∧
      drained.storeFailed =
        store.storeFailed ++ (expiredEntries config now entries).map (peer, ·) ∧
      final.handled = state.handled ++
        (liveEntries config now entries).map fun entry => (sender, entry.payload) := by
  obtain ⟨spawned, taken, spawns, takes, views⟩ := drain_opens now policy queued listed
  have opened : Draining store.drains _
      (viewedStore peer now (announcementsOf store.peers peer) entries store) := rfl
  obtain ⟨processed, final, run, done, handled⟩ :=
    drain_entries_deliver bound listed deliverable ready opened rfl rfl
  obtain ⟨finished, retired, merged, finishes, retires, merges, rfl⟩ :=
    drain_closes config done.draining rfl (Option.some_ne_none _) rfl final.peers
  refine ⟨{ processed with drains := store.drains, peers := final.peers }, final, ?_,
    done.pending, rfl, done.sent, done.storeFailed, handled⟩
  simp only [drainDirectForPeer, spawns, takes, queued, views, run, finishes, retires, merges,
    Option.bind_eq_bind, Option.bind_some]

end Queue

/-- The drain that `connect` runs for a peer with a backlog delivers it if the holder of the
key that is now registered for the peer answers: the handler gets the unexpired payloads in
the order in which they were stored, each once. The expired ones are reported as failed, the
queue of the peer is gone and the other queues are as they were. -/
theorem connect_delivers_backlog (attempts : Nat → ConnectAttempt)
    (transports : List TransportEntry) (announcement : PeerAnnouncement) (node : NodeState prims)
    (knownAddrs : Finset PeerAddress) (after : NodeConnected prims) (peer : PeerId)
    (connected : nodeConnect attempts transports announcement node knownAddrs =
      .ok (after, .ok peer))
    (config : StoreConfig) (policy : config.policy = directStore) (store : StoreState)
    (peers : store.peers = after.node.peers) (entries : List Entry)
    (queued : store.pending.lookup peer = some entries) :
    after.drains = [.direct peer, .routedAll] ∧
    ∃ key, peer = peerIdFromPublicKey prims key ∧
      after.node.keyRegistry.get peer = some key ∧
      ∀ (plans : Entry → DialPlan) (tries : Nat → TimedAttempt) (now clock : Nat)
        (receiver : NodeState prims),
        let live := liveEntries config now entries
        (∀ entry ∈ live, entry.payload.length ≤ 65510) → (live.map Entry.msgId).Nodup →
        (∀ entry ∈ live, (plans entry).initially.any (fun entry => entry.available) = true ∧
          ∃ transport ∈ (plans entry).transports 0, transport.available = true ∧
            transport.kind = announcement.address.kind) →
        (∀ count, Acknowledges key (tries count).attempt ∧ (tries count).processed = true) →
        receiver.handlerRegistered = true →
        (∀ entry ∈ live, receiver.dedup.seen (node.localPeerId, entry.msgId) = none) →
        ∃ drained final, drainDirectForPeer config node.localPeerId peer plans tries now store
            (.start after.node.keyRegistry after.node.peers clock receiver) =
              some (drained, final) ∧
          final.handled = live.map (fun entry => (node.localPeerId, entry.payload)) ∧
          drained.sent = store.sent ++ live.map (peer, ·) ∧
          drained.storeFailed =
            store.storeFailed ++ (expiredEntries config now entries).map (peer, ·) ∧
          drained.pending = store.pending.erase peer ∧ drained.drains = store.drains := by
  obtain ⟨key, bound, registry, -, listed, -, drains⟩ := node_connected connected
  rw [← peers] at listed
  have known : after.node.keyRegistry.get peer = some key := by
    rw [registry, KeyRegistryState.get_insert_direct, if_pos rfl]
  refine ⟨drains, key, bound, known, ?_⟩
  intro plans tries now clock receiver live short distinct reachable answers handler unseen
  have filled : (announcementsOf store.peers peer).isEmpty = false := by
    cases none : announcementsOf store.peers peer with
    | nil => simp [Lists, none, listedAddresses] at listed
    | cons first rest => rfl
  have dialled : ∀ entry ∈ live,
      (backlogPlan plans (announcementsOf store.peers peer) entry).candidatesAt 0 ≠ [] := by
    intro entry present
    obtain ⟨-, transport, registered, available, kind⟩ := reachable entry present
    exact candidates_of_listed listed rfl registered available kind
  have deliverable : Deliverable key plans (announcementsOf store.peers peer) tries live :=
    ⟨short, distinct, fun entry present => (reachable entry present).1, dialled,
      fun count => (answers count).1, fun count => (answers count).2⟩
  have ready : Ready node.localPeerId peer key live
      (.start after.node.keyRegistry after.node.peers clock receiver) := ⟨known, handler, unseen⟩
  obtain ⟨drained, final, run, pending, retired, sent, failed, handled⟩ :=
    drain_direct_delivers policy bound queued filled deliverable ready
  exact ⟨drained, final, run, handled, sent, failed, pending, retired⟩

def backlogEntry (call : Nat) (queuedAt : Nat) : Entry where
  call := call
  msgId := UInt64.ofNat call
  payload := [UInt8.ofNat call]
  queuedAt := queuedAt

/-- Three payloads for peer 2, of which the first was stored too long ago. -/
def backlogStore (peers : PeerTable) : StoreState :=
  { StoreState.start peers with
    pending := (∅ : PendingStore).insert (samplePeer 2)
      [backlogEntry 1 0, backlogEntry 2 8, backlogEntry 3 9] }

def shortLived : StoreConfig where
  policy := directStore
  maxQueueDepth := none
  storeTtl := 5

theorem connect_delivers_backlog_sample :
    ∃ after drained final,
      nodeConnect (fun _ => sampleConnect) [peripheralTransport] peripheralAnnouncement
        (sampleNode 1 [] []) ∅ = .ok (after, .ok (samplePeer 2)) ∧
      drainDirectForPeer shortLived (samplePeer 1) (samplePeer 2)
        (fun _ => { announcements := [], initially := [peripheralTransport]
                    transports := fun _ => [peripheralTransport] })
        (fun _ => sampleTry) 10 (backlogStore after.node.peers)
        (.start after.node.keyRegistry after.node.peers 0 (sampleNode 2 [] [])) =
          some (drained, final) ∧
      final.handled = [(samplePeer 1, [2]), (samplePeer 1, [3])] ∧
      drained.storeFailed = [(samplePeer 2, backlogEntry 1 0)] := by
  obtain ⟨after, connected⟩ := sample_connects
  obtain ⟨-, key, bound, -, delivers⟩ := connect_delivers_backlog _ _ _ _ _ after _ connected
    shortLived rfl (backlogStore after.node.peers) rfl _ (AList.lookup_insert _)
  have same : (samplePeer 2).octets = key := by
    rw [clear_peer_id] at bound
    rw [bound]
  have acknowledges : Acknowledges key sampleTry.attempt :=
    ⟨⟨sampleRemote 2, rfl, by rw [← same]; rfl⟩, rfl, [], rfl⟩
  obtain ⟨drained, final, run, handled, -, failed, -⟩ := delivers
    (fun _ => { announcements := [], initially := [peripheralTransport]
                transports := fun _ => [peripheralTransport] })
    (fun _ => sampleTry) 10 0 (sampleNode 2 [] []) (by decide) (by decide)
    (fun _ _ => ⟨rfl, peripheralTransport, List.mem_singleton_self _, rfl, rfl⟩)
    (fun _ => ⟨acknowledges, rfl⟩) rfl (fun _ _ => rfl)
  exact ⟨after, drained, final, connected, run, handled, failed⟩

end Pathweave
