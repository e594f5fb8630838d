import Pathweave.PeerTableEntries

/-!
# Whom a departed address belongs to

A departure names an address only. `peer_stream` looks for a peer whose entry lists
the address, in the iteration order of the table, and reports the first one. Entries
only grow, and they list what peers claim in address exchanges next to what discovery
has found. So the report is about the last peer discovered at the address exactly as
long as nobody else was ever listed with it.
-/

namespace Pathweave

open ByteStrings GuardedRuns

set_option autoImplicit false

variable {prims : Primitives}

/-! ## What a step lists -/

def claimsOf (peer : PeerId) : Option (List PeerAddress) → List (PeerId × PeerAddress)
  | some addresses => addresses.map fun claimed => (peer, claimed)
  | none => []

theorem lists_merged {peers : PeerTable} {peer other : PeerId} {address : PeerAddress}
    (exchanged : Option (List PeerAddress)) :
    Lists (mergeExchanged peers peer exchanged) other address ↔
      Lists peers other address ∨ (other, address) ∈ claimsOf peer exchanged := by
  cases exchanged with
  | none => simp [mergeExchanged, claimsOf]
  | some addresses => exact lists_upserted addresses

def proceedListings (localPeerId : PeerId) : Task prims → List (PeerId × PeerAddress)
  | .connected (.discovery announcement) session _ =>
      if session.peerId = localPeerId then [] else [(session.peerId, announcement.address)]
  | .listing announcement peer => [(peer, announcement.address)]
  | _ => []

def exchangeListings (exchanged : Option (List PeerAddress)) :
    Task prims → List (PeerId × PeerAddress)
  | .exchanging send _ _ => claimsOf send.peerId exchanged
  | .connectExchanging _ session _ => claimsOf session.peerId exchanged
  | _ => []

def receiveListings (payload : Bytes) : Task prims → List (PeerId × PeerAddress)
  | .awaitingFirst session =>
      if looksLikeControl payload then
        match decodeAddrExchange payload with
        | .ok exchanged => claimsOf session.peerId exchanged
        | .error _ => []
      else []
  | _ => []

def listings (state : NodeWorld prims) : NodeLabel → List (PeerId × PeerAddress)
  | .proceed index => (state.tasks[index]?).elim [] (proceedListings state.node.localPeerId)
  | .exchange index reply =>
      match decodeReply reply with
      | .ok exchanged => (state.tasks[index]?).elim [] (exchangeListings exchanged)
      | .error _ => []
  | .receive index payload _ => (state.tasks[index]?).elim [] (receiveListings payload)
  | _ => []

section ListingSteps

variable {state next : NodeWorld prims} {index : Nat} {task : Task prims} {peer : PeerId}
  {address : PeerAddress}

theorem proceed_lists (taken : proceedStep state index task = some next) :
    Lists next.node.peers peer address ↔ Lists state.node.peers peer address ∨
      (peer, address) ∈ proceedListings state.node.localPeerId task := by
  cases task with
  | connected reason session isNewKey =>
      cases reason with
      | connect announcement =>
          cases taken
          simp [proceedListings, NodeWorld.setTask, NodeWorld.emit]
      | discovery announcement =>
          simp only [proceedStep] at taken
          split_ifs at taken with own
          · cases taken
            simp [proceedListings, own, NodeWorld.endTask]
          · cases taken
            simp only [proceedListings, own, if_false]
            exact lists_discovered announcement
  | listing announcement owner =>
      cases taken
      exact lists_announced announcement
  | sending _ | recording _ _ | notifying _ _ | accepted _ _ =>
      cases taken
      simp [proceedListings, NodeWorld.setTask, NodeWorld.endTask, NodeWorld.emit]
  | _ => cases taken

theorem exchange_lists {exchanged : Option (List PeerAddress)}
    (taken : exchangeStep state index exchanged task = some next) :
    Lists next.node.peers peer address ↔ Lists state.node.peers peer address ∨
      (peer, address) ∈ exchangeListings exchanged task := by
  cases task with
  | exchanging send session isNewKey =>
      cases taken
      exact lists_merged exchanged
  | connectExchanging reason session isNewKey =>
      cases taken
      exact lists_merged exchanged
  | _ => cases taken

theorem receive_lists {payload : Bytes} {now : Nat}
    (taken : receiveStep state index payload now task = some next) :
    Lists next.node.peers peer address ↔ Lists state.node.peers peer address ∨
      (peer, address) ∈ receiveListings payload task := by
  cases task with
  | awaitingFirst session =>
      simp only [receiveStep] at taken
      simp only [receiveListings]
      split_ifs at taken ⊢ with control
      · cases decoded : decodeAddrExchange payload with
        | error _ => simp [decoded] at taken
        | ok exchanged =>
            simp only [decoded, Option.some.injEq] at taken
            subst taken
            exact lists_merged exchanged
      · simp [dispatch_keeps_peers taken]
  | serving session => simp [receiveListings, dispatch_keeps_peers taken]
  | _ => cases taken

/-- The table grows by the listings of the step and by nothing else. -/
theorem step_lists {label : NodeLabel} (taken : nodeStep state label = some next) :
    Lists next.node.peers peer address ↔
      Lists state.node.peers peer address ∨ (peer, address) ∈ listings state label := by
  cases label with
  | proceed index =>
      obtain ⟨task, present, stepped⟩ := Option.bind_eq_some_iff.mp taken
      simp only [listings, present, Option.elim_some]
      exact proceed_lists stepped
  | exchange index reply =>
      simp only [nodeStep, listings] at taken ⊢
      cases decoded : decodeReply reply with
      | error _ => simp [decoded] at taken
      | ok exchanged =>
          simp only [decoded] at taken
          obtain ⟨task, present, stepped⟩ := Option.bind_eq_some_iff.mp taken
          simp only [present, Option.elim_some]
          exact exchange_lists stepped
  | receive index payload now =>
      obtain ⟨task, present, stepped⟩ := Option.bind_eq_some_iff.mp taken
      simp only [listings, present, Option.elim_some]
      exact receive_lists stepped
  | _ =>
      simp only [listings, List.not_mem_nil, or_false]
      cases node_step_moves taken <;> exact Iff.rfl

end ListingSteps

/-! ## Runs with their history -/

/-- The address and the identity of a discovery that `try_connect` has completed, the
node's own identity included. -/
def discoveredAt (state : NodeWorld prims) : NodeLabel → Option (PeerAddress × PeerId)
  | .proceed index =>
      match state.tasks[index]? with
      | some (.connected (.discovery announcement) session _) =>
          some (announcement.address, session.peerId)
      | _ => none
  | _ => none

/-- A node and, as history, the peer last discovered at each address and everything
that was ever listed. -/
structure TrackedNode (prims : Primitives) where
  world : NodeWorld prims
  discoverer : PeerAddress → Option PeerId
  claims : List (PeerId × PeerAddress)

def TrackedNode.start (identity : NodeIdentity prims) (maxKeyRegistrySize : Option Nat) :
    TrackedNode prims where
  world := .start identity ∅ maxKeyRegistrySize
  discoverer := fun _ => none
  claims := []

def TrackedNode.noteDiscovery (tracked : TrackedNode prims) (label : NodeLabel) :
    PeerAddress → Option PeerId :=
  match discoveredAt tracked.world label with
  | some (address, peer) => Function.update tracked.discoverer address (some peer)
  | none => tracked.discoverer

def trackedStep (tracked : TrackedNode prims) (label : NodeLabel) : Option (TrackedNode prims) :=
  (nodeStep tracked.world label).map fun next =>
    { world := next
      discoverer := tracked.noteDiscovery label
      claims := tracked.claims ++ listings tracked.world label }

theorem claims_listed {identity : NodeIdentity prims} {maxKeyRegistrySize : Option Nat}
    {labels : List NodeLabel} {tracked : TrackedNode prims}
    (run : Run trackedStep anyStep (.start identity maxKeyRegistrySize) labels tracked)
    (peer : PeerId) (address : PeerAddress) :
    Lists tracked.world.node.peers peer address ↔ (peer, address) ∈ tracked.claims := by
  apply run_invariant (fun tracked : TrackedNode prims =>
    Lists tracked.world.node.peers peer address ↔ (peer, address) ∈ tracked.claims) _ run
  · simp [TrackedNode.start, NodeWorld.start, Lists, announcementsOf, listedAddresses]
  · intro before label after held _ taken
    obtain ⟨next, stepped, rfl⟩ := Option.map_eq_some_iff.mp taken
    rw [step_lists stepped, held, List.mem_append]

/-! ## Departures -/

/-- The search of a departure through the table in one iteration order. -/
def ownerIn (order : List (Sigma fun _ : PeerId => List PeerAnnouncement))
    (address : PeerAddress) : Option PeerId :=
  (order.find? fun entry => entry.2.any fun listed => listed.address = address).map
    fun entry => entry.1

def departureEvents (order : List (Sigma fun _ : PeerId => List PeerAnnouncement))
    (address : PeerAddress) : List TransportEvent :=
  (ownerIn order address).toList.map .peerDisconnected

theorem departure_emits (state : NodeWorld prims) (address : PeerAddress) :
    ∃ next, nodeStep state (.departure address) = some next ∧
      next.events = state.events ++ departureEvents state.node.peers.entries address := by
  simp only [nodeStep]
  cases found : ownerOf state.node.peers address with
  | none =>
      have nobody : ownerIn state.node.peers.entries address = none := found
      exact ⟨state, rfl, by simp [departureEvents, nobody]⟩
  | some peer =>
      have owner : ownerIn state.node.peers.entries address = some peer := found
      exact ⟨_, rfl, by simp [departureEvents, owner, NodeWorld.emit]⟩

theorem any_listed {announcements : List PeerAnnouncement} {address : PeerAddress} :
    (announcements.any fun listed => listed.address = address) = true ↔
      address ∈ listedAddresses announcements := by
  simp [listedAddresses]

theorem owner_in_some_order {peers : PeerTable} {peer : PeerId} {address : PeerAddress} :
    (∃ order, order.Perm peers.entries ∧ ownerIn order address = some peer) ↔
      Lists peers peer address := by
  constructor
  · rintro ⟨order, same, found⟩
    obtain ⟨entry, first, rfl⟩ := Option.map_eq_some_iff.mp found
    have member : entry ∈ peers.entries := same.subset (List.mem_of_find?_eq_some first)
    have entered : peers.lookup entry.1 = some entry.2 := AList.mem_lookup_iff.mpr member
    have listed := List.find?_some first
    rw [any_listed] at listed
    rw [Lists, announcementsOf, entered]
    exact listed
  · intro listed
    rw [Lists, announcementsOf] at listed
    cases entered : peers.lookup peer with
    | none => simp [entered, listedAddresses] at listed
    | some announcements =>
        rw [entered, Option.getD_some, ← any_listed] at listed
        have member : ⟨peer, announcements⟩ ∈ peers.entries := AList.mem_lookup_iff.mp entered
        refine ⟨⟨peer, announcements⟩ :: peers.entries.erase ⟨peer, announcements⟩,
          (List.perm_cons_erase member).symm, ?_⟩
        simp only [ownerIn, List.find?_cons, listed, Option.map_some]

theorem owner_in_none {peers : PeerTable} {address : PeerAddress}
    (nobody : ownerIn peers.entries address = none) (peer : PeerId) :
    ¬ Lists peers peer address := by
  intro listed
  obtain ⟨order, same, found⟩ := owner_in_some_order.mpr listed
  obtain ⟨entry, first, _⟩ := Option.map_eq_some_iff.mp found
  have present := same.subset (List.mem_of_find?_eq_some first)
  have matched := List.find?_some first
  exact List.find?_eq_none.mp (Option.map_eq_none_iff.mp nobody) entry present matched

/-- Whatever the iteration order, a departure reports the peer last discovered at the
address, exactly when every peer that was ever listed with the address is that one. -/
theorem departure_attribution_iff {identity : NodeIdentity prims}
    {maxKeyRegistrySize : Option Nat} {labels : List NodeLabel} {tracked : TrackedNode prims}
    (run : Run trackedStep anyStep (.start identity maxKeyRegistrySize) labels tracked)
    (address : PeerAddress) :
    (∀ order, order.Perm tracked.world.node.peers.entries →
      ∀ peer, .peerDisconnected peer ∈ departureEvents order address →
        tracked.discoverer address = some peer) ↔
      ∀ peer, (peer, address) ∈ tracked.claims → tracked.discoverer address = some peer := by
  have reported : ∀ order peer, .peerDisconnected peer ∈ departureEvents order address ↔
      ownerIn order address = some peer := by
    intro order peer
    simp [departureEvents]
  constructor
  · intro right peer claimed
    obtain ⟨order, same, found⟩ := owner_in_some_order.mpr ((claims_listed run peer address).mpr
      claimed)
    exact right order same peer ((reported order peer).mpr found)
  · intro only order same peer event
    have found := (reported order peer).mp event
    exact only peer ((claims_listed run peer address).mp
      (owner_in_some_order.mp ⟨order, same, found⟩))

def trackedLonely : TrackedNode clearPrimitives := .start (sampleIdentity 1) none

theorem departure_attribution_discovered :
    ∃ tracked, Run trackedStep anyStep trackedLonely (discoveryOf []) tracked ∧
      tracked.claims = [(samplePeer 2, sampleAddress 1)] ∧
      ∀ order, order.Perm tracked.world.node.peers.entries →
        ∀ peer, .peerDisconnected peer ∈ departureEvents order (sampleAddress 1) →
          tracked.discoverer (sampleAddress 1) = some peer := by
  have finished : ((execute trackedStep trackedLonely (discoveryOf [])).map fun tracked =>
      (tracked.discoverer (sampleAddress 1), tracked.claims)) =
      some (some (samplePeer 2), [(samplePeer 2, sampleAddress 1)]) := by
    decide +kernel
  obtain ⟨tracked, reached, found⟩ := Option.map_eq_some_iff.mp finished
  obtain ⟨discoverer, claims⟩ := Prod.mk.inj found
  have run := run_of_execute reached
  refine ⟨tracked, run, claims, (departure_attribution_iff run (sampleAddress 1)).mpr ?_⟩
  intro peer claimed
  rw [claims, List.mem_singleton] at claimed
  rw [discoverer, (Prod.mk.inj claimed).1]

/-- Peer 2 is discovered at port 1; then peer 3 connects and claims that address. -/
def claimedByAnother : List NodeLabel :=
  discoveryOf [] ++ [.accept (samplePeer 3).octets, .proceed 0,
    .receive 0 (encodeAddrExchange [sampleAddress 1]) 0]

/-- Only peer 2 was ever discovered at the address, and its departure is reported for
peer 3. -/
theorem departure_reported_for_claimant :
    ∃ tracked next, Run trackedStep anyStep trackedLonely claimedByAnother tracked ∧
      tracked.discoverer (sampleAddress 1) = some (samplePeer 2) ∧
      nodeStep tracked.world (.departure (sampleAddress 1)) = some next ∧
      next.events = tracked.world.events ++ [.peerDisconnected (samplePeer 3)] := by
  have finished : ((execute trackedStep trackedLonely claimedByAnother).map fun tracked =>
      (tracked.discoverer (sampleAddress 1),
        departureEvents tracked.world.node.peers.entries (sampleAddress 1))) =
      some (some (samplePeer 2), [.peerDisconnected (samplePeer 3)]) := by
    decide +kernel
  obtain ⟨tracked, reached, found⟩ := Option.map_eq_some_iff.mp finished
  obtain ⟨discoverer, events⟩ := Prod.mk.inj found
  obtain ⟨next, taken, emitted⟩ := departure_emits tracked.world (sampleAddress 1)
  rw [events] at emitted
  exact ⟨tracked, next, run_of_execute reached, discoverer, taken, emitted⟩

end Pathweave
