import Mathlib.Algebra.Order.BigOperators.Group.Finset
import Pathweave.SampleMesh

/-!
# A flood is bounded

Relays lower the clamped TTL by one, so a chain of relays has at most seven
links whatever TTL byte was injected. While no deduplication entry expires, the
first copy that acts at a node marks its id there; the peer tables of the nodes
that have not seen the id bound everything a flood can still send.
-/

namespace Pathweave

open ByteStrings GuardedRuns Weights

set_option autoImplicit false

variable {prims : Primitives} {mesh : Mesh prims} {state next : MeshState prims}
  {label : MeshLabel}

/-! ## Chains of relays -/

/-- The relay carries the id and the content on, with a TTL one below the
clamped one. The sum form excludes an underflow. -/
def RelaysOneHop (entry : Dispatched) (send : RouterSend) : Prop :=
  ∃ messageId content ttl forwarded,
    parseFrame entry.copy.frame = .routed messageId content ttl ∧
    parseFrame (frameMessage send.messageId send.payload) =
      .routed messageId content forwarded ∧
    forwarded.toNat + 1 = min ttl.toNat 7

/-- The relays behind a copy and the TTL before it share one budget. -/
def WithinRadius (copy : Transmission) : Prop :=
  copy.path.length ≤ 7 ∧
    ∀ messageId content ttl, parseFrame copy.frame = .routed messageId content ttl →
      copy.path.length + min ttl.toNat 7 ≤ 7

theorem relays_one_hop {copy : Transmission} {now : Nat} {send : RouterSend}
    (sent : send ∈ (state.outcome now copy).relays) :
    ∃ messageId content ttl, parseFrame copy.frame = .routed messageId content ttl ∧
      parseFrame (frameMessage send.messageId send.payload) =
        .routed messageId content (clampTtl ttl - 1) ∧
      (clampTtl ttl - 1).toNat + 1 = min ttl.toNat 7 := by
  rcases frame_outcome_relays sent with ⟨messageId, content, ttl, parsed, relayed⟩
  rcases mem_relays relayed with ⟨alive, body, sameId, -⟩
  refine ⟨messageId, content, ttl, parsed, ?_, forwarded_ttl ttl alive⟩
  rw [body, sameId, parse_routed]

theorem within_radius_relay (mesh : Mesh prims) {copy : Transmission} {now : Nat}
    {send : RouterSend} (within : WithinRadius copy) (sent : send ∈ (state.outcome now copy).relays) :
    copy.path.length < 7 ∧
      WithinRadius (transmit mesh.retries copy.receiver (copy.path ++ [copy.receiver]) send) := by
  rcases relays_one_hop sent with ⟨messageId, content, ttl, parsed, forwarded, lower⟩
  have budget := within.2 messageId content ttl parsed
  refine ⟨by omega, ?_, ?_⟩
  · simp only [transmit, List.length_append, List.length_singleton]
    omega
  · intro otherId otherContent otherTtl otherParsed
    rw [transmit, forwarded] at otherParsed
    cases otherParsed
    simp only [transmit, List.length_append, List.length_singleton]
    omega

theorem within_radius_step (held : ∀ copy ∈ state.inFlight, WithinRadius copy)
    (moved : MeshMove mesh state label next) : ∀ copy ∈ next.inFlight, WithinRadius copy :=
  in_flight_invariant WithinRadius (fun _ within => within)
    (fun _ _ _ within _ sent => (within_radius_relay mesh within sent).2) held moved

def RelaysWell (entry : Dispatched) : Prop :=
  ∀ send ∈ entry.relays, RelaysOneHop entry send ∧ entry.copy.path.length < 7 ∧
    send.peerId ≠ entry.copy.sender ∧ send.peerId ≠ entry.node

theorem relays_well_step (same : mesh.SameSettings state)
    (within : ∀ copy ∈ state.inFlight, WithinRadius copy)
    (held : ∀ entry ∈ state.history, RelaysWell entry)
    (moved : MeshMove mesh state label next) : ∀ entry ∈ next.history, RelaysWell entry := by
  refine history_invariant RelaysWell ?_ held moved
  intro copy now listed member send sent
  rcases frame_outcome_relays sent with ⟨messageId, content, ttl, parsed, relayed⟩
  rcases mem_relays relayed with ⟨-, -, -, -, notSender, notLocal⟩
  rw [same.local_peer member] at notLocal
  rcases relays_one_hop sent with ⟨sameId, sameContent, sameTtl, hop⟩
  refine ⟨⟨sameId, sameContent, sameTtl, _, hop⟩, ?_, notSender, notLocal⟩
  exact (within_radius_relay mesh (within copy listed) sent).1

/-! ## First copies -/

def Dispatched.actsFor (messageId : UInt64) (entry : Dispatched) : Bool :=
  decide ((parseFrame entry.copy.frame).floodId = some messageId) &&
    (entry.delivered.isSome || !entry.relays.isEmpty)

def actors (messageId : UInt64) (history : List Dispatched) : List PeerId :=
  (history.filter (Dispatched.actsFor messageId)).map Dispatched.node

/-- Each node acts on a flood at most once, and has seen it from then on. -/
def ActsOnce (messageId : UInt64) (state : MeshState prims) : Prop :=
  (actors messageId state.history).Nodup ∧
    ∀ peer ∈ actors messageId state.history, (state.nodes peer).hasSeen messageId

theorem has_seen_step {peer : PeerId} {messageId : UInt64} (allowed : noExpiry state label)
    (moved : MeshMove mesh state label next) (seen : (state.nodes peer).hasSeen messageId) :
    (next.nodes peer).hasSeen messageId := by
  cases moved with
  | @delivered index now again copy present member budget =>
      by_cases here : peer = copy.receiver
      · subst here
        rw [process_nodes_self]
        exact (frame_outcome_has_seen (allowed copy present)).2 seen
      · rwa [process_nodes_of_ne _ _ _ here]
  | lost inside => exact seen

theorem newly_seen {index now : Nat} {again : Bool} {copy : Transmission} {peer : PeerId}
    {messageId : UInt64} (unexpired : (state.nodes copy.receiver).Unexpired now)
    (seen : ((state.process mesh index again copy (state.outcome now copy)).nodes peer).hasSeen
      messageId) :
    (state.nodes peer).hasSeen messageId ∨
      (peer = copy.receiver ∧ (parseFrame copy.frame).floodId = some messageId ∧
        (state.outcome now copy).node.hasSeen messageId) := by
  by_cases here : peer = copy.receiver
  · subst here
    rw [process_nodes_self] at seen
    rcases (frame_outcome_has_seen unexpired).1 seen with before | flooded
    · exact .inl before
    · exact .inr ⟨rfl, flooded, seen⟩
  · rw [process_nodes_of_ne _ _ _ here] at seen
    exact .inl seen

theorem acts_first {copy : Transmission} {now : Nat} (messageId : UInt64)
    (unexpired : (state.nodes copy.receiver).Unexpired now)
    (acts : Dispatched.actsFor messageId
      { node := copy.receiver
        copy := copy
        delivered := (state.outcome now copy).delivered
        relays := (state.outcome now copy).relays } = true) :
    ¬ (state.nodes copy.receiver).hasSeen messageId ∧
      (state.outcome now copy).node.hasSeen messageId := by
  simp only [Dispatched.actsFor, MeshState.outcome, Bool.and_eq_true, decide_eq_true_eq,
    Bool.or_eq_true, Bool.not_eq_true', List.isEmpty_eq_false_iff] at acts
  cases parsed : parseFrame copy.frame with
  | routed ownId content ttl =>
      simp only [parsed, Frame.floodId, Option.some.injEq] at acts
      rcases acts with ⟨rfl, effective⟩
      simp only [MeshState.outcome, parsed]
      exact routed_outcome_acts unexpired effective
  | direct ownId payload => simp [parsed, Frame.floodId] at acts
  | skipped => simp [parsed, Frame.floodId] at acts

theorem acts_once_step {messageId : UInt64} (once : ActsOnce messageId state)
    (allowed : noExpiry state label) (moved : MeshMove mesh state label next) :
    ActsOnce messageId next := by
  have kept : ∀ peer ∈ actors messageId state.history, (next.nodes peer).hasSeen messageId :=
    fun peer listed => has_seen_step allowed moved (once.2 peer listed)
  cases moved with
  | @delivered index now again copy present member budget =>
      unfold ActsOnce actors
      simp only [MeshState.process, List.filter_append, List.map_append]
      rcases acts : Dispatched.actsFor messageId
        { node := copy.receiver
          copy := copy
          delivered := (state.outcome now copy).delivered
          relays := (state.outcome now copy).relays } with _ | _
      · simp only [List.filter_cons, acts, List.filter_nil, Bool.false_eq_true, if_false,
          List.map_nil, List.append_nil]
        exact ⟨once.1, kept⟩
      · rcases acts_first messageId (allowed copy present) acts with ⟨new, marked⟩
        simp only [List.filter_cons, acts, List.filter_nil, if_true, List.map_cons, List.map_nil]
        constructor
        · rw [List.nodup_append_comm, List.singleton_append, List.nodup_cons]
          exact ⟨fun listed => new (once.2 _ listed), once.1⟩
        · intro peer listed
          rcases List.mem_append.mp listed with old | here
          · exact kept peer old
          · cases List.mem_singleton.mp here
            simpa only [Function.update_self] using marked
  | lost inside => exact once

def Dispatched.relaysFor (messageId : UInt64) (entry : Dispatched) : Bool :=
  decide ((parseFrame entry.copy.frame).floodId = some messageId) && !entry.relays.isEmpty

def relayers (messageId : UInt64) (history : List Dispatched) : List PeerId :=
  (history.filter (Dispatched.relaysFor messageId)).map Dispatched.node

def sendsFor (messageId : UInt64) (history : List Dispatched) : Nat :=
  ((history.filter (Dispatched.relaysFor messageId)).map fun entry => entry.relays.length).sum

theorem relayers_nodup {messageId : UInt64} (once : ActsOnce messageId state) :
    (relayers messageId state.history).Nodup := by
  refine once.1.sublist (List.Sublist.map _ (List.monotone_filter_right _ ?_))
  intro entry relays
  simp only [Dispatched.relaysFor, Dispatched.actsFor, Bool.and_eq_true] at relays ⊢
  exact ⟨relays.1, by simp [relays.2]⟩

/-! ## Sends and steps -/

def Mesh.tableSize (mesh : Mesh prims) (peer : PeerId) : Nat :=
  (mesh.nodes peer).peers.keys.length

def Mesh.WithinTable (mesh : Mesh prims) (entry : Dispatched) : Prop :=
  entry.node ∈ mesh.members ∧ entry.relays.length ≤ mesh.tableSize entry.node

theorem outcome_within_table (same : mesh.SameSettings state) (copy : Transmission) (now : Nat) :
    (state.outcome now copy).relays.length ≤ mesh.tableSize copy.receiver := by
  rw [Mesh.tableSize, ← same.peers_eq]
  exact frame_outcome_relays_length

theorem within_table_step (same : mesh.SameSettings state)
    (held : ∀ entry ∈ state.history, mesh.WithinTable entry)
    (moved : MeshMove mesh state label next) :
    ∀ entry ∈ next.history, mesh.WithinTable entry :=
  history_invariant mesh.WithinTable
    (fun copy now _ member => ⟨member, outcome_within_table same copy now⟩) held moved

theorem sends_le_tables {messageId : UInt64} (once : ActsOnce messageId state)
    (held : ∀ entry ∈ state.history, mesh.WithinTable entry) :
    sendsFor messageId state.history ≤ ∑ peer ∈ mesh.members, mesh.tableSize peer := by
  have relaying : ∀ entry ∈ state.history.filter (Dispatched.relaysFor messageId),
      mesh.WithinTable entry := fun entry listed => held entry (List.mem_of_mem_filter listed)
  have members : (relayers messageId state.history).toFinset ⊆ mesh.members := by
    intro peer listed
    obtain ⟨entry, kept, rfl⟩ := List.mem_map.mp (List.mem_toFinset.mp listed)
    exact (relaying entry kept).1
  calc sendsFor messageId state.history
      ≤ ((relayers messageId state.history).map mesh.tableSize).sum := by
        rw [sendsFor, relayers, List.map_map]
        exact List.sum_le_sum fun entry listed => (relaying entry listed).2
    _ = ∑ peer ∈ (relayers messageId state.history).toFinset, mesh.tableSize peer :=
        (List.sum_toFinset _ (relayers_nodup once)).symm
    _ ≤ ∑ peer ∈ mesh.members, mesh.tableSize peer := Finset.sum_le_sum_of_subset members

/-! ## Every run ends -/

theorem sum_drop {Index : Type*} [DecidableEq Index] {indices : Finset Index}
    {before after : Index → Nat} {index : Index} {drop : Nat} (listed : index ∈ indices)
    (smaller : ∀ other ∈ indices, after other ≤ before other)
    (dropped : after index + drop ≤ before index) :
    ∑ other ∈ indices, after other + drop ≤ ∑ other ∈ indices, before other := by
  rw [← Finset.add_sum_erase indices after listed, ← Finset.add_sum_erase indices before listed]
  have rest := Finset.sum_le_sum fun other (kept : other ∈ indices.erase index) =>
    smaller other (Finset.mem_of_mem_erase kept)
  omega

instance (node : NodeState prims) (messageId : UInt64) : Decidable (node.hasSeen messageId) :=
  inferInstanceAs (Decidable ((node.dedup.seenRouted messageId).isSome = true))

/-- What a node may still send for a flood. -/
def Mesh.allowance (mesh : Mesh prims) (state : MeshState prims) (flood : UInt64 × PeerId) : Nat :=
  if (state.nodes flood.2).hasSeen flood.1 then 0 else mesh.tableSize flood.2

def Mesh.allowances (mesh : Mesh prims) (ids : Finset UInt64) (state : MeshState prims) : Nat :=
  ∑ flood ∈ ids ×ˢ mesh.members, mesh.allowance state flood

def floodIds (traffic : List Transmission) : Finset UInt64 :=
  (traffic.filterMap fun copy => (parseFrame copy.frame).floodId).toFinset

def FloodIn (ids : Finset UInt64) (copy : Transmission) : Prop :=
  ∀ messageId, (parseFrame copy.frame).floodId = some messageId → messageId ∈ ids

theorem flood_in_step {ids : Finset UInt64} (held : ∀ copy ∈ state.inFlight, FloodIn ids copy)
    (moved : MeshMove mesh state label next) : ∀ copy ∈ next.inFlight, FloodIn ids copy := by
  refine in_flight_invariant (FloodIn ids) (fun _ known => known) ?_ held moved
  intro copy now member known send sent messageId parsed
  rcases relays_one_hop sent with ⟨sameId, content, ttl, received, forwarded, -⟩
  rw [transmit, forwarded] at parsed
  exact known messageId (by rw [received]; exact parsed)

theorem allowance_step (allowed : noExpiry state label) (moved : MeshMove mesh state label next)
    (flood : UInt64 × PeerId) : mesh.allowance next flood ≤ mesh.allowance state flood := by
  unfold Mesh.allowance
  split_ifs with seenAfter seenBefore
  · omega
  · omega
  · exact absurd (has_seen_step allowed moved (by assumption)) seenAfter
  · exact le_rfl

theorem allowances_step {ids : Finset UInt64} {index now : Nat} {again : Bool}
    {copy : Transmission} (same : mesh.SameSettings state)
    (held : ∀ copy ∈ state.inFlight, FloodIn ids copy)
    (allowed : noExpiry state (.deliver index now again))
    (present : state.inFlight[index]? = some copy) (member : copy.receiver ∈ mesh.members)
    (budget : again → 0 < copy.retries) :
    mesh.allowances ids (state.process mesh index again copy (state.outcome now copy)) +
      (state.outcome now copy).relays.length ≤ mesh.allowances ids state := by
  have moved : MeshMove mesh state (.deliver index now again) _ :=
    .delivered present member budget
  by_cases quiet : (state.outcome now copy).relays = []
  · rw [quiet, List.length_nil, Nat.add_zero]
    exact Finset.sum_le_sum fun flood _ => allowance_step allowed moved flood
  · obtain ⟨send, sent⟩ := List.exists_mem_of_ne_nil _ quiet
    rcases frame_outcome_relays sent with ⟨messageId, content, ttl, parsed, -⟩
    have flooded : (parseFrame copy.frame).floodId = some messageId := by
      rw [parsed]
      rfl
    rcases acts_first messageId (allowed copy present)
      (by simp [Dispatched.actsFor, flooded, quiet]) with ⟨new, marked⟩
    have listed : (messageId, copy.receiver) ∈ ids ×ˢ mesh.members :=
      Finset.mem_product.mpr ⟨held copy (List.mem_of_getElem? present) messageId flooded, member⟩
    apply sum_drop listed (fun flood _ => allowance_step allowed moved flood)
    have spent : mesh.allowance (state.process mesh index again copy (state.outcome now copy))
        (messageId, copy.receiver) = 0 := by
      simp only [Mesh.allowance, MeshState.process, Function.update_self, marked, if_true]
    have full : mesh.allowance state (messageId, copy.receiver) =
        mesh.tableSize copy.receiver := by
      simp only [Mesh.allowance, new, if_false]
    have within := outcome_within_table same copy now
    omega

def Mesh.rank (mesh : Mesh prims) (ids : Finset UInt64) (state : MeshState prims) : Nat :=
  cost state.inFlight + (mesh.retries + 1) * mesh.allowances ids state

theorem cost_transmit (sends : List RouterSend) (retries : Nat) (sender : PeerId)
    (path : List PeerId) :
    cost (sends.map (transmit retries sender path)) = (retries + 1) * sends.length := by
  induction sends with
  | nil => simp [cost]
  | cons send rest ih =>
      simp only [cost, transmit, List.map_cons, weigh_cons, List.length_cons] at ih ⊢
      rw [ih, Nat.mul_succ, Nat.add_comm]

theorem rank_decreases {ids : Finset UInt64} (same : mesh.SameSettings state)
    (held : ∀ copy ∈ state.inFlight, FloodIn ids copy) (allowed : noExpiry state label)
    (moved : MeshMove mesh state label next) : mesh.rank ids next < mesh.rank ids state := by
  cases moved with
  | @delivered index now again copy present member budget =>
      have paid := Nat.mul_le_mul_left (mesh.retries + 1)
        (allowances_step same held allowed present member budget)
      have processed := cost_remaining present budget
      rw [Nat.mul_add] at paid
      unfold Mesh.rank
      simp only [MeshState.process, cost_append, cost_transmit] at paid ⊢
      omega
  | @lost index inside =>
      have erased := cost_eraseIdx (List.getElem?_eq_getElem inside)
      have unchanged : mesh.allowances ids
          { state with inFlight := state.inFlight.eraseIdx index } =
          mesh.allowances ids state := rfl
      unfold Mesh.rank
      rw [unchanged]
      dsimp only
      omega

theorem rank_idle_le (mesh : Mesh prims) (ids : Finset UInt64) (traffic : List Transmission) :
    mesh.rank ids (mesh.idle traffic) ≤
      cost traffic + (mesh.retries + 1) *
        (ids.card * ∑ peer ∈ mesh.members, mesh.tableSize peer) := by
  refine Nat.add_le_add_left (Nat.mul_le_mul_left _ ?_) _
  rw [Mesh.allowances, Finset.sum_product]
  have each : ∀ messageId ∈ ids,
      ∑ peer ∈ mesh.members, mesh.allowance (mesh.idle traffic) (messageId, peer) ≤
        ∑ peer ∈ mesh.members, mesh.tableSize peer := by
    intro messageId _
    apply Finset.sum_le_sum
    intro peer _
    unfold Mesh.allowance
    split_ifs
    · exact Nat.zero_le _
    · exact le_rfl
  exact (Finset.sum_le_sum each).trans_eq (Finset.sum_const_nat fun _ _ => rfl)

/-! ## The whole flood -/

section WholeRun

variable {traffic : List Transmission} {labels : List MeshLabel}

theorem run_relays_well (unrelayed : ∀ copy ∈ traffic, copy.path = [])
    (run : Run (meshStep mesh) anyStep (mesh.idle traffic) labels state) :
    (∀ copy ∈ state.inFlight, WithinRadius copy) ∧ ∀ entry ∈ state.history, RelaysWell entry := by
  have invariant := run_invariant
    (fun state => mesh.SameSettings state ∧ (∀ copy ∈ state.inFlight, WithinRadius copy) ∧
      ∀ entry ∈ state.history, RelaysWell entry)
    (fun before label after held _ taken => ?_) run ?_
  · exact invariant.2
  · have moved := mesh_step_moves taken
    exact ⟨same_settings_step held.1 moved, within_radius_step held.2.1 moved,
      relays_well_step held.1 held.2.1 held.2.2 moved⟩
  · refine ⟨same_settings_idle traffic, fun copy listed => ?_, by simp [Mesh.idle]⟩
    simp [WithinRadius, unrelayed copy listed]

theorem run_acts_once (messageId : UInt64)
    (run : Run (meshStep mesh) noExpiry (mesh.idle traffic) labels state) :
    ActsOnce messageId state :=
  run_invariant (ActsOnce messageId)
    (fun _ _ _ once allowed taken => acts_once_step once allowed (mesh_step_moves taken)) run
    ⟨by simp [Mesh.idle, actors], by simp [Mesh.idle, actors]⟩

theorem run_within_table {guard : MeshState prims → MeshLabel → Prop}
    (run : Run (meshStep mesh) guard (mesh.idle traffic) labels state) :
    ∀ entry ∈ state.history, mesh.WithinTable entry := by
  have invariant := run_invariant
    (fun state => mesh.SameSettings state ∧ ∀ entry ∈ state.history, mesh.WithinTable entry)
    (fun before label after held _ taken => ?_) run ?_
  · exact invariant.2
  · have moved := mesh_step_moves taken
    exact ⟨same_settings_step held.1 moved, within_table_step held.1 held.2 moved⟩
  · exact ⟨same_settings_idle traffic, by simp [Mesh.idle]⟩

theorem run_length_le
    (run : Run (meshStep mesh) noExpiry (mesh.idle traffic) labels state) :
    labels.length ≤ cost traffic + (mesh.retries + 1) *
      ((floodIds traffic).card * ∑ peer ∈ mesh.members, mesh.tableSize peer) := by
  have bound := run_length_le_rank
    (fun state => mesh.SameSettings state ∧
      ∀ copy ∈ state.inFlight, FloodIn (floodIds traffic) copy)
    (mesh.rank (floodIds traffic))
    (fun _ _ _ held _ taken => ⟨same_settings_step held.1 (mesh_step_moves taken),
      flood_in_step held.2 (mesh_step_moves taken)⟩)
    (fun _ _ _ held allowed taken => rank_decreases held.1 held.2 allowed (mesh_step_moves taken))
    run ?_
  · have start := rank_idle_le mesh (floodIds traffic) traffic
    omega
  · refine ⟨same_settings_idle traffic, fun copy listed messageId flooded => ?_⟩
    exact List.mem_toFinset.mpr (List.mem_filterMap.mpr ⟨copy, listed, flooded⟩)

/-- Whatever frames are injected and in whatever order they arrive: every relay
lowers the clamped TTL by one and goes neither back nor to the node itself, so a
chain has at most seven relays; and while nothing expires, a node relays a flood
once, the sends of a flood fit into the peer tables, and the run ends. -/
theorem flood_bounded (mesh : Mesh prims) (traffic : List Transmission)
    (unrelayed : ∀ copy ∈ traffic, copy.path = []) (labels : List MeshLabel)
    (state : MeshState prims)
    (run : Run (meshStep mesh) anyStep (mesh.idle traffic) labels state) :
    (∀ copy ∈ state.inFlight, copy.path.length ≤ 7) ∧
    (∀ entry ∈ state.history, ∀ send ∈ entry.relays,
      RelaysOneHop entry send ∧ entry.copy.path.length < 7 ∧
        send.peerId ≠ entry.copy.sender ∧ send.peerId ≠ entry.node) ∧
    (Run (meshStep mesh) noExpiry (mesh.idle traffic) labels state →
      (∀ messageId, (relayers messageId state.history).Nodup ∧
        sendsFor messageId state.history ≤ ∑ peer ∈ mesh.members, mesh.tableSize peer) ∧
      labels.length ≤ cost traffic + (mesh.retries + 1) *
        ((floodIds traffic).card * ∑ peer ∈ mesh.members, mesh.tableSize peer)) := by
  rcases run_relays_well unrelayed run with ⟨within, well⟩
  refine ⟨fun copy listed => (within copy listed).1, well, fun unexpired => ⟨?_, ?_⟩⟩
  · intro messageId
    have once := run_acts_once messageId unexpired
    exact ⟨relayers_nodup once, sends_le_tables once (run_within_table unexpired)⟩
  · exact run_length_le unexpired

end WholeRun

/-- A hostile frame for an absent destination, with the largest TTL byte. -/
def hostileFrame : Transmission where
  sender := samplePeer 9
  receiver := samplePeer 1
  frame := frameMessage 5 (routedBody (samplePeer 8) 255 [42])
  retries := 0
  path := []

def triangle : Mesh clearPrimitives := sampleMesh [1, 2, 3] [(1, 2), (2, 3), (3, 1)]

def triangleOrder : List MeshLabel :=
  [.deliver 0 0 false, .deliver 0 0 false, .deliver 0 0 false, .deliver 0 0 false,
    .deliver 0 0 false]

theorem sample_at_instant (numbers : List UInt8) (links : List (UInt8 × UInt8))
    (traffic : List Transmission) :
    ((sampleMesh numbers links).idle traffic).AtInstant 0 := by
  intro peer
  refine ⟨by simp only [Mesh.idle, sampleMesh, sampleNode]; decide, ?_⟩
  intro messageId inserted entry
  simp [Mesh.idle, sampleMesh, sampleNode, DeduplicationCache.new,
    DeduplicationCache.withTtl] at entry

theorem flood_bounded_triangle :
    ∃ state, execute (meshStep triangle) (triangle.idle [hostileFrame]) triangleOrder =
        some state ∧
      relayers 5 state.history = [samplePeer 1, samplePeer 2, samplePeer 3] ∧
      sendsFor 5 state.history ≤ ∑ peer ∈ triangle.members, triangle.tableSize peer ∧
      (relayers 5 state.history).Nodup := by
  have relayed : ((execute (meshStep triangle) (triangle.idle [hostileFrame]) triangleOrder).map
      fun state => relayers 5 state.history) =
      some [samplePeer 1, samplePeer 2, samplePeer 3] := by
    decide +kernel
  obtain ⟨state, reached, found⟩ := Option.map_eq_some_iff.mp relayed
  have timed := run_at_instant (sample_at_instant _ _ _) (by decide) reached
  have bounded := (flood_bounded triangle [hostileFrame] (by decide) triangleOrder state
    (run_of_execute reached)).2.2 (run_weaken (fun _ _ allowed => allowed.1) timed)
  exact ⟨state, reached, found, (bounded.1 5).2, (bounded.1 5).1⟩

end Pathweave
