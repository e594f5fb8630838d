import Mathlib.Combinatorics.SimpleGraph.Paths
import Pathweave.MeshDelivery

/-!
# Which destinations a flood reaches

The deduplication table remembers an id but not the TTL of the copy that brought
it. A copy that arrives early over a long detour therefore fixes the TTL of all
later relays of that node. A flood reaches a destination if along one short path
no node is first reached by a copy whose TTL is too small for the rest of the
path; without that condition destinations inside the radius are missed.
-/

namespace Pathweave

open ByteStrings GuardedRuns

set_option autoImplicit false

variable {prims : Primitives}

/-- Honest nodes with handlers whose peer tables are their graph neighbours. -/
structure GraphMesh (mesh : Mesh prims) (graph : SimpleGraph PeerId) : Prop where
  tables : ∀ peer ∈ mesh.members, ∀ other,
    other ∈ (mesh.nodes peer).peers ↔ graph.Adj peer other
  closed : ∀ peer other, graph.Adj peer other → peer ∈ mesh.members
  handlers : ∀ peer ∈ mesh.members, (mesh.nodes peer).handlerRegistered = true

def reliable (state : MeshState prims) (label : MeshLabel) : Prop :=
  noExpiry state label ∧ noLoss state label

def DeliveredAt (dest : PeerId) (payload : Bytes) (state : MeshState prims) : Prop :=
  ∃ entry ∈ state.history, entry.node = dest ∧ ∃ peer, entry.delivered = some (peer, payload)

/-- Every destination within seven hops is reached, in every arrival order. -/
def FloodCoverage : Prop :=
  ∀ (prims : Primitives) (mesh : Mesh prims) (graph : SimpleGraph PeerId)
    (originator dest : PeerId) (accepted : RouterSend → Bool) (entropy : Octets 8)
    (payload : Bytes) (labels : List MeshLabel) (state : MeshState prims),
    GraphMesh mesh graph → originator ∈ mesh.members →
    (∀ peer, ¬ (mesh.nodes peer).hasSeen (newMessageId entropy)) →
    (∃ walk : graph.Walk originator dest, walk.length ≤ 7) →
    Run (meshStep mesh) reliable
      (mesh.afterCall originator .plain accepted entropy dest payload []) labels state →
    state.inFlight = [] → DeliveredAt dest payload state

/-! ## The condition under which the flood arrives -/

section OnTime

variable {graph : SimpleGraph PeerId} {originator dest : PeerId}

/-- A node inside the path that is about to relay its first copy still has the
TTL for the rest of the path. -/
def onTime (messageId : UInt64) (path : graph.Walk originator dest) (state : MeshState prims) :
    MeshLabel → Prop
  | .deliver index _ _ =>
      ∀ copy content ttl place, state.inFlight[index]? = some copy →
        parseFrame copy.frame = .routed messageId content ttl →
        0 < place → place < path.length → copy.receiver = path.getVert place →
        ¬ (state.nodes copy.receiver).hasSeen messageId → clampTtl ttl ≠ 0 →
        path.length - place ≤ min ttl.toNat 7
  | .lose _ => True

def Underway (messageId : UInt64) (path : graph.Walk originator dest) (payload : Bytes)
    (place : Nat) (copy : Transmission) : Prop :=
  copy.receiver = path.getVert place ∧
    ∃ ttl, parseFrame copy.frame = .routed messageId (.message dest payload) ttl ∧
      path.length - place ≤ min ttl.toNat 7

/-- The wave along the path: behind every node that has relayed, the next one has
seen the message or a copy is underway to it. -/
structure Covering (mesh : Mesh prims) (messageId : UInt64) (path : graph.Walk originator dest)
    (payload : Bytes) (state : MeshState prims) : Prop where
  settings : mesh.SameSettings state
  content : ∀ copy ∈ state.inFlight,
    Faithful (mesh.nodes originator) dest payload .plain messageId copy
  senders : ∀ copy ∈ state.inFlight, (parseFrame copy.frame).floodId = some messageId →
    copy.sender = originator ∨ (state.nodes copy.sender).hasSeen messageId
  progress : ∀ place < path.length,
    place = 0 ∨ (state.nodes (path.getVert place)).hasSeen messageId →
      (state.nodes (path.getVert (place + 1))).hasSeen messageId ∨
        ∃ copy ∈ state.inFlight, Underway messageId path payload (place + 1) copy
  arrived : (state.nodes dest).hasSeen messageId → DeliveredAt dest payload state

variable {mesh : Mesh prims} {messageId : UInt64} {path : graph.Walk originator dest}
  {payload : Bytes} {state : MeshState prims}

theorem covering_quiescent (distinct : dest ≠ originator)
    (covering : Covering mesh messageId path payload state) (quiet : state.inFlight = []) :
    DeliveredAt dest payload state := by
  have wave : ∀ place, place ≤ path.length →
      place = 0 ∨ (state.nodes (path.getVert place)).hasSeen messageId := by
    intro place
    induction place with
    | zero => exact fun _ => .inl rfl
    | succ place ih =>
        intro inside
        rcases covering.progress place (by omega) (ih (by omega)) with seen | ⟨copy, listed, -⟩
        · exact .inr seen
        · simp [quiet] at listed
  rcases wave path.length le_rfl with empty | seen
  · exact absurd (path.eq_of_length_eq_zero empty).symm distinct
  · rw [path.getVert_length] at seen
    exact covering.arrived seen

theorem vertices_distinct (simple : path.IsPath) {left right : Nat}
    (leftInside : left ≤ path.length) (rightInside : right ≤ path.length)
    (same : path.getVert left = path.getVert right) : left = right :=
  simple.getVert_injOn (Set.mem_ofPred.mpr leftInside) (Set.mem_ofPred.mpr rightInside) same

section Step

variable {index now : Nat} {again : Bool} {copy : Transmission}

theorem underway_lands {place : Nat} (inside : place ≤ path.length)
    (same : mesh.SameSettings state) (member : copy.receiver ∈ mesh.members)
    (unexpired : (state.nodes copy.receiver).Unexpired now)
    (underway : Underway messageId path payload place copy) :
    (state.outcome now copy).node.hasSeen messageId := by
  rcases underway with ⟨receiver, ttl, parsed, enough⟩
  rw [MeshState.outcome, parsed]
  apply routed_outcome_marks unexpired rfl
  rw [same.local_peer member]
  by_cases spent : clampTtl ttl = 0
  · have zero := (clamp_ttl_zero_iff ttl).mp spent
    have last : place = path.length := by omega
    rw [receiver, last, path.getVert_length]
    exact .inl rfl
  · exact .inr (by simp [Routed.dropped, spent])

/-- The first copy at an inner node of the path goes on to the next one, unless
that is where it came from. -/
theorem first_copy_relayed (graphMesh : GraphMesh mesh graph) (simple : path.IsPath)
    {place : Nat} (same : mesh.SameSettings state) (positive : 0 < place)
    (inside : place < path.length) (receiver : copy.receiver = path.getVert place)
    (allowed : reliable state (.deliver index now again) ∧
      onTime messageId path state (.deliver index now again))
    (present : state.inFlight[index]? = some copy)
    (faithful : Faithful (mesh.nodes originator) dest payload .plain messageId copy)
    (flooded : (parseFrame copy.frame).floodId = some messageId)
    (new : ¬ (state.nodes copy.receiver).hasSeen messageId)
    (marked : (state.outcome now copy).node.hasSeen messageId) :
    path.getVert (place + 1) = copy.sender ∨
      ∃ send ∈ (state.outcome now copy).relays,
        Underway messageId path payload (place + 1)
          (transmit mesh.retries copy.receiver (copy.path ++ [copy.receiver]) send) := by
  have adjacent := path.adj_getVert_succ inside
  have member : copy.receiver ∈ mesh.members := receiver ▸ graphMesh.closed _ _ adjacent
  rcases faithful (message_id_of_flood_id flooded) with ⟨content, ttl, carries, built⟩
  cases carries
  have parsed : parseFrame copy.frame = .routed messageId (.message dest payload) ttl := by
    rw [built, parse_routed]
  simp only [MeshState.outcome, parsed, frameOutcome] at marked ⊢
  rcases routed_outcome_first (allowed.1.1 copy present) new marked with
    ⟨here, -⟩ | ⟨elsewhere, alive, relays⟩
  · -- The destination is the last vertex of the path and not an inner one.
    rw [same.local_peer member, receiver] at here
    have endpoint : path.getVert path.length = path.getVert place :=
      path.getVert_length.trans (Option.some.inj here)
    have clash := vertices_distinct simple le_rfl inside.le endpoint
    omega
  · by_cases back : path.getVert (place + 1) = copy.sender
    · exact .inl back
    have unspent : clampTtl ttl ≠ 0 := by simpa [Routed.dropped, Routed.destination] using alive
    have enough := allowed.2 copy _ ttl place present parsed positive inside receiver new unspent
    have lower := forwarded_ttl ttl unspent
    have known : path.getVert (place + 1) ∈ (state.nodes copy.receiver).peers := by
      rw [same.peers_eq, graphMesh.tables _ member, receiver]
      exact adjacent
    have notLocal : path.getVert (place + 1) ≠ (state.nodes copy.receiver).localPeerId := by
      rw [same.local_peer member, receiver]
      exact adjacent.ne.symm
    rcases relay_exists messageId (.message dest payload) unspent known
      back notLocal with ⟨send, sent, target⟩
    rcases mem_relays sent with ⟨-, body, sendId, -⟩
    refine .inr ⟨send, relays ▸ sent, target, clampTtl ttl - 1, ?_, by omega⟩
    rw [transmit, body, sendId, parse_routed]

theorem first_copy_delivered (graphMesh : GraphMesh mesh graph) (same : mesh.SameSettings state)
    (member : copy.receiver ∈ mesh.members) (here : copy.receiver = dest)
    (unexpired : (state.nodes copy.receiver).Unexpired now)
    (faithful : Faithful (mesh.nodes originator) dest payload .plain messageId copy)
    (flooded : (parseFrame copy.frame).floodId = some messageId)
    (new : ¬ (state.nodes copy.receiver).hasSeen messageId)
    (marked : (state.outcome now copy).node.hasSeen messageId) :
    (state.outcome now copy).delivered = some (copy.sender, payload) := by
  rcases faithful (message_id_of_flood_id flooded) with ⟨content, ttl, carries, built⟩
  cases carries
  have handler : (state.nodes copy.receiver).handlerRegistered = true :=
    (same copy.receiver).handler.trans (graphMesh.handlers _ member)
  simp only [MeshState.outcome, built, parse_routed, frameOutcome] at marked ⊢
  rcases routed_outcome_first unexpired new marked with ⟨-, delivered⟩ | ⟨elsewhere, -⟩
  · rw [delivered, deliverContent, NodeState.onMessage, if_pos handler]
  · rw [same.local_peer member, here] at elsewhere
    exact absurd rfl elsewhere

theorem senders_step (covering : Covering mesh messageId path payload state)
    (allowed : noExpiry state (.deliver index now again))
    (present : state.inFlight[index]? = some copy) (member : copy.receiver ∈ mesh.members)
    (budget : again → 0 < copy.retries) :
    ∀ other ∈ (state.process mesh index again copy (state.outcome now copy)).inFlight,
      (parseFrame other.frame).floodId = some messageId →
        other.sender = originator ∨
          ((state.process mesh index again copy (state.outcome now copy)).nodes
            other.sender).hasSeen messageId := by
  have moved : MeshMove mesh state (.deliver index now again) _ :=
    .delivered present member budget
  have known : ∀ other ∈ state.inFlight, (parseFrame other.frame).floodId = some messageId →
      other.sender = originator ∨ _ := fun other listed flooded =>
    (covering.senders other listed flooded).imp_right (has_seen_step allowed moved)
  intro other listed flooded
  simp only [MeshState.process, List.mem_append, List.mem_map] at listed
  rcases listed with kept | ⟨send, sent, rfl⟩
  · rcases mem_remaining kept with old | rfl
    · exact known other old flooded
    · exact known copy (List.mem_of_getElem? present) flooded
  · rcases relays_one_hop sent with ⟨ownId, content, ttl, parsed, forwarded, -⟩
    simp only [transmit, forwarded, Frame.floodId, Option.some.injEq] at flooded
    subst flooded
    refine .inr ?_
    rw [transmit, process_nodes_self]
    refine (acts_first _ (allowed copy present) ?_).2
    simp [Dispatched.actsFor, parsed, Frame.floodId, List.ne_nil_of_mem sent]

theorem progress_step (graphMesh : GraphMesh mesh graph) (simple : path.IsPath)
    (covering : Covering mesh messageId path payload state)
    (allowed : reliable state (.deliver index now again) ∧
      onTime messageId path state (.deliver index now again))
    (present : state.inFlight[index]? = some copy) (member : copy.receiver ∈ mesh.members)
    (budget : again → 0 < copy.retries) {place : Nat} (inside : place < path.length)
    (reached : place = 0 ∨ ((state.process mesh index again copy (state.outcome now copy)).nodes
      (path.getVert place)).hasSeen messageId) :
    ((state.process mesh index again copy (state.outcome now copy)).nodes
        (path.getVert (place + 1))).hasSeen messageId ∨
      ∃ other ∈ (state.process mesh index again copy (state.outcome now copy)).inFlight,
        Underway messageId path payload (place + 1) other := by
  have unexpired := allowed.1.1 copy present
  have listed := List.mem_of_getElem? present
  have moved : MeshMove mesh state (.deliver index now again) _ :=
    .delivered present member budget
  have seen_after : ∀ peer, (state.nodes peer).hasSeen messageId → _ := fun peer =>
    has_seen_step allowed.1.1 moved
  have carried : place = 0 ∨ (state.nodes (path.getVert place)).hasSeen messageId → _ :=
    covering.progress place inside
  by_cases before : place = 0 ∨ (state.nodes (path.getVert place)).hasSeen messageId
  · rcases carried before with seen | ⟨other, inFlight, underway⟩
    · exact .inl (seen_after _ seen)
    · by_cases processed : other = copy
      · subst processed
        have landed := underway_lands (by omega) covering.settings member unexpired underway
        rw [← underway.1, process_nodes_self]
        exact .inl landed
      · exact .inr ⟨other, List.mem_append_left _ (kept_of_ne present inFlight processed), underway⟩
  · rcases not_or.mp before with ⟨notFirst, new⟩
    have seenNow := reached.resolve_left notFirst
    rcases newly_seen unexpired seenNow with old | ⟨receiver, flooded, marked⟩
    · exact absurd old new
    · rcases first_copy_relayed graphMesh simple covering.settings (Nat.pos_of_ne_zero notFirst)
        inside receiver.symm allowed present (covering.content copy listed) flooded
        (receiver ▸ new) marked with back | ⟨send, sent, underway⟩
      · refine .inl (seen_after _ ?_)
        rcases covering.senders copy listed flooded with fromOriginator | seen
        · -- The next vertex of a simple path is not its first one.
          have clash : place + 1 = 0 := vertices_distinct simple inside (Nat.zero_le _)
            (by rw [back, fromOriginator, path.getVert_zero])
          omega
        · rwa [back]
      · exact .inr ⟨_, List.mem_append_right _ (List.mem_map_of_mem sent), underway⟩

end Step

theorem covering_step (graphMesh : GraphMesh mesh graph) (simple : path.IsPath)
    {next : MeshState prims} {label : MeshLabel}
    (covering : Covering mesh messageId path payload state)
    (allowed : reliable state label ∧ onTime messageId path state label)
    (moved : MeshMove mesh state label next) : Covering mesh messageId path payload next := by
  have settings := same_settings_step covering.settings moved
  have content := faithful_step covering.content moved
  cases moved with
  | @delivered index now again copy present member budget =>
      refine ⟨settings, content, senders_step covering allowed.1.1 present member budget,
        fun place inside reached =>
          progress_step graphMesh simple covering allowed present member budget inside reached, ?_⟩
      intro seen
      by_cases before : (state.nodes dest).hasSeen messageId
      · rcases covering.arrived before with ⟨entry, listed, delivered⟩
        exact ⟨entry, List.mem_append_left _ listed, delivered⟩
      · rcases newly_seen (allowed.1.1 copy present) seen with old | ⟨here, flooded, marked⟩
        · exact absurd old before
        · have delivered := first_copy_delivered graphMesh covering.settings member here.symm
            (allowed.1.1 copy present) (covering.content copy (List.mem_of_getElem? present))
            flooded (here ▸ before) marked
          exact ⟨_, List.mem_append_right _ (List.mem_singleton.mpr rfl), here.symm, copy.sender,
            delivered⟩
  | lost inside => exact allowed.1.2.elim

theorem covering_after_call (graphMesh : GraphMesh mesh graph)
    (member : originator ∈ mesh.members) (short : path.length ≤ 7)
    {accepted : RouterSend → Bool} {entropy : Octets 8} {traffic : List Transmission}
    (fresh : ∀ copy ∈ traffic, (parseFrame copy.frame).messageId ≠ some (newMessageId entropy))
    (unseen : ∀ peer, ¬ (mesh.nodes peer).hasSeen (newMessageId entropy)) :
    Covering mesh (newMessageId entropy) path payload
      (mesh.afterCall originator .plain accepted entropy dest payload traffic) := by
  refine ⟨same_settings_idle _, faithful_after_call fresh, ?_, ?_, ?_⟩
  · intro copy listed flooded
    rcases List.mem_append.mp listed with other | own
    · exact absurd (message_id_of_flood_id flooded) (fresh copy other)
    · obtain ⟨send, -, rfl⟩ := List.mem_map.mp own
      exact .inl rfl
  · intro place inside reached
    rcases reached.resolve_right (unseen _) with rfl
    have adjacent := path.adj_getVert_succ inside
    rw [path.getVert_zero] at adjacent
    have notSelf : path.getVert (0 + 1) ≠ (mesh.nodes originator).localPeerId := by
      rw [mesh.placed originator member]
      exact adjacent.ne.symm
    rcases originated_exists accepted (newMessageId entropy) (routedBody dest maxTtl payload)
      ((graphMesh.tables originator member _).mpr adjacent) notSelf with ⟨send, sent, target⟩
    rcases mem_originated sent with ⟨body, sendId, -⟩
    refine .inr ⟨_, List.mem_append_right _ (List.mem_map_of_mem sent), target, maxTtl, ?_, ?_⟩
    · rw [transmit, body, sendId]
      exact parse_message _ _ _ _
    · have seven : maxTtl.toNat = 7 := rfl
      omega
  · exact fun seen => absurd seen (unseen dest)

/-- In every arrival order in which the nodes along one path of at most seven
hops are on time, the destination has been handed the payload once the mesh is
at rest. Other traffic may be underway. -/
theorem flood_covers_on_time (mesh : Mesh prims) (graph : SimpleGraph PeerId)
    (graphMesh : GraphMesh mesh graph) (originator dest : PeerId)
    (member : originator ∈ mesh.members) (distinct : dest ≠ originator)
    (path : graph.Walk originator dest) (simple : path.IsPath) (short : path.length ≤ 7)
    (accepted : RouterSend → Bool) (entropy : Octets 8) (payload : Bytes)
    (traffic : List Transmission)
    (fresh : ∀ copy ∈ traffic, (parseFrame copy.frame).messageId ≠ some (newMessageId entropy))
    (unseen : ∀ peer, ¬ (mesh.nodes peer).hasSeen (newMessageId entropy))
    (labels : List MeshLabel) (state : MeshState prims)
    (run : Run (meshStep mesh)
      (fun before label => reliable before label ∧ onTime (newMessageId entropy) path before label)
      (mesh.afterCall originator .plain accepted entropy dest payload traffic) labels state)
    (quiet : state.inFlight = []) : DeliveredAt dest payload state := by
  have covering := run_invariant (Covering mesh (newMessageId entropy) path payload)
    (fun _ _ _ held allowed taken =>
      covering_step graphMesh simple held allowed (mesh_step_moves taken)) run
    (covering_after_call graphMesh member short fresh unseen)
  exact covering_quiescent distinct covering quiet

theorem on_time_of_two_hops (messageId : UInt64) (path : graph.Walk originator dest)
    (short : path.length ≤ 2) (state : MeshState prims) (label : MeshLabel) :
    onTime messageId path state label := by
  cases label with
  | deliver index now again =>
      intro copy content ttl place _ _ positive inside _ _ unspent
      have alive := mt (clamp_ttl_zero_iff ttl).mpr unspent
      omega
  | lose index => trivial

end OnTime

/-! ## Sample graphs -/

section Sample

variable (numbers : List UInt8) (links : List (UInt8 × UInt8))

def sampleGraph : SimpleGraph PeerId where
  Adj peer other :=
    (peer ∈ numbers.map samplePeer ∧ other ∈ numbers.map samplePeer) ∧
      linked links (sampleNumber peer) (sampleNumber other) = true ∧ peer ≠ other
  symm.symm := by
    intro peer other given
    rcases given with ⟨⟨listed, otherListed⟩, connected, distinct⟩
    refine ⟨⟨otherListed, listed⟩, ?_, distinct.symm⟩
    rw [linked, Bool.or_comm]
    exact connected
  loopless.irrefl := fun _ adjacent => adjacent.2.2 rfl

instance : DecidableRel (sampleGraph numbers links).Adj := fun peer other =>
  inferInstanceAs (Decidable ((peer ∈ numbers.map samplePeer ∧ other ∈ numbers.map samplePeer) ∧
    linked links (sampleNumber peer) (sampleNumber other) = true ∧ peer ≠ other))

theorem sample_graph_mesh (irreflexive : ∀ number ∈ numbers, linked links number number = false) :
    GraphMesh (sampleMesh numbers links) (sampleGraph numbers links) where
  tables := by
    intro peer member other
    have listed : peer ∈ numbers.map samplePeer := List.mem_toFinset.mp member
    change other ∈ tableOf _ ↔ _
    rw [mem_tableOf]
    constructor
    · intro found
      obtain ⟨number, kept, rfl⟩ := List.mem_map.mp found
      obtain ⟨inside, connected⟩ := List.mem_filter.mp kept
      refine ⟨⟨listed, List.mem_map_of_mem inside⟩, connected, ?_⟩
      intro same
      subst same
      have loop := irreflexive number inside
      rw [show sampleNumber (samplePeer number) = number from rfl, loop] at connected
      exact absurd connected (by decide)
    · intro given
      rcases given with ⟨⟨-, otherListed⟩, connected, -⟩
      obtain ⟨number, inside, rfl⟩ := List.mem_map.mp otherListed
      exact List.mem_map_of_mem (List.mem_filter.mpr ⟨inside, connected⟩)
  closed := fun _ _ adjacent => List.mem_toFinset.mpr adjacent.1.1
  handlers := fun _ _ => rfl

theorem sample_unseen (messageId : UInt64) (peer : PeerId) :
    ¬ ((sampleMesh numbers links).nodes peer).hasSeen messageId := by
  simp [sampleMesh, sampleNode, NodeState.hasSeen, DeduplicationCache.new,
    DeduplicationCache.withTtl]

end Sample

theorem flood_covers_on_time_line :
    ∃ state, execute (meshStep line)
        (line.afterCall (samplePeer 1) .plain (fun _ => true) sampleEntropy (samplePeer 3) [42] [])
        [.deliver 0 0 false, .deliver 0 0 false] = some state ∧
      state.inFlight = [] ∧ DeliveredAt (samplePeer 3) [42] state := by
  have rested : ((execute (meshStep line)
      (line.afterCall (samplePeer 1) .plain (fun _ => true) sampleEntropy (samplePeer 3) [42] [])
      [.deliver 0 0 false, .deliver 0 0 false]).map fun state => state.inFlight) = some [] := by
    decide +kernel
  obtain ⟨state, reached, quiet⟩ := Option.map_eq_some_iff.mp rested
  have hop : (sampleGraph [1, 2, 3] [(1, 2), (2, 3)]).Adj (samplePeer 1) (samplePeer 2) := by
    decide
  have lastHop : (sampleGraph [1, 2, 3] [(1, 2), (2, 3)]).Adj (samplePeer 2) (samplePeer 3) := by
    decide
  refine ⟨state, reached, quiet, flood_covers_on_time line _
    (sample_graph_mesh _ _ (by decide +kernel)) (samplePeer 1) (samplePeer 3) (by decide) (by decide)
    (.cons hop (.cons lastHop .nil)) ?_ (by simp) (fun _ => true) sampleEntropy [42] []
    (by simp) (sample_unseen _ _ _) [.deliver 0 0 false, .deliver 0 0 false] state ?_ quiet⟩
  · rw [SimpleGraph.Walk.isPath_def]
    change [samplePeer 1, samplePeer 2, samplePeer 3].Nodup
    decide
  · exact run_weaken (fun before label allowed => ⟨allowed, on_time_of_two_hops _ _ (by simp) _ _⟩)
      (run_at_instant (sample_at_instant _ _ _) (by decide) reached)

/-! ## A destination inside the radius that is missed -/

/-- Node 4 is one hop from node 1, and three hops over the detour 2, 3. Behind it
six more hops lead to node 10. -/
def detourNumbers : List UInt8 := [1, 2, 3, 4, 5, 6, 7, 8, 9, 10]

def detourLinks : List (UInt8 × UInt8) :=
  [(1, 4), (1, 2), (2, 3), (3, 4), (4, 5), (5, 6), (6, 7), (7, 8), (8, 9), (9, 10)]

def detour : Mesh clearPrimitives := sampleMesh detourNumbers detourLinks

/-- The copy over the detour reaches node 4 before the direct one. -/
def detourOrder : List MeshLabel :=
  [.deliver 0 0 false, .deliver 1 0 false, .deliver 1 0 false, .deliver 0 0 false,
    .deliver 0 0 false, .deliver 0 0 false, .deliver 0 0 false, .deliver 0 0 false,
    .deliver 0 0 false, .deliver 0 0 false, .deliver 0 0 false]

def detourStart : MeshState clearPrimitives :=
  detour.afterCall (samplePeer 1) .plain (fun _ => true) sampleEntropy (samplePeer 10) [42] []

abbrev detourGraph : SimpleGraph PeerId := sampleGraph detourNumbers detourLinks

theorem detour_within_radius :
    ∃ walk : detourGraph.Walk (samplePeer 1) (samplePeer 10), walk.length ≤ 7 := by
  have first : detourGraph.Adj (samplePeer 1) (samplePeer 4) := by decide
  have second : detourGraph.Adj (samplePeer 4) (samplePeer 5) := by decide
  have third : detourGraph.Adj (samplePeer 5) (samplePeer 6) := by decide
  have fourth : detourGraph.Adj (samplePeer 6) (samplePeer 7) := by decide
  have fifth : detourGraph.Adj (samplePeer 7) (samplePeer 8) := by decide
  have sixth : detourGraph.Adj (samplePeer 8) (samplePeer 9) := by decide
  have seventh : detourGraph.Adj (samplePeer 9) (samplePeer 10) := by decide
  exact ⟨.cons first (.cons second (.cons third (.cons fourth (.cons fifth (.cons sixth
    (.cons seventh .nil)))))), by simp⟩

theorem flood_misses_destination : ¬ FloodCoverage := by
  intro coverage
  have rested : ((execute (meshStep detour) detourStart detourOrder).map fun state =>
      (state.inFlight, state.history.filter fun entry => entry.node = samplePeer 10)) =
      some ([], []) := by
    decide +kernel
  obtain ⟨state, reached, found⟩ := Option.map_eq_some_iff.mp rested
  obtain ⟨quiet, never⟩ := Prod.mk.inj found
  rcases coverage clearPrimitives detour _ (samplePeer 1)
    (samplePeer 10) (fun _ => true) sampleEntropy [42] detourOrder state
    (sample_graph_mesh _ _ (by decide +kernel)) (by decide) (sample_unseen _ _ _) detour_within_radius
    (run_at_instant (sample_at_instant _ _ _) (by decide) reached) quiet
    with ⟨entry, listed, here, -⟩
  have arrived : entry ∈ state.history.filter fun entry => entry.node = samplePeer 10 :=
    List.mem_filter.mpr ⟨listed, by simpa using here⟩
  rw [never] at arrived
  cases arrived

end Pathweave
