import Pathweave.MeshCoverage

/-!
# The wave of a flood along a path

All three flooded frames travel alike: a node relays the first copy it records and
drops the others. Along a path whose inner nodes pass the content on, and are reached
in time, the flood moves like a wave: behind every node that has seen it, the next one
has seen it too or a copy is on its way there. The content may be a message, a sealed
message or an announcement, and the wave may start in any state of the mesh.
-/

namespace Pathweave

open ByteStrings GuardedRuns

set_option autoImplicit false

variable {prims : Primitives}

def CarriesOnly (messageId : UInt64) (content : Routed) (copy : Transmission) : Prop :=
  (parseFrame copy.frame).floodId = some messageId →
    ∃ ttl, parseFrame copy.frame = .routed messageId content ttl

structure Unused (messageId : UInt64) (state : MeshState prims) : Prop where
  fresh : ∀ copy ∈ state.inFlight, (parseFrame copy.frame).floodId ≠ some messageId
  unseen : ∀ peer, ¬ (state.nodes peer).hasSeen messageId

/-- Nodes do not make up ids: what they relay keeps the id it came with. -/
theorem unused_step {mesh : Mesh prims} {messageId : UInt64} {state next : MeshState prims}
    {label : MeshLabel} (unused : Unused messageId state) (allowed : noExpiry state label)
    (moved : MeshMove mesh state label next) : Unused messageId next where
  fresh := by
    refine in_flight_invariant (fun copy => (parseFrame copy.frame).floodId ≠ some messageId)
      (fun _ fresh => fresh) ?_ unused.fresh moved
    intro copy now member fresh send sent flooded
    rcases relays_one_hop sent with ⟨ownId, content, ttl, parsed, forwarded, -⟩
    rw [transmit, forwarded] at flooded
    exact fresh (by rw [parsed]; exact flooded)
  unseen := by
    intro peer seen
    cases moved with
    | @delivered index now again copy present member budget =>
        rcases newly_seen (allowed copy present) seen with old | ⟨-, flooded, -⟩
        · exact unused.unseen peer old
        · exact unused.fresh copy (List.mem_of_getElem? present) flooded
    | lost inside => exact unused.unseen peer seen

section Path

variable {graph : SimpleGraph PeerId} {originator last : PeerId}

/-- The inner nodes of the path pass the content on, the last one keeps it. -/
structure PassesAlong (prims : Primitives) (content : Routed)
    (path : graph.Walk originator last) : Prop where
  genuine : content.genuine prims = true
  inner : ∀ place, 0 < place → place < path.length →
    content.destination ≠ some (path.getVert place)
  kept : content.destination = none ∨ content.destination = some last

/-- The first copy that a node inside the path records still has the TTL for the rest
of the path. An announcement is recorded even with an exhausted TTL. -/
def inTime (messageId : UInt64) (path : graph.Walk originator last) (state : MeshState prims) :
    MeshLabel → Prop
  | .deliver index now _ =>
      ∀ copy content ttl place, state.inFlight[index]? = some copy →
        parseFrame copy.frame = .routed messageId content ttl →
        0 < place → place < path.length → copy.receiver = path.getVert place →
        ¬ (state.nodes copy.receiver).hasSeen messageId →
        (state.outcome now copy).node.hasSeen messageId →
        path.length - place ≤ min ttl.toNat 7
  | .lose _ => True

def ampleTtl (hops : Nat) (state : MeshState prims) : MeshLabel → Bool
  | .deliver index _ _ =>
      match state.inFlight[index]? with
      | none => true
      | some copy =>
          match parseFrame copy.frame with
          | .routed _ _ ttl => decide (hops ≤ min ttl.toNat 7 + 1)
          | _ => true
  | .lose _ => true

theorem in_time_of_ample {messageId : UInt64} {path : graph.Walk originator last}
    {state : MeshState prims} {label : MeshLabel}
    (ample : ampleTtl path.length state label = true) : inTime messageId path state label := by
  cases label with
  | deliver index now again =>
      intro copy content ttl place present parsed positive inside _ _ _
      simp only [ampleTtl, present, parsed, decide_eq_true_eq] at ample
      omega
  | lose index => trivial

theorem in_time_of_one_hop {messageId : UInt64} {path : graph.Walk originator last}
    (short : path.length ≤ 1) (state : MeshState prims) (label : MeshLabel) :
    inTime messageId path state label := by
  cases label with
  | deliver index now again =>
      intro copy content ttl place _ _ positive inside
      omega
  | lose index => trivial

def Approaching (messageId : UInt64) (content : Routed) (path : graph.Walk originator last)
    (place : Nat) (copy : Transmission) : Prop :=
  copy.receiver = path.getVert place ∧
    ∃ ttl, parseFrame copy.frame = .routed messageId content ttl ∧
      path.length - place ≤ min ttl.toNat 7

structure FloodWave (mesh : Mesh prims) (messageId : UInt64) (content : Routed)
    (path : graph.Walk originator last) (state : MeshState prims) : Prop where
  settings : mesh.SameSettings state
  copies : ∀ copy ∈ state.inFlight, CarriesOnly messageId content copy
  senders : ∀ copy ∈ state.inFlight, (parseFrame copy.frame).floodId = some messageId →
    copy.sender = originator ∨ (state.nodes copy.sender).hasSeen messageId
  progress : ∀ place < path.length,
    place = 0 ∨ (state.nodes (path.getVert place)).hasSeen messageId →
      (state.nodes (path.getVert (place + 1))).hasSeen messageId ∨
        ∃ copy ∈ state.inFlight, Approaching messageId content path (place + 1) copy

variable {mesh : Mesh prims} {messageId : UInt64} {content : Routed}
  {path : graph.Walk originator last} {state next : MeshState prims}

theorem addressed_passes (simple : path.IsPath) (genuine : content.genuine prims = true)
    (addressed : content.destination = some last) : PassesAlong prims content path where
  genuine := genuine
  inner := by
    intro place positive inside here
    rw [addressed, Option.some.injEq] at here
    have clash := vertices_distinct simple le_rfl inside.le (path.getVert_length.trans here)
    omega
  kept := .inr addressed

theorem wave_at_end (distinct : last ≠ originator)
    (wave : FloodWave mesh messageId content path state)
    (gone : ∀ copy ∈ state.inFlight, (parseFrame copy.frame).floodId ≠ some messageId) :
    (state.nodes last).hasSeen messageId := by
  have reached : ∀ place, place ≤ path.length →
      place = 0 ∨ (state.nodes (path.getVert place)).hasSeen messageId := by
    intro place
    induction place with
    | zero => exact fun _ => .inl rfl
    | succ place ih =>
        intro inside
        rcases wave.progress place (by omega) (ih (by omega)) with
          seen | ⟨copy, listed, -, ttl, parsed, -⟩
        · exact .inr seen
        · exact absurd (by rw [parsed]; rfl) (gone copy listed)
  rcases reached path.length le_rfl with empty | seen
  · exact absurd (path.eq_of_length_eq_zero empty).symm distinct
  · rwa [path.getVert_length] at seen

theorem carries_only_step {label : MeshLabel}
    (held : ∀ copy ∈ state.inFlight, CarriesOnly messageId content copy)
    (moved : MeshMove mesh state label next) :
    ∀ copy ∈ next.inFlight, CarriesOnly messageId content copy := by
  refine in_flight_invariant (CarriesOnly messageId content) (fun _ known => known) ?_ held moved
  intro copy now member known send sent flooded
  rcases relays_one_hop sent with ⟨ownId, original, ttl, parsed, forwarded, -⟩
  rw [transmit, forwarded] at flooded ⊢
  cases flooded
  obtain ⟨sentTtl, same⟩ := known (by rw [parsed]; rfl)
  rw [parsed] at same
  cases same
  exact ⟨_, rfl⟩

section Step

variable {index now : Nat} {again : Bool} {copy : Transmission}

theorem approaching_lands (passes : PassesAlong prims content path) {place : Nat}
    (inside : place ≤ path.length) (same : mesh.SameSettings state)
    (member : copy.receiver ∈ mesh.members)
    (unexpired : (state.nodes copy.receiver).Unexpired now)
    (approaching : Approaching messageId content path place copy) :
    (state.outcome now copy).node.hasSeen messageId := by
  rcases approaching with ⟨receiver, ttl, parsed, enough⟩
  rw [MeshState.outcome, parsed]
  apply routed_outcome_marks unexpired passes.genuine
  rw [same.local_peer member]
  rcases passes.kept with nobody | addressed
  · exact .inr (by simp [Routed.dropped, nobody])
  by_cases spent : clampTtl ttl = 0
  · have zero := (clamp_ttl_zero_iff ttl).mp spent
    have final : place = path.length := by omega
    rw [receiver, final, path.getVert_length]
    exact .inl addressed
  · exact .inr (by simp [Routed.dropped, spent])

/-- The first copy that an inner node of the path records goes on to the next one,
unless that is where it came from. -/
theorem first_copy_passes (graphMesh : GraphMesh mesh graph)
    (passes : PassesAlong prims content path) {place : Nat} (same : mesh.SameSettings state)
    (positive : 0 < place) (inside : place < path.length)
    (receiver : copy.receiver = path.getVert place)
    (allowed : reliable state (.deliver index now again) ∧
      inTime messageId path state (.deliver index now again))
    (present : state.inFlight[index]? = some copy)
    (carries : CarriesOnly messageId content copy)
    (flooded : (parseFrame copy.frame).floodId = some messageId)
    (new : ¬ (state.nodes copy.receiver).hasSeen messageId)
    (marked : (state.outcome now copy).node.hasSeen messageId) :
    path.getVert (place + 1) = copy.sender ∨
      ∃ send ∈ (state.outcome now copy).relays,
        Approaching messageId content path (place + 1)
          (transmit mesh.retries copy.receiver (copy.path ++ [copy.receiver]) send) := by
  have adjacent := path.adj_getVert_succ inside
  have member : copy.receiver ∈ mesh.members := receiver ▸ graphMesh.closed _ _ adjacent
  obtain ⟨ttl, parsed⟩ := carries flooded
  have enough := allowed.2 copy content ttl place present parsed positive inside receiver new marked
  simp only [MeshState.outcome, parsed, frameOutcome] at marked ⊢
  rcases routed_outcome_first (allowed.1.1 copy present) new marked with
    ⟨here, -⟩ | ⟨elsewhere, alive, relays⟩
  · rw [same.local_peer member, receiver] at here
    exact absurd here (passes.inner place positive inside)
  · by_cases back : path.getVert (place + 1) = copy.sender
    · exact .inl back
    have unspent : clampTtl ttl ≠ 0 := by
      intro spent
      have zero := (clamp_ttl_zero_iff ttl).mp spent
      omega
    have lower := forwarded_ttl ttl unspent
    have known : path.getVert (place + 1) ∈ (state.nodes copy.receiver).peers := by
      rw [same.peers_eq, graphMesh.tables _ member, receiver]
      exact adjacent
    have notLocal : path.getVert (place + 1) ≠ (state.nodes copy.receiver).localPeerId := by
      rw [same.local_peer member, receiver]
      exact adjacent.ne.symm
    rcases relay_exists messageId content unspent known back notLocal with ⟨send, sent, target⟩
    rcases mem_relays sent with ⟨-, body, sendId, -⟩
    refine .inr ⟨send, relays ▸ sent, target, clampTtl ttl - 1, ?_, by omega⟩
    rw [transmit, body, sendId, parse_routed]

theorem wave_senders_step
    (senders : ∀ copy ∈ state.inFlight, (parseFrame copy.frame).floodId = some messageId →
      copy.sender = originator ∨ (state.nodes copy.sender).hasSeen messageId)
    (allowed : noExpiry state (.deliver index now again))
    (present : state.inFlight[index]? = some copy) (member : copy.receiver ∈ mesh.members)
    (budget : again → 0 < copy.retries) :
    ∀ other ∈ (state.process mesh index again copy (state.outcome now copy)).inFlight,
      (parseFrame other.frame).floodId = some messageId →
        other.sender = originator ∨
          ((state.process mesh index again copy (state.outcome now copy)).nodes
            other.sender).hasSeen messageId := by
  have moved : MeshMove mesh state (.deliver index now again) _ :=
    .delivered present member budget
  have known : ∀ other ∈ state.inFlight, (parseFrame other.frame).floodId = some messageId →
      other.sender = originator ∨ _ := fun other listed flooded =>
    (senders other listed flooded).imp_right (has_seen_step allowed moved)
  intro other listed flooded
  simp only [MeshState.process, List.mem_append, List.mem_map] at listed
  rcases listed with kept | ⟨send, sent, rfl⟩
  · rcases mem_remaining kept with old | rfl
    · exact known other old flooded
    · exact known copy (List.mem_of_getElem? present) flooded
  · rcases relays_one_hop sent with ⟨ownId, original, ttl, parsed, forwarded, -⟩
    simp only [transmit, forwarded, Frame.floodId, Option.some.injEq] at flooded
    subst flooded
    refine .inr ?_
    rw [transmit, process_nodes_self]
    refine (acts_first _ (allowed copy present) ?_).2
    simp [Dispatched.actsFor, parsed, Frame.floodId, List.ne_nil_of_mem sent]

theorem wave_progress_step (graphMesh : GraphMesh mesh graph) (simple : path.IsPath)
    (passes : PassesAlong prims content path)
    (wave : FloodWave mesh messageId content path state)
    (allowed : reliable state (.deliver index now again) ∧
      inTime messageId path state (.deliver index now again))
    (present : state.inFlight[index]? = some copy) (member : copy.receiver ∈ mesh.members)
    (budget : again → 0 < copy.retries) {place : Nat} (inside : place < path.length)
    (reached : place = 0 ∨ ((state.process mesh index again copy (state.outcome now copy)).nodes
      (path.getVert place)).hasSeen messageId) :
    ((state.process mesh index again copy (state.outcome now copy)).nodes
        (path.getVert (place + 1))).hasSeen messageId ∨
      ∃ other ∈ (state.process mesh index again copy (state.outcome now copy)).inFlight,
        Approaching messageId content path (place + 1) other := by
  have unexpired := allowed.1.1 copy present
  have listed := List.mem_of_getElem? present
  have moved : MeshMove mesh state (.deliver index now again) _ :=
    .delivered present member budget
  have seen_after : ∀ peer, (state.nodes peer).hasSeen messageId → _ := fun peer =>
    has_seen_step allowed.1.1 moved
  by_cases before : place = 0 ∨ (state.nodes (path.getVert place)).hasSeen messageId
  · rcases wave.progress place inside before with seen | ⟨other, inFlight, approaching⟩
    · exact .inl (seen_after _ seen)
    · by_cases processed : other = copy
      · subst processed
        have landed :=
          approaching_lands passes (by omega) wave.settings member unexpired approaching
        rw [← approaching.1, process_nodes_self]
        exact .inl landed
      · exact .inr
          ⟨other, List.mem_append_left _ (kept_of_ne present inFlight processed), approaching⟩
  · rcases not_or.mp before with ⟨notFirst, new⟩
    have seenNow := reached.resolve_left notFirst
    rcases newly_seen unexpired seenNow with old | ⟨receiver, flooded, marked⟩
    · exact absurd old new
    · rcases first_copy_passes graphMesh passes wave.settings (Nat.pos_of_ne_zero notFirst)
        inside receiver.symm allowed present (wave.copies copy listed) flooded
        (receiver ▸ new) marked with back | ⟨send, sent, approaching⟩
      · refine .inl (seen_after _ ?_)
        rcases wave.senders copy listed flooded with fromOriginator | seen
        · -- The next vertex of a simple path is not its first one.
          have clash : place + 1 = 0 := vertices_distinct simple inside (Nat.zero_le _)
            (by rw [back, fromOriginator, path.getVert_zero])
          omega
        · rwa [back]
      · exact .inr ⟨_, List.mem_append_right _ (List.mem_map_of_mem sent), approaching⟩

end Step

theorem wave_step (graphMesh : GraphMesh mesh graph) (simple : path.IsPath)
    (passes : PassesAlong prims content path) {label : MeshLabel}
    (wave : FloodWave mesh messageId content path state)
    (allowed : reliable state label ∧ inTime messageId path state label)
    (moved : MeshMove mesh state label next) : FloodWave mesh messageId content path next := by
  have settings := same_settings_step wave.settings moved
  have copies := carries_only_step wave.copies moved
  cases moved with
  | delivered present member budget =>
      exact ⟨settings, copies, wave_senders_step wave.senders allowed.1.1 present member budget,
        fun place inside reached => wave_progress_step graphMesh simple passes wave allowed
          present member budget inside reached⟩
  | lost inside => exact allowed.1.2.elim

structure Launched (messageId : UInt64) (sends : List Transmission) (state : MeshState prims) :
    Prop where
  submitted : ∀ copy ∈ sends, copy ∈ state.inFlight
  own : ∀ copy ∈ state.inFlight, (parseFrame copy.frame).floodId = some messageId → copy ∈ sends
  unseen : ∀ peer, ¬ (state.nodes peer).hasSeen messageId

/-- A launched flood is the start of a wave if its originator sends to the first node of
the path. The TTL it starts with lasts for eight hops. -/
theorem wave_starts {sends : List RouterSend} (short : path.length ≤ 8)
    (same : mesh.SameSettings state)
    (launched : Launched messageId (sends.map (transmit mesh.retries originator [])) state)
    (built : ∀ send ∈ sends, send.payload = content.body maxTtl ∧ send.messageId = messageId)
    (toward : ∃ send ∈ sends, send.peerId = path.getVert 1) :
    FloodWave mesh messageId content path state := by
  have parsed : ∀ send ∈ sends, parseFrame (transmit mesh.retries originator [] send).frame =
      .routed messageId content maxTtl := by
    intro send sent
    rcases built send sent with ⟨body, sendId⟩
    rw [transmit, body, sendId, parse_routed]
  refine ⟨same, ?_, ?_, ?_⟩
  · intro copy listed flooded
    obtain ⟨send, sent, rfl⟩ := List.mem_map.mp (launched.own copy listed flooded)
    exact ⟨maxTtl, parsed send sent⟩
  · intro copy listed flooded
    obtain ⟨send, -, rfl⟩ := List.mem_map.mp (launched.own copy listed flooded)
    exact .inl rfl
  · intro place inside reached
    rcases reached.resolve_right (launched.unseen _) with rfl
    obtain ⟨send, sent, target⟩ := toward
    refine .inr ⟨_, launched.submitted _ (List.mem_map_of_mem sent), target, maxTtl,
      parsed send sent, ?_⟩
    have seven : maxTtl.toNat = 7 := rfl
    omega

/-! ## What the end of the path makes of its first copy -/

/-- Some dispatch at the node has the property once the node has seen the flood. -/
def Handed (messageId : UInt64) (node : PeerId) (property : Dispatched → Prop)
    (state : MeshState prims) : Prop :=
  (state.nodes node).hasSeen messageId →
    ∃ entry ∈ state.history, entry.node = node ∧ property entry

/-- It is enough that the dispatch of the first recorded copy has the property. -/
theorem handed_step {node : PeerId} {property : Dispatched → Prop} {label : MeshLabel}
    (copies : ∀ copy ∈ state.inFlight, CarriesOnly messageId content copy)
    (first : ∀ copy now ttl, copy.receiver = node → copy.receiver ∈ mesh.members →
      (state.nodes copy.receiver).Unexpired now →
      parseFrame copy.frame = .routed messageId content ttl →
      ¬ (state.nodes copy.receiver).hasSeen messageId →
      (state.outcome now copy).node.hasSeen messageId →
      property { node := copy.receiver
                 copy := copy
                 delivered := (state.outcome now copy).delivered
                 relays := (state.outcome now copy).relays })
    (handed : Handed messageId node property state) (allowed : noExpiry state label)
    (moved : MeshMove mesh state label next) : Handed messageId node property next := by
  intro seen
  cases moved with
  | @delivered index now again copy present member budget =>
      by_cases before : (state.nodes node).hasSeen messageId
      · rcases handed before with ⟨entry, listed, held⟩
        exact ⟨entry, List.mem_append_left _ listed, held⟩
      · rcases newly_seen (allowed copy present) seen with old | ⟨here, flooded, marked⟩
        · exact absurd old before
        · obtain ⟨ttl, parsed⟩ := copies copy (List.mem_of_getElem? present) flooded
          exact ⟨_, List.mem_append_right _ (List.mem_singleton.mpr rfl), here.symm,
            first copy now ttl here.symm member (allowed copy present) parsed (here ▸ before)
              marked⟩
  | lost inside => exact handed seen

end Path

end Pathweave
