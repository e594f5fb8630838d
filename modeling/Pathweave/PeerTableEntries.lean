import Mathlib.Data.Finset.Card
import Pathweave.NodeTasks

/-!
# Addresses in the peer table

Five writers add announcements to a peer's entry. Four of them look for the address
first; discovery relies on the set of known addresses instead, which departures
shrink and which address exchange never updates. The entries are free of repeated
addresses as long as discovery happens to push only addresses that are not listed.
-/

namespace Pathweave

open ByteStrings GuardedRuns

set_option autoImplicit false

variable {prims : Primitives}

def listedAddresses (announcements : List PeerAnnouncement) : List PeerAddress :=
  announcements.map PeerAnnouncement.address

/-- What the table lists for a peer; an absent entry lists nothing. -/
def announcementsOf (peers : PeerTable) (peer : PeerId) : List PeerAnnouncement :=
  (peers.lookup peer).getD []

def Lists (peers : PeerTable) (peer : PeerId) (address : PeerAddress) : Prop :=
  address ∈ listedAddresses (announcementsOf peers peer)

def UniqueAddresses (peers : PeerTable) : Prop :=
  ∀ peer, (listedAddresses (announcementsOf peers peer)).Nodup

/-! ## The writers -/

theorem announcements_of_insert (peers : PeerTable) (peer other : PeerId)
    (announcements : List PeerAnnouncement) :
    announcementsOf (peers.insert peer announcements) other =
      if other = peer then announcements else announcementsOf peers other :=
  lookup_insert_getD peers peer other announcements

theorem listed_push_announcement {known : List PeerAnnouncement} {announcement : PeerAnnouncement}
    {address : PeerAddress} :
    address ∈ listedAddresses (pushAnnouncement known announcement) ↔
      address ∈ listedAddresses known ∨ address = announcement.address := by
  unfold pushAnnouncement
  split_ifs with listed
  · obtain ⟨other, member, same⟩ := List.any_eq_true.mp listed
    have present : announcement.address ∈ listedAddresses known :=
      List.mem_map.mpr ⟨other, member, of_decide_eq_true same⟩
    constructor
    · exact .inl
    · rintro (old | rfl)
      · exact old
      · exact present
  · simp [listedAddresses]

theorem listed_push_addresses (addresses : List PeerAddress) {known : List PeerAnnouncement}
    {address : PeerAddress} :
    address ∈ listedAddresses (addresses.foldl
        (fun known address => pushAnnouncement known ⟨address, none⟩) known) ↔
      address ∈ listedAddresses known ∨ address ∈ addresses := by
  induction addresses generalizing known with
  | nil => simp
  | cons first rest induction =>
      rw [List.foldl_cons, induction, listed_push_announcement, List.mem_cons, or_assoc]

theorem lists_insert {peers : PeerTable} {peer other : PeerId} {address : PeerAddress}
    {announcements : List PeerAnnouncement} (added : List PeerAddress)
    (grown : address ∈ listedAddresses announcements ↔
      address ∈ listedAddresses (announcementsOf peers peer) ∨ address ∈ added) :
    Lists (peers.insert peer announcements) other address ↔
      Lists peers other address ∨ (other, address) ∈ added.map fun claimed => (peer, claimed) := by
  unfold Lists
  rw [announcements_of_insert]
  split_ifs with same
  · subst same
    rw [grown]
    simp
  · simp [Ne.symm same]

theorem lists_upserted {peers : PeerTable} {peer other : PeerId} {address : PeerAddress}
    (addresses : List PeerAddress) :
    Lists (upsertPeerAddresses peers peer addresses) other address ↔
      Lists peers other address ∨ (other, address) ∈ addresses.map fun claimed => (peer, claimed) :=
  lists_insert addresses (listed_push_addresses addresses)

theorem lists_announced {peers : PeerTable} {peer other : PeerId} {address : PeerAddress}
    (announcement : PeerAnnouncement) :
    Lists (listAnnouncement peers peer announcement) other address ↔
      Lists peers other address ∨ (other, address) ∈ [(peer, announcement.address)] :=
  lists_insert [announcement.address] (by
    rw [listed_push_announcement, List.mem_singleton]
    rfl)

theorem lists_discovered {peers : PeerTable} {peer other : PeerId} {address : PeerAddress}
    (announcement : PeerAnnouncement) :
    Lists (pushDiscovered peers peer announcement) other address ↔
      Lists peers other address ∨ (other, address) ∈ [(peer, announcement.address)] :=
  lists_insert [announcement.address] (by
    simp [listedAddresses, announcementsOf])

theorem unique_insert {peers : PeerTable} {peer : PeerId} {announcements : List PeerAnnouncement}
    (unique : UniqueAddresses peers) (entry : (listedAddresses announcements).Nodup) :
    UniqueAddresses (peers.insert peer announcements) := by
  intro other
  rw [announcements_of_insert]
  split_ifs
  · exact entry
  · exact unique other

theorem nodup_append_unlisted {known : List PeerAnnouncement} {announcement : PeerAnnouncement}
    (unique : (listedAddresses known).Nodup)
    (unlisted : announcement.address ∉ listedAddresses known) :
    (listedAddresses (known ++ [announcement])).Nodup := by
  unfold listedAddresses at unique unlisted ⊢
  rw [List.map_append]
  apply List.Nodup.append unique (List.nodup_singleton _)
  intro address old new
  cases List.mem_singleton.mp new
  exact unlisted old

theorem nodup_push_announcement {known : List PeerAnnouncement}
    (unique : (listedAddresses known).Nodup) (announcement : PeerAnnouncement) :
    (listedAddresses (pushAnnouncement known announcement)).Nodup := by
  unfold pushAnnouncement
  split_ifs with listed
  · exact unique
  · apply nodup_append_unlisted unique
    intro present
    obtain ⟨other, member, same⟩ := List.mem_map.mp present
    exact listed (List.any_eq_true.mpr ⟨other, member, decide_eq_true same⟩)

theorem nodup_push_addresses (addresses : List PeerAddress) {known : List PeerAnnouncement}
    (unique : (listedAddresses known).Nodup) :
    (listedAddresses (addresses.foldl
      (fun known address => pushAnnouncement known ⟨address, none⟩) known)).Nodup := by
  induction addresses generalizing known with
  | nil => exact unique
  | cons address rest ih =>
      apply ih
      exact nodup_push_announcement unique ⟨address, none⟩

theorem unique_merge_exchanged {peers : PeerTable} (unique : UniqueAddresses peers) (peer : PeerId)
    (exchanged : Option (List PeerAddress)) :
    UniqueAddresses (mergeExchanged peers peer exchanged) := by
  cases exchanged with
  | none => exact unique
  | some addresses => exact unique_insert unique (nodup_push_addresses addresses (unique peer))

theorem unique_list_announcement {peers : PeerTable} (unique : UniqueAddresses peers)
    (peer : PeerId) (announcement : PeerAnnouncement) :
    UniqueAddresses (listAnnouncement peers peer announcement) :=
  unique_insert unique (nodup_push_announcement (unique peer) announcement)

theorem unique_push_discovered {peers : PeerTable} {peer : PeerId}
    {announcement : PeerAnnouncement} (unique : UniqueAddresses peers)
    (unlisted : announcement.address ∉ listedAddresses (announcementsOf peers peer)) :
    UniqueAddresses (pushDiscovered peers peer announcement) :=
  unique_insert unique (nodup_append_unlisted (unique peer) unlisted)

/-! ## Runs -/

def discoveredPush (state : NodeWorld prims) : NodeLabel → Option (PeerId × PeerAnnouncement)
  | .proceed index =>
      match state.tasks[index]? with
      | some (.connected (.discovery announcement) session _) =>
          if session.peerId = state.node.localPeerId then none
          else some (session.peerId, announcement)
      | _ => none
  | _ => none

/-- A discovered address is pushed only to an entry that does not list it. -/
def discoversUnlisted (state : NodeWorld prims) (label : NodeLabel) : Prop :=
  ∀ push ∈ discoveredPush state label,
    push.2.address ∉ listedAddresses (announcementsOf state.node.peers push.1)

instance (state : NodeWorld prims) (label : NodeLabel) :
    Decidable (discoversUnlisted state label) :=
  inferInstanceAs (Decidable (∀ push ∈ discoveredPush state label, _))

theorem unique_step {state next : NodeWorld prims} {label : NodeLabel}
    (unique : UniqueAddresses state.node.peers) (allowed : discoversUnlisted state label)
    (taken : nodeStep state label = some next) : UniqueAddresses next.node.peers := by
  cases node_step_moves taken with
  | exchanged present => exact unique_merge_exchanged unique _ _
  | connectExchanged present => exact unique_merge_exchanged unique _ _
  | introduced present => exact unique_merge_exchanged unique _ _
  | listed present => exact unique_list_announcement unique _ _
  | discovered present other =>
      apply unique_push_discovered unique
      exact allowed (_, _) (by simp [discoveredPush, present, other])
  | dispatched present serves later =>
      dsimp only
      rw [(frame_outcome_setting ..).peers]
      exact unique
  | _ => exact unique

/-- While discovery pushes only unlisted addresses, no entry of the peer table lists an
address twice, so no entry outgrows the set of addresses ever announced. -/
theorem peer_entries_unique {identity : NodeIdentity prims} {maxKeyRegistrySize : Option Nat}
    {labels : List NodeLabel} {state : NodeWorld prims}
    (run : Run nodeStep discoversUnlisted (.start identity ∅ maxKeyRegistrySize) labels state) :
    UniqueAddresses state.node.peers ∧
      ∀ (peer : PeerId) (announced : Finset PeerAddress),
        (∀ address ∈ listedAddresses (announcementsOf state.node.peers peer),
          address ∈ announced) →
        (announcementsOf state.node.peers peer).length ≤ announced.card := by
  have unique : UniqueAddresses state.node.peers := by
    apply run_invariant (fun state : NodeWorld prims => UniqueAddresses state.node.peers) _ run
    · intro peer
      exact List.nodup_nil
    · intro before label after held allowed taken
      exact unique_step held allowed taken
  apply And.intro unique
  intro peer announced listed
  calc (announcementsOf state.node.peers peer).length
      = (listedAddresses (announcementsOf state.node.peers peer)).length := by
        rw [listedAddresses, List.length_map]
    _ = (listedAddresses (announcementsOf state.node.peers peer)).toFinset.card :=
        (List.toFinset_card_of_nodup (unique peer)).symm
    _ ≤ announced.card := by
        apply Finset.card_le_card
        intro address member
        exact listed address (List.mem_toFinset.mp member)

/-! ## Discovery of a peer that lists its own address -/

def sampleAddress (port : UInt16) : PeerAddress := .quic (.v4 ⟨[10, 0, 0, 2], rfl⟩ port)

def sampleAnnouncement (port : UInt16) : PeerAnnouncement := ⟨sampleAddress port, none⟩

/-- Peer 1 discovers peer 2 at port 1, and peer 2 answers the address exchange. -/
def discoveryOf (exchanged : List PeerAddress) : List NodeLabel :=
  [.arrival (sampleAnnouncement 1), .handshake 0 (sampleRemote 2),
    .exchange 0 (.bytes (encodeAddrExchange exchanged)), .proceed 0, .proceed 0]

theorem peer_entries_unique_two_addresses :
    ∃ state, Run nodeStep discoversUnlisted freshNode (discoveryOf [sampleAddress 2]) state ∧
      (announcementsOf state.node.peers (samplePeer 2)).length = 2 ∧
      UniqueAddresses state.node.peers := by
  have finished : ((execute (fun state label =>
      if discoversUnlisted state label then nodeStep state label else none)
        freshNode (discoveryOf [sampleAddress 2])).map fun state =>
          (announcementsOf state.node.peers (samplePeer 2)).length) = some 2 := by
    decide +kernel
  obtain ⟨state, reached, found⟩ := Option.map_eq_some_iff.mp finished
  have run := run_of_execute_guarded reached
  exact ⟨state, run, found, (peer_entries_unique run).1⟩

def AlwaysUnique : Prop :=
  ∀ (prims : Primitives) (identity : NodeIdentity prims) (maxKeyRegistrySize : Option Nat)
    (labels : List NodeLabel) (state : NodeWorld prims),
    Run nodeStep anyStep (.start identity ∅ maxKeyRegistrySize) labels state →
    UniqueAddresses state.node.peers

/-- The exchange inside `try_connect` lists the address, and discovery pushes it again. -/
theorem discovered_address_listed_twice : ¬ AlwaysUnique := by
  intro always
  have finished : ((execute nodeStep freshNode (discoveryOf [sampleAddress 1])).map fun state =>
      listedAddresses (announcementsOf state.node.peers (samplePeer 2))) =
      some [sampleAddress 1, sampleAddress 1] := by
    decide +kernel
  obtain ⟨state, reached, found⟩ := Option.map_eq_some_iff.mp finished
  have unique := always _ _ _ _ state (run_of_execute reached) (samplePeer 2)
  rw [found] at unique
  simp at unique

end Pathweave
