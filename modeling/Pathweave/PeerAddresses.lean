import Mathlib.Data.List.AList
import Pathweave.Identities

/-!
# Peer addresses and the peer table

Addresses of the four transports, announcements, and the table that maps a
`PeerId` to the addresses it is reachable at. `upsertPeerAddresses` creates the
entry even when no address is added to it, as the source does.
-/

namespace Pathweave

open ByteStrings

set_option autoImplicit false

inductive SocketAddr where
  | v4 (ip : Octets 4) (port : UInt16)
  | v6 (ip : Octets 16) (port : UInt16) (flowInfo scopeId : UInt32)
  deriving DecidableEq, Repr

inductive TransportKind where
  | quic
  | ble
  | wifiDirect
  | bleAdvertising
  deriving DecidableEq, Repr

inductive PeerAddress where
  | quic (address : SocketAddr)
  | ble (id : String)
  | wifiDirect (id : String)
  | bleAdvertising (id : String)
  deriving DecidableEq, Repr

def PeerAddress.kind : PeerAddress → TransportKind
  | .quic _ => .quic
  | .ble _ => .ble
  | .wifiDirect _ => .wifiDirect
  | .bleAdvertising _ => .bleAdvertising

structure PeerAnnouncement where
  address : PeerAddress
  shortId : Option (Octets 8)
  deriving DecidableEq, Repr

abbrev PeerTable := AList (fun _ : PeerId => List PeerAnnouncement)

theorem lookup_insert_getD {Value : Type*} (map : AList fun _ : PeerId => List Value)
    (key other : PeerId) (values : List Value) :
    ((map.insert key values).lookup other).getD [] =
      if other = key then values else (map.lookup other).getD [] := by
  split_ifs with same
  · subst same
    simp
  · rw [AList.lookup_insert_ne same]

def pushAnnouncement (known : List PeerAnnouncement) (announcement : PeerAnnouncement) :
    List PeerAnnouncement :=
  if known.any (fun listed => listed.address = announcement.address) then known
  else known ++ [announcement]

def upsertPeerAddresses (peers : PeerTable) (peer : PeerId) (addresses : List PeerAddress) :
    PeerTable :=
  peers.insert peer
    (addresses.foldl (fun known address => pushAnnouncement known ⟨address, none⟩)
      ((peers.lookup peer).getD []))

/-- `connect` and `add_peer`. -/
def listAnnouncement (peers : PeerTable) (peer : PeerId) (announcement : PeerAnnouncement) :
    PeerTable :=
  peers.insert peer (pushAnnouncement ((peers.lookup peer).getD []) announcement)

/-- `peer_stream` pushes the announcement without looking for its address. -/
def pushDiscovered (peers : PeerTable) (peer : PeerId) (announcement : PeerAnnouncement) :
    PeerTable :=
  peers.insert peer ((peers.lookup peer).getD [] ++ [announcement])

/-- The peers a node floods to: every key of its table but the excluded ones,
each with the addresses it is dialled at. -/
def neighborsExcept (peers : PeerTable) (excluded : List PeerId) :
    List (PeerId × List PeerAnnouncement) :=
  (peers.entries.filter fun entry => entry.1 ∉ excluded).map fun entry => (entry.1, entry.2)

theorem mem_neighbors_except {peers : PeerTable} {excluded : List PeerId} {peer : PeerId} :
    peer ∈ (neighborsExcept peers excluded).map Prod.fst ↔ peer ∈ peers ∧ peer ∉ excluded := by
  simp only [neighborsExcept, List.map_map, List.mem_map, List.mem_filter, Function.comp_apply,
    decide_eq_true_eq, AList.mem_keys, AList.keys, List.keys]
  constructor
  · intro given
    rcases given with ⟨entry, ⟨listed, kept⟩, rfl⟩
    exact ⟨⟨entry, listed, rfl⟩, kept⟩
  · intro given
    rcases given with ⟨⟨entry, listed, rfl⟩, kept⟩
    exact ⟨entry, ⟨listed, kept⟩, rfl⟩

theorem neighbors_except_nodup (peers : PeerTable) (excluded : List PeerId) :
    ((neighborsExcept peers excluded).map Prod.fst).Nodup := by
  have kept : ((peers.entries.filter fun entry => entry.1 ∉ excluded).map Sigma.fst).Sublist
      peers.keys := List.Sublist.map _ List.filter_sublist
  rw [neighborsExcept, List.map_map]
  exact peers.keys_nodup.sublist kept

theorem neighbors_except_length_le (peers : PeerTable) (excluded : List PeerId) :
    (neighborsExcept peers excluded).length ≤ peers.keys.length := by
  simp only [neighborsExcept, List.length_map, AList.keys, List.keys]
  exact List.length_filter_le _ _

end Pathweave
