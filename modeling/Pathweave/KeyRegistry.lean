import Mathlib.Data.List.AList
import Pathweave.Identities

/-!
# Key registry

`KeyRegistryState` of the source: a map from `PeerId` to static public key, the
gossip-learned peers oldest first, and an optional size bound. The registry
itself checks no hash; `Bound` is the invariant that its callers maintain.
-/

namespace Pathweave

open ByteStrings

set_option autoImplicit false

structure KeyRegistryState where
  entries : AList (fun _ : PeerId => PublicKey)
  gossipOrder : List PeerId
  maxSize : Option Nat

namespace KeyRegistryState

def empty (maxSize : Option Nat) : KeyRegistryState where
  entries := ∅
  gossipOrder := []
  maxSize := maxSize

def get (registry : KeyRegistryState) (peer : PeerId) : Option PublicKey :=
  registry.entries.lookup peer

def remove (registry : KeyRegistryState) (peer : PeerId) : KeyRegistryState :=
  { registry with
    gossipOrder := registry.gossipOrder.filter (· ≠ peer)
    entries := registry.entries.erase peer }

/-- The flag says that the peer had no entry before the call. -/
def insertDirect (registry : KeyRegistryState) (peer : PeerId) (key : PublicKey) :
    KeyRegistryState × Bool :=
  ({ registry with
      gossipOrder := registry.gossipOrder.filter (· ≠ peer)
      entries := registry.entries.insert peer key },
    (registry.entries.lookup peer).isNone)

def appendGossip (registry : KeyRegistryState) (peer : PeerId) (key : PublicKey) :
    KeyRegistryState :=
  { registry with
    entries := registry.entries.insert peer key
    gossipOrder := registry.gossipOrder ++ [peer] }

def insertGossip (registry : KeyRegistryState) (peer : PeerId) (key : PublicKey) :
    KeyRegistryState :=
  if (registry.entries.lookup peer).isSome then
    -- Known already: a refresh in place, which cannot grow the registry.
    { registry with entries := registry.entries.insert peer key }
  else
    match registry.maxSize with
    | none => registry.appendGossip peer key
    | some max =>
        if max ≤ registry.entries.entries.length then
          match registry.gossipOrder with
          | oldest :: younger =>
              { registry with
                entries := registry.entries.erase oldest
                gossipOrder := younger }.appendGossip peer key
          | [] => registry
        else registry.appendGossip peer key

theorem get_remove (registry : KeyRegistryState) (peer other : PeerId) :
    (registry.remove peer).get other = if other = peer then none else registry.get other := by
  by_cases same : other = peer
  · subst same
    simp [get, remove]
  · simp [get, remove, same, AList.lookup_erase_ne same]

theorem get_insert_direct (registry : KeyRegistryState) (peer other : PeerId) (key : PublicKey) :
    (registry.insertDirect peer key).1.get other =
      if other = peer then some key else registry.get other := by
  by_cases same : other = peer
  · subst same
    simp [get, insertDirect]
  · simp [get, insertDirect, same, AList.lookup_insert_ne same]

theorem get_append_gossip (registry : KeyRegistryState) (peer other : PeerId) (key : PublicKey) :
    (registry.appendGossip peer key).get other =
      if other = peer then some key else registry.get other := by
  by_cases same : other = peer
  · subst same
    simp [get, appendGossip]
  · simp [get, appendGossip, same, AList.lookup_insert_ne same]

/-- Whatever branch a gossip insertion takes, every key it leaves behind is
either the announced one, under its own peer, or was there before. -/
theorem get_insert_gossip (registry : KeyRegistryState) (peer other : PeerId)
    (key found : PublicKey)
    (present : (registry.insertGossip peer key).get other = some found) :
    (other = peer ∧ found = key) ∨ registry.get other = some found := by
  have appended : ∀ base : KeyRegistryState,
      (∀ kept, base.get other = some kept → registry.get other = some kept) →
      (base.appendGossip peer key).get other = some found →
      (other = peer ∧ found = key) ∨ registry.get other = some found := by
    intro base older lookup
    rw [get_append_gossip] at lookup
    split_ifs at lookup with same
    · exact .inl ⟨same, (Option.some.inj lookup).symm⟩
    · exact .inr (older found lookup)
  unfold insertGossip at present
  split_ifs at present with known
  · by_cases same : other = peer
    · subst same
      simp only [get, AList.lookup_insert, Option.some.injEq] at present
      exact .inl ⟨rfl, present.symm⟩
    · simp only [get, AList.lookup_insert_ne same] at present
      exact .inr present
  · split at present
    · exact appended registry (fun _ kept => kept) present
    · split_ifs at present
      · split at present
        · rename_i oldest younger _
          refine appended _ ?_ present
          intro kept lookup
          by_cases evicted : other = oldest
          · subst evicted
            simp [get] at lookup
          · simpa [get, AList.lookup_erase_ne evicted] using lookup
        · exact .inr present
      · exact appended registry (fun _ kept => kept) present

/-- Every stored key hashes to the peer it is stored under. -/
def Bound (prims : Primitives) (registry : KeyRegistryState) : Prop :=
  ∀ peer key, registry.get peer = some key → peer = peerIdFromPublicKey prims key

variable {prims : Primitives} {registry : KeyRegistryState}

theorem bound_empty (maxSize : Option Nat) : Bound prims (empty maxSize) := by
  intro peer key present
  simp [get, empty] at present

theorem bound_remove (bound : Bound prims registry) (peer : PeerId) :
    Bound prims (registry.remove peer) := by
  intro other key present
  rw [get_remove] at present
  split_ifs at present
  exact bound other key present

theorem bound_insert_direct (bound : Bound prims registry) (key : PublicKey) :
    Bound prims (registry.insertDirect (peerIdFromPublicKey prims key) key).1 := by
  intro other found present
  rw [get_insert_direct] at present
  split_ifs at present with same
  · cases present
    exact same
  · exact bound other found present

theorem bound_insert_gossip (bound : Bound prims registry) (peer : PeerId) (key : PublicKey)
    (valid : peerIdFromPublicKey prims key = peer) :
    Bound prims (registry.insertGossip peer key) := by
  intro other found present
  rcases get_insert_gossip registry peer other key found present with ⟨same, rfl⟩ | older
  · rw [same, valid]
  · exact bound other found older

end KeyRegistryState

end Pathweave
