import Mathlib.Data.Finset.Image
import Pathweave.MeshFlood

/-!
# A network that can be evaluated

Instances for concrete runs: primitives that hide nothing but satisfy what is
assumed of the real ones, peers numbered by one byte, and the mesh of a list of
links between them.
-/

namespace Pathweave

open ByteStrings

set_option autoImplicit false

def clearPrimitives : Primitives where
  blake3Hash bytes :=
    if exact : bytes.length = 32 then ⟨bytes, exact⟩ else ⟨List.replicate 32 0, by simp⟩
  bs58Encode bytes := toString (bytes.headD 0)
  x25519PublicKey privateKey := privateKey
  noiseKWrite _ _ _ payload := .ok payload
  noiseKRead _ _ message := .ok message

theorem clear_peer_id (publicKey : PublicKey) :
    peerIdFromPublicKey clearPrimitives publicKey = ⟨publicKey⟩ := by
  simp [peerIdFromPublicKey, clearPrimitives, publicKey.property]

def samplePeer (number : UInt8) : PeerId := ⟨⟨number :: List.replicate 31 0, by simp⟩⟩

def sampleNumber (peer : PeerId) : UInt8 := peer.octets.val.headD 0

def sampleIdentity (number : UInt8) : NodeIdentity clearPrimitives where
  privateKey := (samplePeer number).octets
  publicKey := (samplePeer number).octets
  peerId := samplePeer number
  derived := rfl
  hashed := (clear_peer_id _).symm

def tableOf (numbers : List UInt8) : PeerTable :=
  numbers.foldr (fun number table => table.insert (samplePeer number) []) ∅

def keysOf (numbers : List UInt8) : KeyRegistryState :=
  numbers.foldr
    (fun number registry =>
      (registry.insertDirect (samplePeer number) (samplePeer number).octets).1)
    (.empty none)

theorem keysOf_bound (numbers : List UInt8) :
    KeyRegistryState.Bound clearPrimitives (keysOf numbers) := by
  induction numbers with
  | nil => exact KeyRegistryState.bound_empty none
  | cons number rest ih =>
      have inserted := KeyRegistryState.bound_insert_direct ih (samplePeer number).octets
      rwa [clear_peer_id] at inserted

theorem sample_key_unique (number : UInt8) : (sampleIdentity number).KeyUnique := by
  intro key same
  rw [clear_peer_id] at same
  exact (PeerId.mk.inj same).symm

theorem clear_unseal_undoes_seal : UnsealUndoesSeal clearPrimitives := by
  intro sender dest ephemeral payload message written
  cases written
  rfl

def sampleNode (number : UInt8) (neighbors keys : List UInt8) : NodeState clearPrimitives where
  identity := sampleIdentity number
  dedup := .new
  handlerRegistered := true
  peers := tableOf neighbors
  keyRegistry := keysOf keys

def linked (links : List (UInt8 × UInt8)) (number other : UInt8) : Bool :=
  links.contains (number, other) || links.contains (other, number)

def sampleMesh (numbers : List UInt8) (links : List (UInt8 × UInt8)) : Mesh clearPrimitives where
  members := (numbers.map samplePeer).toFinset
  nodes peer :=
    sampleNode (sampleNumber peer) (numbers.filter (linked links (sampleNumber peer))) numbers
  placed := by
    intro peer listed
    obtain ⟨number, -, rfl⟩ := List.mem_map.mp (List.mem_toFinset.mp listed)
    rfl
  retries := 1

def sampleEntropy : Octets 8 := ⟨[0, 0, 0, 0, 0, 0, 0, 7], rfl⟩

theorem mem_tableOf {numbers : List UInt8} {peer : PeerId} :
    peer ∈ tableOf numbers ↔ peer ∈ numbers.map samplePeer := by
  induction numbers with
  | nil => simp [tableOf]
  | cons number rest ih =>
      simp only [tableOf, List.foldr_cons, AList.mem_insert, List.map_cons, List.mem_cons]
      rw [← ih]
      rfl

end Pathweave
