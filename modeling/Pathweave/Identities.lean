import Pathweave.ByteStrings

/-!
# Node identities and the primitives they rest on

A `PeerId` is the blake3 hash of a Curve25519 static public key, so an identity
cannot be built with a `PeerId` of another key. The hash, the base58 text, the
key derivation and the Noise_K message pattern are third-party code and stay
parameters; `UnsealUndoesSeal` and `KeyUnique` name what is relied on.
-/

namespace Pathweave

open ByteStrings

set_option autoImplicit false

inductive PathweaveError (Peer : Type) where
  | noTransportAvailable
  | deliveryFailed
  | transport (detail : String)
  | session (detail : String)
  | bundle (detail : String)
  | invalidKey
  | keyUnknown (peer : Peer)
  | io (detail : String)
  deriving DecidableEq, Repr

abbrev PublicKey := Octets 32

structure PeerId where
  octets : Octets 32
  deriving DecidableEq, Repr

def PeerId.asBytes (peer : PeerId) : Bytes := peer.octets.val

@[simp] theorem PeerId.asBytes_length (peer : PeerId) : peer.asBytes.length = 32 :=
  peer.octets.property

abbrev Error := PathweaveError PeerId

structure Primitives where
  blake3Hash : Bytes → Octets 32
  bs58Encode : Bytes → String
  x25519PublicKey : Octets 32 → PublicKey
  noiseKWrite (localPrivate : Octets 32) (remotePublic : PublicKey) (ephemeral payload : Bytes) :
    Except String Bytes
  noiseKRead (localPrivate : Octets 32) (remotePublic : PublicKey) (message : Bytes) :
    Except String Bytes

variable (prims : Primitives)

def peerIdFromPublicKey (publicKey : PublicKey) : PeerId :=
  ⟨prims.blake3Hash publicKey.val⟩

def PeerId.toBase58 (peer : PeerId) : String := prims.bs58Encode peer.asBytes

/-- Both constructors of the source derive the public key from the private
one and the `PeerId` from the public key. -/
structure NodeIdentity where
  privateKey : Octets 32
  publicKey : PublicKey
  peerId : PeerId
  derived : publicKey = prims.x25519PublicKey privateKey
  hashed : peerId = peerIdFromPublicKey prims publicKey

def NodeIdentity.fromBytes (privateKey : Bytes) : Except Error (NodeIdentity prims) :=
  if exact : privateKey.length = 32 then
    .ok {
      privateKey := ⟨privateKey, exact⟩
      publicKey := prims.x25519PublicKey ⟨privateKey, exact⟩
      peerId := peerIdFromPublicKey prims (prims.x25519PublicKey ⟨privateKey, exact⟩)
      derived := rfl
      hashed := rfl }
  else .error .invalidKey

variable {prims}

/-- One-shot Noise_K message to `destPublicKey`. The ephemeral key is drawn
inside the Noise library, so it is an argument here. -/
def sealPayload (identity : NodeIdentity prims) (destPublicKey : PublicKey)
    (ephemeral payload : Bytes) : Except Error Bytes :=
  match prims.noiseKWrite identity.privateKey destPublicKey ephemeral payload with
  | .ok message => .ok message
  | .error detail => .error (.session detail)

def unsealPayload (identity : NodeIdentity prims) (senderPeerId : PeerId)
    (senderPublicKey : PublicKey) (message : Bytes) : Except Error Bytes :=
  match prims.noiseKRead identity.privateKey senderPublicKey message with
  | .ok payload => .ok payload
  | .error detail =>
      .error (.session ("unseal failed for sender " ++ senderPeerId.toBase58 prims ++ ": " ++ detail))

variable (prims)

/-- What the Noise library documents of the pattern: the holder of the
destination key, given the sender's key, reads back what was written. -/
def UnsealUndoesSeal : Prop :=
  ∀ (sender dest : NodeIdentity prims) (ephemeral payload message : Bytes),
    prims.noiseKWrite sender.privateKey dest.publicKey ephemeral payload = .ok message →
      prims.noiseKRead dest.privateKey sender.publicKey message = .ok payload

/-- No other key hashes to the identity's `PeerId`: second-preimage resistance
of the hash in its idealised form. -/
def NodeIdentity.KeyUnique (identity : NodeIdentity prims) : Prop :=
  ∀ key, identity.peerId = peerIdFromPublicKey prims key → key = identity.publicKey

end Pathweave
