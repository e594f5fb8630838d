import Pathweave.Identities

/-!
# Noise sessions

The Noise library is idealised. A remote party has one static key; a completed
handshake reveals that key, and a handshake in the XK pattern completes only with
the holder of the key the initiator asked for. Everything else about the party,
in particular when it lets a handshake fail, is arbitrary.
-/

namespace Pathweave

open ByteStrings

set_option autoImplicit false

inductive Role where
  | initiator
  | responder
  deriving DecidableEq

def Role.other : Role → Role
  | .initiator => .responder
  | .responder => .initiator

def noiseMsgMax : Nat := 65535

/-- An initiator's handshake ends early because the connection fails or because
Noise rejects what it read. -/
inductive HandshakeFailure where
  | link (error : Error)
  | noise (detail : String)

def HandshakeFailure.toError : HandshakeFailure → Error
  | .link error => error
  | .noise detail => .session detail

structure Remote where
  staticKey : PublicKey
  /-- Why the handshake fails, by the key the initiator asks for. -/
  refusal : Option PublicKey → Option HandshakeFailure
  authentic : ∀ expected, refusal (some expected) = none → expected = staticKey

variable (prims : Primitives)

structure Session where
  peerId : PeerId
  remoteStaticKey : PublicKey
  bound : peerId = peerIdFromPublicKey prims remoteStaticKey

def Session.finish (remoteStaticKey : PublicKey) : Session prims where
  peerId := peerIdFromPublicKey prims remoteStaticKey
  remoteStaticKey := remoteStaticKey
  bound := rfl

/-- `remoteKey` selects XK, its absence XX. -/
def Session.initiate (remote : Remote) (remoteKey : Option PublicKey) :
    Except HandshakeFailure (Session prims) :=
  match remote.refusal remoteKey with
  | some failure => .error failure
  | none => .ok (Session.finish prims remote.staticKey)

/-- Whether one Noise transport message can hold the plaintext and its tag. -/
def fitsSession (plaintext : Bytes) : Bool := plaintext.length + 16 ≤ noiseMsgMax

/-- Sending on a session: the Noise library refuses an oversized message, and
the connection may fail. -/
def sessionSend (link : Option Error) (plaintext : Bytes) : Except Error Unit :=
  if fitsSession plaintext then
    match link with
    | some error => .error error
    | none => .ok ()
  else .error (.session "input error")

inductive Received where
  | bytes (received : Bytes)
  | failed (error : Error)
  | timedOut

end Pathweave
