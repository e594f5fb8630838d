import Pathweave.MeshFlood
import Pathweave.TrySend

/-!
# Where a handshake fails

`Session::initiate` step by step, against a connection and a Noise library that may fail at
each of them. Both kinds of failure come back as one error, and `try_send` evicts the key it
asked for after either: a link that breaks during the handshake costs a key that was right.
-/

namespace Pathweave

open ByteStrings

set_option autoImplicit false

def protoXX : UInt8 := 0x00

def protoXK : UInt8 := 0x01

/-- What the Noise library and the connection do during one handshake. -/
structure HandshakeScript where
  /-- Building the state from the keys. -/
  built : Except String Unit
  firstMessage : Except String Bytes
  readSecond : Bytes → Except String Unit
  thirdMessage : Except String Bytes
  /-- The remote static key, once the state is in transport mode. -/
  finished : Except String PublicKey
  /-- The `send_bytes` calls by their number. -/
  sent : Nat → Bytes → Except Error Unit
  received : Except Error Bytes

/-- The steps of `initiate`, with the remote static key if all of them succeed. -/
def initiateSteps (script : HandshakeScript) (remoteKey : Option PublicKey) :
    Except HandshakeFailure PublicKey := do
  script.built.mapError .noise
  (script.sent 0 [if remoteKey.isSome then protoXK else protoXX]).mapError .link
  let first ← script.firstMessage.mapError .noise
  (script.sent 1 first).mapError .link
  let second ← script.received.mapError .link
  (script.readSecond second).mapError .noise
  let third ← script.thirdMessage.mapError .noise
  (script.sent 2 third).mapError .link
  script.finished.mapError .noise

/-- A party and the course of a handshake with it, by the key that is asked for. -/
structure ScriptedRemote where
  staticKey : PublicKey
  script : Option PublicKey → HandshakeScript
  revealed : ∀ remoteKey key, initiateSteps (script remoteKey) remoteKey = .ok key →
    key = staticKey
  /-- Noise completes an XK handshake only with the key that was asked for. -/
  asked : ∀ expected key, initiateSteps (script (some expected)) (some expected) = .ok key →
    key = expected

def ScriptedRemote.toRemote (remote : ScriptedRemote) : Remote where
  staticKey := remote.staticKey
  refusal remoteKey :=
    match initiateSteps (remote.script remoteKey) remoteKey with
    | .ok _ => none
    | .error failure => some failure
  authentic := by
    intro expected accepted
    cases completed : initiateSteps (remote.script (some expected)) (some expected) with
    | ok key =>
        exact (remote.asked expected key completed).symm.trans
          (remote.revealed (some expected) key completed)
    | error failure => simp [completed] at accepted

/-- The idealised handshake is the one in steps. -/
theorem initiate_scripted (prims : Primitives) (remote : ScriptedRemote)
    (remoteKey : Option PublicKey) :
    Session.initiate prims remote.toRemote remoteKey =
      (initiateSteps (remote.script remoteKey) remoteKey).map (Session.finish prims) := by
  cases completed : initiateSteps (remote.script remoteKey) remoteKey with
  | ok key =>
      have same := remote.revealed remoteKey key completed
      simp only [Session.initiate, ScriptedRemote.toRemote, completed, Except.map, same]
  | error failure =>
      simp only [Session.initiate, ScriptedRemote.toRemote, completed, Except.map]

def HandshakeScript.LinkFails (script : HandshakeScript) (error : Error) : Prop :=
  (∃ call bytes, script.sent call bytes = .error error) ∨ script.received = .error error

section Steps

variable {Value Result : Type} {next : Value → Except HandshakeFailure Result} {error : Error}

theorem noise_step_passed {step : Except String Value}
    (failed : (step.mapError .noise >>= next) = .error (.link error)) :
    ∃ value, next value = .error (.link error) := by
  cases step with
  | error detail => cases failed
  | ok value => exact ⟨value, failed⟩

theorem link_step_failed {step : Except Error Value}
    (failed : (step.mapError .link >>= next) = .error (.link error)) :
    step = .error error ∨ ∃ value, next value = .error (.link error) := by
  cases step with
  | error fault =>
      cases failed
      exact .inl rfl
  | ok value => exact .inr ⟨value, failed⟩

end Steps

theorem initiate_link_failure {script : HandshakeScript} {remoteKey : Option PublicKey}
    {error : Error} (failed : initiateSteps script remoteKey = .error (.link error)) :
    script.LinkFails error := by
  obtain ⟨-, failed⟩ := noise_step_passed failed
  rcases link_step_failed failed with lost | ⟨-, failed⟩
  · exact .inl ⟨_, _, lost⟩
  obtain ⟨first, failed⟩ := noise_step_passed failed
  rcases link_step_failed failed with lost | ⟨-, failed⟩
  · exact .inl ⟨_, _, lost⟩
  rcases link_step_failed failed with lost | ⟨second, failed⟩
  · exact .inr lost
  obtain ⟨-, failed⟩ := noise_step_passed failed
  obtain ⟨third, failed⟩ := noise_step_passed failed
  rcases link_step_failed failed with lost | ⟨-, failed⟩
  · exact .inl ⟨_, _, lost⟩
  cases ended : script.finished with
  | ok key =>
      rw [ended] at failed
      cases failed
  | error detail =>
      rw [ended] at failed
      cases failed

/-! ## What a broken link costs -/

section Broken

variable {keyRegistry : KeyRegistryState} {peerId : PeerId}

theorem remove_known_changes (known : keyRegistry.get peerId ≠ none) :
    keyRegistry.remove peerId ≠ keyRegistry := by
  intro same
  have gone := KeyRegistryState.get_remove keyRegistry peerId peerId
  rw [same, if_pos rfl] at gone
  exact known gone

/-- For every registry and every call whose handshake fails because the link does: the
registry is kept if and only if it has no key for the peer. -/
theorem link_failure_keeps_registry_iff (prims : Primitives) (peers : PeerTable)
    (payload : Bytes) (messageId : UInt64) {attempt : Attempt} {remote : ScriptedRemote}
    {error : Error} (connected : attempt.connect = .ok remote.toRemote)
    (failed : initiateSteps (remote.script (keyRegistry.get peerId)) (keyRegistry.get peerId) =
      .error (.link error)) :
    ∃ outcome, trySend prims keyRegistry peers peerId payload messageId attempt = .ok outcome ∧
      outcome.result = .error error ∧
      (outcome.keyRegistry = keyRegistry ↔ keyRegistry.get peerId = none) := by
  have refused : remote.toRemote.refusal (keyRegistry.get peerId) = some (.link error) := by
    simp only [ScriptedRemote.toRemote, failed]
  refine ⟨_, try_send_refused connected refused, rfl, ?_⟩
  cases known : keyRegistry.get peerId with
  | none => exact iff_of_true rfl rfl
  | some key =>
      refine iff_of_false (remove_known_changes ?_) ?_
      · simp [known]
      · simp

end Broken

def lostAfterPrefix : HandshakeScript where
  built := .ok ()
  firstMessage := .ok []
  readSecond _ := .ok ()
  thirdMessage := .ok []
  finished := .ok (samplePeer 2).octets
  sent call _ := if call = 0 then .ok () else .error (.transport "connection lost")
  received := .error (.transport "connection lost")

theorem lost_after_prefix_fails (remoteKey : Option PublicKey) :
    initiateSteps lostAfterPrefix remoteKey = .error (.link (.transport "connection lost")) := rfl

def unreachedPeer : ScriptedRemote where
  staticKey := (samplePeer 2).octets
  script _ := lostAfterPrefix
  revealed := by
    intro remoteKey key completed
    rw [lost_after_prefix_fails] at completed
    cases completed
  asked := by
    intro expected key completed
    rw [lost_after_prefix_fails] at completed
    cases completed

def lostConnection : Attempt where
  connect := .ok unreachedPeer.toRemote
  localAddresses := []
  exchangeLink := none
  exchangeReply := .timedOut
  frameLink := none
  ackReply := .timedOut

/-- Without a key for peer 2 nothing is lost with the connection. -/
theorem lost_connection_keeps_others :
    ∃ outcome, trySend clearPrimitives (keysOf [3]) ∅ (samplePeer 2) [42] 5 lostConnection =
      .ok outcome ∧ outcome.keyRegistry = keysOf [3] := by
  have unknown : (keysOf [3]).get (samplePeer 2) = none := by decide +kernel
  obtain ⟨outcome, tried, -, kept⟩ := link_failure_keeps_registry_iff clearPrimitives ∅ [42] 5
    (show lostConnection.connect = _ from rfl) (lost_after_prefix_fails ((keysOf [3]).get
      (samplePeer 2)))
  exact ⟨outcome, tried, kept.mpr unknown⟩

/-- The key of peer 2, known directly, is gone after one broken connection, and a sealed send
to peer 2 fails. -/
theorem lost_connection_evicts_key :
    (keysOf [2]).get (samplePeer 2) = some (samplePeer 2).octets ∧
    initiateSteps (unreachedPeer.script (some (samplePeer 2).octets))
      (some (samplePeer 2).octets) = .error (.link (.transport "connection lost")) ∧
    ∃ outcome, trySend clearPrimitives (keysOf [2]) ∅ (samplePeer 2) [42] 5 lostConnection =
        .ok outcome ∧
      outcome.keyRegistry ≠ keysOf [2] ∧
      ∀ accepted entropy payload ephemeral,
        (sendRoutedSealed { sampleNode 1 [2] [] with keyRegistry := outcome.keyRegistry } accepted
          entropy (samplePeer 2) payload ephemeral).2 = .error (.keyUnknown (samplePeer 2)) := by
  have known : (keysOf [2]).get (samplePeer 2) = some (samplePeer 2).octets := by decide +kernel
  have refused : unreachedPeer.toRemote.refusal ((keysOf [2]).get (samplePeer 2)) =
      some (.link (.transport "connection lost")) := rfl
  refine ⟨known, rfl, _, try_send_refused rfl refused, ?_, ?_⟩
  · exact remove_known_changes (by simp [known])
  · intro accepted entropy payload ephemeral
    have gone : ((keysOf [2]).remove (samplePeer 2)).get (samplePeer 2) = none := by
      rw [KeyRegistryState.get_remove, if_pos rfl]
    simp only [sendRoutedSealed, withoutSession, known, Option.isSome_some, if_true, gone]

end Pathweave
